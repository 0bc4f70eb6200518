import Airlink.Backlog

/-!
# Sessions on a backlog

Callbacks of a drain step may work on the queue that is being drained, and so on to any depth. A
`Step` is one operation on a queue together with everything that happens inside its callbacks: for
each submission in turn a `Visit`, which holds the answer of the transport and the steps taken
inside the two callbacks. Submissions beyond the listed visits succeed and their callbacks do
nothing.

A `Journal` says what is written down while steps are taken. With the journal `reports`, running
steps gives for each a `Report` of what it answered and of the callbacks made.
-/

namespace Airlink.Backlog

/-- What the transport says to a frame. -/
inductive Reply where
  | ok
  | busy
  | fail (reason : String)
  deriving DecidableEq, Repr

/-- The answer that gives a frame back with a reply. -/
def Reply.toSubmission (buf : Buffer) : Reply → Submission
  | .ok => .success buf
  | .busy => .busy buf
  | .fail reason => .failure buf reason

mutual

/-- An operation on a queue. -/
inductive Step where
  | enqueue (buf : Buffer)
  /-- Reads the number of waiting frames. -/
  | pending
  | clear
  | drainOne (visits : List Visit)
  | tryDrain (visits : List Visit)

/-- One submission: the reply, and the steps taken inside the callbacks. -/
inductive Visit where
  | mk (reply : Reply) (inSubmit inComplete : List Step)

end

/-- What an operation answers. -/
inductive Answer where
  | done
  | count (n : Nat)
  | frames (bufs : List Buffer)
  | step (s : DrainStep)
  deriving DecidableEq, Repr

mutual

/-- What an operation answered, the callbacks it made, and the number of frames waiting then. -/
inductive Report where
  | mk (answer : Answer) (log : List Callback) (pending : Nat)

/-- A callback that was made, the steps taken inside it, and the number of frames waiting at its
end. -/
inductive Callback where
  | submit (buf : Buffer) (reply : Reply) (nested : List Report) (pending : Nat)
  | complete (buf : Buffer) (status : TxStatus) (nested : List Report) (pending : Nat)

end

/-! ## Journals -/

/-- What is written down of a session: an entry of type `ρ` for each step and one of type `κ` for
each callback. -/
structure Journal (ρ κ : Type) where
  /-- From the step, its answer, the entries of the callbacks made and the queue after it. -/
  step : Step → Answer → List κ → Backlog → ρ
  /-- From the frame, the reply, the entries of the steps inside, and the queue before and after
  them. -/
  submit : Buffer → Reply → List ρ → Backlog → Backlog → κ
  /-- From the frame, its status, the entries of the steps inside, and the queue before and after
  them. -/
  complete : Buffer → TxStatus → List ρ → Backlog → Backlog → κ

/-- The journal of reports. -/
def reports : Journal Report Callback where
  step _ answer log q := .mk answer log q.pending
  submit buf reply nested _ q := .submit buf reply nested q.pending
  complete buf status nested _ q := .complete buf status nested q.pending

variable {ρ κ : Type} (j : Journal ρ κ)

/-- The callbacks that take the given steps, and write themselves down. -/
def callbacks (reply : Reply) (inSubmit inComplete : Backlog → List ρ × Backlog) :
    Callbacks (List κ) where
  submit buf q log :=
    let (nested, q') := inSubmit q
    (reply.toSubmission buf, q', log ++ [j.submit buf reply nested q q'])
  complete buf status q log :=
    let (nested, q') := inComplete q
    (q', log ++ [j.complete buf status nested q q'])

/-- The callbacks of a submission that succeeds and whose callbacks take no steps. -/
def idle : Callbacks (List κ) := callbacks j .ok (fun q => ([], q)) (fun q => ([], q))

mutual

/-- Takes a step. -/
def takeStep : Step → Backlog → ρ × Backlog
  | .enqueue buf, q =>
    let q := q.enqueue buf
    (j.step (.enqueue buf) .done [] q, q)
  | .pending, q => (j.step .pending (.count q.pending) [] q, q)
  | .clear, q =>
    let (bufs, q) := q.clear
    (j.step .clear (.frames bufs) [] q, q)
  | .drainOne visits, q =>
    let (step, q, log) := drainHead visits q
    (j.step (.drainOne visits) (.step step) log q, q)
  | .tryDrain visits, q =>
    let (n, q, log) := drainVisits visits q []
    (j.step (.tryDrain visits) (.count n) log q, q)

/-- Takes steps one after the other. -/
def takeSteps : List Step → Backlog → List ρ × Backlog
  | [], q => ([], q)
  | s :: ss, q =>
    let (r, q) := takeStep s q
    let (rs, q) := takeSteps ss q
    (r :: rs, q)

/-- The callbacks of a visit. -/
def visitCallbacks : Visit → Callbacks (List κ)
  | .mk reply inSubmit inComplete =>
    callbacks j reply (fun q => takeSteps inSubmit q) (fun q => takeSteps inComplete q)

/-- A drain step whose submission is the first visit. -/
def drainHead : List Visit → Backlog → DrainStep × Backlog × List κ
  | [], q => drainOne (idle j) q []
  | v :: _, q => drainOne (visitCallbacks v) q []

/-- Drain steps whose submissions are the visits in turn. -/
def drainVisits : List Visit → Backlog → List κ → Nat × Backlog × List κ
  | [], q, log => tryDrain (idle j) q log
  | v :: vs, q, log =>
    match drainOne (visitCallbacks v) q log with
    | (.retired, q, log) =>
      let (n, q, log) := drainVisits vs q log
      (n + 1, q, log)
    | (_, q, log) => (0, q, log)

end

/-- Takes steps one after the other and reports them. -/
def runSteps : List Step → Backlog → List Report × Backlog := takeSteps reports

end Airlink.Backlog
