import Airlink.Backlog.Session

/-!
# The moments of a session

A session on a backlog is spread out into its moments: an operation is done, a callback starts, a
callback ends. A moment shows the queue as anybody could find it then, and the moments of nested
operations stand between the start and the end of the callback in which they are made.

A `History` sums up the moments so far: which frames entered, which were retired or cleared, which
are out with the transport, and how many callbacks are under way. `Follows` says which moments can
come next, given the history and the waiting frames, and `Path` strings such moments together. That
sessions are paths is shown in `Airlink.Proofs.Backlog.Sessions`.
-/

namespace Airlink.Backlog

/-- What happens at a moment. -/
inductive Event where
  | did (s : Step) (a : Answer)
  /-- A frame goes to the transport. -/
  | submit (buf : Buffer)
  | answered (buf : Buffer) (reply : Reply)
  /-- A frame goes back to its owner. -/
  | complete (buf : Buffer) (status : TxStatus)
  | completed (buf : Buffer) (status : TxStatus)

/-- An event and the queue that it leaves. -/
structure Moment where
  event : Event
  queue : Backlog

/-- The journal of moments. -/
def moments : Journal (List Moment) (List Moment) where
  step s a log q := log.flatten ++ [⟨.did s a, q⟩]
  submit buf reply nested q q' :=
    ⟨.submit buf, q⟩ :: (nested.flatten ++ [⟨.answered buf reply, q'⟩])
  complete buf status nested q q' :=
    ⟨.complete buf status, q⟩ :: (nested.flatten ++ [⟨.completed buf status, q'⟩])

/-- The moments of a session that starts with nothing waiting. -/
def trace (steps : List Step) : List Moment := (takeSteps moments steps .empty).1.flatten

/-! ## Histories -/

/-- What the moments so far amount to. -/
structure History where
  /-- The frames put into the queue, in order. -/
  entered : List Buffer
  /-- The frames given back to their owners, in order. -/
  retired : List Buffer
  /-- What each clearing of the queue returned, in order. -/
  cleared : List (List Buffer)
  /-- The frames taken out of the queue and neither retired nor put back. -/
  flight : List Buffer
  /-- The number of callbacks under way. -/
  depth : Nat

namespace History

/-- Nothing has happened. -/
def start : History := ⟨[], [], [], [], 0⟩

/-- The history with a further event. A drain step that ends outside of all callbacks has put back
what it did not retire. -/
def note (h : History) : Event → History
  | .did (.enqueue buf) _ => { h with entered := h.entered ++ [buf] }
  | .did .clear (.frames bufs) => { h with cleared := h.cleared ++ [bufs] }
  | .did (.drainOne _) _ => if h.depth = 0 then { h with flight := [] } else h
  | .did (.tryDrain _) _ => if h.depth = 0 then { h with flight := [] } else h
  | .did _ _ => h
  | .submit buf => { h with flight := h.flight ++ [buf], depth := h.depth + 1 }
  | .answered _ _ => { h with depth := h.depth - 1 }
  | .complete buf _ =>
    { h with flight := h.flight.erase buf, retired := h.retired ++ [buf], depth := h.depth + 1 }
  | .completed _ _ => { h with depth := h.depth - 1 }

/-- The history of moments. -/
def of (ms : List Moment) : History := ms.foldl (fun h m => h.note m.event) start

end History

/-- The queue after moments that start with nothing waiting. -/
def queueAfter (ms : List Moment) : Backlog := ms.foldl (fun _ m => m.queue) .empty

/-! ## Paths -/

/-- A queue of the given frames, rightly counted. -/
def holding (frames : List Buffer) (draining : Bool) : Backlog := ⟨frames, frames.length, draining⟩

/-- The moments that can follow on a history with the given frames waiting. -/
inductive Follows (h : History) (waiting : List Buffer) : Moment → Prop where
  | enqueue (buf : Buffer) (d : Bool) :
      Follows h waiting ⟨.did (.enqueue buf) .done, holding (waiting ++ [buf]) d⟩
  | pending (d : Bool) :
      Follows h waiting ⟨.did .pending (.count waiting.length), holding waiting d⟩
  | clear (d : Bool) : Follows h waiting ⟨.did .clear (.frames waiting), holding [] d⟩
  /-- Inside a callback nothing is drained. -/
  | refuseOne (visits : List Visit) (d : Bool) (inside : h.depth ≠ 0) :
      Follows h waiting ⟨.did (.drainOne visits) (.step .busy), holding waiting d⟩
  | refuseAll (visits : List Visit) (d : Bool) (inside : h.depth ≠ 0) :
      Follows h waiting ⟨.did (.tryDrain visits) (.count 0), holding waiting d⟩
  /-- The frame in front goes out if no other one is out. -/
  | submit {buf : Buffer} {rest : List Buffer} (head : waiting = buf :: rest)
      (outside : h.depth = 0) (alone : h.flight = []) :
      Follows h waiting ⟨.submit buf, holding rest true⟩
  | answered (buf : Buffer) (reply : Reply) (inside : h.depth = 1) (out : h.flight = [buf]) :
      Follows h waiting ⟨.answered buf reply, holding waiting true⟩
  | complete (buf : Buffer) (status : TxStatus) (outside : h.depth = 0)
      (out : h.flight = [buf]) : Follows h waiting ⟨.complete buf status, holding waiting true⟩
  | completed (buf : Buffer) (status : TxStatus) (inside : h.depth = 1) (alone : h.flight = []) :
      Follows h waiting ⟨.completed buf status, holding waiting true⟩
  /-- What a drain step did not retire is back in front when the step ends. -/
  | doneOne (visits : List Visit) (a : Answer) (outside : h.depth = 0) :
      Follows h waiting ⟨.did (.drainOne visits) a, holding (h.flight ++ waiting) false⟩
  | doneAll (visits : List Visit) (a : Answer) (outside : h.depth = 0) :
      Follows h waiting ⟨.did (.tryDrain visits) a, holding (h.flight ++ waiting) false⟩

/-- Moments that follow on each other. -/
inductive Path : History → List Buffer → List Moment → History → List Buffer → Prop where
  | nil (h : History) (waiting : List Buffer) : Path h waiting [] h waiting
  | cons {h h' : History} {waiting waiting' : List Buffer} {m : Moment} {ms : List Moment}
      (first : Follows h waiting m) (rest : Path (h.note m.event) m.queue.frames ms h' waiting') :
      Path h waiting (m :: ms) h' waiting'

namespace Path

variable {h h' h'' : History} {w w' w'' : List Buffer} {m : Moment} {ms ms' : List Moment}

theorem single (f : Follows h w m) : Path h w [m] (h.note m.event) m.queue.frames :=
  .cons f (.nil _ _)

theorem append (p : Path h w ms h' w') (p' : Path h' w' ms' h'' w'') :
    Path h w (ms ++ ms') h'' w'' := by
  induction p with
  | nil h w => exact p'
  | cons first rest ih => exact .cons first (ih p')

/-- A path can be cut anywhere. -/
theorem split (p : Path h w (ms ++ ms') h'' w'') :
    ∃ h' w', Path h w ms h' w' ∧ Path h' w' ms' h'' w'' := by
  induction ms generalizing h w with
  | nil => exact ⟨h, w, .nil h w, p⟩
  | cons m ms ih =>
    cases p with
    | cons first rest =>
      obtain ⟨h', w', left, right⟩ := ih rest
      exact ⟨h', w', .cons first left, right⟩

theorem head (p : Path h w ms h' w') (first : m ∈ ms.head?) : Follows h w m := by
  cases p with
  | nil => cases first
  | cons f rest =>
    cases first
    exact f

/-- The history at the end of a path. -/
theorem history (p : Path h w ms h' w') : h' = ms.foldl (fun h m => h.note m.event) h := by
  induction p with
  | nil h w => rfl
  | cons first rest ih => exact ih

end Path

/-- Every moment shows a queue that is rightly counted. -/
theorem Follows.counted {h : History} {w : List Buffer} {m : Moment} (f : Follows h w m) :
    m.queue.pending = m.queue.frames.length := by
  cases f <;> rfl

/-- The queue at the end of a path holds the frames that the path says, rightly counted. -/
theorem Path.queue {h h' : History} {w w' : List Buffer} {ms : List Moment}
    (p : Path h w ms h' w') {q : Backlog} (frames : q.frames = w)
    (counted : q.pending = q.frames.length) :
    (ms.foldl (fun _ m => m.queue) q).frames = w' ∧
      (ms.foldl (fun _ m => m.queue) q).pending = w'.length := by
  induction p generalizing q with
  | nil h w => exact ⟨frames, counted.trans (congrArg List.length frames)⟩
  | cons first rest ih => exact ih rfl first.counted

end Airlink.Backlog
