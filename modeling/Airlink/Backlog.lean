import Airlink.Outside

/-!
# The backlog

Frames that the transport could not take wait in a queue. A drain step takes the head out, submits
it, and either completes it or, if the transport is still busy, puts it back in front. While the
head is out the callbacks may themselves work on the queue, so a flag lets in one drain step at a
time: a step made inside another one does nothing and answers that it is busy.

The number of waiting frames is kept beside the queue, where it can be read at any time.
-/

namespace Airlink

/-- A queue of frames that wait for the transport. -/
structure Backlog where
  frames : List Buffer
  /-- The number of frames as last noted. -/
  pending : Nat
  /-- A drain step is under way. -/
  draining : Bool
  deriving DecidableEq, Repr

/-- How a drain step ended. -/
inductive DrainStep where
  /-- Nothing waits. -/
  | empty
  /-- The head was submitted and completed, well or badly. -/
  | retired
  /-- The transport is busy, or another step is under way. -/
  | busy
  deriving DecidableEq, Repr

namespace Backlog

/-- Nothing waits. -/
def empty : Backlog := ⟨[], 0, false⟩

/-- The queue with other frames, and their number noted. -/
def setFrames (q : Backlog) (frames : List Buffer) : Backlog :=
  { q with frames, pending := frames.length }

/-- Whether nothing waits. -/
def isEmpty (q : Backlog) : Bool := q.pending == 0

/-- The queue with a frame behind the others. -/
def enqueue (q : Backlog) (buf : Buffer) : Backlog := q.setFrames (q.frames ++ [buf])

/-- The queue with a frame in front of the others. -/
def pushFront (q : Backlog) (buf : Buffer) : Backlog := q.setFrames (buf :: q.frames)

/-- The first frame, and the queue without it. -/
def popFront (q : Backlog) : Option Buffer × Backlog :=
  (q.frames.head?, q.setFrames q.frames.tail)

/-- All frames, and the queue without them. -/
def clear (q : Backlog) : List Buffer × Backlog := (q.frames, q.setFrames [])

/-- What a drain step calls. Both calls may change the queue and a state of their own. -/
structure Callbacks (σ : Type) where
  submit : Buffer → Backlog → σ → Submission × Backlog × σ
  complete : Buffer → TxStatus → Backlog → σ → Backlog × σ

/-- What follows on the answer of the transport. -/
def finish (cb : Callbacks σ) (answer : Submission) (q : Backlog) (s : σ) :
    DrainStep × Backlog × σ :=
  match answer with
  | .success buf => (.retired, cb.complete buf .success q s)
  | .failure buf reason => (.retired, cb.complete buf (.failure reason) q s)
  | .busy buf => (.busy, q.pushFront buf, s)

/-- Submits the head of the queue. -/
def drainOne (cb : Callbacks σ) (q : Backlog) (s : σ) : DrainStep × Backlog × σ :=
  if q.draining then (.busy, q, s)
  else
    match ({ q with draining := true }).popFront with
    | (none, q) => (.empty, { q with draining := false }, s)
    | (some buf, q) =>
      let (answer, q, s) := cb.submit buf q s
      let (step, q, s) := finish cb answer q s
      (step, { q with draining := false }, s)

/-- Makes drain steps as long as they retire frames, at most `fuel` of them, and counts the frames.
With callbacks that leave the queue alone, one step more than there are frames is enough. -/
def drainAll (cb : Callbacks σ) : Nat → Backlog → σ → Nat × Backlog × σ
  | 0, q, s => (0, q, s)
  | fuel + 1, q, s =>
    match drainOne cb q s with
    | (.retired, q, s) =>
      let (n, q, s) := drainAll cb fuel q s
      (n + 1, q, s)
    | (_, q, s) => (0, q, s)

/-- Retires frames until none waits or the transport is busy, and counts them. -/
def tryDrain (cb : Callbacks σ) (q : Backlog) (s : σ) : Nat × Backlog × σ :=
  drainAll cb (q.pending + 1) q s

end Backlog

end Airlink
