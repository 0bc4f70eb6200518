import Airlink.Interface
import Airlink.Proofs.Frame

/-!
# The log of a transmitting interface

What an interface does to the outside is read off the log of its calls (`Outside.logged`): which
frames the host got back (`completed`) and which the transport accepted or refused for good
(`retired`). Keeping the log changes nothing else: without it, each operation gives the same
interface and leaves the parties outside in the same state.
-/

namespace Airlink

open Outside (Call)

variable {σ : Type}

/-! ## What a log says of frames -/

/-- The frame behind the transmit descriptor. -/
def Buffer.unframed (b : Buffer) : Frame := b.frame.drop TxDescriptor.size

@[simp] theorem Buffer.isRelayed_unframed (b : Buffer) :
    b.unframed.isRelayed = b.flags.has BufferFlags.forwarded := rfl

/-- The frame that a call gives back to the host. -/
def Outside.Call.completed? : Call → Option Frame
  | .sendComplete buf _ => some buf.frame
  | _ => none

/-- The frame that the transport accepted or refused for good in a call. -/
def Outside.Call.retired? : Call → Option Frame
  | .submit _ (.busy _) => none
  | .submit buf _ => some buf.unframed
  | _ => none

/-- The frames given back to the host, in order. -/
def completed (log : List Call) : List Frame := log.filterMap Call.completed?

/-- The frames that the transport accepted or refused for good, in order. -/
def retired (log : List Call) : List Frame := log.filterMap Call.retired?

@[simp] theorem completed_append (l m : List Call) :
    completed (l ++ m) = completed l ++ completed m := List.filterMap_append

@[simp] theorem retired_append (l m : List Call) :
    retired (l ++ m) = retired l ++ retired m := List.filterMap_append

/-- The frames of the host among others. -/
def hostFrames (fs : List Frame) : List Frame := fs.filter (!·.isRelayed)

@[simp] theorem hostFrames_append (fs gs : List Frame) :
    hostFrames (fs ++ gs) = hostFrames fs ++ hostFrames gs := List.filter_append fs gs

theorem isRelayed_of_mem_hostFrames {f : Frame} {fs : List Frame} (h : f ∈ hostFrames fs) :
    f.isRelayed = false := by
  simpa using (List.mem_filter.1 h).2

/-! ## Forgetting the log -/

/-- A state without its log. -/
def unlogged (st : Interface × σ × List Call) : Interface × σ := (st.1, st.2.1)

namespace Interface

theorem complete_unlogged (o : Outside σ) (buf : Buffer) (status : TxStatus)
    (s : σ × List Call) : (complete o.logged buf status s).1 = complete o buf status s.1 := by
  unfold complete
  split
  · rfl
  · split <;> rfl

theorem submit_unlogged (o : Outside σ) (i : Interface) (s : σ × List Call) (framed : Buffer) :
    unlogged (i.submit o.logged s framed) = i.submit o s.1 framed := by
  unfold submit unlogged
  split
  · simp only [Outside.logged]
    cases (o.submit framed s.1).1 with
    | success buf => exact congrArg _ (complete_unlogged o buf _ _)
    | failure buf reason => exact congrArg _ (complete_unlogged o buf _ _)
    | busy buf => rfl
  · rfl

theorem send_unlogged (o : Outside σ) (i : Interface) (s : σ × List Call) (buf : Buffer)
    (hints : TransmitHints) :
    (i.send o.logged s buf hints).1 = (i.send o s.1 buf hints).1 ∧
      unlogged (i.send o.logged s buf hints).2 = (i.send o s.1 buf hints).2 := by
  unfold send
  dsimp only
  split
  · exact ⟨rfl, rfl⟩
  · exact ⟨rfl, submit_unlogged o _ s _⟩

theorem relay_unlogged (o : Outside σ) (i : Interface) (s : σ × List Call) (buf : Buffer) :
    unlogged (i.relay o.logged s buf) = i.relay o s.1 buf := by
  unfold relay
  split
  · rfl
  · exact submit_unlogged o i s _

theorem drainOne_unlogged (o : Outside σ) (i : Interface) (s : σ × List Call) :
    unlogged (i.drainOne o.logged s).2 = (i.drainOne o s.1).2 := by
  unfold drainOne Backlog.drainOne Backlog.popFront unlogged
  by_cases hd : i.backlog.draining = true
  · simp only [if_pos hd]
  · simp only [if_neg hd]
    cases i.backlog.frames with
    | nil => rfl
    | cons buf rest =>
      simp only [List.head?_cons, drainCallbacks, Outside.logged]
      cases (o.submit buf s.1).1 with
      | success b => exact congrArg _ (complete_unlogged o b _ _)
      | failure b reason => exact congrArg _ (complete_unlogged o b _ _)
      | busy b => rfl

theorem flush_unlogged (o : Outside σ) (i : Interface) (s : σ × List Call) :
    unlogged (i.flush o.logged s).2 = (i.flush o s.1).2 := by
  exact congrArg _ (List.foldl_hom Prod.fst
    fun s buf => (complete_unlogged o buf (.failure "interface flushed") s).symm).symm

end Interface

end Airlink
