import Airlink.Proofs.Checked.Buffer
import Airlink.Proofs.Storage.Buffers

/-!
# Frames with headroom

Seen from outside a buffer is a list of octets with some free octets in front of it
(`Buffer.view`), and each operation on buffers is one on such lists (`Buffer.view_operate`). So
whatever is done to a buffer one after the other, the list and the headroom tell what comes of it,
and no access on the way goes outside of the store or of the window (`Buffer.operations_refine`).

An operation that makes a copy goes on with the copy. What becomes of the buffer that was copied is
told by the operations on it, without those on its copies.
-/

namespace Airlink

/-! ## Views -/

/-- A frame with headroom, and what is noted beside it. -/
@[ext] structure BufferView where
  frame : Frame
  /-- The number of free octets in front of the frame. -/
  headroom : Nat
  rxStamped : Bool
  txStamped : Bool
  frameType : Option Ieee80211.FrameType
  deriving DecidableEq, Repr

namespace Buffer

/-- What a buffer looks like from outside. -/
def view (b : Buffer) : BufferView :=
  ⟨b.frame, b.headroom, b.rxStamped, b.txStamped, b.frameType⟩

/-- Where the notes are kept, only the frame and the headroom change. -/
theorem KeepsNotes.view_eq {b c : Buffer} (h : b.KeepsNotes c) :
    c.view = { b.view with frame := c.frame, headroom := c.headroom } := by
  rw [view, h.rxStamped, h.txStamped, h.frameType]
  rfl

end Buffer

/-! ## Operations -/

/-- An operation on a buffer. -/
inductive BufferOp where
  /-- Drops octets from the front of the window. -/
  | advance (n : Nat)
  /-- Shortens the window. -/
  | truncate (n : Nat)
  | prepend (header : Bytes)
  /-- Writes octets over those of the window from a position on. -/
  | write (pos : Nat) (octets : Bytes)
  | duplicate
  | duplicateForTx
  | toTx
  deriving DecidableEq, Repr

namespace BufferView

/-- What an operation answers, and what it makes of a frame with headroom. -/
def operate (v : BufferView) : BufferOp → Except Error Unit × BufferView
  | .advance n =>
    if n ≤ v.frame.bytes.length then
      (.ok (), { v with frame := v.frame.drop n, headroom := v.headroom + n })
    else (.error (.truncated "frame" n v.frame.bytes.length), v)
  | .truncate n => (.ok (), { v with frame := { v.frame with bytes := v.frame.bytes.take n } })
  | .prepend header =>
    (.ok (), { v with
      frame := { v.frame with bytes := header ++ v.frame.bytes }
      headroom := if header.length ≤ v.headroom then v.headroom - header.length else 64 })
  | .write pos octets =>
    (.ok (), { v with frame := { v.frame with bytes := v.frame.bytes.overwrite pos octets } })
  | .duplicate => (.ok (), { v with headroom := 64 })
  | .duplicateForTx =>
    (.ok (), { v with
      frame := { v.frame.mark BufferFlags.forwarded with direction := .tx }
      headroom := 64 })
  | .toTx =>
    (.ok (), { v with frame := { v.frame.mark BufferFlags.forwarded with direction := .tx } })

/-- Operations one after the other, with their answers. -/
def run (v : BufferView) : List BufferOp → List (Except Error Unit) × BufferView
  | [] => ([], v)
  | op :: ops =>
    let (answer, v) := v.operate op
    let (answers, v) := v.run ops
    (answer :: answers, v)

/-- An operation writes to the frame only. -/
def InWindow (v : BufferView) : BufferOp → Prop
  | .write pos octets => pos + octets.length ≤ v.frame.bytes.length
  | _ => True

instance (v : BufferView) : DecidablePred v.InWindow
  | .write _ _ => inferInstanceAs (Decidable (_ ≤ _))
  | .advance _ | .truncate _ | .prepend _ | .duplicate | .duplicateForTx | .toTx => .isTrue trivial

/-- Each of some operations writes only to the frame, as it is when its turn comes. -/
def AllInWindow (v : BufferView) : List BufferOp → Prop
  | [] => True
  | op :: ops => v.InWindow op ∧ (v.operate op).2.AllInWindow ops

instance decidableAllInWindow : (v : BufferView) → DecidablePred v.AllInWindow
  | _, [] => .isTrue trivial
  | v, op :: ops =>
    have := decidableAllInWindow (v.operate op).2 ops
    inferInstanceAs (Decidable (_ ∧ _))

end BufferView

namespace Buffer

/-- The answer and the buffer after an operation that may be refused. If it is, the buffer is as it
was. -/
def orElse (b : Buffer) : Except Error Buffer → Except Error Unit × Buffer
  | .ok c => (.ok (), c)
  | .error e => (.error e, b)

/-- An operation with its answer. -/
def operate (b : Buffer) : BufferOp → Except Error Unit × Buffer
  | .advance n => b.orElse (b.advance n)
  | .truncate n => (.ok (), b.truncate n)
  | .prepend header => (.ok (), b.prepend header)
  | .write pos octets => (.ok (), b.overwrite pos octets)
  | .duplicate => (.ok (), b.duplicate)
  | .duplicateForTx => (.ok (), b.duplicateForTx)
  | .toTx => (.ok (), b.toTx)

/-- Operations one after the other, with their answers. -/
def run (b : Buffer) : List BufferOp → List (Except Error Unit) × Buffer
  | [] => ([], b)
  | op :: ops =>
    let (answer, b) := b.operate op
    let (answers, b) := b.run ops
    (answer :: answers, b)

end Buffer

/-! ## Operations with their checks -/

namespace Checked

/-- An operation with its answer. The new window has to lie in the store, and octets are written to
the window only. -/
def operate (b : Buffer) : BufferOp → Run (Except Error Unit × Buffer)
  | .advance n => do return b.orElse (← (advance b n).run)
  | .truncate n => do return (.ok (), ← place b b.store b.offset (min b.size n))
  | .prepend header => do return (.ok (), ← prepend b header)
  | .write pos octets => do return (.ok (), ← putWindow b pos (pos + octets.length) octets)
  | .duplicate => do return (.ok (), ← duplicate b)
  | .duplicateForTx => do return (.ok (), ← duplicateForTx b)
  | .toTx => return (.ok (), b.toTx)

/-- Operations one after the other, with their answers. -/
def run (b : Buffer) : List BufferOp → Run (List (Except Error Unit) × Buffer)
  | [] => return ([], b)
  | op :: ops => do
    let (answer, b) ← operate b op
    let (answers, b) ← run b ops
    return (answer :: answers, b)

/-- The frame as a list of its own: what is in front of it and what is behind it is dropped from the
store. -/
def toBytes (b : Buffer) : Run Bytes := do
  let octets ← behind b.store b.offset
  return octets.take b.size

end Checked

/-! ## One operation -/

namespace Buffer

theorem headroom_prepend (b : Buffer) (header : Bytes) :
    (b.prepend header).headroom =
      if header.length ≤ b.headroom then b.headroom - header.length else 64 := by
  unfold prepend headroom
  split <;> rfl

theorem headroom_advance {b c : Buffer} {n : Nat} (h : b.advance n = .ok c) :
    c.headroom = b.headroom + n := by
  unfold advance at h
  split at h
  · cases h
    rfl
  · cases h

/-- An operation on a buffer is one on what is seen of it. -/
theorem view_operate (b : Buffer) (op : BufferOp) :
    b.view.operate op = ((b.operate op).1, (b.operate op).2.view) := by
  have size : b.view.frame.bytes.length = b.size := b.length_window
  cases op with
  | advance n =>
    simp only [BufferView.operate, operate, size]
    by_cases enough : n ≤ b.size
    · obtain ⟨c, advanced, frame⟩ := b.advance_of_le enough
      rw [if_pos enough, advanced, orElse, (keepsNotes_advance advanced).view_eq, frame,
        headroom_advance advanced]
      rfl
    · have refused : b.advance n = .error (.truncated "frame" n b.size) := dif_neg enough
      rw [if_neg enough, refused]
      rfl
  | truncate n =>
    have kept : b.KeepsNotes (b.truncate n) := ⟨rfl, rfl, rfl⟩
    simp only [BufferView.operate, operate, kept.view_eq, frame_truncate]
    rfl
  | prepend header =>
    have kept := b.keepsNotes_prepend header
    simp only [BufferView.operate, operate, kept.view_eq, frame_prepend, headroom_prepend]
    rfl
  | write pos octets =>
    have kept : b.KeepsNotes (b.overwrite pos octets) := ⟨rfl, rfl, rfl⟩
    simp only [BufferView.operate, operate, kept.view_eq, frame_overwrite]
    rfl
  | duplicate =>
    have kept : b.KeepsNotes b.duplicate := ⟨rfl, rfl, rfl⟩
    simp only [BufferView.operate, operate, kept.view_eq, frame_duplicate]
    rfl
  | duplicateForTx =>
    have kept : b.KeepsNotes b.duplicateForTx := ⟨rfl, rfl, rfl⟩
    have turned : b.duplicateForTx.frame =
        { b.frame.mark BufferFlags.forwarded with direction := .tx } := by
      rw [duplicateForTx, frame_toTx, frame_duplicate]
    simp only [BufferView.operate, operate, kept.view_eq, turned]
    rfl
  | toTx => rfl

/-- No check of an operation fails, if it writes to the window only. -/
theorem checked_operate (b : Buffer) {op : BufferOp} (inside : b.view.InWindow op) :
    Checked.operate b op = .ok (b.operate op) := by
  have fits := b.fits
  cases op with
  | advance n => rw [Checked.operate, Checked.run_advance]; rfl
  | truncate n =>
    rw [Checked.operate, Checked.place_eq b (by omega)]
    rfl
  | prepend header => rw [Checked.operate, Checked.prepend_eq]; rfl
  | write pos octets =>
    have within : pos + octets.length ≤ b.window.length := inside
    rw [length_window] at within
    rw [Checked.operate, Checked.putWindow_eq rfl within]
    rfl
  | duplicate => rw [Checked.operate, Checked.duplicate_eq]; rfl
  | duplicateForTx => rw [Checked.operate, Checked.duplicateForTx_eq]; rfl
  | toTx => rfl

theorem checked_toBytes (b : Buffer) : Checked.toBytes b = .ok b.window := by
  have fits := b.fits
  rw [Checked.toBytes, Checked.behind_eq (by omega)]
  rfl

/-! ## Operations one after the other -/

theorem view_run (b : Buffer) (ops : List BufferOp) :
    b.view.run ops = ((b.run ops).1, (b.run ops).2.view) := by
  induction ops generalizing b with
  | nil => rfl
  | cons op ops ih => simp only [BufferView.run, run, view_operate, ih]

theorem checked_run (b : Buffer) {ops : List BufferOp} (inside : b.view.AllInWindow ops) :
    Checked.run b ops = .ok (b.run ops) := by
  induction ops generalizing b with
  | nil => rfl
  | cons op ops ih =>
    obtain ⟨first, others⟩ := inside
    rw [view_operate] at others
    rw [Checked.run, b.checked_operate first, Checked.ok_bind]
    simp only [ih _ others]
    rfl

/-- **Lists with headroom.** Take a buffer made of any octets, with any headroom or none
(`ofBytes`), and any operations one after the other. The answers, the frame, the headroom and what
is noted beside the frame are those of the operations on a list with headroom. If octets are written
to the window only, no access fails: no place outside the store or the window is read or written,
and every window lies in its store. The list that the buffer is turned into at the end is the
frame. -/
theorem operations_refine (direction : Direction) (headroom : Nat) (payload : Bytes)
    (ops : List BufferOp) :
    let made := withHeadroom direction headroom payload
    let result := made.run ops
    Checked.withHeadroom direction headroom payload = .ok made ∧
      made.view =
        ⟨⟨payload, direction, .none, 0⟩, headroom, direction == .rx, false, none⟩ ∧
      made.view.run ops = (result.1, result.2.view) ∧
      (made.view.AllInWindow ops → Checked.run made ops = .ok result) ∧
      result.2.offset + result.2.size ≤ result.2.store.length ∧
      Checked.toBytes result.2 = .ok result.2.view.frame.bytes := by
  intro made result
  have start : made.view =
      ⟨⟨payload, direction, .none, 0⟩, headroom, direction == .rx, false, none⟩ := by
    rw [view, frame, window_withHeadroom]
    rfl
  exact ⟨Checked.withHeadroom_eq direction headroom payload, start, made.view_run ops,
    made.checked_run, result.2.fits, result.2.checked_toBytes⟩

/-- A frame that loses two octets and gets three back, which fit in front of it, then five, for
which it moves to a new store. Nine octets cannot be taken off. -/
theorem operations_refine_moved :
    let made := withHeadroom .rx 4 [1, 2, 3, 4, 5, 6]
    let ops := [.advance 2, .advance 9, .write 1 [0xAA, 0xBB], .prepend [7, 8, 9],
      .prepend [10, 11, 12, 13, 14], .truncate 11, .duplicateForTx, .advance 5]
    made.view.AllInWindow ops ∧ Checked.run made ops = .ok (made.run ops) ∧
      (made.run ops).1 = [.ok (), .error (.truncated "frame" 9 4), .ok (), .ok (), .ok (), .ok (),
        .ok (), .ok ()] ∧
      (made.run ops).2.view =
        ⟨⟨[7, 8, 9, 3, 0xAA, 0xBB], .tx, ⟨BufferFlags.forwarded⟩, 0⟩, 69, true, false, none⟩ ∧
      Checked.toBytes (made.run ops).2 = .ok [7, 8, 9, 3, 0xAA, 0xBB] := by
  intro made ops
  have inside : made.view.AllInWindow ops := by decide
  obtain ⟨-, -, seen, checked, -, octets⟩ := operations_refine .rx 4 [1, 2, 3, 4, 5, 6] ops
  have answers : (made.view.run ops).1 = (made.run ops).1 := congrArg Prod.fst seen
  have view : (made.view.run ops).2 = (made.run ops).2.view := congrArg Prod.snd seen
  have frame : (made.view.run ops).2.frame.bytes = [7, 8, 9, 3, 0xAA, 0xBB] := by decide
  rw [view] at frame
  exact ⟨inside, checked inside, answers.symm.trans (by decide), view.symm.trans (by decide),
    octets.trans (congrArg Except.ok frame)⟩

/-- A copy for relaying has the octets of the frame, but it travels in the other direction and is
flagged. -/
theorem copy_for_tx_differs :
    let made := ofBytes .rx [1, 2, 3]
    made.duplicateForTx.window = made.window ∧
      made.duplicateForTx.direction ≠ made.direction ∧
      made.duplicateForTx.flags ≠ made.flags := by
  decide

end Buffer

end Airlink
