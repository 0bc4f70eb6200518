import Airlink.Buffer

/-!
# Frames apart from their storage

Two buffers can hold the same frame at different places of stores of different sizes. `Buffer.frame`
forgets the place: what is left are the octets of the window, the direction, the flags and the
priority. Each operation on buffers is an operation on frames (`frame_advance`, `frame_truncate`,
`frame_prepend`, `frame_overwrite`, `frame_duplicate`, `frame_toTx`, `frame_flag`), so what is true
of the frames does not depend on where the buffers keep them.
-/

namespace Airlink

namespace BufferFlags

@[simp] theorem insert_zero (f : BufferFlags) : f.insert 0 = f := by simp [insert]

theorem insert_comm (f : BufferFlags) (x y : UInt32) :
    (f.insert x).insert y = (f.insert y).insert x := by
  simp only [insert, mk.injEq]
  rw [UInt32.or_assoc, UInt32.or_comm x y, ← UInt32.or_assoc]

/-- Setting flags does not touch the others. -/
theorem has_insert_of_disjoint (f : BufferFlags) {x y : UInt32} (h : x &&& y = 0) :
    (f.insert x).has y = f.has y := by
  have e : (f.bits ||| x) &&& y = (f.bits &&& y) ||| (x &&& y) :=
    UInt32.toBitVec_inj.1 BitVec.and_or_distrib_right
  simp only [insert, has, e, h, UInt32.or_zero]

end BufferFlags

/-- A frame apart from where it is stored. -/
@[ext] structure Frame where
  bytes : Bytes
  direction : Direction
  flags : BufferFlags
  /-- Traffic class. -/
  priority : UInt8
  deriving DecidableEq, Repr

namespace Frame

/-- The frame without its first `n` octets. -/
def drop (f : Frame) (n : Nat) : Frame := { f with bytes := f.bytes.drop n }

/-- The frame with further flags set. -/
def mark (f : Frame) (bits : UInt32) : Frame := { f with flags := f.flags.insert bits }

/-- Whether the data path produced the frame and not the host. -/
def isRelayed (f : Frame) : Bool := f.flags.has BufferFlags.forwarded

@[simp] theorem mark_zero (f : Frame) : f.mark 0 = f := by simp [mark]

theorem mark_comm (f : Frame) (x y : UInt32) : (f.mark x).mark y = (f.mark y).mark x := by
  simp [mark, BufferFlags.insert_comm f.flags x y]

@[simp] theorem isRelayed_drop (f : Frame) (n : Nat) : (f.drop n).isRelayed = f.isRelayed := rfl

end Frame

namespace Buffer

/-- The frame in a buffer. -/
def frame (b : Buffer) : Frame := ⟨b.window, b.direction, b.flags, b.priority⟩

@[simp] theorem isRelayed_frame (b : Buffer) :
    b.frame.isRelayed = b.flags.has BufferFlags.forwarded := rfl

/-! ## Moving the ends of the window -/

theorem advance_of_le (b : Buffer) {n : Nat} (h : n ≤ b.size) :
    ∃ c, b.advance n = .ok c ∧ c.frame = b.frame.drop n := by
  obtain ⟨c, hc⟩ : ∃ c, b.advance n = .ok c := ⟨_, dif_pos h⟩
  refine ⟨c, hc, ?_⟩
  have hw := window_advance hc
  unfold advance at hc
  rw [dif_pos h] at hc
  cases hc
  simp only [frame, Frame.drop, hw]

@[simp] theorem frame_truncate (b : Buffer) (n : Nat) :
    (b.truncate n).frame = { b.frame with bytes := b.window.take n } := by
  simp only [frame, window_truncate]
  rfl

/-! ## Writing -/

@[simp] theorem frame_prepend (b : Buffer) (header : Bytes) :
    (b.prepend header).frame = { b.frame with bytes := header ++ b.window } := by
  simp only [frame, window_prepend]
  unfold prepend
  split <;> rfl

@[simp] theorem frame_overwrite (b : Buffer) (pos : Nat) (patch : Bytes) :
    (b.overwrite pos patch).frame = { b.frame with bytes := b.window.overwrite pos patch } := by
  simp only [frame, window_overwrite]
  rfl

/-! ## Copies and flags -/

@[simp] theorem frame_duplicate (b : Buffer) : b.duplicate.frame = b.frame := by
  simp only [frame, window_duplicate]
  rfl

@[simp] theorem frame_toTx (b : Buffer) :
    b.toTx.frame = { b.frame.mark BufferFlags.forwarded with direction := .tx } := rfl

@[simp] theorem frame_flag (b : Buffer) (bits : UInt32) :
    (b.flag bits).frame = b.frame.mark bits := rfl

end Buffer

end Airlink
