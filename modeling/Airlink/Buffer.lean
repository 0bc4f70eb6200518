import Airlink.Error
import Airlink.Ieee80211.FrameControl

/-!
# Frame buffers

A buffer owns one stretch of octets, its store. The frame itself is the window of `size` octets
from `offset` on; the octets in front of it are headroom, which lets a header be put in front
without moving the payload. Whatever the store holds outside the window is stale.

Each operation is pinned down by what it does to the window: `window_advance`, `window_truncate`,
`window_prepend`, `window_overwrite`, `window_duplicate`.
-/

namespace Airlink

/-- Which way a buffer travels. -/
inductive Direction where
  | rx
  | tx
  deriving DecidableEq, Repr, Inhabited

/-- The status flags of a buffer. -/
structure BufferFlags where
  bits : UInt32
  deriving DecidableEq, Repr, Inhabited

namespace BufferFlags

/-- No flag. -/
def none : BufferFlags := ⟨0⟩

/-- The buffer is a copy for a monitor. -/
def monitor : UInt32 := 0x0001
/-- The host wants to be told how the transmission ended. -/
def txStatus : UInt32 := 0x0002
/-- The payload is a raw 802.11 frame. -/
def rawPassthrough : UInt32 := 0x0004
/-- The buffer was produced by relaying, not by the host. -/
def forwarded : UInt32 := 0x0008
/-- The buffer was released by the reorder engine. -/
def reordered : UInt32 := 0x0010
/-- The buffer is one part of a split aggregate. -/
def amsduSubframe : UInt32 := 0x0020

/-- Whether all the given flags are set. -/
def has (f : BufferFlags) (bits : UInt32) : Bool := f.bits &&& bits == bits

/-- The flags with further ones set. -/
def insert (f : BufferFlags) (bits : UInt32) : BufferFlags := ⟨f.bits ||| bits⟩

/-- The flags with some cleared. -/
def remove (f : BufferFlags) (bits : UInt32) : BufferFlags := ⟨f.bits &&& ~~~bits⟩

end BufferFlags

/-- A frame with headroom and what the pipeline knows about it. -/
structure Buffer where
  store : Bytes
  offset : Nat
  size : Nat
  fits : offset + size ≤ store.length
  direction : Direction
  flags : BufferFlags
  /-- Traffic class. -/
  priority : UInt8
  /-- Whether the time of arrival was noted. -/
  rxStamped : Bool
  /-- Whether the time of departure was noted. -/
  txStamped : Bool
  /-- The 802.11 frame type, known for monitor copies. -/
  frameType : Option Ieee80211.FrameType
  deriving DecidableEq, Repr

namespace Buffer

/-- Headroom of freshly made buffers: room for a descriptor and for headers that grow. -/
def defaultHeadroom : Nat := 64

/-- The octets of the frame. -/
def window (b : Buffer) : Bytes := b.store.slice b.offset b.size

/-- The free octets in front of the frame. -/
def headroom (b : Buffer) : Nat := b.offset

/-- Whether the frame has no octets. -/
def isEmpty (b : Buffer) : Bool := b.size == 0

@[simp] theorem length_window (b : Buffer) : b.window.length = b.size :=
  Bytes.length_slice_of_le b.fits

/-! ## Making buffers -/

/-- A buffer whose window lies behind `headroom` zeros. -/
def withHeadroom (direction : Direction) (headroom : Nat) (payload : Bytes) : Buffer where
  store := List.replicate headroom 0 ++ payload
  offset := headroom
  size := payload.length
  fits := by simp
  direction
  flags := .none
  priority := 0
  rxStamped := direction == .rx
  txStamped := false
  frameType := none

/-- A buffer all of whose store is the frame. -/
def ofBytes (direction : Direction) (data : Bytes) : Buffer := withHeadroom direction 0 data

@[simp] theorem window_withHeadroom (d : Direction) (n : Nat) (payload : Bytes) :
    (withHeadroom d n payload).window = payload := by
  simp [window, withHeadroom, Bytes.slice]

@[simp] theorem window_ofBytes (d : Direction) (data : Bytes) : (ofBytes d data).window = data :=
  window_withHeadroom d 0 data

/-! ## Moving the ends of the window -/

/-- Drops `n` octets from the front of the window, if it has as many. -/
def advance (b : Buffer) (n : Nat) : Except Error Buffer :=
  if h : n ≤ b.size then
    .ok { b with
      offset := b.offset + n
      size := b.size - n
      fits := by have := b.fits; omega }
  else .error (.truncated "frame" n b.size)

/-- Shortens the window to at most `n` octets. -/
def truncate (b : Buffer) (n : Nat) : Buffer :=
  { b with
    size := min b.size n
    fits := by have := b.fits; omega }

theorem window_advance {b c : Buffer} {n : Nat} (h : b.advance n = .ok c) :
    c.window = b.window.drop n := by
  unfold advance at h
  split at h
  · next hn =>
    cases h
    simp only [window, Bytes.slice, List.drop_take, List.drop_drop]
  · cases h

@[simp] theorem window_truncate (b : Buffer) (n : Nat) :
    (b.truncate n).window = b.window.take n := by
  simp [window, truncate, Bytes.slice, List.take_take, Nat.min_comm]

/-! ## Writing -/

/-- Writes octets over the window from position `pos` of it on, never beyond its end. -/
def overwrite (b : Buffer) (pos : Nat) (patch : Bytes) : Buffer :=
  { b with
    store := b.store.overwrite (b.offset + pos) (patch.take (b.size - pos))
    fits := by simpa using b.fits }

/-- Puts a header in front of the window: into the headroom if it fits there, and otherwise with
the window into a new store with the usual headroom. -/
def prepend (b : Buffer) (header : Bytes) : Buffer :=
  if h : header.length ≤ b.offset then
    { b with
      store := b.store.overwrite (b.offset - header.length) header
      offset := b.offset - header.length
      size := b.size + header.length
      fits := by have := b.fits; simp; omega }
  else
    { b with
      store := List.replicate defaultHeadroom 0 ++ header ++ b.window
      offset := defaultHeadroom
      size := b.size + header.length
      fits := by simp; omega }

@[simp] theorem window_prepend (b : Buffer) (header : Bytes) :
    (b.prepend header).window = header ++ b.window := by
  unfold prepend
  split
  · next h =>
    have hf := b.fits
    obtain ⟨k, hk⟩ : ∃ k, b.offset = k + header.length := ⟨b.offset - header.length, by omega⟩
    have hlen : (b.store.take k).length = k := by simp; omega
    have htake : header.take (b.store.length - k) = header := List.take_of_length_le (by omega)
    simp only [window, Bytes.slice, Bytes.overwrite, hk, Nat.add_sub_cancel, htake,
      List.append_assoc]
    rw [List.drop_left' hlen, Nat.add_comm b.size, List.take_length_add_append]
  · simp only [window, Bytes.slice, List.append_assoc]
    rw [List.drop_left' (by simp), Nat.add_comm b.size, List.take_length_add_append,
      List.take_of_length_le (List.length_take_le ..)]

theorem window_overwrite (b : Buffer) (pos : Nat) (patch : Bytes) :
    (b.overwrite pos patch).window = b.window.overwrite pos patch := by
  have hf := b.fits
  apply List.ext_getElem?
  intro i
  simp only [window, overwrite, Bytes.slice, Bytes.overwrite, List.getElem?_take,
    List.getElem?_drop, List.getElem?_append, List.length_take, List.length_drop,
    List.length_append]
  grind

/-! ## Copies -/

/-- A copy of the window, with the usual headroom and all that is known about the frame. -/
def duplicate (b : Buffer) : Buffer :=
  { withHeadroom b.direction defaultHeadroom b.window with
    flags := b.flags
    priority := b.priority
    rxStamped := b.rxStamped
    txStamped := b.txStamped
    frameType := b.frameType }

/-- The buffer turned around for relaying. -/
def toTx (b : Buffer) : Buffer :=
  { b with direction := .tx, flags := b.flags.insert BufferFlags.forwarded }

/-- An independent copy for relaying. -/
def duplicateForTx (b : Buffer) : Buffer := b.duplicate.toTx

@[simp] theorem window_duplicate (b : Buffer) : b.duplicate.window = b.window :=
  window_withHeadroom b.direction defaultHeadroom b.window

@[simp] theorem window_toTx (b : Buffer) : b.toTx.window = b.window := rfl

/-- The buffer with further flags set. -/
def flag (b : Buffer) (bits : UInt32) : Buffer := { b with flags := b.flags.insert bits }

@[simp] theorem window_flag (b : Buffer) (bits : UInt32) : (b.flag bits).window = b.window := rfl

end Buffer

end Airlink
