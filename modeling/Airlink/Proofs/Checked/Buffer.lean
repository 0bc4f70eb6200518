import Airlink.Buffer
import Airlink.Proofs.Checked.Access

/-!
# Buffers with their checks

What a buffer does to its window is done to its store: the window is a stretch of the store, a
write goes to the stretch of the store that the window is, and a header goes to the stretch in front
of it. Here each of these makes its accesses with their checks, and none of them fails, since the
store holds the window (`Buffer.fits`).

Only `advance` and `prepend` say on their own whether there are octets enough. What `putWindow` and
`moveWithin` are asked for has to lie in the window, and whoever calls them has to know that.
-/

namespace Airlink

namespace Bytes

/-- Octets written one stretch behind the other are written at once. -/
theorem overwrite_append {data front back : Bytes} {k : Nat}
    (fits : k + front.length + back.length ≤ data.length) :
    (data.overwrite k front).overwrite (k + front.length) back =
      data.overwrite k (front ++ back) := by
  have before : (data.take k ++ front).length = k + front.length := by
    rw [List.length_append, List.length_take]
    omega
  have same : data.overwrite k front = data.take k ++ front ++ data.drop (k + front.length) := by
    rw [overwrite, List.take_of_length_le (l := front) (by omega)]
  rw [overwrite, length_overwrite, List.take_of_length_le (l := back) (by omega), same,
    List.take_left' before, ← List.drop_drop, List.drop_left' before, overwrite,
    List.take_of_length_le (l := front ++ back) (by rw [List.length_append]; omega), List.drop_drop,
    List.length_append, ← Nat.add_assoc, List.append_assoc (data.take k)]

/-- Zeros in front of a list, of which the last are written over. -/
theorem overwrite_zeros_append (k : Nat) (octets back : Bytes) :
    overwrite (List.replicate (k + octets.length) 0 ++ back) k octets =
      List.replicate k 0 ++ octets ++ back := by
  have zeros : (List.replicate (k + octets.length) (0 : UInt8)).length = k + octets.length :=
    List.length_replicate
  rw [overwrite, List.take_append_of_le_length (by omega), List.take_replicate,
    Nat.min_eq_left (Nat.le_add_right _ _), List.drop_left' zeros,
    List.take_of_length_le (l := octets) (by rw [List.length_append]; omega)]

/-- Zeros of which the last are written over. -/
theorem overwrite_zeros (k : Nat) (octets : Bytes) :
    overwrite (List.replicate (k + octets.length) 0) k octets = List.replicate k 0 ++ octets := by
  simpa using overwrite_zeros_append k octets []

/-- A stretch that is changed in itself and put back is changed in its place. -/
theorem overwrite_slice {data octets : Bytes} {place size start : Nat}
    (holds : place + size ≤ data.length) (fits : start + octets.length ≤ size) :
    data.overwrite place ((data.slice place size).overwrite start octets) =
      data.overwrite (place + start) octets := by
  apply List.ext_getElem?
  intro i
  simp only [overwrite, slice, List.getElem?_append, List.getElem?_take, List.getElem?_drop,
    List.length_append, List.length_take, List.length_drop]
  grind

end Bytes

/-- Octets written one stretch behind the other into a window are written at once. -/
theorem Buffer.overwrite_append {b : Buffer} {front back : Bytes} {k : Nat}
    (fits : k + front.length + back.length ≤ b.size) :
    (b.overwrite k front).overwrite (k + front.length) back = b.overwrite k (front ++ back) := by
  have holds := b.fits
  unfold overwrite
  congr 1
  simp only
  rw [List.take_of_length_le (l := front) (by omega),
    List.take_of_length_le (l := back) (by omega),
    List.take_of_length_le (l := front ++ back) (by rw [List.length_append]; omega),
    ← Nat.add_assoc]
  exact Bytes.overwrite_append (by omega)

namespace Checked

/-- The octets of the frame. -/
def window (b : Buffer) : Run Bytes := span b.store b.offset (b.offset + b.size)

/-- The buffer with another store and another window, which the store has to hold. -/
def place (b : Buffer) (store : Bytes) (offset size : Nat) : Run Buffer :=
  if fits : offset + size ≤ store.length then .ok { b with store, offset, size, fits }
  else .error (.stretch store.length offset (offset + size))

@[simp] theorem window_eq (b : Buffer) : window b = .ok b.window := by
  rw [window, span_eq (Nat.le_add_right _ _) b.fits, Nat.add_sub_cancel_left]
  rfl

theorem place_eq (b : Buffer) {store : Bytes} {offset size : Nat}
    (fits : offset + size ≤ store.length) :
    place b store offset size = .ok { b with store, offset, size, fits } := dif_pos fits

/-! ## Making buffers -/

/-- A buffer whose window lies behind `headroom` zeros. -/
def withHeadroom (direction : Direction) (headroom : Nat) (payload : Bytes) : Run Buffer := do
  let stop := headroom + payload.length
  let store ← put (List.replicate stop 0) headroom stop payload
  place (.ofBytes direction store) store headroom payload.length

/-- A copy of the window, with the usual headroom and all that is known about the frame. -/
def duplicate (b : Buffer) : Run Buffer := do
  let copy ← withHeadroom b.direction Buffer.defaultHeadroom (← window b)
  return { copy with
    flags := b.flags
    priority := b.priority
    rxStamped := b.rxStamped
    txStamped := b.txStamped
    frameType := b.frameType }

/-- An independent copy for relaying. -/
def duplicateForTx (b : Buffer) : Run Buffer := do
  return (← duplicate b).toTx

@[simp] theorem withHeadroom_eq (direction : Direction) (headroom : Nat) (payload : Bytes) :
    withHeadroom direction headroom payload = .ok (.withHeadroom direction headroom payload) := by
  simp only [withHeadroom]
  rw [put_eq rfl (Nat.le_of_eq List.length_replicate.symm), ok_bind, Bytes.overwrite_zeros,
    place_eq _ (by simp)]
  rfl

@[simp] theorem duplicate_eq (b : Buffer) : duplicate b = .ok b.duplicate := by
  rw [duplicate, window_eq, ok_bind, withHeadroom_eq]
  rfl

@[simp] theorem duplicateForTx_eq (b : Buffer) : duplicateForTx b = .ok b.duplicateForTx := by
  rw [duplicateForTx, duplicate_eq]
  rfl

/-! ## Moving the ends of the window -/

/-- Drops `n` octets from the front of the window, if it has as many. -/
def advance (b : Buffer) (n : Nat) : Attempt Error Buffer :=
  if b.size < n then throw (.truncated "frame" n b.size)
  else do
    let size ← minus b.size n
    place b b.store (b.offset + n) size

/-- The buffer with room for a header in front of the window: in a new store if the headroom is too
small. -/
def makeRoom (b : Buffer) (header : Bytes) : Run Buffer :=
  if b.offset < header.length then do
    let headroom := Buffer.defaultHeadroom + header.length
    let stop := headroom + b.size
    let store ← put (List.replicate stop 0) headroom stop (← window b)
    place b store headroom b.size
  else return b

/-- Puts a header in front of the window. -/
def prepend (b : Buffer) (header : Bytes) : Run Buffer := do
  let b ← makeRoom b header
  let offset ← minus b.offset header.length
  let store ← put b.store offset (offset + header.length) header
  place b store offset (b.size + header.length)

@[simp] theorem run_advance (b : Buffer) (n : Nat) : (advance b n).run = .ok (b.advance n) := by
  have fits := b.fits
  unfold advance Buffer.advance
  by_cases short : b.size < n
  · rw [if_pos short, dif_neg (by omega)]
    rfl
  · rw [if_neg short, dif_pos (by omega), minus_eq (by omega), lift_ok_bind,
      place_eq b (by omega)]
    rfl

@[simp] theorem prepend_eq (b : Buffer) (header : Bytes) :
    prepend b header = .ok (b.prepend header) := by
  have fits := b.fits
  unfold prepend makeRoom Buffer.prepend
  by_cases room : header.length ≤ b.offset
  · rw [if_neg (by omega), dif_pos room, pure_eq_ok, ok_bind, minus_eq room, ok_bind,
      put_eq rfl (by omega), ok_bind, place_eq b (by rw [Bytes.length_overwrite]; omega)]
  · have grown : put (List.replicate (Buffer.defaultHeadroom + header.length + b.size) 0)
        (Buffer.defaultHeadroom + header.length) (Buffer.defaultHeadroom + header.length + b.size)
        b.window =
          .ok (List.replicate (Buffer.defaultHeadroom + header.length) 0 ++ b.window) := by
      rw [put_eq (by rw [Buffer.length_window]) (Nat.le_of_eq List.length_replicate.symm),
        ← b.length_window, Bytes.overwrite_zeros]
    rw [if_pos (by omega), dif_neg room, window_eq, ok_bind, grown, ok_bind,
      place_eq b (by simp), ok_bind, minus_eq (Nat.le_add_left _ _), ok_bind]
    simp only [Nat.add_sub_cancel]
    rw [put_eq rfl (by simp), ok_bind, Bytes.overwrite_zeros_append, place_eq _ (by simp; omega)]

/-! ## Writing -/

/-- The buffer with octets copied over those of its window from one place up to another. -/
def putWindow (b : Buffer) (start stop : Nat) (octets : Bytes) : Run Buffer := do
  let frame ← put (← window b) start stop octets
  let store ← put b.store b.offset (b.offset + b.size) frame
  place b store b.offset b.size

/-- The buffer with the first octets of its window copied to another place in it. -/
def moveWithin (b : Buffer) (count target : Nat) : Run Buffer := do
  let octets ← span (← window b) 0 count
  putWindow b target (target + count) octets

theorem putWindow_eq {b : Buffer} {start stop : Nat} {octets : Bytes}
    (same : start + octets.length = stop) (fits : stop ≤ b.size) :
    putWindow b start stop octets = .ok (b.overwrite start octets) := by
  have store : b.store.overwrite b.offset (b.window.overwrite start octets) =
      b.store.overwrite (b.offset + start) (octets.take (b.size - start)) := by
    rw [List.take_of_length_le (by omega)]
    exact Bytes.overwrite_slice b.fits (by omega)
  rw [putWindow, window_eq, ok_bind, put_eq same (by rw [Buffer.length_window]; exact fits),
    ok_bind, put_eq (by rw [Bytes.length_overwrite, Buffer.length_window]) b.fits, ok_bind, store,
    place_eq b (by rw [Bytes.length_overwrite]; exact b.fits)]
  rfl

theorem moveWithin_eq {b : Buffer} {count target : Nat} (fits : target + count ≤ b.size) :
    moveWithin b count target = .ok (b.overwrite target (b.window.take count)) := by
  rw [moveWithin, window_eq, ok_bind, span_zero_eq (by rw [Buffer.length_window]; omega), ok_bind,
    putWindow_eq (by rw [List.length_take, Buffer.length_window]; omega) fits]

end Checked

end Airlink
