import Airlink.Buffer

/-!
# Aggregates

An aggregate carries several frames in one: each part is `DA SA length body`, with the length
big-endian, and is padded to a multiple of four octets except at the end. `Aggregate.cut` finds the
parts of a payload and what is left over; `Aggregate.split` makes a buffer of each.
-/

namespace Airlink

namespace Aggregate

/-- The octets of a part in front of its body. -/
def headerSize : Nat := 14

/-- The octets of the part that a payload starts with, if it holds all of them. -/
def partSize? (payload : Bytes) : Option Nat :=
  if payload.length < headerSize then none
  else
    let size := headerSize + (payload.be16At 12).toNat
    if payload.length < size then none else some size

theorem le_of_partSize? {payload : Bytes} {n : Nat} (h : partSize? payload = some n) :
    headerSize ≤ n ∧ n ≤ payload.length := by
  unfold partSize? at h
  split at h
  · cases h
  · simp only at h
    split at h
    · cases h
    · cases h
      omega

/-- A number of octets rounded up to a multiple of four. -/
def padded (size : Nat) : Nat := (size + 3) / 4 * 4

theorem le_padded (size : Nat) : size ≤ padded size := by
  unfold padded
  omega

/-- The parts of a payload in order, and the rest that is no part. -/
def cut (payload : Bytes) : List Bytes × Bytes :=
  match _h : partSize? payload with
  | none => ([], payload)
  | some size =>
    let (parts, rest) := cut (payload.drop (padded size))
    (payload.take size :: parts, rest)
termination_by payload.length
decreasing_by
  have hb := le_of_partSize? _h
  have hp := le_padded size
  simp only [headerSize] at hb
  simp only [List.length_drop]
  omega

/-- One part as a buffer of its own, with what is known about the aggregate it came in. -/
def partBuffer (parent : Buffer) (part : Bytes) : Buffer :=
  { Buffer.withHeadroom .rx Buffer.defaultHeadroom part with
    priority := parent.priority
    rxStamped := parent.rxStamped
    flags := parent.flags.insert BufferFlags.amsduSubframe }

/-- The parts of a payload as buffers, and whether some of the payload was no part. -/
def split (payload : Bytes) (parent : Buffer) : List Buffer × Bool :=
  let (parts, rest) := cut payload
  (parts.map (partBuffer parent), !rest.isEmpty)

@[simp] theorem window_partBuffer (parent : Buffer) (part : Bytes) :
    (partBuffer parent part).window = part :=
  Buffer.window_withHeadroom .rx Buffer.defaultHeadroom part

end Aggregate

end Airlink
