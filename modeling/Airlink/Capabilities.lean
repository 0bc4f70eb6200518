/-!
# Capabilities of a peer

What a peer has announced or negotiated, one bit to a capability. Capabilities are only ever joined,
so what is known about a peer grows until it is replaced as a whole.
-/

namespace Airlink

/-- A set of capabilities. -/
structure Capabilities where
  bits : UInt8
  deriving DecidableEq, Repr, Inhabited

namespace Capabilities

/-- No capability. -/
def none : Capabilities := ⟨0⟩

/-- Legacy modulation. -/
def legacy : Capabilities := ⟨0x01⟩
/-- HT modulation. -/
def ht : Capabilities := ⟨0x02⟩
/-- VHT modulation. -/
def vht : Capabilities := ⟨0x04⟩
/-- HE modulation. -/
def he : Capabilities := ⟨0x08⟩
/-- Aggregation of frames on the air. -/
def ampdu : Capabilities := ⟨0x10⟩
/-- Quality of service. -/
def qos : Capabilities := ⟨0x20⟩
/-- Extended capabilities. -/
def extended : Capabilities := ⟨0x40⟩
/-- The peer is reached through a direct link. -/
def directLink : Capabilities := ⟨0x80⟩

/-- The capabilities of both sets. -/
def union (a b : Capabilities) : Capabilities := ⟨a.bits ||| b.bits⟩

/-- Whether a set has all of another. -/
def has (a b : Capabilities) : Bool := a.bits &&& b.bits == b.bits

/-- Whether a set has no capability. -/
def isEmpty (a : Capabilities) : Bool := a.bits == 0

theorem union_assoc (a b c : Capabilities) : (a.union b).union c = a.union (b.union c) := by
  simp only [union, UInt8.or_assoc]

@[simp] theorem union_self (a : Capabilities) : a.union a = a := by
  simp only [union, UInt8.or_self]

@[simp] theorem has_self (a : Capabilities) : a.has a = true := by
  simp only [has, UInt8.and_self, beq_self_eq_true]

@[simp] theorem has_union (a b : Capabilities) : (a.union b).has a = true := by
  simp only [has, union, beq_iff_eq]
  rw [UInt8.and_comm]
  exact UInt8.toBitVec_inj.1 (by ext; simp +contextual)

end Capabilities

end Airlink
