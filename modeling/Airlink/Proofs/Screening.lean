import Airlink.Screening
import Airlink.Translation

/-!
# What screening drops

A packet is dropped for one of two reasons, and `Screening.takeover?` says for which, if for any,
whether or not the filter is on. `Screening.inspect_eq_drop_iff` is all that anybody needs to know
about a look at a packet that ends in a drop. The two ethertypes that it is about stand in a type
field: neither is a length, and bridges tunnel neither.
-/

namespace Airlink

namespace Screening

/-- The reason to drop a packet with an ethertype, if it may take over an address. -/
def takeover? (etherType : UInt16) (packet : Bytes) : Option DropReason :=
  if etherType = EtherType.arp ∧ isGratuitousArp packet = true then some .gratuitousArp
  else if etherType = EtherType.ipv6 ∧ isUnsolicitedAdvert packet = true then
    some .unsolicitedNeighborAdvert
  else none

/-- The reason to drop an Ethernet-II frame, if its packet may take over an address. -/
def threat? (frame : Bytes) : Option DropReason :=
  takeover? (frame.be16At 12) (frame.drop Translation.headerSize)

/-- Every other ethertype is harmless. -/
theorem takeover?_of_ne {etherType : UInt16} (packet : Bytes) (notArp : etherType ≠ EtherType.arp)
    (notIpv6 : etherType ≠ EtherType.ipv6) : takeover? etherType packet = none := by
  rw [takeover?, if_neg fun h => notArp h.1, if_neg fun h => notIpv6 h.1]

/-- Only an IPv6 packet is a neighbour advertisement. -/
theorem takeover?_ne_advert {etherType : UInt16} (packet : Bytes)
    (notIpv6 : etherType ≠ EtherType.ipv6) :
    takeover? etherType packet ≠ some .unsolicitedNeighborAdvert := by
  unfold takeover?
  split
  · simp
  · simp [notIpv6]

/-- A look at a packet drops just the packets that may take over an address, and these only while
the filter is on. -/
theorem inspect_eq_drop_iff (etherType : UInt16) (packet : Bytes) (filter : Bool)
    (reason : DropReason) :
    inspect etherType packet filter = .drop reason ↔
      filter = true ∧ takeover? etherType packet = some reason := by
  have rest : (if etherType = EtherType.dot11Encap then
      (Tdls.parse? packet).elim Verdict.pass .tdls else .pass) ≠ .drop reason := by
    split
    · cases Tdls.parse? packet <;> nofun
    · nofun
  unfold inspect takeover?
  cases filter with
  | false =>
    rw [if_neg (by simp), if_neg (by simp)]
    exact iff_of_false rest nofun
  | true =>
    simp only [true_and]
    by_cases arp : etherType = EtherType.arp ∧ isGratuitousArp packet = true
    · rw [if_pos arp, if_pos arp]
      simp
    · rw [if_neg arp, if_neg arp]
      by_cases advert : etherType = EtherType.ipv6 ∧ isUnsolicitedAdvert packet = true
      · rw [if_pos advert, if_pos advert]
        simp
      · rw [if_neg advert, if_neg advert]
        exact iff_of_false rest nofun

/-- A frame with a length field threatens nobody. -/
theorem threat?_of_isLength {frame : Bytes} (h : frame.be16At 12 < Translation.minEtherType) :
    threat? frame = none := by
  refine takeover?_of_ne _ ?_ ?_
  · intro e
    rw [e] at h
    exact absurd h (by decide)
  · intro e
    rw [e] at h
    exact absurd h (by decide)

/-- An ethertype that bridges tunnel threatens nobody. -/
theorem takeover?_of_isTunnelled {etherType : UInt16} (h : EtherType.isTunnelled etherType = true)
    (packet : Bytes) : takeover? etherType packet = none := by
  refine takeover?_of_ne packet ?_ ?_
  · rintro rfl
    exact absurd h (by decide)
  · rintro rfl
    exact absurd h (by decide)

end Screening

end Airlink
