import Airlink.Proofs.Alike
import Airlink.Proofs.Bytes
import Airlink.Proofs.Screening

/-!
# A packet behind different headers

An `Msdu` is a packet with the two addresses and the SNAP header that it goes over the air with.
Behind an Ethernet-II header it has its ethertype in front (`ethernet`); behind an 802.3 header it
has a length and the SNAP header (`framed`). Translation turns the second form into the first
(`toEthernet_framed`), but only if it reads the length field as a length: from 0x0600 on it takes
the field for an ethertype and leaves the SNAP header in the packet.

`route_agree_iff` says when routing treats the two forms alike: if the length field is below 0x0600,
or if both are dropped because nobody knows the destination, and otherwise not.
-/

namespace Airlink

/-- A packet with the header that it goes over the air with. -/
structure Msdu where
  dest : HwAddr
  source : HwAddr
  header : Snap
  payload : Bytes
  deriving DecidableEq, Repr

namespace Msdu

/-- The packet behind its SNAP header. -/
def body (m : Msdu) : Bytes := m.header.encode ++ m.payload

/-- The addresses, destination first. -/
def addresses (m : Msdu) : Bytes := m.dest.toBytes ++ m.source.toBytes

/-- The packet behind an Ethernet-II header. -/
def ethernet (m : Msdu) : Bytes :=
  m.addresses ++ (Bytes.ofBe16 m.header.etherType ++ m.payload)

/-- The packet behind an 802.3 header with the given length field. -/
def framed (m : Msdu) (length : UInt16) : Bytes :=
  m.addresses ++ (Bytes.ofBe16 length ++ m.body)

/-- The SNAP header can be dropped for an ethertype. -/
structure Convertible (m : Msdu) : Prop where
  converts : m.header.convertsToEthernet = true
  isType : Translation.minEtherType ≤ m.header.etherType

theorem length_addresses (m : Msdu) : m.addresses.length = Translation.addressesSize := rfl

theorem length_encode (s : Snap) : s.encode.length = Snap.size := by
  obtain ⟨kind, type⟩ := s
  cases kind <;> rfl

@[simp] theorem length_body (m : Msdu) : m.body.length = Snap.size + m.payload.length := by
  rw [body, List.length_append, length_encode]

@[simp] theorem length_ethernet (m : Msdu) : m.ethernet.length = 14 + m.payload.length := by
  simp [ethernet, length_addresses, Translation.addressesSize]
  omega

@[simp] theorem length_framed (m : Msdu) (length : UInt16) :
    (m.framed length).length = 14 + m.body.length := by
  simp [framed, length_addresses, Translation.addressesSize]
  omega

/-! ## Reading the headers -/

theorem be16At_ethernet (m : Msdu) : m.ethernet.be16At 12 = m.header.etherType :=
  Bytes.be16At_append _ m.length_addresses

theorem be16At_framed (m : Msdu) (length : UInt16) : (m.framed length).be16At 12 = length :=
  Bytes.be16At_append _ m.length_addresses

theorem drop_framed (m : Msdu) (length : UInt16) :
    (m.framed length).drop Translation.headerSize = m.body := by
  rw [framed, ← List.append_assoc]
  exact List.drop_left' (by simp [length_addresses]; rfl)

theorem drop_ethernet (m : Msdu) :
    m.ethernet.drop Translation.headerSize = m.payload := by
  rw [ethernet, ← List.append_assoc]
  exact List.drop_left' (by simp [length_addresses]; rfl)

theorem body_eq (m : Msdu) :
    m.body = m.header.kind.octets ++ (Bytes.ofBe16 m.header.etherType ++ m.payload) :=
  List.append_assoc _ _ _

theorem length_octets (kind : SnapKind) : kind.octets.length = 6 := by
  cases kind <;> rfl

theorem be16At_body (m : Msdu) : m.body.be16At 6 = m.header.etherType := by
  rw [body_eq]
  exact Bytes.be16At_append _ (length_octets _)

/-- The header in front of a packet is recognized. -/
theorem parse?_body (m : Msdu) : Snap.parse? m.body = some m.header := by
  have long : ¬ m.body.length < Snap.size := by
    rw [length_body]
    omega
  have front : m.body.take 6 = m.header.kind.octets := by
    rw [body_eq]
    exact List.take_left' (length_octets _)
  rw [Snap.parse?, if_neg long, front, be16At_body]
  obtain ⟨dest, source, ⟨kind, type⟩, payload⟩ := m
  cases kind <;> rfl

theorem take_framed (m : Msdu) (length : UInt16) :
    (m.framed length).take Translation.addressesSize = m.addresses :=
  List.take_left' m.length_addresses

/-- Behind the length and the prefix of the SNAP header stands what an Ethernet-II header ends
with. -/
theorem drop_framed_prefix (m : Msdu) (length : UInt16) :
    (m.framed length).drop (Snap.size + Translation.addressesSize) =
      Bytes.ofBe16 m.header.etherType ++ m.payload := by
  rw [framed, body_eq, ← List.append_assoc, ← List.append_assoc]
  exact List.drop_left' (by simp [length_addresses, length_octets]; rfl)

end Msdu

/-! ## Translation -/

/-- The length field of a body that fits sixteen bits tells whether it is short. -/
theorem ofNat_lt_minEtherType {n : Nat} (h : n < 2 ^ 16) :
    UInt16.ofNat n < Translation.minEtherType ↔ n < 0x0600 := by
  rw [UInt16.lt_iff_toNat_lt, UInt16.toNat_ofNat_of_lt' h]
  rfl

namespace Buffer

theorem require_of_le (b : Buffer) {size : Nat} (part : String) (h : size ≤ b.size) :
    b.require size part = .ok () := by
  unfold require
  rw [if_neg (Nat.not_lt.2 h)]

/-- A frame with an ethertype in its header is left as it is. -/
theorem toEthernet_of_type {b : Buffer} (size : Translation.headerSize ≤ b.size)
    (h : Translation.minEtherType ≤ b.window.be16At 12) :
    b.toEthernet = .ok (.unchanged (b.window.be16At 12), b) := by
  unfold toEthernet
  rw [b.require_of_le _ size]
  simp only [bind, Except.bind, if_pos h]
  rfl

/-- A SNAP header behind a length is replaced by the ethertype that it holds. -/
theorem toEthernet_framed {b : Buffer} {m : Msdu} {length : UInt16}
    (converts : m.header.convertsToEthernet = true) (h : b.window = m.framed length)
    (short : length < Translation.minEtherType) :
    ∃ c, b.toEthernet = .ok (.ethernet m.header.etherType m.header.kind, c) ∧
      c.frame = { b.frame with bytes := m.ethernet } := by
  have size : b.size = 14 + m.body.length := by
    rw [← b.length_window, h, m.length_framed]
  have read : ¬ Translation.minEtherType ≤ (m.framed length).be16At 12 := by
    rw [m.be16At_framed]
    exact UInt16.not_le.2 short
  obtain ⟨c, hc, frame⟩ : ∃ c, (b.overwrite Snap.size m.addresses).advance Snap.size = .ok c ∧
      c.frame = (b.overwrite Snap.size m.addresses).frame.drop Snap.size := by
    refine advance_of_le _ ?_
    rw [← length_window, window_overwrite, Bytes.length_overwrite, length_window, size,
      m.length_body]
    omega
  refine ⟨c, ?_, ?_⟩
  · unfold toEthernet
    rw [b.require_of_le _ (by rw [size]; exact Nat.le_add_right _ _)]
    simp only [bind, Except.bind, h, if_neg read, m.drop_framed, m.parse?_body, if_pos converts,
      m.take_framed, hc]
    rfl
  · -- The addresses are written over what stands in front of the ethertype.
    have fits : Snap.size + m.addresses.length ≤ b.window.length := by
      rw [b.length_window, size, m.length_addresses, m.length_body]
      show Snap.size + 12 ≤ 14 + (Snap.size + m.payload.length)
      omega
    rw [frame, frame_overwrite, Frame.drop]
    simp only
    rw [Bytes.drop_overwrite fits, h, m.length_addresses, m.drop_framed_prefix]
    rfl

end Buffer

/-! ## Screening -/

namespace Screening

/-- An address resolution packet has its operation where the body has its ethertype. -/
theorem isGratuitousArp_body {m : Msdu} (hm : m.Convertible) : isGratuitousArp m.body = false := by
  have one : m.header.etherType ≠ 1 := by
    intro e
    exact absurd (e ▸ hm.isType) (by decide)
  have two : m.header.etherType ≠ 2 := by
    intro e
    exact absurd (e ▸ hm.isType) (by decide)
  simp [isGratuitousArp, m.be16At_body, one, two]

/-- An IPv6 packet has its next header where the body has the first octet of its ethertype. -/
theorem isUnsolicitedAdvert_body {m : Msdu} (h : m.header.etherType = EtherType.ipv6) :
    isUnsolicitedAdvert m.body = false := by
  have next : m.body.byteAt 6 = 0x86 := by
    rw [m.body_eq, h]
    cases m.header.kind <;> rfl
  simp [isUnsolicitedAdvert, next, icmpv6]

/-- A direct-link frame has its payload type where the body has its prefix. -/
theorem tdls_parse?_body (m : Msdu) : Tdls.parse? m.body = none := by
  have first : m.body.byteAt 0 = 0xaa := by
    rw [m.body_eq]
    cases m.header.kind <;> rfl
  unfold Tdls.parse?
  rw [if_pos (.inr (.inl (by rw [first]; decide)))]

/-- A packet behind a kept SNAP header is taken for no address resolution and no direct-link frame,
whatever ethertype it has; at most it is taken for a neighbour advertisement, and then it is not
an IPv6 packet. -/
theorem inspect_body {m : Msdu} (hm : m.Convertible) (type : UInt16) (filter : Bool) :
    inspect type m.body filter = .pass ∨
      (inspect type m.body filter = .drop .unsolicitedNeighborAdvert ∧
        m.header.etherType ≠ EtherType.ipv6) := by
  unfold inspect
  rw [isGratuitousArp_body hm, tdls_parse?_body, if_neg (by simp)]
  split
  · next advert =>
    refine .inr ⟨rfl, ?_⟩
    intro e
    rw [isUnsolicitedAdvert_body e] at advert
    exact Bool.noConfusion advert.2.2
  · split <;> exact .inl rfl

end Screening

/-! ## Routing -/

namespace Ingress

variable {bits : UInt32} {b c : Buffer} {m : Msdu} {length : UInt16}

/-- An Ethernet-II frame is sent on its way by its ethertype. -/
theorem route_ethernet (env : Env) (st : State) (hm : m.Convertible)
    (hc : c.window = m.ethernet) :
    route env st c = conclude env st c
      (Screening.inspect m.header.etherType m.payload env.settings.arpFilter) := by
  have size : Translation.headerSize ≤ c.size := by
    rw [← c.length_window, hc, m.length_ethernet]
    exact Nat.le_add_right _ _
  have type : c.window.be16At 12 = m.header.etherType := by rw [hc, m.be16At_ethernet]
  have translated := Buffer.toEthernet_of_type size (by rw [type]; exact hm.isType)
  rw [route_of_toEthernet env st translated, type, screen]
  simp only [Translation.networkLayer]
  rw [hc, m.drop_ethernet]

/-- A frame with a length in its header is sent on its way like the Ethernet-II frame. -/
theorem route_short (env : Env) (st : State) (hm : m.Convertible)
    (hb : b.frame = { c.frame.mark bits with bytes := m.framed length })
    (hc : c.window = m.ethernet) (short : length < Translation.minEtherType) :
    Agree bits (route env st b) (route env st c) := by
  obtain ⟨b', translated, frame⟩ :=
    Buffer.toEthernet_framed hm.converts (congrArg Frame.bytes hb) short
  have marks : Marks bits b' c := by
    rw [Marks, frame, hb, ← hc]
    rfl
  rw [route_of_toEthernet env st translated, route_ethernet env st hm hc, screen, marks.window, hc]
  simp only [Translation.networkLayer]
  rw [m.drop_ethernet]
  exact conclude_agree (Marks.congruence bits) env st marks _

/-- A frame whose length field is taken for an ethertype keeps its SNAP header. -/
theorem route_long (env : Env) (st : State) (hb : b.window = m.framed length)
    (long : Translation.minEtherType ≤ length) :
    route env st b = conclude env st b
      (Screening.inspect length m.body env.settings.arpFilter) := by
  have size : Translation.headerSize ≤ b.size := by
    rw [← b.length_window, hb, m.length_framed]
    exact Nat.le_add_right _ _
  have type : b.window.be16At 12 = length := by rw [hb, m.be16At_framed]
  have translated := Buffer.toEthernet_of_type size (by rw [type]; exact long)
  rw [route_of_toEthernet env st translated, type, screen]
  simp only [Translation.networkLayer]
  rw [hb, m.drop_framed]

/-- A frame that kept its SNAP header leaves the state alone. -/
theorem route_long_state (env : Env) (st : State) (hm : m.Convertible)
    (hb : b.window = m.framed length) (long : Translation.minEtherType ≤ length) :
    (route env st b).2 = st := by
  rw [route_long env st hb long]
  rcases Screening.inspect_body hm length env.settings.arpFilter with pass | ⟨dropped, -⟩
  · rw [pass]
    rfl
  · rw [dropped]
    rfl

/-- A frame is dropped only by the verdict, unless nobody knows its destination. -/
theorem conclude_eq_drop_iff (env : Env) (st : State) (c : Buffer) (verdict : Screening.Verdict)
    {reason : DropReason} (routed : reason ≠ .unroutableUnicast) :
    (conclude env st c verdict).1 = .drop reason ↔ verdict = .drop reason := by
  have sent (st : State) (dest : HwAddr) : routeTo env st c dest ≠ .drop reason := by
    intro dropped
    rcases routeTo_cases env st c dest with unroutable | goesOn
    · rw [dropped, Outcome.drop.injEq] at unroutable
      exact routed unroutable
    · rw [dropped] at goesOn
      cases goesOn
  cases verdict with
  | drop other => simp [conclude]
  | pass => exact iff_of_false (sent _ _) fun same => by cases same
  | tdls tdls => exact iff_of_false (sent _ _) fun same => by cases same

/-- A frame that kept its SNAP header goes on with it, so that it is not the Ethernet-II frame. What
remains is that neither goes on. -/
theorem route_long_agree (env : Env) (st : State) (hm : m.Convertible)
    (hb : b.window = m.framed length) (hc : c.window = m.ethernet)
    (long : Translation.minEtherType ≤ length)
    (agree : Agree bits (route env st b) (route env st c)) :
    (route env st b).1 = .drop .unroutableUnicast ∧
      route env st c = (.drop .unroutableUnicast, st) := by
  have state : (route env st c).2 = st := by
    rw [← agree.2, route_long_state env st hm hb long]
  rw [route_ethernet env st hm hc] at agree state ⊢
  rw [route_long env st hb long] at agree ⊢
  rcases Screening.inspect_body hm length env.settings.arpFilter with pass | ⟨dropped, notIpv6⟩
  · rw [pass] at agree ⊢
    rcases routeTo_cases env st b (HwAddr.ofSlice b.window 0) with unroutable | bytes
    · have alike := agree.1
      simp only [conclude, unroutable] at alike ⊢
      exact ⟨trivial, Prod.ext alike.drop_eq state⟩
    · have same := agree.1.bytes? fun _ _ h => h.window
      rw [show (conclude env st b .pass).1.bytes? = some b.window from bytes] at same
      rcases conclude_bytes? env st c
        (Screening.inspect m.header.etherType m.payload env.settings.arpFilter) with none | some
      · rw [none] at same
        cases same
      · rw [some, Option.some_inj, hb, hc] at same
        have sizes := congrArg List.length same
        rw [m.length_framed, m.length_ethernet, m.length_body] at sizes
        simp [Snap.size] at sizes
  · rw [dropped] at agree
    have advert := (conclude_eq_drop_iff env st c _ (by decide)).1 agree.1.drop_eq
    have takesOver := ((Screening.inspect_eq_drop_iff _ _ _ _).1 advert).2
    exact absurd takesOver (Screening.takeover?_ne_advert _ notIpv6)

/-- **The two headers.** Routing treats a packet behind an 802.3 header like the packet behind an
Ethernet-II header if the length field is below 0x0600, and otherwise just when it drops both
because nobody knows the destination. -/
theorem route_agree_iff (env : Env) (st : State) (hm : m.Convertible)
    (hb : b.frame = { c.frame.mark bits with bytes := m.framed length })
    (hc : c.window = m.ethernet) :
    Agree bits (route env st b) (route env st c) ↔
      length < Translation.minEtherType ∨ ((route env st b).1 = .drop .unroutableUnicast ∧
        route env st c = (.drop .unroutableUnicast, st)) := by
  have window : b.window = m.framed length := congrArg Frame.bytes hb
  by_cases short : length < Translation.minEtherType
  · exact iff_of_true (route_short env st hm hb hc short) (.inl short)
  · have long : Translation.minEtherType ≤ length := UInt16.not_lt.1 short
    constructor
    · intro agree
      exact .inr (route_long_agree env st hm window hc long agree)
    · rintro (h | ⟨hb', hc'⟩)
      · exact absurd h short
      · rw [Agree, hb', hc', route_long_state env st hm window long]
        exact ⟨.drop _, rfl⟩

end Ingress

end Airlink
