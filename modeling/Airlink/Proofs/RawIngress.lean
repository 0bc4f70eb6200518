import Airlink.Proofs.Header

/-!
# Raw frames at an access point

An access point takes the packet out of a raw 802.11 data frame by writing an 802.3 header in front
of its body, with the addresses that the distribution-system bits select and the length of the body,
and then goes on as with any data frame. `process_raw_agree_iff` compares this with the same packet
received as an Ethernet-II frame. The two agree as long as the body is shorter than 0x0600 octets. A
longer body has a length that the next step reads as an ethertype; its SNAP header stays, and the
two agree only where both are dropped because nobody knows the destination.
-/

namespace Airlink.Ingress

open Ieee80211 (Header)

/-- A payload is no longer than its descriptor says. -/
theorem size_strip {buf payload : Buffer} {desc : RxDescriptor}
    (h : strip buf desc = .ok payload) : payload.size < 2 ^ 16 := by
  unfold strip at h
  cases ha : buf.advance desc.pktOffset.toNat with
  | error e => rw [ha] at h; cases h
  | ok b =>
    rw [ha] at h
    cases h
    exact Nat.lt_of_le_of_lt (Nat.min_le_right _ _) desc.pktLength.toNat_lt

/-- A descriptor may name the whole buffer as payload. -/
theorem strip_whole {buf : Buffer} {desc : RxDescriptor} (start : desc.pktOffset = 0)
    (size : desc.pktLength.toNat = buf.size) :
    ∃ p, strip buf desc = .ok p ∧ p.frame = buf.frame := by
  obtain ⟨c, hc, frame⟩ := buf.advance_of_le (Nat.zero_le buf.size)
  refine ⟨c.truncate buf.size, ?_, ?_⟩
  · unfold strip
    rw [start, show (0 : UInt16).toNat = 0 from rfl, hc, size]
    rfl
  · have same : c.frame = buf.frame := frame
    have window : c.window = buf.window := congrArg Frame.bytes same
    rw [Buffer.frame_truncate, window, same,
      List.take_of_length_le (Nat.le_of_eq buf.length_window)]
    rfl

/-- A data frame is routed as it is. -/
theorem process_data {data q : Buffer} {e : RxDescriptor} (isData : e.frameClass = some .data)
    (hq : strip data e = .ok q) (env : Env) (st : State) :
    process env st data e = route env st q := by
  simp only [process, isData, withPayload, hq]

/-- An access point routes the packet of a raw data frame behind an 802.3 header. -/
theorem process_raw {raw p : Buffer} {d : RxDescriptor} (isRaw : d.frameClass = some .raw80211)
    (hp : strip raw d = .ok p) {h : Header} {m : Msdu} (parsed : Header.parse p.window = .ok h)
    (type : h.frameControl.type = .data) (notNull : h.frameControl.isNullData = false)
    (dest : m.dest = h.destination) (source : m.source = h.source)
    (body : p.window.drop h.size = m.body) :
    ∃ c, c.frame = { p.frame with bytes := m.framed (UInt16.ofNat m.body.length) } ∧
      ∀ env st, env.settings.role = .accessPoint →
        process env st raw d = route env st c := by
  obtain ⟨c, translated, frame⟩ :=
    Buffer.dot11To8023_framed parsed type notNull dest source body
  refine ⟨c, frame, ?_⟩
  intro env st role
  simp only [process, isRaw, withPayload, hp, processRaw, role, translated]

/-- **Raw frames and Ethernet-II frames.** Let an access point receive a raw 802.11 data frame with
a body, which is a packet behind a SNAP header that can be dropped, and the same packet as a data
frame behind an Ethernet-II header, with the same direction, flags and priority. It treats them
alike (the same outcome with the same frames in its buffers, the same stations, the same reports) if
the body is shorter than 0x0600 octets, and otherwise just when it drops both because nobody knows
the destination. -/
theorem process_raw_agree_iff (env : Env) (st : State)
    (role : env.settings.role = .accessPoint) {raw data p q : Buffer} {d e : RxDescriptor}
    (isRaw : d.frameClass = some .raw80211) (isData : e.frameClass = some .data)
    (hp : strip raw d = .ok p) (hq : strip data e = .ok q) {h : Header} {m : Msdu}
    (parsed : Header.parse p.window = .ok h) (type : h.frameControl.type = .data)
    (notNull : h.frameControl.isNullData = false) (dest : m.dest = h.destination)
    (source : m.source = h.source) (body : p.window.drop h.size = m.body)
    (convertible : m.Convertible) (frame : q.frame = { p.frame with bytes := m.ethernet }) :
    Agree 0 (process env st raw d) (process env st data e) ↔
      m.body.length < 0x0600 ∨ ((process env st raw d).1 = .drop .unroutableUnicast ∧
        process env st data e = (.drop .unroutableUnicast, st)) := by
  obtain ⟨c, cFrame, routed⟩ := process_raw isRaw hp parsed type notNull dest source body
  have fits : m.body.length < 2 ^ 16 := by
    rw [← body, List.length_drop, p.length_window]
    exact Nat.lt_of_le_of_lt (Nat.sub_le _ _) (size_strip hp)
  rw [routed env st role, process_data isData hq, ← ofNat_lt_minEtherType fits]
  refine route_agree_iff env st convertible ?_ (congrArg Frame.bytes frame)
  rw [cFrame, frame, Frame.mark_zero]

/-! ## Frames of both lengths -/

/-- A header of three addresses for a frame on its way to an access point. -/
def toAccessPoint (bssid source dest : HwAddr) : Bytes :=
  [0x08, 0x01, 0, 0] ++ bssid.toBytes ++ source.toBytes ++ dest.toBytes ++ [0, 0]

/-- What such a header says. -/
def headerToAccessPoint (bssid source dest : HwAddr) : Header where
  frameControl := ⟨0x0108⟩
  duration := 0
  addr1 := bssid
  addr2 := source
  addr3 := dest
  addr4 := none
  seqCtrl := 0
  qosCtrl := none
  htCtrl := none
  size := 24

theorem parse_toAccessPoint (bssid source dest : HwAddr) (body : Bytes) :
    Header.parse (toAccessPoint bssid source dest ++ body) =
      .ok (headerToAccessPoint bssid source dest) := by
  have control : (toAccessPoint bssid source dest ++ body).le16At 0 = 0x0108 := rfl
  have size : Header.formatEnd 0x0108 = 24 := by decide
  have threeAddresses : Header.announcesAddr4 0x0108 = false := by decide
  have noQos : Header.announcesQos 0x0108 = false := by decide
  have noHt : Header.announcesHt 0x0108 = false := by decide
  refine Header.parse_eq_ok_iff.2 ⟨?_, by rw [control]; decide, ?_⟩
  · rw [control, size, List.length_append]
    exact Nat.le_add_right 24 _
  · simp only [Header.laidOut, control, size, threeAddresses, noQos, noHt]
    rfl

/-- The descriptor of a buffer that is all payload. -/
def covering (frameClass : FrameClass) (payload : Bytes) : RxDescriptor :=
  { (default : RxDescriptor).forSubframe payload.length with pktType := frameClass.code }

theorem strip_covering (direction : Direction) (frameClass : FrameClass) (payload : Bytes)
    (fits : payload.length < 2 ^ 16) :
    ∃ p, strip (Buffer.ofBytes direction payload) (covering frameClass payload) = .ok p ∧
      p.frame = ⟨payload, direction, .none, 0⟩ := by
  have size : (covering frameClass payload).pktLength.toNat =
      (Buffer.ofBytes direction payload).size := UInt16.toNat_ofNat_of_lt' fits
  obtain ⟨p, hp, frame⟩ := strip_whole (by rfl) size
  refine ⟨p, hp, ?_⟩
  rw [frame, Buffer.frame, Buffer.window_ofBytes]
  rfl

/-- A packet for an access point as a raw frame. -/
def rawFrame (bssid : HwAddr) (m : Msdu) : Bytes := toAccessPoint bssid m.source m.dest ++ m.body

theorem strip_rawFrame (bssid : HwAddr) {m : Msdu} (fits : (rawFrame bssid m).length < 2 ^ 16) :
    ∃ p, strip (Buffer.ofBytes .rx (rawFrame bssid m)) (covering .raw80211 (rawFrame bssid m)) =
        .ok p ∧
      p.frame = ⟨rawFrame bssid m, .rx, .none, 0⟩ ∧
      Header.parse p.window = .ok (headerToAccessPoint bssid m.source m.dest) ∧
      p.window.drop 24 = m.body := by
  obtain ⟨p, hp, frame⟩ := strip_covering .rx .raw80211 _ fits
  have window : p.window = rawFrame bssid m := congrArg Frame.bytes frame
  refine ⟨p, hp, frame, ?_, ?_⟩
  · rw [window]
    exact parse_toAccessPoint bssid m.source m.dest m.body
  · rw [window]
    exact List.drop_left' (by rfl)

/-- An access point with the usual settings. -/
def accessPoint : Env where
  settings := {
    role := .accessPoint
    ownAddr := ⟨2, 0, 0, 0, 1, 1⟩
    mgmtPassthrough := false
    arpFilter := true
    rawMonitor := false
    groupMonitor := false
    forwarding := .standard }
  near := []
  now := 0

/-- No station is known and nothing was reported. -/
def quiet : State := ⟨.empty 64 0, []⟩

/-- An IPv4 packet of a number of zeros. -/
def zeros (n : Nat) : Msdu :=
  ⟨⟨0xde, 0xad, 0, 0, 0, 1⟩, ⟨0, 0x11, 0x22, 0x33, 0x44, 0x55⟩, .ofEtherType EtherType.ipv4,
    List.replicate n 0⟩

theorem zeros_convertible (n : Nat) : (zeros n).Convertible :=
  ⟨rfl, show Translation.minEtherType ≤ EtherType.ipv4 by decide⟩

theorem length_payload_zeros (n : Nat) : (zeros n).payload.length = n := List.length_replicate

theorem length_zeros (n : Nat) : (zeros n).body.length = 8 + n := by
  rw [Msdu.length_body, length_payload_zeros]
  rfl

/-- Nobody knows the destination, so that the host decides. -/
theorem route_zeros {n : Nat} {q : Buffer} (h : q.window = (zeros n).ethernet) :
    route accessPoint quiet q = (.deliver q, quiet) := by
  have pass (packet : Bytes) : Screening.inspect EtherType.ipv4 packet true = .pass := rfl
  rw [route_ethernet accessPoint quiet (zeros_convertible n) h]
  show conclude accessPoint quiet q (Screening.inspect EtherType.ipv4 _ true) = _
  have dest : HwAddr.ofSlice (zeros n).ethernet 0 = ⟨0xde, 0xad, 0, 0, 0, 1⟩ := rfl
  have enabled : ForwardingPolicy.standard.isEnabled = true := by decide
  have single : (HwAddr.mk 0xde 0xad 0 0 0 1).isGroup = false := by decide
  have host : ForwardingPolicy.standard.has ForwardingPolicy.hostSibling = true := by decide
  rw [pass, conclude, h, dest]
  simp [routeTo, accessPoint, quiet, Forwarding.decide, Forwarding.decideUnicast,
    Neighbors.locate?, StationTable.contains, StationTable.empty, enabled, single, host]

/-- With a length field from 0x0600 on the frame goes on with its SNAP header, and so not as the
Ethernet-II frame. -/
theorem not_alike_zeros {n : Nat} {length : UInt16} {bits : UInt32} {b q : Buffer}
    (hb : b.window = (zeros n).framed length) (hq : q.window = (zeros n).ethernet)
    (long : Translation.minEtherType ≤ length) :
    ¬ (route accessPoint quiet b).1.Alike (Marks bits) (route accessPoint quiet q).1 := by
  intro alike
  have states : (route accessPoint quiet b).2 = (route accessPoint quiet q).2 := by
    rw [route_long_state accessPoint quiet (zeros_convertible n) hb long, route_zeros hq]
  obtain ⟨-, unroutable⟩ := route_long_agree accessPoint quiet (zeros_convertible n) hb hq long
    ⟨alike, states⟩
  rw [route_zeros hq] at unroutable
  cases unroutable

/-- A short raw frame: the access point delivers it as the Ethernet-II frame. -/
theorem process_raw_agree_iff_short :
    let raw := rawFrame ⟨2, 0, 0, 0, 1, 1⟩ (zeros 3)
    let data := (zeros 3).ethernet
    Agree 0
      (process accessPoint quiet (Buffer.ofBytes .rx raw) (covering .raw80211 raw))
      (process accessPoint quiet (Buffer.ofBytes .rx data) (covering .data data)) := by
  intro raw data
  obtain ⟨p, hp, frame, parsed, body⟩ :=
    strip_rawFrame ⟨2, 0, 0, 0, 1, 1⟩ (m := zeros 3) (by decide)
  obtain ⟨q, hq, frame'⟩ := strip_covering .rx .data data (by decide)
  exact (process_raw_agree_iff accessPoint quiet rfl rfl rfl hp hq parsed (by decide) (by decide)
    rfl rfl body (zeros_convertible 3) (by rw [frame', frame])).2 (.inl (by decide))

/-- A raw frame whose body has 0x0600 octets: the access point delivers it with its SNAP header, and
so not as the Ethernet-II frame. -/
theorem process_raw_long :
    let raw := rawFrame ⟨2, 0, 0, 0, 1, 1⟩ (zeros 1528)
    let data := (zeros 1528).ethernet
    ¬ Agree 0
      (process accessPoint quiet (Buffer.ofBytes .rx raw) (covering .raw80211 raw))
      (process accessPoint quiet (Buffer.ofBytes .rx data) (covering .data data)) := by
  intro raw data agree
  have size : (zeros 1528).body.length = 1536 := length_zeros 1528
  obtain ⟨p, hp, frame, parsed, body⟩ := strip_rawFrame ⟨2, 0, 0, 0, 1, 1⟩ (m := zeros 1528)
    (by rw [rawFrame, List.length_append, size]; decide)
  obtain ⟨q, hq, frame'⟩ := strip_covering .rx .data data
    (by rw [Msdu.length_ethernet, length_payload_zeros]; decide)
  obtain ⟨c, cFrame, routed⟩ := process_raw rfl hp parsed (by decide) (by decide) rfl rfl body
  rw [routed accessPoint quiet rfl, process_data rfl hq] at agree
  exact not_alike_zeros (congrArg Frame.bytes cFrame) (congrArg Frame.bytes frame')
    (by rw [size]; decide) agree.1

end Airlink.Ingress
