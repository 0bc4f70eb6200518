import Airlink.Proofs.HwAddr
import Airlink.Proofs.Translation

/-!
# SNAP headers off and on again

A frame whose SNAP header was collapsed is a packet behind an 802.3 header that became the same
packet behind an Ethernet-II header (`exists_framed_of_toEthernet`). Putting a header back with the
prefix that went gives the 802.3 frame with its length field computed anew, which is the frame as it
was just if that field was right. A frame that goes the other way first comes back as it was.
`toEthernet_inverse` has both directions, with the frames that no collapse changes.

The collapse is done in place: the addresses are moved before the window is. `collapse` follows it
step by step, and `collapse_eq` shows that no step fails after one that wrote.
-/

namespace Airlink

open Translation (headerSize addressesSize minEtherType)

/-! ## Frames as packets -/

namespace Msdu

variable {frame : Bytes}

/-- The packet of a frame with a SNAP header. -/
def ofFramed (header : Snap) (frame : Bytes) : Msdu where
  dest := .ofSlice frame 0
  source := .ofSlice frame 6
  header
  payload := frame.drop (headerSize + Snap.size)

/-- The packet of an Ethernet-II frame, with a prefix for the SNAP header that it could have. -/
def ofEthernet (kind : SnapKind) (frame : Bytes) : Msdu where
  dest := .ofSlice frame 0
  source := .ofSlice frame 6
  header := ⟨kind, frame.be16At addressesSize⟩
  payload := frame.drop headerSize

/-- The two addresses that a frame starts with. -/
theorem toBytes_append_toBytes (h : addressesSize ≤ frame.length) :
    (HwAddr.ofSlice frame 0).toBytes ++ (HwAddr.ofSlice frame 6).toBytes =
      frame.take addressesSize := by
  have long : 12 ≤ frame.length := h
  rw [HwAddr.toBytes_ofSlice (by omega), HwAddr.toBytes_ofSlice (by omega)]
  exact (List.take_add (i := 6) (j := 6)).symm

/-- The addresses, the word behind them and the rest are the frame. -/
theorem take_append_word (h : headerSize ≤ frame.length) :
    frame.take addressesSize ++
        (Bytes.ofBe16 (frame.be16At addressesSize) ++ frame.drop headerSize) = frame := by
  have room : addressesSize + 2 ≤ frame.length := h
  rw [Bytes.ofBe16_be16At room, show headerSize = addressesSize + 2 from rfl,
    Bytes.slice_append_drop, List.take_append_drop]

theorem ethernet_ofEthernet (kind : SnapKind) (h : headerSize ≤ frame.length) :
    (ofEthernet kind frame).ethernet = frame := by
  have addresses : addressesSize ≤ frame.length := Nat.le_trans (by decide) h
  rw [ethernet, Msdu.addresses, ofEthernet, toBytes_append_toBytes addresses, take_append_word h]

theorem framed_ofFramed {header : Snap}
    (found : Snap.parse? (frame.drop headerSize) = some header) :
    (ofFramed header frame).framed (frame.be16At addressesSize) = frame := by
  have long : headerSize ≤ frame.length := by
    have room := Snap.size_le_of_parse? found
    rw [List.length_drop] at room
    simp only [Snap.size] at room
    omega
  have addresses : addressesSize ≤ frame.length := Nat.le_trans (by decide) long
  have body : header.encode ++ frame.drop (headerSize + Snap.size) = frame.drop headerSize := by
    rw [← List.drop_drop, ← Snap.eq_encode_append_of_parse? found]
  rw [framed, Msdu.addresses, Msdu.body, ofFramed, toBytes_append_toBytes addresses, body,
    take_append_word long]

/-- A frame tells its length field and its SNAP header. -/
theorem framed_inj {m n : Msdu} {k l : UInt16} (h : m.framed k = n.framed l) :
    k = l ∧ m.header = n.header := by
  refine ⟨?_, ?_⟩
  · rw [← m.be16At_framed k, h, n.be16At_framed]
  · have bodies : m.body = n.body := by
      rw [← m.drop_framed k, h, n.drop_framed]
    have headers := congrArg Snap.parse? bodies
    rwa [m.parse?_body, n.parse?_body, Option.some_inj] at headers

end Msdu

/-- A frame with its length field computed anew, of which sixteen bits are kept. -/
def relength (frame : Bytes) : Bytes :=
  frame.take addressesSize ++
    (Bytes.ofBe16 (UInt16.ofNat (frame.length - headerSize)) ++ frame.drop headerSize)

theorem relength_framed (m : Msdu) (length : UInt16) :
    relength (m.framed length) = m.framed (UInt16.ofNat m.body.length) := by
  rw [relength, m.take_framed, m.drop_framed, m.length_framed,
    show headerSize = 14 from rfl, Nat.add_sub_cancel_left]
  rfl

/-- Computing the length anew changes nothing just if the length was right. -/
theorem framed_relength_iff (m : Msdu) (length : UInt16) :
    relength (m.framed length) = m.framed length ↔
      length = UInt16.ofNat ((m.framed length).length - headerSize) := by
  rw [relength_framed, m.length_framed, show headerSize = 14 from rfl, Nat.add_sub_cancel_left]
  refine ⟨fun same => (Msdu.framed_inj same).1.symm, fun right => ?_⟩
  rw [← right]

namespace Buffer

/-! ## Off and on again -/

/-- What a collapsed header was taken from. -/
theorem exists_framed_of_toEthernet {b c : Buffer} {type : UInt16} {kind : SnapKind}
    (h : b.toEthernet = .ok (.ethernet type kind, c)) :
    ∃ (m : Msdu) (length : UInt16), m.header = ⟨kind, type⟩ ∧ b.window = m.framed length ∧
      c.window = m.ethernet := by
  cases collapses_of_toEthernet h with
  | @ethernet header _ isLength found converts frame =>
    have framed := Msdu.framed_ofFramed found
    have window : c.window =
        b.window.take addressesSize ++ b.window.drop (addressesSize + Snap.size) :=
      congrArg Frame.bytes frame
    refine ⟨.ofFramed header b.window, b.window.be16At addressesSize, rfl, framed.symm, ?_⟩
    rw [window, ← framed, Msdu.take_framed, Nat.add_comm, Msdu.drop_framed_prefix, framed]
    rfl

/-- A header can be put into every Ethernet-II frame. -/
theorem toSnapWith_ethernet {b : Buffer} {m : Msdu} (h : b.window = m.ethernet)
    (kind : SnapKind) :
    ∃ c, b.toSnapWith kind = .ok c ∧
      c.window = ({ m with header := ⟨kind, m.header.etherType⟩ } : Msdu).framed
        (UInt16.ofNat m.body.length) := by
  have size : b.size = headerSize + m.payload.length := by
    rw [← b.length_window, h, m.length_ethernet]
    rfl
  have length : (b.prepend (List.replicate Snap.size 0)).size - headerSize = m.body.length := by
    rw [← length_window, window_prepend, List.length_append, b.length_window, size, m.length_body,
      List.length_replicate]
    omega
  unfold toSnapWith
  rw [b.require_of_le _ (by rw [size]; exact Nat.le_add_right _ _)]
  refine ⟨_, rfl, ?_⟩
  rw [window_overwrite, window_prepend, length, h, m.be16At_ethernet,
    show m.ethernet.take addressesSize = m.addresses from List.take_left' m.length_addresses]
  generalize UInt16.ofNat m.body.length = field
  have patch : (m.addresses ++ Bytes.ofBe16 field ++
      (Snap.mk kind m.header.etherType).encode).length = Snap.size + headerSize := by
    rw [List.length_append, List.length_append, m.length_addresses, Bytes.length_ofBe16,
      Msdu.length_encode]
    rfl
  have rest : (List.replicate Snap.size 0 ++ m.ethernet).drop (Snap.size + headerSize) =
      m.payload := by
    rw [← List.drop_drop, List.drop_left' List.length_replicate, m.drop_ethernet]
  rw [Bytes.overwrite_start, patch, rest]
  · simp only [Msdu.framed, Msdu.body, List.append_assoc]
    rfl
  · rw [patch, List.length_append, List.length_replicate, m.length_ethernet]
    simp only [headerSize]
    omega

/-- Unless it is told which prefix to use, putting a header in takes the one that its ethertype
calls for. -/
theorem toSnap_eq {b : Buffer} (size : headerSize ≤ b.size) :
    b.toSnap = b.toSnapWith (.forEtherType (b.window.be16At 12)) := by
  unfold toSnap
  rw [b.require_of_le _ size]
  rfl

/-- **Off and on.** With the prefix that went, the frame comes back with its length made anew. -/
theorem toSnapWith_of_toEthernet {b c : Buffer} {type : UInt16} {kind : SnapKind}
    (h : b.toEthernet = .ok (.ethernet type kind, c)) :
    ∃ d, c.toSnapWith kind = .ok d ∧ d.window = relength b.window ∧
      (d.window = b.window ↔ b.window.be16At 12 = UInt16.ofNat (b.window.length - headerSize)) := by
  obtain ⟨m, length, header, framed, ethernet⟩ := exists_framed_of_toEthernet h
  obtain ⟨d, put, window⟩ := toSnapWith_ethernet ethernet kind
  have same : ({ m with header := ⟨kind, m.header.etherType⟩ } : Msdu) = m := by
    rw [header, ← header]
  have anew : d.window = relength b.window := by
    rw [window, same, framed, relength_framed]
  refine ⟨d, put, anew, ?_⟩
  rw [anew, framed, m.be16At_framed]
  exact framed_relength_iff m length

/-- With the prefix that the ethertype calls for, that is the same frame just if the prefix is. -/
theorem toSnap_of_toEthernet {b c : Buffer} {type : UInt16} {kind : SnapKind}
    (h : b.toEthernet = .ok (.ethernet type kind, c)) :
    ∃ d, c.toSnap = .ok d ∧ (d.window = relength b.window ↔ kind = .forEtherType type) := by
  obtain ⟨m, length, header, framed, ethernet⟩ := exists_framed_of_toEthernet h
  obtain ⟨d, put, window⟩ := toSnapWith_ethernet ethernet (.forEtherType type)
  have found : c.window.be16At 12 = type := by
    rw [ethernet, m.be16At_ethernet, header]
  refine ⟨d, by rw [toSnap_eq (size_of_toEthernet h), found, put], ?_⟩
  rw [window, framed, relength_framed, header]
  constructor
  · intro same
    have headers := (Msdu.framed_inj same).2
    rw [header] at headers
    exact (congrArg Snap.kind headers).symm
  · intro right
    rw [← right, ← header]

/-- **On and off.** A frame comes back from behind a SNAP header, with what was said of the header,
if the header is one that is collapsed and the length is told from an ethertype. -/
theorem toEthernet_of_toSnapWith {b : Buffer} (size : headerSize ≤ b.size) {kind : SnapKind}
    (converts : (Snap.mk kind (b.window.be16At 12)).convertsToEthernet = true)
    (short : b.size - 6 < 0x0600) :
    ∃ c, b.toSnapWith kind = .ok c ∧
      ∃ d, c.toEthernet = .ok (.ethernet (b.window.be16At 12) kind, d) ∧ d.window = b.window := by
  have long : headerSize ≤ b.window.length := by rwa [b.length_window]
  have ethernet := Msdu.ethernet_ofEthernet kind long
  obtain ⟨c, put, window⟩ := toSnapWith_ethernet ethernet.symm kind
  have length : (Msdu.ofEthernet kind b.window).body.length < 0x0600 := by
    have whole := congrArg List.length ethernet
    rw [Msdu.length_ethernet, b.length_window] at whole
    rw [Msdu.length_body]
    simp only [Snap.size]
    omega
  obtain ⟨d, off, frame⟩ := toEthernet_framed (m := .ofEthernet kind b.window) converts window
    ((ofNat_lt_minEtherType (Nat.lt_trans length (by decide))).2 length)
  exact ⟨c, put, d, off, (congrArg Frame.bytes frame).trans ethernet⟩

/-! ## Frames that no collapse changes -/

/-- A collapse that finds no header to collapse leaves the buffer alone. -/
theorem Collapses.eq_of_not_ethernet {b c : Buffer} {translation : Translation}
    (h : b.Collapses translation c) (other : ∀ type kind, translation ≠ .ethernet type kind) :
    c = b := by
  cases h with
  | unchanged | llc | snap => rfl
  | ethernet => exact absurd rfl (other _ _)

/-- The collapse step by step: its result, and what it leaves of the buffer, also where it fails. -/
def collapse (b : Buffer) : Except Error Translation × Buffer :=
  match b.require headerSize "802.3 header" with
  | .error e => (.error e, b)
  | .ok () =>
    if minEtherType ≤ b.window.be16At 12 then (.ok (.unchanged (b.window.be16At 12)), b)
    else
      match Snap.parse? (b.window.drop headerSize) with
      | none => (.ok .llc, b)
      | some header =>
        if header.convertsToEthernet then
          -- From here on the addresses have been moved, whatever becomes of the window.
          let moved := b.overwrite Snap.size (b.window.take addressesSize)
          match moved.advance Snap.size with
          | .ok c => (.ok (.ethernet header.etherType header.kind), c)
          | .error e => (.error e, moved)
        else (.ok (.snap header), b)

/-- No step fails after one that wrote. -/
theorem collapse_eq (b : Buffer) :
    b.collapse = match b.toEthernet with
      | .ok (translation, c) => (.ok translation, c)
      | .error e => (.error e, b) := by
  unfold collapse toEthernet
  cases b.require headerSize "802.3 header" with
  | error e => rfl
  | ok _ =>
    by_cases isType : minEtherType ≤ b.window.be16At 12
    · simp only [bind, Except.bind, if_pos isType]
      rfl
    · cases found : Snap.parse? (b.window.drop headerSize) with
      | none =>
        simp only [bind, Except.bind, if_neg isType, found]
        rfl
      | some header =>
        by_cases converts : header.convertsToEthernet = true
        · have room := Snap.size_le_of_parse? found
          rw [List.length_drop, b.length_window] at room
          -- A frame that has a SNAP header has the octets that the window moves on by.
          obtain ⟨c, advanced, -⟩ :=
            (b.overwrite Snap.size (b.window.take addressesSize)).advance_of_le
              (show Snap.size ≤ b.size by omega)
          simp only [bind, Except.bind, if_neg isType, found, if_pos converts, advanced]
          rfl
        · simp only [bind, Except.bind, if_neg isType, found, if_neg converts]
          rfl

/-- A collapse that fails leaves the buffer alone. -/
theorem collapse_of_error {b : Buffer} {e : Error} (h : b.toEthernet = .error e) :
    b.collapse = (.error e, b) := by
  rw [collapse_eq, h]

/-! ## Both directions -/

/-- **SNAP and Ethernet headers.** A collapsed header leaves the addresses and what stood from its
ethertype on. Put back with the prefix that went, it gives the frame with its length field computed
anew, which is the frame just if that field was right; put back with the prefix that the ethertype
calls for, it gives the same just if that is the prefix that went. A collapse that finds no header
to collapse, or fails, changes nothing. In the other direction a frame comes back from behind a SNAP
header, with its ethertype and the prefix reported, unless the prefix is the ordinary one and the
ethertype is tunnelled, or the frame is so long that its length reads as an ethertype. -/
theorem toEthernet_inverse (b : Buffer) :
    (∀ type kind c, b.toEthernet = .ok (.ethernet type kind, c) →
      c.window = b.window.take 12 ++ b.window.drop 20 ∧
      (∃ d, c.toSnapWith kind = .ok d ∧ d.window = relength b.window ∧
        (d.window = b.window ↔ b.window.be16At 12 = UInt16.ofNat (b.window.length - 14))) ∧
      ∃ d, c.toSnap = .ok d ∧ (d.window = relength b.window ↔ kind = .forEtherType type)) ∧
    (∀ translation c, b.toEthernet = .ok (translation, c) →
      (∀ type kind, translation ≠ .ethernet type kind) → c.window = b.window) ∧
    (∀ e, b.toEthernet = .error e → b.collapse = (.error e, b)) ∧
    (14 ≤ b.window.length → b.window.length - 6 < 0x0600 → ∀ kind,
      ¬ (kind = .rfc1042 ∧ (b.window.be16At 12 = EtherType.appleTalkArp ∨
        b.window.be16At 12 = EtherType.ipx)) →
      ∃ c, b.toSnapWith kind = .ok c ∧
        ∃ d, c.toEthernet = .ok (.ethernet (b.window.be16At 12) kind, d) ∧
          d.window = b.window) := by
  refine ⟨?_, ?_, fun e => collapse_of_error, ?_⟩
  · intro type kind c collapsed
    refine ⟨?_, toSnapWith_of_toEthernet collapsed, toSnap_of_toEthernet collapsed⟩
    cases collapses_of_toEthernet collapsed with
    | ethernet isLength found converts frame => exact congrArg Frame.bytes frame
  · intro translation c collapsed other
    rw [(collapses_of_toEthernet collapsed).eq_of_not_ethernet other]
  · intro long short kind allowed
    rw [b.length_window] at long short
    refine toEthernet_of_toSnapWith long ?_ short
    cases kind with
    | bridgeTunnel => rfl
    | rfc1042 =>
      have notTunnelled := not_or.1 fun tunnelled => allowed ⟨rfl, tunnelled⟩
      simp [Snap.convertsToEthernet, EtherType.isTunnelled, notTunnelled.1, notTunnelled.2]

/-- An IPX packet under the prefix for tunnelling, with a length field that is wrong: it comes back
with the right one. As an Ethernet-II frame it is left as it is, and comes back from behind the
prefix. Ten octets are too few for a header. -/
theorem toEthernet_inverse_ipx :
    let packet : Msdu :=
      ⟨⟨2, 0, 0, 0, 0, 0xd⟩, ⟨2, 0, 0, 0, 0, 5⟩, ⟨.bridgeTunnel, EtherType.ipx⟩, [0xff, 0xff, 0]⟩
    let framed := ofBytes .rx (packet.framed 0x0123)
    let plain := ofBytes .rx packet.ethernet
    let short := ofBytes .rx (List.replicate 10 0)
    (∃ c, framed.toEthernet = .ok (.ethernet EtherType.ipx .bridgeTunnel, c) ∧
      c.window = framed.window.take 12 ++ framed.window.drop 20 ∧
      (∃ d, c.toSnapWith .bridgeTunnel = .ok d ∧ d.window = packet.framed 11 ∧
        d.window ≠ framed.window) ∧
      ∃ d, c.toSnap = .ok d ∧ d.window = packet.framed 11) ∧
    (∃ c, plain.toEthernet = .ok (.unchanged EtherType.ipx, c) ∧ c.window = plain.window) ∧
    (short.toEthernet = .error (.truncated "802.3 header" 14 10) ∧
      short.collapse = (.error (.truncated "802.3 header" 14 10), short)) ∧
    ∃ c, plain.toSnapWith .bridgeTunnel = .ok c ∧
      ∃ d, c.toEthernet = .ok (.ethernet EtherType.ipx .bridgeTunnel, d) ∧
        d.window = plain.window := by
  intro packet framed plain short
  have anew : relength framed.window = packet.framed 11 := by decide
  have type : plain.window.be16At 12 = EtherType.ipx := by decide
  have kept := toEthernet_of_type (b := plain) (by decide) (by decide)
  have back := (toEthernet_inverse plain).2.2.2 (by decide) (by decide) .bridgeTunnel (by decide)
  rw [type] at kept back
  refine ⟨?_, ⟨plain, kept, ?_⟩, ⟨rfl, (toEthernet_inverse short).2.2.1 _ rfl⟩, back⟩
  · obtain ⟨c, collapsed, -⟩ :=
      toEthernet_framed (b := framed) (m := packet) rfl (window_ofBytes _ _) (by decide)
    obtain ⟨window, ⟨d, put, length, same⟩, ⟨d', put', same'⟩⟩ :=
      (toEthernet_inverse framed).1 _ _ c collapsed
    refine ⟨c, collapsed, window, ⟨d, put, length.trans anew, ?_⟩, d', put', ?_⟩
    · intro unchanged
      exact absurd (same.1 unchanged) (by decide)
    · exact (same'.2 (by decide)).trans anew
  · exact (toEthernet_inverse plain).2.1 _ plain kept nofun

end Buffer

end Airlink
