import Airlink.Proofs.DirectLinks
import Airlink.Proofs.HwAddr
import Airlink.Proofs.RawIngress
import Airlink.Proofs.Receive.Outcomes
import Airlink.Proofs.Screened

/-!
# Which frames an access point relays

An access point relays a unicast frame to its own stations, or else to the sibling that knows the
destination, if its policy does not leave that to the host (`Forwarding.Relays`). The address that
it goes by is that of the frame on arrival, since translation keeps the addresses
(`Buffer.Collapses.addresses`), and what it learns from a direct-link frame on the way does not
change which stations it knows (`Ingress.contains_learn`). So a data frame is forwarded, and only
forwarded, if it is long enough, is not dropped by screening and is for somebody to whom the access
point relays (`Ingress.process_relayed`).
-/

namespace Airlink

/-! ## Decisions -/

namespace Forwarding

/-- The data path relays a unicast frame for an address to a place. -/
inductive Relays (v : View) (dest : HwAddr) : Scope → Prop where
  | own (known : v.stations.contains dest = true)
      (allowed : v.policy.has ForwardingPolicy.hostLocal = false) : Relays v dest .bss
  | sibling {bss : UInt8} (unknown : v.stations.contains dest = false)
      (located : v.near.locate? dest = some bss)
      (allowed : v.policy.has ForwardingPolicy.hostSibling = false) : Relays v dest (.sibling bss)

/-- A unicast frame that the data path relays is forwarded. -/
theorem decide_of_relays {v : View} {dest : HwAddr} {scope : Scope}
    (relaying : v.policy.isEnabled = true) (unicast : dest.isGroup = false)
    (foreign : dest ≠ v.ownAddr) (h : Relays v dest scope) (buf : Buffer) :
    decide v buf dest = .forward buf.toTx scope := by
  unfold decide decideUnicast
  cases h with
  | own known allowed => simp [relaying, unicast, foreign, known, allowed]
  | sibling unknown located allowed =>
    simp [relaying, unicast, foreign, unknown, located, allowed]

end Forwarding

/-! ## Translation -/

namespace Buffer

open Translation (headerSize addressesSize minEtherType)

/-- A frame that has room for a header is translated. -/
theorem exists_toEthernet {b : Buffer} (room : headerSize ≤ b.size) :
    ∃ translation c, b.toEthernet = .ok (translation, c) := by
  unfold toEthernet
  rw [b.require_of_le _ room]
  simp only [bind, Except.bind]
  split
  · exact ⟨_, _, rfl⟩
  · split
    · exact ⟨_, _, rfl⟩
    · next header found =>
      split
      · have behind := Snap.size_le_of_parse? found
        rw [List.length_drop, b.length_window] at behind
        obtain ⟨c, advanced, -⟩ :=
          (b.overwrite Snap.size (b.window.take addressesSize)).advance_of_le
            (show Snap.size ≤ b.size by omega)
        rw [advanced]
        exact ⟨_, _, rfl⟩
      · exact ⟨_, _, rfl⟩

/-- Translation changes octets only. -/
theorem Collapses.frame_eq {b c : Buffer} {translation : Translation}
    (h : b.Collapses translation c) : c.frame = { b.frame with bytes := c.window } := by
  cases h with
  | unchanged | llc | snap => rfl
  | ethernet isLength found converts frame =>
    have window : c.window =
        b.window.take addressesSize ++ b.window.drop (addressesSize + Snap.size) :=
      congrArg Frame.bytes frame
    rw [frame, window]

/-- Translation keeps the addresses. -/
theorem Collapses.addresses {b c : Buffer} {translation : Translation}
    (h : b.Collapses translation c) :
    c.window.take addressesSize = b.window.take addressesSize := by
  cases h with
  | unchanged | llc | snap => rfl
  | ethernet isLength found converts frame =>
    have window : c.window =
        b.window.take addressesSize ++ b.window.drop (addressesSize + Snap.size) :=
      congrArg Frame.bytes frame
    rw [window, List.take_left' (length_take_addresses found)]

end Buffer

/-! ## Stations -/

namespace Ingress

/-- What an access point learns from a direct-link frame changes nothing about who is known. -/
theorem contains_learn {env : Env} (role : env.settings.role = .accessPoint)
    (stations : StationTable) (peer : HwAddr) (tdls : Tdls) (dest : HwAddr) :
    (learn env stations peer tdls).contains dest = stations.contains dest := by
  rw [← StationTable.isSome_lookup?, ← StationTable.isSome_lookup?]
  exact (learn_learns env stations ⟨peer, tdls⟩).isSome_eq role dest

/-- What an access point decides by. -/
def view (env : Env) (stations : StationTable) : Forwarding.View where
  policy := env.settings.forwarding
  ownAddr := env.settings.ownAddr
  stations
  near := env.near
  monitorGroup := env.settings.groupMonitor

/-- Only who is known counts of the stations. -/
theorem relays_of_contains {env : Env} {stations others : StationTable} {dest : HwAddr}
    {scope : Scope} (same : others.contains dest = stations.contains dest)
    (h : Forwarding.Relays (view env stations) dest scope) :
    Forwarding.Relays (view env others) dest scope := by
  cases h with
  | own known allowed => exact .own (same.trans known) allowed
  | sibling unknown located allowed => exact .sibling (same.trans unknown) located allowed

/-- An access point relays a frame that passes screening. -/
theorem conclude_relayed {env : Env} {st : State} {c : Buffer} {verdict : Screening.Verdict}
    {scope : Scope} (role : env.settings.role = .accessPoint)
    (relaying : env.settings.forwarding.isEnabled = true)
    (unicast : (HwAddr.ofSlice c.window 0).isGroup = false)
    (foreign : HwAddr.ofSlice c.window 0 ≠ env.settings.ownAddr)
    (relays : Forwarding.Relays (view env st.stations) (HwAddr.ofSlice c.window 0) scope)
    (passed : ∀ reason, verdict ≠ .drop reason) :
    (conclude env st c verdict).1 = .forward c.toTx scope := by
  have routed (st' : State) (same : st'.stations.contains (HwAddr.ofSlice c.window 0) =
      st.stations.contains (HwAddr.ofSlice c.window 0)) :
      routeTo env st' c (HwAddr.ofSlice c.window 0) = .forward c.toTx scope := by
    unfold routeTo
    rw [role]
    exact Forwarding.decide_of_relays relaying unicast foreign (relays_of_contains same relays) c
  cases verdict with
  | drop reason => exact absurd rfl (passed reason)
  | pass => exact routed st rfl
  | tdls tdls => exact routed _ (contains_learn role _ _ _ _)

/-! ## Data frames -/

/-- The destination address of a data frame. -/
def destination (buf : Buffer) (desc : RxDescriptor) : HwAddr :=
  HwAddr.ofSlice (buf.window.drop desc.pktOffset.toNat) 0

/-- The source address of a data frame. -/
def source (buf : Buffer) (desc : RxDescriptor) : HwAddr :=
  HwAddr.ofSlice (buf.window.drop desc.pktOffset.toNat) 6

/-- A unicast data frame that an access point relays, if it knows where to. -/
structure Relayable (env : Env) (buf : Buffer) (desc : RxDescriptor) : Prop where
  decoded : RxDescriptor.decode buf.window = .ok desc
  isData : desc.frameClass = some .data
  room : Translation.headerSize ≤ desc.pktLength.toNat
  role : env.settings.role = .accessPoint
  relaying : env.settings.forwarding.isEnabled = true
  unicast : (destination buf desc).isGroup = false
  foreign : destination buf desc ≠ env.settings.ownAddr
  harmless : env.settings.arpFilter = true →
    (translated? env buf desc).bind Screening.threat? = none

/-- The payload of a buffer with a descriptor is what stands behind the offset. -/
theorem exists_strip_of_decode {buf : Buffer} {desc : RxDescriptor}
    (decoded : RxDescriptor.decode buf.window = .ok desc) :
    ∃ p, strip buf desc = .ok p ∧ p.size = desc.pktLength.toNat ∧
      p.frame = buf.frame.drop desc.pktOffset.toNat := by
  have length := RxDescriptor.length_drop_of_decode decoded
  have reached : desc.pktOffset.toNat ≤ buf.size := by
    have declared := RxDescriptor.payload?_of_decode decoded
    unfold RxDescriptor.payload? Bytes.slice? at declared
    split at declared
    · next fits => exact Nat.le_trans (Nat.le_add_right _ _) (buf.length_window ▸ fits)
    · cases declared
  obtain ⟨c, advanced, frame⟩ := buf.advance_of_le reached
  have window : c.window = buf.window.drop desc.pktOffset.toNat := congrArg Frame.bytes frame
  have size : c.size = desc.pktLength.toNat := by rw [← c.length_window, window, length]
  refine ⟨c.truncate desc.pktLength.toNat, by rw [strip, advanced]; rfl, ?_, ?_⟩
  · exact (Nat.min_eq_left (Nat.le_of_eq size)).trans size
  · rw [Buffer.frame_truncate, frame, window, List.take_of_length_le (Nat.le_of_eq length)]
    rfl

/-- Such a frame is forwarded, translated and otherwise as it came. -/
theorem process_relayed {env : Env} {buf : Buffer} {desc : RxDescriptor}
    (h : Relayable env buf desc) (st : State) {scope : Scope}
    (relays : Forwarding.Relays (view env st.stations) (destination buf desc) scope) :
    ∃ c : Buffer, translated? env buf desc = some c.window ∧
      c.frame = { buf.frame with bytes := c.window } ∧
      (process env st buf desc).1 = .forward c.toTx scope := by
  obtain ⟨p, stripped, size, payload⟩ := exists_strip_of_decode h.decoded
  obtain ⟨translation, c, translated⟩ := Buffer.exists_toEthernet (size ▸ h.room)
  have collapses := Buffer.collapses_of_toEthernet translated
  have carried : carried? env buf desc = some p := by
    simp [carried?, h.isData, stripped, Except.toOption]
  have found := translated?_of_toEthernet carried translated
  have window : p.window = buf.window.drop desc.pktOffset.toNat := congrArg Frame.bytes payload
  have dest : HwAddr.ofSlice c.window 0 = destination buf desc := by
    rw [destination, ← window]
    exact HwAddr.ofSlice_of_take_eq collapses.addresses (by decide)
  refine ⟨c, found, ?_, ?_⟩
  · rw [collapses.frame_eq, payload]
    rfl
  · rw [process_data h.isData stripped, route_of_toEthernet env st translated]
    refine conclude_relayed h.role h.relaying (dest ▸ h.unicast) (dest ▸ h.foreign)
      (dest ▸ relays) fun reason dropped => ?_
    obtain ⟨filter, threat⟩ := (screen_eq_drop_iff env translated reason).1 dropped
    have harmless := h.harmless filter
    rw [found, Option.bind_some, threat] at harmless
    cases harmless

end Ingress

end Airlink
