import Airlink.Interface
import Airlink.Proofs.Radiotap.Agreement
import Airlink.Proofs.Relaying

/-!
# Raw frames for a monitor

A station that monitors hands the buffer of a raw frame on, with a radiotap header written over the
descriptor or, where that is too short, into a new store. An access point needs the buffer for its
data path and makes a copy. What the monitor gets is the same either way (`IsMonitorFrame`): the
radiotap header of the reception and the 802.11 frame behind it, under the flags of the buffer and
one more.

`Ingress.monitor_in_place_agree` compares the two for every raw frame, reads the header back, and
says that the data path goes on as if no copy had been made.
-/

namespace Airlink

namespace Buffer

@[simp] theorem frameType_prepend (b : Buffer) (header : Bytes) :
    (b.prepend header).frameType = b.frameType := by
  unfold prepend
  split
  · rfl
  · rfl

end Buffer

namespace Radiotap

/-- The radiotap header in front of a frame is read as that of its reception, with its length. -/
theorem parse_prefixed (r : Reception) (frame : Bytes) :
    parse (prefixed r frame) = .ok ((ofReception r).written, (ofReception r).encode.length) :=
  parse_encode (consistent_ofReception r) frame

/-- The frame stands behind it. -/
theorem drop_prefixed (r : Reception) (frame : Bytes) :
    (prefixed r frame).drop (ofReception r).encode.length = frame := List.drop_left' rfl

end Radiotap

namespace Ingress

/-! ## What a monitor gets -/

/-- A buffer holds what a monitor gets of a raw frame. -/
structure IsMonitorFrame (buf : Buffer) (desc : RxDescriptor) (m : Buffer) : Prop where
  window : m.window = Radiotap.prefixed desc.reception (buf.window.drop desc.pktOffset.toNat)
  flags : m.flags = buf.flags.insert BufferFlags.monitor
  priority : m.priority = buf.priority
  frameType : m.frameType = frameTypeOf (buf.window.drop desc.pktOffset.toNat)

variable {buf : Buffer} {desc : RxDescriptor}

/-- A copy for a monitor can be made of every buffer with its descriptor. -/
theorem exists_monitorCopy (decoded : RxDescriptor.decode buf.window = .ok desc) :
    ∃ copy, monitorCopy buf desc = some copy ∧ IsMonitorFrame buf desc copy := by
  unfold monitorCopy
  rw [RxDescriptor.payload?_of_decode decoded]
  exact ⟨_, rfl, Buffer.window_withHeadroom .rx _ _, rfl, rfl, rfl⟩

/-- A buffer cut down to its payload can be made the frame for the monitor. -/
theorem isMonitorFrame_inPlace {p : Buffer}
    (payload : p.frame = buf.frame.drop desc.pktOffset.toNat) :
    IsMonitorFrame buf desc (monitorInPlace p desc) := by
  have window : p.window = buf.window.drop desc.pktOffset.toNat := congrArg Frame.bytes payload
  have flags : p.flags = buf.flags := congrArg Frame.flags payload
  have priority : p.priority = buf.priority := congrArg Frame.priority payload
  generalize inPlace : monitorInPlace p desc = m
  have frame : m.frame =
      ⟨Radiotap.prefixed desc.reception p.window, p.direction,
        p.flags.insert BufferFlags.monitor, p.priority⟩ := by
    rw [← inPlace, monitorInPlace, Buffer.frame_flag, Buffer.frame_prepend]
    rfl
  refine ⟨?_, ?_, ?_, ?_⟩
  · rw [← window]
    exact congrArg Frame.bytes frame
  · rw [← flags]
    exact congrArg Frame.flags frame
  · rw [← priority]
    exact congrArg Frame.priority frame
  · rw [← inPlace, ← window]
    exact Buffer.frameType_prepend _ _

/-- A station that monitors makes the buffer of a raw frame the frame for the monitor. -/
theorem process_monitored (decoded : RxDescriptor.decode buf.window = .ok desc)
    (isRaw : desc.frameClass = some .raw80211) {env : Env} (role : env.settings.role = .station)
    (monitoring : env.settings.rawMonitor = true) (st : State) :
    ∃ m, process env st buf desc = (.event (.monitor m), st) ∧ IsMonitorFrame buf desc m := by
  obtain ⟨p, stripped, -, payload⟩ := exists_strip_of_decode decoded
  refine ⟨monitorInPlace p desc, ?_, isMonitorFrame_inPlace payload⟩
  simp only [process, isRaw, withPayload, stripped, processRaw, role, monitoring, if_true]

/-- Only a station asks whether raw frames are monitored. -/
theorem process_rawMonitor (env : Env) (role : env.settings.role = .accessPoint) (on : Bool)
    (st : State) (buf : Buffer) (desc : RxDescriptor) :
    process { env with settings := { env.settings with rawMonitor := on } } st buf desc =
      process env st buf desc := by
  obtain ⟨⟨_, ownAddr, mgmt, arp, raw, group, forwarding⟩, near, now⟩ := env
  obtain rfl : _ = Role.accessPoint := role
  rfl

end Ingress

namespace Interface

variable {σ : Type} (o : Outside σ) (near : Neighbors) (now : Instant) {i : Interface}

/-! ## The data path of an access point -/

/-- An interface with its monitor for raw frames switched on or off. -/
def monitorRaw (i : Interface) (on : Bool) : Interface :=
  { i with settings := { i.settings with rawMonitor := on } }

/-- An access point takes a raw frame the same way whether or not the monitor has a copy. -/
theorem runIngress_monitorRaw (role : i.settings.role = .accessPoint) (on : Bool) (s : σ)
    (buf : Buffer) {desc : RxDescriptor} (isRaw : desc.frameClass = some .raw80211) :
    (i.monitorRaw on).runIngress o near now s buf desc =
      let ran := i.runIngress o near now s buf desc
      (ran.1, ran.2.1.monitorRaw on, ran.2.2) := by
  have single : desc.frameClass ≠ some .amsdu := by rw [isRaw]; nofun
  have same : Ingress.process ⟨(i.monitorRaw on).settings, near, now⟩ ⟨i.stations, []⟩ buf desc =
      Ingress.process ⟨i.settings, near, now⟩ ⟨i.stations, []⟩ buf desc :=
    Ingress.process_rawMonitor ⟨i.settings, near, now⟩ role on ⟨i.stations, []⟩ buf desc
  unfold runIngress Ingress.processAll
  simp only [if_neg single]
  rw [show (i.monitorRaw on).stations = i.stations from rfl, same]
  rfl

/-- An interface after a raw frame was counted and its transmitter noted. -/
def heardRaw (i : Interface) (now : Instant) (buf : Buffer) (desc : RxDescriptor) : Interface :=
  (peerOf? (buf.window.drop desc.pktOffset.toNat) .raw80211).elim (i.count (·.received buf.size))
    ((i.count (·.received buf.size)).notePeer now · desc)

theorem heardRaw_monitorRaw (i : Interface) (on : Bool) (now : Instant) (buf : Buffer)
    (desc : RxDescriptor) :
    (i.monitorRaw on).heardRaw now buf desc = (i.heardRaw now buf desc).monitorRaw on := by
  unfold heardRaw
  cases peerOf? (buf.window.drop desc.pktOffset.toNat) .raw80211 with
  | none => rfl
  | some peer => rfl

theorem settings_heardRaw (i : Interface) (now : Instant) (buf : Buffer) (desc : RxDescriptor) :
    (i.heardRaw now buf desc).settings = i.settings := by
  unfold heardRaw
  cases peerOf? (buf.window.drop desc.pktOffset.toNat) .raw80211 with
  | none => rfl
  | some peer => rfl

/-- The reorder engine is not asked about a raw frame, which goes through ingress at once. -/
theorem receive_raw {buf : Buffer} {desc : RxDescriptor}
    (decoded : RxDescriptor.decode buf.window = .ok desc)
    (isRaw : desc.frameClass = some .raw80211) (s : σ) :
    i.receive o near now s buf =
      let ran := (i.heardRaw now buf desc).runIngress o near now s buf desc
      (i.rawCopy buf desc ++ ran.1, ran.2.1, ran.2.2) := by
  have noSession (j : Interface) (payload : Bytes) :
      j.sessionPeer? o s desc .raw80211 payload = none := if_neg fun session => by
    rcases session.2.2 with isData | isData
    · cases isData
    · cases isData
  have copies : (i.heardRaw now buf desc).rawCopy buf desc = i.rawCopy buf desc := by
    unfold rawCopy
    rw [settings_heardRaw]
  simp only [receive, decoded, receiveFrame, RxDescriptor.payload?_of_decode decoded,
    Option.getD_some, isRaw, Option.bind_some, noSession, Option.map_none]
  rw [← copies]
  rfl

/-- An access point with its monitor on gives the copy in front of all that it gives with its
monitor off. -/
theorem receive_monitorRaw {buf copy : Buffer} {desc : RxDescriptor}
    (decoded : RxDescriptor.decode buf.window = .ok desc)
    (isRaw : desc.frameClass = some .raw80211) (role : i.settings.role = .accessPoint)
    (copied : Ingress.monitorCopy buf desc = some copy) (s : σ) :
    (i.monitorRaw true).receive o near now s buf =
      let plain := (i.monitorRaw false).receive o near now s buf
      (.event (.monitor copy) :: plain.1, plain.2.1.monitorRaw true, plain.2.2) := by
  have on : (i.monitorRaw true).rawCopy buf desc = [.event (.monitor copy)] := by
    unfold rawCopy
    rw [if_pos ⟨isRaw, role, rfl⟩, copied]
    rfl
  have off : (i.monitorRaw false).rawCopy buf desc = [] := if_neg fun copies => nomatch copies.2.2
  have role : (i.heardRaw now buf desc).settings.role = .accessPoint := by
    rw [settings_heardRaw, role]
  rw [receive_raw o near now decoded isRaw, receive_raw o near now decoded isRaw, on, off,
    heardRaw_monitorRaw, heardRaw_monitorRaw,
    runIngress_monitorRaw o near now role true s buf isRaw,
    runIngress_monitorRaw o near now role false s buf isRaw]
  rfl

end Interface

namespace Ingress

/-! ## In place and copied -/

/-- **Raw frames for a monitor.** Let a buffer hold a raw frame with its descriptor. The buffer that
a station that monitors makes of it in place and the copy that an access point makes agree in their
octets, flags, priority and frame type, whatever the headroom. The flags are those of the buffer
and one more; the octets start with the radiotap header of the reception, which is read back with
its length filled in, and behind it stands the 802.11 frame. The copy takes nothing from the
original: but for it the access point does what it does without a monitor. -/
theorem monitor_in_place_agree {buf : Buffer} {desc : RxDescriptor}
    (decoded : RxDescriptor.decode buf.window = .ok desc)
    (isRaw : desc.frameClass = some .raw80211) :
    ∃ copy payload, monitorCopy buf desc = some copy ∧ desc.payload? buf.window = some payload ∧
      copy.flags = buf.flags.insert BufferFlags.monitor ∧ copy.priority = buf.priority ∧
      copy.frameType = frameTypeOf payload ∧
      (let header := Radiotap.ofReception desc.reception
        let n := header.encode.length
        Radiotap.parse copy.window = .ok ({ header with length := UInt16.ofNat n }, n) ∧
          n < 2 ^ 16 ∧ copy.window.drop n = payload) ∧
      (∀ env st, env.settings.role = .station → env.settings.rawMonitor = true →
        ∃ m, process env st buf desc = (.event (.monitor m), st) ∧ m.window = copy.window ∧
          m.flags = copy.flags ∧ m.priority = copy.priority ∧ m.frameType = copy.frameType) ∧
      ∀ {σ : Type} (o : Outside σ) near now (i : Interface) s, i.settings.role = .accessPoint →
        (i.monitorRaw true).receive o near now s buf =
          let plain := (i.monitorRaw false).receive o near now s buf
          (.event (.monitor copy) :: plain.1, plain.2.1.monitorRaw true, plain.2.2) := by
  obtain ⟨copy, copied, isCopy⟩ := exists_monitorCopy decoded
  refine ⟨copy, buf.window.drop desc.pktOffset.toNat, copied,
    RxDescriptor.payload?_of_decode decoded, isCopy.flags, isCopy.priority, isCopy.frameType,
    ⟨?_, Radiotap.length_encode_lt _, ?_⟩, ?_, ?_⟩
  · rw [isCopy.window]
    exact Radiotap.parse_prefixed _ _
  · rw [isCopy.window]
    exact Radiotap.drop_prefixed _ _
  · intro env st role monitoring
    obtain ⟨m, processed, inPlace⟩ := process_monitored decoded isRaw role monitoring st
    exact ⟨m, processed, inPlace.window.trans isCopy.window.symm,
      inPlace.flags.trans isCopy.flags.symm, inPlace.priority.trans isCopy.priority.symm,
      inPlace.frameType.trans isCopy.frameType.symm⟩
  · intro σ o near now i s role
    exact Interface.receive_monitorRaw o near now decoded isRaw role copied s

/-- A station that monitors raw frames. -/
def monitoringStation : Env :=
  { accessPoint with
    settings := { accessPoint.settings with role := .station, rawMonitor := true } }

/-- An access point that has heard nothing yet. -/
def quietAccessPoint : Interface :=
  { Interface.standard with settings := accessPoint.settings }

/-- A receive descriptor and a raw frame that came with VHT modulation. -/
def vhtFrame : Bytes :=
  [1, 0, 34, 0, 24, 0, 5, 0, 0x10, 0, 0, 0x19, 40, 0xa6, 90, 0, 0, 0, 0, 1, 0, 0, 0, 0] ++
    rawFrame ⟨2, 0, 0, 0, 1, 1⟩ (zeros 2)

/-- Without any headroom its radiotap header just fits into the place of the descriptor. -/
theorem monitor_in_place_agree_vht :
    let buf := Buffer.ofBytes .rx vhtFrame
    ∃ copy m, monitorCopy buf (.readFields vhtFrame) = some copy ∧
      process monitoringStation quiet buf (.readFields vhtFrame) = (.event (.monitor m), quiet) ∧
      m.window = copy.window ∧ copy.window.drop 24 = rawFrame ⟨2, 0, 0, 0, 1, 1⟩ (zeros 2) ∧
      ((quietAccessPoint.monitorRaw true).receive Replay.accepting [] 0 () buf).1 =
        .event (.monitor copy) ::
          ((quietAccessPoint.monitorRaw false).receive Replay.accepting [] 0 () buf).1 := by
  intro buf
  have decoded : RxDescriptor.decode buf.window = .ok (.readFields vhtFrame) := by rfl
  obtain ⟨copy, payload, copied, isPayload, -, -, -, ⟨-, -, behind⟩, inPlace, received⟩ :=
    monitor_in_place_agree decoded (by rfl)
  obtain ⟨m, processed, window, -⟩ := inPlace monitoringStation quiet rfl rfl
  have size : (Radiotap.ofReception
      (RxDescriptor.readFields vhtFrame).reception).encode.length = 24 := by decide
  obtain rfl : rawFrame ⟨2, 0, 0, 0, 1, 1⟩ (zeros 2) = payload :=
    Option.some_inj.1 (isPayload.symm.trans (by rfl)).symm
  exact ⟨copy, m, copied, processed, window, size ▸ behind,
    congrArg Prod.fst (received Replay.accepting [] 0 quietAccessPoint () rfl)⟩

end Ingress

end Airlink
