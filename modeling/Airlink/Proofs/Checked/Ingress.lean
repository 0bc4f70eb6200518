import Airlink.Ingress
import Airlink.Proofs.Aggregate
import Airlink.Proofs.Checked.Packet

/-!
# Ingress with its checks

What becomes of a received frame, with the accesses of every step checked. A descriptor may say what
it likes about its buffer: `advance` and `payload?` compare before anything is cut off. Behind them
each step has from the one before what it relies on. The addresses of a translated frame can be read
since a translation leaves room for a header (`Buffer.size_of_toEthernet`), and the walk over an
aggregate (`split`) never gets behind its end, since it goes on by no more than what remains.
-/

namespace Airlink.Checked

open Ingress (Env State)

/-! ## Pieces of a buffer -/

/-- The buffer cut down to the payload that its descriptor names. -/
def strip (buf : Buffer) (desc : RxDescriptor) : Attempt Error Buffer := do
  let buf ← advance buf desc.pktOffset.toNat
  return buf.truncate desc.pktLength.toNat

/-- The type of the 802.11 frame that some octets are. -/
def frameTypeOf (frame : Bytes) : Run (Option Ieee80211.FrameType) :=
  if 2 ≤ frame.length then return some (Ieee80211.FrameControl.mk (← le16 frame 0)).type
  else return none

/-- The octets of a radiotap header, with the length written over the place kept for it. -/
def radiotap (h : Radiotap) : Run Bytes :=
  let octets := [h.version, 0] ++ [0, 0]
    ++ (Bytes.ofLe32 h.present ++ Radiotap.layOut Radiotap.fixedSize h.fields)
  put octets 2 4 (Bytes.leBytes 2 octets.length)

/-- A copy of a raw frame for a monitor, with a radiotap header in front. -/
def monitorCopy (buf : Buffer) (desc : RxDescriptor) : Run (Option Buffer) := do
  match desc.payload? (← window buf) with
  | none => return none
  | some payload =>
    let header ← radiotap (.ofReception desc.reception)
    let copy ← withHeadroom .rx Buffer.defaultHeadroom (header ++ payload)
    let frameType ← frameTypeOf payload
    return some { copy with
      flags := buf.flags.insert BufferFlags.monitor
      priority := buf.priority
      rxStamped := buf.rxStamped
      frameType }

/-- The raw frame in a buffer made the frame for the monitor in place. -/
def monitorInPlace (buf : Buffer) (desc : RxDescriptor) : Run Buffer := do
  let frameType ← frameTypeOf (← window buf)
  let header ← radiotap (.ofReception desc.reception)
  let buf ← prepend { buf with frameType } header
  return buf.flag BufferFlags.monitor

@[simp] theorem run_strip (buf : Buffer) (desc : RxDescriptor) :
    (strip buf desc).run = .ok (Ingress.strip buf desc) := by
  have stripped : Ingress.strip buf desc =
      (buf.advance desc.pktOffset.toNat >>= fun b => .ok (b.truncate desc.pktLength.toNat)) := by
    unfold Ingress.strip
    cases buf.advance desc.pktOffset.toNat <;> rfl
  rw [stripped]
  exact run_bind (run_advance buf _) fun _ _ => rfl

@[simp] theorem frameTypeOf_eq (frame : Bytes) :
    frameTypeOf frame = .ok (Ingress.frameTypeOf frame) := by
  unfold frameTypeOf Ingress.frameTypeOf
  split
  · next long => rw [le16_eq long]; rfl
  · rfl

@[simp] theorem radiotap_eq (h : Radiotap) : radiotap h = .ok h.encode := by
  unfold radiotap Radiotap.encode
  generalize Radiotap.layOut Radiotap.fixedSize h.fields = body
  have behind : (Bytes.ofLe32 h.present ++ body).length = 4 + body.length := by
    rw [List.length_append, Bytes.length_ofLe32]
  have length : ([h.version, 0] ++ [0, 0] ++ (Bytes.ofLe32 h.present ++ body)).length =
      Radiotap.fixedSize + body.length := by
    rw [List.length_append, behind, ← Nat.add_assoc]
    rfl
  have patched : put ([h.version, 0] ++ [0, 0] ++ (Bytes.ofLe32 h.present ++ body)) 2 4
        (Bytes.leBytes 2 (Radiotap.fixedSize + body.length)) =
      .ok ([h.version, 0] ++ Bytes.leBytes 2 (Radiotap.fixedSize + body.length)
        ++ (Bytes.ofLe32 h.present ++ body)) := put_append (Bytes.length_leBytes _ _)
  simp only [length]
  rw [patched, ← List.append_assoc]

@[simp] theorem monitorCopy_eq (buf : Buffer) (desc : RxDescriptor) :
    monitorCopy buf desc = .ok (Ingress.monitorCopy buf desc) := by
  unfold monitorCopy Ingress.monitorCopy
  rw [window_eq, ok_bind]
  cases desc.payload? buf.window with
  | none => rfl
  | some payload =>
    simp only [radiotap_eq, withHeadroom_eq, frameTypeOf_eq, ok_bind, pure_eq_ok]
    rfl

@[simp] theorem monitorInPlace_eq (buf : Buffer) (desc : RxDescriptor) :
    monitorInPlace buf desc = .ok (Ingress.monitorInPlace buf desc) := by
  simp only [monitorInPlace, window_eq, frameTypeOf_eq, radiotap_eq, prepend_eq, ok_bind,
    pure_eq_ok]
  rfl

/-! ## Aggregates -/

/-- The parts of a payload from a place on as buffers, and whether some of it was no part. -/
def split (payload : Bytes) (parent : Buffer) (place : Nat) : Run (List Buffer × Bool) :=
  if _inside : payload.length ≤ place then return ([], false)
  else do
    let remaining ← behind payload place
    if _room : remaining.length < Aggregate.headerSize then return ([], true)
    else
      let length ← be16 remaining 12
      let size := Aggregate.headerSize + length.toNat
      if remaining.length < size then return ([], true)
      else
        let part ← withHeadroom .rx Buffer.defaultHeadroom (← span remaining 0 size)
        let (parts, truncated) ←
          split payload parent (place + min (Aggregate.padded size) remaining.length)
        return ({ part with
          priority := parent.priority
          rxStamped := parent.rxStamped
          flags := parent.flags.insert BufferFlags.amsduSubframe } :: parts, truncated)
termination_by payload.length - place
decreasing_by
  have grows := Aggregate.le_padded size
  simp only [size, Aggregate.headerSize] at *
  omega

/-- The walk stops where there is no part. -/
theorem split_of_none {payload data : Bytes} {place : Nat} (stands : payload.drop place = data)
    (noPart : Aggregate.partSize? data = none) (parent : Buffer) :
    split payload parent place = .ok ([], !data.isEmpty) := by
  rw [split]
  by_cases inside : payload.length ≤ place
  · rw [dif_pos inside, ← stands, List.drop_of_length_le inside]
    rfl
  have holds : data.isEmpty = false := by
    rw [← stands, List.isEmpty_eq_false_iff]
    exact fun empty => inside (List.drop_eq_nil_iff.1 empty)
  rw [dif_neg inside, behind_eq (by omega), ok_bind, stands, holds]
  unfold Aggregate.partSize? at noPart
  by_cases short : data.length < Aggregate.headerSize
  · rw [dif_pos short]
    rfl
  rw [if_neg short] at noPart
  have fits : 14 ≤ data.length := Nat.not_lt.1 short
  rw [dif_neg short, be16_eq (by omega), ok_bind]
  simp only at noPart ⊢
  by_cases overruns : data.length < Aggregate.headerSize + (data.be16At 12).toNat
  · rw [if_pos overruns]
    rfl
  · rw [if_neg overruns] at noPart
    cases noPart

/-- The walk goes on behind a part and its padding. -/
theorem split_of_some {payload data : Bytes} {place size : Nat} (stands : payload.drop place = data)
    (found : Aggregate.partSize? data = some size) (parent : Buffer) :
    split payload parent place = (do
      let (parts, truncated) ←
        split payload parent (place + min (Aggregate.padded size) data.length)
      return (Aggregate.partBuffer parent (data.take size) :: parts, truncated)) := by
  obtain ⟨header, holds⟩ := Aggregate.le_of_partSize? found
  have fits : 14 ≤ data.length := Nat.le_trans header holds
  have long : ¬ data.length < Aggregate.headerSize := Nat.not_lt.2 fits
  have inside : ¬ payload.length ≤ place := by
    intro behind
    rw [← stands, List.drop_of_length_le behind] at fits
    cases fits
  rw [split, dif_neg inside, behind_eq (by omega), ok_bind, stands,
    dif_neg long, be16_eq fits, ok_bind]
  unfold Aggregate.partSize? at found
  rw [if_neg long] at found
  simp only at found ⊢
  by_cases overruns : data.length < Aggregate.headerSize + (data.be16At 12).toNat
  · rw [if_pos overruns] at found
    cases found
  · rw [if_neg overruns] at found
    cases found
    rw [if_neg overruns, span_zero_eq holds, ok_bind, withHeadroom_eq, ok_bind]
    rfl

/-- Going on by no more than what remains gets to the same octets. -/
theorem drop_add_min {payload data : Bytes} {place : Nat} (stands : payload.drop place = data)
    (n : Nat) : payload.drop (place + min n data.length) = data.drop n := by
  rw [← List.drop_drop, stands]
  by_cases le : n ≤ data.length
  · rw [Nat.min_eq_left le]
  · rw [Nat.min_eq_right (by omega), List.drop_length, List.drop_of_length_le (by omega)]

theorem split_eq (payload : Bytes) (parent : Buffer) {data : Bytes} {place : Nat}
    (stands : payload.drop place = data) :
    split payload parent place = .ok (Aggregate.split data parent) := by
  induction data using Aggregate.cut.induct generalizing place with
  | case1 data noPart =>
    rw [split_of_none stands noPart, Aggregate.split, Aggregate.cut_of_none noPart]
    rfl
  | case2 data size found parts rest _ ih =>
    rw [split_of_some stands found, ih (drop_add_min stands (Aggregate.padded size)), ok_bind,
      Aggregate.split, Aggregate.split, Aggregate.cut_of_some found]
    rfl

/-! ## Forwarding -/

/-- The copies made of a group frame. -/
def copies (v : Forwarding.View) (buf : Buffer) : Run (List Duplicate) := do
  let again ←
    if v.policy.has ForwardingPolicy.hostGroup then pure []
    else do pure [.retransmit (← duplicateForTx buf) .bss]
  let monitored ←
    if v.monitorGroup then do
      let copy ← duplicate buf
      pure [.monitor { copy.flag BufferFlags.monitor with frameType := some .data }]
    else pure []
  return again ++ monitored

/-- The fate of a frame for `dest`. -/
def fate (v : Forwarding.View) (buf : Buffer) (dest : HwAddr) : Run Outcome :=
  if !v.policy.isEnabled then return .deliver buf
  else if dest.isGroup then do
    match ← copies v buf with
    | [] => return .deliver buf
    | cs => return .duplicate buf cs
  else return Forwarding.decideUnicast v buf dest

@[simp] theorem copies_eq (v : Forwarding.View) (buf : Buffer) :
    copies v buf = .ok (Forwarding.copies v buf) := by
  unfold copies Forwarding.copies
  rw [duplicateForTx_eq, duplicate_eq]
  by_cases host : v.policy.has ForwardingPolicy.hostGroup <;> by_cases copied : v.monitorGroup <;>
    simp [host, copied]

@[simp] theorem fate_eq (v : Forwarding.View) (buf : Buffer) (dest : HwAddr) :
    fate v buf dest = .ok (Forwarding.decide v buf dest) := by
  unfold fate Forwarding.decide Forwarding.decideGroup
  rw [copies_eq, ok_bind]
  split
  · rfl
  · split
    · cases Forwarding.copies v buf <;> rfl
    · rfl

/-! ## Data frames -/

/-- The fate of an Ethernet-II frame that passed the screening. -/
def routeTo (env : Env) (st : State) (buf : Buffer) (dest : HwAddr) : Run Outcome :=
  match env.settings.role with
  | .station => return .deliver buf
  | .accessPoint =>
    fate
      { policy := env.settings.forwarding
        ownAddr := env.settings.ownAddr
        stations := st.stations
        near := env.near
        monitorGroup := env.settings.groupMonitor }
      buf dest

/-- The verdict on the packet of a translated frame. A packet that would start behind the end of the
frame has no octets. -/
def screen (env : Env) (translation : Translation) (frame : Bytes) : Run Screening.Verdict :=
  match translation.networkLayer with
  | none => return .pass
  | some (etherType, start) => inspect etherType (frame.drop start) env.settings.arpFilter

/-- Translates, screens and routes a frame whose window starts at the destination address. -/
def route (env : Env) (st : State) (buf : Buffer) : Run (Outcome × State) := do
  match ← (toEthernet buf).run with
  | .error _ => return (.drop .truncated, st)
  | .ok (translation, buf) =>
    let frame ← window buf
    let dest ← addr frame 0
    let source ← addr frame HwAddr.size
    match ← screen env translation frame with
    | .drop reason => return (.drop reason, st)
    | .pass => return (← routeTo env st buf dest, st)
    | .tdls tdls =>
      let st := Ingress.note env st source tdls
      return (← routeTo env st buf dest, st)

@[simp] theorem routeTo_eq (env : Env) (st : State) (buf : Buffer) (dest : HwAddr) :
    routeTo env st buf dest = .ok (Ingress.routeTo env st buf dest) := by
  unfold routeTo Ingress.routeTo
  cases env.settings.role with
  | station => rfl
  | accessPoint => exact fate_eq _ _ _

@[simp] theorem screen_eq (env : Env) (translation : Translation) (frame : Bytes) :
    screen env translation frame = .ok (Ingress.screen env translation frame) := by
  unfold screen Ingress.screen
  cases translation.networkLayer with
  | none => rfl
  | some packet => exact inspect_eq _ _ _

@[simp] theorem route_eq (env : Env) (st : State) (buf : Buffer) :
    route env st buf = .ok (Ingress.route env st buf) := by
  unfold route Ingress.route
  rw [run_toEthernet, ok_bind]
  cases translated : buf.toEthernet with
  | error e => rfl
  | ok result =>
    obtain ⟨translation, b⟩ := result
    have room : 14 ≤ b.window.length := by
      rw [Buffer.length_window]
      exact Buffer.size_of_toEthernet translated
    have source : addr b.window HwAddr.size = .ok (HwAddr.ofSlice b.window 6) :=
      addr_eq (by simp only [HwAddr.size]; omega)
    simp only
    rw [window_eq, ok_bind, addr_eq (by omega), ok_bind, source, ok_bind, screen_eq, ok_bind]
    cases Ingress.screen env translation b.window with
    | drop reason => rfl
    | pass => rw [routeTo_eq]; rfl
    | tdls tdls => simp only [routeTo_eq]; rfl

/-! ## All classes -/

/-- Processes the payload of a raw 802.11 frame. -/
def processRaw (env : Env) (st : State) (buf : Buffer) (desc : RxDescriptor) :
    Run (Outcome × State) :=
  match env.settings.role with
  | .station =>
    if env.settings.rawMonitor then do
      return (.event (.monitor (← monitorInPlace buf desc)), st)
    else return (.drop .monitorDisabled, st)
  | .accessPoint => do
    match ← (dot11To8023 buf).run with
    | .ok (_, buf) => route env st buf
    | .error e =>
      return (.drop (if Ingress.isTruncation e then .truncated else .notDataFrame), st)

/-- Continues with the payload of a frame, if the descriptor fits the buffer. -/
def withPayload (st : State) (buf : Buffer) (desc : RxDescriptor)
    (next : Buffer → Run (Outcome × State)) : Run (Outcome × State) := do
  match ← (strip buf desc).run with
  | .ok payload => next payload
  | .error _ => return (.drop .sizeInvalid, st)

/-- Processes a single frame. -/
def process (env : Env) (st : State) (buf : Buffer) (desc : RxDescriptor) : Run (Outcome × State) :=
  match desc.frameClass with
  | none => return (.drop .unsupportedFrameClass, st)
  | some .debug =>
    withPayload st buf desc fun payload => do
      return (.event (.debug (Ingress.debugText (← window payload))), st)
  | some .management =>
    if env.settings.mgmtPassthrough then
      withPayload st buf desc fun payload => do
        return (.event (.management (← window payload)), st)
    else return (.drop .managementFiltered, st)
  | some .blockAckRequest => return (.drop .noBlockAckSession, st)
  | some .amsdu => return (.drop .aggregateNotSplit, st)
  | some .raw80211 => withPayload st buf desc fun payload => processRaw env st payload desc
  | some .data => withPayload st buf desc (route env st)

/-- Processes the parts of an aggregate one after the other. -/
def processParts (env : Env) (desc : RxDescriptor) :
    State → List Buffer → Run (List Outcome × State)
  | st, [] => return ([], st)
  | st, part :: parts => do
    let (outcome, st) ← process env st part (desc.forSubframe part.size)
    let (outcomes, st) ← processParts env desc st parts
    return (outcome :: outcomes, st)

/-- Processes a frame that may be an aggregate, with one outcome for each part. -/
def processAll (env : Env) (st : State) (buf : Buffer) (desc : RxDescriptor) :
    Run (List Outcome × State) :=
  if desc.frameClass = some .amsdu then do
    match desc.payload? (← window buf) with
    | none => return ([.drop .sizeInvalid], st)
    | some payload =>
      let (parts, truncated) ← split payload buf 0
      let (outcomes, st) ← processParts env desc st parts
      return (outcomes ++ (if truncated then [.drop .truncated] else []), st)
  else do
    let (outcome, st) ← process env st buf desc
    return ([outcome], st)

@[simp] theorem processRaw_eq (env : Env) (st : State) (buf : Buffer) (desc : RxDescriptor) :
    processRaw env st buf desc = .ok (Ingress.processRaw env st buf desc) := by
  unfold processRaw Ingress.processRaw
  rw [monitorInPlace_eq, ok_bind, run_dot11To8023, ok_bind]
  cases env.settings.role with
  | station =>
    simp only
    split <;> rfl
  | accessPoint =>
    cases buf.dot11To8023 with
    | ok result => exact route_eq _ _ _
    | error e => rfl

theorem withPayload_eq {next : Buffer → Run (Outcome × State)} {total : Buffer → Outcome × State}
    (h : ∀ payload, next payload = .ok (total payload)) (st : State) (buf : Buffer)
    (desc : RxDescriptor) :
    withPayload st buf desc next = .ok (Ingress.withPayload st buf desc total) := by
  unfold withPayload Ingress.withPayload
  rw [run_strip, ok_bind]
  cases Ingress.strip buf desc with
  | ok payload => exact h payload
  | error e => rfl

/-- One frame is processed without a fault, whatever its descriptor says about the buffer. -/
theorem process_eq (env : Env) (st : State) (buf : Buffer) (desc : RxDescriptor) :
    process env st buf desc = .ok (Ingress.process env st buf desc) := by
  have shown : ∀ event : Bytes → HostEvent,
      withPayload st buf desc (fun payload => do return (.event (event (← window payload)), st)) =
        .ok (Ingress.withPayload st buf desc fun payload => (.event (event payload.window), st)) :=
    fun event => withPayload_eq (fun payload => by rw [window_eq]; rfl) st buf desc
  unfold process Ingress.process
  cases desc.frameClass with
  | none => rfl
  | some frameClass =>
    cases frameClass with
    | debug => exact shown fun text => .debug (Ingress.debugText text)
    | management =>
      simp only
      split
      · exact shown .management
      · rfl
    | blockAckRequest => rfl
    | amsdu => rfl
    | raw80211 => exact withPayload_eq (processRaw_eq env st · desc) st buf desc
    | data => exact withPayload_eq (route_eq env st) st buf desc

theorem processParts_eq (env : Env) (desc : RxDescriptor) (st : State) (parts : List Buffer) :
    processParts env desc st parts = .ok (Ingress.processParts env desc st parts) := by
  induction parts generalizing st with
  | nil => rfl
  | cons part parts ih =>
    rw [processParts, process_eq, ok_bind, Ingress.processParts]
    simp only [ih, ok_bind, pure_eq_ok]

/-- A frame that may be an aggregate is processed without a fault, whatever its descriptor says. -/
theorem processAll_eq (env : Env) (st : State) (buf : Buffer) (desc : RxDescriptor) :
    processAll env st buf desc = .ok (Ingress.processAll env st buf desc) := by
  unfold processAll Ingress.processAll
  rw [window_eq, ok_bind, process_eq, ok_bind]
  by_cases aggregate : desc.frameClass = some .amsdu
  · rw [if_pos aggregate, if_pos aggregate]
    cases desc.payload? buf.window with
    | none => rfl
    | some payload =>
      simp only
      rw [split_eq payload buf rfl, ok_bind, processParts_eq, ok_bind, pure_eq_ok, List.drop_zero]
  · rw [if_neg aggregate, if_neg aggregate]
    rfl

end Airlink.Checked
