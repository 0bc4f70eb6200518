import Airlink.Interface

/-!
# Receiving and time

A station table notes when each peer was first and last heard of. What becomes of a received frame
does not depend on it, nor on the time at which the frame is received. Setting every noted time to
zero (`timeless`) goes through each operation of the receive path: operating at time zero on what
has no times gives the same outcomes and calls, and the state without its times (`process_timeless`,
`processAll_timeless`, `Interface.receive_timeless`, `Interface.receiveReordered_timeless`).
-/

namespace Airlink

/-! ## Station tables -/

/-- The peer with zero as the times at which it was first and last heard of. -/
def Station.timeless (s : Station) : Station := { s with firstSeen := 0, lastActivity := 0 }

namespace StationTable

/-- The table with zero for all times. -/
def timeless (t : StationTable) : StationTable :=
  { t with stations := t.stations.map Station.timeless }

theorem contains_timeless (t : StationTable) (addr : HwAddr) :
    t.timeless.contains addr = t.contains addr := List.any_map

theorem size_timeless (t : StationTable) : t.timeless.size = t.size := List.length_map _

theorem lookup?_timeless (t : StationTable) (addr : HwAddr) :
    t.timeless.lookup? addr = (t.lookup? addr).map Station.timeless := List.find?_map

theorem disassociate_timeless (t : StationTable) (addr : HwAddr) :
    t.timeless.disassociate addr = (t.disassociate addr).timeless := by
  simp only [disassociate, timeless, List.filter_map]
  rfl

/-- A change of a peer that goes by no time leaves the same table without times. -/
theorem modify_timeless (t : StationTable) (addr : HwAddr) {f g : Station → Station}
    (same : ∀ s, g s.timeless = (f s).timeless) :
    t.timeless.modify addr g = (t.modify addr f).timeless := by
  simp only [modify, timeless, List.map_map, mk.injEq, and_true]
  refine List.map_congr_left fun s _ => ?_
  simp only [Function.comp_apply, apply_ite Station.timeless, ← same]
  rfl

theorem grant_timeless (t : StationTable) (addr : HwAddr) (caps : Capabilities) :
    t.timeless.grant addr caps = (t.grant addr caps).timeless := t.modify_timeless addr fun _ => rfl

theorem enter_timeless (t : StationTable) (addr : HwAddr) (now : Instant) :
    t.timeless.enter addr 0 = (t.enter addr now).map timeless := by
  unfold enter
  rw [contains_timeless, size_timeless, show t.timeless.capacity = t.capacity from rfl]
  split
  · rfl
  · split
    · rfl
    · simp only [Except.map, timeless, List.map_append]
      rfl

theorem observe_timeless (t : StationTable) (addr : HwAddr) (seq : UInt16) (priority : UInt8)
    (snr nf : Int8) (now : Instant) :
    t.timeless.observe addr seq priority snr nf 0 =
      (t.observe addr seq priority snr nf now).map (Prod.map id timeless) := by
  unfold observe
  rw [t.enter_timeless addr now]
  cases t.enter addr now with
  | error e => rfl
  | ok t =>
    have last : (t.timeless.lookup? addr).bind (·.previous? priority) =
        (t.lookup? addr).bind (·.previous? priority) := by
      rw [lookup?_timeless]
      cases t.lookup? addr <;> rfl
    have noted : t.timeless.modify addr (·.observe seq priority snr nf 0) =
        (t.modify addr (·.observe seq priority snr nf now)).timeless :=
      t.modify_timeless addr fun _ => rfl
    simp only [Except.map, bind, Except.bind, last, noted]
    rfl

end StationTable

/-! ## Ingress -/

namespace Ingress

/-- The same settings at time zero. -/
def Env.timeless (env : Env) : Env := { env with now := 0 }

/-- The state with zero for all times. -/
def State.timeless (st : State) : State := { st with stations := st.stations.timeless }

variable (env : Env)

theorem learn_timeless (stations : StationTable) (peer : HwAddr) (tdls : Tdls) :
    learn env.timeless stations.timeless peer tdls = (learn env stations peer tdls).timeless := by
  unfold learn
  rw [show env.timeless.settings = env.settings from rfl, show env.timeless.now = 0 from rfl]
  split
  · split
    · exact stations.disassociate_timeless peer
    · split
      · rfl
      · rw [stations.enter_timeless peer env.now]
        cases stations.enter peer env.now with
        | error e => rfl
        | ok stations => exact stations.grant_timeless peer tdls.capabilities
  · split
    · rfl
    · exact stations.grant_timeless peer tdls.capabilities

theorem note_timeless (st : State) (peer : HwAddr) (tdls : Tdls) :
    note env.timeless st.timeless peer tdls = (note env st peer tdls).timeless := by
  unfold note State.timeless
  rw [learn_timeless]

theorem routeTo_timeless (st : State) (buf : Buffer) (dest : HwAddr) :
    routeTo env.timeless st.timeless buf dest = routeTo env st buf dest := by
  have known : st.timeless.stations.contains dest = st.stations.contains dest :=
    st.stations.contains_timeless dest
  unfold routeTo Forwarding.decide Forwarding.decideGroup Forwarding.copies Forwarding.decideUnicast
  simp only [known]
  rfl

theorem route_timeless (st : State) (buf : Buffer) :
    route env.timeless st.timeless buf = (route env st buf).map id State.timeless := by
  unfold route
  cases buf.toEthernet with
  | error e => rfl
  | ok result =>
    obtain ⟨translation, b⟩ := result
    simp only [note_timeless, routeTo_timeless]
    rw [show screen env.timeless translation b.window = screen env translation b.window from rfl]
    cases screen env translation b.window <;> rfl

theorem processRaw_timeless (st : State) (buf : Buffer) (desc : RxDescriptor) :
    processRaw env.timeless st.timeless buf desc =
      (processRaw env st buf desc).map id State.timeless := by
  unfold processRaw
  rw [show env.timeless.settings = env.settings from rfl]
  split
  · split <;> rfl
  · split
    · exact route_timeless env st _
    · rfl

theorem withPayload_timeless (st : State) (buf : Buffer) (desc : RxDescriptor)
    {next after : Buffer → Outcome × State}
    (same : ∀ payload, after payload = (next payload).map id State.timeless) :
    withPayload st.timeless buf desc after =
      (withPayload st buf desc next).map id State.timeless := by
  unfold withPayload
  split
  · exact same _
  · rfl

/-- **Single frames.** What a frame comes to does not depend on times. -/
theorem process_timeless (st : State) (buf : Buffer) (desc : RxDescriptor) :
    process env.timeless st.timeless buf desc =
      (process env st buf desc).map id State.timeless := by
  unfold process
  rw [show env.timeless.settings = env.settings from rfl]
  split
  · rfl
  · exact withPayload_timeless st buf desc fun _ => rfl
  · split
    · exact withPayload_timeless st buf desc fun _ => rfl
    · rfl
  · rfl
  · rfl
  · exact withPayload_timeless st buf desc fun payload => processRaw_timeless env st payload desc
  · exact withPayload_timeless st buf desc fun payload => route_timeless env st payload

theorem processParts_timeless (desc : RxDescriptor) (st : State) (parts : List Buffer) :
    processParts env.timeless desc st.timeless parts =
      (processParts env desc st parts).map id State.timeless := by
  induction parts generalizing st with
  | nil => rfl
  | cons part parts ih =>
    simp only [processParts, process_timeless, Prod.map_fst, Prod.map_snd, ih]
    rfl

/-- **Aggregates.** Nor do the outcomes of a frame that may be an aggregate. -/
theorem processAll_timeless (st : State) (buf : Buffer) (desc : RxDescriptor) :
    processAll env.timeless st.timeless buf desc =
      (processAll env st buf desc).map id State.timeless := by
  unfold processAll
  split
  · split
    · rfl
    · simp only [processParts_timeless]
      rfl
  · simp only [process_timeless]
    rfl

end Ingress

/-! ## Interfaces -/

namespace Interface

variable {σ : Type} (o : Outside σ) (near : Neighbors) (now : Instant) (i : Interface) (s : σ)
  (buf : Buffer) (desc : RxDescriptor)

/-- The interface with zero for all times in its station table. -/
def timeless (i : Interface) : Interface := { i with stations := i.stations.timeless }

theorem notePeer_timeless (peer : HwAddr) :
    i.timeless.notePeer 0 peer desc = (i.notePeer now peer desc).timeless := by
  have observed := i.stations.observe_timeless peer desc.seqNum desc.priority desc.snr desc.nf now
  have counted (t : StationTable) :
      t.timeless.modify peer (·.receivedBytes desc.pktLength.toNat) =
        (t.modify peer (·.receivedBytes desc.pktLength.toNat)).timeless :=
    t.modify_timeless peer fun _ => rfl
  unfold notePeer
  rw [show i.timeless.stations = i.stations.timeless from rfl, observed]
  cases i.stations.observe peer desc.seqNum desc.priority desc.snr desc.nf now with
  | error e =>
    simp only [Except.map, counted]
    rfl
  | ok result =>
    simp only [Except.map, Prod.map_snd, counted]
    rfl

theorem runIngress_timeless :
    i.timeless.runIngress o near 0 s buf desc =
      (i.runIngress o near now s buf desc).map id (Prod.map timeless id) := by
  have processed := Ingress.processAll_timeless ⟨i.settings, near, now⟩ ⟨i.stations, []⟩ buf desc
  unfold runIngress
  rw [show (⟨i.timeless.settings, near, 0⟩ : Ingress.Env) =
      Ingress.Env.timeless ⟨i.settings, near, now⟩ from rfl,
    show (⟨i.timeless.stations, []⟩ : Ingress.State) =
      Ingress.State.timeless ⟨i.stations, []⟩ from rfl, processed]
  rfl

theorem handOff_timeless (seq : UInt16) (trafficId : UInt8) (peer : HwAddr)
    (frameClass : FrameClass) :
    i.timeless.handOff o s seq trafficId peer frameClass buf =
      (i.handOff o s seq trafficId peer frameClass buf).map id (Prod.map timeless id) := rfl

theorem receiveRequest_timeless :
    i.timeless.receiveRequest o s buf desc =
      (i.receiveRequest o s buf desc).map id (Prod.map timeless id) := by
  unfold receiveRequest
  rw [show i.timeless.blockAck = i.blockAck from rfl]
  split
  · rfl
  · split
    · rfl
    · split
      · rfl
      · next request _ _ =>
        simp only [handOff_timeless]
        split
        · rcases i.handOff o s (request.le16At 18 >>> 4) (request.le16At 16 >>> 12).toUInt8
            (HwAddr.ofSlice request requestTransmitter) .blockAckRequest buf with ⟨_ | _, j, t⟩
          · rfl
          · rfl
        · rfl

theorem receiveFrame_timeless :
    i.timeless.receiveFrame o near 0 s buf desc =
      (i.receiveFrame o near now s buf desc).map id (Prod.map timeless id) := by
  have noted (peer? : Option HwAddr) : peer?.elim i.timeless (i.timeless.notePeer 0 · desc) =
      (peer?.elim i (i.notePeer now · desc)).timeless := by
    cases peer? with
    | none => rfl
    | some peer => exact i.notePeer_timeless now desc peer
  have session (j : Interface) (frameClass : FrameClass) (payload : Bytes) :
      j.timeless.sessionPeer? o s desc frameClass payload =
        j.sessionPeer? o s desc frameClass payload := rfl
  unfold receiveFrame
  simp only [noted, session, handOff_timeless]
  generalize (desc.frameClass.bind (peerOf? ((desc.payload? buf.window).getD []))).elim i
    (i.notePeer now · desc) = j
  split
  · next frameClass peer _ =>
    rcases j.handOff o s desc.seqNum desc.priority peer frameClass buf with ⟨_ | _, k, t⟩
    · rfl
    · rfl
  · simp only [j.runIngress_timeless o near now]
    rfl

/-- **Receiving.** What a received frame comes to does not depend on times. -/
theorem receive_timeless :
    i.timeless.receive o near 0 s buf =
      (i.receive o near now s buf).map id (Prod.map timeless id) := by
  unfold receive
  dsimp only
  split
  · rfl
  · next desc _ =>
    split
    · exact congrArg (Prod.map (fun outcome => [outcome]) id)
        (receiveRequest_timeless o (i.count (·.received buf.size)) s buf desc)
    · exact receiveFrame_timeless o near now (i.count (·.received buf.size)) s buf desc

/-- **Releasing.** Nor does what a released frame comes to. -/
theorem receiveReordered_timeless :
    i.timeless.receiveReordered o near 0 s buf =
      (i.receiveReordered o near now s buf).map id (Prod.map timeless id) := by
  unfold receiveReordered
  split
  · rfl
  · exact runIngress_timeless o near now i s _ _

end Interface

end Airlink
