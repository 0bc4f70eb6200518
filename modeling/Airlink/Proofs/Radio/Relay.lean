import Airlink.Proofs.Detour
import Airlink.Proofs.Radio.Ledger
import Airlink.Proofs.Radio.Reachable
import Airlink.Proofs.Relaying

/-!
# Relayed frames

A unicast frame for a station of an access point is relayed through that access point or through the
first of its siblings that knows the station (`Radio.Targets`). Such a frame goes out there once and
nowhere else, and never to the host: `Radio.receive_relayed_once` follows it from its arrival at
one interface into the backlog or the transport of another.
-/

namespace Airlink

open Outside (Call)

variable {σ : Type}

/-! ## Where frames are relayed to -/

/-- The first element with a property, the one at some position left aside. -/
theorem find?_eraseIdx {α : Type} {p : α → Bool} {l : List α} {k t : Nat} {x : α}
    (other : t ≠ k) (at_ : l[t]? = some x) (holds : p x = true)
    (first : ∀ n y, n < t → n ≠ k → l[n]? = some y → p y = false) :
    (l.eraseIdx k).find? p = some x := by
  induction l generalizing k t with
  | nil => cases at_
  | cons y l ih =>
    cases k with
    | zero =>
      obtain ⟨t, rfl⟩ := Nat.exists_eq_succ_of_ne_zero other
      obtain ⟨inside, rfl⟩ := List.getElem?_eq_some_iff.1 at_
      refine List.find?_eq_some_iff_getElem.2 ⟨holds, t, Nat.lt_of_succ_lt_succ inside, rfl,
        fun n before => ?_⟩
      have fails := first (n + 1) (l.get ⟨n, by simp at inside; omega⟩) (Nat.succ_lt_succ before)
        (Nat.succ_ne_zero n) (by simp)
      simpa using fails
    | succ k =>
      cases t with
      | zero =>
        cases at_
        exact List.find?_cons_of_pos holds
      | succ t =>
        have fails : p y = false := first 0 y (Nat.succ_pos t) (Nat.succ_ne_zero k).symm rfl
        rw [List.eraseIdx_cons_succ, List.find?_cons_of_neg (by simp [fails])]
        exact ih (fun same => other (congrArg _ same)) at_ fun n z before apart atN =>
          first (n + 1) z (Nat.succ_lt_succ before) (fun same => apart (Nat.succ.inj same)) atN

namespace Radio

/-- The interface through which the access point at position `k` relays a unicast frame, given what
it knows of stations: its own for one of its stations, and otherwise the first of the other access
points, in the order of the interfaces, that knows the address. -/
inductive Targets (r : Radio) (k : Nat) (policy : ForwardingPolicy) (stations : StationTable)
    (dest : HwAddr) : Nat → Prop where
  | own (known : stations.contains dest = true)
      (allowed : policy.has ForwardingPolicy.hostLocal = false) :
      Targets r k policy stations dest k
  | sibling {t : Nat} {j : Interface} (unknown : stations.contains dest = false)
      (allowed : policy.has ForwardingPolicy.hostSibling = false) (other : t ≠ k)
      (at_ : r.interfaces[t]? = some j) (role : j.settings.role = .accessPoint)
      (knows : j.stations.contains dest = true)
      (first : ∀ (n : Nat) (l : Interface), n < t → n ≠ k → r.interfaces[n]? = some l →
        l.settings.role = .accessPoint → l.stations.contains dest = false) :
      Targets r k policy stations dest t

/-- The sibling that is found is the first that knows the address. -/
theorem locate?_neighbors {r : Radio} {k t : Nat} {j : Interface} {dest : HwAddr} (other : t ≠ k)
    (at_ : r.interfaces[t]? = some j) (role : j.settings.role = .accessPoint)
    (knows : j.stations.contains dest = true)
    (first : ∀ (n : Nat) (l : Interface), n < t → n ≠ k → r.interfaces[n]? = some l →
      l.settings.role = .accessPoint → l.stations.contains dest = false) :
    (r.neighbors k).locate? dest = some j.bssNum := by
  have found : ((r.interfaces.eraseIdx k).find? fun i =>
      i.settings.role == .accessPoint && i.stations.contains dest) = some j := by
    refine find?_eraseIdx other at_ (by simp [role, knows]) fun n l before apart atN => ?_
    by_cases isAp : l.settings.role = .accessPoint
    · simp [first n l before apart atN isAp]
    · simp [isAp]
  unfold neighbors Neighbors.locate?
  rw [List.find?_map, List.find?_filter]
  simp only [Function.comp_def, Bool.decide_and, Bool.decide_eq_true] at found ⊢
  rw [found]
  rfl

/-- The place that the decision names is the place of the interface. -/
theorem Targets.relays {r : Radio} (arises : r.Arises) {k t : Nat} {settings : Ingress.Settings}
    {stations : StationTable} {dest : HwAddr}
    (h : r.Targets k settings.forwarding stations dest t) (now : Instant) :
    ∃ scope, Forwarding.Relays (Ingress.view ⟨settings, r.neighbors k, now⟩ stations) dest scope ∧
      ∀ r' : Radio, r'.identities = r.identities → ∀ (o : Outside σ) (buf : Buffer) (s : σ),
        r'.relay o k buf scope s = r'.relayThrough o t buf s := by
  cases h with
  | own known allowed => exact ⟨.bss, .own known allowed, fun _ _ _ _ _ => rfl⟩
  | @sibling t j unknown allowed other at_ role knows first =>
    refine ⟨.sibling j.bssNum,
      .sibling unknown (locate?_neighbors other at_ role knows first) allowed, ?_⟩
    intro r' same o buf s
    have found : r'.find? j.bssNum = some t := by
      rw [find?_eq_numbers, numbers_of_identities same, ← find?_eq_numbers]
      exact arises.find?_eq_some_iff.2 ⟨j, at_, rfl⟩
    simp only [relay, found]

end Radio

/-! ## Arrival -/

/-- What a reading makes nothing of is not in the records of direct-link frames. -/
theorem filterMap_records {α : Type} (read : Call → Option α)
    (none : ∀ peer caps action, read (.record peer caps action) = none)
    (reports : List TdlsReport) :
    (reports.map fun r => Call.record r.peer r.capabilities r.action).filterMap read = [] :=
  List.filterMap_eq_nil_iff.2 fun call mem => by
    obtain ⟨r, -, rfl⟩ := List.mem_map.1 mem
    exact none _ _ _

/-- Such a frame is one for a single station. -/
theorem Ingress.Relayable.unicastFrom {env : Env} {buf : Buffer} {desc : RxDescriptor}
    (h : Relayable env buf desc) :
    Interface.UnicastFrom (source buf desc) buf desc .data := by
  have length := RxDescriptor.length_drop_of_decode h.decoded
  have room : 14 ≤ desc.pktLength.toNat := h.room
  refine ⟨h.decoded, h.isData, .inl rfl, ?_, HwAddr.at?_eq_some (by omega)⟩
  unfold Interface.isUnicast
  rw [HwAddr.at?_eq_some (by omega)]
  simpa [destination] using h.unicast

/-- The interface that such a frame comes to counts it and notes its sender, forwards it and does
nothing else with it. -/
theorem Interface.receive_forwards (o : Outside σ) {near : Neighbors} {now : Instant}
    {i : Interface} (s : σ) (log : List Call) {buf : Buffer} {desc : RxDescriptor}
    (h : Ingress.Relayable ⟨i.settings, near, now⟩ buf desc)
    (unoffered : ¬ (i.blockAck = true ∧
      o.hasSession desc.priority (Ingress.source buf desc) s = true))
    {scope : Scope}
    (relays : Forwarding.Relays (Ingress.view ⟨i.settings, near, now⟩
        (i.noted now (Ingress.source buf desc) buf desc).stations)
      (Ingress.destination buf desc) scope) :
    ∃ (c : Buffer) (stations : StationTable) (t : σ) (calls : List Call),
      Ingress.translated? ⟨i.settings, near, now⟩ buf desc = some c.window ∧
      c.frame = { buf.frame with bytes := c.window } ∧
      i.receive o.logged near now (s, log) buf = ([.forward c.toTx scope],
        { i with stations, counters := i.counters.received buf.size }, t, log ++ calls) ∧
      submissions calls = [] ∧ deliveries calls = [] ∧ completed calls = [] := by
  obtain ⟨c, translated, frame, forwarded⟩ := Ingress.process_relayed h
    ⟨(i.noted now (Ingress.source buf desc) buf desc).stations, []⟩ relays
  have single : desc.frameClass ≠ some .amsdu := by
    rw [h.isData]
    nofun
  have settings : (i.noted now (Ingress.source buf desc) buf desc).settings = i.settings := rfl
  generalize processed : Ingress.process _ _ buf desc = result at forwarded
  obtain ⟨outcome, st⟩ := result
  cases forwarded
  refine ⟨c, st.stations, report o st.reports s,
    st.reports.map fun r : TdlsReport => .record r.peer r.capabilities r.action, translated, frame,
    ?_, filterMap_records Call.submission? (fun _ _ _ => rfl) st.reports,
    filterMap_records Call.delivery? (fun _ _ _ => rfl) st.reports,
    filterMap_records Call.completed? (fun _ _ _ => rfl) st.reports⟩
  rw [h.unicastFrom.receive_unoffered (o := o.logged) (s := (s, log)) near now unoffered]
  unfold runIngress Ingress.processAll
  rw [if_neg single, settings, processed]
  dsimp only
  rw [report_logged]
  rfl

/-- How an interface is left by a frame that it forwards. -/
structure Interface.Forwards (i i' : Interface) : Prop where
  identity : i'.identity = i.identity
  backlog : i'.backlog = i.backlog
  oversized : i'.counters.oversizedRejects = i.counters.oversizedRejects
  forwarded : i'.counters.forwarded = i.counters.forwarded + 1

/-! ## Departure -/

namespace Radio

theorem count_set (r : Radio) (k : Nat) (i : Interface) (f : Counters → Counters) :
    (r.set k i).count k f = r.set k (i.count f) := by
  unfold count set
  congr 1
  refine List.ext_getElem? fun n => ?_
  simp only [List.getElem?_modify, List.getElem?_set]
  split
  · split <;> rfl
  · cases r.interfaces[n]? <;> rfl

/-- The interface that is asked for by the number of one that is there is that one. -/
theorem Arises.require_eq_ok {r : Radio} (h : r.Arises) {k : Nat} {i : Interface}
    (at_ : r.interfaces[k]? = some i) : r.require i.bssNum = .ok (k, i) := by
  have found := h.find?_eq_some_iff.2 ⟨i, at_, rfl⟩
  simp only [require, found, at_]

/-- Where one interface forwards a frame, all of them go on to send as before. -/
theorem exists_getElem?_set {r : Radio} {k : Nat} {i i' : Interface}
    (at_ : r.interfaces[k]? = some i) (forwards : i.Forwards i') {l : Nat} {j : Interface}
    (atL : r.interfaces[l]? = some j) :
    ∃ j' : Interface, (r.set k i').interfaces[l]? = some j' ∧ j'.identity = j.identity ∧
      j'.backlog = j.backlog ∧ j'.counters.oversizedRejects = j.counters.oversizedRejects := by
  by_cases here : k = l
  · subst here
    cases Option.some_inj.1 (at_.symm.trans atL)
    exact ⟨i', List.getElem?_set_self (List.getElem?_eq_some_iff.1 at_).1, forwards.identity,
      forwards.backlog, forwards.oversized⟩
  · exact ⟨j, (List.getElem?_set_ne here).trans atL, rfl, rfl, rfl⟩

/-- A frame that leaves through an interface enters it, and the receipts of the interface stay. -/
theorem relayThrough_enters (o : Outside σ) {r : Radio} (reachable : r.Reachable) {t : Nat}
    {j : Interface} (at_ : r.interfaces[t]? = some j) {buf : Buffer} (turned : buf.IsRelayed)
    (s : σ) (log : List Call) :
    ∃ (j' : Interface) (u : σ) (calls : List Call),
      r.relayThrough o.logged t buf (s, log) = (r.set t j', u, log ++ calls) ∧
      j'.identity = j.identity ∧ j'.receipts = j.receipts ∧
      j.Enters buf.window buf.priority (submissions calls) j'.backlog.frames
        j'.counters.oversizedRejects ∧
      deliveries calls = [] ∧ (o.Returns → completed calls = []) := by
  have mem := List.mem_of_getElem? at_
  obtain ⟨calls, noted, entered, undelivered, untold⟩ :=
    j.relay_enters o (reachable.counted j mem)
      (reachable.egress j.identity (List.mem_map_of_mem mem)) turned s log
  refine ⟨(j.relay o.logged (s, log) buf).1, (j.relay o.logged (s, log) buf).2.1, calls, ?_,
    j.identity_relay o.logged (s, log) buf, j.receipts_relay o.logged (s, log) buf, entered,
    undelivered, untold⟩
  rw [relayThrough, at_, ← noted]

/-- A unicast data frame that comes to the access point at position `k`, which relays it through the
interface at position `t`. -/
structure Passing (o : Outside σ) (now : Instant) (r : Radio) (s : σ) (buf : Buffer)
    (desc : RxDescriptor) (k t : Nat) (i j : Interface) : Prop where
  receiver : r.interfaces[k]? = some i
  names : buf.window[1]? = some i.bssNum
  unflagged : buf.flags = .none
  relayable : Ingress.Relayable ⟨i.settings, r.neighbors k, now⟩ buf desc
  /-- The reorder engine is not offered the frame. -/
  unoffered : ¬ (i.blockAck = true ∧
    o.hasSession desc.priority (Ingress.source buf desc) s = true)
  /-- The stations are those known once the source of the frame was noted. -/
  targets : r.Targets k i.settings.forwarding
    (i.noted now (Ingress.source buf desc) buf desc).stations (Ingress.destination buf desc) t
  target : r.interfaces[t]? = some j

/-- Such a frame is received, and goes on to the interface that it leaves through. -/
theorem receive_relayThrough (o : Outside σ) (now : Instant) {r : Radio} (arises : r.Arises)
    (s : σ) {buf : Buffer} {desc : RxDescriptor} {k t : Nat} {i j : Interface}
    (h : Passing o now r s buf desc k t i j) :
    ∃ (c : Buffer) (i' : Interface) (u : σ) (calls : List Call),
      Ingress.translated? ⟨i.settings, r.neighbors k, now⟩ buf desc = some c.window ∧
      c.frame = { buf.frame with bytes := c.window } ∧ i.Forwards i' ∧
      r.receive o.logged now (s, []) buf =
        (.ok (), (r.set k i').relayThrough o.logged t c.toTx (u, calls)) ∧
      submissions calls = [] ∧ deliveries calls = [] ∧ completed calls = [] := by
  obtain ⟨scope, relays, resolved⟩ := h.targets.relays (σ := σ × List Call) arises now
  obtain ⟨c, stations, u, calls, translated, frame, received, silent⟩ :=
    Interface.receive_forwards o s [] h.relayable h.unoffered relays
  -- The receiver has counted the frame and its octets, and that it relays it.
  obtain ⟨i', same⟩ : ∃ i' : Interface, i' = { i with
      stations, counters := (i.counters.received buf.size).countForwarded } := ⟨_, rfl⟩
  have forwards : i.Forwards i' := by
    rw [same]
    exact ⟨rfl, rfl, rfl, rfl⟩
  refine ⟨c, i', u, calls, translated, frame, forwards, ?_, silent⟩
  unfold receive
  simp only [h.names, arises.require_eq_ok h.receiver, received, List.nil_append]
  show (_, ((r.set k _).count k Counters.countForwarded).relay o.logged k c.toTx scope _) = _
  rw [count_set]
  change (_, (r.set k { i with
    stations, counters := (i.counters.received buf.size).countForwarded }).relay o.logged k c.toTx
      scope _) = _
  rw [← same, resolved _ (identities_set h.receiver forwards.identity)]

/-- A frame of some octets left through the interface at position `t`, which was `j` before, and no
other. The interface at position `k`, which was `i` before, counts a frame that was relayed. -/
structure Passed (k t : Nat) (i j : Interface) (octets : Bytes) (priority : UInt8) (r r' : Radio)
    (log : List Call) : Prop where
  undelivered : deliveries log = []
  entered : ∃ j' : Interface, r'.interfaces[t]? = some j' ∧ j'.identity = j.identity ∧
    j.Enters octets priority (submissions log) j'.backlog.frames j'.counters.oversizedRejects
  untouched : ∀ (l : Nat) (i' : Interface), l ≠ t → r.interfaces[l]? = some i' →
    ∃ j' : Interface, r'.interfaces[l]? = some j' ∧ j'.identity = i'.identity ∧
      j'.backlog = i'.backlog
  counted : ∃ i' : Interface, r'.interfaces[k]? = some i' ∧
    i'.counters.forwarded = i.counters.forwarded + 1

/-- **A relayed frame goes out once.** Let a radio that can be reached receive a data frame that an
access point relays. Whatever the parties outside answer, the host is not handed the frame. With the
descriptor of the target in front, the translated frame is handed to the transport once if nothing
waits at the target, and is put once behind the frames that wait there if some do; if it does not
fit behind a descriptor the target refuses it and counts that. Nothing is put anywhere else. If the
transport gives back the buffers that it is handed, the host is not told that the frame was sent. -/
theorem receive_relayed_once (o : Outside σ) (now : Instant) {r : Radio} (reachable : r.Reachable)
    (s : σ) {buf : Buffer} {desc : RxDescriptor} {k t : Nat} {i j : Interface}
    (h : Passing o now r s buf desc k t i j) :
    let run := r.receive o.logged now (s, []) buf
    (run.1, run.2.1, run.2.2.1) = r.receive o now s buf ∧ run.1 = .ok () ∧
      (∃ octets, Ingress.translated? ⟨i.settings, r.neighbors k, now⟩ buf desc = some octets ∧
        Passed k t i j octets buf.priority r run.2.1 run.2.2.2) ∧
      (o.Returns → completed run.2.2.2 = []) := by
  obtain ⟨c, i', u, calls, translated, frame, forwards, received, made, delivered, told⟩ :=
    receive_relayThrough o now reachable.arises s h
  have between {l : Nat} {l' : Interface} (atL : r.interfaces[l]? = some l') :=
    exists_getElem?_set h.receiver forwards atL
  have reached : (r.set k i').Reachable := .tend reachable h.receiver forwards.identity
    (forwards.backlog ▸ reachable.counted i (List.mem_of_getElem? h.receiver))
  obtain ⟨j', atT, alike, waits, refused⟩ := between h.target
  have flags : c.flags = .none := (congrArg Frame.flags frame).trans h.unflagged
  obtain ⟨j'', v, calls', relayed, same, receipts, entered, undelivered, untold⟩ :=
    relayThrough_enters o reached atT (Buffer.isRelayed_toTx flags) u calls
  have priority : c.toTx.priority = buf.priority := congrArg Frame.priority frame
  rw [c.window_toTx, priority] at entered
  have sent : r.receive o.logged now (s, []) buf =
      (.ok (), (r.set k i').set t j'', v, calls ++ calls') := by
    rw [received, relayed]
  obtain ⟨_, logged, -⟩ := receive_charges o now s [] h.names
    (reachable.arises.require_eq_ok h.receiver) h.receiver
  have inside := (List.getElem?_eq_some_iff.1 atT).1
  refine ⟨by rw [logged], by rw [sent], ⟨c.window, translated, ?_⟩, fun returns => ?_⟩
  · rw [sent]
    refine ⟨?_, ⟨j'', List.getElem?_set_self inside, same.trans alike, ?_⟩,
      fun l l' other atL => ?_, ?_⟩
    · rw [deliveries_append, delivered, undelivered, List.append_nil]
    · rw [submissions_append, made, List.nil_append]
      exact entered.congr (congrArg Interface.Identity.settings alike)
        (congrArg Interface.Identity.bssNum alike) waits refused
    · obtain ⟨l'', at', same', backlog, -⟩ := between atL
      exact ⟨l'', (List.getElem?_set_ne other.symm).trans at', same', backlog⟩
    · have receives := List.getElem?_set_self (a := i') (List.getElem?_eq_some_iff.1 h.receiver).1
      by_cases here : t = k
      · subst here
        obtain rfl := Option.some_inj.1 (receives.symm.trans atT)
        exact ⟨j'', List.getElem?_set_self inside,
          (congrArg Receipts.forwarded receipts).trans forwards.forwarded⟩
      · exact ⟨i', (List.getElem?_set_ne here).trans receives, forwards.forwarded⟩
  · rw [sent, completed_append, told, untold returns, List.append_nil]

/-- An access point of the usual settings with a number, which relays between interfaces. -/
def relayingPoint (bss : UInt8) : Interface :=
  { Interface.standard with
    bssNum := bss
    settings := { Interface.standard.settings with
      role := .accessPoint
      forwarding := ⟨ForwardingPolicy.enabled⟩ }
    egress := ⟨Role.accessPoint.bssType, bss⟩ }

/-- The settings of such an access point. -/
def relayingConfig (bss : UInt8) : InterfaceConfig :=
  { InterfaceConfig.standard with
    role := .accessPoint
    bssNum := bss
    forwarding := ⟨ForwardingPolicy.enabled⟩ }

/-- An access point that knows one station. -/
def knowing (bss : UInt8) (addr : HwAddr) : Interface :=
  { relayingPoint bss with stations := ⟨[.new addr 0], 64, 300 * nanosPerSecond⟩ }

/-- Two access points, of which the second knows a station. -/
def siblings : Radio := ⟨[relayingPoint 0, knowing 1 ⟨2, 0, 0, 0, 2, 0xc⟩], .zero⟩

theorem siblings_reachable : siblings.Reachable := by
  have first : Interface.ofConfig (relayingConfig 0) = .ok (relayingPoint 0) := by rfl
  have second : Interface.ofConfig (relayingConfig 1) = .ok (relayingPoint 1) := by rfl
  exact .tend (k := 1) (i := relayingPoint 1) (j := knowing 1 ⟨2, 0, 0, 0, 2, 0xc⟩)
    (.add (.add .empty first rfl) second rfl) rfl rfl rfl

/-- A data frame that comes to the first access point for the station of the second, of which there
is only the Ethernet-II header. -/
def toSibling : Bytes :=
  [1, 0, 14, 0, 24, 0, 0, 0] ++ List.replicate 16 0 ++
    [2, 0, 0, 0, 2, 0xc, 2, 0, 0, 0, 1, 0xa, 8, 0]

theorem passing_toSibling :
    Passing Replay.accepting 0 siblings () (.ofBytes .rx toSibling) (.readFields toSibling) 0 1
      (relayingPoint 0) (knowing 1 ⟨2, 0, 0, 0, 2, 0xc⟩) where
  receiver := rfl
  names := by decide
  unflagged := rfl
  relayable :=
    { decoded := by rfl
      isData := by rfl
      room := by decide
      role := rfl
      relaying := by decide
      unicast := by decide
      foreign := by decide
      harmless := fun _ => by decide +kernel }
  unoffered := by decide
  targets := .sibling (by decide) (by decide) (by decide) rfl rfl (by decide)
    fun n _ before apart => absurd before (by omega)
  target := rfl

/-- The second access point sends the frame on, once, and the host sees nothing of it. -/
theorem receive_relayed_once_siblings :
    let run := siblings.receive Replay.accepting.logged 0 ((), []) (.ofBytes .rx toSibling)
    siblings.Reachable ∧ run.1 = .ok () ∧ (submissions run.2.2.2).length = 1 ∧
      deliveries run.2.2.2 = [] ∧ completed run.2.2.2 = [] := by
  obtain ⟨-, attributed, ⟨octets, translated, passed⟩, uncompleted⟩ :=
    receive_relayed_once Replay.accepting 0 siblings_reachable () passing_toSibling
  exact ⟨siblings_reachable, attributed, by decide +kernel, passed.undelivered,
    uncompleted fun _ _ => rfl⟩

end Radio

end Airlink
