import Airlink.Proofs.Processing
import Airlink.Proofs.Receive.Outcomes
import Airlink.Proofs.Stations.Operations

/-!
# What ingress does to the station table

Ingress leaves the station table alone but for direct-link frames, and each of these changes at most
the entry of its own sender. `Learned` says what becomes of this entry, one rule to a case, by the
role of the interface, the action, the capabilities and the room in the table.

Which direct-link frames there are is a matter of the octets that arrive
(`Ingress.directLinks`); what the table or the policy of the interface comes to has no part in it.
`Ingress.processAll_learns` says that ingress follows the rules for them one after the other and
reports each of them once, in order.
-/

namespace Airlink

/-- A direct-link frame with its sender. -/
structure DirectLink where
  peer : HwAddr
  tdls : Tdls
  deriving DecidableEq, Repr

/-- What is reported of a direct-link frame. -/
def DirectLink.report (l : DirectLink) : TdlsReport := ⟨l.peer, l.tdls.capabilities, l.tdls.action⟩

namespace Station

theorem grant_none (s : Station) : s.grant .none = s := by
  simp [grant, Capabilities.union, Capabilities.none]

theorem grant_grant (s : Station) (a b : Capabilities) :
    (s.grant a).grant b = s.grant (a.union b) := by
  simp only [grant, Capabilities.union_assoc]

end Station

namespace Screening

/-- The direct-link frame that an Ethernet-II frame carries, if it carries one. -/
def directLink? (frame : Bytes) : Option DirectLink :=
  if frame.be16At 12 = EtherType.dot11Encap then
    (Tdls.parse? (frame.drop Translation.headerSize)).map (⟨HwAddr.ofSlice frame 6, ·⟩)
  else none

/-- A look at a packet finds a direct-link frame by its ethertype, whether or not the filter is
on. -/
theorem inspect_eq_tdls_iff (etherType : UInt16) (packet : Bytes) (filter : Bool) (tdls : Tdls) :
    inspect etherType packet filter = .tdls tdls ↔
      etherType = EtherType.dot11Encap ∧ Tdls.parse? packet = some tdls := by
  unfold inspect
  by_cases encap : etherType = EtherType.dot11Encap
  · subst encap
    have notArp : ¬ (EtherType.dot11Encap = EtherType.arp ∧ filter = true ∧
        isGratuitousArp packet = true) := fun h => absurd h.1 (by decide)
    have notIpv6 : ¬ (EtherType.dot11Encap = EtherType.ipv6 ∧ filter = true ∧
        isUnsolicitedAdvert packet = true) := fun h => absurd h.1 (by decide)
    rw [if_neg notArp, if_neg notIpv6, if_pos rfl]
    cases Tdls.parse? packet <;> simp
  · rw [if_neg encap]
    refine iff_of_false ?_ fun h => encap h.1
    split
    · nofun
    · split
      · nofun
      · nofun

/-- A frame with a length field carries no direct-link frame. -/
theorem directLink?_of_isLength {frame : Bytes} (h : frame.be16At 12 < Translation.minEtherType) :
    directLink? frame = none := by
  refine if_neg fun e => ?_
  rw [e] at h
  exact absurd h (by decide)

end Screening

namespace Ingress

/-! ## Direct-link frames in what arrives -/

/-- A translated frame is noted just if it carries a direct-link frame. -/
theorem screen_eq_tdls_iff (env : Env) {b c : Buffer} {translation : Translation}
    (h : b.toEthernet = .ok (translation, c)) (tdls : Tdls) :
    screen env translation c.window = .tdls tdls ↔
      Screening.directLink? c.window = some ⟨HwAddr.ofSlice c.window 6, tdls⟩ := by
  unfold screen
  rcases (Buffer.collapses_of_toEthernet h).type_or_length with found | ⟨isLength, tunnelled⟩
  · rw [found]
    dsimp only
    rw [Screening.inspect_eq_tdls_iff, Screening.directLink?]
    split
    · next encap => simp [encap]
    · next other => simp [other]
  · rw [Screening.directLink?_of_isLength isLength]
    refine iff_of_false ?_ nofun
    cases behind : translation.networkLayer with
    | none => nofun
    | some found =>
      obtain ⟨etherType, start⟩ := found
      dsimp only
      rw [Screening.inspect_eq_tdls_iff]
      rintro ⟨rfl, -⟩
      exact absurd (tunnelled _ _ behind) (by decide)

/-- The sender of a direct-link frame is the source address of the frame that carries it. -/
theorem peer_of_directLink? {frame : Bytes} {l : DirectLink}
    (h : Screening.directLink? frame = some l) : l.peer = HwAddr.ofSlice frame 6 := by
  unfold Screening.directLink? at h
  split at h
  · obtain ⟨tdls, -, rfl⟩ := Option.map_eq_some_iff.1 h
    rfl
  · cases h

/-- The direct-link frames in a frame that may be an aggregate, in order. -/
def directLinks (env : Env) (buf : Buffer) (desc : RxDescriptor) : List DirectLink :=
  (frames buf desc).filterMap fun f => (translated? env f.1 f.2).bind Screening.directLink?

/-- The state after a direct-link frame. -/
def noteLink (env : Env) (st : State) (l : DirectLink) : State := note env st l.peer l.tdls

/-- A single frame changes the state just by the direct-link frame that it carries. -/
theorem process_state (env : Env) (st : State) (buf : Buffer) (desc : RxDescriptor) :
    (process env st buf desc).2 =
      ((translated? env buf desc).bind Screening.directLink?).elim st (noteLink env st) := by
  have processed := process_processed env st buf desc
  generalize process env st buf desc = result at processed
  cases processed with
  | event e untranslated => rw [untranslated]; rfl
  | drop reason untranslated unscreened => rw [untranslated]; rfl
  | @sent b c translation carried translated =>
    rw [translated?_of_toEthernet carried translated, Option.bind_some]
    cases found : Screening.directLink? c.window with
    | some l =>
      have sender : l = ⟨HwAddr.ofSlice c.window 6, l.tdls⟩ := by
        rw [← peer_of_directLink? found]
      rw [(screen_eq_tdls_iff env translated l.tdls).2 (by rw [← sender, found])]
      rw [Option.elim_some, noteLink, peer_of_directLink? found]
      rfl
    | none =>
      cases verdict : screen env translation c.window with
      | drop reason => rfl
      | pass => rfl
      | tdls tdls =>
        rw [screen_eq_tdls_iff env translated, found] at verdict
        cases verdict

/-- Frames one after the other change the state just by the direct-link frames that they carry. -/
theorem getLastD_steps (env : Env) (st : State) (fs : List (Buffer × RxDescriptor)) :
    ((steps env st fs).map Prod.snd).getLastD st =
      (fs.filterMap fun f => (translated? env f.1 f.2).bind Screening.directLink?).foldl
        (noteLink env) st := by
  induction fs generalizing st with
  | nil => rfl
  | cons f fs ih =>
    obtain ⟨buf, desc⟩ := f
    have first := process_state env st buf desc
    rw [steps, List.map_cons, List.getLastD_cons, ih, List.filterMap_cons, first]
    cases (translated? env buf desc).bind Screening.directLink? with
    | none => rfl
    | some l => rfl

/-- Ingress changes the state just by the direct-link frames in what arrives. -/
theorem processAll_state (env : Env) (st : State) (buf : Buffer) (desc : RxDescriptor) :
    (processAll env st buf desc).2 = (directLinks env buf desc).foldl (noteLink env) st := by
  rw [processAll_eq, directLinks, getLastD_steps]

/-! ## What is learned from a direct-link frame -/

/-- What becomes of the entry of the sender of a direct-link frame. `room` says whether there is
room in the table for one more. -/
inductive Learned (env : Env) (l : DirectLink) (room : Prop) :
    Option Station → Option Station → Prop where
  /-- A station forgets a peer that tears down the link. -/
  | forgotten {entry : Option Station} (role : env.settings.role = .station)
      (ends : l.tdls.action = .teardown) : Learned env l room entry none
  /-- An access point does not. -/
  | kept {entry : Option Station} (role : env.settings.role = .accessPoint)
      (ends : l.tdls.action = .teardown) : Learned env l room entry entry
  /-- A frame that announces nothing, such as a refusal, changes nothing. -/
  | silent {entry : Option Station} (starts : l.tdls.action ≠ .teardown)
      (silent : l.tdls.capabilities.isEmpty = true) : Learned env l room entry entry
  /-- A peer that is known gains what it announces. -/
  | granted {s : Station} (starts : l.tdls.action ≠ .teardown)
      (announces : l.tdls.capabilities.isEmpty = false) :
      Learned env l room (some s) (some (s.grant l.tdls.capabilities))
  /-- A station adds a new peer. -/
  | entered (role : env.settings.role = .station) (starts : l.tdls.action ≠ .teardown)
      (announces : l.tdls.capabilities.isEmpty = false) (fits : room) :
      Learned env l room none (some ((Station.new l.peer env.now).grant l.tdls.capabilities))
  /-- There is no room for it. -/
  | refused (role : env.settings.role = .station) (starts : l.tdls.action ≠ .teardown)
      (announces : l.tdls.capabilities.isEmpty = false) (full : ¬ room) :
      Learned env l room none none
  /-- An access point adds nobody. -/
  | unknown (role : env.settings.role = .accessPoint) (starts : l.tdls.action ≠ .teardown)
      (announces : l.tdls.capabilities.isEmpty = false) : Learned env l room none none

/-- What a direct-link frame does to a table. -/
structure Learns (env : Env) (t : StationTable) (l : DirectLink) (t' : StationTable) : Prop where
  sender : Learned env l (t.size < t.capacity) (t.lookup? l.peer) (t'.lookup? l.peer)
  others : ∀ addr, addr ≠ l.peer → t'.lookup? addr = t.lookup? addr
  capacity : t'.capacity = t.capacity
  timeout : t'.timeout = t.timeout
  sound : t.Sound → t'.Sound

/-- What direct-link frames do to a table one after the other. -/
inductive LearnsAll (env : Env) : StationTable → List DirectLink → StationTable → Prop where
  | nil (t : StationTable) : LearnsAll env t [] t
  | cons {t t' t'' : StationTable} {l : DirectLink} {ls : List DirectLink}
      (first : Learns env t l t') (rest : LearnsAll env t' ls t'') : LearnsAll env t (l :: ls) t''

variable {env : Env} {t t' : StationTable} {l : DirectLink} {ls : List DirectLink}

/-- A table that stays. -/
theorem Learns.of_learned
    (h : Learned env l (t.size < t.capacity) (t.lookup? l.peer) (t.lookup? l.peer)) :
    Learns env t l t :=
  ⟨h, fun _ _ => rfl, rfl, rfl, id⟩

/-- A table in which the entry of the sender was put. -/
theorem Learns.of_update {entry : Option Station}
    (put : t'.lookup? = Function.update t.lookup? l.peer entry)
    (h : Learned env l (t.size < t.capacity) (t.lookup? l.peer) entry)
    (capacity : t'.capacity = t.capacity) (timeout : t'.timeout = t.timeout)
    (sound : t.Sound → t'.Sound) : Learns env t l t' where
  sender := by rw [put, Function.update_self]; exact h
  others addr apart := by rw [put, Function.update_of_ne apart]
  capacity := capacity
  timeout := timeout
  sound := sound

/-- Granting leaves a table sound. -/
theorem grant_sound (h : t.Sound) (peer : HwAddr) (caps : Capabilities) :
    (t.grant peer caps).Sound := StationTable.sound_modify h peer fun _ => rfl

/-- A direct-link frame is learned from by the rules. -/
theorem learn_learns (env : Env) (t : StationTable) (l : DirectLink) :
    Learns env t l (learn env t l.peer l.tdls) := by
  unfold learn
  cases role : env.settings.role with
  | station =>
    dsimp only
    split
    · next ends =>
      exact .of_update (StationTable.lookup?_disassociate t l.peer) (.forgotten role ends) rfl rfl
        fun sound => StationTable.sound_filter sound _
    next starts =>
    split
    · next silent => exact .of_learned (.silent starts silent)
    next announces =>
    have announces : l.tdls.capabilities.isEmpty = false := by simpa using announces
    cases entering : t.enter l.peer env.now with
    | error e =>
      obtain ⟨new, full, -⟩ := StationTable.enter_eq_error entering
      refine .of_learned ?_
      rw [new]
      exact .refused role starts announces (Nat.not_lt.2 full)
    | ok t' =>
      obtain ⟨capacity, timeout, put⟩ := StationTable.lookup?_enter entering
      refine .of_update (StationTable.lookup?_modify_update put (·.grant l.tdls.capabilities)
        fun _ => rfl) ?_ capacity timeout fun sound =>
          grant_sound (StationTable.sound_enter sound entering) _ _
      cases found : t.lookup? l.peer with
      | some s =>
        rw [PeerMap.entry, found]
        exact .granted starts announces
      | none =>
        have room := (StationTable.known_or_room_of_enter entering).resolve_left (not_not.2 found)
        rw [PeerMap.entry, found]
        exact .entered role starts announces room
  | accessPoint =>
    dsimp only
    split
    · next unheard =>
      by_cases ends : l.tdls.action = .teardown
      · exact .of_learned (.kept role ends)
      · exact .of_learned (.silent ends (unheard.resolve_left ends))
    next heard =>
    obtain ⟨starts, announces⟩ := not_or.1 heard
    have announces : l.tdls.capabilities.isEmpty = false := by simpa using announces
    refine .of_update (StationTable.lookup?_modify t l.peer fun _ => rfl) ?_ rfl rfl fun sound =>
      grant_sound sound _ _
    cases found : t.lookup? l.peer with
    | some s => exact .granted starts announces
    | none => exact .unknown role starts announces

/-! ## What stays -/

/-- An entry stays, with further capabilities at most, if nobody forgets it. -/
theorem Learned.some_stays {room : Prop} {s : Station} {entry : Option Station}
    (h : Learned env l room (some s) entry)
    (stays : env.settings.role = .accessPoint ∨ l.tdls.action ≠ .teardown) :
    ∃ caps, entry = some (s.grant caps) := by
  cases h with
  | forgotten role ends =>
    rcases stays with other | starts
    · rw [role] at other
      cases other
    · exact absurd ends starts
  | kept | silent => exact ⟨.none, by rw [Station.grant_none]⟩
  | granted => exact ⟨_, rfl⟩

/-- An access point knows the senders that it knew. -/
theorem Learned.isSome_eq {room : Prop} {before after : Option Station}
    (h : Learned env l room before after) (role : env.settings.role = .accessPoint) :
    after.isSome = before.isSome := by
  cases h with
  | forgotten other | entered other => rw [role] at other; cases other
  | kept | silent | granted | refused | unknown => rfl

theorem Learns.some_stays (h : Learns env t l t') {addr : HwAddr} {s : Station}
    (found : t.lookup? addr = some s)
    (stays : env.settings.role = .accessPoint ∨
      (l.peer = addr → l.tdls.action ≠ .teardown)) :
    ∃ caps, t'.lookup? addr = some (s.grant caps) := by
  by_cases same : addr = l.peer
  · subst same
    have sender := h.sender
    rw [found] at sender
    exact sender.some_stays (stays.imp_right fun starts => starts rfl)
  · exact ⟨.none, by rw [h.others addr same, found, Station.grant_none]⟩

theorem Learns.isSome_eq (h : Learns env t l t') (role : env.settings.role = .accessPoint)
    (addr : HwAddr) : (t'.lookup? addr).isSome = (t.lookup? addr).isSome := by
  by_cases same : addr = l.peer
  · subst same
    exact h.sender.isSome_eq role
  · rw [h.others addr same]

namespace LearnsAll

/-- Who sends no direct-link frame keeps its entry. -/
theorem others (h : LearnsAll env t ls t') {addr : HwAddr} (apart : ∀ l ∈ ls, l.peer ≠ addr) :
    t'.lookup? addr = t.lookup? addr := by
  induction h with
  | nil => rfl
  | cons first rest ih =>
    obtain ⟨head, tail⟩ := List.forall_mem_cons.1 apart
    rw [ih tail, first.others addr (Ne.symm head)]

/-- An entry stays over all frames, with further capabilities at most, if none of them makes it be
forgotten. -/
theorem some_stays (h : LearnsAll env t ls t') {addr : HwAddr} {s : Station}
    (found : t.lookup? addr = some s)
    (stays : env.settings.role = .accessPoint ∨
      ∀ l ∈ ls, l.peer = addr → l.tdls.action ≠ .teardown) :
    ∃ caps, t'.lookup? addr = some (s.grant caps) := by
  induction h generalizing s with
  | nil => exact ⟨.none, by rw [found, Station.grant_none]⟩
  | cons first rest ih =>
    obtain ⟨caps, found⟩ := first.some_stays found
      (stays.imp_right fun starts => starts _ List.mem_cons_self)
    obtain ⟨more, found⟩ := ih found
      (stays.imp_right fun starts l mem => starts l (List.mem_cons_of_mem _ mem))
    exact ⟨caps.union more, by rw [found, Station.grant_grant]⟩

theorem isSome_eq (h : LearnsAll env t ls t') (role : env.settings.role = .accessPoint)
    (addr : HwAddr) : (t'.lookup? addr).isSome = (t.lookup? addr).isSome := by
  induction h with
  | nil => rfl
  | cons first rest ih => rw [ih, first.isSome_eq role addr]

end LearnsAll

/-! ## Frames one after the other -/

/-- Direct-link frames that are noted one after the other are reported in order and learned from by
the rules. -/
theorem foldl_noteLink (env : Env) (st : State) (ls : List DirectLink) :
    (ls.foldl (noteLink env) st).reports = st.reports ++ ls.map DirectLink.report ∧
      LearnsAll env st.stations ls (ls.foldl (noteLink env) st).stations := by
  induction ls generalizing st with
  | nil => exact ⟨(List.append_nil _).symm, .nil _⟩
  | cons l ls ih =>
    obtain ⟨reports, learned⟩ := ih (noteLink env st l)
    refine ⟨?_, .cons (learn_learns env st.stations l) learned⟩
    rw [List.foldl_cons, reports]
    exact List.append_assoc _ [l.report] _

/-- The calls that ingress makes are the reports of the direct-link frames. -/
theorem log_runIngress {σ : Type} (o : Outside σ) (env : Env) (i : Interface) (s : σ)
    (log : List Outside.Call) (buf : Buffer) (desc : RxDescriptor)
    (settings : i.settings = env.settings) :
    (i.runIngress o.logged env.near env.now (s, log) buf desc).2.2.2 =
      log ++ (directLinks env buf desc).map fun l =>
        .record l.peer l.tdls.capabilities l.tdls.action := by
  have same : Env.mk i.settings env.near env.now = env := by rw [settings]
  have state := processAll_state env ⟨i.stations, []⟩ buf desc
  have reported := (foldl_noteLink env ⟨i.stations, []⟩ (directLinks env buf desc)).1
  rw [← state, List.nil_append] at reported
  change (Interface.report o.logged
    (processAll ⟨i.settings, env.near, env.now⟩ ⟨i.stations, []⟩ buf desc).2.reports (s, log)).2 = _
  rw [same, reported, Interface.report_logged, List.map_map]
  rfl

/-- **Direct-link frames.** Of all that ingress is given only the direct-link frames change the
station table, one after the other by the rules. Nothing is learned about anybody who sends none. An
access point adds and removes nobody, and of an entry that stays only the capabilities change, by
what is added to them. Each of these frames is reported once, in order and whatever else becomes of
it, and no other frame is. -/
theorem processAll_learns (env : Env) (st : State) (buf : Buffer) (desc : RxDescriptor) :
    let links := directLinks env buf desc
    let after := (processAll env st buf desc).2
    LearnsAll env st.stations links after.stations ∧
      (∀ addr, (∀ l ∈ links, l.peer ≠ addr) →
        after.stations.lookup? addr = st.stations.lookup? addr) ∧
      (env.settings.role = .accessPoint → ∀ addr,
        (after.stations.lookup? addr).isSome = (st.stations.lookup? addr).isSome) ∧
      (∀ addr s, st.stations.lookup? addr = some s →
        env.settings.role = .accessPoint ∨
          (∀ l ∈ links, l.peer = addr → l.tdls.action ≠ .teardown) →
        ∃ caps, after.stations.lookup? addr = some (s.grant caps)) ∧
      after.reports = st.reports ++ links.map DirectLink.report ∧
      ∀ {σ : Type} (o : Outside σ) (i : Interface) (s : σ) (log : List Outside.Call),
        i.settings = env.settings →
        (i.runIngress o.logged env.near env.now (s, log) buf desc).2.2.2 =
          log ++ links.map fun l => .record l.peer l.tdls.capabilities l.tdls.action := by
  intro links after
  have state : after = links.foldl (noteLink env) st := processAll_state env st buf desc
  obtain ⟨reports, learned⟩ := foldl_noteLink env st links
  rw [← state] at reports learned
  exact ⟨learned, fun addr apart => learned.others apart, learned.isSome_eq,
    fun addr s found stays => learned.some_stays found stays, reports,
    fun o i s log settings => log_runIngress o env i s log buf desc settings⟩

/-- A peer that sets up direct links. -/
def linkPeer : HwAddr := ⟨2, 0, 0, 0, 0, 0xa⟩

/-- An aggregate of two frames of a peer: it asks for a direct link, announcing HT capabilities, and
then tears it down. -/
def linkAggregate : Bytes :=
  (Msdu.mk ⟨2, 0, 0, 0, 0, 1⟩ linkPeer (.ofEtherType EtherType.dot11Encap)
      [2, 12, 0, 1, 0, 0, 45, 2, 0, 0]).part ++
    (Msdu.mk ⟨2, 0, 0, 0, 0, 1⟩ linkPeer (.ofEtherType EtherType.dot11Encap) [2, 12, 3, 0, 0]).part

/-- An access point that knows the peer grants it what it announces, keeps it after the teardown,
leaves everybody else alone and reports both frames. -/
theorem processAll_learns_teardown :
    let buf := Buffer.ofBytes .rx linkAggregate
    let desc := covering .amsdu linkAggregate
    let known : State := ⟨{ StationTable.empty 1 0 with stations := [.new linkPeer 0] }, []⟩
    let after := (processAll accessPoint known buf desc).2
    let i : Interface := { Interface.standard with settings := accessPoint.settings }
    (∃ caps, after.stations.lookup? linkPeer = some ((Station.new linkPeer 0).grant caps)) ∧
      after.stations.lookup? ⟨2, 0, 0, 0, 0, 0xb⟩ = none ∧ after.reports.length = 2 ∧
      (i.runIngress Replay.accepting.logged [] 0 ((), []) buf desc).2.2.2.length = 2 := by
  intro buf desc known after i
  have two : (directLinks accessPoint buf desc).length = 2 := by decide +kernel
  obtain ⟨-, others, -, stays, reports, records⟩ := processAll_learns accessPoint known buf desc
  refine ⟨stays linkPeer _ rfl (.inl rfl), others _ (by decide +kernel), ?_, ?_⟩
  · rw [reports, List.length_append, List.length_map, two]
    rfl
  · have calls := congrArg List.length (records Replay.accepting i () [] rfl)
    rw [List.length_append, List.length_map, two] at calls
    exact calls

end Ingress

end Airlink
