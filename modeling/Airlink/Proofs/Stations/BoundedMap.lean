import Airlink.Proofs.Stations.Operations

/-!
# The station table as a bounded map

`PeerMap.Step` says what each operation does to a map from addresses to entries that holds at most a
given number of them, one rule to an operation, and one for the operations that are refused. A table
follows these rules (`StationTable.Op.apply_step`), so whatever is done to a table, it holds the
entries of such a map, each once and under its own address (`StationTable.run_bounded`).
-/

namespace Airlink

namespace StationTable

/-! ## Operations -/

/-- An operation on a station table, at the time that the clock shows. -/
inductive Op where
  | observe (addr : HwAddr) (seq : UInt16) (priority : UInt8) (snr nf : Int8) (now : Instant)
  | enter (addr : HwAddr) (now : Instant)
  | associate (addr : HwAddr) (aid : UInt16) (caps : Capabilities) (now : Instant)
  | grant (addr : HwAddr) (caps : Capabilities)
  /-- Further octets were received from a peer. -/
  | received (addr : HwAddr) (size : Nat)
  /-- A further frame was sent to a peer. -/
  | sent (addr : HwAddr) (size : Nat)
  | disassociate (addr : HwAddr)
  | expire (now : Instant)
  | clear
  deriving DecidableEq, Repr

/-- What an operation answers if it is not refused. -/
inductive Answer where
  /-- The sequence number received last. -/
  | previous (seq : Option UInt16)
  /-- The entry of the peer, if there is one. -/
  | entry (s : Option Station)
  /-- Whether the peer is known. -/
  | known (yes : Bool)
  /-- The peers that were forgotten. -/
  | expired (addrs : List HwAddr)
  | done
  deriving DecidableEq, Repr

namespace Op

/-- The answer of an operation, and the table behind it. A refused operation leaves the table as it
was. -/
def apply : Op → StationTable → Except Error Answer × StationTable
  | observe addr seq priority snr nf now, t =>
    match t.observe addr seq priority snr nf now with
    | .ok (last, t) => (.ok (.previous last), t)
    | .error e => (.error e, t)
  | enter addr now, t =>
    match t.enter addr now with
    | .ok t => (.ok (.entry (t.lookup? addr)), t)
    | .error e => (.error e, t)
  | associate addr aid caps now, t =>
    match t.associate addr aid caps now with
    | .ok t => (.ok .done, t)
    | .error e => (.error e, t)
  | grant addr caps, t => (.ok (.known (t.contains addr)), t.grant addr caps)
  | received addr size, t => (.ok (.known (t.contains addr)), t.modify addr (·.receivedBytes size))
  | sent addr size, t => (.ok (.known (t.contains addr)), t.modify addr (·.sent size))
  | disassociate addr, t => (.ok (.entry (t.lookup? addr)), t.disassociate addr)
  | expire now, t => (.ok (.expired (t.expire now).1), (t.expire now).2)
  | clear, t => (.ok .done, t.clear)

/-- What an operation makes of the entry of the peer that it names. -/
def change : Op → Station → Station
  | observe _ seq priority snr nf now, s => s.observe seq priority snr nf now
  | associate _ aid caps now, s => { s with aid, capabilities := caps, lastActivity := now }
  | grant _ caps, s => s.grant caps
  | received _ size, s => s.receivedBytes size
  | sent _ size, s => s.sent size
  | enter .., s | disassociate _, s | expire _, s | clear, s => s

/-- The peer that an operation names. -/
def peer? : Op → Option HwAddr
  | observe addr .. | enter addr .. | associate addr .. | grant addr .. | received addr ..
  | sent addr .. | disassociate addr => some addr
  | expire _ | clear => none

/-- The peer that an operation adds if it is new. -/
def newcomer? : Op → Option HwAddr
  | observe addr .. | enter addr .. | associate addr .. => some addr
  | _ => none

end Op

/-- The answers of operations one after the other, and the table behind them. -/
def run : List Op → StationTable → List (Except Error Answer) × StationTable
  | [], t => ([], t)
  | op :: ops, t =>
    let (answer, t) := op.apply t
    let (answers, t) := run ops t
    (answer :: answers, t)

end StationTable

/-! ## Bounded maps -/

namespace PeerMap

open StationTable (Op Answer)

/-- What an operation on a map that holds at most `capacity` entries answers, and the map behind
it. -/
inductive Step (capacity timeout : Nat) (m : PeerMap) :
    Op → Except Error Answer → PeerMap → Prop where
  | refused {op : Op} {addr : HwAddr} (adds : op.newcomer? = some addr) (new : m addr = none)
      (full : m.size = capacity) :
      Step capacity timeout m op (.error (.stationTableFull capacity)) m
  | observe {addr : HwAddr} {seq : UInt16} {priority : UInt8} {snr nf : Int8} {now : Instant}
      (room : m.Admits capacity addr) :
      Step capacity timeout m (.observe addr seq priority snr nf now)
        (.ok (.previous ((m addr).bind (·.previous? priority))))
        (Function.update m addr (some ((m.entry addr now).observe seq priority snr nf now)))
  | enter {addr : HwAddr} {now : Instant} (room : m.Admits capacity addr) :
      Step capacity timeout m (.enter addr now) (.ok (.entry (some (m.entry addr now))))
        (Function.update m addr (some (m.entry addr now)))
  | associate {addr : HwAddr} {aid : UInt16} {caps : Capabilities} {now : Instant}
      (room : m.Admits capacity addr) :
      Step capacity timeout m (.associate addr aid caps now) (.ok .done)
        (Function.update m addr
          (some { m.entry addr now with aid, capabilities := caps, lastActivity := now }))
  | grant {addr : HwAddr} {caps : Capabilities} :
      Step capacity timeout m (.grant addr caps) (.ok (.known (m addr).isSome))
        (Function.update m addr ((m addr).map fun s =>
          { s with capabilities := s.capabilities.union caps }))
  | received {addr : HwAddr} {size : Nat} :
      Step capacity timeout m (.received addr size) (.ok (.known (m addr).isSome))
        (Function.update m addr ((m addr).map (·.receivedBytes size)))
  | sent {addr : HwAddr} {size : Nat} :
      Step capacity timeout m (.sent addr size) (.ok (.known (m addr).isSome))
        (Function.update m addr ((m addr).map (·.sent size)))
  | disassociate {addr : HwAddr} :
      Step capacity timeout m (.disassociate addr) (.ok (.entry (m addr)))
        (Function.update m addr none)
  /-- Times that are yet to come are no reason to forget a peer. -/
  | expire {now : Instant} {gone : List HwAddr} (once : gone.Nodup)
      (idle : ∀ addr, addr ∈ gone ↔ ∃ s, m addr = some s ∧ timeout < now - s.lastActivity) :
      Step capacity timeout m (.expire now) (.ok (.expired gone))
        (fun addr => if addr ∈ gone then none else m addr)
  | clear : Step capacity timeout m .clear (.ok .done) (fun _ => none)

/-- Operations on a map one after the other. -/
inductive Steps (capacity timeout : Nat) :
    PeerMap → List Op → List (Except Error Answer) → PeerMap → Prop where
  | nil (m : PeerMap) : Steps capacity timeout m [] [] m
  | cons {m m' m'' : PeerMap} {op : Op} {ops : List Op} {answer : Except Error Answer}
      {answers : List (Except Error Answer)} (first : Step capacity timeout m op answer m')
      (rest : Steps capacity timeout m' ops answers m'') :
      Steps capacity timeout m (op :: ops) (answer :: answers) m''

namespace Step

variable {capacity timeout : Nat} {m m' : PeerMap} {op : Op} {answer : Except Error Answer}

/-- An operation fails just if it would add a new peer to a full map. -/
theorem fails_iff (h : Step capacity timeout m op answer m') :
    (∃ e, answer = .error e) ↔
      ∃ addr, op.newcomer? = some addr ∧ m addr = none ∧ m.size = capacity := by
  have welcome {addr : HwAddr} (room : m.Admits capacity addr) :
      ¬ ∃ a, some addr = some a ∧ m a = none ∧ m.size = capacity := by
    rintro ⟨a, same, new, full⟩
    obtain rfl := Option.some_inj.1 same
    rcases room with known | free
    · exact known new
    · omega
  cases h with
  | @refused op addr adds new full => exact ⟨fun _ => ⟨addr, adds, new, full⟩, fun _ => ⟨_, rfl⟩⟩
  | observe room => simpa [Op.newcomer?] using welcome room
  | enter room => simpa [Op.newcomer?] using welcome room
  | associate room => simpa [Op.newcomer?] using welcome room
  | grant => simp [Op.newcomer?]
  | received => simp [Op.newcomer?]
  | sent => simp [Op.newcomer?]
  | disassociate => simp [Op.newcomer?]
  | expire => simp [Op.newcomer?]
  | clear => simp [Op.newcomer?]

/-- An operation that names a peer changes no other entry. -/
theorem frame (h : Step capacity timeout m op answer m') {addr other : HwAddr}
    (names : op.peer? = some addr) (apart : other ≠ addr) : m' other = m other := by
  cases h with
  | refused => rfl
  | expire | clear => cases names
  | observe | enter | associate | grant | received | sent | disassociate =>
    obtain rfl := Option.some_inj.1 names
    exact Function.update_of_ne apart _ _

/-- An entry that is found after one was put is the one that was put, or was there before. -/
theorem update_cases {addr other : HwAddr} {put : Option Station} {s s' : Station}
    (before : m addr = some s) (after : Function.update m other put addr = some s') :
    s' = s ∨ other = addr ∧ put = some s' := by
  by_cases same : addr = other
  · subst same
    rw [Function.update_self] at after
    exact .inr ⟨rfl, after⟩
  · rw [Function.update_of_ne same, before] at after
    exact .inl (Option.some_inj.1 after).symm

/-- What becomes of the entry of a peer that stays. -/
theorem entry_after (h : Step capacity timeout m op answer m') {addr : HwAddr} {s s' : Station}
    (before : m addr = some s) (after : m' addr = some s') :
    s' = s ∨ op.peer? = some addr ∧ s' = op.change s := by
  cases h with
  | refused => exact .inl (Option.some_inj.1 (after.symm.trans before))
  | observe | enter | associate =>
    refine (update_cases before after).imp_right ?_
    rintro ⟨rfl, put⟩
    simp only [PeerMap.entry, before, Option.getD_some] at put
    exact ⟨rfl, (Option.some_inj.1 put).symm⟩
  | grant | received | sent =>
    refine (update_cases before after).imp_right ?_
    rintro ⟨rfl, put⟩
    rw [before, Option.map_some] at put
    exact ⟨rfl, (Option.some_inj.1 put).symm⟩
  | disassociate =>
    refine (update_cases before after).imp_right ?_
    rintro ⟨-, put⟩
    cases put
  | @expire now gone =>
    by_cases mem : addr ∈ gone
    · simp [mem] at after
    · simp only [mem, if_false, before, Option.some_inj] at after
      exact .inl after.symm
  | clear => cases after

/-- A peer that stays keeps the capabilities it has, unless it associates. -/
theorem capabilities_grow (h : Step capacity timeout m op answer m') {addr : HwAddr}
    {s s' : Station} (before : m addr = some s) (after : m' addr = some s')
    (apart : ∀ aid caps now, op ≠ .associate addr aid caps now) :
    s'.capabilities.has s.capabilities = true := by
  rcases h.entry_after before after with rfl | ⟨named, rfl⟩
  · exact Capabilities.has_self _
  · cases op with
    | associate a aid caps now =>
      obtain rfl := Option.some_inj.1 named
      exact absurd rfl (apart aid caps now)
    | grant a caps => exact Capabilities.has_union ..
    | observe | enter | received | sent | disassociate | expire | clear =>
      exact Capabilities.has_self _

/-- A peer that associates has just the capabilities it names. -/
theorem capabilities_replaced {addr : HwAddr} {aid : UInt16} {caps : Capabilities} {now : Instant}
    {a : Answer} (h : Step capacity timeout m (.associate addr aid caps now) (.ok a) m') :
    ∃ s, m' addr = some s ∧ s.capabilities = caps := by
  cases h with
  | associate => exact ⟨_, Function.update_self .., rfl⟩

end Step

end PeerMap

/-! ## Tables follow the rules -/

namespace StationTable

open PeerMap (Step Steps)

/-- A new peer is in no traffic class. -/
theorem previous?_entry (m : PeerMap) (addr : HwAddr) (priority : UInt8) (now : Instant) :
    (m.entry addr now).previous? priority = (m addr).bind (·.previous? priority) := by
  unfold PeerMap.entry
  cases m addr with
  | none => simp [Station.previous?, Station.new, Station.known?]
  | some s => rfl

/-- What an operation on a table does: it follows the rules, and keeps the table sound. -/
structure Op.Follows (op : Op) (t : StationTable) : Prop where
  sound : (op.apply t).2.Sound
  capacity : (op.apply t).2.capacity = t.capacity
  timeout : (op.apply t).2.timeout = t.timeout
  step : Step t.capacity t.timeout t.lookup? op (op.apply t).1 (op.apply t).2.lookup?
  /-- An operation that fails is refused for want of room, and the table stays what it is. -/
  refused : ∀ e, (op.apply t).1 = .error e →
    e = .stationTableFull t.capacity ∧ (op.apply t).2 = t

namespace Op

variable {t : StationTable}

theorem Follows.of_refused {op : Op} {addr : HwAddr} (h : t.Sound) (adds : op.newcomer? = some addr)
    (new : t.lookup? addr = none) (full : PeerMap.size t.lookup? = t.capacity)
    (done : op.apply t = (.error (.stationTableFull t.capacity), t)) : op.Follows t where
  sound := by rwa [done]
  capacity := by rw [done]
  timeout := by rw [done]
  step := by
    rw [done]
    exact .refused adds new full
  refused e failed := by
    rw [done] at failed ⊢
    exact ⟨(Except.error.inj failed).symm, rfl⟩

theorem Follows.of_ok {op : Op} {answer : Answer} {t' : StationTable}
    (done : op.apply t = (.ok answer, t')) (sound : t'.Sound) (capacity : t'.capacity = t.capacity)
    (timeout : t'.timeout = t.timeout)
    (step : Step t.capacity t.timeout t.lookup? op (.ok answer) t'.lookup?) : op.Follows t where
  sound := by rwa [done]
  capacity := by rwa [done]
  timeout := by rwa [done]
  step := by rwa [done]
  refused e failed := by
    rw [done] at failed
    cases failed

/-- An operation that changes an entry, but not its address. -/
theorem Follows.of_modify {op : Op} {addr : HwAddr} (f : Station → Station)
    (same : ∀ s, (f s).addr = s.addr) (h : t.Sound)
    (done : op.apply t = (.ok (.known (t.contains addr)), t.modify addr f))
    (step : Step t.capacity t.timeout t.lookup? op (.ok (.known (t.lookup? addr).isSome))
      (Function.update t.lookup? addr ((t.lookup? addr).map f))) : op.Follows t := by
  refine .of_ok done (sound_modify h addr same) rfl rfl ?_
  rwa [← isSome_lookup?, lookup?_modify t addr same]

/-- Every operation on a table follows the rules. -/
theorem follows (h : t.Sound) (op : Op) : op.Follows t := by
  cases op with
  | observe addr seq priority snr nf now =>
    rcases enter_cases h addr now with
      ⟨new, full, refused⟩ | ⟨room, t', entered, sound, capacity, timeout, found⟩
    · refine .of_refused h rfl new full ?_
      simp only [apply, StationTable.observe, refused]
      rfl
    · have last : (t'.lookup? addr).bind (·.previous? priority) =
          (t.lookup? addr).bind (·.previous? priority) := by
        rw [found, Function.update_self, Option.bind_some, previous?_entry]
      have done : apply (observe addr seq priority snr nf now) t =
          (.ok (.previous ((t.lookup? addr).bind (·.previous? priority))),
            t'.modify addr (·.observe seq priority snr nf now)) := by
        simp only [apply, StationTable.observe, entered, bind, Except.bind, last]
        rfl
      refine .of_ok done (sound_modify sound addr fun _ => rfl) capacity timeout ?_
      rw [lookup?_modify_update found (·.observe seq priority snr nf now) fun _ => rfl]
      exact .observe room
  | enter addr now =>
    rcases enter_cases h addr now with
      ⟨new, full, refused⟩ | ⟨room, t', entered, sound, capacity, timeout, found⟩
    · refine .of_refused h rfl new full ?_
      simp only [apply, refused]
    · have done : apply (enter addr now) t =
          (.ok (.entry (some (PeerMap.entry t.lookup? addr now))), t') := by
        simp only [apply, entered, found, Function.update_self]
      refine .of_ok done sound capacity timeout ?_
      rw [found]
      exact .enter room
  | associate addr aid caps now =>
    rcases enter_cases h addr now with
      ⟨new, full, refused⟩ | ⟨room, t', entered, sound, capacity, timeout, found⟩
    · refine .of_refused h rfl new full ?_
      simp only [apply, StationTable.associate, refused]
      rfl
    · have done : apply (associate addr aid caps now) t =
          (.ok .done, t'.modify addr fun s =>
            { s with aid, capabilities := caps, lastActivity := now }) := by
        simp only [apply, StationTable.associate, entered, bind, Except.bind]
        rfl
      refine .of_ok done (sound_modify sound addr fun _ => rfl) capacity timeout ?_
      have noted := lookup?_modify_update found
        (fun s => { s with aid, capabilities := caps, lastActivity := now }) fun _ => rfl
      rw [noted]
      exact .associate room
  | grant addr caps => exact .of_modify (·.grant caps) (fun _ => rfl) h rfl .grant
  | received addr size => exact .of_modify (·.receivedBytes size) (fun _ => rfl) h rfl .received
  | sent addr size => exact .of_modify (·.sent size) (fun _ => rfl) h rfl .sent
  | disassociate addr =>
    refine .of_ok rfl (sound_filter h _) rfl rfl ?_
    rw [lookup?_disassociate]
    exact .disassociate
  | expire now =>
    obtain ⟨once, idle, found⟩ := lookup?_expire h now
    refine .of_ok rfl (sound_filter h _) rfl rfl ?_
    rw [found]
    exact .expire once idle
  | clear => exact .of_ok rfl (sound_empty t.capacity t.timeout) rfl rfl .clear

end Op

/-! ## Histories -/

/-- Whatever is done to a table follows the rules. -/
theorem run_steps (ops : List Op) {t : StationTable} (h : t.Sound) :
    Steps t.capacity t.timeout t.lookup? ops (run ops t).1 (run ops t).2.lookup? ∧
      (run ops t).2.Sound ∧ (run ops t).2.capacity = t.capacity ∧
      (run ops t).2.timeout = t.timeout := by
  induction ops generalizing t with
  | nil => exact ⟨.nil _, h, rfl, rfl⟩
  | cons op ops ih =>
    have first := op.follows h
    obtain ⟨rest, sound, capacity, timeout⟩ := ih first.sound
    rw [first.capacity, first.timeout] at rest
    exact ⟨.cons first.step rest, sound, capacity.trans first.capacity,
      timeout.trans first.timeout⟩

/-- What a table holds are the entries of a map, each once and under its own address. -/
structure Represents (t : StationTable) (m : PeerMap) : Prop where
  mem_iff (s : Station) : s ∈ t.stations ↔ m s.addr = some s
  keyed (addr : HwAddr) (s : Station) : m addr = some s → s.addr = addr
  once : t.stations.Nodup
  size : m.size = t.size

theorem Sound.represents {t : StationTable} (h : t.Sound) : t.Represents t.lookup? where
  mem_iff s := by rw [h.lookup?_eq_some_iff, and_iff_left rfl]
  keyed _ _ := addr_of_lookup?
  once := .of_map _ h.distinct
  size := h.size_lookup?

/-- What an operation may do to a table. -/
structure Op.Lawful (op : Op) (t : StationTable) : Prop where
  step : Step t.capacity t.timeout t.lookup? op (op.apply t).1 (op.apply t).2.lookup?
  /-- It fails just if it would add a new peer to a full table. -/
  fails_iff : (∃ e, (op.apply t).1 = .error e) ↔
    ∃ addr, op.newcomer? = some addr ∧ t.contains addr = false ∧ t.size = t.capacity
  /-- If it fails, it says that the table is full, and changes nothing. -/
  refused (e : Error) : (op.apply t).1 = .error e →
    e = .stationTableFull t.capacity ∧ (op.apply t).2 = t
  /-- It serves the peers that are known. -/
  known (addr : HwAddr) : op.peer? = some addr → t.contains addr = true →
    ∃ answer, (op.apply t).1 = .ok answer
  /-- It leaves the peers that it does not name alone. -/
  others (addr other : HwAddr) : op.peer? = some addr → other ≠ addr →
    (op.apply t).2.lookup? other = t.lookup? other
  /-- It takes no capability from a peer that stays, unless the peer associates. -/
  grow (addr : HwAddr) (s s' : Station) : t.lookup? addr = some s →
    (op.apply t).2.lookup? addr = some s' →
    (∀ aid caps now, op ≠ .associate addr aid caps now) →
    s'.capabilities.has s.capabilities = true
  /-- A peer that associates has just the capabilities it names. -/
  replaced (addr : HwAddr) (aid : UInt16) (caps : Capabilities) (now : Instant) (answer : Answer) :
    op = .associate addr aid caps now → (op.apply t).1 = .ok answer →
    ∃ s, (op.apply t).2.lookup? addr = some s ∧ s.capabilities = caps

/-- The peer that an operation may add is the one it names. -/
theorem Op.peer?_of_newcomer? {op : Op} {addr : HwAddr} (h : op.newcomer? = some addr) :
    op.peer? = some addr := by
  cases op with
  | observe | enter | associate => exact h
  | grant | received | sent | disassociate | expire | clear => cases h

theorem Op.lawful {t : StationTable} (h : t.Sound) (op : Op) : op.Lawful t := by
  have follows := op.follows h
  have fails := follows.step.fails_iff
  rw [h.size_lookup?] at fails
  refine ⟨follows.step, ?_, follows.refused, ?_, ?_, ?_, ?_⟩
  · simpa only [lookup?_eq_none_iff] using fails
  · intro addr names known
    cases answer : (op.apply t).1 with
    | ok a => exact ⟨a, rfl⟩
    | error e =>
      obtain ⟨addr', adds, new, -⟩ := fails.1 ⟨e, answer⟩
      have same := (peer?_of_newcomer? adds).symm.trans names
      rw [Option.some_inj.1 same, lookup?_eq_none_iff, known] at new
      cases new
  · intro addr other names apart
    exact follows.step.frame names apart
  · intro addr s s' before after apart
    exact follows.step.capabilities_grow before after apart
  · rintro addr aid caps now answer rfl accepted
    have step := follows.step
    rw [accepted] at step
    exact step.capabilities_replaced

/-- **A table is a bounded map.** Whatever is done to an empty table, its answers and what it then
holds are those of a map from addresses to entries that never holds more of them than there is room
for; and so is what any further operation does. -/
theorem run_bounded (capacity timeout : Nat) (ops : List Op) :
    let (answers, t) := run ops (empty capacity timeout)
    Steps capacity timeout (fun _ => none) ops answers t.lookup? ∧ t.Represents t.lookup? ∧
      t.capacity = capacity ∧ t.timeout = timeout ∧ t.size ≤ capacity ∧ ∀ op : Op, op.Lawful t := by
  obtain ⟨steps, sound, room, patience⟩ := run_steps ops (sound_empty capacity timeout)
  have bounded := sound.bounded
  rw [room] at bounded
  exact ⟨steps, sound.represents, room, patience, bounded, Op.lawful sound⟩

end StationTable

end Airlink
