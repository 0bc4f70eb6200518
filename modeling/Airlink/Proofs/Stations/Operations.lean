import Airlink.StationTable
import Mathlib.Data.Set.Card
import Mathlib.Logic.Function.Basic

/-!
# Operations on station tables

A station table gives each address the entry that is found there (`StationTable.lookup?`), and so it
is a map from addresses to entries. The operations are pinned down by what they do to this map:
`lookup?_modify`, `enter_cases`, `lookup?_disassociate`, `lookup?_expire`.

No two entries of a table have one address, and there are at most as many entries as the table has
room for (`StationTable.Sound`). So the number of entries is that of the addresses that have one
(`Sound.size_lookup?`).
-/

namespace Airlink

/-- Which entry an address has. -/
abbrev PeerMap := HwAddr → Option Station

namespace PeerMap

/-- The number of addresses that have an entry. -/
noncomputable def size (m : PeerMap) : Nat := {addr | (m addr).isSome}.ncard

/-- The entry of an address, a new one if it has none. -/
def entry (m : PeerMap) (addr : HwAddr) (now : Instant) : Station := (m addr).getD (.new addr now)

/-- A peer can enter a map that holds at most `capacity` entries. -/
def Admits (m : PeerMap) (capacity : Nat) (addr : HwAddr) : Prop :=
  m addr ≠ none ∨ m.size < capacity

end PeerMap

namespace StationTable

/-! ## Tables as maps -/

/-- A table as it is between two operations. -/
structure Sound (t : StationTable) : Prop where
  /-- No two entries have one address. -/
  distinct : (t.stations.map (·.addr)).Nodup
  bounded : t.size ≤ t.capacity

theorem sound_empty (capacity timeout : Nat) : (empty capacity timeout).Sound :=
  ⟨List.nodup_nil, Nat.zero_le _⟩

/-- Among entries with different addresses, the one that is found at an address is the one that has
it. -/
theorem find?_addr_eq_some_iff {stations : List Station} (distinct : (stations.map (·.addr)).Nodup)
    {addr : HwAddr} {s : Station} :
    stations.find? (·.addr == addr) = some s ↔ s ∈ stations ∧ s.addr = addr := by
  induction stations with
  | nil => simp
  | cons first rest ih =>
    obtain ⟨new, distinct⟩ := List.nodup_cons.1 distinct
    rw [List.find?_cons]
    by_cases h : first.addr = addr
    · have other : s ∈ rest → s.addr ≠ addr := by
        intro mem same
        have used : s.addr ∈ rest.map (·.addr) := List.mem_map_of_mem mem
        exact new (by rwa [same, ← h] at used)
      simp only [h, beq_self_eq_true, Option.some.injEq, List.mem_cons]
      constructor
      · rintro rfl
        exact ⟨.inl rfl, h⟩
      · rintro ⟨rfl | mem, same⟩
        · rfl
        · exact absurd same (other mem)
    · have skipped : (first.addr == addr) = false := beq_false_of_ne h
      rw [skipped]
      refine (ih distinct).trans ⟨fun found => ⟨List.mem_cons_of_mem _ found.1, found.2⟩, ?_⟩
      rintro ⟨mem, rfl⟩
      rcases List.mem_cons.1 mem with rfl | mem
      · exact absurd rfl h
      · exact ⟨mem, rfl⟩

theorem lookup?_eq_none_iff {t : StationTable} {addr : HwAddr} :
    t.lookup? addr = none ↔ t.contains addr = false := by
  rw [← isSome_lookup?, Option.isSome_eq_false_iff, Option.isNone_iff_eq_none]

namespace Sound

variable {t : StationTable}

/-- The entry that is found at an address is the one that has it. -/
theorem lookup?_eq_some_iff (h : t.Sound) {addr : HwAddr} {s : Station} :
    t.lookup? addr = some s ↔ s ∈ t.stations ∧ s.addr = addr := find?_addr_eq_some_iff h.distinct

/-- The number of entries is that of the addresses that have one. -/
theorem size_lookup? (h : t.Sound) : PeerMap.size t.lookup? = t.size := by
  have known : {addr | (t.lookup? addr).isSome} =
      ((t.stations.map (·.addr)).toFinset : Set HwAddr) := by
    ext addr
    simp [isSome_lookup?, contains]
  rw [PeerMap.size, known, Set.ncard_coe_finset, List.toFinset_card_of_nodup h.distinct,
    List.length_map]
  rfl

end Sound

/-! ## Changing an entry -/

/-- Changing entries, but not their addresses, changes what is found at one address. -/
theorem lookup?_modify (t : StationTable) (addr : HwAddr) {f : Station → Station}
    (same : ∀ s, (f s).addr = s.addr) :
    (t.modify addr f).lookup? = Function.update t.lookup? addr ((t.lookup? addr).map f) := by
  funext other
  have test : ((·.addr == other) ∘ fun s => if s.addr == addr then f s else s) =
      (·.addr == other) := by
    funext s
    rw [Function.comp_apply]
    split
    · rw [same]
    · rfl
  have found : (t.modify addr f).lookup? other =
      (t.lookup? other).map fun s => if s.addr == addr then f s else s := by
    rw [lookup?, modify, List.find?_map, test]
    rfl
  rw [found]
  by_cases h : other = addr
  · subst h
    rw [Function.update_self]
    cases e : t.lookup? other with
    | none => rfl
    | some s => simp [addr_of_lookup? e]
  · rw [Function.update_of_ne h]
    cases e : t.lookup? other with
    | none => rfl
    | some s => simp [addr_of_lookup? e, h]

/-- There is nothing to change about a peer without an entry. -/
theorem modify_of_lookup?_eq_none {t : StationTable} {addr : HwAddr}
    (unknown : t.lookup? addr = none) (f : Station → Station) : t.modify addr f = t := by
  have none : ∀ s ∈ t.stations, (if s.addr == addr then f s else s) = s := by
    intro s mem
    have apart := List.find?_eq_none.1 unknown s mem
    exact if_neg apart
  rw [modify, List.map_congr_left none, List.map_id']

/-- Changing the entry that was put last. -/
theorem lookup?_modify_update {t : StationTable} {m : PeerMap} {addr : HwAddr} {s : Station}
    (put : t.lookup? = Function.update m addr (some s)) (f : Station → Station)
    (same : ∀ s, (f s).addr = s.addr) :
    (t.modify addr f).lookup? = Function.update m addr (some (f s)) := by
  rw [lookup?_modify t addr same, put, Function.update_self, Function.update_idem, Option.map_some]

theorem sound_modify {t : StationTable} (h : t.Sound) (addr : HwAddr) {f : Station → Station}
    (same : ∀ s, (f s).addr = s.addr) : (t.modify addr f).Sound := by
  have addrs : (t.modify addr f).stations.map (·.addr) = t.stations.map (·.addr) := by
    simp only [modify, List.map_map]
    refine List.map_congr_left fun s _ => ?_
    rw [Function.comp_apply]
    split
    · exact same s
    · rfl
  refine ⟨addrs ▸ h.distinct, ?_⟩
  have bounded := h.bounded
  simpa [size, modify] using bounded

/-! ## Adding and removing entries -/

/-- A peer that enters a table keeps the entry that it has there, or gets a new one. -/
theorem lookup?_enter {t t' : StationTable} {addr : HwAddr} {now : Instant}
    (entered : t.enter addr now = .ok t') :
    t'.capacity = t.capacity ∧ t'.timeout = t.timeout ∧
      t'.lookup? = Function.update t.lookup? addr (some (PeerMap.entry t.lookup? addr now)) := by
  unfold enter at entered
  split at entered
  · next known =>
    cases entered
    rw [← isSome_lookup?] at known
    obtain ⟨s, found⟩ := Option.isSome_iff_exists.1 known
    have itself : some (PeerMap.entry t.lookup? addr now) = t.lookup? addr := by
      rw [PeerMap.entry, found, Option.getD_some]
    exact ⟨rfl, rfl, by rw [itself, Function.update_eq_self]⟩
  · next unknown =>
    split at entered
    · cases entered
    · cases entered
      refine ⟨rfl, rfl, funext fun other => ?_⟩
      by_cases same : other = addr
      · subst same
        have missing : t.stations.find? (·.addr == other) = none :=
          lookup?_eq_none_iff.2 (by simpa using unknown)
        simp [lookup?, PeerMap.entry, List.find?_append, missing, Station.new]
      · have apart : (addr == other) = false := beq_false_of_ne (Ne.symm same)
        simp [lookup?, List.find?_append, same, Station.new, apart]

/-- Entering leaves a table sound. -/
theorem sound_enter {t t' : StationTable} (h : t.Sound) {addr : HwAddr} {now : Instant}
    (entered : t.enter addr now = .ok t') : t'.Sound := by
  unfold enter at entered
  split at entered
  · cases entered
    exact h
  · next unknown =>
    split at entered
    · cases entered
    · next room =>
      cases entered
      have unused : addr ∉ t.stations.map (·.addr) := by simpa [contains] using unknown
      refine ⟨?_, ?_⟩
      · rw [List.map_append, List.map_singleton]
        exact List.nodup_append.2 ⟨h.distinct, List.nodup_singleton _, by
          rintro a used b mem rfl
          obtain rfl := List.mem_singleton.1 mem
          exact unused used⟩
      · simp only [size, List.length_append, List.length_singleton] at room ⊢
        omega

/-- Only a new peer is refused, and only by a full table. -/
theorem enter_eq_error {t : StationTable} {addr : HwAddr} {now : Instant} {e : Error}
    (refused : t.enter addr now = .error e) :
    t.lookup? addr = none ∧ t.capacity ≤ t.size ∧ e = .stationTableFull t.capacity := by
  unfold enter at refused
  split at refused
  · cases refused
  · next unknown =>
    split at refused
    · next full =>
      cases refused
      exact ⟨lookup?_eq_none_iff.2 (by simpa using unknown), full, rfl⟩
    · cases refused

/-- A peer that is let in is known already, or there is room. -/
theorem known_or_room_of_enter {t t' : StationTable} {addr : HwAddr} {now : Instant}
    (entered : t.enter addr now = .ok t') : t.lookup? addr ≠ none ∨ t.size < t.capacity := by
  unfold enter at entered
  split at entered
  · next known => exact .inl fun new => by rw [lookup?_eq_none_iff.1 new] at known; cases known
  · split at entered
    · cases entered
    · next room => exact .inr (Nat.not_le.1 room)

/-- A peer enters a table if it is known or if there is room, and is refused if not. -/
theorem enter_cases {t : StationTable} (h : t.Sound) (addr : HwAddr) (now : Instant) :
    (t.lookup? addr = none ∧ PeerMap.size t.lookup? = t.capacity ∧
        t.enter addr now = .error (.stationTableFull t.capacity)) ∨
      (PeerMap.Admits t.lookup? t.capacity addr ∧ ∃ t', t.enter addr now = .ok t' ∧ t'.Sound ∧
        t'.capacity = t.capacity ∧ t'.timeout = t.timeout ∧
        t'.lookup? = Function.update t.lookup? addr (some (PeerMap.entry t.lookup? addr now))) := by
  have bounded := h.bounded
  rw [PeerMap.Admits, h.size_lookup?]
  cases entering : t.enter addr now with
  | error e =>
    obtain ⟨new, full, rfl⟩ := enter_eq_error entering
    exact .inl ⟨new, by omega, rfl⟩
  | ok t' =>
    exact .inr ⟨known_or_room_of_enter entering, t', rfl, sound_enter h entering,
      lookup?_enter entering⟩

theorem lookup?_disassociate (t : StationTable) (addr : HwAddr) :
    (t.disassociate addr).lookup? = Function.update t.lookup? addr none := by
  funext other
  unfold lookup? disassociate
  rw [List.find?_filter]
  by_cases h : other = addr
  · subst h
    simp
  · rw [Function.update_of_ne h]
    congr 1
    funext s
    by_cases here : s.addr = other <;> simp [here, h]

/-- Leaving out entries leaves a table sound. -/
theorem sound_filter {t : StationTable} (h : t.Sound) (p : Station → Bool) :
    ({ t with stations := t.stations.filter p } : StationTable).Sound := by
  refine ⟨h.distinct.sublist (List.filter_sublist.map _), ?_⟩
  exact (List.length_filter_le p t.stations).trans h.bounded

/-- The peers that are named as idle are those whose last activity is longer ago than the timeout,
and just they are forgotten. -/
theorem lookup?_expire {t : StationTable} (h : t.Sound) (now : Instant) :
    (t.expire now).1.Nodup ∧
      (∀ addr, addr ∈ (t.expire now).1 ↔
        ∃ s, t.lookup? addr = some s ∧ t.timeout < now - s.lastActivity) ∧
      (t.expire now).2.lookup? =
        fun addr => if addr ∈ (t.expire now).1 then none else t.lookup? addr := by
  have idle (s : Station) :
      s.isExpired t.timeout now = true ↔ t.timeout < now - s.lastActivity := by
    rw [Station.isExpired, decide_eq_true_iff, Station.idleTime, Int.lt_toNat]
  have named (addr : HwAddr) : addr ∈ (t.expire now).1 ↔
      ∃ s, t.lookup? addr = some s ∧ t.timeout < now - s.lastActivity := by
    simp only [expire, List.mem_map, List.mem_filter, idle, h.lookup?_eq_some_iff]
    constructor
    · rintro ⟨s, ⟨mem, long⟩, here⟩
      exact ⟨s, ⟨mem, here⟩, long⟩
    · rintro ⟨s, ⟨mem, here⟩, long⟩
      exact ⟨s, ⟨mem, long⟩, here⟩
  refine ⟨h.distinct.sublist (List.filter_sublist.map _), named, ?_⟩
  have left : (t.expire now).2.Sound := sound_filter h _
  funext addr
  by_cases gone : addr ∈ (t.expire now).1
  · obtain ⟨s, found, long⟩ := (named addr).1 gone
    rw [if_pos gone, Option.eq_none_iff_forall_ne_some]
    intro s' found'
    obtain ⟨mem', here'⟩ := left.lookup?_eq_some_iff.1 found'
    obtain ⟨mem', short⟩ := List.mem_filter.1 mem'
    have same : s' = s := by
      rw [← Option.some_inj, ← found]
      exact (h.lookup?_eq_some_iff.2 ⟨mem', here'⟩).symm
    have long' := (idle s).2 long
    rw [same, long'] at short
    cases short
  · rw [if_neg gone]
    refine Option.ext fun s => ?_
    rw [left.lookup?_eq_some_iff, h.lookup?_eq_some_iff]
    refine ⟨fun found => ⟨(List.mem_filter.1 found.1).1, found.2⟩, ?_⟩
    rintro ⟨mem, here⟩
    refine ⟨List.mem_filter.2 ⟨mem, ?_⟩, here⟩
    have short : ¬ s.isExpired t.timeout now = true := by
      intro long
      exact gone ((named addr).2 ⟨s, h.lookup?_eq_some_iff.2 ⟨mem, here⟩, (idle s).1 long⟩)
    simpa using short

end StationTable

end Airlink
