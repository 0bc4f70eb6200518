import Airlink.Proofs.Stations.BoundedMap

/-!
# Sequence numbers of a table

An entry keeps the sequence number last received in each of eight traffic classes, and a priority
belongs to the class that it leaves modulo eight. Nothing but a further frame from the peer in a
class changes what is kept of that class (`PeerMap.Step.sequence_stays`), so it is there for as long
as the peer is (`StationTable.sequence_exposed`).

Priorities of one class share what is kept: see `StationTable.sequence_shared`.
-/

namespace Airlink

open Station (classOf)

namespace Station

variable {priority : UInt8}

/-- What is kept of a traffic class. -/
def kept (s : Station) (c : Fin 8) : UInt16 := s.sequences[c]

theorem previous?_eq (s : Station) (priority : UInt8) :
    s.previous? priority = known? (s.kept (classOf priority)) := rfl

/-- A frame changes what is kept of its own class, and of no other. -/
theorem kept_observe (s : Station) (seq : UInt16) (priority : UInt8) (snr nf : Int8)
    (now : Instant) (c : Fin 8) :
    (s.observe seq priority snr nf now).kept c =
      if classOf priority = c then seq else s.kept c := by
  by_cases same : classOf priority = c
  · subst same
    rw [if_pos rfl]
    exact Vector.getElem_set_self _
  · have apart : (classOf priority : Nat) ≠ c := fun equal => same (Fin.ext equal)
    rw [if_neg same]
    exact Vector.getElem_set_ne (classOf priority).isLt c.isLt apart

/-- A sequence number of twelve bits is known once it is kept. -/
theorem known?_of_lt {seq : UInt16} (h : seq < 4096) : known? seq = some seq := by
  have other : seq ≠ noSequence := by
    rintro rfl
    exact absurd h (by decide)
  rw [known?, if_neg other]

/-- For the eight classes themselves, what is read is what the next frame will replace. -/
theorem lastSequence?_eq_previous? (s : Station) (h : priority < 8) :
    s.lastSequence? priority = s.previous? priority := by
  have small : priority.toNat < 8 := h
  have itself : (classOf priority : Nat) = priority.toNat := Nat.mod_eq_of_lt small
  simp [lastSequence?, previous?, itself, small]

end Station

/-- The peer and the traffic class that an operation notes a sequence number of. -/
def StationTable.Op.slot? : Op → Option (HwAddr × Fin 8)
  | observe addr _ priority .. => some (addr, classOf priority)
  | _ => none

namespace PeerMap

open StationTable (Op Answer)

/-- What is kept of a class stays until a further frame from the peer arrives in it. -/
theorem Step.sequence_stays {capacity timeout : Nat} {m m' : PeerMap} {op : Op}
    {answer : Except Error Answer} (h : Step capacity timeout m op answer m') {addr : HwAddr}
    {c : Fin 8} (apart : op.slot? ≠ some (addr, c)) {s s' : Station} (before : m addr = some s)
    (after : m' addr = some s') : s'.kept c = s.kept c := by
  rcases h.entry_after before after with rfl | ⟨named, rfl⟩
  · rfl
  · cases op with
    | observe a seq priority snr nf now =>
      obtain rfl := Option.some_inj.1 named
      have other : classOf priority ≠ c := by
        rintro rfl
        exact apart rfl
      rw [Op.change, Station.kept_observe, if_neg other]
    | enter | associate | grant | received | sent | disassociate | expire | clear => rfl

end PeerMap

namespace StationTable

/-- What is kept of a class stays for as long as the peer does, if no further frame from it arrives
in the class. -/
theorem run_sequence_stays {addr : HwAddr} {c : Fin 8} (ops : List Op) {t : StationTable}
    (h : t.Sound) (latest : ∀ op ∈ ops, op.slot? ≠ some (addr, c))
    (stays : ∀ done, done <+: ops → (run done t).2.contains addr = true) {s : Station}
    (found : t.lookup? addr = some s) :
    ∃ s', (run ops t).2.lookup? addr = some s' ∧ s'.kept c = s.kept c := by
  induction ops generalizing t s with
  | nil => exact ⟨s, found, rfl⟩
  | cons op ops ih =>
    obtain ⟨here, rest⟩ := List.forall_mem_cons.1 latest
    have follows := op.follows h
    obtain ⟨s₁, found₁⟩ : ∃ s₁, (op.apply t).2.lookup? addr = some s₁ := by
      have known := stays [op] (List.cons_prefix_cons.2 ⟨rfl, List.nil_prefix⟩)
      rw [← isSome_lookup?] at known
      exact Option.isSome_iff_exists.1 known
    have stays' : ∀ done, done <+: ops → (run done (op.apply t).2).2.contains addr = true :=
      fun done h => stays (op :: done) (List.cons_prefix_cons.2 ⟨rfl, h⟩)
    obtain ⟨s', found', kept⟩ := ih follows.sound rest stays' found₁
    exact ⟨s', found', kept.trans (follows.step.sequence_stays here found found₁)⟩

/-- A frame that is noted leaves its sequence number in its class. -/
theorem observe_stores {t t' : StationTable} (h : t.Sound) {addr : HwAddr} {seq : UInt16}
    {priority : UInt8} {snr nf : Int8} {now : Instant} {last : Option UInt16}
    (stored : t.observe addr seq priority snr nf now = .ok (last, t')) :
    t'.Sound ∧ ∃ s, t'.lookup? addr = some s ∧ s.kept (classOf priority) = seq := by
  have done : Op.apply (.observe addr seq priority snr nf now) t = (.ok (.previous last), t') := by
    simp only [Op.apply, stored]
  obtain ⟨sound, -, -, step, -⟩ := Op.follows h (.observe addr seq priority snr nf now)
  rw [done] at sound step
  refine ⟨sound, ?_⟩
  generalize t'.lookup? = m' at step
  cases step with
  | observe => exact ⟨_, Function.update_self .., by rw [Station.kept_observe, if_pos rfl]⟩

/-- A frame from a peer that is known is answered from the entry of the peer. -/
theorem observe_known {t : StationTable} {addr : HwAddr} {s : Station}
    (found : t.lookup? addr = some s) (seq : UInt16) (priority : UInt8) (snr nf : Int8)
    (now : Instant) :
    ∃ t', t.observe addr seq priority snr nf now = .ok (s.previous? priority, t') := by
  have known : t.contains addr = true := by
    rw [← isSome_lookup?, found, Option.isSome_some]
  refine ⟨t.modify addr (·.observe seq priority snr nf now), ?_⟩
  simp only [observe, enter, if_pos known, found, Option.bind_some, bind, Except.bind]
  rfl

/-- **Sequence numbers are exposed by class.** Let `seq` be the sequence number of the frame that
was received last from a peer in the class of `priority`. As long as the peer is not forgotten, the
entry of the peer gives `seq` for the class whatever else happens, and so does the next frame from
the peer in the class. -/
theorem sequence_exposed {capacity timeout : Nat} {before after : List Op} {addr : HwAddr}
    {seq : UInt16} {priority : UInt8} {snr nf : Int8} {now : Instant} {last : Option UInt16}
    {t : StationTable}
    (stored : (run before (empty capacity timeout)).2.observe addr seq priority snr nf now =
      .ok (last, t))
    (latest : ∀ op ∈ after, op.slot? ≠ some (addr, classOf priority))
    (stays : ∀ done, done <+: after → (run done t).2.contains addr = true) (small : seq < 4096) :
    ∃ s, (run after t).2.lookup? addr = some s ∧ ∀ q, classOf q = classOf priority →
      (q < 8 → s.lastSequence? q = some seq) ∧
      ∀ seq' snr' nf' now', ∃ t', (run after t).2.observe addr seq' q snr' nf' now' =
        .ok (some seq, t') := by
  obtain ⟨-, sound, -⟩ := run_steps before (sound_empty capacity timeout)
  obtain ⟨sound', s, found, kept⟩ := observe_stores sound stored
  obtain ⟨s', found', stayed⟩ := run_sequence_stays after sound' latest stays found
  refine ⟨s', found', fun q same => ?_⟩
  have exposed : s'.previous? q = some seq := by
    rw [s'.previous?_eq, same, stayed, kept, Station.known?_of_lt small]
  refine ⟨fun direct => ?_, fun seq' snr' nf' now' => ?_⟩
  · rw [s'.lastSequence?_eq_previous? direct, exposed]
  · rw [← exposed]
    exact observe_known found' seq' q snr' nf' now'

/-- A frame of another class and the expiry of another peer come between. -/
theorem sequence_exposed_between :
    let addr : HwAddr := ⟨2, 0, 0, 0, 0, 1⟩
    let other : HwAddr := ⟨2, 0, 0, 0, 0, 2⟩
    let t := (run [.enter other 0, .observe addr 42 11 30 (-90) 100] (empty 2 50)).2
    ∃ s, (run [.observe addr 7 4 31 (-90) 110, .expire 120, .grant addr .vht] t).2.lookup? addr =
      some s ∧ s.lastSequence? 3 = some 42 := by
  intro addr other t
  have stored : (run [.enter other 0] (empty 2 50)).2.observe addr 42 11 30 (-90) 100 =
      .ok (none, t) := by decide
  have stays : ∀ done ∈ [Op.observe addr 7 4 31 (-90) 110, .expire 120, .grant addr .vht].inits,
      (run done t).2.contains addr = true := by decide
  obtain ⟨s, found, exposed⟩ := sequence_exposed stored (by decide)
    (fun done h => stays done (List.mem_inits _ _ |>.2 h)) (by decide)
  exact ⟨s, found, (exposed 3 (by decide)).1 (by decide)⟩

/-- Frames of the priorities 0 and 8 are of one class: the later one replaces the sequence number of
the earlier one. -/
theorem sequence_shared :
    let addr : HwAddr := ⟨2, 0, 0, 0, 0, 1⟩
    let t := (run [.observe addr 1 0 0 0 0, .observe addr 2 8 0 0 0] (empty 1 0)).2
    (t.lookup? addr).bind (·.lastSequence? 0) = some 2 ∧
      (t.lookup? addr).bind (·.lastSequence? 8) = none ∧
      (t.observe addr 3 0 0 0 0).map (·.1) = .ok (some 2) := by
  decide

end StationTable

end Airlink
