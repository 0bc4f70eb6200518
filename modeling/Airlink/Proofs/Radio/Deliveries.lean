import Airlink.Proofs.Calls
import Airlink.Proofs.Radio.Ledger
import Airlink.Proofs.Radio.Starting
import Airlink.Proofs.Radio.Steps

/-!
# Deliveries

The host accepts a frame at once or for later (`Outside.Call.isAccepted`), and the counters of the
interface that received the frame show it (`Interface.handed`). While an interface receives, they
show one more for each frame that the host accepts (`Radio.receive_hands`,
`Radio.receiveReordered_hands`). A completion changes the sum only if nothing is pending: then it is
counted as a delivery of which there was none. Over a run, `Radio.run_handed` gives the sum that the
counters show, and when it is the number of accepted deliveries.
-/

namespace Airlink

open Outside (Call)

variable {σ : Type}

/-! ## Accepted deliveries -/

/-- The host took the frame that it was handed. -/
def Outside.Call.isAccepted : Call → Bool
  | .deliver _ (.ok _) => true
  | _ => false

/-- The number of deliveries that the host accepted. -/
def accepted (log : List Call) : Nat := log.countP Call.isAccepted

theorem accepted_append (l m : List Call) : accepted (l ++ m) = accepted l + accepted m :=
  List.countP_append

theorem Outside.logged_keptReceiving (o : Outside σ) (n : Nat) :
    o.logged.KeptReceiving fun s => accepted s.2 = n where
  reorder _ _ _ _ _ _ kept := (accepted_append _ _).trans kept
  record _ _ _ _ kept := (accepted_append _ _).trans kept

theorem Outside.logged_keptSending (o : Outside σ) (n : Nat) :
    o.logged.KeptSending fun s => accepted s.2 = n where
  submit _ _ kept := (accepted_append _ _).trans kept
  sendComplete _ _ _ kept := (accepted_append _ _).trans kept

/-! ## Deliveries that the counters show -/

/-- The deliveries that the counters show, finished or not. -/
def Interface.handed (i : Interface) : UInt64 := i.counters.delivered + i.counters.deliveryPending

theorem Interface.handed_eq_of_receipts {i j : Interface} (h : j.receipts = i.receipts) :
    j.handed = i.handed :=
  congrArg (fun e : Receipts => e.delivered + e.pending) h

/-- An interface that receives a released frame does with a log what it does without. -/
theorem Interface.receiveReordered_logged (o : Outside σ) (near : Neighbors) (now : Instant)
    (i : Interface) (s : σ) (log : List Call) (buf : Buffer) :
    ∃ calls, i.receiveReordered o.logged near now (s, log) buf =
      ((i.receiveReordered o near now s buf).1, (i.receiveReordered o near now s buf).2.1,
        (i.receiveReordered o near now s buf).2.2, log ++ calls) := by
  unfold receiveReordered
  split
  · exact ⟨[], by rw [List.append_nil]⟩
  · unfold runIngress
    dsimp only
    rw [report_logged]
    exact ⟨_, rfl⟩

namespace Radio

/-- The deliveries that the counters of each interface show. -/
def handed (r : Radio) : List UInt64 := r.interfaces.map Interface.handed

/-- The counters of one interface show `n` deliveries more. -/
theorem handed_count {f : Counters → Counters} {n : UInt64}
    (more : ∀ c : Counters,
      (f c).delivered + (f c).deliveryPending = c.delivered + c.deliveryPending + n)
    (r : Radio) (k : Nat) : (r.count k f).handed = r.handed.modify k (· + n) := by
  unfold handed count
  refine List.ext_getElem? fun l => ?_
  simp only [List.getElem?_map, List.getElem?_modify]
  cases r.interfaces[l]? with
  | none => rfl
  | some i =>
    simp only [Option.map_eq_map, Option.map_some]
    split
    · exact congrArg some (more i.counters)
    · rfl

theorem handed_set {r : Radio} {k : Nat} {i j : Interface} (at_ : r.interfaces[k]? = some i)
    (same : j.handed = i.handed) : (r.set k j).handed = r.handed := by
  unfold handed set
  rw [List.map_set, same]
  refine List.ext_getElem? fun l => ?_
  rw [List.getElem?_set]
  split
  · next here =>
    subst here
    rw [List.getElem?_map, at_, if_pos (by simpa using (List.getElem?_eq_some_iff.1 at_).1)]
    rfl
  · rfl

theorem handed_eq_of_forall₂ {is js : List Interface}
    (h : List.Forall₂ (fun i j => Interface.handed j = i.handed) is js) :
    js.map Interface.handed = is.map Interface.handed := by
  induction h with
  | nil => rfl
  | cons first rest ih => rw [List.map_cons, List.map_cons, first, ih]

/-- From one state to the next the host accepts some deliveries, and the counters of the interface
at a position show as many more. Those of the others show what they did. -/
def Hands (k : Nat) (st st' : Radio × σ × List Call) : Prop :=
  ∃ n, accepted st'.2.2 = accepted st.2.2 + n ∧
    st'.1.handed = st.1.handed.modify k (· + UInt64.ofNat n)

namespace Hands

variable {k : Nat} {st st' st'' : Radio × σ × List Call}

/-- The host accepts nothing, and the counters show no more. -/
theorem of_eq (calls : accepted st'.2.2 = accepted st.2.2) (shown : st'.1.handed = st.1.handed) :
    Hands k st st' := by
  refine ⟨0, calls, shown.trans ?_⟩
  have same : (· + UInt64.ofNat 0) = (id : UInt64 → UInt64) := funext UInt64.add_zero
  rw [same, List.modify_id]

theorem trans (h : Hands k st st') (h' : Hands k st' st'') : Hands k st st'' := by
  obtain ⟨n, calls, shown⟩ := h
  obtain ⟨m, calls', shown'⟩ := h'
  refine ⟨n + m, by rw [calls', calls, Nat.add_assoc], ?_⟩
  rw [shown', shown, List.modify_modify_eq]
  congr 1
  funext x
  rw [Function.comp_apply, UInt64.ofNat_add, UInt64.add_assoc]

/-- Steps one after the other. -/
theorem foldl {α : Type} {f : Radio × σ × List Call → α → Radio × σ × List Call}
    (step : ∀ st a, Hands k st (f st a)) (as : List α) (st : Radio × σ × List Call) :
    Hands k st (as.foldl f st) := by
  induction as generalizing st with
  | nil => exact of_eq rfl rfl
  | cons a as ih => exact (step st a).trans (ih (f st a))

/-- Counting something else. -/
theorem count (f : Counters → Counters)
    (same : ∀ c : Counters,
      (f c).delivered + (f c).deliveryPending = c.delivered + c.deliveryPending)
    (k : Nat) (r : Radio) (l : Nat) (s : σ × List Call) : Hands k (r, s) (r.count l f, s) := by
  refine of_eq rfl ((handed_count (n := 0) (fun c => ?_) r l).trans ?_)
  · rw [same, UInt64.add_zero]
  · have none : (· + 0) = (id : UInt64 → UInt64) := funext UInt64.add_zero
    rw [none, List.modify_id]

end Hands

/-! ## Carrying out outcomes -/

/-- What the host accepts, the counters show. -/
theorem deliver_hands (o : Outside σ) (k : Nat) (buf : Buffer) (r : Radio) (s : σ × List Call) :
    Hands k (r, s) (r.deliver o.logged k buf s) := by
  unfold deliver Outside.logged
  dsimp only
  cases (o.deliver buf s.1).1 with
  | error e =>
    exact (Hands.count (·.countDrop .deliveryFailed) (fun _ => rfl) k r k s).trans
      (.of_eq (accepted_append _ _) rfl)
  | ok answer =>
    refine ⟨1, accepted_append _ _, ?_⟩
    cases answer with
    | done => exact handed_count (fun c => by simp only [Counters.countDelivered]; ac_rfl) r k
    | pending => exact handed_count (fun c => by simp only [Counters.countPending]; ac_rfl) r k

theorem relayThrough_hands (o : Outside σ) (k l : Nat) (buf : Buffer) (r : Radio)
    (s : σ × List Call) : Hands k (r, s) (r.relayThrough o.logged l buf s) := by
  unfold relayThrough
  split
  · exact .of_eq rfl rfl
  · next i at_ =>
    have same := Interface.handed_eq_of_receipts (i.receipts_relay o.logged s buf)
    exact .of_eq (i.relay_keeps (o.logged_keptSending _) buf rfl) (handed_set at_ same)

theorem relay_hands (o : Outside σ) (k : Nat) (buf : Buffer) (scope : Scope) (r : Radio)
    (s : σ × List Call) : Hands k (r, s) (r.relay o.logged k buf scope s) := by
  unfold relay
  split
  · exact relayThrough_hands o k k buf r s
  · split
    · exact relayThrough_hands o k _ buf r s
    · exact .count (·.countDrop .unroutableUnicast) (fun _ => rfl) k r k s

theorem dispatchCopy_hands (o : Outside σ) (k : Nat) (copy : Duplicate) (r : Radio)
    (s : σ × List Call) : Hands k (r, s) (r.dispatchCopy o.logged k copy s) := by
  cases copy with
  | retransmit buf scope =>
    exact (Hands.count Counters.countRetransmitted (fun _ => rfl) k r k s).trans
      (relay_hands o k buf scope _ s)
  | monitor buf =>
    exact (Hands.count Counters.countMonitorCopy (fun _ => rfl) k r k s).trans
      (.of_eq (accepted_append _ _) rfl)

theorem dispatch_hands (o : Outside σ) (k : Nat) (bss : UInt8) (outcome : Outcome) (r : Radio)
    (s : σ × List Call) : Hands k (r, s) (r.dispatch o.logged k bss outcome s) := by
  cases outcome with
  | deliver buf => exact deliver_hands o k buf r s
  | forward buf scope =>
    exact (Hands.count Counters.countForwarded (fun _ => rfl) k r k s).trans
      (relay_hands o k buf scope _ s)
  | duplicate buf copies =>
    exact (Hands.foldl (fun st copy => dispatchCopy_hands o k copy st.1 st.2) copies (r, s)).trans
      (deliver_hands o k buf _ _)
  | event e =>
    have told (r : Radio) :
        Hands k (r, s) (r.count k Counters.countEvent, o.logged.event bss e s) :=
      (Hands.count Counters.countEvent (fun _ => rfl) k r k s).trans
        (.of_eq (accepted_append _ _) rfl)
    cases e with
    | monitor buf =>
      exact (Hands.count Counters.countMonitorCopy (fun _ => rfl) k r k s).trans (told _)
    | debug text => exact told r
    | management frame => exact told r
  | drop reason => exact .count (·.countDrop reason) (fun _ => rfl) k r k s

theorem dispatchAll_hands (o : Outside σ) (k : Nat) (bss : UInt8) (outcomes : List Outcome)
    (r : Radio) (s : σ × List Call) : Hands k (r, s) (r.dispatchAll o.logged k bss outcomes s) :=
  .foldl (fun st outcome => dispatch_hands o k bss outcome st.1 st.2) outcomes (r, s)

/-! ## Receiving -/

/-- While an interface receives, its counters show what the host accepts. -/
theorem receive_hands (o : Outside σ) (now : Instant) {r : Radio} (s : σ × List Call) {buf : Buffer}
    {bss : UInt8} (names : buf.window[1]? = some bss) {k : Nat} {i : Interface}
    (found : r.require bss = .ok (k, i)) (at_ : r.interfaces[k]? = some i) :
    Hands k (r, s) (r.receive o.logged now s buf).2 := by
  have calls := i.receive_keeps (o.logged_keptReceiving _) (r.neighbors k) now buf (s := s) rfl
  obtain ⟨stations, counters, same, received⟩ :=
    i.receive_changes o.logged (r.neighbors k) now s buf
  have shown : (i.receive o.logged (r.neighbors k) now s buf).2.1.handed = i.handed := by
    rw [same]
    rcases received with rfl | rfl <;> rfl
  unfold receive
  simp only [names, found]
  exact (Hands.of_eq calls (handed_set at_ shown)).trans (dispatchAll_hands o k bss _ _ _)

theorem receiveReordered_hands (o : Outside σ) (now : Instant) {r : Radio} (s : σ × List Call)
    (buf : Buffer) {bss : UInt8} {k : Nat} {i : Interface} (found : r.require bss = .ok (k, i))
    (at_ : r.interfaces[k]? = some i) :
    Hands k (r, s) (r.receiveReordered o.logged now s bss buf).2 := by
  have calls := i.receiveReordered_keeps (o.logged_keptReceiving _) (r.neighbors k) now buf (s := s)
    rfl
  obtain ⟨stations, same⟩ := i.receiveReordered_changes o.logged (r.neighbors k) now s buf
  have shown : (i.receiveReordered o.logged (r.neighbors k) now s buf).2.1.handed = i.handed := by
    rw [same]
    rfl
  unfold receiveReordered
  simp only [found]
  exact (Hands.of_eq calls (handed_set at_ shown)).trans (dispatchAll_hands o k bss _ _ _)

/-! ## Keeping the log changes nothing -/

theorem receive_logged (o : Outside σ) (now : Instant) (r : Radio) (s : σ) (log : List Call)
    (buf : Buffer) :
    ∃ calls, r.receive o.logged now (s, log) buf =
      ((r.receive o now s buf).1, (r.receive o now s buf).2.1, (r.receive o now s buf).2.2,
        log ++ calls) := by
  by_cases named : ∃ i ∈ r.interfaces, buf.window[1]? = some i.bssNum
  · obtain ⟨i, k, names, found, at_⟩ := exists_require named
    obtain ⟨calls, logged, -⟩ := receive_charges o now s log names found at_
    exact ⟨calls, logged⟩
  · obtain ⟨reason, plain, logged⟩ := receive_unattributed o now s log
      fun i mem names => named ⟨i, mem, names⟩
    refine ⟨[], ?_⟩
    rw [logged, plain, List.append_nil]

theorem receiveReordered_logged (o : Outside σ) (now : Instant) (r : Radio) (s : σ)
    (log : List Call) (bss : UInt8) (buf : Buffer) :
    ∃ calls, r.receiveReordered o.logged now (s, log) bss buf =
      ((r.receiveReordered o now s bss buf).1, (r.receiveReordered o now s bss buf).2.1,
        (r.receiveReordered o now s bss buf).2.2, log ++ calls) := by
  unfold receiveReordered
  rcases r.require_eq bss with ⟨k, i, ok, -, -, -⟩ | ⟨failed, -⟩
  · obtain ⟨calls, received⟩ := i.receiveReordered_logged o (r.neighbors k) now s log buf
    simp only [ok, received]
    obtain ⟨calls', carriedOut, -⟩ := dispatchAll_notes o k bss
      (i.receiveReordered o (r.neighbors k) now s buf).1
      (r.set k (i.receiveReordered o (r.neighbors k) now s buf).2.1)
      (i.receiveReordered o (r.neighbors k) now s buf).2.2 (log ++ calls)
    exact ⟨calls ++ calls', by simp only [carriedOut, List.append_assoc]⟩
  · simp only [failed]
    exact ⟨[], by rw [List.append_nil]⟩

/-! ## Operations -/

/-- The number of the interface that an operation has receive a frame. -/
def Op.receiver? : Op → Option UInt8
  | .receive _ buf => buf.window[1]?
  | .receiveReordered _ bss _ => some bss
  | _ => none

/-- How many deliveries of the interface with a number the host accepts in an operation. -/
def Op.acceptedFor (o : Outside σ) (bss : UInt8) (op : Op) (st : Radio × σ) : Nat :=
  if op.receiver? = some bss then accepted (op.apply o.logged (st.1, st.2, [])).2.2 else 0

/-- Nothing of the interface with a number is pending with the host. -/
def nothingPending (r : Radio) (bss : UInt8) : Bool :=
  (r.require bss).toOption.any fun (_, i) => i.counters.deliveryPending == 0

/-- How many completions of the interface with a number have no delivery to complete in an
operation. -/
def Op.surplusFor (bss : UInt8) : Op → Radio × σ → Nat
  | .deliveryComplete b, (r, _) => if b = bss ∧ r.nothingPending bss then 1 else 0
  | _, _ => 0

/-- The sum of what each operation of a run adds. -/
def along (o : Outside σ) (f : Op → Radio × σ → Nat) : List Op → Radio × σ → Nat
  | [], _ => 0
  | op :: ops, st => f op st + along o f ops (op.apply o st)

theorem nothingPending_eq {r : Radio} {bss : UInt8} {k : Nat} {i : Interface}
    (found : r.require bss = .ok (k, i)) :
    r.nothingPending bss = (i.counters.deliveryPending == 0) := by
  rw [nothingPending, found]
  rfl

/-- Operations apart from receiving and completing leave the deliveries of an interface alone. -/
theorem upkeep_handed (o : Outside σ) : Interface.Upkeep o fun i j => j.handed = i.handed where
  refl _ := rfl
  trans first next := next.trans first
  stations _ _ := rfl
  send i s buf hints := Interface.handed_eq_of_receipts (i.receipts_send o s buf hints)
  drainOne i s := Interface.handed_eq_of_receipts (i.receipts_drainOne o s)
  flush _ _ := rfl

/-- The counters of the interface at a position show `n` deliveries more. -/
def Shows (k n : Nat) (r r' : Radio) : Prop :=
  r'.handed[k]? = r.handed[k]?.map (· + UInt64.ofNat n)

theorem Shows.of_eq {r r' : Radio} {k n : Nat} (none : n = 0) (h : r'.handed = r.handed) :
    Shows k n r r' := by
  subst none
  rw [Shows, h]
  cases r.handed[k]? with
  | none => rfl
  | some x => exact congrArg some (UInt64.add_zero x).symm

theorem Shows.trans {r r' r'' : Radio} {k n m : Nat} (h : Shows k n r r') (h' : Shows k m r' r'') :
    Shows k (n + m) r r'' := by
  unfold Shows at h h' ⊢
  rw [h', h, Option.map_map]
  congr 1
  funext x
  rw [Function.comp_apply, UInt64.ofNat_add, UInt64.add_assoc]

/-- While an interface receives, its counters show what the host accepts, and those of others show
nothing. -/
theorem Hands.shows {r r' : Radio} {s : σ} {t : σ} {calls : List Call} {k l : Nat} {a b : UInt8}
    (h : Hands l (r, s, []) (r', t, calls)) (receiver : r.find? b = some l)
    (found : r.find? a = some k) : Shows k (if b = a then accepted calls else 0) r r' := by
  obtain ⟨n, all, shown⟩ := h
  obtain rfl : accepted calls = n := all.trans (Nat.zero_add n)
  by_cases same : b = a
  · subst same
    obtain rfl := Option.some_inj.1 (receiver.symm.trans found)
    rw [if_pos rfl, Shows, shown, List.getElem?_modify_eq]
    rfl
  · have apart : l ≠ k := by
      rintro rfl
      exact same (find?_inj receiver found)
    rw [if_neg same]
    refine (congrArg (·[k]?) shown).trans ((List.getElem?_modify_ne _ r.handed apart).trans ?_)
    exact Shows.of_eq (r := r) rfl rfl

/-- A completion shows a delivery more just if it has none to complete. -/
theorem Shows.complete {r : Radio} {k : Nat} {a b : UInt8} (found : r.find? a = some k) :
    Shows k (if b = a ∧ r.nothingPending a then 1 else 0) r
      ((r.deliveryComplete b).toOption.getD r) := by
  unfold deliveryComplete
  rcases r.require_eq b with ⟨l, i, ok, receiver, at_, -⟩ | ⟨failed, missing⟩
  · rw [ok]
    show Shows k _ r (r.count l Counters.countCompleted)
    by_cases same : b = a
    · subst same
      obtain rfl := Option.some_inj.1 (receiver.symm.trans found)
      rw [nothingPending_eq ok]
      have shown : (r.count l Counters.countCompleted).handed[l]? =
          some (i.count Counters.countCompleted).handed := by
        simp [handed, count, at_]
      have before : r.handed[l]? = some i.handed := by simp [handed, at_]
      rw [Shows, shown, before, Option.map_some]
      refine congrArg some ?_
      unfold Interface.handed Interface.count Counters.countCompleted
      by_cases none : i.counters.deliveryPending = 0
      · simp [none]
      · simp only [none, if_false, beq_iff_eq, and_false]
        rw [UInt64.add_assoc, UInt64.add_comm 1, UInt64.sub_add_cancel]
        exact (UInt64.add_zero _).symm
    · have apart : l ≠ k := by
        rintro rfl
        exact same (find?_inj receiver found)
      rw [if_neg fun h => same h.1]
      refine Eq.trans ?_ (Shows.of_eq (r := r) rfl rfl)
      unfold handed count
      rw [List.getElem?_map, List.getElem?_modify_ne _ _ apart, List.getElem?_map]
  · rw [failed]
    refine .of_eq (if_neg ?_) rfl
    rintro ⟨rfl, -⟩
    rw [missing] at found
    cases found

/-- After an operation the counters of an interface show as many deliveries more as the host
accepted of it, and one for a completion that had none to complete. -/
theorem Op.shows_apply (o : Outside σ) (op : Op) (st : Radio × σ) {bss : UInt8} {k : Nat}
    (found : st.1.find? bss = some k) :
    Shows k (op.acceptedFor o bss st + op.surplusFor bss st) st.1 (op.apply o st).1 := by
  obtain ⟨r, s⟩ := st
  cases op with
  | receive now buf =>
    by_cases named : ∃ i ∈ r.interfaces, buf.window[1]? = some i.bssNum
    · obtain ⟨i, l, names, ok, at_⟩ := exists_require named
      obtain ⟨calls, logged⟩ := receive_logged o now r s [] buf
      have hands := receive_hands o now (s, []) names ok at_
      rw [logged] at hands
      have shows_ := hands.shows (find?_of_require ok) found
      simpa [acceptedFor, receiver?, names, surplusFor, apply, logged] using shows_
    · have namesNone : ∀ i ∈ r.interfaces, buf.window[1]? ≠ some i.bssNum :=
        fun i mem names => named ⟨i, mem, names⟩
      obtain ⟨reason, plain, -⟩ := receive_unattributed o now s [] namesNone
      obtain ⟨i, at_, number⟩ := find?_eq_some found
      have other : buf.window[1]? ≠ some bss := number ▸ namesNone i (List.mem_of_getElem? at_)
      refine .of_eq ?_ (congrArg (·.1.handed) plain)
      simp [acceptedFor, receiver?, other, surplusFor]
  | receiveReordered now b buf =>
    rcases r.require_eq b with ⟨l, i, ok, receiver, at_, -⟩ | ⟨failed, missing⟩
    · obtain ⟨calls, logged⟩ := receiveReordered_logged o now r s [] b buf
      have hands := receiveReordered_hands o now (s, []) buf ok at_
      rw [logged] at hands
      have shows_ := hands.shows receiver found
      simpa [acceptedFor, receiver?, surplusFor, apply, logged] using shows_
    · have other : b ≠ bss := by
        rintro rfl
        rw [missing] at found
        cases found
      refine .of_eq ?_ ?_
      · simp [acceptedFor, receiver?, other, surplusFor]
      · simp [apply, Radio.receiveReordered, failed]
  | send b buf hints =>
    exact .of_eq rfl (handed_eq_of_forall₂ (sends (upkeep_handed o) r s b buf hints))
  | service rounds => exact .of_eq rfl (handed_eq_of_forall₂ (serves (upkeep_handed o) rounds r s))
  | deliveryComplete b =>
    have shows_ := Shows.complete (b := b) found
    simpa [acceptedFor, receiver?, surplusFor, apply] using shows_
  | expire now => exact .of_eq rfl (handed_eq_of_forall₂ (expires (upkeep_handed o) now r))
  | flush => exact .of_eq rfl (handed_eq_of_forall₂ (flushes (upkeep_handed o) r s))

/-- Over a run the counters of an interface show as many deliveries more as the host accepted of it,
and one for each completion that had none to complete. -/
theorem shows_run (o : Outside σ) (ops : List Op) (st : Radio × σ) {bss : UInt8} {k : Nat}
    (found : st.1.find? bss = some k) :
    Shows k (along o (Op.acceptedFor o bss) ops st + along o (Op.surplusFor bss) ops st) st.1
      (run o ops st).1 := by
  induction ops generalizing st with
  | nil => exact .of_eq rfl rfl
  | cons op ops ih =>
    have kept : (op.apply o st).1.find? bss = some k := by
      rw [find?_eq_numbers, numbers_of_identities (op.identities_apply o st), ← find?_eq_numbers,
        found]
    have both := (op.shows_apply o st found).trans (ih (op.apply o st) kept)
    rw [Nat.add_add_add_comm] at both
    exact both

/-- **Deliveries over a run.** Let an interface of a radio that has arisen show no delivery yet, and
let the radio run, whatever the host and the other parties answer. Then the counters of the
interface show the deliveries that the host accepted of it, finished or not, and one for each
completion that found nothing pending. So they show the accepted deliveries just if there is no
completion of that kind, or a multiple of 2^64 of them. -/
theorem handed_run (o : Outside σ) {r : Radio} (arises : r.Arises) {k : Nat} {i : Interface}
    (at_ : r.interfaces[k]? = some i) (fresh : i.handed = 0) (ops : List Op) (s : σ) :
    let deliveries := along o (Op.acceptedFor o i.bssNum) ops (r, s)
    let surplus := along o (Op.surplusFor i.bssNum) ops (r, s)
    ∃ j : Interface, (run o ops (r, s)).1.interfaces[k]? = some j ∧ j.identity = i.identity ∧
      j.counters.delivered + j.counters.deliveryPending = UInt64.ofNat (deliveries + surplus) ∧
      (j.counters.delivered + j.counters.deliveryPending = UInt64.ofNat deliveries ↔
        2 ^ 64 ∣ surplus) := by
  intro deliveries surplus
  have found := arises.find?_eq_some_iff.2 ⟨i, at_, rfl⟩
  have shown := shows_run o ops (r, s) found
  have before : r.handed[k]? = some 0 := by rw [handed, List.getElem?_map, at_, ← fresh]; rfl
  rw [Shows, before, Option.map_some, UInt64.zero_add, handed, List.getElem?_map,
    Option.map_eq_some_iff] at shown
  obtain ⟨j, at', shown⟩ := shown
  refine ⟨j, at', identity_eq (identities_run o ops (r, s)) at_ at', shown, ?_⟩
  change j.handed = _ ↔ _
  rw [shown, ← UInt64.toNat_inj, UInt64.toNat_ofNat', UInt64.toNat_ofNat']
  omega

/-- Parties of which the host says of every frame that it will be done with it later. -/
def later : Outside Unit := { Replay.accepting with deliver := fun _ s => (.ok .pending, s) }

/-- The station is handed two frames, of which the host is done with the first. Its counters show
two deliveries. -/
theorem handed_run_single :
    single.Arises ∧ Interface.standard.handed = 0 ∧
      ∃ j : Interface, (run later [.receive 0 (.ofBytes .rx toStation), .deliveryComplete 0,
          .receive 0 (.ofBytes .rx toStation)] (single, ())).1.interfaces[0]? = some j ∧
        j.counters.delivered + j.counters.deliveryPending = 2 := by
  obtain ⟨j, at_, -, shown, -⟩ := handed_run later single_arises (k := 0) (i := .standard) rfl rfl
    [.receive 0 (.ofBytes .rx toStation), .deliveryComplete 0,
      .receive 0 (.ofBytes .rx toStation)] ()
  exact ⟨single_arises, rfl, j, at_, shown.trans (by decide +kernel)⟩

/-- The host completes a delivery where there was none, and the station shows one that no call
made. -/
theorem handed_surplus :
    ∃ j : Interface, (run later [.deliveryComplete 0] (single, ())).1.interfaces[0]? = some j ∧
      j.counters.delivered + j.counters.deliveryPending = 1 ∧
      along later (Op.acceptedFor later 0) [.deliveryComplete 0] (single, ()) = 0 :=
  ⟨_, rfl, rfl, rfl⟩

end Radio

end Airlink
