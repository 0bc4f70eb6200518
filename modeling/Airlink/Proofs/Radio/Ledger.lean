import Airlink.Proofs.Radio.Arising
import Airlink.Proofs.Receive.Outcomes

/-!
# The ledger of received frames

The counters of an interface show how many frames and octets it received (`Receipts.packets`,
`Receipts.bytes`) and what became of frames: delivered, pending with the host, forwarded, told as an
event or dropped. The sum over the five fates is `Receipts.fates`.

Carrying out an outcome adds one to the fates of the interface that received the frame and leaves
the receipts of all others alone (`Radio.dispatch_charges`), relays through siblings included, as
long as every relay finds its interface (`Outcome.scopes`). Together with the number of outcomes
this gives the account of a received frame, `Radio.receive_accounted`.
-/

namespace Airlink

variable {σ : Type}

/-! ## Receipts -/

/-- What the counters of an interface say of the frames it received. -/
structure Receipts where
  packets : UInt64
  bytes : UInt64
  delivered : UInt64
  pending : UInt64
  forwarded : UInt64
  events : UInt64
  dropped : UInt64
  deriving DecidableEq, Repr

/-- What became of frames, all fates together. -/
def Receipts.fates (e : Receipts) : UInt64 :=
  e.delivered + e.pending + e.forwarded + e.events + e.dropped

namespace Counters

/-- What the counters say of received frames. -/
def receipts (c : Counters) : Receipts :=
  ⟨c.rxPackets, c.rxBytes, c.delivered, c.deliveryPending, c.forwarded, c.events, c.dropped⟩

theorem index_injective {a b : DropReason} (h : a.index = b.index) : a = b := by
  have same : DropReason.all[a.index.val]? = DropReason.all[b.index.val]? := by rw [h]
  rw [a.getElem?_all_index, b.getElem?_all_index] at same
  exact Option.some_inj.1 same

theorem dropsFor_countDrop (c : Counters) (reason other : DropReason) :
    (c.countDrop reason).dropsFor other = c.dropsFor other + if other = reason then 1 else 0 := by
  unfold dropsFor countDrop
  by_cases same : other = reason
  · subst same
    simp
  · have apart : reason.index.val ≠ other.index.val := fun e =>
      same (index_injective (Fin.ext e)).symm
    rw [if_neg same, UInt64.add_zero]
    exact Vector.getElem_set_ne reason.index.isLt other.index.isLt apart

/-- One more for each occurrence of a reason, summed over a list. -/
theorem foldl_add_one (f : DropReason → UInt64) (reason : DropReason) (l : List DropReason)
    (n m : UInt64) :
    l.foldl (fun n r => n + (f r + if r = reason then 1 else 0)) (n + m) =
      l.foldl (fun n r => n + f r) n + m + UInt64.ofNat (l.count reason) := by
  induction l generalizing n m with
  | nil => simp
  | cons r l ih =>
    generalize hd : (if r = reason then (1 : UInt64) else 0) = one
    have counted : UInt64.ofNat ((r :: l).count reason) = one + UInt64.ofNat (l.count reason) := by
      rw [List.count_cons, UInt64.ofNat_add, UInt64.add_comm, ← hd]
      by_cases same : r = reason <;> simp [same]
    have shift : n + m + (f r + one) = n + f r + (m + one) := by ac_rfl
    simp only [List.foldl_cons, hd]
    rw [shift, ih, counted]
    ac_rfl

/-- A drop for whatever reason counts once. -/
@[simp] theorem dropped_countDrop (c : Counters) (reason : DropReason) :
    (c.countDrop reason).dropped = c.dropped + 1 := by
  have once : DropReason.all.count reason = 1 := by cases reason <;> rfl
  have sum := foldl_add_one c.dropsFor reason DropReason.all 0 0
  rw [once] at sum
  unfold dropped
  simp only [dropsFor_countDrop]
  exact sum.trans (by rw [UInt64.add_zero]; rfl)

end Counters

/-! ## Charges -/

/-- The fates of an interface grow by `n` in all; what it received stays. -/
structure Receipts.Charged (n : Nat) (e e' : Receipts) : Prop where
  packets : e'.packets = e.packets
  bytes : e'.bytes = e.bytes
  fates : e'.fates = e.fates + UInt64.ofNat n

namespace Receipts.Charged

theorem refl (e : Receipts) : e.Charged 0 e := ⟨rfl, rfl, (UInt64.add_zero _).symm⟩

theorem trans {n m : Nat} {e e' e'' : Receipts} (h : e.Charged n e') (h' : e'.Charged m e'') :
    e.Charged (n + m) e'' :=
  ⟨h'.packets.trans h.packets, h'.bytes.trans h.bytes, by
    rw [h'.fates, h.fates, UInt64.ofNat_add, UInt64.add_assoc]⟩

end Receipts.Charged

namespace Counters

theorem charged_countDelivered (c : Counters) : c.receipts.Charged 1 c.countDelivered.receipts :=
  ⟨rfl, rfl, by simp only [Receipts.fates, receipts, countDelivered]; ac_rfl⟩

theorem charged_countPending (c : Counters) : c.receipts.Charged 1 c.countPending.receipts :=
  ⟨rfl, rfl, by simp only [Receipts.fates, receipts, countPending]; ac_rfl⟩

theorem charged_countForwarded (c : Counters) : c.receipts.Charged 1 c.countForwarded.receipts :=
  ⟨rfl, rfl, by simp only [Receipts.fates, receipts, countForwarded]; ac_rfl⟩

theorem charged_countEvent (c : Counters) : c.receipts.Charged 1 c.countEvent.receipts :=
  ⟨rfl, rfl, by simp only [Receipts.fates, receipts, countEvent]; ac_rfl⟩

theorem charged_countDrop (c : Counters) (reason : DropReason) :
    c.receipts.Charged 1 (c.countDrop reason).receipts :=
  ⟨rfl, rfl, by simp only [Receipts.fates, receipts, dropped_countDrop]; ac_rfl⟩

end Counters

/-- What an interface shows of the frames it received. -/
def Interface.receipts (i : Interface) : Receipts := i.counters.receipts

namespace Radio

/-- The interface at a position is charged with `n` fates, and no other with anything. -/
structure Charges (k n : Nat) (r r' : Radio) : Prop where
  unattributed : r'.unattributed = r.unattributed
  own : ∀ i, r.interfaces[k]? = some i →
    ∃ j, r'.interfaces[k]? = some j ∧ i.receipts.Charged n j.receipts
  others : ∀ l ≠ k, ∀ i, r.interfaces[l]? = some i →
    ∃ j, r'.interfaces[l]? = some j ∧ j.receipts = i.receipts

namespace Charges

variable {k n m : Nat} {r r' r'' : Radio}

theorem refl (k : Nat) (r : Radio) : Charges k 0 r r :=
  ⟨rfl, fun i at_ => ⟨i, at_, .refl _⟩, fun _ _ i at_ => ⟨i, at_, rfl⟩⟩

theorem trans (h : Charges k n r r') (h' : Charges k m r' r'') : Charges k (n + m) r r'' where
  unattributed := h'.unattributed.trans h.unattributed
  own := by
    intro i at_
    obtain ⟨j, at', charged⟩ := h.own i at_
    obtain ⟨l, at'', charged'⟩ := h'.own j at'
    exact ⟨l, at'', charged.trans charged'⟩
  others := by
    intro l other i at_
    obtain ⟨j, at', same⟩ := h.others l other i at_
    obtain ⟨j', at'', same'⟩ := h'.others l other j at'
    exact ⟨j', at'', same'.trans same⟩

/-- A change of the counters of the interface. -/
theorem count (r : Radio) (k : Nat) {f : Counters → Counters}
    (charged : ∀ c : Counters, c.receipts.Charged n (f c).receipts) :
    Charges k n r (r.count k f) where
  unattributed := rfl
  own i at_ := ⟨i.count f, by simp [Radio.count, at_], charged i.counters⟩
  others l other i at_ :=
    ⟨i, by simp [Radio.count, Ne.symm other, at_], rfl⟩

/-- An interface replaced by one with the same receipts. -/
theorem set {l : Nat} {i j : Interface} (k : Nat) (at_ : r.interfaces[l]? = some i)
    (same : j.receipts = i.receipts) : Charges k 0 r (r.set l j) := by
  have replaced (n : Nat) (i' : Interface) (at' : r.interfaces[n]? = some i') :
      ∃ j', (r.set l j).interfaces[n]? = some j' ∧ j'.receipts = i'.receipts := by
    by_cases here : l = n
    · subst here
      cases Option.some_inj.1 (at_.symm.trans at')
      obtain ⟨inside, -⟩ := List.getElem?_eq_some_iff.1 at_
      exact ⟨j, List.getElem?_set_self inside, same⟩
    · exact ⟨i', (List.getElem?_set_ne here).trans at', rfl⟩
  refine ⟨rfl, fun i' at' => ?_, fun n _ => replaced n⟩
  obtain ⟨j', at'', same'⟩ := replaced k i' at'
  exact ⟨j', at'', by rw [same']; exact .refl _⟩

/-- Steps that charge for what they carry out, one after the other. -/
theorem foldl {α : Type} {f : Radio × σ → α → Radio × σ} {numbers : List UInt8} (cost : Nat)
    (as : List α) (keeps : ∀ st a, (f st a).1.numbers = st.1.numbers)
    (step : ∀ st, ∀ a ∈ as, st.1.numbers = numbers → Charges k cost st.1 (f st a).1)
    (st : Radio × σ) (same : st.1.numbers = numbers) :
    Charges k (cost * as.length) st.1 (as.foldl f st).1 := by
  induction as generalizing st with
  | nil => exact .refl k _
  | cons a as ih =>
    have rest := ih (fun st a mem => step st a (List.mem_cons_of_mem _ mem)) (f st a)
      ((keeps st a).trans same)
    rw [List.length_cons, Nat.mul_succ, Nat.add_comm]
    exact (step st a List.mem_cons_self same).trans rest

end Charges

end Radio

/-! ## Where frames are relayed to -/

/-- A place to relay to that is there. -/
def Scope.Within (numbers : List UInt8) : Scope → Prop
  | .bss => True
  | .sibling number => number ∈ numbers

/-- The place that a copy is relayed to, if it is. -/
def Duplicate.scope? : Duplicate → Option Scope
  | .retransmit _ scope => some scope
  | .monitor _ => none

/-- The places that an outcome relays to. -/
def Outcome.scopes : Outcome → List Scope
  | .forward _ scope => [scope]
  | .duplicate _ copies => copies.filterMap Duplicate.scope?
  | _ => []

/-- A frame is relayed to the interface itself or to one of the siblings. -/
theorem Ingress.scopes_routeTo (env : Env) (st : State) (b : Buffer) (dest : HwAddr) :
    ∀ scope ∈ (routeTo env st b dest).scopes, scope.Within (env.near.map Prod.fst) := by
  have alone {scope : Scope} (h : scope.Within (env.near.map Prod.fst)) :
      ∀ s ∈ [scope], s.Within (env.near.map Prod.fst) := by
    intro s mem
    obtain rfl := List.mem_singleton.1 mem
    exact h
  unfold routeTo
  split
  · nofun
  · unfold Forwarding.decide
    split
    · nofun
    · split
      · unfold Forwarding.decideGroup
        split
        · nofun
        · intro scope mem
          obtain ⟨copy, isCopy, isScope⟩ := List.mem_filterMap.1 mem
          unfold Forwarding.copies at isCopy
          rcases List.mem_append.1 isCopy with isCopy | isCopy
          · split at isCopy
            · cases isCopy
            · obtain rfl := List.mem_singleton.1 isCopy
              cases isScope
              trivial
          · split at isCopy
            · obtain rfl := List.mem_singleton.1 isCopy
              cases isScope
            · cases isCopy
      · unfold Forwarding.decideUnicast
        split
        · nofun
        · split
          · split
            · nofun
            · exact alone trivial
          · split
            · next bss located =>
              split
              · nofun
              · refine alone ?_
                obtain ⟨sibling, found, rfl⟩ := Option.map_eq_some_iff.1 located
                exact List.mem_map_of_mem (List.mem_of_find?_eq_some found)
            · split <;> nofun

/-- A single frame is relayed nowhere else. -/
theorem Ingress.scopes_process (env : Env) (st : State) (buf : Buffer) (desc : RxDescriptor) :
    ∀ scope ∈ (process env st buf desc).1.scopes, scope.Within (env.near.map Prod.fst) := by
  have processed := process_processed env st buf desc
  generalize process env st buf desc = result at processed
  cases processed with
  | event e untranslated => nofun
  | drop reason untranslated unscreened => nofun
  | @sent b c translation carried translated =>
    cases screen env translation c.window with
    | drop reason => nofun
    | pass => exact scopes_routeTo env st c _
    | tdls tdls => exact scopes_routeTo env _ c _

/-- A received frame is relayed nowhere else. -/
theorem Interface.scopes_receive (o : Outside σ) (near : Neighbors) (now : Instant) (i : Interface)
    (s : σ) (buf : Buffer) : ∀ outcome ∈ (i.receive o near now s buf).1,
      ∀ scope ∈ outcome.scopes, scope.Within (near.map Prod.fst) :=
  i.forall_receive o near now s buf (fun st buf desc => Ingress.scopes_process _ st buf desc)
    (fun _ => nofun) (fun _ => nofun)

/-! ## Carrying out outcomes -/

namespace Interface

/-- Transmitting leaves the receipts alone. -/
theorem receipts_account (i : Interface) (answer : Submission) :
    (i.account answer).receipts = i.receipts := by
  unfold account
  cases answer with
  | success buf =>
    dsimp only
    split <;> rfl
  | busy buf => rfl
  | failure buf reason => rfl

theorem receipts_submit (o : Outside σ) (i : Interface) (s : σ) (framed : Buffer) :
    (i.submit o s framed).1.receipts = i.receipts := by
  unfold submit
  split
  · dsimp only
    rw [← i.receipts_account (o.submit framed s).1]
    cases (o.submit framed s).1 <;> rfl
  · rfl

theorem receipts_relay (o : Outside σ) (i : Interface) (s : σ) (buf : Buffer) :
    (i.relay o s buf).1.receipts = i.receipts := by
  unfold relay
  split
  · rfl
  · exact receipts_submit o i s _

theorem receipts_send (o : Outside σ) (i : Interface) (s : σ) (buf : Buffer)
    (hints : TransmitHints) : (i.send o s buf hints).2.1.receipts = i.receipts := by
  unfold send
  dsimp only
  split
  · split <;> rfl
  · rw [receipts_submit]
    split <;> rfl

theorem receipts_drainOne (o : Outside σ) (i : Interface) (s : σ) :
    (i.drainOne o s).2.1.receipts = i.receipts := by
  unfold drainOne Backlog.drainOne Backlog.popFront
  by_cases draining : i.backlog.draining = true
  · rw [if_pos draining]
  · rw [if_neg draining]
    cases i.backlog.frames with
    | nil => rfl
    | cons buf rest =>
      refine Eq.trans ?_ (i.receipts_account (o.submit buf s).1)
      simp only [List.head?_cons, drainCallbacks]
      cases (o.submit buf s).1 <;> rfl

end Interface

namespace Radio

/-- Delivering a frame gives it one fate, whatever the host answers. -/
theorem deliver_charges (o : Outside σ) (k : Nat) (buf : Buffer) (r : Radio) (s : σ) :
    Charges k 1 r (r.deliver o k buf s).1 := by
  unfold deliver
  dsimp only
  split
  · exact .count r k Counters.charged_countDelivered
  · exact .count r k Counters.charged_countPending
  · exact .count r k fun c => c.charged_countDrop _

theorem relayThrough_charges (o : Outside σ) (k l : Nat) (buf : Buffer) (r : Radio) (s : σ) :
    Charges k 0 r (r.relayThrough o l buf s).1 := by
  unfold relayThrough
  split
  · exact .refl k r
  · next i at_ => exact .set k at_ (i.receipts_relay o s buf)

/-- Relaying charges nobody, if the place to relay to is there. -/
theorem relay_charges (o : Outside σ) (k : Nat) (buf : Buffer) {scope : Scope} (r : Radio) (s : σ)
    (within : scope.Within r.numbers) : Charges k 0 r (r.relay o k buf scope s).1 := by
  cases scope with
  | bss => exact relayThrough_charges o k k buf r s
  | sibling bss =>
    obtain ⟨target, found⟩ := Option.isSome_iff_exists.1 (isSome_find?_iff.2 within)
    unfold relay
    simp only [found]
    exact relayThrough_charges o k target buf r s

/-- The numbers belong to the identities. -/
theorem numbers_of_identities {r r' : Radio} (h : r'.identities = r.identities) :
    r'.numbers = r.numbers := by
  rw [numbers, h, numbers]

@[simp] theorem numbers_count (r : Radio) (k : Nat) (f : Counters → Counters) :
    (r.count k f).numbers = r.numbers := numbers_of_identities (identities_count r k f)

/-- Copies of a frame have no fate of their own. -/
theorem dispatchCopy_charges (o : Outside σ) (k : Nat) (copy : Duplicate) (r : Radio) (s : σ)
    (within : ∀ scope, copy.scope? = some scope → scope.Within r.numbers) :
    Charges k 0 r (r.dispatchCopy o k copy s).1 := by
  cases copy with
  | retransmit buf scope =>
    have counted : Charges k 0 r (r.count k Counters.countRetransmitted) :=
      .count r k fun c => .refl c.receipts
    refine counted.trans (relay_charges o k buf _ s ?_)
    rw [numbers_count]
    exact within scope rfl
  | monitor buf => exact .count r k fun c => .refl c.receipts

/-- Carrying out an outcome gives one fate. -/
theorem dispatch_charges (o : Outside σ) (k : Nat) (bss : UInt8) (outcome : Outcome) (r : Radio)
    (s : σ) (within : ∀ scope ∈ outcome.scopes, scope.Within r.numbers) :
    Charges k 1 r (r.dispatch o k bss outcome s).1 := by
  cases outcome with
  | deliver buf => exact deliver_charges o k buf r s
  | forward buf scope =>
    have counted : Charges k 1 r (r.count k Counters.countForwarded) :=
      .count r k Counters.charged_countForwarded
    refine counted.trans (relay_charges o k buf _ s ?_)
    rw [numbers_count]
    exact within scope List.mem_cons_self
  | duplicate buf copies =>
    have copied : Charges k 0 r
        (copies.foldl (fun st copy => st.1.dispatchCopy o k copy st.2) (r, s)).1 := by
      refine Nat.zero_mul copies.length ▸ Charges.foldl 0 copies
        (fun st copy => numbers_of_identities (identities_dispatchCopy o k copy st.1 st.2))
        (fun st copy mem same => dispatchCopy_charges o k copy st.1 st.2 ?_) (r, s) rfl
      intro scope isScope
      rw [same]
      exact within scope (List.mem_filterMap.2 ⟨copy, mem, isScope⟩)
    exact Nat.zero_add 1 ▸ copied.trans (deliver_charges o k buf _ _)
  | event e =>
    have told (r : Radio) : Charges k 1 r (r.count k Counters.countEvent) :=
      .count r k Counters.charged_countEvent
    cases e with
    | monitor buf =>
      have copied : Charges k 0 r (r.count k Counters.countMonitorCopy) :=
        .count r k fun c => .refl c.receipts
      exact Nat.zero_add 1 ▸ copied.trans (told _)
    | debug text => exact told r
    | management frame => exact told r
  | drop reason => exact .count r k fun c => c.charged_countDrop reason

/-- Carrying out outcomes gives one fate for each. -/
theorem dispatchAll_charges (o : Outside σ) (k : Nat) (bss : UInt8) (outcomes : List Outcome)
    (r : Radio) (s : σ)
    (within : ∀ outcome ∈ outcomes, ∀ scope ∈ outcome.scopes, scope.Within r.numbers) :
    Charges k outcomes.length r (r.dispatchAll o k bss outcomes s).1 := by
  refine Nat.one_mul outcomes.length ▸ Charges.foldl 1 outcomes
    (fun st outcome => numbers_of_identities (identities_dispatch o k bss outcome st.1 st.2))
    (fun st outcome mem same => dispatch_charges o k bss outcome st.1 st.2 ?_) (r, s) rfl
  rw [same]
  exact within outcome mem

end Radio

/-! ## Received frames -/

/-- The number of fates that a received frame is charged with, given what was offered to the reorder
engine: none if the engine took the frame, one if it refused it, and otherwise one for each outcome
that is due. -/
def Interface.charge (i : Interface) (buf : Buffer) :
    List (Buffer × Except Error Unit) → Nat
  | [] => i.due buf
  | (_, .ok _) :: _ => 0
  | (_, .error _) :: _ => 1

theorem Received.length_eq_charge {i : Interface} {buf : Buffer} {calls : List Outside.Call}
    {outcomes : List Outcome} (h : Received i buf calls outcomes) :
    outcomes.length = i.charge buf (offers calls) := by
  cases h with
  | taken offer => rw [offer]; rfl
  | refused offer notEmpty => rw [offer]; rfl
  | processed offer count => rw [offer]; exact count

/-- An interface that receives a frame counts it and its octets. -/
theorem Interface.receipts_receive (o : Outside σ) (near : Neighbors) (now : Instant)
    (i : Interface) (s : σ) (buf : Buffer) :
    (i.receive o near now s buf).2.1.receipts =
      { i.receipts with
        packets := i.receipts.packets + 1
        bytes := i.receipts.bytes + UInt64.ofNat buf.size } := by
  obtain ⟨stations, counters, same, rfl | rfl⟩ := i.receive_changes o near now s buf
  · rw [same]
    rfl
  · rw [same]
    rfl

theorem Scope.Within.mono {numbers others : List UInt8} (sub : ∀ n ∈ numbers, n ∈ others)
    {scope : Scope} (h : scope.Within numbers) : scope.Within others := by
  cases scope with
  | bss => trivial
  | sibling number => exact sub number h

namespace Radio

/-- The siblings of an interface are interfaces of the radio. -/
theorem mem_numbers_of_mem_neighbors (r : Radio) (k : Nat) :
    ∀ n ∈ (r.neighbors k).map Prod.fst, n ∈ r.numbers := by
  intro n mem
  simp only [neighbors, List.map_map, List.mem_map] at mem
  obtain ⟨i, isSibling, rfl⟩ := mem
  rw [numbers_eq]
  exact List.mem_map_of_mem (List.mem_of_mem_eraseIdx (List.mem_filter.1 isSibling).1)

/-- The interface that a frame names is found. -/
theorem exists_require {r : Radio} {buf : Buffer}
    (h : ∃ i ∈ r.interfaces, buf.window[1]? = some i.bssNum) :
    ∃ i k, buf.window[1]? = some i.bssNum ∧ r.require i.bssNum = .ok (k, i) ∧
      r.interfaces[k]? = some i := by
  obtain ⟨i, mem, names⟩ := h
  rcases r.require_eq i.bssNum with ⟨k, j, found, -, at_, number⟩ | ⟨-, missing⟩
  · exact ⟨j, k, by rw [names, number], by rw [number, found], at_⟩
  · have used : i.bssNum ∈ r.numbers := by
      rw [numbers_eq]
      exact List.mem_map_of_mem mem
    have found := isSome_find?_iff.2 used
    rw [missing] at found
    cases found

/-- An interface stays the one it is if the identities stay. -/
theorem identity_eq {r r' : Radio} (kept : r'.identities = r.identities) {k : Nat}
    {i j : Interface} (at_ : r.interfaces[k]? = some i) (at' : r'.interfaces[k]? = some j) :
    j.identity = i.identity := by
  have same := congrArg (·[k]?) kept
  simpa [identities, at_, at'] using same

/-- A frame that names an interface is received by it, and the interface is charged for it. Keeping
the log changes nothing. -/
theorem receive_charges (o : Outside σ) (now : Instant) {r : Radio} (s : σ)
    (log : List Outside.Call) {buf : Buffer} {bss : UInt8} (names : buf.window[1]? = some bss)
    {k : Nat} {i : Interface} (found : r.require bss = .ok (k, i))
    (at_ : r.interfaces[k]? = some i) :
    ∃ calls, r.receive o.logged now (s, log) buf =
        ((r.receive o now s buf).1, (r.receive o now s buf).2.1, (r.receive o now s buf).2.2,
          log ++ calls) ∧
      Charges k (i.charge buf (offers calls))
        (r.set k (i.receive o (r.neighbors k) now s buf).2.1) (r.receive o now s buf).2.1 := by
  obtain ⟨calls, received, way⟩ := i.receive_logged o (r.neighbors k) now s log buf
  have relayed := i.scopes_receive o (r.neighbors k) now s buf
  have kept : (i.receive o (r.neighbors k) now s buf).2.1.identity = i.identity :=
    i.identity_receive o _ now s buf
  have length := way.length_eq_charge
  unfold receive
  simp only [names, found, received]
  generalize i.receive o (r.neighbors k) now s buf = result at relayed kept length
  obtain ⟨outcomes, j, t⟩ := result
  obtain ⟨calls', carriedOut, none⟩ :=
    dispatchAll_notes o k bss outcomes (r.set k j) t (log ++ calls)
  refine ⟨calls ++ calls', ?_, ?_⟩
  · simp only [carriedOut, List.append_assoc]
  · rw [offers_append, none, List.append_nil, ← length]
    refine dispatchAll_charges o k bss outcomes (r.set k j) t fun outcome mem scope isScope => ?_
    rw [numbers_of_identities (identities_set at_ kept)]
    exact (relayed outcome mem scope isScope).mono (r.mem_numbers_of_mem_neighbors k)

/-- A frame that names no interface changes none, and is counted as received and dropped apart. -/
theorem receive_unattributed (o : Outside σ) (now : Instant) {r : Radio} (s : σ)
    (log : List Outside.Call) {buf : Buffer}
    (namesNone : ∀ i ∈ r.interfaces, buf.window[1]? ≠ some i.bssNum) :
    ∃ reason, (r.receive o now s buf).2 = (r.reject buf reason, s) ∧
      r.receive o.logged now (s, log) buf =
        ((r.receive o now s buf).1, r.reject buf reason, s, log) := by
  unfold receive
  cases names : buf.window[1]? with
  | none => exact ⟨_, rfl, rfl⟩
  | some bss =>
    rcases r.require_eq bss with ⟨k, i, -, -, at_, rfl⟩ | ⟨missing, -⟩
    · exact absurd names (namesNone i (List.mem_of_getElem? at_))
    · simp only [missing]
      exact ⟨_, rfl, rfl⟩

/-- **Every received frame is accounted for.** Let a radio that has arisen receive a frame, whatever
the host, the transport and the reorder engine answer. The interface that byte 1 names counts one
frame more and the octets of the buffer, and the sum over its fates grows by what is due: by nothing
if the reorder engine took the frame, by one if it refused it, and else by one for each outcome
(`Interface.due`). No other interface shows anything of the frame. A frame that names no interface
changes none, and is counted apart as received and as dropped. -/
theorem receive_accounted (o : Outside σ) (now : Instant) {r : Radio} (arises : r.Arises) (s : σ)
    (buf : Buffer) :
    let run := r.receive o.logged now (s, []) buf
    (run.1, run.2.1, run.2.2.1) = r.receive o now s buf ∧
    (∀ (k : Nat) (i : Interface), r.interfaces[k]? = some i → ∃ j : Interface,
      run.2.1.interfaces[k]? = some j ∧ j.identity = i.identity ∧
      (buf.window[1]? = some i.bssNum →
        j.receipts.packets = i.receipts.packets + 1 ∧
        j.receipts.bytes = i.receipts.bytes + UInt64.ofNat buf.size ∧
        j.receipts.fates =
          i.receipts.fates + UInt64.ofNat (i.charge buf (offers run.2.2.2))) ∧
      (buf.window[1]? ≠ some i.bssNum → j.receipts = i.receipts)) ∧
    ((∃ i ∈ r.interfaces, buf.window[1]? = some i.bssNum) →
      run.2.1.unattributed = r.unattributed) ∧
    ((∀ i ∈ r.interfaces, buf.window[1]? ≠ some i.bssNum) →
      run.2.1.interfaces = r.interfaces ∧
      run.2.1.unattributed.rxPackets = r.unattributed.rxPackets + 1 ∧
      run.2.1.unattributed.dropped = r.unattributed.dropped + 1) := by
  have kept := identities_receive o now r s buf
  by_cases named : ∃ i ∈ r.interfaces, buf.window[1]? = some i.bssNum
  · obtain ⟨i, k, names, found, at_⟩ := exists_require named
    obtain ⟨calls, logged, charges⟩ := receive_charges o now s [] names found at_
    rw [logged, List.nil_append]
    refine ⟨rfl, fun l i' at' => ?_, fun _ => charges.unattributed, fun namesNone => ?_⟩
    · by_cases here : l = k
      · subst here
        cases Option.some_inj.1 (at_.symm.trans at')
        have inside := (List.getElem?_eq_some_iff.1 at_).1
        obtain ⟨j, atJ, charged⟩ := charges.own _ (List.getElem?_set_self inside)
        refine ⟨j, atJ, identity_eq kept at_ atJ, fun _ => ?_, fun other => absurd names other⟩
        have received := i.receipts_receive o (r.neighbors l) now s buf
        exact ⟨by rw [charged.packets, received], by rw [charged.bytes, received], by
          rw [charged.fates, received]
          rfl⟩
      · obtain ⟨j, atJ, same⟩ := charges.others l here i'
          ((List.getElem?_set_ne (Ne.symm here)).trans at')
        refine ⟨j, atJ, identity_eq kept at' atJ, fun names' => ?_, fun _ => same⟩
        -- Both interfaces have the number that the frame names, so they are one.
        have number : i'.bssNum = i.bssNum := Option.some_inj.1 (names'.symm.trans names)
        have first := arises.find?_eq_some_iff.2 ⟨i', at', number⟩
        have second := arises.find?_eq_some_iff.2 ⟨i, at_, rfl⟩
        exact absurd (Option.some_inj.1 (first.symm.trans second)) here
    · exact absurd names (namesNone i (List.mem_of_getElem? at_))
  · have namesNone : ∀ i ∈ r.interfaces, buf.window[1]? ≠ some i.bssNum :=
      fun i mem names => named ⟨i, mem, names⟩
    obtain ⟨reason, plain, logged⟩ := receive_unattributed o now s [] namesNone
    rw [logged]
    refine ⟨Prod.ext rfl plain.symm, fun k i at_ => ⟨i, at_, rfl, fun names => ?_, fun _ => rfl⟩,
      fun some => absurd some named, fun _ => ⟨rfl, rfl, Counters.dropped_countDrop _ _⟩⟩
    exact absurd names (namesNone i (List.mem_of_getElem? at_))

/-- The radio with the station interface of the usual settings. -/
def single : Radio := ⟨[.standard], .zero⟩

theorem single_arises : single.Arises := .add .empty rfl

/-- A data frame for the station, of which there is only the Ethernet-II header. -/
def toStation : Bytes :=
  [0, 0, 14, 0, 24, 0, 0, 0] ++ List.replicate 16 0 ++
    [2, 0, 0, 0, 0, 1, 2, 0, 0, 0, 0, 10, 8, 0]

/-- The station delivers the frame, and so it is charged with one fate for it. -/
theorem receive_accounted_single :
    let run := single.receive Replay.accepting.logged 0 ((), []) (.ofBytes .rx toStation)
    single.Arises ∧ ∃ j, run.2.1.interfaces[0]? = some j ∧ j.receipts.packets = 1 ∧
      j.receipts.bytes = 38 ∧ j.receipts.fates = 1 := by
  obtain ⟨-, own, -, -⟩ :=
    receive_accounted Replay.accepting 0 single_arises () (.ofBytes .rx toStation)
  obtain ⟨j, at_, -, charged, -⟩ := own 0 .standard rfl
  obtain ⟨packets, bytes, fates⟩ := charged (by decide)
  exact ⟨single_arises, j, at_, packets, bytes, fates.trans (by decide +kernel)⟩

end Radio

end Airlink
