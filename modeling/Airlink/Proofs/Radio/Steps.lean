import Airlink.Proofs.Radio.Arising

/-!
# What operations do to single interfaces

An operation of a radio works on its interfaces one at a time. So a relation between an interface
and what becomes of it holds of each interface over a whole operation, if it holds of each way in
which a single interface is worked on: `Interface.Upkeep` lists those of the operations that send,
drain, flush and forget stations (`Radio.sends`, `serves`, `expires`, `flushes`),
`Interface.Carriage` those of carrying out outcomes (`Radio.dispatchesAll`) and `Interface.Work`
those of all operations (`Radio.Op.forall₂_apply`).
-/

namespace Airlink

variable {σ : Type}

namespace Interface

/-- A relation between an interface and what becomes of it that holds of all that is done to an
interface apart from receiving and relaying. -/
structure Upkeep (o : Outside σ) (R : Interface → Interface → Prop) : Prop where
  refl : ∀ i, R i i
  trans : ∀ {i j l}, R i j → R j l → R i l
  stations : ∀ (i : Interface) stations, R i { i with stations }
  send : ∀ (i : Interface) s buf hints, R i (i.send o s buf hints).2.1
  drainOne : ∀ (i : Interface) s, R i (i.drainOne o s).2.1
  flush : ∀ (i : Interface) s, R i (i.flush o s).2.1

/-- A relation between an interface and what becomes of it that holds of all that is done to an
interface. -/
structure Work (o : Outside σ) (R : Interface → Interface → Prop) : Prop extends Upkeep o R where
  count : ∀ (i : Interface) f, R i (i.count f)
  relay : ∀ (i : Interface) s buf, R i (i.relay o s buf).1

/-- A relation between an interface and what becomes of it that holds of what carrying out outcomes
does to an interface. -/
structure Carriage (o : Outside σ) (R : Interface → Interface → Prop) : Prop where
  refl : ∀ i, R i i
  trans : ∀ {i j l}, R i j → R j l → R i l
  count : ∀ (i : Interface) f, R i (i.count f)
  relay : ∀ (i : Interface) s buf, R i (i.relay o s buf).1

namespace Work

variable {o : Outside σ} {R : Interface → Interface → Prop}

theorem carriage (h : Work o R) : Carriage o R := ⟨h.refl, h.trans, h.count, h.relay⟩

theorem receive (h : Work o R) (near : Neighbors) (now : Instant) (i : Interface) (s : σ)
    (buf : Buffer) : R i (i.receive o near now s buf).2.1 := by
  obtain ⟨stations, counters, same, -⟩ := i.receive_changes o near now s buf
  rw [same]
  exact h.trans (h.stations i stations) (h.count { i with stations } fun _ => counters)

theorem receiveReordered (h : Work o R) (near : Neighbors) (now : Instant) (i : Interface) (s : σ)
    (buf : Buffer) : R i (i.receiveReordered o near now s buf).2.1 := by
  obtain ⟨stations, same⟩ := i.receiveReordered_changes o near now s buf
  rw [same]
  exact h.stations i stations

end Work

end Interface

namespace Radio

open Interface (Upkeep Carriage Work)

variable {o : Outside σ} {R : Interface → Interface → Prop}

/-- A relation between interfaces that composes does so interface by interface. -/
theorem forall₂_trans (transitive : ∀ {i j l}, R i j → R j l → R i l) {is js ls : List Interface}
    (h : List.Forall₂ R is js) (h' : List.Forall₂ R js ls) : List.Forall₂ R is ls := by
  induction h generalizing ls with
  | nil =>
    cases h'
    exact .nil
  | cons first rest ih =>
    cases h' with
    | cons first' rest' => exact .cons (transitive first first') (ih rest')

/-- One interface is replaced by what becomes of it. -/
theorem forall₂_set (reflexive : ∀ i, R i i) {is : List Interface} {k : Nat} {i j : Interface}
    (at_ : is[k]? = some i) (became : R i j) : List.Forall₂ R is (is.set k j) := by
  induction is generalizing k with
  | nil => cases at_
  | cons i' is ih =>
    cases k with
    | zero =>
      cases at_
      exact .cons became (List.forall₂_same.2 fun i _ => reflexive i)
    | succ k => exact .cons (reflexive i') (ih at_)

/-- Where one list has an interface the other has one that it is related to. -/
theorem exists_of_forall₂ {is js : List Interface} (h : List.Forall₂ R is js) {k : Nat}
    {i : Interface} (at_ : is[k]? = some i) : ∃ j, js[k]? = some j ∧ R i j := by
  induction h generalizing k with
  | nil => cases at_
  | cons first rest ih =>
    cases k with
    | zero =>
      cases at_
      exact ⟨_, rfl, first⟩
    | succ k => exact ih at_

/-- A property that each interface keeps is kept by all. -/
theorem forall_of_forall₂ {P : Interface → Prop} {is js : List Interface}
    (h : List.Forall₂ (fun i j => P i → P j) is js) (all : ∀ i ∈ is, P i) : ∀ j ∈ js, P j := by
  induction h with
  | nil => exact List.forall_mem_nil _
  | cons first rest ih =>
    obtain ⟨here, behind⟩ := List.forall_mem_cons.1 all
    exact List.forall_mem_cons.2 ⟨first here, ih behind⟩

/-! ## Sending, serving, forgetting, flushing -/

theorem sends (h : Upkeep o R) (r : Radio) (s : σ) (bss : UInt8) (buf : Buffer)
    (hints : TransmitHints) :
    List.Forall₂ R r.interfaces (r.send o s bss buf hints).2.1.interfaces := by
  unfold send
  rcases r.require_eq bss with ⟨k, i, ok, -, at_, -⟩ | ⟨failed, -⟩
  · rw [ok]
    exact forall₂_set h.refl at_ (h.send i s buf hints)
  · rw [failed]
    exact List.forall₂_same.2 fun i _ => h.refl i

theorem serves_round (h : Upkeep o R) (turns : List Turn) (s : σ) :
    List.Forall₂ R (turns.map (·.1)) ((serviceRound o turns s).2.1.map (·.1)) := by
  induction turns generalizing s with
  | nil => exact .nil
  | cons turn turns ih =>
    obtain ⟨i, out⟩ := turn
    cases out with
    | true => exact .cons (h.refl i) (ih s)
    | false => exact .cons (h.drainOne i s) (ih _)

theorem serves_rounds (h : Upkeep o R) (rounds : Nat) (turns : List Turn) (s : σ) :
    List.Forall₂ R (turns.map (·.1)) ((serviceRounds o rounds turns s).2.1.map (·.1)) := by
  induction rounds generalizing turns s with
  | zero => exact List.forall₂_same.2 fun i _ => h.refl i
  | succ rounds ih =>
    unfold serviceRounds
    dsimp only
    split
    · exact serves_round h turns s
    · exact forall₂_trans (R := R) h.trans (serves_round h turns s) (ih _ _)

theorem serves (h : Upkeep o R) (rounds : Nat) (r : Radio) (s : σ) :
    List.Forall₂ R r.interfaces (r.service o rounds s).2.1.interfaces := by
  have served := serves_rounds h rounds (r.interfaces.map (·, false)) s
  rwa [List.map_map, Function.comp_def, List.map_id'] at served

theorem expires (h : Upkeep o R) (now : Instant) (r : Radio) :
    List.Forall₂ R r.interfaces (r.expire now).2.interfaces := by
  unfold expire
  dsimp only
  rw [List.map_map]
  exact List.forall₂_map_right_iff.2 (List.forall₂_same.2 fun i _ => h.stations i _)

theorem flushes (h : Upkeep o R) (r : Radio) (s : σ) :
    List.Forall₂ R r.interfaces (r.flush o s).2.1.interfaces := by
  show List.Forall₂ R r.interfaces (flushAll o r.interfaces s).2.1
  generalize r.interfaces = is
  induction is generalizing s with
  | nil => exact .nil
  | cons i is ih => exact .cons (h.flush i s) (ih _)

/-! ## Carrying out outcomes -/

theorem counts (h : Carriage o R) (r : Radio) (k : Nat) (f : Counters → Counters) :
    List.Forall₂ R r.interfaces (r.count k f).interfaces := by
  show List.Forall₂ R r.interfaces (r.interfaces.modify k (·.count f))
  cases at_ : r.interfaces[k]? with
  | none =>
    rw [List.modify_eq_self (List.getElem?_eq_none_iff.1 at_)]
    exact List.forall₂_same.2 fun i _ => h.refl i
  | some i =>
    rw [List.modify_eq_set_getElem?, at_]
    exact forall₂_set h.refl at_ (h.count i f)

theorem delivers (h : Carriage o R) (k : Nat) (buf : Buffer) (r : Radio) (s : σ) :
    List.Forall₂ R r.interfaces (r.deliver o k buf s).1.interfaces := by
  unfold deliver
  dsimp only
  split <;> exact counts h r k _

theorem relaysThrough (h : Carriage o R) (k : Nat) (buf : Buffer) (r : Radio) (s : σ) :
    List.Forall₂ R r.interfaces (r.relayThrough o k buf s).1.interfaces := by
  unfold relayThrough
  split
  · exact List.forall₂_same.2 fun i _ => h.refl i
  · next i at_ => exact forall₂_set h.refl at_ (h.relay i s buf)

theorem relays (h : Carriage o R) (k : Nat) (buf : Buffer) (scope : Scope) (r : Radio) (s : σ) :
    List.Forall₂ R r.interfaces (r.relay o k buf scope s).1.interfaces := by
  unfold relay
  split
  · exact relaysThrough h k buf r s
  · split
    · exact relaysThrough h _ buf r s
    · exact counts h r k _

/-- Steps one after the other. -/
theorem forall₂_foldl {α : Type} (h : Carriage o R) {f : Radio × σ → α → Radio × σ}
    (step : ∀ st a, List.Forall₂ R st.1.interfaces (f st a).1.interfaces) (as : List α)
    (st : Radio × σ) : List.Forall₂ R st.1.interfaces (as.foldl f st).1.interfaces := by
  induction as generalizing st with
  | nil => exact List.forall₂_same.2 fun i _ => h.refl i
  | cons a as ih => exact forall₂_trans (R := R) h.trans (step st a) (ih (f st a))

theorem dispatchesCopy (h : Carriage o R) (k : Nat) (copy : Duplicate) (r : Radio) (s : σ) :
    List.Forall₂ R r.interfaces (r.dispatchCopy o k copy s).1.interfaces := by
  cases copy with
  | retransmit buf scope =>
    exact forall₂_trans (R := R) h.trans (counts h r k _) (relays h k buf scope _ s)
  | monitor buf => exact counts h r k _

theorem dispatches (h : Carriage o R) (k : Nat) (bss : UInt8) (outcome : Outcome) (r : Radio)
    (s : σ) : List.Forall₂ R r.interfaces (r.dispatch o k bss outcome s).1.interfaces := by
  cases outcome with
  | deliver buf => exact delivers h k buf r s
  | forward buf scope =>
    exact forall₂_trans (R := R) h.trans (counts h r k _) (relays h k buf scope _ s)
  | duplicate buf copies =>
    exact forall₂_trans (R := R) h.trans
      (forall₂_foldl h (fun st copy => dispatchesCopy h k copy st.1 st.2) copies (r, s))
      (delivers h k buf _ _)
  | event e =>
    cases e with
    | monitor buf => exact forall₂_trans (R := R) h.trans (counts h r k _) (counts h _ k _)
    | debug text => exact counts h r k _
    | management frame => exact counts h r k _
  | drop reason => exact counts h r k _

theorem dispatchesAll (h : Carriage o R) (k : Nat) (bss : UInt8) (outcomes : List Outcome)
    (r : Radio) (s : σ) :
    List.Forall₂ R r.interfaces (r.dispatchAll o k bss outcomes s).1.interfaces :=
  forall₂_foldl h (fun st outcome => dispatches h k bss outcome st.1 st.2) outcomes (r, s)

/-! ## Receiving -/

theorem receives (h : Work o R) (now : Instant) (r : Radio) (s : σ) (buf : Buffer) :
    List.Forall₂ R r.interfaces (r.receive o now s buf).2.1.interfaces := by
  unfold receive
  split
  · exact List.forall₂_same.2 fun i _ => h.refl i
  · next bss _ =>
    rcases r.require_eq bss with ⟨k, i, ok, -, at_, -⟩ | ⟨failed, -⟩
    · have received := h.receive (r.neighbors k) now i s buf
      rw [ok]
      exact forall₂_trans (R := R) h.trans (forall₂_set h.refl at_ received)
        (dispatchesAll h.carriage k bss _ (r.set k _) _)
    · rw [failed]
      exact List.forall₂_same.2 fun i _ => h.refl i

theorem receivesReordered (h : Work o R) (now : Instant) (r : Radio) (s : σ) (bss : UInt8)
    (buf : Buffer) :
    List.Forall₂ R r.interfaces (r.receiveReordered o now s bss buf).2.1.interfaces := by
  unfold receiveReordered
  rcases r.require_eq bss with ⟨k, i, ok, -, at_, -⟩ | ⟨failed, -⟩
  · have received := h.receiveReordered (r.neighbors k) now i s buf
    rw [ok]
    exact forall₂_trans (R := R) h.trans (forall₂_set h.refl at_ received)
      (dispatchesAll h.carriage k bss _ (r.set k _) _)
  · rw [failed]
    exact List.forall₂_same.2 fun i _ => h.refl i

/-- What holds of all that is done to an interface holds of each interface over any operation. -/
theorem Op.forall₂_apply (h : Work o R) (op : Op) (st : Radio × σ) :
    List.Forall₂ R st.1.interfaces (op.apply o st).1.interfaces := by
  obtain ⟨r, s⟩ := st
  cases op with
  | receive now buf => exact receives h now r s buf
  | receiveReordered now bss buf => exact receivesReordered h now r s bss buf
  | send bss buf hints => exact sends h.toUpkeep r s bss buf hints
  | service rounds => exact serves h.toUpkeep rounds r s
  | deliveryComplete bss =>
    show List.Forall₂ R r.interfaces ((r.deliveryComplete bss).toOption.getD r).interfaces
    unfold Radio.deliveryComplete
    cases r.require bss with
    | error e => exact List.forall₂_same.2 fun i _ => h.refl i
    | ok found => exact counts h.carriage r _ _
  | expire now => exact expires h.toUpkeep now r
  | flush => exact flushes h.toUpkeep r s

end Radio

end Airlink
