import Airlink.Proofs.Receive.Changes
import Airlink.Radio
import Mathlib.Data.List.Nodup

/-!
# Radios that arise

A radio starts without interfaces. From then on interfaces are added, each with a number that is
free; the radio receives, sends, serves its backlogs and forgets idle stations, whoever stands
outside at each step; and the owner works on single interfaces. `Radio.Arises` holds of the radios
reached so.

What makes an interface the one it is (`Interface.identity`) no operation changes, and so the
numbers of the interfaces stay different from each other (`Arises.distinct`): a number names at most
one interface (`Arises.find?_eq_some_iff`).
-/

namespace Airlink

variable {σ : Type}

/-! ## Interfaces keep their identity -/

/-- What stays the same about an interface. -/
structure Interface.Identity where
  name : String
  bssNum : UInt8
  settings : Ingress.Settings
  blockAck : Bool
  egress : Egress
  deriving DecidableEq, Repr

namespace Interface

/-- What makes an interface the one it is. -/
def identity (i : Interface) : Identity := ⟨i.name, i.bssNum, i.settings, i.blockAck, i.egress⟩

@[simp] theorem bssNum_identity (i : Interface) : i.identity.bssNum = i.bssNum := rfl

@[simp] theorem identity_count (i : Interface) (f : Counters → Counters) :
    (i.count f).identity = i.identity := rfl

@[simp] theorem identity_receive (o : Outside σ) (near : Neighbors) (now : Instant) (i : Interface)
    (s : σ) (buf : Buffer) : (i.receive o near now s buf).2.1.identity = i.identity := by
  obtain ⟨stations, counters, same, -⟩ := i.receive_changes o near now s buf
  rw [same]
  rfl

@[simp] theorem identity_receiveReordered (o : Outside σ) (near : Neighbors) (now : Instant)
    (i : Interface) (s : σ) (buf : Buffer) :
    (i.receiveReordered o near now s buf).2.1.identity = i.identity := by
  obtain ⟨stations, same⟩ := i.receiveReordered_changes o near now s buf
  rw [same]
  rfl

@[simp] theorem identity_account (i : Interface) (answer : Submission) :
    (i.account answer).identity = i.identity := by
  unfold account
  cases answer with
  | success buf =>
    dsimp only
    split <;> rfl
  | busy buf => rfl
  | failure buf reason => rfl

@[simp] theorem identity_submit (o : Outside σ) (i : Interface) (s : σ) (framed : Buffer) :
    (i.submit o s framed).1.identity = i.identity := by
  unfold submit
  split
  · dsimp only
    rw [← i.identity_account (o.submit framed s).1]
    cases (o.submit framed s).1 <;> rfl
  · rfl

@[simp] theorem identity_send (o : Outside σ) (i : Interface) (s : σ) (buf : Buffer)
    (hints : TransmitHints) : (i.send o s buf hints).2.1.identity = i.identity := by
  unfold send
  dsimp only
  split
  · split <;> rfl
  · rw [identity_submit]
    split <;> rfl

@[simp] theorem identity_relay (o : Outside σ) (i : Interface) (s : σ) (buf : Buffer) :
    (i.relay o s buf).1.identity = i.identity := by
  unfold relay
  split
  · rfl
  · exact identity_submit o i s _

@[simp] theorem identity_drainOne (o : Outside σ) (i : Interface) (s : σ) :
    (i.drainOne o s).2.1.identity = i.identity := by
  unfold drainOne Backlog.drainOne Backlog.popFront
  by_cases draining : i.backlog.draining = true
  · rw [if_pos draining]
  · rw [if_neg draining]
    cases i.backlog.frames with
    | nil => rfl
    | cons buf rest =>
      refine Eq.trans ?_ (i.identity_account (o.submit buf s).1)
      simp only [List.head?_cons, drainCallbacks]
      cases (o.submit buf s).1 <;> rfl

@[simp] theorem identity_flush (o : Outside σ) (i : Interface) (s : σ) :
    (i.flush o s).2.1.identity = i.identity := rfl

end Interface

namespace Radio

/-! ## Radios keep the identities -/

/-- What makes the interfaces of a radio the ones they are, in order. -/
def identities (r : Radio) : List Interface.Identity := r.interfaces.map Interface.identity

/-- The numbers of the interfaces, in order. -/
def numbers (r : Radio) : List UInt8 := r.identities.map (·.bssNum)

theorem numbers_eq (r : Radio) : r.numbers = r.interfaces.map (·.bssNum) :=
  List.map_map

theorem identities_set {r : Radio} {k : Nat} {i j : Interface} (at_ : r.interfaces[k]? = some i)
    (same : j.identity = i.identity) : (r.set k j).identities = r.identities := by
  unfold identities set
  refine List.ext_getElem? fun n => ?_
  simp only [List.getElem?_map, List.getElem?_set]
  split
  · next here =>
    subst here
    obtain ⟨inside, -⟩ := List.getElem?_eq_some_iff.1 at_
    rw [if_pos inside, at_, Option.map_some, Option.map_some, same]
  · rfl

@[simp] theorem identities_count (r : Radio) (k : Nat) (f : Counters → Counters) :
    (r.count k f).identities = r.identities := by
  unfold identities count
  refine List.ext_getElem? fun n => ?_
  simp only [List.getElem?_map, List.getElem?_modify]
  cases r.interfaces[n]? with
  | none => rfl
  | some i =>
    dsimp only [Option.map_eq_map, Option.map_some]
    split <;> rfl

@[simp] theorem identities_deliver (o : Outside σ) (k : Nat) (buf : Buffer) (r : Radio) (s : σ) :
    (r.deliver o k buf s).1.identities = r.identities := by
  unfold deliver
  dsimp only
  split <;> exact identities_count r k _

@[simp] theorem identities_relayThrough (o : Outside σ) (k : Nat) (buf : Buffer) (r : Radio)
    (s : σ) : (r.relayThrough o k buf s).1.identities = r.identities := by
  unfold relayThrough
  split
  · rfl
  · next i at_ => exact identities_set at_ (i.identity_relay o s buf)

@[simp] theorem identities_relay (o : Outside σ) (k : Nat) (buf : Buffer) (scope : Scope)
    (r : Radio) (s : σ) : (r.relay o k buf scope s).1.identities = r.identities := by
  unfold relay
  split
  · exact identities_relayThrough o k buf r s
  · split
    · exact identities_relayThrough o _ buf r s
    · exact identities_count r k _

/-- Steps that keep the identities, one after the other. -/
theorem identities_foldl {α : Type} {f : Radio × σ → α → Radio × σ}
    (step : ∀ st a, (f st a).1.identities = st.1.identities) (as : List α) (st : Radio × σ) :
    (as.foldl f st).1.identities = st.1.identities := by
  induction as generalizing st with
  | nil => rfl
  | cons a as ih => exact (ih (f st a)).trans (step st a)

@[simp] theorem identities_dispatchCopy (o : Outside σ) (k : Nat) (copy : Duplicate) (r : Radio)
    (s : σ) : (r.dispatchCopy o k copy s).1.identities = r.identities := by
  cases copy with
  | retransmit buf scope => simp [dispatchCopy]
  | monitor buf => exact identities_count r k _

@[simp] theorem identities_dispatch (o : Outside σ) (k : Nat) (bss : UInt8) (outcome : Outcome)
    (r : Radio) (s : σ) : (r.dispatch o k bss outcome s).1.identities = r.identities := by
  cases outcome with
  | deliver buf => exact identities_deliver o k buf r s
  | forward buf scope => simp [dispatch]
  | duplicate buf copies =>
    exact (identities_deliver o k buf _ _).trans
      (identities_foldl (fun st copy => identities_dispatchCopy o k copy st.1 st.2) copies (r, s))
  | event e => cases e <;> simp [dispatch, dispatchEvent]
  | drop reason => exact identities_count r k _

@[simp] theorem identities_dispatchAll (o : Outside σ) (k : Nat) (bss : UInt8)
    (outcomes : List Outcome) (r : Radio) (s : σ) :
    (r.dispatchAll o k bss outcomes s).1.identities = r.identities :=
  identities_foldl (fun st outcome => identities_dispatch o k bss outcome st.1 st.2) outcomes (r, s)

/-! ## Naming an interface -/

/-- Where a number is found stands the first interface with that number. -/
theorem find?_eq_some {r : Radio} {bss : UInt8} {k : Nat} (h : r.find? bss = some k) :
    ∃ i, r.interfaces[k]? = some i ∧ i.bssNum = bss := by
  obtain ⟨inside, isBss, -⟩ := List.findIdx?_eq_some_iff_getElem.1 h
  exact ⟨_, List.getElem?_eq_getElem inside, by simpa using isBss⟩

/-- A number of an interface is found. -/
theorem isSome_find?_iff {r : Radio} {bss : UInt8} : (r.find? bss).isSome ↔ bss ∈ r.numbers := by
  rw [find?, List.findIdx?_isSome, numbers_eq]
  simp

/-- An interface that is asked for is found with its position, or there is none with the number. -/
theorem require_eq (r : Radio) (bss : UInt8) :
    (∃ k i, r.require bss = .ok (k, i) ∧ r.find? bss = some k ∧ r.interfaces[k]? = some i ∧
        i.bssNum = bss) ∨
      (r.require bss = .error (.noSuchInterface bss) ∧ r.find? bss = none) := by
  unfold require
  cases found : r.find? bss with
  | none => exact .inr ⟨rfl, rfl⟩
  | some k =>
    obtain ⟨i, at_, isBss⟩ := find?_eq_some found
    exact .inl ⟨k, i, by simp only [at_], rfl, at_, isBss⟩

theorem find?_eq_numbers (r : Radio) (bss : UInt8) :
    r.find? bss = r.numbers.findIdx? (· == bss) := by
  rw [numbers_eq, List.findIdx?_map]
  rfl

/-- Two numbers of different interfaces are found at different places. -/
theorem find?_inj {r : Radio} {a b : UInt8} {k : Nat} (h : r.find? a = some k)
    (h' : r.find? b = some k) : a = b := by
  obtain ⟨i, at_, rfl⟩ := find?_eq_some h
  obtain ⟨j, at', rfl⟩ := find?_eq_some h'
  rw [Option.some_inj.1 (at_.symm.trans at')]

theorem find?_of_require {r : Radio} {bss : UInt8} {k : Nat} {i : Interface}
    (h : r.require bss = .ok (k, i)) : r.find? bss = some k := by
  rcases r.require_eq bss with ⟨l, j, ok, found, -, -⟩ | ⟨failed, -⟩
  · cases ok.symm.trans h
    exact found
  · cases failed.symm.trans h

/-! ## Operations -/

/-- An operation of a radio. -/
inductive Op where
  | receive (now : Instant) (buf : Buffer)
  | receiveReordered (now : Instant) (bss : UInt8) (buf : Buffer)
  | send (bss : UInt8) (buf : Buffer) (hints : TransmitHints)
  | service (rounds : Nat)
  | deliveryComplete (bss : UInt8)
  | expire (now : Instant)
  | flush

/-- The radio and the parties outside after an operation. -/
def Op.apply (o : Outside σ) : Op → Radio × σ → Radio × σ
  | .receive now buf, (r, s) => (r.receive o now s buf).2
  | .receiveReordered now bss buf, (r, s) => (r.receiveReordered o now s bss buf).2
  | .send bss buf hints, (r, s) => (r.send o s bss buf hints).2
  | .service rounds, (r, s) => (r.service o rounds s).2
  | .deliveryComplete bss, (r, s) => ((r.deliveryComplete bss).toOption.getD r, s)
  | .expire now, (r, s) => ((r.expire now).2, s)
  | .flush, (r, s) => (r.flush o s).2

theorem identities_receive (o : Outside σ) (now : Instant) (r : Radio) (s : σ) (buf : Buffer) :
    (r.receive o now s buf).2.1.identities = r.identities := by
  unfold receive
  split
  · rfl
  · next bss _ =>
    rcases r.require_eq bss with ⟨k, i, ok, -, at_, -⟩ | ⟨failed, -⟩
    · rw [ok]
      dsimp only
      rw [identities_dispatchAll]
      exact identities_set at_ (i.identity_receive o _ now s buf)
    · rw [failed]
      rfl

theorem identities_receiveReordered (o : Outside σ) (now : Instant) (r : Radio) (s : σ)
    (bss : UInt8) (buf : Buffer) :
    (r.receiveReordered o now s bss buf).2.1.identities = r.identities := by
  unfold receiveReordered
  rcases r.require_eq bss with ⟨k, i, ok, -, at_, -⟩ | ⟨failed, -⟩
  · rw [ok]
    dsimp only
    rw [identities_dispatchAll]
    exact identities_set at_ (i.identity_receiveReordered o _ now s buf)
  · rw [failed]

theorem identities_send (o : Outside σ) (r : Radio) (s : σ) (bss : UInt8) (buf : Buffer)
    (hints : TransmitHints) : (r.send o s bss buf hints).2.1.identities = r.identities := by
  unfold send
  rcases r.require_eq bss with ⟨k, i, ok, -, at_, -⟩ | ⟨failed, -⟩
  · rw [ok]
    exact identities_set at_ (i.identity_send o s buf hints)
  · rw [failed]

theorem identities_serviceRound (o : Outside σ) (turns : List Turn) (s : σ) :
    (serviceRound o turns s).2.1.map (·.1.identity) = turns.map (·.1.identity) := by
  induction turns generalizing s with
  | nil => rfl
  | cons turn turns ih =>
    obtain ⟨i, out⟩ := turn
    cases out with
    | true => exact congrArg (i.identity :: ·) (ih s)
    | false =>
      refine (congrArg (_ :: ·) (ih _)).trans ?_
      exact congrArg (· :: _) (i.identity_drainOne o s)

theorem identities_serviceRounds (o : Outside σ) (rounds : Nat) (turns : List Turn) (s : σ) :
    (serviceRounds o rounds turns s).2.1.map (·.1.identity) = turns.map (·.1.identity) := by
  induction rounds generalizing turns s with
  | zero => rfl
  | succ rounds ih =>
    unfold serviceRounds
    dsimp only
    split
    · exact identities_serviceRound o turns s
    · exact (ih _ _).trans (identities_serviceRound o turns s)

theorem identities_service (o : Outside σ) (rounds : Nat) (r : Radio) (s : σ) :
    (r.service o rounds s).2.1.identities = r.identities := by
  have served := identities_serviceRounds o rounds (r.interfaces.map (·, false)) s
  rw [List.map_map] at served
  exact List.map_map.trans served

theorem identities_flushAll (o : Outside σ) (interfaces : List Interface) (s : σ) :
    (flushAll o interfaces s).2.1.map Interface.identity = interfaces.map Interface.identity := by
  induction interfaces generalizing s with
  | nil => rfl
  | cons i interfaces ih => exact congrArg (i.identity :: ·) (ih _)

/-- No operation changes what makes the interfaces the ones they are. -/
theorem Op.identities_apply (o : Outside σ) (op : Op) (st : Radio × σ) :
    (op.apply o st).1.identities = st.1.identities := by
  obtain ⟨r, s⟩ := st
  cases op with
  | receive now buf => exact identities_receive o now r s buf
  | receiveReordered now bss buf => exact identities_receiveReordered o now r s bss buf
  | send bss buf hints => exact identities_send o r s bss buf hints
  | service rounds => exact identities_service o rounds r s
  | deliveryComplete bss =>
    show ((r.deliveryComplete bss).toOption.getD r).identities = r.identities
    unfold Radio.deliveryComplete
    cases r.require bss with
    | error e => rfl
    | ok found => exact identities_count r _ _
  | expire now => exact List.map_map.trans List.map_map
  | flush => exact identities_flushAll o r.interfaces s

/-! ## The radios -/

/-- The radios that can come to be. -/
inductive Arises : Radio → Prop where
  | empty : Arises .empty
  | add {r r' : Radio} {i : Interface} (h : Arises r) (added : r.addInterface i = .ok r') :
      Arises r'
  | step {σ : Type} (o : Outside σ) (op : Op) (s : σ) {r : Radio} (h : Arises r) :
      Arises (op.apply o (r, s)).1
  /-- The owner works on one interface. -/
  | tend {r : Radio} {k : Nat} {i j : Interface} (h : Arises r) (at_ : r.interfaces[k]? = some i)
      (same : j.identity = i.identity) : Arises (r.set k j)

/-- The numbers of the interfaces are different from each other. -/
theorem Arises.distinct {r : Radio} (h : r.Arises) : r.numbers.Nodup := by
  induction h with
  | empty => exact List.nodup_nil
  | @add r r' i h added ih =>
    unfold addInterface at added
    split at added
    · cases added
    · next free =>
      cases added
      have unused : i.bssNum ∉ r.numbers := fun used => free (isSome_find?_iff.2 used)
      rw [numbers_eq] at ih unused ⊢
      rw [List.map_append]
      exact List.nodup_append.2 ⟨ih, List.nodup_singleton _, fun a used b isNew => by
        obtain rfl := List.mem_singleton.1 isNew
        rintro rfl
        exact unused used⟩
  | step o op s h ih =>
    unfold numbers at ih ⊢
    rwa [Op.identities_apply o op]
  | tend h at_ same ih =>
    unfold numbers at ih ⊢
    rwa [identities_set at_ same]

/-- A number names the one interface that has it. -/
theorem Arises.find?_eq_some_iff {r : Radio} (h : r.Arises) {bss : UInt8} {k : Nat} :
    r.find? bss = some k ↔ ∃ i, r.interfaces[k]? = some i ∧ i.bssNum = bss := by
  refine ⟨find?_eq_some, ?_⟩
  rintro ⟨i, at_, rfl⟩
  have used : i.bssNum ∈ r.numbers := by
    rw [numbers_eq]
    exact List.mem_map_of_mem (List.mem_of_getElem? at_)
  obtain ⟨n, found⟩ := Option.isSome_iff_exists.1 (isSome_find?_iff.2 used)
  obtain ⟨j, atFirst, same⟩ := find?_eq_some found
  have number (m : Nat) (l : Interface) (h : r.interfaces[m]? = some l) :
      r.numbers[m]? = some l.bssNum := by
    rw [numbers_eq, List.getElem?_map, h]
    rfl
  have inside : n < r.numbers.length := (List.getElem?_eq_some_iff.1 (number n j atFirst)).1
  rw [found, (List.getElem?_inj inside h.distinct).1]
  rw [number n j atFirst, number k i at_, same]

end Radio

end Airlink
