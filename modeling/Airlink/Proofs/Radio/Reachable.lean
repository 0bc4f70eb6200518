import Airlink.Proofs.Radio.Starting
import Airlink.Proofs.Radio.Steps
import Airlink.Proofs.Transmit.Relay

/-!
# Radios that can be reached

A radio is reached by adding interfaces that were made from settings, by its operations, and by what
its owner does to an interface (`Radio.Reachable`). Such a radio arises in the sense of
`Radio.Arises`. Its interfaces frame what they send by their roles and numbers (`Reachable.egress`),
and the numbers noted of their backlogs are the numbers of frames that wait (`Reachable.counted`),
whoever stands outside: not even a transport that gives back other buffers than it is handed changes
that.
-/

namespace Airlink

variable {σ : Type}

namespace Interface

/-- Whatever is done to an interface, the number noted stays that of the frames. -/
theorem work_counted (o : Outside σ) : Work o fun i j => i.backlog.Counted → j.backlog.Counted where
  refl _ := id
  trans first next h := next (first h)
  stations _ _ := id
  send _ s buf hints h := counted_send o h s buf hints
  drainOne _ s h := counted_drainOne o h s
  flush _ _ _ := Backlog.counted_setFrames _ _
  count _ _ := id
  relay _ s buf h := counted_relay o h s buf

end Interface

namespace Radio

/-! ## The radios -/

/-- The radios that can be reached. -/
inductive Reachable : Radio → Prop where
  | empty : Reachable .empty
  | add {r r' : Radio} {c : InterfaceConfig} {i : Interface} (h : Reachable r)
      (made : Interface.ofConfig c = .ok i) (added : r.addInterface i = .ok r') : Reachable r'
  | step {σ : Type} (o : Outside σ) (op : Op) (s : σ) {r : Radio} (h : Reachable r) :
      Reachable (op.apply o (r, s)).1
  /-- The owner works on one interface. -/
  | tend {r : Radio} {k : Nat} {i j : Interface} (h : Reachable r)
      (at_ : r.interfaces[k]? = some i) (same : j.identity = i.identity)
      (counted : j.backlog.Counted) : Reachable (r.set k j)

namespace Reachable

variable {r : Radio}

theorem arises (h : r.Reachable) : r.Arises := by
  induction h with
  | empty => exact .empty
  | add _ _ added ih => exact .add ih added
  | step o op s _ ih => exact .step o op s ih
  | tend _ at_ same _ ih => exact .tend ih at_ same

/-- The interfaces of a radio that another was added to. -/
theorem interfaces_of_addInterface {r' : Radio} {i : Interface}
    (added : r.addInterface i = .ok r') : r'.interfaces = r.interfaces ++ [i] := by
  unfold addInterface at added
  split at added
  · cases added
  · cases added
    rfl

/-- An interface frames what it sends by its role and number. -/
theorem egress (h : r.Reachable) :
    ∀ d ∈ r.identities, d.egress = ⟨d.settings.role.bssType, d.bssNum⟩ := by
  induction h with
  | empty => exact List.forall_mem_nil _
  | @add r r' c i _ made added ih =>
    intro d mem
    rw [identities, interfaces_of_addInterface added, List.map_append] at mem
    rcases List.mem_append.1 mem with mem | mem
    · exact ih d mem
    · obtain rfl := List.mem_singleton.1 mem
      have from_ := Interface.madeFrom_of_ofConfig made
      simp only [Interface.identity, from_.egress, from_.role, from_.bssNum]
  | @step _ o op s r _ ih =>
    rw [op.identities_apply o (r, s)]
    exact ih
  | tend _ at_ same _ ih =>
    rw [identities_set at_ same]
    exact ih

/-- The number noted of a backlog is that of the frames that wait. -/
theorem counted (h : r.Reachable) : ∀ i ∈ r.interfaces, i.backlog.Counted := by
  induction h with
  | empty => exact List.forall_mem_nil _
  | @add r r' c i _ made added ih =>
    intro j mem
    rw [interfaces_of_addInterface added] at mem
    rcases List.mem_append.1 mem with mem | mem
    · exact ih j mem
    · obtain rfl := List.mem_singleton.1 mem
      rw [(Interface.madeFrom_of_ofConfig made).backlog]
      rfl
  | @step _ o op s r _ ih =>
    exact forall_of_forall₂ (op.forall₂_apply (Interface.work_counted o) (r, s)) ih
  | @tend r k i j _ at_ _ counted ih =>
    intro j' mem
    rcases List.mem_or_eq_of_mem_set mem with mem | rfl
    · exact ih j' mem
    · exact counted

end Reachable

end Radio

end Airlink
