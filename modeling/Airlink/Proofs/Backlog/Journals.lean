import Airlink.Backlog.Session

/-!
# Journals do not matter

What is written down of a session has no part in it: with any two journals the same steps give the
same answers and leave the same queue.
-/

namespace Airlink.Backlog

/-! ## Callbacks that differ in what they keep -/

/-- The same answer and the same queue, whatever else was kept. -/
def Agree {α σ τ : Type} (x : α × Backlog × σ) (y : α × Backlog × τ) : Prop :=
  x.1 = y.1 ∧ x.2.1 = y.2.1

/-- Callbacks that do the same to the queue, whatever they keep. -/
structure SameCalls {σ τ : Type} (cb : Callbacks σ) (cb' : Callbacks τ) : Prop where
  submit : ∀ buf q s t, Agree (cb.submit buf q s) (cb'.submit buf q t)
  complete : ∀ buf status q s t, (cb.complete buf status q s).1 = (cb'.complete buf status q t).1

variable {σ τ : Type} {cb : Callbacks σ} {cb' : Callbacks τ}

theorem SameCalls.finish (h : SameCalls cb cb') (answer : Submission) (q : Backlog) (s : σ)
    (t : τ) : Agree (finish cb answer q s) (Backlog.finish cb' answer q t) := by
  cases answer with
  | success buf => exact ⟨rfl, h.complete buf .success q s t⟩
  | failure buf reason => exact ⟨rfl, h.complete buf (.failure reason) q s t⟩
  | busy buf => exact ⟨rfl, rfl⟩

/-- The rest of a drain step, once the frame in front has been submitted. -/
theorem SameCalls.finishStep (h : SameCalls cb cb') {x : Submission × Backlog × σ}
    {y : Submission × Backlog × τ} (submitted : Agree x y) :
    Agree
      (let (step, q, s) := Backlog.finish cb x.1 x.2.1 x.2.2
       (step, { q with draining := false }, s))
      (let (step, q, s) := Backlog.finish cb' y.1 y.2.1 y.2.2
       (step, { q with draining := false }, s)) := by
  obtain ⟨a, q, s⟩ := x
  obtain ⟨b, q', t⟩ := y
  obtain ⟨rfl, rfl⟩ : a = b ∧ q = q' := submitted
  obtain ⟨step, queue⟩ := h.finish a q s t
  exact ⟨step, congrArg (fun q : Backlog => { q with draining := false }) queue⟩

theorem SameCalls.drainOne (h : SameCalls cb cb') (q : Backlog) (s : σ) (t : τ) :
    Agree (drainOne cb q s) (Backlog.drainOne cb' q t) := by
  unfold Backlog.drainOne popFront
  by_cases hd : q.draining = true
  · rw [if_pos hd, if_pos hd]
    exact ⟨rfl, rfl⟩
  · rw [if_neg hd, if_neg hd]
    cases q.frames with
    | nil => exact ⟨rfl, rfl⟩
    | cons buf rest => exact h.finishStep (h.submit buf _ s t)

theorem SameCalls.drainAll (h : SameCalls cb cb') (fuel : Nat) (q : Backlog) (s : σ) (t : τ) :
    Agree (drainAll cb fuel q s) (Backlog.drainAll cb' fuel q t) := by
  induction fuel generalizing q s t with
  | zero => exact ⟨rfl, rfl⟩
  | succ fuel ih =>
    have first := h.drainOne q s t
    unfold Backlog.drainAll
    generalize Backlog.drainOne cb q s = x at first ⊢
    generalize Backlog.drainOne cb' q t = y at first ⊢
    obtain ⟨step, q₁, s₁⟩ := x
    obtain ⟨step', q₂, t₁⟩ := y
    obtain ⟨rfl, rfl⟩ : step = step' ∧ q₁ = q₂ := first
    cases step with
    | retired =>
      obtain ⟨count, queue⟩ := ih q₁ s₁ t₁
      exact ⟨congrArg (· + 1) count, queue⟩
    | empty => exact ⟨rfl, rfl⟩
    | busy => exact ⟨rfl, rfl⟩

/-! ## Sessions -/

variable {ρ κ ρ' κ' : Type} (j : Journal ρ κ) (j' : Journal ρ' κ')

theorem idle_same : SameCalls (idle j) (idle j') :=
  ⟨fun _ _ _ _ => ⟨rfl, rfl⟩, fun _ _ _ _ _ => rfl⟩

mutual

theorem takeStep_same (s : Step) (q : Backlog) : (takeStep j s q).2 = (takeStep j' s q).2 := by
  cases s with
  | enqueue buf => rfl
  | pending => rfl
  | clear => rfl
  | drainOne vs => exact (drainHead_same vs q).2
  | tryDrain vs => exact (drainVisits_same vs q [] []).2

/-- The queue at the end does not depend on the journal. -/
theorem takeSteps_same (ss : List Step) (q : Backlog) :
    (takeSteps j ss q).2 = (takeSteps j' ss q).2 := by
  match ss with
  | [] => rfl
  | s :: ss =>
    simp only [takeSteps]
    rw [takeStep_same s q]
    exact takeSteps_same ss _

theorem visitCallbacks_same (v : Visit) :
    SameCalls (visitCallbacks j v) (visitCallbacks j' v) := by
  match v with
  | .mk reply inSubmit inComplete =>
    refine ⟨?_, ?_⟩
    · intro buf q s t
      exact ⟨rfl, takeSteps_same inSubmit q⟩
    · intro buf status q s t
      exact takeSteps_same inComplete q

theorem drainHead_same (vs : List Visit) (q : Backlog) :
    Agree (drainHead j vs q) (drainHead j' vs q) := by
  match vs with
  | [] => exact (idle_same j j').drainOne q [] []
  | v :: _ => exact (visitCallbacks_same v).drainOne q [] []

theorem drainVisits_same (vs : List Visit) (q : Backlog) (l : List κ) (l' : List κ') :
    Agree (drainVisits j vs q l) (drainVisits j' vs q l') := by
  match vs with
  | [] => exact (idle_same j j').drainAll (q.pending + 1) q l l'
  | v :: vs =>
    have first := (visitCallbacks_same v).drainOne q l l'
    unfold drainVisits
    generalize drainOne (visitCallbacks j v) q l = x at first ⊢
    generalize drainOne (visitCallbacks j' v) q l' = y at first ⊢
    obtain ⟨step, q₁, s₁⟩ := x
    obtain ⟨step', q₂, t₁⟩ := y
    obtain ⟨rfl, rfl⟩ : step = step' ∧ q₁ = q₂ := first
    cases step with
    | retired =>
      obtain ⟨count, queue⟩ := drainVisits_same vs q₁ s₁ t₁
      exact ⟨congrArg (· + 1) count, queue⟩
    | empty => exact ⟨rfl, rfl⟩
    | busy => exact ⟨rfl, rfl⟩

end

end Airlink.Backlog
