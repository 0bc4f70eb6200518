import Airlink.Proofs.Backlog.Moments

/-!
# Sessions are paths

The moments of every session follow on each other. Inside a callback the queue is being drained, so
that operations there put frames in, clear the queue or are refused, and never start a callback of
their own: this needs no induction on how deep they are nested. Outside, a drain step goes through
one submission and at most one completion.
-/

namespace Airlink.Backlog

variable {h : History} {w : List Buffer}

/-! ## Inside a callback -/

/-- A drain step on a queue that is being drained is refused. -/
theorem drainOne_refused {σ : Type} (cb : Callbacks σ) (s : σ) (w : List Buffer) :
    drainOne cb (holding w true) s = (.busy, holding w true, s) := rfl

theorem drainHead_refused {ρ κ : Type} (j : Journal ρ κ) (visits : List Visit) (w : List Buffer) :
    drainHead j visits (holding w true) = (.busy, holding w true, []) := by
  cases visits with
  | nil => exact drainOne_refused (idle j) [] w
  | cons v vs => exact drainOne_refused (visitCallbacks j v) [] w

theorem drainVisits_refused {ρ κ : Type} (j : Journal ρ κ) (visits : List Visit)
    (w : List Buffer) : drainVisits j visits (holding w true) [] = (0, holding w true, []) := by
  cases visits with
  | nil => rw [drainVisits, tryDrain, drainAll, drainOne_refused]
  | cons v vs => rw [drainVisits, drainOne_refused]

/-- Inside a callback an operation does not touch the frame that is out. -/
theorem takeStep_inside (s : Step) (inside : h.depth ≠ 0) :
    ∃ h' w', (takeStep moments s (holding w true)).2 = holding w' true ∧
      Path h w (takeStep moments s (holding w true)).1 h' w' ∧
      h'.depth = h.depth ∧ h'.flight = h.flight := by
  cases s with
  | enqueue buf =>
    exact ⟨_, w ++ [buf], rfl, .single (.enqueue buf true), rfl, rfl⟩
  | pending => exact ⟨_, w, rfl, .single (.pending true), rfl, rfl⟩
  | clear => exact ⟨_, [], rfl, .single (.clear true), rfl, rfl⟩
  | drainOne visits =>
    have e : h.note (.did (.drainOne visits) (.step .busy)) = h := if_neg inside
    simp only [takeStep, drainHead_refused]
    exact ⟨_, w, rfl, .single (.refuseOne visits true inside), by rw [e], by rw [e]⟩
  | tryDrain visits =>
    have e : h.note (.did (.tryDrain visits) (.count 0)) = h := if_neg inside
    simp only [takeStep, drainVisits_refused]
    exact ⟨_, w, rfl, .single (.refuseAll visits true inside), by rw [e], by rw [e]⟩

theorem takeSteps_inside (ss : List Step) (inside : h.depth ≠ 0) :
    ∃ h' w', (takeSteps moments ss (holding w true)).2 = holding w' true ∧
      Path h w (takeSteps moments ss (holding w true)).1.flatten h' w' ∧
      h'.depth = h.depth ∧ h'.flight = h.flight := by
  induction ss generalizing h w with
  | nil => exact ⟨h, w, rfl, .nil h w, rfl, rfl⟩
  | cons s ss ih =>
    obtain ⟨h₁, w₁, e₁, p₁, d₁, f₁⟩ := takeStep_inside (w := w) s inside
    obtain ⟨h₂, w₂, e₂, p₂, d₂, f₂⟩ := ih (h := h₁) (w := w₁) (by rwa [d₁])
    simp only [takeSteps, e₁, List.flatten_cons]
    exact ⟨h₂, w₂, e₂, p₁.append p₂, d₂.trans d₁, f₂.trans f₁⟩

/-! ## A drain step outside of all callbacks -/

/-- The frame in front goes to the transport and comes back, whatever is done in between. -/
theorem submit_outside (buf : Buffer) (rest : List Buffer) (reply : Reply) (inSubmit : List Step)
    (outside : h.depth = 0) (alone : h.flight = []) :
    ∃ h' w', (takeSteps moments inSubmit (holding rest true)).2 = holding w' true ∧
      Path h (buf :: rest) (moments.submit buf reply
        (takeSteps moments inSubmit (holding rest true)).1 (holding rest true) (holding w' true))
        h' w' ∧ h'.depth = 0 ∧ h'.flight = [buf] := by
  have depth : (h.note (.submit buf)).depth = 1 := by simp only [History.note, outside]
  have flight : (h.note (.submit buf)).flight = [buf] := by
    simp only [History.note, alone, List.nil_append]
  obtain ⟨h₁, w₁, e, p, d, f⟩ :=
    takeSteps_inside (h := h.note (.submit buf)) (w := rest) inSubmit (by rw [depth]; decide)
  rw [depth] at d
  rw [flight] at f
  refine ⟨h₁.note (.answered buf reply), w₁, e, .cons (.submit rfl outside alone) ?_, ?_, f⟩
  · exact p.append (.single (.answered buf reply d f))
  · simp only [History.note, d]

/-- The frame that is out goes back to its owner, whatever is done in between. -/
theorem complete_outside (buf : Buffer) (status : TxStatus) (inComplete : List Step)
    (outside : h.depth = 0) (out : h.flight = [buf]) :
    ∃ h' w', (takeSteps moments inComplete (holding w true)).2 = holding w' true ∧
      Path h w (moments.complete buf status
        (takeSteps moments inComplete (holding w true)).1 (holding w true) (holding w' true))
        h' w' ∧ h'.depth = 0 ∧ h'.flight = [] := by
  have depth : (h.note (.complete buf status)).depth = 1 := by simp only [History.note, outside]
  have flight : (h.note (.complete buf status)).flight = [] := by
    simp only [History.note, out, List.erase_cons_head]
  obtain ⟨h₁, w₁, e, p, d, f⟩ :=
    takeSteps_inside (h := h.note (.complete buf status)) (w := w) inComplete
      (by rw [depth]; decide)
  rw [depth] at d
  rw [flight] at f
  refine ⟨h₁.note (.completed buf status), w₁, e, .cons (.complete buf status outside out) ?_,
    ?_, f⟩
  · exact p.append (.single (.completed buf status d f))
  · simp only [History.note, d]

/-- A drain step on frames none of which is out takes the one in front. -/
theorem drainOne_cons {σ : Type} (cb : Callbacks σ) (buf : Buffer) (rest : List Buffer) (s : σ) :
    drainOne cb (holding (buf :: rest) false) s =
      let (answer, q, s) := cb.submit buf (holding rest true) s
      let (step, q, s) := finish cb answer q s
      (step, { q with draining := false }, s) := rfl

/-- A drain step leaves nothing out but a frame that the transport was busy for, and that one is
back in front. -/
theorem drainOne_outside (v : Visit) (w : List Buffer) (log : List (List Moment))
    (outside : h.depth = 0) (alone : h.flight = []) :
    ∃ step ms h' w', drainOne (visitCallbacks moments v) (holding w false) log =
        (step, holding (h'.flight ++ w') false, log ++ ms) ∧
      Path h w ms.flatten h' w' ∧ h'.depth = 0 ∧ (step = .retired → h'.flight = []) := by
  cases w with
  | nil =>
    refine ⟨.empty, [], h, [], ?_, .nil h [], outside, fun _ => alone⟩
    simp only [alone, List.append_nil]
    rfl
  | cons buf rest =>
    obtain ⟨reply, inSubmit, inComplete⟩ := v
    obtain ⟨h₁, w₁, e₁, p₁, d₁, f₁⟩ :=
      submit_outside (h := h) buf rest reply inSubmit outside alone
    rw [drainOne_cons]
    simp only [visitCallbacks, callbacks, e₁]
    -- A frame that is retired goes through its completion, and one that is not goes back.
    cases reply with
    | ok =>
      obtain ⟨h₂, w₂, e₂, p₂, d₂, f₂⟩ :=
        complete_outside (w := w₁) buf .success inComplete d₁ f₁
      simp only [Reply.toSubmission, finish, e₂, List.append_assoc]
      refine ⟨.retired, _, h₂, w₂, by rw [f₂]; rfl, ?_, d₂, fun _ => f₂⟩
      simpa using p₁.append p₂
    | fail reason =>
      obtain ⟨h₂, w₂, e₂, p₂, d₂, f₂⟩ :=
        complete_outside (w := w₁) buf (.failure reason) inComplete d₁ f₁
      simp only [Reply.toSubmission, finish, e₂, List.append_assoc]
      refine ⟨.retired, _, h₂, w₂, by rw [f₂]; rfl, ?_, d₂, fun _ => f₂⟩
      simpa using p₁.append p₂
    | busy =>
      simp only [Reply.toSubmission, finish]
      refine ⟨.busy, _, h₁, w₁, by rw [f₁]; rfl, ?_, d₁, fun e => DrainStep.noConfusion e⟩
      simpa using p₁

/-! ## Drain steps in a row -/

theorem idle_eq {ρ κ : Type} (j : Journal ρ κ) : idle j = visitCallbacks j (.mk .ok [] []) := by
  simp only [idle, visitCallbacks, takeSteps]

/-- A series of drain steps outside of all callbacks follows a path, and a frame that was not
retired is back in front. -/
def Drains (series : Backlog → List (List Moment) → Nat × Backlog × List (List Moment)) : Prop :=
  ∀ (h : History) (w : List Buffer) (log : List (List Moment)), h.depth = 0 → h.flight = [] →
    ∃ n ms h' w', series (holding w false) log =
        (n, holding (h'.flight ++ w') false, log ++ ms) ∧
      Path h w ms.flatten h' w' ∧ h'.depth = 0

/-- A drain step, and a series behind it if it retired a frame. -/
theorem Drains.step (v : Visit)
    {series longer : Backlog → List (List Moment) → Nat × Backlog × List (List Moment)}
    (drains : Drains series)
    (eq : ∀ q log, longer q log =
      match drainOne (visitCallbacks moments v) q log with
      | (.retired, q, log) =>
        let (n, q, log) := series q log
        (n + 1, q, log)
      | (_, q, log) => (0, q, log)) :
    Drains longer := by
  intro h w log outside alone
  obtain ⟨step, ms, h₁, w₁, e, p, d, f⟩ := drainOne_outside v w log outside alone
  simp only [eq, e]
  cases step with
  | retired =>
    obtain ⟨n, ms', h₂, w₂, e', p', d'⟩ := drains h₁ w₁ (log ++ ms) d (f rfl)
    simp only [f rfl, List.nil_append, e', List.append_assoc]
    exact ⟨n + 1, ms ++ ms', h₂, w₂, rfl, by rw [List.flatten_append]; exact p.append p', d'⟩
  | empty => exact ⟨0, ms, h₁, w₁, rfl, p, d⟩
  | busy => exact ⟨0, ms, h₁, w₁, rfl, p, d⟩

theorem drainAll_drains (fuel : Nat) : Drains (drainAll (idle moments) fuel) := by
  induction fuel with
  | zero =>
    intro h w log outside alone
    exact ⟨0, [], h, w, by rw [alone, List.append_nil]; rfl, .nil h w, outside⟩
  | succ fuel ih =>
    refine ih.step (.mk .ok [] []) ?_
    intro q log
    rw [drainAll, ← idle_eq]
    obtain ⟨step, q', log'⟩ := drainOne (idle moments) q log
    cases step <;> rfl

theorem drainVisits_drains (vs : List Visit) : Drains (drainVisits moments vs) := by
  induction vs with
  | nil =>
    intro h w log outside alone
    exact drainAll_drains _ h w log outside alone
  | cons v vs ih =>
    refine ih.step v ?_
    intro q log
    rw [drainVisits]
    obtain ⟨step, q', log'⟩ := drainOne (visitCallbacks moments v) q log
    cases step <;> rfl

theorem drainHead_outside (visits : List Visit) (w : List Buffer) (outside : h.depth = 0)
    (alone : h.flight = []) :
    ∃ step ms h' w', drainHead moments visits (holding w false) =
        (step, holding (h'.flight ++ w') false, ms) ∧
      Path h w ms.flatten h' w' ∧ h'.depth = 0 := by
  cases visits with
  | nil =>
    obtain ⟨step, ms, h₁, w₁, e, p, d, -⟩ := drainOne_outside (.mk .ok [] []) w [] outside alone
    rw [← idle_eq] at e
    exact ⟨step, ms, h₁, w₁, e, p, d⟩
  | cons v vs =>
    obtain ⟨step, ms, h₁, w₁, e, p, d, -⟩ := drainOne_outside v w [] outside alone
    exact ⟨step, ms, h₁, w₁, e, p, d⟩

/-! ## Sessions -/

/-- An operation outside of all callbacks follows a path, and nothing is out at its end. -/
theorem takeStep_outside (s : Step) (w : List Buffer) (outside : h.depth = 0)
    (alone : h.flight = []) :
    ∃ h' w', (takeStep moments s (holding w false)).2 = holding w' false ∧
      Path h w (takeStep moments s (holding w false)).1 h' w' ∧ h'.depth = 0 ∧
      h'.flight = [] := by
  cases s with
  | enqueue buf => exact ⟨_, w ++ [buf], rfl, .single (.enqueue buf false), outside, alone⟩
  | pending => exact ⟨_, w, rfl, .single (.pending false), outside, alone⟩
  | clear => exact ⟨_, [], rfl, .single (.clear false), outside, alone⟩
  | drainOne visits =>
    obtain ⟨step, ms, h₁, w₁, e, p, d⟩ := drainHead_outside visits w outside alone
    have note : h₁.note (.did (.drainOne visits) (.step step)) = { h₁ with flight := [] } :=
      if_pos d
    simp only [takeStep, e]
    exact ⟨_, h₁.flight ++ w₁, rfl, p.append (.single (.doneOne visits _ d)), by rw [note]; exact d,
      by rw [note]⟩
  | tryDrain visits =>
    obtain ⟨n, ms, h₁, w₁, e, p, d⟩ := drainVisits_drains visits h w [] outside alone
    have note : h₁.note (.did (.tryDrain visits) (.count n)) = { h₁ with flight := [] } := if_pos d
    simp only [takeStep, e, List.nil_append]
    exact ⟨_, h₁.flight ++ w₁, rfl, p.append (.single (.doneAll visits _ d)), by rw [note]; exact d,
      by rw [note]⟩

/-- The moments of a session follow a path, and nothing is out at its end. -/
theorem takeSteps_outside (ss : List Step) (w : List Buffer) (outside : h.depth = 0)
    (alone : h.flight = []) :
    ∃ h' w', (takeSteps moments ss (holding w false)).2 = holding w' false ∧
      Path h w (takeSteps moments ss (holding w false)).1.flatten h' w' ∧ h'.depth = 0 ∧
      h'.flight = [] := by
  induction ss generalizing h w with
  | nil => exact ⟨h, w, rfl, .nil h w, outside, alone⟩
  | cons s ss ih =>
    obtain ⟨h₁, w₁, e₁, p₁, d₁, f₁⟩ := takeStep_outside s w outside alone
    obtain ⟨h₂, w₂, e₂, p₂, d₂, f₂⟩ := ih w₁ d₁ f₁
    simp only [takeSteps, e₁, List.flatten_cons]
    exact ⟨h₂, w₂, e₂, p₁.append p₂, d₂, f₂⟩

end Airlink.Backlog
