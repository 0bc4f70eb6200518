import Airlink.Proofs.Radio.Reachable
import Airlink.Proofs.Transmit.Drain
import Airlink.Proofs.Transmit.Order
import Mathlib.Algebra.GroupWithZero.Nat

/-!
# Serving the interfaces of a radio in turn

In each round of a service every interface that is not left out makes a drain step. So the
submissions of a service stand in the order of rounds, and within a round in the order of the
interfaces (`inTurn`). Each interface submits the first frames that wait at it, one to a round, up
to one that finds the transport busy (`Backlog.Served`), whatever the transport answers to others:
an interface that the transport was never busy for ends with nothing left to wait, or has retired a
frame in every round (`Radio.service_in_turn`). That no drain step is under way when the service
begins is what every run of operations leaves behind (`Radio.service_after_run`).
-/

namespace Airlink

open Outside (Call)

variable {σ : Type}

/-! ## Members in turn -/

/-- Of `n` lists, the first members in order, then the second ones, and so on for some rounds. A
list that is used up has no further members. -/
def inTurn {α : Type} (rounds n : Nat) (lists : Nat → List α) : List α :=
  (List.range rounds).flatMap fun m => (List.range n).filterMap fun k => (lists k)[m]?

/-- The first round stands before the others. -/
theorem inTurn_succ {α : Type} (rounds n : Nat) {first rest : Nat → List α}
    (one : ∀ k < n, (first k = [] ∧ rest k = []) ∨ ∃ a, first k = [a]) :
    inTurn (rounds + 1) n (fun k => first k ++ rest k) =
      (List.range n).flatMap first ++ inTurn rounds n rest := by
  have here : ((List.range n).filterMap fun k => (first k ++ rest k)[0]?) =
      (List.range n).flatMap first := by
    rw [List.filterMap_eq_flatMap_toList]
    refine List.flatMap_congr fun k mem => ?_
    rcases one k (List.mem_range.1 mem) with ⟨none, none'⟩ | ⟨a, single⟩
    · simp [none, none']
    · simp [single]
  have later (m : Nat) : ((List.range n).filterMap fun k => (first k ++ rest k)[m + 1]?) =
      (List.range n).filterMap fun k => (rest k)[m]? := by
    refine List.filterMap_congr fun k mem => ?_
    rcases one k (List.mem_range.1 mem) with ⟨none, none'⟩ | ⟨a, single⟩
    · simp [none, none']
    · simp [single]
  unfold inTurn
  rw [List.range_succ_eq_map, List.flatMap_cons, here, List.flatMap_map]
  simp only [later]

/-- If the lists are used up after the first round, there are no others. -/
theorem inTurn_first {α : Type} (rounds n : Nat) {first : Nat → List α}
    (one : ∀ k < n, first k = [] ∨ ∃ a, first k = [a]) :
    inTurn (rounds + 1) n first = (List.range n).flatMap first := by
  have none : inTurn rounds n (fun _ => ([] : List α)) = [] := by
    simp [inTurn, List.flatMap_eq_nil_iff]
  have alone := inTurn_succ rounds n fun k below =>
    (one k below).imp_left fun empty => (⟨empty, rfl⟩ : _ ∧ (fun _ => ([] : List α)) k = [])
  simpa [none] using alone

theorem mem_inTurn {α : Type} {rounds n k : Nat} {lists : Nat → List α} (below : k < n)
    (short : (lists k).length ≤ rounds) {a : α} (mem : a ∈ lists k) :
    a ∈ inTurn rounds n lists := by
  obtain ⟨m, bound, rfl⟩ := List.getElem_of_mem mem
  refine List.mem_flatMap.2 ⟨m, List.mem_range.2 (Nat.lt_of_lt_of_le bound short), ?_⟩
  exact List.mem_filterMap.2 ⟨k, List.mem_range.2 below, List.getElem?_eq_getElem bound⟩

/-! ## Between operations -/

theorem Interface.released_submit (o : Outside σ) {i : Interface} (s : σ) (framed : Buffer)
    (h : i.backlog.draining = false) : (i.submit o s framed).1.backlog.draining = false := by
  unfold submit
  split
  · dsimp only
    cases (o.submit framed s).1 with
    | success buf => simpa using h
    | failure buf reason => simpa using h
    | busy buf => simpa [Backlog.enqueue, Backlog.setFrames] using h
  · exact h

/-- Whatever is done to an interface between two drain steps, none is under way behind it. -/
theorem Interface.work_released (o : Outside σ) :
    Work o fun i j => i.backlog.draining = false → j.backlog.draining = false where
  refl _ := id
  trans first next h := next (first h)
  stations _ _ := id
  send i s buf hints h := by
    unfold send
    dsimp only
    split
    · split <;> exact h
    · refine released_submit o s _ ?_
      split <;> exact h
  drainOne i s h := by
    cases head : i.backlog.frames with
    | nil =>
      rw [drainOne_of_nil o h head]
      exact h
    | cons buf rest =>
      rw [drainOne_of_cons o h head]
      dsimp only
      cases (o.submit buf s).1 <;> exact h
  flush _ _ h := h
  count _ _ := id
  relay i s buf h := by
    unfold relay
    split
    · exact h
    · exact released_submit o s _ h

namespace Radio

/-- What is kept by all that is done to an interface is kept by a run. -/
theorem forall_run {o : Outside σ} {P : Interface → Prop}
    (work : Interface.Work o fun i j => P i → P j) (ops : List Op) (st : Radio × σ)
    (all : ∀ i ∈ st.1.interfaces, P i) : ∀ i ∈ (run o ops st).1.interfaces, P i := by
  induction ops generalizing st with
  | nil => exact all
  | cons op ops ih =>
    exact ih (op.apply o st) (forall_of_forall₂ (op.forall₂_apply work st) all)

/-- Between the operations of a run no drain step is under way. -/
theorem released_run (o : Outside σ) (ops : List Op) (st : Radio × σ)
    (released : ∀ i ∈ st.1.interfaces, i.backlog.draining = false) :
    ∀ i ∈ (run o ops st).1.interfaces, i.backlog.draining = false :=
  forall_run (Interface.work_released o) ops st released

/-- Between the operations of a run the numbers noted are those of the frames that wait. -/
theorem counted_run (o : Outside σ) (ops : List Op) (st : Radio × σ)
    (counted : ∀ i ∈ st.1.interfaces, i.backlog.Counted) :
    ∀ i ∈ (run o ops st).1.interfaces, i.backlog.Counted :=
  forall_run (Interface.work_counted o) ops st counted

/-! ## One round -/

/-- What a round does for an interface: the submissions it makes, and whether it is left out from
then on. -/
inductive TurnStep : Turn → List (Buffer × Submission) → Turn → Prop where
  | out (i : Interface) : TurnStep (i, true) [] (i, true)
  | submits {i j : Interface} {step : DrainStep} {made : List (Buffer × Submission)}
      (h : i.backlog.Submits step made j.backlog) : TurnStep (i, false) made (j, step = .busy)

namespace TurnStep

variable {turn turn' : Turn} {made : List (Buffer × Submission)}

theorem counted (h : TurnStep turn made turn') (counted : turn.1.backlog.Counted) :
    turn'.1.backlog.Counted := by
  cases h with
  | out => exact counted
  | submits h => exact h.counted counted

theorem pending_add (h : TurnStep turn made turn') (counted : turn.1.backlog.Counted) :
    made.countP (·.2.retires) + turn'.1.backlog.pending = turn.1.backlog.pending := by
  cases h with
  | out => exact Nat.zero_add _
  | submits h => rw [h.countP_made, h.pending_add counted]

end TurnStep

/-- The number of frames that wait at interfaces. -/
def waitingAt (turns : List Turn) : Nat := (turns.map (·.1.backlog.pending)).sum

/-- What a round does. -/
structure Round (turns : List Turn) (n : Nat) (made : Nat → List (Buffer × Submission))
    (turns' : List Turn) : Prop where
  length : turns'.length = turns.length
  step (k : Nat) (turn : Turn) : turns[k]? = some turn →
    ∃ turn', turns'[k]? = some turn' ∧ TurnStep turn (made k) turn'
  /-- The frames counted are those that were retired. -/
  retired : n = ((List.range turns.length).flatMap made).countP (·.2.retires)
  /-- Each of them is one less to wait. -/
  pending : (∀ turn ∈ turns, turn.1.backlog.Counted) →
    (∀ turn ∈ turns', turn.1.backlog.Counted) ∧ n + waitingAt turns' = waitingAt turns

/-- The submissions of the first interface, before those of the others. -/
def before (own : List (Buffer × Submission)) (made : Nat → List (Buffer × Submission)) :
    Nat → List (Buffer × Submission)
  | 0 => own
  | k + 1 => made k

theorem flatMap_before (own : List (Buffer × Submission))
    (made : Nat → List (Buffer × Submission)) (n : Nat) :
    (List.range (n + 1)).flatMap (before own made) = own ++ (List.range n).flatMap made := by
  rw [List.range_succ_eq_map, List.flatMap_cons, List.flatMap_map]
  rfl

/-- An interface is served before others. -/
theorem Round.cons {turns turns' : List Turn} {n : Nat}
    {made : Nat → List (Buffer × Submission)} (h : Round turns n made turns') {turn turn' : Turn}
    {own : List (Buffer × Submission)} (first : TurnStep turn own turn') :
    Round (turn :: turns) (n + own.countP (·.2.retires)) (before own made) (turn' :: turns') where
  length := congrArg (· + 1) h.length
  step
    | 0, _, at_ => ⟨turn', rfl, Option.some_inj.1 at_ ▸ first⟩
    | k + 1, turn, at_ => h.step k turn at_
  retired := by
    rw [List.length_cons, flatMap_before, List.countP_append, h.retired, Nat.add_comm]
  pending := by
    intro counted
    obtain ⟨here, behind⟩ := List.forall_mem_cons.1 counted
    obtain ⟨behind', rest⟩ := h.pending behind
    refine ⟨List.forall_mem_cons.2 ⟨first.counted here, behind'⟩, ?_⟩
    have own := first.pending_add here
    simp only [waitingAt, List.map_cons, List.sum_cons] at rest ⊢
    omega

/-- A round, read off its log. -/
theorem serviceRound_round (o : Outside σ) (turns : List Turn) (s : σ) (log : List Call) :
    ∃ made calls, (serviceRound o.logged turns (s, log)).2.2.2 = log ++ calls ∧
      submissions calls = (List.range turns.length).flatMap made ∧
      Round turns (serviceRound o.logged turns (s, log)).1 made
        (serviceRound o.logged turns (s, log)).2.1 := by
  induction turns generalizing s log with
  | nil =>
    refine ⟨fun _ => [], [], by simp [serviceRound], rfl, rfl, by simp, rfl, fun counted => ?_⟩
    exact ⟨counted, rfl⟩
  | cons turn turns ih =>
    obtain ⟨i, out⟩ := turn
    cases out with
    | true =>
      obtain ⟨made, calls, noted, order, round⟩ := ih s log
      refine ⟨before [] made, calls, noted, ?_, round.cons (.out i)⟩
      rw [order, List.length_cons, flatMap_before, List.nil_append]
    | false =>
      obtain ⟨own, noted, step⟩ := i.drainOne_submits o s log
      obtain ⟨made, calls, noted', order, round⟩ :=
        ih (i.drainOne o.logged (s, log)).2.2.1 (i.drainOne o.logged (s, log)).2.2.2
      have both := round.cons (.submits step)
      rw [step.countP_made] at both
      refine ⟨before (submissions own) made, own ++ calls, ?_, ?_, both⟩
      · rw [serviceRound]
        dsimp only
        rw [noted', noted, List.append_assoc]
      · rw [submissions_append, order, List.length_cons, flatMap_before]

/-! ## All rounds -/

/-- What some rounds do for an interface. -/
def Turn.Serves (rounds : Nat) (turn : Turn) (made : List (Buffer × Submission))
    (after : Backlog) : Prop :=
  if turn.2 = true then made = [] ∧ after = turn.1.backlog
  else turn.1.backlog.Serves rounds made after

theorem Turn.serves_zero (turn : Turn) : turn.Serves 0 [] turn.1.backlog := by
  unfold Turn.Serves
  split
  · exact ⟨rfl, rfl⟩
  · exact .ended _

namespace TurnStep

variable {rounds : Nat} {turn turn' : Turn} {made made' : List (Buffer × Submission)}
  {after : Backlog}

/-- A round that retires nothing for an interface is the last one for it. -/
theorem serves_of_idle (h : TurnStep turn made turn') (idle : made.countP (·.2.retires) = 0) :
    turn.Serves (rounds + 1) made turn'.1.backlog := by
  cases h with
  | out => exact ⟨rfl, rfl⟩
  | @submits i j step _ h =>
    show i.backlog.Serves (rounds + 1) made j.backlog
    generalize j.backlog = q at h
    cases h with
    | refused underway => exact .refused underway
    | empty free none => exact .empty free none
    | retired _ _ taken => simp [taken] at idle
    | busy free head => exact .busy free head

/-- A round comes before the others. -/
theorem serves (h : TurnStep turn made turn') (further : turn'.Serves rounds made' after) :
    turn.Serves (rounds + 1) (made ++ made') after ∧
      ((made = [] ∧ made' = []) ∨ ∃ m, made = [m]) := by
  cases h with
  | out i =>
    obtain ⟨rfl, rfl⟩ := further
    exact ⟨⟨rfl, rfl⟩, .inl ⟨rfl, rfl⟩⟩
  | @submits i j step _ h =>
    show i.backlog.Serves (rounds + 1) (made ++ made') after ∧ _
    unfold Turn.Serves at further
    dsimp only at further
    generalize j.backlog = q at h further
    cases h with
    | refused underway =>
      obtain ⟨rfl, rfl⟩ := further
      exact ⟨.refused underway, .inl ⟨rfl, rfl⟩⟩
    | empty free none =>
      obtain ⟨rfl, same⟩ := Backlog.Serves.of_nil further free rfl
      obtain rfl : after = i.backlog.setFrames [] := by
        rcases same with same | same
        · exact same
        · exact same
      exact ⟨.empty free none, .inl ⟨rfl, rfl⟩⟩
    | retired free head taken => exact ⟨.retired free head taken further, .inr ⟨_, rfl⟩⟩
    | busy free head =>
      obtain ⟨rfl, rfl⟩ := further
      exact ⟨.busy free head, .inr ⟨_, rfl⟩⟩

theorem one (h : TurnStep turn made turn') : made = [] ∨ ∃ m, made = [m] :=
  (h.serves turn'.serves_zero).2.imp_left And.left

end TurnStep

/-- What some rounds do. -/
structure Rounds (rounds : Nat) (turns : List Turn) (n : Nat)
    (made : Nat → List (Buffer × Submission)) (turns' : List Turn) : Prop where
  length : turns'.length = turns.length
  serves (k : Nat) (turn : Turn) : turns[k]? = some turn →
    ∃ turn', turns'[k]? = some turn' ∧ turn.Serves rounds (made k) turn'.1.backlog
  /-- The frames counted are those that were retired. -/
  retired : n = (inTurn rounds turns.length made).countP (·.2.retires)
  /-- Each of them is one less to wait. -/
  pending : (∀ turn ∈ turns, turn.1.backlog.Counted) → n + waitingAt turns' = waitingAt turns

namespace Round

variable {rounds n n' : Nat} {turns turns' turns'' : List Turn}
  {first rest : Nat → List (Buffer × Submission)}

/-- An interface makes at most one submission to a round. -/
theorem one (h : Round turns n first turns') {k : Nat} (below : k < turns.length) :
    first k = [] ∨ ∃ m, first k = [m] := by
  obtain ⟨turn', -, step⟩ := h.step k _ (List.getElem?_eq_getElem below)
  exact step.one

/-- A round that retires nothing is the last one. -/
theorem last (h : Round turns 0 first turns') : Rounds (rounds + 1) turns 0 first turns' where
  length := h.length
  serves k turn at_ := by
    obtain ⟨turn', at', step⟩ := h.step k turn at_
    refine ⟨turn', at', step.serves_of_idle (List.countP_eq_zero.2 fun m mem => ?_)⟩
    have none := List.countP_eq_zero.1 h.retired.symm
    have below : k < turns.length := (List.getElem?_eq_some_iff.1 at_).1
    exact none m (List.mem_flatMap.2 ⟨k, List.mem_range.2 below, mem⟩)
  retired := by
    rw [inTurn_first rounds _ fun _ => h.one]
    exact h.retired
  pending counted := (h.pending counted).2

/-- What a round and the others do for an interface. -/
theorem serves (h : Round turns n first turns') (others : Rounds rounds turns' n' rest turns'')
    {k : Nat} {turn : Turn} (at_ : turns[k]? = some turn) :
    ∃ turn'', turns''[k]? = some turn'' ∧
      turn.Serves (rounds + 1) (first k ++ rest k) turn''.1.backlog ∧
      ((first k = [] ∧ rest k = []) ∨ ∃ m, first k = [m]) := by
  obtain ⟨turn', at', step⟩ := h.step k turn at_
  obtain ⟨turn'', at'', further⟩ := others.serves k turn' at'
  exact ⟨turn'', at'', step.serves further⟩

/-- The submissions of a round stand before those of the others. -/
theorem inTurn_append (h : Round turns n first turns')
    (others : Rounds rounds turns' n' rest turns'') :
    inTurn (rounds + 1) turns.length (fun k => first k ++ rest k) =
      (List.range turns.length).flatMap first ++ inTurn rounds turns'.length rest := by
  rw [h.length]
  refine inTurn_succ rounds _ fun k below => ?_
  obtain ⟨turn'', -, -, alone⟩ := h.serves others (List.getElem?_eq_getElem below)
  exact alone

/-- A round comes before the others. -/
theorem followed (h : Round turns n first turns')
    (others : Rounds rounds turns' n' rest turns'') :
    Rounds (rounds + 1) turns (n + n') (fun k => first k ++ rest k) turns'' where
  length := others.length.trans h.length
  serves k turn at_ := by
    obtain ⟨turn'', at'', serves, -⟩ := h.serves others at_
    exact ⟨turn'', at'', serves⟩
  retired := by rw [h.inTurn_append others, List.countP_append, ← h.retired, ← others.retired]
  pending counted := by
    obtain ⟨counted', less⟩ := h.pending counted
    rw [Nat.add_assoc, others.pending counted', less]

end Round

/-- Rounds of a service, read off their log. -/
theorem serviceRounds_rounds (o : Outside σ) (rounds : Nat) (turns : List Turn) (s : σ)
    (log : List Call) :
    ∃ made calls, (serviceRounds o.logged rounds turns (s, log)).2.2.2 = log ++ calls ∧
      submissions calls = inTurn rounds turns.length made ∧
      Rounds rounds turns (serviceRounds o.logged rounds turns (s, log)).1 made
        (serviceRounds o.logged rounds turns (s, log)).2.1 := by
  induction rounds generalizing turns s log with
  | zero =>
    refine ⟨fun _ => [], [], by simp [serviceRounds], rfl, rfl, fun k turn at_ => ?_, rfl,
      fun _ => Nat.zero_add _⟩
    exact ⟨turn, at_, turn.serves_zero⟩
  | succ rounds ih =>
    obtain ⟨first, calls, noted, order, round⟩ := serviceRound_round o turns s log
    unfold serviceRounds
    dsimp only
    by_cases idle : (serviceRound o.logged turns (s, log)).1 = 0
    · rw [if_pos idle]
      rw [idle] at round
      exact ⟨first, calls, noted, by rw [order, inTurn_first rounds _ fun _ => round.one],
        round.last⟩
    · rw [if_neg idle]
      obtain ⟨rest, calls', noted', order', others⟩ :=
        ih (serviceRound o.logged turns (s, log)).2.1 (serviceRound o.logged turns (s, log)).2.2.1
          (serviceRound o.logged turns (s, log)).2.2.2
      refine ⟨fun k => first k ++ rest k, calls ++ calls', ?_, ?_, round.followed others⟩
      · rw [← List.append_assoc, ← noted]
        exact noted'
      · rw [submissions_append, order, order', round.inTurn_append others]

/-! ## Without the log -/

theorem serviceRound_withoutLog (o : Outside σ) (turns : List Turn) (s : σ × List Call) :
    withoutLog (serviceRound o.logged turns s) = serviceRound o turns s.1 := by
  induction turns generalizing s with
  | nil => rfl
  | cons turn turns ih =>
    obtain ⟨i, out⟩ := turn
    cases out with
    | true =>
      have rest := ih s
      simp only [serviceRound, ← rest]
      rfl
    | false =>
      have rest := ih (i.drainOne o.logged s).2.2
      have first := i.drainOne_withoutLog o s
      simp only [serviceRound, ← first, withoutLog] at rest ⊢
      rw [← rest]

theorem serviceRounds_withoutLog (o : Outside σ) (rounds : Nat) (turns : List Turn)
    (s : σ × List Call) :
    withoutLog (serviceRounds o.logged rounds turns s) = serviceRounds o rounds turns s.1 := by
  induction rounds generalizing turns s with
  | zero => rfl
  | succ rounds ih =>
    have first := serviceRound_withoutLog o turns s
    have rest := ih (serviceRound o.logged turns s).2.1 (serviceRound o.logged turns s).2.2
    simp only [serviceRounds, ← first, withoutLog] at rest ⊢
    rw [← rest]
    by_cases idle : (serviceRound o.logged turns s).1 = 0
    · simp only [if_pos idle]
    · simp only [if_neg idle]

theorem service_withoutLog (o : Outside σ) (rounds : Nat) (r : Radio) (s : σ × List Call) :
    withoutLog (r.service o.logged rounds s) = r.service o rounds s.1 :=
  congrArg (fun x : Nat × List Turn × σ =>
      (x.1, ({ r with interfaces := x.2.1.map (·.1) } : Radio), x.2.2))
    (serviceRounds_withoutLog o rounds (r.interfaces.map (·, false)) s)

/-! ## The state of the parties outside -/

theorem serviceRound_keeps {o : Outside σ} {I : σ → Prop} (h : o.KeptSending I)
    (turns : List Turn) {s : σ} (hs : I s) : I (serviceRound o turns s).2.2 := by
  induction turns generalizing s with
  | nil => exact hs
  | cons turn turns ih =>
    obtain ⟨i, out⟩ := turn
    cases out with
    | true => exact ih hs
    | false => exact ih (i.drainOne_keeps h hs)

theorem serviceRounds_keeps {o : Outside σ} {I : σ → Prop} (h : o.KeptSending I) (rounds : Nat)
    (turns : List Turn) {s : σ} (hs : I s) : I (serviceRounds o rounds turns s).2.2 := by
  induction rounds generalizing turns s with
  | zero => exact hs
  | succ rounds ih =>
    have first := serviceRound_keeps h turns hs
    unfold serviceRounds
    dsimp only
    split
    · exact first
    · exact ih _ first

/-! ## A service -/

/-- The number of frames that wait at the interfaces of a radio. -/
def pending (r : Radio) : Nat := (r.interfaces.map (·.backlog.pending)).sum

/-- A service, read off its log. -/
theorem service_rounds (o : Outside σ) (rounds : Nat) (r : Radio) (s : σ) :
    let run := r.service o.logged rounds (s, [])
    ∃ (made : Nat → List (Buffer × Submission)) (turns : List Turn),
      run.2.1.interfaces = turns.map (·.1) ∧
      submissions run.2.2.2 = inTurn rounds r.interfaces.length made ∧
      Rounds rounds (r.interfaces.map (·, false)) run.1 made turns := by
  intro run
  obtain ⟨made, calls, noted, order, served⟩ :=
    serviceRounds_rounds o rounds (r.interfaces.map (·, false)) s []
  refine ⟨made, _, rfl, ?_, served⟩
  rw [← r.interfaces.length_map (·, false), ← order, ← List.nil_append calls, ← noted]
  rfl

namespace Rounds

variable {rounds n : Nat} {interfaces : List Interface} {made : Nat → List (Buffer × Submission)}
  {turns : List Turn}

/-- What rounds that leave no interface out do for one of them. -/
theorem backlog_serves (h : Rounds rounds (interfaces.map (·, false)) n made turns) {k : Nat}
    {i : Interface} (at_ : interfaces[k]? = some i) :
    ∃ j, (turns.map (·.1))[k]? = some j ∧ i.backlog.Serves rounds (made k) j.backlog := by
  obtain ⟨turn, at', serves⟩ := h.serves k (i, false) (by simp [at_])
  exact ⟨turn.1, by simp [at'], serves⟩

/-- The frames that were retired no longer wait. -/
theorem pending_add (h : Rounds rounds (interfaces.map (·, false)) n made turns)
    (counted : ∀ i ∈ interfaces, i.backlog.Counted) :
    n + ((turns.map (·.1)).map (·.backlog.pending)).sum =
      (interfaces.map (·.backlog.pending)).sum := by
  have less := h.pending (by simpa using counted)
  simp only [waitingAt, List.map_map, Function.comp_def] at less
  rw [List.map_map]
  exact less

end Rounds

/-- **Service in turn.** Take a radio whose interfaces have noted how many frames wait at them, as
those of every radio that is reached have (`Reachable.counted`), and serve it for some rounds.
Between operations no drain step is under way, so that `Served.turns` speaks of every interface
(`service_after_run`).

* Submissions are made round by round, in a round interface by interface, and by an interface at
  most one to a round.
* Each interface submits the first frames that wait at it, in order and up to one that finds the
  transport busy. The others wait as before, that one in front of them.
* An interface for which the transport was never busy has nothing left to wait or has retired a
  frame in every round. A busy transport costs only the interface that met it its turns.
* The answer is the number of frames that were retired, and that many less wait. -/
theorem service_in_turn (o : Outside σ) {r : Radio}
    (counted : ∀ i ∈ r.interfaces, i.backlog.Counted) (rounds : Nat) (s : σ) :
    let run := r.service o.logged rounds (s, [])
    withoutLog run = r.service o rounds s ∧
      run.1 = (submissions run.2.2.2).countP (·.2.retires) ∧
      run.1 + run.2.1.pending = r.pending ∧
      run.2.1.interfaces.length = r.interfaces.length ∧
      ∃ made : Nat → List (Buffer × Submission),
        submissions run.2.2.2 = inTurn rounds r.interfaces.length made ∧
        ∀ (k : Nat) (i : Interface), r.interfaces[k]? = some i →
          ∃ j, run.2.1.interfaces[k]? = some j ∧
            Backlog.Served rounds i.backlog (made k) j.backlog ∧
            (o.Returns → j.backlog.frames =
              i.backlog.frames.drop ((made k).countP (·.2.retires))) := by
  intro run
  obtain ⟨made, turns, interfaces, all, served⟩ := service_rounds o rounds r s
  have lengths : turns.length = r.interfaces.length := served.length.trans (List.length_map _)
  refine ⟨service_withoutLog o rounds r (s, []), ?_, ?_, ?_, made, all, fun k i at_ => ?_⟩
  · rw [all, served.retired, List.length_map]
  · rw [pending, interfaces]
    exact served.pending_add counted
  · rw [interfaces, List.length_map, lengths]
  · obtain ⟨j, at', serves⟩ := served.backlog_serves at_
    refine ⟨j, interfaces ▸ at', serves.served, fun returns => ?_⟩
    refine serves.frames_eq_drop fun m mem => ?_
    have below : k < r.interfaces.length := (List.getElem?_eq_some_iff.1 at_).1
    obtain ⟨calls, noted, answered⟩ := serviceRounds_keeps (returns.keptSending []) rounds
      (r.interfaces.map (·, false)) (s := (s, [])) ⟨[], rfl, List.forall_mem_nil _⟩
    refine answered m ?_
    rw [← List.nil_append calls, ← noted]
    exact all ▸ mem_inTurn below serves.served.length_le mem

/-- Two interfaces, with one frame waiting at the first one and two at the second. -/
def queueing : Radio where
  interfaces := [
    { Interface.standard with
      backlog := Backlog.empty.setFrames [.ofBytes .tx (List.replicate 25 0)] },
    { Interface.standard with
      bssNum := 1
      egress := ⟨0, 1⟩
      backlog := Backlog.empty.setFrames
        [.ofBytes .tx (List.replicate 26 1), .ofBytes .tx (List.replicate 27 2)] }]
  unattributed := .zero

/-- The transport is busy for the first interface. The second one loses no turn. -/
theorem service_in_turn_queueing :
    (∀ i ∈ queueing.interfaces, i.backlog.Counted) ∧
      let run := queueing.service Outside.scripted.logged 3 ([.busy], [])
      run.1 = 2 ∧ run.1 + run.2.1.pending = 3 ∧
        (submissions run.2.2.2).map (·.1.size) = [25, 26, 27] := by
  have counted : ∀ i ∈ queueing.interfaces, i.backlog.Counted := by
    simp [queueing, Backlog.counted_setFrames]
  obtain ⟨-, -, less, -⟩ := service_in_turn Outside.scripted counted 3 [.busy]
  exact ⟨counted, by decide +kernel, less, by decide +kernel⟩

/-- **No turn is lost.** Take a radio of interfaces that can come to be, and serve it after any
operations, whoever stands outside then. The answer is the number of frames that no longer wait, and
every interface for which the transport was never busy has nothing left to wait or has retired a
frame in every round. -/
theorem service_after_run {τ : Type} (o : Outside σ) (p : Outside τ) {r : Radio}
    (arise : ∀ i ∈ r.interfaces, i.Arises) (ops : List Op) (s : σ) (t : τ) (rounds : Nat) :
    let reached := (run o ops (r, s)).1
    let result := reached.service p.logged rounds (t, [])
    result.1 + result.2.1.pending = reached.pending ∧
      ∃ made : Nat → List (Buffer × Submission),
        submissions result.2.2.2 = inTurn rounds reached.interfaces.length made ∧
        ∀ (k : Nat) (i : Interface), reached.interfaces[k]? = some i →
          ∃ j, result.2.1.interfaces[k]? = some j ∧
            Backlog.Served rounds i.backlog (made k) j.backlog ∧
            ((∀ m ∈ made k, m.2.retires = true) →
              j.backlog.frames = [] ∨ (made k).length = rounds) := by
  intro reached result
  have counted : ∀ i ∈ reached.interfaces, i.backlog.Counted :=
    counted_run o ops (r, s) fun i mem => (arise i mem).settled.counted
  have released : ∀ i ∈ reached.interfaces, i.backlog.draining = false :=
    released_run o ops (r, s) fun i mem => (arise i mem).settled.released
  obtain ⟨made, turns, interfaces, all, served⟩ := service_rounds p rounds reached t
  refine ⟨?_, made, all, fun k i at_ => ?_⟩
  · rw [pending, interfaces]
    exact served.pending_add counted
  · obtain ⟨j, at', serves⟩ := served.backlog_serves at_
    have share := serves.served
    exact ⟨j, interfaces ▸ at', share, share.turns (released i (List.mem_of_getElem? at_))⟩

end Radio

end Airlink
