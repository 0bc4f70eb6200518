import Airlink.Proofs.Radio.Ledger
import Airlink.Proofs.Radio.Starting
import Mathlib.Algebra.BigOperators.Group.List.Basic
import Mathlib.Data.String.Basic

/-!
# What the report covers

The report of a radio lists counters by the names of interfaces. Its names are sorted and so
different from each other (`Radio.sorted_report`), which leaves one entry to interfaces that share a
name. So it has an entry for each interface just if no two interfaces have one name
(`Radio.covers_iff`). Validation asks for names and for different numbers, and not for different
names: `Radio.report_covers_iff` says for which valid configurations the report is complete, and
stays so over any run.
-/

namespace Airlink

variable {σ : Type}

namespace Radio

/-! ## Entries -/

/-- The names in a list of entries. -/
def keys (entries : List (String × Counters)) : List String := entries.map Prod.fst

theorem mem_keys_putEntry (name : String) (c : Counters) (entries : List (String × Counters))
    (key : String) : key ∈ keys (putEntry name c entries) ↔ key = name ∨ key ∈ keys entries := by
  induction entries with
  | nil => simp [keys, putEntry]
  | cons entry rest ih =>
    obtain ⟨n, d⟩ := entry
    unfold putEntry
    by_cases same : name = n
    · subst same
      simp [keys]
    · rw [if_neg same]
      by_cases before : name < n
      · rw [if_pos before]
        simp [keys]
      · rw [if_neg before]
        simp only [keys, List.map_cons, List.mem_cons] at ih ⊢
        rw [ih]
        exact or_left_comm

/-- An entry goes where its name belongs. -/
theorem sorted_putEntry (name : String) (c : Counters) {entries : List (String × Counters)}
    (sorted : (keys entries).Pairwise (· < ·)) :
    (keys (putEntry name c entries)).Pairwise (· < ·) := by
  induction entries with
  | nil => exact List.pairwise_singleton _ _
  | cons entry rest ih =>
    obtain ⟨n, d⟩ := entry
    obtain ⟨least, sortedRest⟩ := List.pairwise_cons.1 sorted
    unfold putEntry
    by_cases same : name = n
    · subst same
      rw [if_pos rfl]
      exact sorted
    · rw [if_neg same]
      by_cases before : name < n
      · rw [if_pos before]
        refine List.pairwise_cons.2 ⟨fun key mem => ?_, sorted⟩
        rcases List.mem_cons.1 mem with rfl | mem
        · exact before
        · exact before.trans (least key mem)
      · rw [if_neg before]
        refine List.pairwise_cons.2 ⟨fun key mem => ?_, ih sortedRest⟩
        rcases (mem_keys_putEntry name c rest key).1 mem with rfl | mem
        · exact lt_of_le_of_ne (not_lt.1 before) (Ne.symm same)
        · exact least key mem

/-- An entry of a new name is one more. -/
theorem putEntry_perm {name : String} (c : Counters) {entries : List (String × Counters)}
    (new : name ∉ keys entries) : (putEntry name c entries).Perm ((name, c) :: entries) := by
  induction entries with
  | nil => exact .refl _
  | cons entry rest ih =>
    obtain ⟨n, d⟩ := entry
    have other : name ≠ n := fun same => new (same ▸ List.mem_cons_self)
    have newRest : name ∉ keys rest := fun used => new (List.mem_cons_of_mem _ used)
    unfold putEntry
    rw [if_neg other]
    by_cases before : name < n
    · rw [if_pos before]
    · rw [if_neg before]
      exact ((ih newRest).cons (n, d)).trans (.swap _ _ rest)

/-! ## Reports -/

/-- The entry for an interface. -/
def entry (i : Interface) : String × Counters := (i.name, i.counters)

/-- The names in a report are sorted. -/
theorem sorted_report (r : Radio) : (keys r.report).Pairwise (· < ·) :=
  List.foldlRecOn (motive := fun entries => (keys entries).Pairwise (· < ·)) r.interfaces _
    List.Pairwise.nil fun _ sorted i _ => sorted_putEntry i.name i.counters sorted

/-- Entries of new names, different from each other, are that many more. -/
theorem foldl_putEntry_perm {is : List Interface} {entries : List (String × Counters)}
    (distinct : (keys entries ++ is.map (·.name)).Nodup) :
    (is.foldl (fun entries i => putEntry i.name i.counters entries) entries).Perm
      (is.map entry ++ entries) := by
  induction is generalizing entries with
  | nil => exact .refl _
  | cons i is ih =>
    have new : i.name ∉ keys entries := fun used =>
      (List.nodup_append.1 distinct).2.2 _ used _ List.mem_cons_self rfl
    have added := putEntry_perm i.counters new
    have distinct' : (keys (putEntry i.name i.counters entries) ++ is.map (·.name)).Nodup := by
      refine ((added.map Prod.fst).append_right _).nodup_iff.2 ?_
      exact (List.perm_middle.nodup_iff).1 distinct
    exact ((ih distinct').trans (added.append_left _)).trans List.perm_middle

/-- The report has exactly one entry for each interface, with the counters of the interface. -/
def Covers (r : Radio) : Prop := r.report.Perm (r.interfaces.map entry)

/-- The report covers the interfaces just if their names are different from each other. -/
theorem covers_iff (r : Radio) : r.Covers ↔ (r.interfaces.map (·.name)).Nodup := by
  constructor
  · intro covers
    have names : (keys r.report).Perm (r.interfaces.map (·.name)) := by
      have mapped := covers.map Prod.fst
      rwa [List.map_map] at mapped
    exact names.nodup_iff.1 ((sorted_report r).imp ne_of_lt)
  · intro distinct
    have listed : (report r).Perm (r.interfaces.map entry ++ []) := foldl_putEntry_perm distinct
    rwa [List.append_nil] at listed

/-- What is added up over a report that covers the interfaces is added up over the interfaces. -/
theorem Covers.sum_eq {M : Type} [AddCommMonoid M] {r : Radio} (h : r.Covers) (f : Counters → M) :
    (r.report.map fun e => f e.2).sum = (r.interfaces.map fun i => f i.counters).sum := by
  have mapped := h.map fun e => f e.2
  rw [List.map_map] at mapped
  exact mapped.sum_eq

/-! ## Configured radios -/

/-- Interfaces that were made from settings have the names and numbers that the settings give. -/
theorem map_eq_of_made {cs : List InterfaceConfig} {is : List Interface}
    (made : List.Forall₂ (fun c i => Interface.ofConfig c = .ok i) cs is) :
    is.map (fun i => (i.name, i.bssNum)) = cs.map fun c => (c.name, c.bssNum) := by
  induction made with
  | nil => rfl
  | cons first rest ih =>
    have same := Interface.madeFrom_of_ofConfig first
    rw [List.map_cons, List.map_cons, ih, same.name, same.bssNum]

/-- **The report and the interfaces.** A valid configuration starts a radio, and over any run of it
the interfaces are those that are configured, by name and number. The report covers them, and so its
sums are the sums over the interfaces, just if the configuration gives no name twice. -/
theorem report_covers_iff {c : Config} (valid : c.isValid = true) :
    ∃ r, ofConfig c = .ok r ∧ ∀ (σ : Type) (o : Outside σ) (ops : List Op) (s : σ),
      let r' := (run o ops (r, s)).1
      r'.interfaces.map (fun i => (i.name, i.bssNum)) =
          c.interfaces.map (fun i => (i.name, i.bssNum)) ∧
        (r'.Covers ↔ (c.interfaces.map (·.name)).Nodup) ∧
        ((c.interfaces.map (·.name)).Nodup → ∀ (M : Type) [AddCommMonoid M] (f : Counters → M),
          (r'.report.map fun e => f e.2).sum = (r'.interfaces.map fun i => f i.counters).sum) := by
  obtain ⟨r, started, made⟩ := ofConfig_of_isValid valid
  refine ⟨r, started, fun σ o ops s => ?_⟩
  have kept := identities_run o ops (r, s)
  generalize (run o ops (r, s)).1 = r' at kept
  have same : r'.interfaces.map (fun i => (i.name, i.bssNum)) =
      c.interfaces.map (fun i => (i.name, i.bssNum)) := by
    have named := congrArg (List.map fun i => (i.name, i.bssNum)) kept
    simp only [identities, List.map_map] at named
    exact named.trans (map_eq_of_made made)
  have names : r'.interfaces.map (·.name) = c.interfaces.map (·.name) := by
    have firsts := congrArg (List.map Prod.fst) same
    rwa [List.map_map, List.map_map] at firsts
  have covers := names ▸ r'.covers_iff
  exact ⟨same, covers, fun distinct M _ f => (covers.2 distinct).sum_eq f⟩

/-- The usual two interfaces have different names, and their report covers them over any run. -/
theorem report_covers_iff_sample :
    Config.sample.isValid = true ∧ ∃ r, ofConfig .sample = .ok r ∧
      ∀ (σ : Type) (o : Outside σ) (ops : List Op) (s : σ), (run o ops (r, s)).1.Covers := by
  have valid : Config.sample.isValid = true := by decide +kernel
  obtain ⟨r, started, runs⟩ := report_covers_iff valid
  exact ⟨valid, r, started, fun σ o ops s => (runs σ o ops s).2.1.2 (by decide)⟩

/-- Two station interfaces of one name. -/
def twins : Config :=
  { Config.standard with
    interfaces := [.standard, { InterfaceConfig.standard with bssNum := 1 }] }

/-- The configuration of the twins is valid and starts a radio. When the first of them receives a
frame, the report has one entry for both, in which the frame is missing. -/
theorem report_twins :
    twins.isValid = true ∧ ∃ r, ofConfig twins = .ok r ∧
      let r' := (run Replay.accepting [.receive 0 (.ofBytes .rx toStation)] (r, ())).1
      (r'.interfaces.map fun i => i.counters.rxPackets) = [1, 0] ∧
        (r'.report.map fun e => e.2.rxPackets) = [0] ∧ ¬ r'.Covers := by
  refine ⟨by decide +kernel, _, rfl, by decide +kernel, by decide +kernel, fun covers => ?_⟩
  have lengths := covers.length_eq
  revert lengths
  decide +kernel

end Radio

end Airlink
