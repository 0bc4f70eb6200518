import Airlink.Config.Validation
import Airlink.Proofs.Radio.Arising

/-!
# Starting a radio, and running it

The interfaces of a configuration are set up one after the other, up to the first that cannot be;
one of the faults of the configuration says why it cannot (`Radio.ofConfig_cases`). So a
configuration without faults starts a radio: its interfaces are made from the configured ones, one
by one and in order (`Radio.ofConfig_of_isValid`). From then on a run of operations changes nothing
of what makes the interfaces the ones they are (`Radio.identities_run`).
-/

namespace Airlink

variable {σ : Type}

/-! ## Interfaces from their settings -/

/-- Settings that an interface can be made from. -/
structure InterfaceConfig.Sound (c : InterfaceConfig) : Prop where
  room : c.maxStations ≠ 0
  address : ∃ addr, c.ownAddr = .ok addr

/-- What is known of an interface when it has just been made from its settings. -/
structure Interface.MadeFrom (c : InterfaceConfig) (i : Interface) : Prop where
  name : i.name = c.name
  bssNum : i.bssNum = c.bssNum
  role : i.settings.role = c.role
  egress : i.egress = ⟨c.role.bssType, c.bssNum⟩
  backlog : i.backlog = .empty
  counters : i.counters = .zero

namespace Interface

/-- Making an interface from sound settings succeeds. -/
theorem exists_ofConfig {c : InterfaceConfig} (sound : c.Sound) : ∃ i, ofConfig c = .ok i := by
  obtain ⟨addr, named⟩ := sound.address
  unfold ofConfig
  rw [if_neg sound.room, named]
  exact ⟨_, rfl⟩

theorem madeFrom_of_ofConfig {c : InterfaceConfig} {i : Interface} (h : ofConfig c = .ok i) :
    MadeFrom c i := by
  unfold ofConfig at h
  by_cases noRoom : c.maxStations = 0
  · rw [if_pos noRoom] at h
    cases h
  · rw [if_neg noRoom] at h
    cases named : c.ownAddr with
    | error e =>
      rw [named] at h
      cases h
    | ok addr =>
      rw [named] at h
      cases h
      exact ⟨rfl, rfl, rfl, rfl, rfl, rfl⟩

end Interface

/-! ## Faults of interfaces -/

@[simp] theorem onlyIf_eq_nil_iff {α : Type} {p : Prop} [Decidable p] {a : α} :
    onlyIf p a = [] ↔ ¬p := by
  unfold onlyIf
  split <;> simp [*]

namespace InterfaceConfig

/-- An interface is without faults just if it has a name, its settings are sound and its number is
free. -/
theorem faults_eq_nil_iff {c : InterfaceConfig} {taken : List UInt8} :
    c.faults taken = [] ↔ c.name ≠ "" ∧ c.Sound ∧ c.bssNum ∉ taken := by
  unfold faults
  cases read : c.ownAddr with
  | error e =>
    have unsound : ¬ c.Sound := fun sound => by
      obtain ⟨addr, read'⟩ := sound.address
      rw [read] at read'
      cases read'
    simp [unsound]
  | ok addr =>
    have sound : c.Sound ↔ c.maxStations ≠ 0 := ⟨(·.room), fun room => ⟨room, addr, read⟩⟩
    simp only [List.append_eq_nil_iff, onlyIf_eq_nil_iff, sound, and_true]
    rw [and_assoc, and_comm (a := c.bssNum ∉ taken)]

/-- Interfaces that can be set up where some numbers are taken. -/
structure AllReady (taken : List UInt8) (cs : List InterfaceConfig) : Prop where
  sound : ∀ c ∈ cs, c.Sound
  distinct : (cs.map (·.bssNum)).Nodup
  free : ∀ c ∈ cs, c.bssNum ∉ taken

theorem allReady_nil (taken : List UInt8) : AllReady taken [] := ⟨by simp, by simp, by simp⟩

/-- When the first is set up, its number is taken for the others. -/
theorem allReady_cons_iff {taken : List UInt8} {c : InterfaceConfig} {cs : List InterfaceConfig} :
    AllReady taken (c :: cs) ↔
      (c.Sound ∧ c.bssNum ∉ taken) ∧ AllReady (c.bssNum :: taken) cs := by
  have apart : (∀ d ∈ cs, d.bssNum ∉ c.bssNum :: taken) ↔
      c.bssNum ∉ cs.map (·.bssNum) ∧ ∀ d ∈ cs, d.bssNum ∉ taken := by
    simp only [List.mem_cons, not_or, forall_and, List.mem_map, not_exists, not_and]
  constructor
  · rintro ⟨sound, distinct, free⟩
    rw [List.forall_mem_cons] at sound free
    rw [List.map_cons, List.nodup_cons] at distinct
    exact ⟨⟨sound.1, free.1⟩, sound.2, distinct.2, apart.2 ⟨distinct.1, free.2⟩⟩
  · rintro ⟨⟨sound, free⟩, sounds, distinct, others⟩
    obtain ⟨new, frees⟩ := apart.1 others
    exact ⟨List.forall_mem_cons.2 ⟨sound, sounds⟩, List.nodup_cons.2 ⟨new, distinct⟩,
      List.forall_mem_cons.2 ⟨free, frees⟩⟩

end InterfaceConfig

open InterfaceConfig (AllReady allReady_cons_iff)

/-- Interfaces are without faults just if they have names and can be set up. -/
theorem interfaceFaults_eq_nil_iff {taken : List UInt8} {cs : List InterfaceConfig} :
    interfaceFaults taken cs = [] ↔ (∀ c ∈ cs, c.name ≠ "") ∧ AllReady taken cs := by
  induction cs generalizing taken with
  | nil => simp [interfaceFaults, InterfaceConfig.allReady_nil]
  | cons c cs ih =>
    rw [interfaceFaults, List.append_eq_nil_iff, InterfaceConfig.faults_eq_nil_iff, ih,
      allReady_cons_iff, List.forall_mem_cons, and_and_and_comm]

/-- The error that a radio does not start with because of a fault. -/
inductive ConfigFault.Stops : ConfigFault → Error → Prop where
  | numberTaken (bss : UInt8) :
      Stops (.numberTaken bss) (.invalidParameter s!"bss_num {bss.toNat} already in use")
  | badAddress (interface : String) (cause : Ieee80211.Error) :
      Stops (.badAddress interface cause) (.frame cause)
  | noStations (interface : String) :
      Stops (.noStations interface)
        (.invalidParameter s!"interface '{interface}' allows no stations")

/-- An interface is made from its settings if they are sound. If not, one of the faults of the
settings says why. -/
theorem Interface.ofConfig_cases (c : InterfaceConfig) (taken : List UInt8) :
    (c.Sound ∧ ∃ i, ofConfig c = .ok i) ∨
      ¬ c.Sound ∧ ∃ e, ofConfig c = .error e ∧ ∃ fault ∈ c.faults taken, fault.Stops e := by
  by_cases noRoom : c.maxStations = 0
  · refine .inr ⟨fun sound => sound.room noRoom, _, by rw [ofConfig, if_pos noRoom]; rfl,
      .noStations c.name, ?_, .noStations _⟩
    simp [InterfaceConfig.faults, onlyIf, noRoom]
  · cases read : c.ownAddr with
    | ok addr =>
      have sound : c.Sound := ⟨noRoom, addr, read⟩
      exact .inl ⟨sound, exists_ofConfig sound⟩
    | error e =>
      refine .inr ⟨fun sound => ?_, _, by rw [ofConfig, if_neg noRoom, read]; rfl,
        .badAddress c.name e, ?_, .badAddress _ e⟩
      · obtain ⟨addr, read'⟩ := sound.address
        rw [read] at read'
        cases read'
      · simp [InterfaceConfig.faults, read]

namespace Radio

/-! ## Radios from configurations -/

theorem addInterface_of_free {r : Radio} {i : Interface} (free : i.bssNum ∉ r.numbers) :
    r.addInterface i = .ok { r with interfaces := r.interfaces ++ [i] } :=
  if_neg fun used => free (isSome_find?_iff.1 used)

/-- The radio with a further interface, which is made from its settings. -/
def enter (r : Radio) (c : InterfaceConfig) : Except Error Radio := do
  r.addInterface (← Interface.ofConfig c)

/-- **Entering an interface.** It is made and put behind the others if its settings are sound and
its number is free. If not, one of its faults says why. -/
theorem enter_cases (r : Radio) (c : InterfaceConfig) {taken : List UInt8}
    (same : ∀ bss, bss ∈ taken ↔ bss ∈ r.numbers) :
    ((c.Sound ∧ c.bssNum ∉ taken) ∧ ∃ i, Interface.ofConfig c = .ok i ∧
      r.enter c = .ok { r with interfaces := r.interfaces ++ [i] }) ∨
      ¬ (c.Sound ∧ c.bssNum ∉ taken) ∧
        ∃ e, r.enter c = .error e ∧ ∃ fault ∈ c.faults taken, fault.Stops e := by
  rcases Interface.ofConfig_cases c taken with ⟨sound, i, made⟩ | ⟨unsound, e, refused, fault⟩
  · have number : i.bssNum = c.bssNum := (Interface.madeFrom_of_ofConfig made).bssNum
    have entered : r.enter c = r.addInterface i := by
      rw [enter, made]
      rfl
    by_cases used : c.bssNum ∈ taken
    · refine .inr ⟨fun ready => ready.2 used, _, ?_, .numberTaken c.bssNum, ?_, .numberTaken _⟩
      · rw [entered, addInterface, number, if_pos (isSome_find?_iff.2 ((same _).1 used))]
      · simp [InterfaceConfig.faults, onlyIf, used]
    · refine .inl ⟨⟨sound, used⟩, i, made, entered.trans (addInterface_of_free ?_)⟩
      rwa [number, ← same]
  · refine .inr ⟨fun ready => unsound ready.1, e, ?_, fault⟩
    rw [enter, refused]
    rfl

/-- **Entering interfaces one after the other.** All of them are made and put behind the others if
they can be set up. If not, one of their faults says why. -/
theorem foldlM_enter_cases (cs : List InterfaceConfig) (r : Radio) {taken : List UInt8}
    (same : ∀ bss, bss ∈ taken ↔ bss ∈ r.numbers) :
    (AllReady taken cs ∧ ∃ is,
      cs.foldlM enter r = .ok { r with interfaces := r.interfaces ++ is } ∧
        List.Forall₂ (fun c i => Interface.ofConfig c = .ok i) cs is) ∨
      ¬ AllReady taken cs ∧
        ∃ e, cs.foldlM enter r = .error e ∧ ∃ fault ∈ interfaceFaults taken cs, fault.Stops e := by
  -- Faults are looked for with the numbers in reverse, so `same` asks for no order.
  induction cs generalizing r taken with
  | nil => exact .inl ⟨InterfaceConfig.allReady_nil taken, [], by simp; rfl, .nil⟩
  | cons c cs ih =>
    rw [List.foldlM_cons, interfaceFaults, allReady_cons_iff]
    rcases enter_cases r c same with
      ⟨ready, i, made, entered⟩ | ⟨unready, e, refused, fault, mem, why⟩
    · have number : i.bssNum = c.bssNum := (Interface.madeFrom_of_ofConfig made).bssNum
      have same' : ∀ bss, bss ∈ c.bssNum :: taken ↔
          bss ∈ ({ r with interfaces := r.interfaces ++ [i] } : Radio).numbers := by
        intro bss
        simp [numbers_eq, number, same, or_comm]
      rw [entered]
      rcases ih _ same' with ⟨others, is, rest, all⟩ | ⟨unready, e, rest, fault, mem, why⟩
      · exact .inl ⟨⟨ready, others⟩, i :: is, rest.trans (by simp), .cons made all⟩
      · exact .inr ⟨fun both => unready both.2, e, rest, fault, List.mem_append_right _ mem, why⟩
    · rw [refused]
      exact .inr ⟨fun both => unready both.1, e, rfl, fault, List.mem_append_left _ mem, why⟩

/-- A configuration whose interfaces can be set up starts a radio that has them. If they cannot, one
of the faults of the configuration says why. -/
theorem ofConfig_cases (c : Config) :
    (AllReady [] c.interfaces ∧ ∃ r, ofConfig c = .ok r ∧
      List.Forall₂ (fun c i => Interface.ofConfig c = .ok i) c.interfaces r.interfaces) ∨
      ¬ AllReady [] c.interfaces ∧
        ∃ e, ofConfig c = .error e ∧ ∃ fault ∈ c.faults, fault.Stops e := by
  rcases foldlM_enter_cases c.interfaces .empty (fun _ => Iff.rfl) with
    ⟨ready, is, started, all⟩ | ⟨unready, e, refused, fault, mem, why⟩
  · exact .inl ⟨ready, _, started, all⟩
  · exact .inr ⟨unready, e, refused, fault,
      List.mem_append_left _ (List.mem_append_right _ mem), why⟩

/-- A configuration without faults starts a radio with the interfaces that it describes. -/
theorem ofConfig_of_isValid {c : Config} (valid : c.isValid = true) :
    ∃ r, ofConfig c = .ok r ∧
      List.Forall₂ (fun c i => Interface.ofConfig c = .ok i) c.interfaces r.interfaces := by
  rcases ofConfig_cases c with ⟨-, started⟩ | ⟨-, e, -, fault, mem, -⟩
  · exact started
  · rw [Config.isValid, List.isEmpty_iff] at valid
    rw [valid] at mem
    cases mem

/-! ## Runs -/

/-- Does operations one after the other. -/
def run (o : Outside σ) (ops : List Op) (st : Radio × σ) : Radio × σ :=
  ops.foldl (fun st op => op.apply o st) st

@[simp] theorem run_nil (o : Outside σ) (st : Radio × σ) : run o [] st = st := rfl

@[simp] theorem run_cons (o : Outside σ) (op : Op) (ops : List Op) (st : Radio × σ) :
    run o (op :: ops) st = run o ops (op.apply o st) := rfl

/-- A run does not change what makes the interfaces the ones they are. -/
theorem identities_run (o : Outside σ) (ops : List Op) (st : Radio × σ) :
    (run o ops st).1.identities = st.1.identities :=
  identities_foldl (fun st op => op.identities_apply o st) ops st

end Radio

end Airlink
