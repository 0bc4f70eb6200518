import Airlink.Config.File
import Airlink.Proofs.Radio.Starting

/-!
# Which configurations start a radio

A radio starts just if the interfaces of its configuration have numbers of their own, addresses that
can be read, and room for stations (`Radio.exists_ofConfig_iff`). A configuration is valid just if
this holds of it and nothing else is amiss (`Config.isValid_iff`). The configuration in force is the
last valid one that was put forward (`ActiveConfig.foldl_offer`).
-/

namespace Airlink

open InterfaceConfig (AllReady)

/-! ## Configurations that start a radio -/

/-- What a radio needs of its configuration to start. -/
structure Config.Startable (c : Config) : Prop where
  numbers : (c.interfaces.map (·.bssNum)).Nodup
  addresses : ∀ i ∈ c.interfaces, ∃ addr, HwAddr.ofText? i.address = some addr
  room : ∀ i ∈ c.interfaces, 0 < i.maxStations

/-- What is known of an interface when it has just been set up: it also has the address that its
settings give as text. -/
structure Interface.SetUpFrom (c : InterfaceConfig) (i : Interface) : Prop extends
    Interface.MadeFrom c i where
  address : HwAddr.ofText? c.address = some i.settings.ownAddr

theorem InterfaceConfig.ownAddr_eq_ok_iff {c : InterfaceConfig} {addr : HwAddr} :
    c.ownAddr = .ok addr ↔ HwAddr.ofText? c.address = some addr := by
  unfold ownAddr
  cases HwAddr.ofText? c.address <;> simp

theorem Config.startable_iff {c : Config} : c.Startable ↔ AllReady [] c.interfaces := by
  constructor
  · rintro ⟨numbers, addresses, room⟩
    refine ⟨fun i mem => ⟨UInt64.pos_iff_ne_zero.1 (room i mem), ?_⟩, numbers,
      fun _ _ => List.not_mem_nil⟩
    obtain ⟨addr, read⟩ := addresses i mem
    exact ⟨addr, InterfaceConfig.ownAddr_eq_ok_iff.2 read⟩
  · rintro ⟨sound, numbers, -⟩
    refine ⟨numbers, fun i mem => ?_, fun i mem => UInt64.pos_iff_ne_zero.2 (sound i mem).room⟩
    obtain ⟨addr, read⟩ := (sound i mem).address
    exact ⟨addr, InterfaceConfig.ownAddr_eq_ok_iff.1 read⟩

/-- A configuration is valid just if it starts a radio, names the radio and all interfaces, and
gives a level of the log that is known. -/
theorem Config.isValid_iff {c : Config} :
    c.isValid = true ↔ c.Startable ∧ c.general.name ≠ "" ∧ (∀ i ∈ c.interfaces, i.name ≠ "") ∧
      c.logging.hasKnownLevel = true := by
  rw [isValid, List.isEmpty_iff, faults, List.append_eq_nil_iff, List.append_eq_nil_iff,
    onlyIf_eq_nil_iff, onlyIf_eq_nil_iff, interfaceFaults_eq_nil_iff, startable_iff,
    Bool.not_eq_false]
  constructor
  · rintro ⟨⟨named, names, ready⟩, level⟩
    exact ⟨ready, named, names, level⟩
  · rintro ⟨ready, named, names, level⟩
    exact ⟨⟨named, names, ready⟩, level⟩

/-- An interface has the address that its settings give as text. -/
theorem Interface.setUpFrom_of_ofConfig {c : InterfaceConfig} {i : Interface}
    (h : ofConfig c = .ok i) : SetUpFrom c i := by
  refine ⟨madeFrom_of_ofConfig h, InterfaceConfig.ownAddr_eq_ok_iff.1 ?_⟩
  unfold ofConfig at h
  split at h
  · cases h
  · cases read : c.ownAddr with
    | error e =>
      rw [read] at h
      cases h
    | ok addr =>
      rw [read] at h
      cases h
      rfl

namespace Radio

theorem exists_ofConfig_iff {c : Config} : (∃ r, ofConfig c = .ok r) ↔ c.Startable := by
  rw [Config.startable_iff]
  rcases ofConfig_cases c with ⟨ready, r, started, -⟩ | ⟨unready, e, refused, -⟩
  · exact iff_of_true ⟨r, started⟩ ready
  · refine iff_of_false ?_ unready
    rintro ⟨r, started⟩
    rw [refused] at started
    cases started

/-- A radio that starts has the interfaces that its configuration describes. -/
theorem forall₂_setUpFrom {c : Config} {r : Radio} (h : ofConfig c = .ok r) :
    List.Forall₂ Interface.SetUpFrom c.interfaces r.interfaces := by
  rcases ofConfig_cases c with ⟨-, r', started, made⟩ | ⟨-, e, refused, -⟩
  · rw [started] at h
    cases h
    exact made.imp fun _ _ => Interface.setUpFrom_of_ofConfig
  · rw [refused] at h
    cases h

/-- What keeps a radio from starting is among the faults of its configuration. -/
theorem exists_fault_of_ofConfig_error {c : Config} {e : Error} (h : ofConfig c = .error e) :
    ∃ fault ∈ c.faults, fault.Stops e := by
  rcases ofConfig_cases c with ⟨-, r, started, -⟩ | ⟨-, e', refused, fault⟩
  · rw [started] at h
    cases h
  · rw [refused] at h
    cases h
    exact fault

end Radio

/-! ## The configuration in force -/

namespace ActiveConfig

variable (current : ActiveConfig)

/-- What is in force after a configuration was put forward. -/
def offer (c : Config) : ActiveConfig := (current.replace c).toOption.getD current

/-- A configuration that is put forward is in force just if it is valid, and else what was in force
stays. -/
theorem offer_eq (c : Config) :
    current.offer c = if c.isValid = true then { current with config := c } else current := by
  unfold offer replace
  split <;> rfl

theorem replace_eq_ok_iff {c : Config} {next : ActiveConfig} :
    current.replace c = .ok next ↔ c.isValid = true ∧ next = { current with config := c } := by
  unfold replace
  split
  · next valid => simp [valid, eq_comm]
  · next refused => simp [refused]

/-- After several were put forward, the last valid one is in force. -/
theorem foldl_offer (cs : List Config) :
    cs.foldl offer current =
      { current with config := (cs.filter (·.isValid)).getLastD current.config } := by
  induction cs generalizing current with
  | nil => rfl
  | cons c cs ih =>
    rw [List.foldl_cons, ih, offer_eq, List.filter_cons]
    split
    · rw [List.getLastD_cons]
    · rfl

end ActiveConfig

/-- **Starting, and validating.** A configuration starts a radio just if no two interfaces have one
number, all addresses can be read and every interface has room for stations. The radio has the
interfaces that are configured, one by one and in order. A configuration is valid just if it starts
a radio and nothing else is amiss with it, so a valid one always does. If a radio does not start,
what keeps it from starting is one of the faults that are found.

A configuration that is put forward replaces the one in force if it is valid, and else what is in
force stays as it is, however many of them are put forward. -/
theorem start_up (c : Config) :
    ((∃ r, Radio.ofConfig c = .ok r) ↔ c.Startable) ∧
    (∀ r, Radio.ofConfig c = .ok r →
      List.Forall₂ Interface.SetUpFrom c.interfaces r.interfaces) ∧
    (c.isValid = true ↔ c.Startable ∧ c.general.name ≠ "" ∧ (∀ i ∈ c.interfaces, i.name ≠ "") ∧
      c.logging.hasKnownLevel = true) ∧
    (c.isValid = true → ∃ r, Radio.ofConfig c = .ok r) ∧
    (∀ e, Radio.ofConfig c = .error e → ∃ fault ∈ c.faults, fault.Stops e) ∧
    ∀ current : ActiveConfig,
      (∀ next, current.replace c = .ok next ↔
        c.isValid = true ∧ next = { current with config := c }) ∧
      (c.isValid = false → current.offer c = current) ∧
      ∀ cs : List Config, cs.foldl ActiveConfig.offer current =
        { current with config := (cs.filter (·.isValid)).getLastD current.config } := by
  refine ⟨Radio.exists_ofConfig_iff,
    fun r => Radio.forall₂_setUpFrom, Config.isValid_iff,
    fun valid => Radio.exists_ofConfig_iff.2 (Config.isValid_iff.1 valid).1,
    fun e => Radio.exists_fault_of_ofConfig_error, fun current => ⟨fun next => ?_, ?_, ?_⟩⟩
  · exact current.replace_eq_ok_iff
  · intro refused
    rw [current.offer_eq, if_neg (by simp [refused])]
  · exact current.foldl_offer

/-- The second interface has the number of the first, which has room for no stations and half an
address. The level of the log is not known either. -/
def Config.faulty : Config where
  general := .standard
  interfaces := [
    { InterfaceConfig.standard with address := "02:00:00", maxStations := 0 },
    { InterfaceConfig.standard with name := "uap0", role := .accessPoint }]
  logging := { LoggingConfig.standard with level := "loud" }

/-- The usual two interfaces are set up, and stay in force when a configuration with four faults is
put forward. -/
theorem start_up_sample :
    (∃ r, Radio.ofConfig .sample = .ok r ∧
      List.Forall₂ Interface.SetUpFrom Config.sample.interfaces r.interfaces) ∧
    Config.faulty.faults.length = 4 ∧ (¬ ∃ r, Radio.ofConfig .faulty = .ok r) ∧
    [.sample, .faulty].foldl ActiveConfig.offer .standard = ⟨.sample, none⟩ := by
  obtain ⟨-, described, -, starts, -, inForce⟩ := start_up .sample
  obtain ⟨starts_iff, -⟩ := start_up .faulty
  obtain ⟨r, started⟩ := starts (by decide +kernel)
  refine ⟨⟨r, started, described r started⟩, by decide +kernel, ?_, ?_⟩
  · rw [starts_iff]
    intro startable
    exact absurd startable.numbers (by decide)
  · rw [(inForce .standard).2.2]
    decide +kernel

end Airlink
