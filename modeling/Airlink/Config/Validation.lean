import Airlink.Config.Basic
import Airlink.Error

/-!
# Validating configurations

What is wrong with a configuration, and what is only worth a remark. A configuration without faults
is valid; its interfaces can be set up.
-/

namespace Airlink

/-- Why a configuration is not valid. -/
inductive ConfigFault where
  | noRadioName
  | noInterfaceName (bss : UInt8)
  /-- An earlier interface has the number. -/
  | numberTaken (bss : UInt8)
  | badAddress (interface : String) (cause : Ieee80211.Error)
  | noStations (interface : String)
  | badLevel (level : String)
  deriving DecidableEq, Repr

/-- What is odd about a configuration. -/
inductive ConfigRemark where
  | neverDrained
  | noInterfaces
  | policyIgnored (interface : String)
  | copiedBeforeRouting (interface : String)
  deriving DecidableEq, Repr

/-- The names of the log levels. -/
def logLevels : List String := ["trace", "debug", "info", "warn", "error"]

/-- The sentence a fault is reported with. -/
def ConfigFault.message : ConfigFault → String
  | .noRadioName => "Radio name cannot be empty"
  | .noInterfaceName bss => s!"Interface with bss_num {bss.toNat} has no name"
  | .numberTaken bss => s!"Duplicate bss_num {bss.toNat}"
  | .badAddress interface cause => s!"Interface '{interface}': {(Error.frame cause).message}"
  | .noStations interface => s!"Interface '{interface}': max_stations cannot be 0"
  | .badLevel level =>
    s!"Invalid log level '{level}', must be one of: " ++ ", ".intercalate logLevels

/-- The sentence a remark is reported with. -/
def ConfigRemark.message : ConfigRemark → String
  | .neverDrained => "tx_drain_budget is 0, deferred frames are never drained"
  | .noInterfaces => "No interfaces configured"
  | .policyIgnored interface =>
    s!"Interface '{interface}': forwarding policy is ignored in station role"
  | .copiedBeforeRouting interface =>
    s!"Interface '{interface}': raw frames are copied to the monitor before routing"

/-- A list of one item if a condition holds, and else of none. -/
def onlyIf (p : Prop) [Decidable p] (a : α) : List α := if p then [a] else []

/-- What is wrong with an interface, where some numbers are taken. -/
def InterfaceConfig.faults (taken : List UInt8) (c : InterfaceConfig) : List ConfigFault :=
  onlyIf (c.name = "") (.noInterfaceName c.bssNum) ++
    onlyIf (c.bssNum ∈ taken) (.numberTaken c.bssNum) ++
    (match c.ownAddr with
      | .ok _ => []
      | .error e => [.badAddress c.name e]) ++
    onlyIf (c.maxStations = 0) (.noStations c.name)

/-- What is wrong with the interfaces of a list, where some numbers are taken. -/
def interfaceFaults : List UInt8 → List InterfaceConfig → List ConfigFault
  | _, [] => []
  | taken, c :: cs => c.faults taken ++ interfaceFaults (c.bssNum :: taken) cs

/-- Whether a level of the log starts with the name of a level or with a directive. -/
def LoggingConfig.hasKnownLevel (c : LoggingConfig) : Bool :=
  let first := c.level.toList.takeWhile (· ≠ ',')
  logLevels.contains (String.ofList first) || first.contains '='

/-- What is wrong with a configuration. -/
def Config.faults (c : Config) : List ConfigFault :=
  onlyIf (c.general.name = "") .noRadioName ++ interfaceFaults [] c.interfaces ++
    onlyIf (c.logging.hasKnownLevel = false) (.badLevel c.logging.level)

/-- What is odd about an interface. -/
def InterfaceConfig.remarks (c : InterfaceConfig) : List ConfigRemark :=
  onlyIf (c.role = .station ∧ c.forwarding.isEnabled) (.policyIgnored c.name) ++
    onlyIf (c.role = .accessPoint ∧ c.rawMonitor) (.copiedBeforeRouting c.name)

/-- What is odd about a configuration. -/
def Config.remarks (c : Config) : List ConfigRemark :=
  onlyIf (c.general.drainBudget = 0) .neverDrained ++
    onlyIf (c.interfaces = []) .noInterfaces ++ c.interfaces.flatMap (·.remarks)

/-- Whether a configuration has no faults. -/
def Config.isValid (c : Config) : Bool := c.faults.isEmpty

/-- The faults of a configuration in one line. -/
def Config.faultText (c : Config) : String := ", ".intercalate (c.faults.map (·.message))

end Airlink
