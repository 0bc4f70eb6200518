import Airlink.Forwarding
import Airlink.Ieee80211.Error
import Airlink.Role

/-!
# Configuration

What a radio is set up from: general settings, its interfaces, and logging. Every field of an
interface and of logging has a default.
-/

namespace Airlink

/-- General settings of a radio. -/
structure GeneralConfig where
  name : String
  /-- Rounds in which deferred frames are sent at the end of a replay. -/
  drainBudget : UInt64
  deriving DecidableEq, Repr

/-- Settings of one interface. -/
structure InterfaceConfig where
  name : String
  role : Role
  bssNum : UInt8
  /-- The hardware address in text form. -/
  address : String
  /-- Frames of block-ack sessions go through the reorder engine. -/
  blockAck : Bool
  mgmtPassthrough : Bool
  arpFilter : Bool
  rawMonitor : Bool
  groupMonitor : Bool
  maxStations : UInt64
  stationTimeout : UInt64
  forwarding : ForwardingPolicy
  deriving DecidableEq, Repr

/-- Settings of the log. -/
structure LoggingConfig where
  /-- A level, or a list of filter directives. -/
  level : String
  showTarget : Bool
  showThreadIds : Bool
  deriving DecidableEq, Repr

/-- The settings of a radio. -/
structure Config where
  general : GeneralConfig
  interfaces : List InterfaceConfig
  logging : LoggingConfig
  deriving DecidableEq, Repr

/-- The usual general settings. -/
def GeneralConfig.standard : GeneralConfig where
  name := "wlan0"
  drainBudget := 64

/-- A station interface with the usual settings. -/
def InterfaceConfig.standard : InterfaceConfig where
  name := "mlan0"
  role := .station
  bssNum := 0
  address := "02:00:00:00:00:01"
  blockAck := false
  mgmtPassthrough := false
  arpFilter := true
  rawMonitor := false
  groupMonitor := false
  maxStations := 64
  stationTimeout := 300
  forwarding := .standard

/-- The usual settings of the log. -/
def LoggingConfig.standard : LoggingConfig where
  level := "info"
  showTarget := true
  showThreadIds := false

/-- A radio with the usual settings and no interface. -/
def Config.standard : Config where
  general := .standard
  interfaces := []
  logging := .standard

/-- A radio with a station interface and an access point. -/
def Config.sample : Config where
  general := .standard
  interfaces := [
    .standard,
    { InterfaceConfig.standard with
      name := "uap0", role := .accessPoint, bssNum := 1, address := "02:00:00:00:01:01" }]
  logging := .standard

/-- The hardware address of an interface, if its text form names one. -/
def InterfaceConfig.ownAddr (c : InterfaceConfig) : Except Ieee80211.Error HwAddr :=
  match HwAddr.ofText? c.address with
  | some addr => .ok addr
  | none => .error (.invalidAddress c.address)

end Airlink
