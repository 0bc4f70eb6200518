import Airlink.Config.Basic
import Airlink.Text.Doc

/-!
# Configurations as documents

Which documents are configurations, whatever the format they are written in. The general settings
must be complete; a field of an interface or of logging that is not there has its usual value.
-/

namespace Airlink

open Text

/-- A role by its name. -/
def Role.ofDoc? (d : Doc) : Option Role := d.choice?.bind Role.ofKey?

/-- A forwarding policy by its bits. -/
def ForwardingPolicy.ofDoc? (d : Doc) : Option ForwardingPolicy :=
  d.uint8?.map ForwardingPolicy.mk

/-- The general settings that a document holds. -/
def GeneralConfig.ofDoc? (d : Doc) : Option GeneralConfig := do
  match ← d.record? ["name", "tx_drain_budget"] with
  | [name, drainBudget] =>
    return {
      name := ← Doc.required? Doc.text? name
      drainBudget := ← Doc.required? Doc.uint64? drainBudget
    }
  | _ => none

/-- The names of the fields of an interface. -/
def InterfaceConfig.fieldNames : List String :=
  ["name", "role", "bss_num", "mac_address", "eleven_n", "mgmt_passthrough",
    "gratuitous_arp_filter", "net_monitor", "monitor_multicast", "max_stations",
    "station_timeout_secs", "forwarding"]

/-- The interface that a document describes. -/
def InterfaceConfig.ofDoc? (d : Doc) : Option InterfaceConfig := do
  let usual := InterfaceConfig.standard
  match ← d.record? fieldNames with
  | [name, role, bssNum, address, blockAck, mgmtPassthrough, arpFilter, rawMonitor, groupMonitor,
      maxStations, stationTimeout, forwarding] =>
    return {
      name := ← Doc.field? usual.name Doc.text? name
      role := ← Doc.field? usual.role Role.ofDoc? role
      bssNum := ← Doc.field? usual.bssNum Doc.uint8? bssNum
      address := ← Doc.field? usual.address Doc.text? address
      blockAck := ← Doc.field? usual.blockAck Doc.bool? blockAck
      mgmtPassthrough := ← Doc.field? usual.mgmtPassthrough Doc.bool? mgmtPassthrough
      arpFilter := ← Doc.field? usual.arpFilter Doc.bool? arpFilter
      rawMonitor := ← Doc.field? usual.rawMonitor Doc.bool? rawMonitor
      groupMonitor := ← Doc.field? usual.groupMonitor Doc.bool? groupMonitor
      maxStations := ← Doc.field? usual.maxStations Doc.uint64? maxStations
      stationTimeout := ← Doc.field? usual.stationTimeout Doc.uint64? stationTimeout
      forwarding := ← Doc.field? usual.forwarding ForwardingPolicy.ofDoc? forwarding
    }
  | _ => none

/-- The settings of the log that a document holds. -/
def LoggingConfig.ofDoc? (d : Doc) : Option LoggingConfig := do
  let usual := LoggingConfig.standard
  match ← d.record? ["level", "show_target", "show_thread_ids"] with
  | [level, showTarget, showThreadIds] =>
    return {
      level := ← Doc.field? usual.level Doc.text? level
      showTarget := ← Doc.field? usual.showTarget Doc.bool? showTarget
      showThreadIds := ← Doc.field? usual.showThreadIds Doc.bool? showThreadIds
    }
  | _ => none

/-- The configuration that a document is. -/
def Config.ofDoc? (d : Doc) : Option Config := do
  match ← d.record? ["general", "interfaces", "logging"] with
  | [general, interfaces, logging] =>
    return {
      general := ← Doc.required? GeneralConfig.ofDoc? general
      interfaces := ← Doc.field? [] (Doc.list? InterfaceConfig.ofDoc?) interfaces
      logging := ← Doc.field? .standard LoggingConfig.ofDoc? logging
    }
  | _ => none

end Airlink
