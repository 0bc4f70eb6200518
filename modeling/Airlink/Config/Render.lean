import Airlink.Config.Basic
import Airlink.Text.Tree

/-!
# Configurations as trees

The fields of a configuration in the order in which every format writes them.
-/

namespace Airlink

open Text

/-- The general settings as fields. -/
def GeneralConfig.fields (c : GeneralConfig) : List (String × Tree) :=
  [("name", .text c.name), ("tx_drain_budget", .number c.drainBudget.toNat)]

/-- The settings of an interface as fields. -/
def InterfaceConfig.fields (c : InterfaceConfig) : List (String × Tree) :=
  [("name", .text c.name), ("role", .text c.role.key), ("bss_num", .number c.bssNum.toNat),
    ("mac_address", .text c.address), ("eleven_n", .flag c.blockAck),
    ("mgmt_passthrough", .flag c.mgmtPassthrough), ("gratuitous_arp_filter", .flag c.arpFilter),
    ("net_monitor", .flag c.rawMonitor), ("monitor_multicast", .flag c.groupMonitor),
    ("max_stations", .number c.maxStations.toNat),
    ("station_timeout_secs", .number c.stationTimeout.toNat),
    ("forwarding", .number c.forwarding.bits.toNat)]

/-- The settings of the log as fields. -/
def LoggingConfig.fields (c : LoggingConfig) : List (String × Tree) :=
  [("level", .text c.level), ("show_target", .flag c.showTarget),
    ("show_thread_ids", .flag c.showThreadIds)]

/-- A configuration as fields. -/
def Config.fields (c : Config) : List (String × Tree) :=
  [("general", .record c.general.fields),
    ("interfaces", .records (c.interfaces.map InterfaceConfig.fields)),
    ("logging", .record c.logging.fields)]

end Airlink
