import Airlink.Descriptor.Receive
import Airlink.Descriptor.Transmit
import Airlink.Radio
import Airlink.Text.Json

/-!
# Reports

Descriptors, the circumstances of reception, and counters as JSON values.
-/

namespace Airlink

open Text (Json)

/-- A modulation as a JSON value. -/
def RateInfo.toJson (r : RateInfo) : Json :=
  .obj [("bandwidth", .str r.bandwidth.name), ("format", .str r.format.name),
    ("ldpc", .bool r.ldpc), ("short_gi", .bool r.shortGi), ("stbc", .bool r.stbc)]

/-- The fields of a receive descriptor. -/
def RxDescriptor.fields (d : RxDescriptor) : List (String × Json) :=
  [("antenna", .nat d.antenna.toNat), ("bss_num", .nat d.bssNum.toNat),
    ("bss_type", .nat d.bssType.toNat), ("flags", .nat d.flags.toNat), ("nf", .int d.nf.toInt),
    ("pkt_length", .nat d.pktLength.toNat), ("pkt_offset", .nat d.pktOffset.toNat),
    ("pkt_type", .nat d.pktType.toNat), ("priority", .nat d.priority.toNat),
    ("rate_info", d.rateInfo.toJson), ("rx_rate", .nat d.rxRate.toNat),
    ("seq_num", .nat d.seqNum.toNat), ("snr", .int d.snr.toInt)]

/-- The fields of a transmit descriptor, with the control words as numbers. -/
def TxDescriptor.fields (d : TxDescriptor) : List (String × Json) :=
  [("bss_type", .nat d.bssType.toNat), ("bss_num", .nat d.bssNum.toNat),
    ("pkt_length", .nat d.pktLength.toNat), ("pkt_offset", .nat d.pktOffset.toNat),
    ("pkt_type", .nat d.pktType.toNat), ("tx_control", .nat d.control.bits.toNat),
    ("priority", .nat d.priority.toNat), ("flags", .nat d.flags.toNat),
    ("pkt_delay_2ms", .nat d.pktDelay2ms.toNat), ("tx_token_id", .nat d.tokenId.toNat),
    ("tx_control_1", .nat d.channelControl.bits.toNat)]

/-- How a frame was received, as fields. -/
def Reception.fields (r : Reception) : List (String × Json) :=
  [("format", .str r.format.name), ("legacy_rate", .opt (fun n => .nat n.toNat) r.legacyRate),
    ("mcs", .nat r.mcs.toNat), ("nss", .nat r.nss.toNat), ("bandwidth", .str r.bandwidth.name),
    ("short_gi", .bool r.shortGi), ("stbc", .bool r.stbc), ("ldpc", .bool r.ldpc),
    ("signal_dbm", .int r.signalDbm.toInt), ("noise_dbm", .int r.noiseDbm.toInt),
    ("antenna", .nat r.antenna.toNat),
    ("channel_freq", .opt (fun n => .nat n.toNat) r.channelFreq)]

/-- The counters by their names, with the drops for all reasons together. -/
def Counters.entries (c : Counters) : List (String × UInt64) :=
  [("rx_packets", c.rxPackets), ("rx_bytes", c.rxBytes), ("tx_packets", c.txPackets),
    ("tx_bytes", c.txBytes), ("delivered", c.delivered), ("delivery_pending", c.deliveryPending),
    ("forwarded", c.forwarded), ("retransmitted", c.retransmitted),
    ("monitor_copies", c.monitorCopies), ("events", c.events),
    ("reorder_handoffs", c.reorderHandoffs), ("busy_requeues", c.busyRequeues),
    ("transport_failures", c.transportFailures), ("oversized_rejects", c.oversizedRejects),
    ("dropped", c.dropped)]

/-- Counts by their names as a JSON value. -/
def countsJson (counts : List (String × UInt64)) : List (String × Json) :=
  counts.map fun (name, n) => (name, .nat n.toNat)

/-- Counters as a JSON value, with the seconds for which they have been kept. -/
def Counters.toJson (uptime : Nat) (c : Counters) : Json :=
  .obj (countsJson c.entries ++ [("drops", .obj (countsJson c.dropCounts)),
    ("uptime_secs", .nat uptime)])

/-- The counters of a radio as a JSON value. -/
def Radio.toJson (uptime : Nat) (r : Radio) : Json :=
  .obj [("interfaces", .obj (r.report.map fun (name, c) => (name, c.toJson uptime))),
    ("unattributed", r.unattributed.toJson uptime)]

end Airlink
