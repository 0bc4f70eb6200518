import Airlink.Descriptor.Transmit
import Airlink.Text.Doc

/-!
# Transmit hints as documents

Which documents are transmit hints. A hint that is not there is not given; a power must be complete.
-/

namespace Airlink

open Text

/-- The transmit power that a document holds. -/
def TxPower.ofDoc? (d : Doc) : Option TxPower := do
  match ← d.record? ["dbm", "host_controlled"] with
  | [dbm, hostControlled] =>
    return {
      dbm := ← Doc.required? Doc.int8? dbm
      hostControlled := ← Doc.required? Doc.bool? hostControlled
    }
  | _ => none

/-- The hints that a document holds. -/
def TransmitHints.ofDoc? (d : Doc) : Option TransmitHints := do
  let octet := Doc.field? .none (Doc.optional? Doc.uint8?)
  let flag := Doc.field? false Doc.bool?
  match ← d.record? ["rate", "power", "retry_limit", "bandwidth", "channel", "cycle_start",
      "cycle_end", "report_status", "status_token"] with
  | [rate, power, retryLimit, bandwidth, channel, cycleStart, cycleEnd, reportStatus,
      statusToken] =>
    return {
      rate := ← octet rate
      power := ← Doc.field? .none (Doc.optional? TxPower.ofDoc?) power
      retryLimit := ← octet retryLimit
      bandwidth := ← octet bandwidth
      channel := ← octet channel
      cycleStart := ← flag cycleStart
      cycleEnd := ← flag cycleEnd
      reportStatus := ← flag reportStatus
      statusToken := ← octet statusToken
    }
  | _ => .none

end Airlink
