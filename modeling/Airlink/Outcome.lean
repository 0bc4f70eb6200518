import Airlink.Buffer

/-!
# Outcomes

What becomes of a received frame. Every frame gets an outcome: the host has it, it is relayed, it is
an event, or it is dropped for one of fourteen reasons.
-/

namespace Airlink

/-- Why a frame was dropped. -/
inductive DropReason where
  /-- Offset and length of the descriptor do not fit the buffer. -/
  | sizeInvalid
  | unsupportedFrameClass
  /-- A header or a part is shorter than it says. -/
  | truncated
  /-- A management frame where nobody asked for them. -/
  | managementFiltered
  /-- A raw frame without data that could be routed. -/
  | notDataFrame
  | gratuitousArp
  | unsolicitedNeighborAdvert
  /-- A unicast destination that no interface knows, where the data path relays. -/
  | unroutableUnicast
  | noBlockAckSession
  | reorderRejected
  /-- A raw frame at a station without a monitor. -/
  | monitorDisabled
  | deliveryFailed
  /-- An aggregate where single frames are expected. -/
  | aggregateNotSplit
  /-- A descriptor that names no interface. -/
  | unknownInterface
  deriving DecidableEq, Repr, Inhabited

namespace DropReason

/-- All reasons in the order of their indices. -/
def all : List DropReason :=
  [.sizeInvalid, .unsupportedFrameClass, .truncated, .managementFiltered, .notDataFrame,
    .gratuitousArp, .unsolicitedNeighborAdvert, .unroutableUnicast, .noBlockAckSession,
    .reorderRejected, .monitorDisabled, .deliveryFailed, .aggregateNotSplit, .unknownInterface]

/-- The position of a reason in `all`. -/
def index : DropReason → Fin 14
  | .sizeInvalid => 0
  | .unsupportedFrameClass => 1
  | .truncated => 2
  | .managementFiltered => 3
  | .notDataFrame => 4
  | .gratuitousArp => 5
  | .unsolicitedNeighborAdvert => 6
  | .unroutableUnicast => 7
  | .noBlockAckSession => 8
  | .reorderRejected => 9
  | .monitorDisabled => 10
  | .deliveryFailed => 11
  | .aggregateNotSplit => 12
  | .unknownInterface => 13

theorem getElem?_all_index (r : DropReason) : all[r.index.val]? = some r := by
  cases r <;> rfl

/-- The key under which drops for a reason are reported. -/
def key : DropReason → String
  | .sizeInvalid => "size_invalid"
  | .unsupportedFrameClass => "unsupported_frame_class"
  | .truncated => "truncated"
  | .managementFiltered => "management_filtered"
  | .notDataFrame => "not_data_frame"
  | .gratuitousArp => "gratuitous_arp"
  | .unsolicitedNeighborAdvert => "unsolicited_neighbor_advert"
  | .unroutableUnicast => "unroutable_unicast"
  | .noBlockAckSession => "no_block_ack_session"
  | .reorderRejected => "reorder_rejected"
  | .monitorDisabled => "monitor_disabled"
  | .deliveryFailed => "delivery_failed"
  | .aggregateNotSplit => "aggregate_not_split"
  | .unknownInterface => "unknown_interface"

end DropReason

/-- Where a relayed frame goes out. -/
inductive Scope where
  /-- Back among the stations of the receiving interface. -/
  | bss
  /-- Through the sibling interface with this number. -/
  | sibling (bss : UInt8)
  deriving DecidableEq, Repr

/-- Results for the host that are no data frames. -/
inductive HostEvent where
  /-- Text from firmware. -/
  | debug (text : String)
  /-- A management frame. -/
  | management (frame : Bytes)
  /-- A raw frame behind a radiotap header. -/
  | monitor (buf : Buffer)
  deriving DecidableEq, Repr

/-- A copy made of a frame that goes on to the host. -/
inductive Duplicate where
  /-- A copy to send out again. -/
  | retransmit (buf : Buffer) (scope : Scope)
  /-- A copy for a monitor. -/
  | monitor (buf : Buffer)
  deriving DecidableEq, Repr

/-- The fate of a frame. -/
inductive Outcome where
  | deliver (buf : Buffer)
  | forward (buf : Buffer) (scope : Scope)
  /-- The frame goes to the host and the copies go their ways. -/
  | duplicate (buf : Buffer) (copies : List Duplicate)
  | event (e : HostEvent)
  | drop (reason : DropReason)
  deriving DecidableEq, Repr

/-- Whether a frame was dropped. -/
def Outcome.isDrop : Outcome → Bool
  | .drop _ => true
  | _ => false

end Airlink
