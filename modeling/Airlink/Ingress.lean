import Airlink.Aggregate
import Airlink.Descriptor.Receive
import Airlink.Forwarding
import Airlink.Radiotap
import Airlink.Role
import Airlink.Screening
import Airlink.Text.Utf8
import Airlink.Translation

/-!
# Ingress

What becomes of a received frame, by the class that its descriptor names. Debug text, management
frames and raw frames for a monitor become events. Data frames are translated to Ethernet-II,
screened and, at an access point, routed.

`Ingress.process` takes a single frame and `Ingress.processAll` one that may be an aggregate. Both
carry a state along: the station table, and the direct-link frames seen so far, which are reported
to whoever negotiates capabilities.
-/

namespace Airlink

/-- A direct-link frame that was seen. -/
structure TdlsReport where
  peer : HwAddr
  capabilities : Capabilities
  action : TdlsAction
  deriving DecidableEq, Repr

namespace Ingress

/-- What an interface is set to do with received frames. -/
structure Settings where
  role : Role
  ownAddr : HwAddr
  /-- Management frames go to the host. -/
  mgmtPassthrough : Bool
  /-- Packets that may take over an address are dropped. -/
  arpFilter : Bool
  /-- Raw frames go to a monitor. -/
  rawMonitor : Bool
  /-- Group traffic that is routed is copied to a monitor. -/
  groupMonitor : Bool
  forwarding : ForwardingPolicy
  deriving DecidableEq, Repr

/-- What processing a frame depends on, apart from the frame and the state. -/
structure Env where
  settings : Settings
  near : Neighbors
  now : Instant

/-- What processing a frame changes. -/
structure State where
  stations : StationTable
  /-- In the order in which they were seen. -/
  reports : List TdlsReport
  deriving DecidableEq, Repr

/-! ## Pieces of a buffer -/

/-- The buffer cut down to the payload that its descriptor names. -/
def strip (buf : Buffer) (desc : RxDescriptor) : Except Error Buffer :=
  (buf.advance desc.pktOffset.toNat).map (·.truncate desc.pktLength.toNat)

/-- The type of the 802.11 frame that some octets are. -/
def frameTypeOf (frame : Bytes) : Option Ieee80211.FrameType :=
  if 2 ≤ frame.length then some (Ieee80211.FrameControl.mk (frame.le16At 0)).type else none

/-- A copy of a raw frame for a monitor, with a radiotap header in front. -/
def monitorCopy (buf : Buffer) (desc : RxDescriptor) : Option Buffer :=
  (desc.payload? buf.window).map fun payload =>
    { (Buffer.withHeadroom .rx Buffer.defaultHeadroom
        (Radiotap.prefixed desc.reception payload)) with
      flags := buf.flags.insert BufferFlags.monitor
      priority := buf.priority
      rxStamped := buf.rxStamped
      frameType := frameTypeOf payload }

/-- The raw frame in a buffer made the frame for the monitor in place. -/
def monitorInPlace (buf : Buffer) (desc : RxDescriptor) : Buffer :=
  (({ buf with frameType := frameTypeOf buf.window }).prepend
    (Radiotap.ofReception desc.reception).encode).flag BufferFlags.monitor

/-- The text that firmware wrote, without the zeros behind it. -/
def debugText (data : Bytes) : String :=
  String.ofList ((Text.Utf8.decodeLossy data).toList.reverse.dropWhile (· == '\x00')).reverse

/-! ## Direct links -/

/-- The station table after a direct-link frame from a peer. A station adds and removes peers; an
access point only learns about those that it has. -/
def learn (env : Env) (stations : StationTable) (peer : HwAddr) (tdls : Tdls) : StationTable :=
  match env.settings.role with
  | .station =>
    if tdls.action = .teardown then stations.disassociate peer
    else if tdls.capabilities.isEmpty then stations
    else
      match stations.enter peer env.now with
      | .ok stations => stations.grant peer tdls.capabilities
      | .error _ => stations
  | .accessPoint =>
    if tdls.action = .teardown ∨ tdls.capabilities.isEmpty then stations
    else stations.grant peer tdls.capabilities

/-- The state after a direct-link frame from a peer. -/
def note (env : Env) (st : State) (peer : HwAddr) (tdls : Tdls) : State where
  stations := learn env st.stations peer tdls
  reports := st.reports ++ [⟨peer, tdls.capabilities, tdls.action⟩]

/-! ## Data frames -/

/-- The fate of an Ethernet-II frame that passed the screening. -/
def routeTo (env : Env) (st : State) (buf : Buffer) (dest : HwAddr) : Outcome :=
  match env.settings.role with
  | .station => .deliver buf
  | .accessPoint =>
    Forwarding.decide
      { policy := env.settings.forwarding
        ownAddr := env.settings.ownAddr
        stations := st.stations
        near := env.near
        monitorGroup := env.settings.groupMonitor }
      buf dest

/-- The verdict on the packet of a translated frame, if it is known where the packet starts. -/
def screen (env : Env) (translation : Translation) (frame : Bytes) : Screening.Verdict :=
  match translation.networkLayer with
  | none => .pass
  | some (etherType, start) =>
    Screening.inspect etherType (frame.drop start) env.settings.arpFilter

/-- Translates, screens and routes a frame whose window starts at the destination address. -/
def route (env : Env) (st : State) (buf : Buffer) : Outcome × State :=
  match buf.toEthernet with
  | .error _ => (.drop .truncated, st)
  | .ok (translation, buf) =>
    let frame := buf.window
    let dest := HwAddr.ofSlice frame 0
    match screen env translation frame with
    | .drop reason => (.drop reason, st)
    | .pass => (routeTo env st buf dest, st)
    | .tdls tdls =>
      let st := note env st (HwAddr.ofSlice frame 6) tdls
      (routeTo env st buf dest, st)

/-! ## Raw frames -/

/-- Whether an error says that a frame is too short. -/
def isTruncation : Error → Bool
  | .truncated .. => true
  | .frame (.truncated ..) => true
  | _ => false

/-- Processes the payload of a raw 802.11 frame. -/
def processRaw (env : Env) (st : State) (buf : Buffer) (desc : RxDescriptor) : Outcome × State :=
  match env.settings.role with
  | .station =>
    if env.settings.rawMonitor then (.event (.monitor (monitorInPlace buf desc)), st)
    else (.drop .monitorDisabled, st)
  | .accessPoint =>
    match buf.dot11To8023 with
    | .ok (_, buf) => route env st buf
    | .error e => (.drop (if isTruncation e then .truncated else .notDataFrame), st)

/-! ## All classes -/

/-- Continues with the payload of a frame, if the descriptor fits the buffer. -/
def withPayload (st : State) (buf : Buffer) (desc : RxDescriptor)
    (next : Buffer → Outcome × State) : Outcome × State :=
  match strip buf desc with
  | .ok payload => next payload
  | .error _ => (.drop .sizeInvalid, st)

/-- Processes a single frame. -/
def process (env : Env) (st : State) (buf : Buffer) (desc : RxDescriptor) : Outcome × State :=
  match desc.frameClass with
  | none => (.drop .unsupportedFrameClass, st)
  | some .debug =>
    withPayload st buf desc fun payload => (.event (.debug (debugText payload.window)), st)
  | some .management =>
    if env.settings.mgmtPassthrough then
      withPayload st buf desc fun payload => (.event (.management payload.window), st)
    else (.drop .managementFiltered, st)
  | some .blockAckRequest => (.drop .noBlockAckSession, st)
  | some .amsdu => (.drop .aggregateNotSplit, st)
  | some .raw80211 => withPayload st buf desc fun payload => processRaw env st payload desc
  | some .data => withPayload st buf desc (route env st)

/-- Processes the parts of an aggregate one after the other. -/
def processParts (env : Env) (desc : RxDescriptor) : State → List Buffer → List Outcome × State
  | st, [] => ([], st)
  | st, part :: parts =>
    let (outcome, st) := process env st part (desc.forSubframe part.size)
    let (outcomes, st) := processParts env desc st parts
    (outcome :: outcomes, st)

/-- Processes a frame that may be an aggregate, with one outcome for each part. -/
def processAll (env : Env) (st : State) (buf : Buffer) (desc : RxDescriptor) :
    List Outcome × State :=
  if desc.frameClass = some .amsdu then
    match desc.payload? buf.window with
    | none => ([.drop .sizeInvalid], st)
    | some payload =>
      let (parts, truncated) := Aggregate.split payload buf
      let (outcomes, st) := processParts env desc st parts
      (outcomes ++ (if truncated then [.drop .truncated] else []), st)
  else
    let (outcome, st) := process env st buf desc
    ([outcome], st)

end Ingress

end Airlink
