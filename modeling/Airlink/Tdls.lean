import Airlink.Element

/-!
# Direct-link setup

Two stations of one access point set up a direct link by action frames, carried as packets with an
ethertype of their own. `Tdls.parse?` reads one: payload type, category, action code, the fixed
fields of the action, and elements.
-/

namespace Airlink

/-- The actions that the data path takes note of. -/
inductive TdlsAction where
  | setupRequest
  | setupResponse
  | setupConfirm
  | teardown
  | discoveryRequest
  deriving DecidableEq, Repr, Inhabited

namespace TdlsAction

/-- The code of an action. -/
def code : TdlsAction → UInt8
  | .setupRequest => 0
  | .setupResponse => 1
  | .setupConfirm => 2
  | .teardown => 3
  | .discoveryRequest => 10

/-- The action that a code names. -/
def ofCode? (code : UInt8) : Option TdlsAction :=
  if code = 0 then some .setupRequest
  else if code = 1 then some .setupResponse
  else if code = 2 then some .setupConfirm
  else if code = 3 then some .teardown
  else if code = 10 then some .discoveryRequest
  else none

/-- The octets between the action code and the first element. -/
def fixedSize : TdlsAction → Nat
  | .setupRequest => 3
  | .setupResponse => 5
  | .setupConfirm => 3
  | .teardown => 2
  | .discoveryRequest => 1

/-- Whether the fixed fields start with a status. -/
def hasStatus : TdlsAction → Bool
  | .setupResponse | .setupConfirm => true
  | _ => false

/-- The name of an action. -/
def name : TdlsAction → String
  | .setupRequest => "SetupRequest"
  | .setupResponse => "SetupResponse"
  | .setupConfirm => "SetupConfirm"
  | .teardown => "Teardown"
  | .discoveryRequest => "DiscoveryRequest"

end TdlsAction

/-- A direct-link action frame. -/
structure Tdls where
  action : TdlsAction
  /-- Zero for actions without a status. -/
  status : UInt16
  /-- What the sender announces. -/
  capabilities : Capabilities
  deriving DecidableEq, Repr, Inhabited

namespace Tdls

/-- The payload type of direct-link frames. -/
def payloadType : UInt8 := 2

/-- The category of direct-link actions. -/
def category : UInt8 := 12

/-- The octets up to the action code. -/
def headerSize : Nat := 3

/-- Reads the action frame that a packet is. A teardown announces nothing, nor does a refusal. -/
def parse? (packet : Bytes) : Option Tdls :=
  if packet.length < headerSize ∨ packet.byteAt 0 ≠ payloadType ∨ packet.byteAt 1 ≠ category then
    none
  else
    (TdlsAction.ofCode? (packet.byteAt 2)).bind fun action =>
      if packet.length < headerSize + action.fixedSize then none
      else
        let status := if action.hasStatus then packet.le16At headerSize else 0
        some {
          action
          status
          capabilities :=
            if action = .teardown ∨ status ≠ 0 then .none
            else
              (Capabilities.ofElements (packet.drop (headerSize + action.fixedSize))).union
                .directLink
        }

end Tdls

end Airlink
