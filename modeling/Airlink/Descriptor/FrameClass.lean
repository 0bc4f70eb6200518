/-!
# Frame classes

The sixteen-bit code by which a descriptor says what kind of frame follows. Most codes name none.
-/

namespace Airlink

/-- The kinds of frame that firmware delivers. -/
inductive FrameClass where
  | data
  | amsdu
  | raw80211
  | blockAckRequest
  | management
  | debug
  deriving DecidableEq, Repr, Inhabited

namespace FrameClass

/-- The code of a class. -/
def code : FrameClass → UInt16
  | .data => 0x00
  | .amsdu => 0x03
  | .raw80211 => 0x05
  | .blockAckRequest => 0x0a
  | .management => 0xe5
  | .debug => 0xef

/-- The class that a code names. -/
def ofCode? (code : UInt16) : Option FrameClass :=
  if code = 0x00 then some .data
  else if code = 0x03 then some .amsdu
  else if code = 0x05 then some .raw80211
  else if code = 0x0a then some .blockAckRequest
  else if code = 0xe5 then some .management
  else if code = 0xef then some .debug
  else none

theorem ofCode?_code (c : FrameClass) : ofCode? c.code = some c := by
  cases c <;> rfl

/-- The name of a class. -/
def name : FrameClass → String
  | .data => "Data"
  | .amsdu => "Amsdu"
  | .raw80211 => "Raw80211"
  | .blockAckRequest => "BlockAckRequest"
  | .management => "Management"
  | .debug => "Debug"

end FrameClass

end Airlink
