/-!
# What can be wrong with an 802.11 structure

The causes that reading an address, a frame header or a radiotap header can fail for, and the
sentence each is reported with.
-/

namespace Airlink.Ieee80211

/-- Why a stretch of octets, or a text, is not the structure it should be. -/
inductive Error where
  /-- `part` takes `need` octets and only `have_` are there. -/
  | truncated (part : String) (need have_ : Nat)
  /-- A frame header that cannot be used. -/
  | invalidHeader (message : String)
  /-- A radiotap header that cannot be used. -/
  | radiotap (message : String)
  /-- A text that names no hardware address. -/
  | invalidAddress (text : String)
  deriving DecidableEq, Repr

/-- The sentence an error is reported with. -/
def Error.message : Error → String
  | .truncated part need have_ => s!"{part} truncated: need {need} bytes, have {have_}"
  | .invalidHeader message => s!"Invalid header: {message}"
  | .radiotap message => s!"Radiotap error: {message}"
  | .invalidAddress text => s!"Invalid hardware address: {text}"

/-- The name of an error's kind. -/
def Error.kind : Error → String
  | .truncated _ _ _ => "Truncated"
  | .invalidHeader _ => "InvalidHeader"
  | .radiotap _ => "Radiotap"
  | .invalidAddress _ => "InvalidAddress"

end Airlink.Ieee80211
