/-!
# Roles

An interface is a station of some access point, or an access point itself.
-/

namespace Airlink

/-- The role of an interface. -/
inductive Role where
  | station
  | accessPoint
  deriving DecidableEq, Repr, Inhabited

namespace Role

/-- The code of a role in descriptors. -/
def bssType : Role → UInt8
  | .station => 0
  | .accessPoint => 1

/-- The name of a role in configurations. -/
def key : Role → String
  | .station => "sta"
  | .accessPoint => "uap"

/-- The role with a name. -/
def ofKey? (key : String) : Option Role :=
  if key = "sta" then some .station
  else if key = "uap" then some .accessPoint
  else none

end Role

end Airlink
