import Airlink.Config.Format
import Airlink.Config.Validation
import Airlink.FileAccess

/-!
# Configurations in files

The configuration in force and the file it came from.
-/

namespace Airlink

/-- The configuration in force. -/
structure ActiveConfig where
  config : Config
  /-- The file it was read from. -/
  path : Option String
  deriving DecidableEq, Repr

namespace ActiveConfig

/-- The usual settings without interfaces. -/
def standard : ActiveConfig := ⟨.standard, none⟩

/-- The configuration in force after a valid one is put into its place. One that is not valid is
refused. -/
def replace (current : ActiveConfig) (c : Config) : Except Error ActiveConfig :=
  if c.isValid then .ok { current with config := c }
  else .error (.config s!"Configuration validation failed: {c.faultText}")

/-- Reads the configuration in a file. -/
def load [Monad m] (files : FileAccess m) (path : String) : m (Except Error ActiveConfig) := do
  match ← files.readText path with
  | .error e => return .error (.config s!"Failed to read config file: {e.message}")
  | .ok text => return (Config.parseAt path text).map fun c => ⟨c, some path⟩

end ActiveConfig

/-- Writes a configuration to a file in the format that its name asks for. -/
def Config.save [Monad m] (files : FileAccess m) (path : String) (c : Config) :
    m (Except Error Unit) := do
  match (ConfigFormat.ofPath path).bind fun format => c.render format with
  | .error e => return .error e
  | .ok text =>
    match ← files.write path text with
    | .error e => return .error (.config s!"Failed to write config file: {e.message}")
    | .ok () => return .ok ()

end Airlink
