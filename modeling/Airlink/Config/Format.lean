import Airlink.Config.Document
import Airlink.Config.Render
import Airlink.Error
import Airlink.Text.Json.Reader
import Airlink.Text.Json.Writer
import Airlink.Text.Toml.Reader
import Airlink.Text.Toml.Writer
import Airlink.Text.Yaml.Writer

/-!
# Formats of configurations

A configuration is kept in one of three formats, told apart by the extension of the file's name.
-/

namespace Airlink

open Text

/-- The formats of configurations. -/
inductive ConfigFormat where
  | json
  | toml
  | yaml
  deriving DecidableEq, Repr

namespace ConfigFormat

/-- The name of a format in reports. -/
def title : ConfigFormat → String
  | json => "JSON"
  | toml => "TOML"
  | yaml => "YAML"

/-- The format with an extension. -/
def ofExtension? (extension : String) : Option ConfigFormat :=
  if extension = "json" then some json
  else if extension = "toml" then some toml
  else if extension = "yaml" ∨ extension = "yml" then some yaml
  else none

end ConfigFormat

/-- The last name in a path, not counting places that name no other directory. -/
def fileName? (path : String) : Option String :=
  match ((path.splitOn "/").filter fun part => part ≠ "" ∧ part ≠ ".").getLast? with
  | none => none
  | some name => if name = ".." then none else some name

/-- What stands behind the last dot in a file's name, unless the name starts with that dot. -/
def extension? (path : String) : Option String := do
  let name ← fileName? path
  let backwards := name.toList.reverse
  match backwards.dropWhile (· ≠ '.') with
  | _ :: _ :: _ => some (String.ofList (backwards.takeWhile (· ≠ '.')).reverse)
  | _ => none

/-- The format of the file with a path. -/
def ConfigFormat.ofPath (path : String) : Except Error ConfigFormat :=
  match (extension? path).bind ofExtension? with
  | some format => .ok format
  | none => .error (.config s!"Unsupported config file format: {path}")

namespace Config

/-- The document that a text is in a format. -/
def document? (format : ConfigFormat) (text : String) : Option Doc :=
  match format with
  | .json => (Json.parse? text).map Json.toDoc
  | .toml => (Toml.parse? text).map Toml.toDoc
  | .yaml => (Yaml.Node.parse? text).map Yaml.Node.toDoc

/-- The configuration that a text is in a format. -/
def parse (format : ConfigFormat) (text : String) : Except Error Config :=
  match (document? format text).bind Config.ofDoc? with
  | some c => .ok c
  | none => .error (.config s!"Failed to parse {format.title} config")

/-- The configuration that the text of the file with a path is. -/
def parseAt (path text : String) : Except Error Config := do
  parse (← ConfigFormat.ofPath path) text

/-- A configuration as a text in a format. -/
def render (format : ConfigFormat) (c : Config) : Except Error String :=
  let text? := match format with
    | .json => some (Tree.record c.fields).toJson.pretty
    | .toml => Toml.write? c.fields
    | .yaml => some (Yaml.write c.fields)
  match text? with
  | some text => .ok text
  | none => .error (.config s!"Failed to serialize config to {format.title}")

end Config

end Airlink
