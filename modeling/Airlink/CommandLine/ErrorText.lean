import Airlink.Error
import Airlink.Text.Quoted

/-!
# Errors on the command line

An error that ends the program is shown by its kind, with its detail as a quoted text.
-/

namespace Airlink

open Text

/-- A file error as it is shown: by its number if the system has one for it. -/
def FileError.describe (e : FileError) : String :=
  let text := Quoted.text e.text
  match e.system? with
  | some (number, kind, _) =>
    s!"Os \x7b code: {number}, kind: {kind}, message: {text} \x7d"
  | none =>
    let kind := match e with
      | .nulInName => "InvalidInput"
      | .notText => "InvalidData"
      | _ => "Other"
    s!"Error \x7b kind: {kind}, message: {text} \x7d"

/-- The detail of an error. -/
def Error.detail : Error → String
  | .malformedDescriptor detail => detail
  | .transportFailure reason => reason
  | .deliveryFailure reason => reason
  | .invalidParameter detail => detail
  | .config detail => detail
  | .logFilter level => s!"Invalid log level '{level}'"
  | e => e.message

/-- An error as it is shown. -/
def Error.describe : Error → String
  | .file cause => s!"Io({cause.describe})"
  | .json => "Json"
  | e => s!"{e.kind}({Quoted.text e.detail})"

end Airlink
