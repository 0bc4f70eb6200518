import Airlink.Bytes.Hex
import Airlink.Text.Printable

/-!
# Quoted text

Text as it is shown in reports, between quotes and on one line: quotes and backslashes behind a
backslash, the usual letters for the usual controls, and the code point in braces for every other
character that does not show.
-/

namespace Airlink.Text.Quoted

/-- A character as it stands between quotes of the given kind. -/
def escape (quote c : Char) : String :=
  if c = quote ∨ c = '\\' then String.ofList ['\\', c]
  else if c = '\n' then "\\n"
  else if c = '\r' then "\\r"
  else if c = '\t' then "\\t"
  else if c = '\x00' then "\\0"
  else if isPrintable c then String.singleton c
  else "\\u\x7b" ++ Bytes.Hex.padded 1 c.toNat ++ "\x7d"

/-- A text between double quotes. -/
def text (s : String) : String :=
  s.foldl (fun acc c => acc ++ escape '"' c) "\"" ++ "\""

/-- A character between single quotes. -/
def char (c : Char) : String := "'" ++ escape '\'' c ++ "'"

end Airlink.Text.Quoted
