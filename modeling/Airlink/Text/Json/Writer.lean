import Airlink.Bytes.Hex
import Airlink.Text.Json

/-!
# Writing JSON

`Json.compact` writes a value on one line without blanks, `Json.pretty` on many lines with two
blanks of indentation to the level and empty lists and objects on one line.
-/

namespace Airlink.Text.Json

/-- A character as it stands in a text. -/
def escaped (c : Char) : String :=
  if c = '"' then "\\\""
  else if c = '\\' then "\\\\"
  else if c = '\n' then "\\n"
  else if c = '\r' then "\\r"
  else if c = '\t' then "\\t"
  else if c = '\x08' then "\\b"
  else if c = '\x0c' then "\\f"
  else if c.toNat < 0x20 then "\\u" ++ Bytes.Hex.padded 4 c.toNat
  else String.singleton c

/-- A text between quotes. -/
def quoted (s : String) : String :=
  s.foldl (fun acc c => acc ++ escaped c) "\"" ++ "\""

/-- A text that may stand for no characters, between quotes. -/
def quotedText (s : Option String) : String := quoted (s.getD "")

mutual

/-- A value on one line. -/
def compact : Json → String
  | null => "null"
  | bool b => if b then "true" else "false"
  | number digits => digits
  | text s => quotedText s
  | array items => "[" ++ compactItems items ++ "]"
  | object members => "\x7b" ++ compactMembers members ++ "\x7d"

/-- Items with commas between. -/
def compactItems : List Json → String
  | [] => ""
  | [v] => compact v
  | v :: vs => compact v ++ "," ++ compactItems vs

/-- Members with commas between. -/
def compactMembers : List (Option String × Json) → String
  | [] => ""
  | [(k, v)] => quotedText k ++ ":" ++ compact v
  | (k, v) :: ms => quotedText k ++ ":" ++ compact v ++ "," ++ compactMembers ms

end

/-- A new line at a level of indentation. -/
def newLine (level : Nat) : String := "\n" ++ String.ofList (List.replicate (2 * level) ' ')

mutual

/-- A value on many lines, its first line continuing the one it stands on. -/
def prettyAt (level : Nat) : Json → String
  | array [] => "[]"
  | array items => "[" ++ prettyItems (level + 1) items ++ newLine level ++ "]"
  | object [] => "\x7b\x7d"
  | object members =>
    "\x7b" ++ prettyMembers (level + 1) members ++ newLine level ++ "\x7d"
  | v => compact v

/-- Items on lines of their own. -/
def prettyItems (level : Nat) : List Json → String
  | [] => ""
  | [v] => newLine level ++ prettyAt level v
  | v :: vs => newLine level ++ prettyAt level v ++ "," ++ prettyItems level vs

/-- Members on lines of their own. -/
def prettyMembers (level : Nat) : List (Option String × Json) → String
  | [] => ""
  | [(k, v)] => newLine level ++ quotedText k ++ ": " ++ prettyAt level v
  | (k, v) :: ms =>
    newLine level ++ quotedText k ++ ": " ++ prettyAt level v ++ "," ++ prettyMembers level ms

end

/-- A value on many lines. -/
def pretty (v : Json) : String := prettyAt 0 v

end Airlink.Text.Json
