import Airlink.Bytes.Hex
import Airlink.Text.Toml.Scalar
import Airlink.Text.Tree

/-!
# Writing TOML

The plain fields of a record come first, then its records and lists of records, each below a
header, with an empty line before every header but one that starts the document. A text is written
in the first of four forms that needs no escapes, and with escapes if there is none.
-/

namespace Airlink.Text.Toml

/-! ## Texts -/

/-- Whether a character can be written only by its code. -/
def needsCode (c : Char) : Bool := !isPlain c && c ≠ '\n'

/-- The greatest number of times that a character stands in a row. -/
def longestRun (c : Char) (cs : List Char) : Nat :=
  (cs.foldl (fun (run, best) d =>
    let run := if d = c then run + 1 else 0
    (run, max run best)) (0, 0)).2

/-- A character between double quotes, if it has to be written in another way. In a text of many
lines a line break stands for itself, and so does a quote unless two stand before it. -/
def escape (isLong : Bool) (quotes : Nat) (c : Char) : Option String :=
  if c = '"' then if isLong && quotes < 2 then none else some "\\\""
  else if c = '\x08' then some "\\b"
  else if c = '\t' then some "\\t"
  else if c = '\n' then if isLong then none else some "\\n"
  else if c = '\x0c' then some "\\f"
  else if c = '\r' then some "\\r"
  else if c = '\\' then some "\\\\"
  else if needsCode c then some ("\\u" ++ (Bytes.Hex.padded 4 c.toNat).toUpper)
  else none

/-- The characters of a text between double quotes, with the number of quotes just before them. -/
def escaped (isLong : Bool) : Nat → List Char → String
  | _, [] => ""
  | quotes, c :: cs =>
    match escape isLong quotes c with
    | some s => s ++ escaped isLong 0 cs
    | none => String.singleton c ++ escaped isLong (if c = '"' then quotes + 1 else 0) cs

/-- A text as a value. -/
def textForm (s : String) : String :=
  let cs := s.toList
  let isLong := cs.contains '\n'
  let hasCodes := cs.any needsCode
  let start := if isLong then "\n" else ""
  let escapedLines := "\"\"\"" ++ start ++ escaped true 0 cs ++ "\"\"\""
  let doubles := longestRun '"' cs
  let singles := longestRun '\'' cs
  if !hasCodes && !cs.contains '\\' && doubles = 0 && !isLong then
    "\"" ++ escaped false 0 cs ++ "\""
  else if !hasCodes && singles = 0 && !isLong then "'" ++ s ++ "'"
  else if !hasCodes && !cs.contains '\\' && doubles ≤ 2 then escapedLines
  else if !hasCodes && singles ≤ 2 then "'''" ++ start ++ s ++ "'''"
  else if isLong then escapedLines
  else "\"" ++ escaped false 0 cs ++ "\""

/-! ## Values and tables -/

/-- The value of a field that stands beside its name. -/
def plain? : Tree → Option String
  | .flag b => some (if b then "true" else "false")
  | .number n => some (toString n)
  | .text s => some (textForm s)
  | .records [] => some "[]"
  | _ => none

/-- The lines of the fields that stand beside their names. -/
def plainLines (fields : List (String × Tree)) : String :=
  String.join (fields.filterMap fun (name, t) => (plain? t).map fun v => name ++ " = " ++ v ++ "\n")

/-- The names of a path with dots between them. -/
def pathForm (path : List String) : String := ".".intercalate path

mutual

/-- The records among some fields, each with its header. -/
def blocks (path : List String) : List (String × Tree) → List String
  | [] => []
  | (name, .record fields) :: rest =>
    let lines := plainLines fields
    let own := if lines.isEmpty && !fields.isEmpty then []
      else ["[" ++ pathForm (path ++ [name]) ++ "]\n" ++ lines]
    own ++ blocks (path ++ [name]) fields ++ blocks path rest
  | (name, .records items) :: rest => itemBlocks (path ++ [name]) items ++ blocks path rest
  | _ :: rest => blocks path rest

/-- The records of a list, each with its header. -/
def itemBlocks (path : List String) : List (List (String × Tree)) → List String
  | [] => []
  | fields :: items =>
    ("[[" ++ pathForm path ++ "]]\n" ++ plainLines fields) :: blocks path fields
      ++ itemBlocks path items

end

mutual

/-- Whether every number of a tree fits into sixty-four bits with a sign. -/
def fits : Tree → Bool
  | .number n => isInt64 n
  | .record fields => fitsAll fields
  | .records items => fitsEach items
  | _ => true

/-- Whether every number in some fields fits. -/
def fitsAll : List (String × Tree) → Bool
  | [] => true
  | (_, t) :: fields => fits t && fitsAll fields

/-- Whether every number in a list of records fits. -/
def fitsEach : List (List (String × Tree)) → Bool
  | [] => true
  | fields :: items => fitsAll fields && fitsEach items

end

/-- The document with the given fields. There is none if a number is too large. -/
def write? (fields : List (String × Tree)) : Option String :=
  let lines := plainLines fields
  let own := if lines.isEmpty then [] else [lines]
  if fitsAll fields then some ("\n".intercalate (own ++ blocks [] fields)) else none

end Airlink.Text.Toml
