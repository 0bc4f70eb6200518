import Airlink.Text.Tree
import Airlink.Text.Yaml.Reading

/-!
# Writing YAML

Records and lists of records are written as blocks, a list without further indentation. A text is
plain if that reads back as the same text, then in single quotes, then in double quotes. A text
with line breaks is a literal block, unless it has blanks before line breaks or at its end, or
characters that show only as escapes.
-/

namespace Airlink.Text.Yaml

/-! ## Texts -/

/-- The blanks of one level of indentation. -/
def indentation : Nat := 2

/-- Blanks at the start of a line. -/
def margin (columns : Nat) : String := String.ofList (List.replicate columns ' ')

/-- Whether a character is written as it is. -/
def isWritable (c : Char) : Bool :=
  c = '\n' || (' ' ≤ c && c ≤ '~') ||
    ('\u00a0' ≤ c && c.toNat ≤ 0xfffd && c ≠ '\ufeff')

/-- Whether a line can be written as a plain scalar, as far as the marks of the language go. -/
def hasMark (cs : List Char) : Bool :=
  cs.take 3 = ['-', '-', '-'] || cs.take 3 = ['.', '.', '.'] || first || inner cs
where
  /-- Whether a text starts with a mark. -/
  first : Bool :=
    match cs with
    | [] => false
    | c :: rest =>
      "#,[]\x7b\x7d&*!|>'\"%@\x60".toList.contains c ||
        ((c = '?' || c = ':' || c = '-') && isApart rest)
  /-- Whether a text has a mark behind its start. -/
  inner : List Char → Bool
    | c :: d :: rest =>
      (d = ':' && isApart rest) || (d = '#' && (isBlank c || isBreak c)) || inner (d :: rest)
    | _ => false

/-- Whether a character of one kind stands just before one of another kind. -/
def hasPair (p q : Char → Bool) (cs : List Char) : Bool :=
  (cs.zip (cs.drop 1)).any fun (c, d) => p c && q d

/-- The ways in which a text can be written so that it reads back. -/
structure Allowed where
  plain : Bool
  single : Bool
  block : Bool

/-- The ways in which a text that is not empty can be written. -/
def allowed (cs : List Char) : Allowed :=
  let isSpace (c : Char) : Bool := c = ' '
  let isHidden := cs.any fun c => !isWritable c
  let blankFirst := hasPair isSpace isBreak cs
  let breakFirst := hasPair isBreak isSpace cs
  let isEdge (c : Char) : Bool := isSpace c || isBreak c
  let hasEdge := cs.head?.any isEdge || cs.getLast?.any isEdge
  { plain := !hasEdge && !breakFirst && !blankFirst && !isHidden && !cs.any isBreak && !hasMark cs
    single := !breakFirst && !blankFirst && !isHidden
    block := !cs.getLast?.any isSpace && !blankFirst && !isHidden }

/-- Whether a plain scalar would not be read as a text. -/
def isAmbiguous (s : String) : Bool :=
  let lower := s.toLower
  s.isEmpty || isNull s || lower = "null" || (bool? lower).isSome || isPadded s.toList ||
    (integer? s).any (fun n => -0x80000000000000000000000000000000 ≤ n &&
      n < 0x100000000000000000000000000000000) || isFraction s

/-- The letter behind a backslash for a character. -/
def escapeLetter? (c : Char) : Option Char :=
  match c with
  | '\x00' => some '0'
  | '\x07' => some 'a'
  | '\x08' => some 'b'
  | '\t' => some 't'
  | '\n' => some 'n'
  | '\x0b' => some 'v'
  | '\x0c' => some 'f'
  | '\r' => some 'r'
  | '\x1b' => some 'e'
  | '"' => some '"'
  | '\\' => some '\\'
  | '\u0085' => some 'N'
  | '\u2028' => some 'L'
  | '\u2029' => some 'P'
  | _ => none

/-- A character as it stands in double quotes. -/
def escaped (c : Char) : String :=
  match escapeLetter? c with
  | some d => String.ofList ['\\', d]
  | none =>
    let code (letter : Char) (digits : Nat) : String :=
      String.ofList ['\\', letter] ++ (Bytes.Hex.padded digits c.toNat).toUpper
    if isWritable c then String.singleton c
    else if c.toNat ≤ 0xff then code 'x' 2
    else if c.toNat ≤ 0xffff then code 'u' 4
    else code 'U' 8

/-- A text in double quotes. -/
def doubleQuoted (cs : List Char) : String := "\"" ++ String.join (cs.map escaped) ++ "\""

/-- A text in single quotes, where quotes are doubled. A line that follows a break is indented by
some columns. -/
def singleQuoted (columns : Nat) (cs : List Char) : String := "'" ++ go false cs
where
  /-- The rest of the text, behind a break or not. -/
  go : Bool → List Char → String
    | isBroken, [] => (if isBroken then margin columns else "") ++ "'"
    | isBroken, c :: cs =>
      if isBreak c then String.singleton c ++ go true cs
      else
        let own := if c = '\'' then "''" else String.singleton c
        (if isBroken then margin columns else "") ++ own ++ go false cs

/-- The lines of a literal block, each indented by some columns unless it is empty. -/
def blockLines (columns : Nat) : Bool → List Char → String
  | _, [] => ""
  | isBroken, c :: cs =>
    if isBreak c then String.singleton c ++ blockLines columns true cs
    else
      let start := if isBroken then margin columns else ""
      start ++ String.singleton c ++ blockLines columns false cs

/-- What a literal block says of its indentation and of the line breaks at its end. -/
def blockHints (cs : List Char) : String :=
  let indent := if cs.head?.any fun c => c = ' ' || isBreak c then toString indentation else ""
  let chomping := match cs.reverse with
    | c :: d :: _ => if !isBreak c then "-" else if isBreak d then "+" else ""
    | [c] => if isBreak c then "+" else "-"
    | [] => "-"
  indent ++ chomping

/-- A text behind its key, with the end of its line. A text of many lines is indented by some
columns. -/
def textForm (columns : Nat) (s : String) : String :=
  let cs := s.toList
  let can := allowed cs
  if cs.contains '\n' then
    if can.block then
      let isOpen := !cs.getLast?.any isBreak
      "|" ++ blockHints cs ++ "\n" ++ blockLines columns true cs ++ (if isOpen then "\n" else "")
    else doubleQuoted cs ++ "\n"
  else if !cs.isEmpty && !isAmbiguous s && can.plain then s ++ "\n"
  else if cs.isEmpty || can.single then singleQuoted columns cs ++ "\n"
  else doubleQuoted cs ++ "\n"

/-! ## Blocks -/

mutual

/-- What follows the key of a field, whose record is indented by some columns. -/
def valueForm (columns : Nat) : Tree → String
  | .flag b => if b then " true\n" else " false\n"
  | .number n => " " ++ toString n ++ "\n"
  | .text s => " " ++ textForm (columns + indentation) s
  | .record [] => " \x7b\x7d\n"
  | .record fields =>
    let inner := columns + indentation
    "\n" ++ fieldLines inner (margin inner) fields
  | .records [] => " []\n"
  | .records items => "\n" ++ itemLines columns items

/-- The fields of a record, where the first one stands behind the given start of a line. -/
def fieldLines (columns : Nat) (start : String) : List (String × Tree) → String
  | [] => ""
  | (name, v) :: fields =>
    start ++ name ++ ":" ++ valueForm columns v ++ fieldLines columns (margin columns) fields

/-- The records of a list that is indented by some columns. -/
def itemLines (columns : Nat) : List (List (String × Tree)) → String
  | [] => ""
  | [] :: items => margin columns ++ "- \x7b\x7d\n" ++ itemLines columns items
  | fields :: items =>
    fieldLines (columns + indentation) (margin columns ++ "- ") fields ++ itemLines columns items

end

/-- The document with the given fields. -/
def write (fields : List (String × Tree)) : String := fieldLines 0 "" fields

end Airlink.Text.Yaml
