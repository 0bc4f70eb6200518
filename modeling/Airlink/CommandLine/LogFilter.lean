import Airlink.Text.Blank
import Airlink.Text.Decimal

/-!
# Log filters

The level of the log is a list of directives with commas between them: the name of a level, or a
target with an optional span in brackets and an optional level behind an equals sign. `isFilter`
says whether a text is such a list; what the directives select is not its matter.

The parts of a directive are found without the blanks around it, but the level is then taken from
the whole text at the position that was found.
-/

namespace Airlink.LogFilter

open Text (Decimal)

/-- Whether a text names a level, in any case or by its number. -/
def isLevel (s : List Char) : Bool :=
  let number := match s with
    | '+' :: ds => ds
    | ds => ds
  ["", "off", "error", "warn", "info", "debug", "trace"].contains (String.ofList s).toLower ||
    (!number.isEmpty && number.all Decimal.isDigit && Decimal.ofDigits number ≤ 5)

/-- Whether a character is a letter or a digit of some script. Beyond Latin, all characters count
but those of the blocks of marks and symbols. -/
def isWord (c : Char) : Bool :=
  let n := c.toNat
  c.isAlphanum || "ªµº²³¹¼½¾".toList.contains c ||
    (0xc0 ≤ n && n ≠ 0xd7 && n ≠ 0xf7 && !(0x2000 ≤ n && n < 0x2c00) &&
      !(0x3000 ≤ n && n < 0x3005) && !(0x3008 ≤ n && n < 0x3021) && !(0xe000 ≤ n && n < 0xf900) &&
      !(0xfe10 ≤ n && n < 0xfe70) && !(0xff00 ≤ n && n < 0xff10) && !(0x1f000 ≤ n && n < 0x1fb00))

/-- What has been read of a directive. -/
inductive Place where
  | start
  /-- A level or a target. -/
  | name
  /-- The name of a span. -/
  | inSpan
  /-- A field of a span, which starts at a position. -/
  | inField (start : Nat)
  /-- Behind the fields of a span. -/
  | behindFields
  /-- Behind a span. -/
  | behindSpan
  /-- A level, which starts at a position. -/
  | level (start : Nat)
  deriving DecidableEq, Repr

/-- Where the reading of a directive is behind one more character, which stands at a position. -/
def next? (i : Nat) (place : Place) (c : Char) : Option Place :=
  match place with
  | .start =>
    if c = '[' then some .inSpan
    else if c = '-' || c = ':' || c = '_' || isWord c then some .name
    else none
  | .name => some (if c = '=' then .level (i + 1) else if c = '[' then .inSpan else .name)
  | .inSpan =>
    some (if c = ']' then .behindSpan else if c = '\x7b' then .inField (i + 1) else .inSpan)
  | .inField start =>
    if c = '\x7d' then if start = i then none else some .behindFields
    else some (.inField start)
  | .behindFields => if c = ']' then some .behindSpan else none
  | .behindSpan => if c = '=' then some (.level (i + 1)) else none
  | .level start => some (.level start)

/-- Where the reading of a directive ends. -/
def readFrom? : Nat → Place → List Char → Option Place
  | _, place, [] => some place
  | i, place, c :: cs => (next? i place c).bind fun place => readFrom? (i + 1) place cs

/-- Whether a text is a directive. -/
def isDirective (cs : List Char) : Bool :=
  match readFrom? 0 .start (Text.trimmed cs) with
  | some .name => true
  | some .behindSpan => true
  | some (.level start) => isLevel (cs.drop start)
  | _ => false

/-- Whether a text is a list of directives. -/
def isFilter (s : String) : Bool :=
  ((s.splitOn ",").filter (· ≠ "")).all fun part => isDirective part.toList

end Airlink.LogFilter
