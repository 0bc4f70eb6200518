import Airlink.Bytes.Hex
import Airlink.Text.Decimal
import Airlink.Text.Toml

/-!
# TOML scalars

Texts in their four forms, numbers and dates. Each reader takes the characters from the start of
the scalar and gives its value and the characters behind it, or `none` if the document is wrong.

A text of many lines ends at the first three quotes, but takes up to two more quotes that stand
before them.
-/

namespace Airlink.Text.Toml

open Decimal (isDigit ofDigits)

/-- Whether a character may stand in a comment or in a text as it is. Line breaks are apart. -/
def isPlain (c : Char) : Bool := c = '\t' || (0x20 ≤ c.toNat && c.toNat ≠ 0x7f)

/-- The blanks within a line. -/
def isBlank (c : Char) : Bool := c = ' ' || c = '\t'

/-- The characters behind a line break. -/
def newline? : List Char → Option (List Char)
  | '\n' :: rest => some rest
  | '\r' :: '\n' :: rest => some rest
  | _ => none

/-! ## Texts -/

/-- The character that a number of hexadecimal digits stands for, and what follows. -/
def codePoint? (digits : Nat) (cs : List Char) : Option (Char × List Char) := do
  let ds := cs.take digits
  if ds.length < digits then none
  else
    let values ← ds.mapM Bytes.Hex.value?
    let code := values.foldl (fun n v => 16 * n + v) 0
    if h : code.isValidChar then some (Char.ofNatAux code h, cs.drop digits) else none

/-- The character that stands behind a backslash, and what follows. -/
def escape? : List Char → Option (Char × List Char)
  | 'b' :: rest => some ('\x08', rest)
  | 't' :: rest => some ('\t', rest)
  | 'n' :: rest => some ('\n', rest)
  | 'f' :: rest => some ('\x0c', rest)
  | 'r' :: rest => some ('\r', rest)
  | '"' :: rest => some ('"', rest)
  | '\\' :: rest => some ('\\', rest)
  | 'u' :: rest => codePoint? 4 rest
  | 'U' :: rest => codePoint? 8 rest
  | _ => none

/-- The rest of a text on one line up to its quote, and what follows. Only texts in double quotes
have escapes. -/
def line? (quote : Char) : Nat → List Char → List Char → Option (String × List Char)
  | 0, _, _ => none
  | _ + 1, _, [] => none
  | fuel + 1, acc, c :: rest =>
    if c = quote then some (String.ofList acc.reverse, rest)
    else if c = '\\' ∧ quote = '"' then
      match escape? rest with
      | some (c, rest) => line? quote fuel (c :: acc) rest
      | none => none
    else if isPlain c then line? quote fuel (c :: acc) rest
    else none

/-- The characters behind blanks and line breaks, if there is a line break among them. A backslash
before them takes them out of a text. -/
def foldedLines? (cs : List Char) : Option (List Char) :=
  (newline? (cs.dropWhile isBlank)).map skip
where
  /-- The characters behind blanks and line breaks. -/
  skip : List Char → List Char
    | ' ' :: rest => skip rest
    | '\t' :: rest => skip rest
    | '\n' :: rest => skip rest
    | '\r' :: '\n' :: rest => skip rest
    | cs => cs

/-- The rest of a text of many lines up to its three quotes, and what follows. -/
def lines? (quote : Char) : Nat → List Char → List Char → Option (String × List Char)
  | 0, _, _ => none
  | _ + 1, _, [] => none
  | fuel + 1, acc, c :: rest =>
    if c = quote then
      match rest.takeWhile (· = quote) with
      | [] => lines? quote fuel (c :: acc) rest
      | [_] => lines? quote fuel (c :: c :: acc) (rest.drop 1)
      | run =>
        let extra := run.length - 2
        if extra ≤ 2 then
          some (String.ofList (List.replicate extra quote ++ acc).reverse, rest.drop run.length)
        else none
    else if c = '\\' ∧ quote = '"' then
      match foldedLines? rest with
      | some rest => lines? quote fuel acc rest
      | none =>
        match escape? rest with
        | some (c, rest) => lines? quote fuel (c :: acc) rest
        | none => none
    else match newline? (c :: rest) with
      | some rest => lines? quote fuel ('\n' :: acc) rest
      | none => if isPlain c then lines? quote fuel (c :: acc) rest else none

/-- A text from its first quote on, and what follows. -/
def text? (cs : List Char) : Option (String × List Char) :=
  match cs with
  | q :: r :: s :: rest =>
    if q = r ∧ q = s then lines? q (rest.length + 1) [] ((newline? rest).getD rest)
    else line? q (cs.length + 1) [] (r :: s :: rest)
  | q :: rest => line? q (cs.length + 1) [] rest
  | [] => none

/-! ## Numbers -/

/-- Digits with underscores between them, without the underscores, and what follows. -/
def digits? (isDigit : Char → Bool) (cs : List Char) : Option (List Char × List Char) :=
  let run := cs.takeWhile fun c => isDigit c || c = '_'
  let single := (run.zip (run.drop 1)).all fun (c, d) => c ≠ '_' || d ≠ '_'
  if run.head? ≠ some '_' ∧ run.getLast? ≠ some '_' ∧ run ≠ [] ∧ single then
    some (run.filter (· ≠ '_'), cs.drop run.length)
  else none

/-- Whether an integer fits into sixty-four bits with a sign. -/
def isInt64 (n : Int) : Bool := Int64.minValue.toInt ≤ n && n ≤ Int64.maxValue.toInt

/-- A number in another base than ten, and what follows. -/
def based? (base : Nat) (cs : List Char) : Option (Toml × List Char) := do
  let inBase (c : Char) : Bool := (Bytes.Hex.value? c).any (· < base)
  let (ds, rest) ← digits? inBase cs
  let values ← ds.mapM Bytes.Hex.value?
  let n := values.foldl (fun n v => base * n + v) 0
  if isInt64 n then some (integer n, rest) else none

/-- The whole digits of a number: a zero, or digits that start with another one. -/
def whole? (cs : List Char) : Option (List Char × List Char) :=
  match cs with
  | '0' :: rest => some (['0'], rest)
  | _ => digits? isDigit cs

/-- A fraction with its point, if there is one, and what follows. -/
def fraction? (cs : List Char) : Option (List Char × List Char) :=
  match cs with
  | '.' :: rest => (digits? isDigit rest).map fun (ds, rest) => ('.' :: ds, rest)
  | _ => some ([], cs)

/-- An exponent, if there is one, and what follows. -/
def exponent? (cs : List Char) : Option (List Char × List Char) :=
  match cs with
  | c :: rest =>
    if c = 'e' ∨ c = 'E' then
      let (sign, ds) := match rest with
        | '+' :: ds => ([], ds)
        | '-' :: ds => (['-'], ds)
        | ds => ([], ds)
      (digits? isDigit ds).map fun (ds, rest) => ('e' :: sign ++ ds, rest)
    else some ([], cs)
  | [] => some ([], cs)

/-- A number in base ten or a word for infinity or no number, and what follows. A fraction may not
be larger than every double; how small it is does not matter. -/
def decimal? (cs : List Char) : Option (Toml × List Char) :=
  let (negative, cs) := match cs with
    | '-' :: rest => (true, rest)
    | '+' :: rest => (false, rest)
    | _ => (false, cs)
  match cs with
  | 'i' :: 'n' :: 'f' :: rest => some (float, rest)
  | 'n' :: 'a' :: 'n' :: rest => some (float, rest)
  | _ => do
    let (w, rest) ← whole? cs
    let (f, rest) ← fraction? rest
    let (e, rest) ← exponent? rest
    if f.isEmpty && e.isEmpty then
      let n : Int := ofDigits w
      let n := if negative then -n else n
      if isInt64 n then some (integer n, rest) else none
    else
      let d ← Decimal.parse? (w ++ f ++ e)
      if d.overflows && !negative then none else some (float, rest)

/-- A number, and what follows. A number in another base has no sign. -/
def number? : List Char → Option (Toml × List Char)
  | '0' :: 'x' :: rest => based? 16 rest
  | '0' :: 'o' :: rest => based? 8 rest
  | '0' :: 'b' :: rest => based? 2 rest
  | cs => decimal? cs

/-! ## Dates -/

/-- A number of exactly so many digits in a range, and what follows. -/
def ranged? (digits low high : Nat) (cs : List Char) : Option (Nat × List Char) :=
  let ds := cs.take digits
  let n := ofDigits ds
  if ds.length = digits ∧ ds.all isDigit ∧ low ≤ n ∧ n ≤ high then some (n, cs.drop digits)
  else none

/-- What follows a given character. -/
def after? (c : Char) : List Char → Option (List Char)
  | d :: rest => if d = c then some rest else none
  | [] => none

/-- The number of days of a month. -/
def daysOf (year month : Nat) : Nat :=
  if month = 2 then
    if year % 4 = 0 ∧ (year % 100 ≠ 0 ∨ year % 400 = 0) then 29 else 28
  else if month = 4 ∨ month = 6 ∨ month = 9 ∨ month = 11 then 30
  else 31

/-- What follows a day of the calendar. -/
def afterDay? (cs : List Char) : Option (List Char) := do
  let (year, cs) ← ranged? 4 0 9999 cs
  let (month, cs) ← ranged? 2 1 12 (← after? '-' cs)
  let (_, cs) ← ranged? 2 1 (daysOf year month) (← after? '-' cs)
  return cs

/-- What follows a time of day, which may be at a leap second and have a fraction. -/
def afterTime? (cs : List Char) : Option (List Char) := do
  let (_, cs) ← ranged? 2 0 23 cs
  let (_, cs) ← ranged? 2 0 59 (← after? ':' cs)
  let (_, cs) ← ranged? 2 0 60 (← after? ':' cs)
  match cs with
  | '.' :: c :: rest => if isDigit c then some (rest.dropWhile isDigit) else some cs
  | _ => some cs

/-- What follows the distance from universal time, if one is given. -/
def afterOffset? (cs : List Char) : Option (List Char) :=
  match cs with
  | c :: rest =>
    if c = 'Z' ∨ c = 'z' then some rest
    else if c = '+' ∨ c = '-' then do
      let (_, cs) ← ranged? 2 0 23 rest
      let (_, cs) ← ranged? 2 0 59 (← after? ':' cs)
      return cs
    else some cs
  | [] => some cs

/-- What follows a date: a day, a day and a time, or a time. -/
def afterDate? (cs : List Char) : Option (List Char) :=
  match afterDay? cs with
  | none => afterTime? cs
  | some rest =>
    match rest with
    | c :: cs =>
      if c = 'T' ∨ c = 't' ∨ c = ' ' then
        match afterTime? cs with
        | some cs => afterOffset? cs
        | none => some rest
      else some rest
    | [] => some rest

/-- A date or a number, and what follows. -/
def dateOrNumber? (cs : List Char) : Option (Toml × List Char) :=
  match afterDate? cs with
  | some rest => some (date, rest)
  | none => number? cs

end Airlink.Text.Toml
