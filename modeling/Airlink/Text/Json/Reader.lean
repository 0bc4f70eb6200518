import Airlink.Bytes.Hex
import Airlink.Text.Decimal
import Airlink.Text.Json

/-!
# Reading JSON

`Json.parse?` reads a text that is one JSON value with blanks around it. The grammar is the strict
one: no comments, no trailing commas, no leading zeros, no control characters in texts.
-/

namespace Airlink.Text.Json

open Decimal (isDigit)

/-- The blanks that may stand between tokens. -/
def isBlank (c : Char) : Bool := c == ' ' || c == '\n' || c == '\t' || c == '\r'

/-- The characters behind leading blanks. -/
def skipBlanks (cs : List Char) : List Char := cs.dropWhile isBlank

/-! ## Numbers -/

/-- One or more digits, and what follows. -/
def digits? (cs : List Char) : Option (List Char × List Char) :=
  match cs.takeWhile isDigit with
  | [] => none
  | ds => some (ds, cs.dropWhile isDigit)

/-- The whole part of a number: a zero, or digits that start with another one. -/
def whole? (cs : List Char) : Option (List Char × List Char) :=
  match cs with
  | '0' :: rest =>
    match rest with
    | c :: _ => if isDigit c then none else some (['0'], rest)
    | [] => some (['0'], [])
  | _ => digits? cs

/-- The fraction of a number, if it has one. -/
def fraction? (cs : List Char) : Option (List Char × List Char) :=
  match cs with
  | '.' :: rest => (digits? rest).map fun (ds, rest) => ('.' :: ds, rest)
  | _ => some ([], cs)

/-- The exponent of a number, if it has one. -/
def exponent? (cs : List Char) : Option (List Char × List Char) :=
  match cs with
  | c :: rest =>
    if c = 'e' ∨ c = 'E' then
      match rest with
      | s :: rest' =>
        if s = '+' ∨ s = '-' then (digits? rest').map fun (ds, r) => (c :: s :: ds, r)
        else (digits? rest).map fun (ds, r) => (c :: ds, r)
      | [] => none
    else some ([], cs)
  | [] => some ([], cs)

/-- A number, and what follows. -/
def number? (cs : List Char) : Option (Json × List Char) := do
  let (sign, cs) := match cs with
    | '-' :: rest => (['-'], rest)
    | _ => ([], cs)
  let (w, cs) ← whole? cs
  let (f, cs) ← fraction? cs
  let (e, cs) ← exponent? cs
  return (number (String.ofList (sign ++ w ++ f ++ e)), cs)

/-! ## Texts -/

/-- One character of a text: a character as such, or one sixteen-bit unit of an escape. -/
inductive Unit16 where
  | char (c : Char)
  | unit (n : Nat)
  deriving Repr

/-- The number that four hexadecimal digits stand for. -/
def hex4? : List Char → Option (Nat × List Char)
  | a :: b :: c :: d :: rest => do
    let a ← Bytes.Hex.value? a
    let b ← Bytes.Hex.value? b
    let c ← Bytes.Hex.value? c
    let d ← Bytes.Hex.value? d
    return (((a * 16 + b) * 16 + c) * 16 + d, rest)
  | _ => none

/-- The character that a letter behind a backslash stands for. -/
def escape? (c : Char) : Option Char :=
  match c with
  | '"' => some '"'
  | '\\' => some '\\'
  | '/' => some '/'
  | 'b' => some '\x08'
  | 'f' => some '\x0c'
  | 'n' => some '\n'
  | 'r' => some '\r'
  | 't' => some '\t'
  | _ => none

/-- The units of a text up to its closing quote, last first, and what follows. -/
def units? : Nat → List Unit16 → List Char → Option (List Unit16 × List Char)
  | 0, _, _ => none
  | _ + 1, _, [] => none
  | fuel + 1, acc, c :: rest =>
    if c = '"' then some (acc, rest)
    else if c = '\\' then
      match rest with
      | 'u' :: rest =>
        match hex4? rest with
        | some (n, rest) => units? fuel (.unit n :: acc) rest
        | none => none
      | e :: rest =>
        match escape? e with
        | some c => units? fuel (.char c :: acc) rest
        | none => none
      | [] => none
    else if c.toNat < 0x20 then none
    else units? fuel (.char c :: acc) rest

/-- The characters that units stand for, in order; halves of a surrogate pair must stand together
and in the right order. -/
def chars? : List Unit16 → Option (List Char)
  | [] => some []
  | .char c :: rest => (chars? rest).map (c :: ·)
  | [.unit n] =>
    if 0xd800 ≤ n ∧ n < 0xe000 then none else some [Char.ofNat n]
  | .unit n :: .char c :: rest =>
    if 0xd800 ≤ n ∧ n < 0xe000 then none
    else (chars? rest).map fun cs => Char.ofNat n :: c :: cs
  | .unit n :: .unit m :: rest =>
    if 0xdc00 ≤ n ∧ n < 0xe000 then none
    else if 0xd800 ≤ n ∧ n < 0xdc00 then
      if 0xdc00 ≤ m ∧ m < 0xe000 then
        (chars? rest).map (Char.ofNat (0x10000 + (n - 0xd800) * 0x400 + (m - 0xdc00)) :: ·)
      else none
    else (chars? (.unit m :: rest)).map (Char.ofNat n :: ·)

/-- A text behind its opening quote, and what follows. -/
def text? (cs : List Char) : Option (Option String × List Char) :=
  (units? (cs.length + 1) [] cs).map fun (us, rest) =>
    ((chars? us.reverse).map String.ofList, rest)

/-! ## Values -/

/-- The characters behind a given word. -/
def word? (word : String) (cs : List Char) : Option (List Char) :=
  if word.toList.isPrefixOf cs then some (cs.drop word.length) else none

mutual

/-- A value, and what follows. The fuel bounds the depth and the number of its parts. -/
def value? : Nat → List Char → Option (Json × List Char)
  | 0, _ => none
  | fuel + 1, cs =>
    match skipBlanks cs with
    | 'n' :: rest => (word? "ull" rest).map fun r => (null, r)
    | 't' :: rest => (word? "rue" rest).map fun r => (bool true, r)
    | 'f' :: rest => (word? "alse" rest).map fun r => (bool false, r)
    | '"' :: rest => (text? rest).map fun (s, r) => (text s, r)
    | '[' :: rest =>
      match skipBlanks rest with
      | ']' :: rest => some (array [], rest)
      | rest => (items? fuel [] rest).map fun (vs, r) => (array vs, r)
    | '\x7b' :: rest =>
      match skipBlanks rest with
      | '\x7d' :: rest => some (object [], rest)
      | rest => (members? fuel [] rest).map fun (ms, r) => (object ms, r)
    | cs => number? cs

/-- The items of an array up to its closing bracket, and what follows. -/
def items? : Nat → List Json → List Char → Option (List Json × List Char)
  | 0, _, _ => none
  | fuel + 1, acc, cs =>
    match value? fuel cs with
    | none => none
    | some (v, rest) =>
      match skipBlanks rest with
      | ',' :: rest => items? fuel (v :: acc) rest
      | ']' :: rest => some ((v :: acc).reverse, rest)
      | _ => none

/-- The members of an object up to its closing brace, and what follows. -/
def members? : Nat → List (Option String × Json) → List Char →
    Option (List (Option String × Json) × List Char)
  | 0, _, _ => none
  | fuel + 1, acc, cs =>
    match skipBlanks cs with
    | '"' :: rest =>
      match text? rest with
      | none => none
      | some (key, rest) =>
        match skipBlanks rest with
        | ':' :: rest =>
          match value? fuel rest with
          | none => none
          | some (v, rest) =>
            match skipBlanks rest with
            | ',' :: rest => members? fuel ((key, v) :: acc) rest
            | '\x7d' :: rest => some (((key, v) :: acc).reverse, rest)
            | _ => none
        | _ => none
    | _ => none

end

/-- The value that a text is. Every part of a value takes at least one character, so twice the
length bounds the reading. -/
def parse? (input : String) : Option Json :=
  let cs := input.toList
  match value? (2 * cs.length + 2) cs with
  | some (v, rest) => if (skipBlanks rest).isEmpty then some v else none
  | none => none

end Airlink.Text.Json
