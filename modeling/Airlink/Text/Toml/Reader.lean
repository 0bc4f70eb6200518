import Airlink.Text.Toml.Scalar
import Airlink.Text.Toml.Section

/-!
# Reading TOML

`Toml.parse?` reads a whole document. It is read line by line: a pair, a header, or nothing, each
with an optional comment behind it. Only lists and texts of many lines go on over line breaks.
-/

namespace Airlink.Text.Toml

/-- The number of names in a path and of brackets within each other that is too large. -/
def depthLimit : Nat := 80

/-- The characters behind blanks within the line. -/
def skipBlanks (cs : List Char) : List Char := cs.dropWhile isBlank

/-- The characters behind a comment, which starts here. -/
def skipComment (cs : List Char) : List Char := cs.dropWhile isPlain

/-- The characters behind blanks, line breaks and comments. -/
def skipLines : Nat → List Char → List Char
  | 0, cs => cs
  | fuel + 1, cs =>
    match skipBlanks cs with
    | '#' :: rest => skipLines fuel (skipComment rest)
    | cs =>
      match newline? cs with
      | some rest => skipLines fuel rest
      | none => cs

/-- What follows the end of a line, before which only blanks and a comment may stand. -/
def afterLine? (cs : List Char) : Option (List Char) :=
  let cs := match skipBlanks cs with
    | '#' :: rest => skipComment rest
    | cs => cs
  if cs.isEmpty then some [] else newline? cs

/-! ## Names -/

/-- Whether a character may stand in a name without quotes. -/
def isBare (c : Char) : Bool := c.isAlphanum || c = '_' || c = '-'

/-- One name, and what follows. -/
def name? (cs : List Char) : Option (String × List Char) :=
  match cs with
  | '"' :: rest => line? '"' cs.length [] rest
  | '\'' :: rest => line? '\'' cs.length [] rest
  | _ =>
    match cs.takeWhile isBare with
    | [] => none
    | name => some (String.ofList name, cs.dropWhile isBare)

/-- Names with dots between them, and what follows the blanks behind them. -/
def names? : Nat → List Char → Option (List String × List Char)
  | 0, _ => none
  | fuel + 1, cs => do
    let (name, rest) ← name? (skipBlanks cs)
    match skipBlanks rest with
    | '.' :: rest =>
      let (names, rest) ← names? fuel rest
      return (name :: names, rest)
    | rest => return ([name], rest)

/-- A path of names and its last name, and what follows. -/
def path? (cs : List Char) : Option (List String × String × List Char) := do
  let (names, rest) ← names? depthLimit cs
  let last ← names.getLast?
  if names.length < depthLimit then some (names.dropLast, last, rest) else none

/-! ## Values -/

mutual

/-- A value, and what follows. The depth is the number of brackets around it. -/
def value? : Nat → Nat → List Char → Option (Toml × List Char)
  | 0, _, _ => none
  | fuel + 1, depth, cs =>
    match cs with
    | [] => none
    | c :: rest =>
      if c = '"' ∨ c = '\'' then (text? cs).map fun (s, rest) => (text s, rest)
      else if c = '[' then
        if depth + 1 < depthLimit then
          match skipLines (rest.length + 1) rest with
          | ']' :: rest => some (array [], rest)
          | rest => (items? fuel (depth + 1) [] rest).map fun (vs, rest) => (array vs, rest)
        else none
      else if c = '\x7b' then
        if depth + 1 < depthLimit then
          match skipBlanks rest with
          | '\x7d' :: rest => some (table [], rest)
          | rest => do
            let (pairs, rest) ← pairs? fuel (depth + 1) [] rest
            let t ← ofPairs? pairs
            return (t, rest)
        else none
      else if c = 't' then
        match cs with
        | 't' :: 'r' :: 'u' :: 'e' :: rest => some (bool true, rest)
        | _ => none
      else if c = 'f' then
        match cs with
        | 'f' :: 'a' :: 'l' :: 's' :: 'e' :: rest => some (bool false, rest)
        | _ => none
      else dateOrNumber? cs

/-- The items of a list up to its closing bracket, and what follows. -/
def items? : Nat → Nat → List Toml → List Char → Option (List Toml × List Char)
  | 0, _, _, _ => none
  | fuel + 1, depth, acc, cs =>
    match value? fuel depth cs with
    | none => none
    | some (v, rest) =>
      match skipLines (rest.length + 1) rest with
      | ']' :: rest => some ((v :: acc).reverse, rest)
      | ',' :: rest =>
        match skipLines (rest.length + 1) rest with
        | ']' :: rest => some ((v :: acc).reverse, rest)
        | rest => items? fuel depth (v :: acc) rest
      | _ => none

/-- The pairs of a table up to its closing brace, and what follows. -/
def pairs? : Nat → Nat → List Pair → List Char → Option (List Pair × List Char)
  | 0, _, _, _ => none
  | fuel + 1, depth, acc, cs =>
    match pair? fuel depth cs with
    | none => none
    | some (p, rest) =>
      match skipBlanks rest with
      | '\x7d' :: rest => some ((p :: acc).reverse, rest)
      | ',' :: rest => pairs? fuel depth (p :: acc) rest
      | _ => none

/-- A name and a value with an equals sign between them, and what follows. -/
def pair? : Nat → Nat → List Char → Option (Pair × List Char)
  | 0, _, _ => none
  | fuel + 1, depth, cs =>
    match path? cs with
    | some (path, key, '=' :: rest) =>
      (value? fuel depth (skipBlanks rest)).map fun (v, rest) => (⟨path, key, v⟩, rest)
    | _ => none

end

/-! ## Lines -/

/-- A header, and what follows. -/
def header? (cs : List Char) : Option (Section × List Char) :=
  match cs with
  | '[' :: '[' :: rest =>
    match path? rest with
    | some (path, key, ']' :: ']' :: rest) => some (⟨path, key, true, []⟩, rest)
    | _ => none
  | '[' :: rest =>
    match path? rest with
    | some (path, key, ']' :: rest) => some (⟨path, key, false, []⟩, rest)
    | _ => none
  | _ => none

/-- The pairs before the next header, last first, and the lines from there on. Every part of a
value takes at least one character, so that the length bounds the reading. -/
def pairLines? : Nat → List Pair → List Char → Option (List Pair × List Char)
  | 0, _, _ => none
  | fuel + 1, acc, cs =>
    match skipLines (cs.length + 1) cs with
    | [] => some (acc, [])
    | '[' :: rest => some (acc, '[' :: rest)
    | cs =>
      match pair? (2 * cs.length + 2) 0 cs with
      | none => none
      | some (p, rest) =>
        match afterLine? rest with
        | none => none
        | some rest => pairLines? fuel (p :: acc) rest

/-- The sections of some lines that start with a header. -/
def sections? : Nat → List Section → List Char → Option (List Section)
  | 0, _, _ => none
  | fuel + 1, acc, cs =>
    match cs with
    | [] => some acc.reverse
    | _ => do
      let (head, rest) ← header? cs
      let rest ← afterLine? rest
      let (pairs, rest) ← pairLines? (rest.length + 1) [] rest
      sections? fuel ({ head with pairs := pairs.reverse } :: acc) rest

/-- The value of a document. It may start with a byte order mark. -/
def parse? (input : String) : Option Toml := do
  let cs := match input.toList with
    | '\ufeff' :: rest => rest
    | cs => cs
  let (top, rest) ← pairLines? (cs.length + 1) [] cs
  let sections ← sections? (rest.length + 1) [] rest
  ofSections? top.reverse sections

end Airlink.Text.Toml
