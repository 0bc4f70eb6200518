import Airlink.Text.Yaml.Scalar

/-!
# YAML tokens

The tokens of a text, and the readers of those that are neither marks nor scalars: directives,
anchors, references to anchors, and tags.
-/

namespace Airlink.Text.Yaml

/-- A token. -/
inductive Token where
  /-- A directive that names the version of the language. -/
  | version (major minor : Nat)
  /-- A directive that makes a handle stand for the start of tags. -/
  | tagHandle (handle start : String)
  | documentStart
  | documentEnd
  | blockListStart
  | blockTableStart
  | blockEnd
  | listStart
  | listEnd
  | tableStart
  | tableEnd
  /-- The dash before an item. -/
  | dash
  | comma
  | key
  | value
  | reference (name : String)
  | anchor (name : String)
  | tag (handle suffix : String)
  | scalar (style : Style) (text : String)
  deriving DecidableEq, Repr

/-- A word of the characters of names, which may be empty, and the place behind it. -/
def word (at_ : Cursor) : List Char × Cursor :=
  (at_.rest.takeWhile isWord, at_.skipWhile isWord)

/-- The name behind the mark of an anchor or a reference, and the place behind it. -/
def anchorName? (at_ : Cursor) : Option (String × Cursor) :=
  let (name, at_) := word (at_.skip 1)
  let isClosed := isApart at_.rest || at_.rest.head?.any fun c =>
    c = '?' || c = ':' || c = ',' || c = ']' || c = '\x7d' || c = '%' || c = '@' || c = '\x60'
  if name.isEmpty || !isClosed then none else some (String.ofList name, at_)

/-! ## Tags -/

/-- Whether a character may stand in a tag. Commas and brackets may only stand in a tag that is
written in full. -/
def isTagChar (inFull : Bool) (c : Char) : Bool :=
  isWord c || ";/?:@&=+$.!~*'()".toList.contains c ||
    (inFull && (c = ',' || c = '[' || c = ']'))

/-- The octets of so many escapes, each a percent sign and two digits, and what follows. -/
def percentOctets? : Nat → List Char → Option (List Nat × List Char)
  | 0, cs => some ([], cs)
  | n + 1, '%' :: a :: b :: rest => do
    let hi ← Bytes.Hex.value? a
    let lo ← Bytes.Hex.value? b
    let (octets, rest) ← percentOctets? n rest
    return ((16 * hi + lo) :: octets, rest)
  | _ + 1, _ => none

/-- The number of octets of a character by the first one, and the bits that this one has. -/
def octetCount? (b : Nat) : Option (Nat × Nat) :=
  if b < 0x80 then some (1, b)
  else if b / 0x20 = 6 then some (2, b % 0x20)
  else if b / 0x10 = 14 then some (3, b % 0x10)
  else if b / 8 = 30 then some (4, b % 8)
  else none

/-- The character that escapes stand for, and the number of characters they take. -/
def percentChar? (cs : List Char) : Option (Char × Nat) := do
  let (first, _) ← percentOctets? 1 cs
  let (n, bits) ← octetCount? (first.headD 0)
  let (octets, _) ← percentOctets? n cs
  let more := octets.drop 1
  if more.all (· / 0x40 = 2) then
    some (Char.ofNat (more.foldl (fun code b => 0x40 * code + b % 0x40) bits), 3 * n)
  else none

/-- The characters of a tag behind those read so far, and the place behind them. -/
def tagChars? (inFull : Bool) : Nat → List Char → Cursor → Option (List Char × Cursor)
  | 0, _, _ => none
  | fuel + 1, acc, at_ =>
    match at_.rest with
    | [] => some (acc, at_)
    | c :: _ =>
      if c = '%' then
        match percentChar? at_.rest with
        | none => none
        | some (d, n) => tagChars? inFull fuel (acc ++ [d]) (at_.skip n)
      else if isTagChar inFull c then tagChars? inFull fuel (acc ++ [c]) (at_.skip 1)
      else some (acc, at_)

/-- The handle at the start of a tag: an exclamation mark, and a word and another exclamation mark
if they are there. -/
def tagHandle (at_ : Cursor) : List Char × Cursor :=
  let (name, at_) := word (at_.skip 1)
  if at_.rest.head? = some '!' then ('!' :: name ++ ['!'], at_.skip 1) else ('!' :: name, at_)

/-- A tag from its exclamation mark on, and the place behind it. -/
def tag? (inFlow : Bool) (at_ : Cursor) : Option (Token × Cursor) := do
  let fuel := at_.rest.length + 1
  let (token, at_) ←
    if (at_.rest.drop 1).head? = some '<' then do
      let (suffix, at_) ← tagChars? true fuel [] (at_.skip 2)
      if suffix.isEmpty || at_.rest.head? ≠ some '>' then none
      else some (Token.tag "" (String.ofList suffix), at_.skip 1)
    else do
      let (handle, behind) := tagHandle at_
      if 1 < handle.length ∧ handle.getLast? = some '!' then
        let (suffix, at_) ← tagChars? false fuel [] behind
        if suffix.isEmpty then none
        else some (Token.tag (String.ofList handle) (String.ofList suffix), at_)
      else
        let (suffix, at_) ← tagChars? false fuel (handle.drop 1) behind
        if suffix.isEmpty then some (Token.tag "" "!", at_)
        else some (Token.tag "!" (String.ofList suffix), at_)
  if isApart at_.rest || (inFlow && at_.rest.head? = some ',') then some (token, at_) else none

/-! ## Directives -/

/-- A number of at most nine digits, and the place behind it. -/
def versionNumber? (at_ : Cursor) : Option (Nat × Cursor) :=
  let ds := at_.rest.takeWhile Char.isDigit
  if ds.isEmpty || 9 < ds.length then none
  else some (ds.foldl (fun n c => 10 * n + (c.toNat - '0'.toNat)) 0, at_.skip ds.length)

/-- What a directive says that names the version. -/
def version? (at_ : Cursor) : Option (Token × Cursor) := do
  let (major, at_) ← versionNumber? at_.skipBlanks
  if at_.rest.head? ≠ some '.' then none
  else
    let (minor, at_) ← versionNumber? (at_.skip 1)
    return (.version major minor, at_)

/-- What a directive says that names a handle. -/
def handle? (at_ : Cursor) : Option (Token × Cursor) := do
  let at_ := at_.skipBlanks
  if at_.rest.head? ≠ some '!' then none
  else
    let (handle, at_) := tagHandle at_
    if handle ≠ ['!'] ∧ handle.getLast? ≠ some '!' then none
    else if !at_.rest.head?.any isBlank then none
    else
      let (start, at_) ← tagChars? true (at_.rest.length + 1) [] at_.skipBlanks
      if start.isEmpty || !isApart at_.rest then none
      else some (.tagHandle (String.ofList handle) (String.ofList start), at_)

/-- A directive from its percent sign on, and the place behind its line. -/
def directive? (at_ : Cursor) : Option (Token × Cursor) := do
  let (name, at_) := word (at_.skip 1)
  if !isApart at_.rest then none
  else
    let (token, at_) ← match String.ofList name with
      | "YAML" => version? at_
      | "TAG" => handle? at_
      | _ => none
    return (token, ← at_.closeLine?)

end Airlink.Text.Yaml
