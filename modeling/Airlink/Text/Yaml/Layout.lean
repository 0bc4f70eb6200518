import Airlink.Text.Yaml.Token

/-!
# The layout of a YAML text

`tokens?` reads a text as tokens. The indentation of lines opens and closes block collections, and
a colon makes a key of what stands before it. That the text before a colon is a key is known only
at the colon; so the place where a key may start is kept as a candidate, and the marks of the key
and of the table that starts with it are put in there afterwards.
-/

namespace Airlink.Text.Yaml

/-- A place where a key may start. -/
structure Candidate where
  /-- Whether nothing else may start there, since the table around it needs a key. -/
  isRequired : Bool
  /-- The number of tokens before it. -/
  place : Nat
  index : Nat
  line : Nat
  column : Nat

/-- The state of reading. -/
structure Layout where
  at_ : Cursor
  /-- The tokens so far, last first. -/
  tokens : List Token
  /-- The columns of the open block collections, innermost first. -/
  indents : List Nat
  /-- The candidate outside of all flow collections. -/
  outer : Option Candidate
  /-- The candidates in the open flow collections, innermost first. -/
  inner : List (Option Candidate)
  /-- Whether a key may start here. -/
  keyAllowed : Bool

namespace Layout

/-- The start of a text. -/
def start (cs : List Char) : Layout := ⟨Cursor.start cs, [], [], none, [], true⟩

/-- Whether a flow collection is open. -/
def inFlow (l : Layout) : Bool := !l.inner.isEmpty

/-- The candidate of the innermost collection. -/
def candidate (l : Layout) : Option Candidate :=
  match l.inner with
  | [] => l.outer
  | c :: _ => c

/-- Replaces the candidate of the innermost collection. -/
def setCandidate (l : Layout) (c : Option Candidate) : Layout :=
  match l.inner with
  | [] => { l with outer := c }
  | _ :: rest => { l with inner := c :: rest }

/-- Adds a token. -/
def push (t : Token) (l : Layout) : Layout := { l with tokens := t :: l.tokens }

/-- Puts a token behind the first so many ones. -/
def pushAt (place : Nat) (t : Token) (l : Layout) : Layout :=
  { l with tokens := l.tokens.insertIdx (l.tokens.length - place) t }

/-- Gives up the candidate of the innermost collection. -/
def drop? (l : Layout) : Option Layout :=
  if l.candidate.any (·.isRequired) then none else some (l.setCandidate none)

/-- Makes a candidate of this place, if a key may start here. -/
def save? (l : Layout) : Option Layout :=
  if !l.keyAllowed then some l
  else do
    let l ← l.drop?
    let isRequired := !l.inFlow && l.indents.head? = some l.at_.column
    let c : Candidate :=
      ⟨isRequired, l.tokens.length, l.at_.index, l.at_.line, l.at_.column⟩
    return l.setCandidate (some c)

/-- Whether a candidate is on an earlier line, or too far behind to be a key. -/
def isStale (at_ : Cursor) (c : Candidate) : Bool :=
  c.line < at_.line || c.index + 1024 < at_.index

/-- Gives up all candidates that can no longer be keys. -/
def dropStale? (l : Layout) : Option Layout :=
  let isLost (c : Option Candidate) : Bool := c.any fun c => isStale l.at_ c && c.isRequired
  if isLost l.outer || l.inner.any isLost then none
  else
    let keep (c : Option Candidate) : Option Candidate := c.filter (!isStale l.at_ ·)
    some { l with outer := keep l.outer, inner := l.inner.map keep }

/-- Opens a block collection at a column, if it is to the right of the open ones. Its token comes
behind the first so many ones. -/
def open_ (column place : Nat) (t : Token) (l : Layout) : Layout :=
  if !l.inFlow && l.indents.all (· < column) then
    { l with indents := column :: l.indents }.pushAt place t
  else l

/-- Closes the block collections to the right of a column. -/
def closeTo (column : Nat) (l : Layout) : Layout :=
  if l.inFlow then l
  else
    let closed := (l.indents.takeWhile (column < ·)).length
    { l with
      indents := l.indents.drop closed
      tokens := List.replicate closed .blockEnd ++ l.tokens }

/-- Closes all block collections. -/
def closeAll (l : Layout) : Layout :=
  if l.inFlow then l
  else { l with
    indents := [], tokens := List.replicate l.indents.length .blockEnd ++ l.tokens }

/-- Goes on behind so many characters, with a word on whether a key may start there. -/
def advance (n : Nat) (keyAllowed : Bool) (l : Layout) : Layout :=
  { l with at_ := l.at_.skip n, keyAllowed }

/-- Adds the token that ends at a place. -/
def take (t : Token) (at_ : Cursor) (keyAllowed : Bool) (l : Layout) : Layout :=
  { l.push t with at_, keyAllowed }

/-- Goes to the next token, over blanks, comments and line breaks. Tabs are blanks only where no
key may start. -/
def skipToToken : Nat → Layout → Layout
  | 0, l => l
  | fuel + 1, l =>
    let at_ := l.at_
    let at_ := if at_.column = 0 && at_.rest.head? = some '\ufeff' then at_.skip 1 else at_
    let at_ := at_.skipWhile fun c => c = ' ' || (c = '\t' && (l.inFlow || !l.keyAllowed))
    let at_ := if at_.rest.head? = some '#' then at_.skipLine else at_
    if at_.rest.head?.any isBreak then
      skipToToken fuel { l with at_ := at_.nextLine, keyAllowed := l.keyAllowed || !l.inFlow }
    else { l with at_ }

/-! ## Marks -/

/-- The start of a flow collection. -/
def openFlow? (t : Token) (l : Layout) : Option Layout := do
  let l ← l.save?
  return { l.push t with inner := none :: l.inner }.advance 1 true

/-- The end of a flow collection. -/
def closeFlow? (t : Token) (l : Layout) : Option Layout := do
  let l ← l.drop?
  return { l.push t with inner := l.inner.drop 1 }.advance 1 false

/-- The comma in a flow collection. -/
def comma? (l : Layout) : Option Layout := do
  let l ← l.drop?
  return (l.push .comma).advance 1 true

/-- The dash before an item, which opens a list. -/
def dash? (l : Layout) : Option Layout :=
  if !l.inFlow && !l.keyAllowed then none
  else do
    let l ← (l.open_ l.at_.column l.tokens.length .blockListStart).drop?
    return (l.push .dash).advance 1 true

/-- The question mark before a key, which opens a table. -/
def question? (l : Layout) : Option Layout :=
  if !l.inFlow && !l.keyAllowed then none
  else do
    let l ← (l.open_ l.at_.column l.tokens.length .blockTableStart).drop?
    return (l.push .key).advance 1 (!l.inFlow)

/-- The colon before a value. It makes a key of the candidate, if there is one. -/
def colon? (l : Layout) : Option Layout :=
  match l.candidate with
  | some c =>
    let l := ((l.pushAt c.place .key).open_ c.column c.place .blockTableStart).setCandidate none
    some ((l.push .value).advance 1 false)
  | none =>
    if !l.inFlow && !l.keyAllowed then none
    else
      let l := l.open_ l.at_.column l.tokens.length .blockTableStart
      some ((l.push .value).advance 1 (!l.inFlow))

/-- The mark of a document's start or end. -/
def boundary? (t : Token) (l : Layout) : Option Layout := do
  let l ← l.closeAll.drop?
  return (l.push t).advance 3 false

/-- A directive. -/
def directive? (l : Layout) : Option Layout := do
  let l ← l.closeAll.drop?
  let (t, at_) ← Yaml.directive? l.at_
  return l.take t at_ false

/-- A token other than a block that may be a key or stand before one. -/
def keyPart? (read : Cursor → Option (Token × Cursor)) (l : Layout) : Option Layout := do
  let l ← l.save?
  let (t, at_) ← read l.at_
  return l.take t at_ false

/-- A plain scalar. A key may start behind it, if it ends on a later line. -/
def plain? (l : Layout) : Option Layout := do
  let l ← l.save?
  let margin := (l.indents.head?.map (· + 1)).getD 0
  let (text, at_, isBroken) ← Yaml.plain? l.inFlow margin l.at_
  return l.take (.scalar .plain text) at_ isBroken

/-- A block. -/
def block? (style : Style) (l : Layout) : Option Layout := do
  let l ← l.drop?
  let (text, at_) ← Yaml.block? (style = .folded) l.indents.head? l.at_
  return l.take (.scalar style text) at_ true

/-- A quoted scalar. -/
def quoted? (style : Style) : Layout → Option Layout :=
  keyPart? fun at_ =>
    (Yaml.quoted? (style = .single) at_).map fun (text, at_) => (.scalar style text, at_)

/-- The next token, which starts here with a character. -/
def token? (c : Char) (rest : List Char) (l : Layout) : Option Layout :=
  if l.at_.column = 0 && c = '%' then l.directive?
  else if l.at_.isDocumentMark '-' then l.boundary? .documentStart
  else if l.at_.isDocumentMark '.' then l.boundary? .documentEnd
  else if c = '[' then l.openFlow? .listStart
  else if c = '\x7b' then l.openFlow? .tableStart
  else if c = ']' then l.closeFlow? .listEnd
  else if c = '\x7d' then l.closeFlow? .tableEnd
  else if c = ',' then l.comma?
  else if c = '-' && isApart rest then l.dash?
  else if c = '?' && (l.inFlow || isApart rest) then l.question?
  else if c = ':' && (l.inFlow || isApart rest) then l.colon?
  else if c = '*' then
    l.keyPart? fun at_ => (anchorName? at_).map fun (name, at_) => (.reference name, at_)
  else if c = '&' then
    l.keyPart? fun at_ => (anchorName? at_).map fun (name, at_) => (.anchor name, at_)
  else if c = '!' then l.keyPart? (tag? l.inFlow)
  else if c = '|' && !l.inFlow then l.block? .literal
  else if c = '>' && !l.inFlow then l.block? .folded
  else if c = '\'' then l.quoted? .single
  else if c = '"' then l.quoted? .double
  else if isApart (c :: rest) || "#|>%@\x60".toList.contains c then none
  else l.plain?

/-- All tokens from here on. -/
def run? : Nat → Layout → Option (List Token)
  | 0, _ => none
  | fuel + 1, l =>
    match (l.skipToToken (l.at_.rest.length + 1)).dropStale? with
    | none => none
    | some l =>
      let l := l.closeTo l.at_.column
      match l.at_.rest with
      | [] => l.closeAll.drop?.map (·.tokens.reverse)
      | c :: rest =>
        match l.token? c rest with
        | none => none
        | some l => run? fuel l

end Layout

/-- The tokens of a text. It may start with a byte order mark. -/
def tokens? (input : String) : Option (List Token) :=
  let cs := match input.toList with
    | '\ufeff' :: rest => rest
    | cs => cs
  if cs.all isReadable then (Layout.start cs).run? (cs.length + 1) else none

end Airlink.Text.Yaml
