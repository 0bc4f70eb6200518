import Airlink.Bytes.Hex
import Airlink.Text.Yaml.Cursor

/-!
# YAML scalars

The texts of the five styles. Between the words of a plain or quoted scalar, a line break becomes a
blank, and of several line breaks the first one goes away; `Gap` holds what stands between two
words. The lines of a block keep their breaks, or are folded in the same way.
-/

namespace Airlink.Text.Yaml

/-- The ways in which a scalar can be written. -/
inductive Style where
  | plain
  | single
  | double
  | literal
  | folded
  deriving DecidableEq, Repr

/-- The blanks and line breaks between two words. -/
structure Gap where
  /-- The blanks before the first line break. -/
  blanks : List Char := []
  /-- Whether there is a line break, which may be one that a backslash takes away. -/
  isBroken : Bool := false
  /-- The text of the first line break. -/
  first : List Char := []
  /-- The texts of the other line breaks. -/
  more : List Char := []

namespace Gap

/-- The text between two words. -/
def text (g : Gap) : List Char :=
  if !g.isBroken then g.blanks
  else if g.first = ['\n'] then if g.more = [] then [' '] else g.more
  else g.first ++ g.more

/-- A gap and the blanks and line breaks that follow it. A tab may not stand in the indentation,
which takes the columns before `margin`. -/
def extend? (margin : Nat) : Nat → Gap → Cursor → Option (Gap × Cursor)
  | 0, _, _ => none
  | fuel + 1, g, at_ =>
    match at_.rest with
    | [] => some (g, at_)
    | c :: _ =>
      if isBlank c then
        if g.isBroken then
          if c = '\t' && at_.column < margin then none else extend? margin fuel g (at_.skip 1)
        else extend? margin fuel { g with blanks := g.blanks ++ [c] } (at_.skip 1)
      else if isBreak c then
        let g := if g.isBroken then { g with more := g.more ++ at_.breakText }
          else { g with isBroken := true, first := at_.breakText }
        extend? margin fuel g at_.nextLine
      else some (g, at_)

end Gap

/-! ## Plain scalars -/

/-- The brackets, braces and commas of flow collections. -/
def isFlowMark (c : Char) : Bool := c = ',' || c = '[' || c = ']' || c = '\x7b' || c = '\x7d'

/-- The length of a plain word. In a flow collection a colon may not stand before a mark. -/
def wordLength? (inFlow : Bool) : List Char → Option Nat
  | [] => some 0
  | c :: rest =>
    if isBlank c || isBreak c then some 0
    else if inFlow && c = ':' && rest.head?.any (fun d => isFlowMark d || d = '?') then none
    else if c = ':' && isApart rest then some 0
    else if inFlow && isFlowMark c then some 0
    else (wordLength? inFlow rest).map (· + 1)

/-- The words of a plain scalar behind some text and a gap, where it ends, and whether the gap
before its end has a line break. Outside of flow collections the scalar ends at a line that is
indented by less than `margin`. -/
def plainWords? (inFlow : Bool) (margin : Nat) :
    Nat → List Char → Gap → Cursor → Option (List Char × Cursor × Bool)
  | 0, _, _, _ => none
  | fuel + 1, acc, g, at_ =>
    if at_.isBoundary || at_.rest.head? = some '#' then some (acc, at_, g.isBroken)
    else
      match wordLength? inFlow at_.rest with
      | none => none
      | some n =>
        let (acc, g) := if n = 0 then (acc, g) else (acc ++ g.text ++ at_.rest.take n, {})
        let at_ := at_.skip n
        if at_.rest.isEmpty || !isApart at_.rest then some (acc, at_, g.isBroken)
        else
          match g.extend? margin (at_.rest.length + 1) at_ with
          | none => none
          | some (g, at_) =>
            if !inFlow && at_.column < margin then some (acc, at_, g.isBroken)
            else plainWords? inFlow margin fuel acc g at_

/-- A plain scalar, where it ends, and whether a line break stands before its end. -/
def plain? (inFlow : Bool) (margin : Nat) (at_ : Cursor) : Option (String × Cursor × Bool) :=
  (plainWords? inFlow margin (at_.rest.length + 1) [] {} at_).map fun (cs, at_, isBroken) =>
    (String.ofList cs, at_, isBroken)

/-! ## Quoted scalars -/

/-- The character that a letter behind a backslash stands for. -/
def escape? (c : Char) : Option Char :=
  match c with
  | '0' => some '\x00'
  | 'a' => some '\x07'
  | 'b' => some '\x08'
  | 't' => some '\t'
  | '\t' => some '\t'
  | 'n' => some '\n'
  | 'v' => some '\x0b'
  | 'f' => some '\x0c'
  | 'r' => some '\r'
  | 'e' => some '\x1b'
  | ' ' => some ' '
  | '"' => some '"'
  | '/' => some '/'
  | '\\' => some '\\'
  | 'N' => some '\u0085'
  | '_' => some '\u00a0'
  | 'L' => some '\u2028'
  | 'P' => some '\u2029'
  | _ => none

/-- The number of hexadecimal digits behind the letter of an escape. -/
def codeLength? (c : Char) : Option Nat :=
  if c = 'x' then some 2 else if c = 'u' then some 4 else if c = 'U' then some 8 else none

/-- The character of an escape behind its backslash, and the number of characters it takes. -/
def escaped? : List Char → Option (Char × Nat)
  | [] => none
  | c :: rest =>
    match codeLength? c with
    | none => (escape? c).map fun d => (d, 1)
    | some n =>
      let ds := rest.take n
      match ds.mapM Bytes.Hex.value? with
      | none => none
      | some values =>
        let code := values.foldl (fun n v => 16 * n + v) 0
        if h : code.isValidChar then
          if ds.length = n then some (Char.ofNatAux code h, n + 1) else none
        else none

/-- The rest of a quoted scalar up to its closing quote, with the gap before it, and where it
ends. -/
def quotedWords? (isSingle : Bool) : Nat → List Char → Gap → Cursor → Option (List Char × Cursor)
  | 0, _, _, _ => none
  | fuel + 1, acc, g, at_ =>
    if at_.isBoundary then none
    else
      match at_.rest with
      | [] => none
      | c :: rest =>
        if isBlank c || isBreak c then
          match g.extend? 0 (at_.rest.length + 1) at_ with
          | none => none
          | some (g, at_) => quotedWords? isSingle fuel acc g at_
        else
          let acc := acc ++ g.text
          if isSingle then
            if c = '\'' then
              if rest.head? = some '\'' then quotedWords? isSingle fuel (acc ++ [c]) {} (at_.skip 2)
              else some (acc, at_.skip 1)
            else quotedWords? isSingle fuel (acc ++ [c]) {} (at_.skip 1)
          else if c = '"' then some (acc, at_.skip 1)
          else if c = '\\' then
            if rest.head?.any isBreak then
              quotedWords? isSingle fuel acc { isBroken := true } (at_.skip 1).nextLine
            else
              match escaped? rest with
              | none => none
              | some (d, n) => quotedWords? isSingle fuel (acc ++ [d]) {} (at_.skip (n + 1))
          else quotedWords? isSingle fuel (acc ++ [c]) {} (at_.skip 1)

/-- A quoted scalar from its first quote on, and where it ends. -/
def quoted? (isSingle : Bool) (at_ : Cursor) : Option (String × Cursor) :=
  (quotedWords? isSingle (at_.rest.length + 1) [] {} (at_.skip 1)).map fun (cs, at_) =>
    (String.ofList cs, at_)

/-! ## Blocks -/

/-- What becomes of the line breaks at the end of a block. -/
inductive Chomping where
  /-- All are taken away. -/
  | strip
  /-- The first one stays. -/
  | clip
  /-- All stay. -/
  | keep
  deriving DecidableEq, Repr

/-- The chomping that a character asks for. -/
def chomping? (c : Char) : Option Chomping :=
  if c = '+' then some .keep else if c = '-' then some .strip else none

/-- The indentation that a character asks for. -/
def indentation? (c : Char) : Option Nat :=
  if '1' ≤ c ∧ c ≤ '9' then some (c.toNat - '0'.toNat) else none

/-- The chomping and the indentation that a block asks for behind its mark, in either order. -/
def hints (at_ : Cursor) : Chomping × Option Nat × Cursor :=
  match at_.rest with
  | [] => (.clip, none, at_)
  | c :: rest =>
    match chomping? c, indentation? c with
    | some chomping, _ =>
      match rest.head?.bind indentation? with
      | some n => (chomping, some n, at_.skip 2)
      | none => (chomping, none, at_.skip 1)
    | none, some n =>
      match rest.head?.bind chomping? with
      | some chomping => (chomping, some n, at_.skip 2)
      | none => (.clip, some n, at_.skip 1)
    | none, none => (.clip, none, at_)

/-- The line breaks before the next line with text, the greatest column seen, and the place behind
the indentation of that line. The indentation takes the columns before `margin`, or all blanks
while it is not known; a tab may not stand in it. -/
def emptyLines? (margin : Option Nat) :
    Nat → List Char → Nat → Cursor → Option (List Char × Nat × Cursor)
  | 0, _, _, _ => none
  | fuel + 1, acc, widest, at_ =>
    let blanks := (at_.rest.takeWhile (· = ' ')).length
    let at_ := at_.skip (match margin with
      | some m => min blanks (m - at_.column)
      | none => blanks)
    let widest := max widest at_.column
    match at_.rest with
    | [] => some (acc, widest, at_)
    | c :: _ =>
      if c = '\t' && margin.all (at_.column < ·) then none
      else if isBreak c then emptyLines? margin fuel (acc ++ at_.breakText) widest at_.nextLine
      else some (acc, widest, at_)

/-- What a block holds so far. -/
structure Block where
  text : List Char := []
  /-- The break behind the last line. -/
  lineBreak : List Char := []
  /-- The breaks of the empty lines since then. -/
  emptyLines : List Char := []
  /-- Whether the last line starts with a blank. -/
  startsBlank : Bool := false

/-- A block with one more line, which starts here. A folded line break becomes a blank, unless one
of the lines beside it starts with a blank. -/
def Block.line (isFolded : Bool) (b : Block) (at_ : Cursor) : List Char × Bool :=
  let startsBlank := at_.rest.head?.any isBlank
  let join :=
    if isFolded && b.lineBreak = ['\n'] && !b.startsBlank && !startsBlank then
      if b.emptyLines = [] then [' '] else []
    else b.lineBreak
  (b.text ++ join ++ b.emptyLines ++ at_.rest.takeWhile (!isBreak ·), startsBlank)

/-- The lines of a block and where it ends. -/
def blockLines? (isFolded : Bool) (margin : Nat) : Nat → Block → Cursor → Option (Block × Cursor)
  | 0, _, _ => none
  | fuel + 1, b, at_ =>
    if at_.column ≠ margin || at_.rest.isEmpty then some (b, at_)
    else
      let (text, startsBlank) := b.line isFolded at_
      let at_ := at_.skipLine
      let lineBreak := at_.breakText
      match emptyLines? margin (at_.rest.length + 1) [] 0 at_.nextLine with
      | none => none
      | some (emptyLines, _, at_) =>
        blockLines? isFolded margin fuel ⟨text, lineBreak, emptyLines, startsBlank⟩ at_

/-- A block from its mark on and where it ends. The block is indented by more than `parent`, which
is the column of the collection around it, if there is one. -/
def block? (isFolded : Bool) (parent : Option Nat) (at_ : Cursor) : Option (String × Cursor) := do
  let (chomping, wanted, at_) := hints (at_.skip 1)
  let at_ ← at_.closeLine?
  let margin := wanted.map (parent.getD 0 + ·)
  let (emptyLines, widest, at_) ← emptyLines? margin (at_.rest.length + 1) [] 0 at_
  let least := (parent.map (· + 1)).getD 1
  let margin := margin.getD (max widest (max least 1))
  let (b, at_) ← blockLines? isFolded margin (at_.rest.length + 1) { emptyLines } at_
  let tail := match chomping with
    | .strip => []
    | .clip => b.lineBreak
    | .keep => b.lineBreak ++ b.emptyLines
  return (String.ofList (b.text ++ tail), at_)

end Airlink.Text.Yaml
