/-!
# Places in a YAML text

A cursor is what is left of a text together with the count of characters, lines and columns behind
it. Line breaks are the usual ones, the next-line control and the two separators of Unicode.
-/

namespace Airlink.Text.Yaml

/-- The blanks within a line. -/
def isBlank (c : Char) : Bool := c = ' ' || c = '\t'

/-- The characters that end a line. -/
def isBreak (c : Char) : Bool :=
  c = '\n' || c = '\r' || c = '\u0085' || c = '\u2028' || c = '\u2029'

/-- The characters of names. -/
def isWord (c : Char) : Bool := c.isAlphanum || c = '_' || c = '-'

/-- Whether a text may hold a character at all. -/
def isReadable (c : Char) : Bool :=
  c = '\t' || c = '\n' || c = '\r' || (' ' ≤ c && c ≤ '~') || c = '\u0085' ||
    ('\u00a0' ≤ c && c ≠ '\ufffe' && c ≠ '\uffff')

/-- Whether a text ends or has a blank or a line break here. -/
def isApart : List Char → Bool
  | [] => true
  | c :: _ => isBlank c || isBreak c

/-- Whether a text ends or has a line break here. -/
def isLineEnd : List Char → Bool
  | [] => true
  | c :: _ => isBreak c

/-- A place in a text. -/
structure Cursor where
  rest : List Char
  index : Nat
  line : Nat
  column : Nat

namespace Cursor

/-- The start of a text. -/
def start (cs : List Char) : Cursor := ⟨cs, 0, 0, 0⟩

/-- Some characters on, within a line. -/
def skip (n : Nat) (at_ : Cursor) : Cursor :=
  { at_ with rest := at_.rest.drop n, index := at_.index + n, column := at_.column + n }

/-- Behind the characters of a kind, within a line. -/
def skipWhile (p : Char → Bool) (at_ : Cursor) : Cursor :=
  at_.skip (at_.rest.takeWhile p).length

/-- Behind the blanks of a line. -/
def skipBlanks (at_ : Cursor) : Cursor := at_.skipWhile isBlank

/-- Before the next line break. -/
def skipLine (at_ : Cursor) : Cursor := at_.skipWhile fun c => !isBreak c

/-- Behind a line break, if there is one here. -/
def nextLine (at_ : Cursor) : Cursor :=
  match at_.rest with
  | '\r' :: '\n' :: rest => ⟨rest, at_.index + 2, at_.line + 1, 0⟩
  | c :: rest => if isBreak c then ⟨rest, at_.index + 1, at_.line + 1, 0⟩ else at_
  | [] => at_

/-- The text that a line break stands for. The separators of Unicode stand for themselves. -/
def breakText (at_ : Cursor) : List Char :=
  match at_.rest with
  | c :: _ => if c = '\u2028' ∨ c = '\u2029' then [c] else if isBreak c then ['\n'] else []
  | [] => []

/-- Whether a document starts or ends here by a line of its own. -/
def isDocumentMark (at_ : Cursor) (mark : Char) : Bool :=
  at_.column = 0 && at_.rest.take 3 = [mark, mark, mark] && isApart (at_.rest.drop 3)

/-- Whether a document starts or ends here. -/
def isBoundary (at_ : Cursor) : Bool := at_.isDocumentMark '-' || at_.isDocumentMark '.'

/-- Behind the end of a line, before which only blanks and a comment may stand. -/
def closeLine? (at_ : Cursor) : Option Cursor :=
  let at_ := at_.skipBlanks
  let at_ := if at_.rest.head? = some '#' then at_.skipLine else at_
  if isLineEnd at_.rest then some at_.nextLine else none

end Cursor

end Airlink.Text.Yaml
