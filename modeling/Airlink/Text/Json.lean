import Airlink.Text.Doc

/-!
# JSON values

A JSON value as it is written: numbers by their digits, members in order and with repetitions. A
text whose escapes contain half of a surrogate pair is well formed but stands for no characters.
-/

namespace Airlink.Text

/-- A JSON value. -/
inductive Json where
  | null
  | bool (b : Bool)
  | number (digits : String)
  | text (chars : Option String)
  | array (items : List Json)
  | object (members : List (Option String × Json))
  deriving Inhabited

namespace Json

/-- A text. -/
def str (s : String) : Json := text (some s)

/-- A natural number. -/
def nat (n : Nat) : Json := number (toString n)

/-- An integer. -/
def int (n : Int) : Json := number (toString n)

/-- An object whose keys are given. -/
def obj (members : List (String × Json)) : Json := object (members.map fun m => (some m.1, m.2))

/-- Null, or a value. -/
def opt (f : α → Json) : Option α → Json
  | none => null
  | some a => f a

/-- The integer a number stands for. A fraction or an exponent makes it none, and so does a minus
sign on zero or a size beyond sixty-four bits. -/
def integer? (digits : String) : Option Int :=
  match digits.toInt? with
  | none => none
  | some n =>
    if digits.startsWith "-" then if Int64.minValue.toInt ≤ n ∧ n < 0 then some n else none
    else if n < UInt64.size then some n else none

mutual

/-- A JSON value as a document. A choice without arguments is its name, or an object that maps the
name to null. -/
def toDoc : Json → Doc
  | null => .leaf { null := true }
  | bool b => .leaf { bool := some b }
  | number digits => .leaf { int := integer? digits }
  | text chars => .leaf { text := chars, choice := chars }
  | array items => .list true (docs items)
  | object members =>
    let choice := match members with
      | [(name, null)] => name
      | _ => none
    .table choice (fields members)

/-- The items of an array as documents. -/
def docs : List Json → List Doc
  | [] => []
  | v :: vs => toDoc v :: docs vs

/-- The members of an object as fields. -/
def fields : List (Option String × Json) → List (Option String × Doc)
  | [] => []
  | (k, v) :: ms => (k, toDoc v) :: fields ms

end

end Json

end Airlink.Text
