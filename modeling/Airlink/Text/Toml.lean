import Airlink.Text.Doc

/-!
# TOML values

A TOML value once tables with dotted names and headers are put together. A fraction and a date are
known by kind only, since nothing that is read from a document asks for one.
-/

namespace Airlink.Text

/-- A TOML value. -/
inductive Toml where
  | text (s : String)
  | integer (n : Int)
  | float
  | bool (b : Bool)
  | date
  | array (items : List Toml)
  | table (fields : List (String × Toml))
  deriving Inhabited

namespace Toml

mutual

/-- A TOML value as a document. A choice without arguments is its name, or a table that maps the
name to an empty list or table. A date stands for a table without any known field. -/
def toDoc : Toml → Doc
  | text s => .leaf { text := s, choice := s }
  | integer n => .leaf { int := n }
  | float => .leaf {}
  | bool b => .leaf { bool := b }
  | date => .table none []
  | array items => .list false (docs items)
  | table members =>
    let choice := match members with
      | [(name, array [])] => some name
      | [(name, table [])] => some name
      | _ => none
    .table choice (fields members)

/-- The items of an array as documents. -/
def docs : List Toml → List Doc
  | [] => []
  | v :: vs => toDoc v :: docs vs

/-- The entries of a table as fields. -/
def fields : List (String × Toml) → List (Option String × Doc)
  | [] => []
  | (k, v) :: ms => (some k, toDoc v) :: fields ms

end

end Toml

end Airlink.Text
