import Airlink.Text.Toml

/-!
# Sections of a TOML document

A document is a list of sections, each a header and the pairs below it. `ofSections?` puts them
together. A header may name a table that so far is only implied by longer headers, or add a table
to a list of tables; a dotted name may extend only tables that dotted names have made. Everything
else that would define a table or a value twice is refused.
-/

namespace Airlink.Text.Toml

/-- How a table came to be. -/
inductive Origin where
  /-- By a header of its own, or as an item of a list of tables. -/
  | header
  /-- As a part of the name in a header. -/
  | implied
  /-- As a part of a dotted name. -/
  | dotted
  deriving DecidableEq, Repr

/-- A part of a document that may still grow. Of a list of tables the last one stands first. -/
inductive Draft where
  | value (v : Toml)
  | table (origin : Origin) (fields : List (String × Draft))
  | tables (items : List (List (String × Draft)))
  deriving Inhabited

/-- The fields of a table that may still grow. -/
abbrev Fields : Type := List (String × Draft)

/-- A name, a value, and the names of the tables before the name. -/
structure Pair where
  path : List String
  key : String
  value : Toml

/-- A header and the pairs below it. The pairs before the first header stand for themselves. -/
structure Section where
  /-- The names in the header but the last. -/
  path : List String
  /-- The last name in the header. -/
  key : String
  /-- Whether the header adds a table to a list. -/
  isItem : Bool
  pairs : List Pair

/-- Changes the entry of a name, which may have no entry yet. -/
def alter (name : String) (change : Option Draft → Option Draft) : Fields → Option Fields
  | [] => (change none).map fun d => [(name, d)]
  | (k, d) :: rest =>
    if k = name then (change (some d)).map fun d => (k, d) :: rest
    else (alter name change rest).map ((k, d) :: ·)

/-- Changes the table at the end of a path. Tables on the way that are not there are made. A path
in a dotted name does not lead through tables that have a header. -/
def within (isDotted : Bool) (change : Origin → Fields → Option Fields) :
    List String → Origin → Fields → Option Fields
  | [], origin, fields => change origin fields
  | name :: path, _, fields => alter name (fun
    | none =>
      let origin := if isDotted then .dotted else .implied
      (within isDotted change path origin []).map (.table origin)
    | some (.table origin inner) =>
      if isDotted && origin = .header then none
      else (within isDotted change path origin inner).map (.table origin)
    | some (.tables (last :: earlier)) =>
      (within isDotted change path .header last).map fun t => .tables (t :: earlier)
    | some _ => none) fields

/-- A table with one more pair. -/
def put (fields : Fields) (pair : Pair) : Option Fields :=
  within true (fun origin fields =>
    if (origin = .dotted) = (pair.path = []) then none
    else alter pair.key (fun
      | none => some (.value pair.value)
      | some _ => none) fields) pair.path .header fields

/-- A table with some more pairs. -/
def putAll (fields : Fields) (pairs : List Pair) : Option Fields := pairs.foldlM put fields

/-- A document with one more section. -/
def enter (root : Fields) (s : Section) : Option Fields :=
  within false (fun _ fields => alter s.key (fun
    | none =>
      (putAll [] s.pairs).map fun t => if s.isItem then .tables [t] else .table .header t
    | some (.table .implied inner) =>
      if s.isItem then none else (putAll inner s.pairs).map (.table .header)
    | some (.tables items) =>
      if s.isItem then (putAll [] s.pairs).map fun t => .tables (t :: items) else none
    | some _ => none) fields) s.path .implied root

mutual

/-- The value that a part of a document has in the end. -/
def Draft.close : Draft → Toml
  | .value v => v
  | .table _ fields => .table (closeFields fields)
  | .tables items => .array (closeItems items [])

/-- The values of the fields of a table. -/
def closeFields : List (String × Draft) → List (String × Toml)
  | [] => []
  | (k, d) :: rest => (k, d.close) :: closeFields rest

/-- The values of a list of tables, the last one first. -/
def closeItems : List (List (String × Draft)) → List Toml → List Toml
  | [], acc => acc
  | t :: rest, acc => closeItems rest (.table (closeFields t) :: acc)

end

/-- The document of some pairs and some sections. -/
def ofSections? (top : List Pair) (sections : List Section) : Option Toml := do
  let root ← putAll [] top
  let root ← sections.foldlM enter root
  return .table (closeFields root)

/-- The table that some pairs between braces stand for. -/
def ofPairs? (pairs : List Pair) : Option Toml := ofSections? pairs []

end Airlink.Text.Toml
