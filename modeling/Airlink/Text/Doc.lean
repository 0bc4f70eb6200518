/-!
# Documents

What a configuration document holds, apart from the format it is written in. Each scalar carries
the ways in which its format lets it be read, so that whoever reads a document asks for a truth
value, a number or a text and need not know the format.

A record may be written as a table of named fields or as a list of fields in their order;
`Doc.record?` takes both.
-/

namespace Airlink.Text

/-- The ways in which a scalar may be read. -/
structure Reading where
  null : Bool := false
  bool : Option Bool := none
  int : Option Int := none
  text : Option String := none
  /-- The name of a choice without arguments. -/
  choice : Option String := none
  deriving DecidableEq, Repr, Inhabited

/-- A document or a part of one. -/
inductive Doc where
  /-- A scalar. -/
  | leaf (reading : Reading)
  /-- An empty scalar, which may stand for an empty list or table as well. -/
  | blank (reading : Reading)
  /-- A list. `exact` says that, read as a record, it may not have more items than fields. -/
  | list (exact : Bool) (items : List Doc)
  /-- A table in the order of writing. A key that is no text is `none`; `choice` is the name of
  the choice without arguments that a table may stand for. -/
  | table (choice : Option String) (fields : List (Option String × Doc))
  deriving Inhabited

namespace Doc

/-- The ways in which a document may be read as a scalar. -/
def reading : Doc → Reading
  | leaf r => r
  | blank r => r
  | list _ _ => {}
  | table choice _ => { choice }

/-- The document as a truth value. -/
def bool? (d : Doc) : Option Bool := d.reading.bool

/-- The document as a text. -/
def text? (d : Doc) : Option String := d.reading.text

/-- The document as a choice without arguments. -/
def choice? (d : Doc) : Option String := d.reading.choice

/-- The document as a natural number below a bound. -/
def nat? (bound : Nat) (d : Doc) : Option Nat :=
  d.reading.int.bind fun n => if 0 ≤ n ∧ n.toNat < bound then some n.toNat else none

/-- The document as a number of eight bits. -/
def uint8? (d : Doc) : Option UInt8 := (d.nat? UInt8.size).map UInt8.ofNat

/-- The document as a number of sixty-four bits. -/
def uint64? (d : Doc) : Option UInt64 := (d.nat? UInt64.size).map UInt64.ofNat

/-- The document as a signed number of eight bits. -/
def int8? (d : Doc) : Option Int8 :=
  d.reading.int.bind fun n => if -128 ≤ n ∧ n ≤ 127 then some (Int8.ofInt n) else none

/-- The document as a value that may be missing, where null says that it is. -/
def optional? (read : Doc → Option α) (d : Doc) : Option (Option α) :=
  if d.reading.null then some none else (read d).map some

/-- The document as a list of values. -/
def list? (read : Doc → Option α) : Doc → Option (List α)
  | list _ items => items.mapM read
  | blank _ => some []
  | _ => none

/-- The only value of a key in a table, `none` if there are several. -/
def only? (fields : List (Option String × Doc)) (name : String) : Option (Option Doc) :=
  match fields.filter fun f => f.1 == some name with
  | [] => some none
  | [(_, d)] => some (some d)
  | _ => none

/-- The document as a record with the given fields, each with its value if it has one. A table may
have other keys too, but no key of the record twice. -/
def record? (names : List String) : Doc → Option (List (Option Doc))
  | leaf _ => none
  | blank _ => some (names.map fun _ => none)
  | list exact items =>
    if exact && names.length < items.length then none
    else some (names.mapIdx fun i _ => items[i]?)
  | table _ fields =>
    if fields.any fun f => f.1.isNone then none else names.mapM (only? fields)

/-- The value of a field that has a default. -/
def field? (default : α) (read : Doc → Option α) : Option Doc → Option α
  | none => some default
  | some d => read d

/-- The value of a field that must be there. -/
def required? (read : Doc → Option α) (d : Option Doc) : Option α := d.bind read

end Doc

end Airlink.Text
