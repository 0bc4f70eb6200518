import Airlink.Text.Json

/-!
# Documents to be written

The content of a document apart from its format: flags, numbers, texts, records, and lists of
records. Each format writes a tree in its own way; the fields of a record keep their order.
-/

namespace Airlink.Text

/-- A document to be written, or a part of one. -/
inductive Tree where
  | flag (b : Bool)
  | number (n : Nat)
  | text (s : String)
  | record (fields : List (String × Tree))
  | records (items : List (List (String × Tree)))
  deriving Inhabited

namespace Tree

mutual

/-- A tree as a JSON value. -/
def toJson : Tree → Json
  | flag b => .bool b
  | number n => .nat n
  | text s => .str s
  | record fields => .object (members fields)
  | records items => .array (objects items)

/-- The fields of a record as members of an object. -/
def members : List (String × Tree) → List (Option String × Json)
  | [] => []
  | (name, t) :: fields => (some name, toJson t) :: members fields

/-- Records as objects. -/
def objects : List (List (String × Tree)) → List Json
  | [] => []
  | fields :: items => .object (members fields) :: objects items

end

end Tree

end Airlink.Text
