import Airlink.Text.Decimal
import Airlink.Text.Doc
import Airlink.Text.Yaml.Node

/-!
# YAML nodes as documents

A scalar is a text as it is written. It may also be a truth value or a number if it is plain, or if
it is a literal block with the tag for that. `Node.toDoc` follows references; a node that is part
of itself can be read to the depth that the readers of documents ask for.
-/

namespace Airlink.Text.Yaml

open Decimal (isDigit ofDigits)

/-! ## Plain words -/

/-- Whether a text is a word for nothing. -/
def isNull (s : String) : Bool := ["null", "Null", "NULL", "~"].contains s

/-- The truth value that a text is a word for. -/
def bool? (s : String) : Option Bool :=
  if ["true", "True", "TRUE"].contains s then some true
  else if ["false", "False", "FALSE"].contains s then some false
  else none

/-- Whether a text is several digits that start with a zero, with or without a sign. -/
def isPadded (cs : List Char) : Bool :=
  let ds := match cs with
    | '+' :: ds => ds
    | '-' :: ds => ds
    | ds => ds
  1 < ds.length && ds.head? = some '0' && ds.all isDigit

/-- The number that digits of a base stand for. -/
def inBase? (base : Nat) (cs : List Char) : Option Nat := do
  let values ← cs.mapM Bytes.Hex.value?
  if values.isEmpty || values.any (base ≤ ·) then none
  else some (values.foldl (fun n v => base * n + v) 0)

/-- The number that a text without sign is written as, in base ten or behind the mark of another
base. -/
def natural? (cs : List Char) : Option Nat :=
  match cs with
  | '0' :: 'x' :: ds => inBase? 16 ds
  | '0' :: 'o' :: ds => inBase? 8 ds
  | '0' :: 'b' :: ds => inBase? 2 ds
  | ds => if isPadded ds then none else inBase? 10 ds

/-- The number that a text is written as, which may have a sign. -/
def integer? (s : String) : Option Int :=
  match s.toList with
  | '-' :: ds => (natural? ds).map fun n => -n
  | '+' :: ds => (natural? ds).map fun n => n
  | ds => (natural? ds).map fun n => n

/-- Whether a text is written as a number that a double can be near, or as one of the words for
infinity and for no number. -/
def isFraction (s : String) : Bool :=
  let cs := s.toList
  let digits := match cs with
    | '+' :: ds => ds
    | '-' :: ds => ds
    | ds => ds
  [".inf", ".Inf", ".INF", "+.inf", "+.Inf", "+.INF", "-.inf", "-.Inf", "-.INF", ".nan", ".NaN",
    ".NAN"].contains s ||
    (!isPadded cs && (Decimal.parse? digits).any fun d => !d.overflows)

/-! ## Scalars -/

/-- The start of the tags of the language itself. -/
def coreTag (name : String) : String := "tag:yaml.org,2002:" ++ name

/-- Whether a scalar may stand for more than its text, by its style or by the given tag. -/
def isTyped (name : String) (tag : Option String) (style : Style) : Bool :=
  style = .plain || (style = .literal && tag = some (coreTag name))

/-- The ways in which a scalar may be read. A number has no minus sign. A choice is the text, unless
a tag of the document's own names the choice. -/
def scalarReading (tag : Option String) (style : Style) (text : String) : Reading :=
  let isEmpty := style = .plain && (text.isEmpty || isNull text)
  let named := tag.bind fun t => if t.startsWith "!" then some (t.drop 1).toString else none
  { null := isEmpty
    bool := if isTyped "bool" tag style then bool? text else none
    int := if isTyped "int" tag style && !text.startsWith "-" then integer? text else none
    text := some text
    choice := match named with
      | some name => if isEmpty then some name else none
      | none => some text }

/-! ## Nodes -/

namespace Node

mutual

/-- A node as a document, with what its references stand for. -/
def toDocWith (target : Nat → Doc) : Node → Doc
  | .scalar _ tag style text =>
    let reading := scalarReading tag style text
    if style = .plain && text.isEmpty then .blank reading else .leaf reading
  | .reference number => target number
  | .list _ items => .list true (docsWith target items)
  | .table _ entries => .table none (fieldsWith target entries)

/-- The items of a list as documents. -/
def docsWith (target : Nat → Doc) : List Node → List Doc
  | [] => []
  | v :: vs => toDocWith target v :: docsWith target vs

/-- The entries of a table as fields. -/
def fieldsWith (target : Nat → Doc) : List (Node × Node) → List (Option String × Doc)
  | [] => []
  | (k, v) :: es => ((toDocWith target k).text?, toDocWith target v) :: fieldsWith target es

end

mutual

/-- The nodes with anchors, in the order in which they start. -/
def anchored : Node → List (Nat × Node)
  | .scalar anchor tag style text => (own anchor (.scalar anchor tag style text))
  | .reference _ => []
  | .list anchor items => own anchor (.list anchor items) ++ anchoredItems items
  | .table anchor entries => own anchor (.table anchor entries) ++ anchoredEntries entries
where
  /-- A node by the number of its anchor. -/
  own (anchor : Option Nat) (v : Node) : List (Nat × Node) := anchor.toList.map fun n => (n, v)

/-- The nodes with anchors in a list. -/
def anchoredItems : List Node → List (Nat × Node)
  | [] => []
  | v :: vs => anchored v ++ anchoredItems vs

/-- The nodes with anchors in a table. -/
def anchoredEntries : List (Node × Node) → List (Nat × Node)
  | [] => []
  | (k, v) :: es => anchored k ++ anchored v ++ anchoredEntries es

end

/-- What a number stands for, by the nodes with anchors, the last one first. Only so many
references within each other are followed. -/
def target (nodes : List (Nat × Node)) : Nat → Nat → Doc
  | 0, _ => .leaf {}
  | depth + 1, number =>
    match nodes.lookup number with
    | some v => toDocWith (target nodes depth) v
    | none => .leaf {}

/-- A node as a document. A record within records within a list is as deep as documents are read,
which the number of references to follow allows for. -/
def toDoc (v : Node) : Doc :=
  let nodes := v.anchored.reverse
  v.toDocWith (target nodes (nodes.length + 4))

end Node

end Airlink.Text.Yaml
