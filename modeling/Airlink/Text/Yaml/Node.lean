import Airlink.Text.Yaml.Layout

/-!
# YAML nodes

`Node.parse?` reads a text that holds one document. An anchor gives its node a number, which is the
count of the names given so far, and a reference stands for a number; a name that is given again
stands for the number of its last node.
-/

namespace Airlink.Text.Yaml

/-- A node of a document, with the number of its anchor if it has one. -/
inductive Node where
  | scalar (anchor : Option Nat) (tag : Option String) (style : Style) (text : String)
  | reference (number : Nat)
  | list (anchor : Option Nat) (items : List Node)
  | table (anchor : Option Nat) (entries : List (Node × Node))
  deriving Inhabited

namespace Node

/-- The node that stands where nothing is written. -/
def empty : Node := .scalar none none .plain ""

/-- What is left to read, and the numbers that names stand for. -/
structure Source where
  tokens : List Token
  names : List (String × Nat)

/-- The source behind its next token. -/
def Source.tail (s : Source) : Source := { s with tokens := s.tokens.tail }

/-- Gives a name the number of the names so far. -/
def Source.bind (name : String) (s : Source) : Nat × Source :=
  let number := s.names.length
  (number, { s with names := (name, number) :: s.names.filter (·.1 ≠ name) })

/-- What handles stand for. -/
abbrev Handles : Type := List (String × String)

/-- The handles that need no directive. -/
def standardHandles : Handles := [("!", "!"), ("!!", "tag:yaml.org,2002:")]

/-- A tag in full, `none` if its handle is not known. -/
def fullTag? (handles : Handles) (handle suffix : String) : Option String :=
  if handle.isEmpty then some suffix else (handles.lookup handle).map (· ++ suffix)

/-- The anchor and the tag before a node, in either order. -/
def properties? (handles : Handles) (s : Source) :
    Option (Option Nat × Option String × Source) :=
  match s.tokens with
  | .anchor name :: .tag handle suffix :: ts => do
    let tag ← fullTag? handles handle suffix
    let (number, s) := { s with tokens := ts }.bind name
    return (some number, some tag, s)
  | .tag handle suffix :: .anchor name :: ts => do
    let tag ← fullTag? handles handle suffix
    let (number, s) := { s with tokens := ts }.bind name
    return (some number, some tag, s)
  | .anchor name :: ts =>
    let (number, s) := { s with tokens := ts }.bind name
    some (some number, none, s)
  | .tag handle suffix :: ts => do
    let tag ← fullTag? handles handle suffix
    return (none, some tag, { s with tokens := ts })
  | _ => some (none, none, s)

/-- The tag of a scalar. A lone exclamation mark says nothing of it. -/
def scalarTag (tag : Option String) : Option String := tag.filter (· ≠ "!")

/-- Whether a node is missing in a block collection, since a mark or the end of the collection
follows. -/
def isMissing (marks : List Token) (s : Source) : Bool := s.tokens.head?.any marks.contains

mutual

/-- The next node. In a block, block collections may stand for it; where a list needs no
indentation of its own, a dash may start one. -/
def next? (handles : Handles) : Nat → Bool → Bool → Source → Option (Node × Source)
  | 0, _, _, _ => none
  | fuel + 1, inBlock, dashAllowed, s =>
    match s.tokens with
    | .reference name :: _ => (s.names.lookup name).map fun n => (.reference n, s.tail)
    | _ =>
      match properties? handles s with
      | none => none
      | some (anchor, tag, s) =>
        match s.tokens with
        | .scalar style text :: _ => some (.scalar anchor (scalarTag tag) style text, s.tail)
        | .listStart :: _ =>
          (listItems? handles fuel true [] s.tail).map fun (items, s) => (.list anchor items, s)
        | .tableStart :: _ =>
          (tableEntries? handles fuel true [] s.tail).map fun (es, s) => (.table anchor es, s)
        | token :: _ =>
          if dashAllowed && token = .dash then
            (dashes? handles fuel [] s).map fun (items, s) => (.list anchor items, s)
          else if inBlock && token = .blockListStart then
            (blockItems? handles fuel [] s.tail).map fun (items, s) => (.list anchor items, s)
          else if inBlock && token = .blockTableStart then
            (blockEntries? handles fuel [] s.tail).map fun (es, s) => (.table anchor es, s)
          else if anchor.isSome || tag.isSome then
            some (.scalar anchor (scalarTag tag) .plain "", s)
          else none
        | [] =>
          if anchor.isSome || tag.isSome then some (.scalar anchor (scalarTag tag) .plain "", s)
          else none

/-- The next node of a block collection, or an empty one if one of the given marks follows. -/
def blockPart? (handles : Handles) :
    Nat → Bool → List Token → Source → Option (Node × Source)
  | 0, _, _, _ => none
  | fuel + 1, dashAllowed, marks, s =>
    if isMissing marks s then some (empty, s) else next? handles fuel true dashAllowed s

/-- The next node of a flow collection, or an empty one if one of the given marks follows. -/
def flowPart? (handles : Handles) : Nat → List Token → Source → Option (Node × Source)
  | 0, _, _ => none
  | fuel + 1, marks, s =>
    if isMissing marks s then some (empty, s) else next? handles fuel false false s

/-- The items of a block list up to its end. -/
def blockItems? (handles : Handles) : Nat → List Node → Source → Option (List Node × Source)
  | 0, _, _ => none
  | fuel + 1, acc, s =>
    match s.tokens with
    | .blockEnd :: _ => some (acc.reverse, s.tail)
    | .dash :: _ =>
      match blockPart? handles fuel false [.dash, .blockEnd] s.tail with
      | none => none
      | some (v, s) => blockItems? handles fuel (v :: acc) s
    | _ => none

/-- The items of a list that is indented like the table around it. -/
def dashes? (handles : Handles) : Nat → List Node → Source → Option (List Node × Source)
  | 0, _, _ => none
  | fuel + 1, acc, s =>
    match s.tokens with
    | .dash :: _ =>
      match blockPart? handles fuel false [.dash, .key, .value, .blockEnd] s.tail with
      | none => none
      | some (v, s) => dashes? handles fuel (v :: acc) s
    | _ => some (acc.reverse, s)

/-- The entries of a block table up to its end. -/
def blockEntries? (handles : Handles) :
    Nat → List (Node × Node) → Source → Option (List (Node × Node) × Source)
  | 0, _, _ => none
  | fuel + 1, acc, s =>
    match s.tokens with
    | .blockEnd :: _ => some (acc.reverse, s.tail)
    | .key :: _ =>
      match blockPart? handles fuel true [.key, .value, .blockEnd] s.tail with
      | none => none
      | some (k, s) =>
        if s.tokens.head? = some .value then
          match blockPart? handles fuel true [.key, .value, .blockEnd] s.tail with
          | none => none
          | some (v, s) => blockEntries? handles fuel ((k, v) :: acc) s
        else blockEntries? handles fuel ((k, empty) :: acc) s
    | _ => none

/-- The items of a flow list up to its end. A pair among them is a table of one entry. -/
def listItems? (handles : Handles) :
    Nat → Bool → List Node → Source → Option (List Node × Source)
  | 0, _, _, _ => none
  | fuel + 1, isFirst, acc, s =>
    if s.tokens.head? = some .listEnd then some (acc.reverse, s.tail)
    else
      let start := if isFirst then some s
        else if s.tokens.head? = some .comma then some s.tail else none
      match start with
      | none => none
      | some s =>
        match s.tokens with
        | .listEnd :: _ => some (acc.reverse, s.tail)
        | .key :: _ =>
          match pair? handles fuel s.tail with
          | none => none
          | some (v, s) => listItems? handles fuel false (v :: acc) s
        | _ =>
          match next? handles fuel false false s with
          | none => none
          | some (v, s) => listItems? handles fuel false (v :: acc) s

/-- A pair in a flow list, behind the mark of its key. A mark that stands in the place of the key is
taken for it. -/
def pair? (handles : Handles) : Nat → Source → Option (Node × Source)
  | 0, _ => none
  | fuel + 1, s =>
    let key := if isMissing [.value, .comma, .listEnd] s then some (empty, s.tail)
      else next? handles fuel false false s
    match key with
    | none => none
    | some (k, s) =>
      if s.tokens.head? = some .value then
        (flowPart? handles fuel [.comma, .listEnd] s.tail).map fun (v, s) =>
          (.table none [(k, v)], s)
      else some (.table none [(k, empty)], s)

/-- The entries of a flow table up to its end. A node without the mark of a key has no value. -/
def tableEntries? (handles : Handles) :
    Nat → Bool → List (Node × Node) → Source → Option (List (Node × Node) × Source)
  | 0, _, _, _ => none
  | fuel + 1, isFirst, acc, s =>
    if s.tokens.head? = some .tableEnd then some (acc.reverse, s.tail)
    else
      let start := if isFirst then some s
        else if s.tokens.head? = some .comma then some s.tail else none
      match start with
      | none => none
      | some s =>
        match s.tokens with
        | .tableEnd :: _ => some (acc.reverse, s.tail)
        | .key :: _ =>
          match flowPart? handles fuel [.value, .comma, .tableEnd] s.tail with
          | none => none
          | some (k, s) =>
            if s.tokens.head? = some .value then
              match flowPart? handles fuel [.comma, .tableEnd] s.tail with
              | none => none
              | some (v, s) => tableEntries? handles fuel false ((k, v) :: acc) s
            else tableEntries? handles fuel false ((k, empty) :: acc) s
        | _ =>
          match next? handles fuel false false s with
          | none => none
          | some (k, s) => tableEntries? handles fuel false ((k, empty) :: acc) s

end

/-! ## Documents -/

/-- The directives before a document: at most one version, which must be known, and handles, none
of them twice. -/
def directives? : Bool → Handles → List Token → Option (Handles × List Token)
  | versionSeen, handles, .version major minor :: ts =>
    if versionSeen || major ≠ 1 || (minor ≠ 1 && minor ≠ 2) then none
    else directives? true handles ts
  | versionSeen, handles, .tagHandle handle start :: ts =>
    if (handles.lookup handle).isSome then none
    else directives? versionSeen ((handle, start) :: handles) ts
  | _, handles, ts => some (handles, ts)

/-- Whether a document without content ends here. -/
def isDocumentEnd : List Token → Bool
  | [] => true
  | .version _ _ :: _ => true
  | .tagHandle _ _ :: _ => true
  | .documentStart :: _ => true
  | .documentEnd :: _ => true
  | _ => false

/-- The node of the first document, and the tokens behind it. Directives need the mark of a
document's start behind them. -/
def document? (ts : List Token) : Option (Node × List Token) := do
  let fuel := 3 * ts.length + 3
  let (own, behind) ← directives? false [] ts
  match behind with
  | .documentStart :: ts =>
    if isDocumentEnd ts then some (empty, ts)
    else (next? (own ++ standardHandles) fuel true false ⟨ts, []⟩).map fun (v, s) => (v, s.tokens)
  | _ =>
    if behind.length < ts.length then none
    else if ts.isEmpty then some (empty, [])
    else (next? standardHandles fuel true false ⟨ts, []⟩).map fun (v, s) => (v, s.tokens)

/-- The node of a text, which must be a single document. -/
def parse? (input : String) : Option Node := do
  let ts ← tokens? input
  let (v, ts) ← document? ts
  if (ts.dropWhile (· = .documentEnd)).isEmpty then some v else none

end Node

end Airlink.Text.Yaml
