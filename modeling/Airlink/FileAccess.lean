import Airlink.Error
import Airlink.Text.Utf8

/-!
# Files

Files are reached through `FileAccess`, so that what reads and writes them does not depend on where
they are. `FileTree` keeps them in memory: a path leads from directory to directory to a file, and
each place on the way must be there.
-/

namespace Airlink

/-- Access to files by their paths. -/
structure FileAccess (m : Type → Type) where
  read : String → m (Except FileError Bytes)
  write : String → String → m (Except FileError Unit)

/-- Reads a file as text. -/
def FileAccess.readText [Monad m] (files : FileAccess m) (path : String) :
    m (Except FileError String) := do
  match ← files.read path with
  | .error e => return .error e
  | .ok data =>
    match Text.Utf8.decode? data with
    | some text => return .ok text
    | none => return .error .notText

/-- Files in memory, each with the names on the way to it. A directory is there if a file is. -/
structure FileTree where
  files : List (List String × Bytes)

namespace FileTree

/-- Whether there is a directory at the end of some names. -/
def isDirectory (t : FileTree) (names : List String) : Bool :=
  names.isEmpty || t.files.any fun f => names.isPrefixOf f.1 && names ≠ f.1

/-- The octets of the file at the end of some names. -/
def lookup? (t : FileTree) (names : List String) : Option Bytes := t.files.lookup names

/-- The longest name of a file, in octets. -/
def nameLimit : Nat := 255

/-- Where further names lead from a place. Only the last one may be missing. -/
def walk (t : FileTree) : List String → List String → Except FileError (List String)
  | here, [] => .ok here
  | here, name :: rest =>
    if t.isDirectory here then
      if name = "" ∨ name = "." then t.walk here rest
      else if name = ".." then t.walk here.dropLast rest
      else if nameLimit < name.utf8ByteSize then .error .nameTooLong
      else t.walk (here ++ [name]) rest
    else if (t.lookup? here).isSome then .error .notDirectory
    else .error .notFound

/-- Where a path leads. -/
def resolve (t : FileTree) (path : String) : Except FileError (List String) :=
  if path.contains '\x00' then .error .nulInName
  else if path = "" then .error .notFound
  else t.walk [] (path.splitOn "/")

/-- The octets of the file at the end of a path. -/
def read (t : FileTree) (path : String) : Except FileError Bytes := do
  let names ← t.resolve path
  match t.lookup? names with
  | some data => .ok data
  | none => .error (if t.isDirectory names then .isDirectory else .notFound)

/-- The tree with the file at the end of a path written. -/
def write (t : FileTree) (path : String) (data : Bytes) : Except FileError FileTree := do
  let names ← t.resolve path
  if t.isDirectory names then .error .isDirectory
  else .ok ⟨(names, data) :: t.files.filter (·.1 ≠ names)⟩

/-- Access to the files of a tree that is the state. -/
def access : FileAccess (StateM FileTree) where
  read path := do return (← get).read path
  write path text := do
    match (← get).write path (Text.Utf8.encode text) with
    | .ok t => do
      set t
      return .ok ()
    | .error e => return .error e

end FileTree

end Airlink
