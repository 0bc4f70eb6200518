import Airlink.CommandLine.Program

/-!
# The executable

The program with the files of the system.
-/

namespace Airlink.Main

/-- The file error that the system reports. -/
def fileError : IO.Error → FileError
  | .noFileOrDirectory _ _ _ => .notFound
  | .permissionDenied _ _ _ => .permissionDenied
  | .inappropriateType _ 20 _ => .notDirectory
  | .inappropriateType _ _ _ => .isDirectory
  | e => .other (toString e)

/-- The files of the system. -/
def files : FileAccess IO where
  read path := do
    try
      let data ← IO.FS.readBinFile path
      return .ok data.toList
    catch e => return .error (fileError e)
  write path text := do
    try
      IO.FS.writeFile path text
      return .ok ()
    catch e => return .error (fileError e)

end Airlink.Main

/-- Runs the program, prints its output, and reports its failure. -/
def main (words : List String) : IO UInt32 := do
  let result ← Airlink.CommandLine.run Airlink.Main.files words
  IO.print result.output
  if result.isRefused then
    IO.eprintln "error: the command line cannot be understood; try '--help'"
  match result.failure with
  | some e => IO.eprintln ("Error: " ++ e.describe)
  | none => pure ()
  return result.exitCode.toUInt32
