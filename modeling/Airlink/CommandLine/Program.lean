import Airlink.CommandLine.ErrorText
import Airlink.CommandLine.Invocation
import Airlink.CommandLine.LogFilter
import Airlink.Config.File
import Airlink.Replay
import Airlink.Report
import Airlink.Text.Json.Writer

/-!
# The program

The commands of the program: writing and validating configurations, decoding the descriptor of a
received frame, and replaying a capture. A run of the program reads and writes files through
`FileAccess`; its output and its failure, if it fails, are its result.
-/

namespace Airlink.CommandLine

open Text (Json)

/-! ## Commands -/

/-- The option for the level of the log, which all commands have. -/
def logLevel : Opt where
  name := "log-level"
  letter := 'l'
  value := "LEVEL"
  help := "Log level (trace, debug, info, warn, error); overrides the config file"
  choices := []
  default := none
  isRequired := false

/-- The option for the file that a configuration is written to. -/
def outputFile : Opt where
  name := "output"
  letter := 'o'
  value := "FILE"
  help := "Output file (.json, .toml, .yaml); stdout when omitted"
  choices := []
  default := none
  isRequired := false

/-- The option for the format in which a configuration is shown. -/
def outputFormat : Opt where
  name := "format"
  letter := 'f'
  value := "FORMAT"
  help := "Format for stdout output"
  choices := ["json", "toml", "yaml"]
  default := some "toml"
  isRequired := false

/-- The option for the configuration of a replay. -/
def configFile : Opt where
  name := "config"
  letter := 'c'
  value := "FILE"
  help := "Configuration file"
  choices := []
  default := none
  isRequired := true

/-- A command without further commands. -/
def leaf (name about : String) (options : List Opt) (argument : Option String) : Command where
  name := name
  about := about
  options := options
  argument := argument.map fun form => ⟨form, ""⟩
  commands := []
  version := none
  hasHelp := true

/-- The commands for configurations. -/
def configCommand : Command where
  name := "config"
  about := "Configuration files"
  options := [logLevel]
  argument := none
  commands := [
    leaf "generate" "Write a sample configuration" [logLevel, outputFile, outputFormat] none,
    leaf "validate" "Validate a configuration file" [logLevel] (some "<FILE>")]
  version := none
  hasHelp := true

/-- The program as a command. -/
def program : Command where
  name := "wlan-datapath"
  about := "Host-side wireless data path: descriptor codec, translation and forwarding"
  options := [logLevel]
  argument := none
  commands := [
    configCommand,
    leaf "decode-rx" "Decode a receive descriptor (descriptor and payload as hex)" [logLevel]
      (some "<HEX>"),
    leaf "replay" "Run a frame capture through the data path and print the counters"
      [configFile, logLevel] (some "<CAPTURE>")]
  version := some "wlan-datapath 0.1.0\n"
  hasHelp := true

/-! ## Runs -/

/-- How a run of the program ends. -/
structure Result where
  output : String
  /-- Why it failed, if it did. -/
  failure : Option Error
  /-- Whether the command line could not be understood. -/
  isRefused : Bool
  deriving DecidableEq, Repr

namespace Result

/-- The end of a run that failed or has a text to show. -/
def ofExcept : Except Error String → Result
  | .ok output => ⟨output, none, false⟩
  | .error e => ⟨"", some e, false⟩

/-- The number that the program ends with. -/
def exitCode (r : Result) : UInt8 :=
  if r.isRefused then 2 else if r.failure.isSome then 1 else 0

end Result

/-- Fails if a level of the log is no list of directives. -/
def checkLevel (level : String) : Except Error Unit :=
  if LogFilter.isFilter level then .ok () else .error (.logFilter level)

/-- Shows a sample configuration, or writes it to a file. -/
def generate [Monad m] (files : FileAccess m) (values : List (String × String)) :
    m (Except Error String) := do
  match values.lookup outputFile.name with
  | some path => return (← Config.sample.save files path).map fun () => ""
  | none =>
    let format := (values.lookup outputFormat.name).bind ConfigFormat.ofExtension?
    return (Config.sample.render (format.getD .toml)).map (· ++ "\n")

/-- Validates the configuration in a file. -/
def validate [Monad m] (files : FileAccess m) (path : String) : m (Except Error String) := do
  match ← ActiveConfig.load files path with
  | .error e => return .error e
  | .ok active =>
    if active.config.isValid then return .ok ""
    else return .error (.config s!"{path} is invalid: {active.config.faultText}")

/-- Shows the descriptor of a received frame, its class and its payload. -/
def decode (text : String) : Except Error String := do
  let data ← Capture.octets text
  let d ← RxDescriptor.decode data
  let payload := (d.payload? data).getD []
  let extra := [("frame_class", Json.opt (fun c => .str c.name) d.frameClass),
    ("payload", Json.str (Bytes.Hex.encode payload))]
  let fields := (d.fields ++ extra).mergeSort fun a b => a.1 ≤ b.1
  return (Json.obj fields).pretty ++ "\n"

/-- The configuration of a replay, if it can be used. The level of the log is checked first. -/
def replayConfig (path text : String) (level : Option String) : Except Error Config := do
  let c ← Config.parseAt path text
  checkLevel (level.getD c.logging.level)
  if c.isValid then return c else .error (.config c.faultText)

/-- Replays a capture and shows the counters. -/
def replay [Monad m] (files : FileAccess m) (configPath capturePath : String)
    (level : Option String) : m (Except Error String) := do
  match ← files.readText configPath with
  | .error e => return .error (.config s!"Failed to read {configPath}: {e.message}")
  | .ok text =>
    match replayConfig configPath text level with
    | .error e => return .error e
    | .ok c =>
      match ← files.readText capturePath with
      | .error e => return .error (.file e)
      | .ok text =>
        return (Capture.parse text).bind fun frames =>
          (Replay.run c frames).map fun r => (r.toJson 0).pretty ++ "\n"

/-- Carries out a command. -/
def invoke [Monad m] (files : FileAccess m) (i : Invocation) : m (Except Error String) := do
  let level := i.values.lookup logLevel.name
  let argument := i.argument.getD ""
  let checked (run : m (Except Error String)) : m (Except Error String) :=
    match checkLevel (level.getD "info") with
    | .ok () => run
    | .error e => return .error e
  match i.commands with
  | ["config", "generate"] => checked (generate files i.values)
  | ["config", "validate"] => checked (validate files argument)
  | ["decode-rx"] => checked (return decode argument)
  | ["replay"] =>
    replay files ((i.values.lookup configFile.name).getD "") argument level
  | _ => return .error (.invalidParameter "missing subcommand")

/-- Runs the program with the words behind its name. -/
def run [Monad m] (files : FileAccess m) (words : List String) : m Result := do
  match request program words with
  | .refuse => return ⟨"", none, true⟩
  | .tell text => return ⟨text, none, false⟩
  | .invoke i => return .ofExcept (← invoke files i)

end Airlink.CommandLine
