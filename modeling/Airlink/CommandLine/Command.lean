/-!
# Commands

What a command line can say: commands with options and with at most one argument of their own, or
with further commands. `Command.help` is the text that explains a command.
-/

namespace Airlink.CommandLine

/-- An option, which takes a value. -/
structure Opt where
  name : String
  letter : Char
  /-- The name of its value. -/
  value : String
  help : String
  /-- The values that it may have, all if the list is empty. -/
  choices : List String
  default : Option String
  isRequired : Bool
  deriving DecidableEq, Repr

/-- The argument of a command, as it is shown. -/
structure Argument where
  form : String
  help : String
  deriving DecidableEq, Repr

/-- A command. One with further commands needs one of them. -/
structure Command where
  name : String
  about : String
  options : List Opt
  argument : Option Argument
  commands : List Command
  /-- The version that it tells, if it does. -/
  version : Option String
  /-- Whether it has an option that asks for help. -/
  hasHelp : Bool
  deriving Inhabited

namespace Command

/-- The command that explains other commands. -/
def explain : Command where
  name := "help"
  about := "Print this message or the help of the given subcommand(s)"
  options := []
  argument := some ⟨"[COMMAND]...", "Print help for the subcommand(s)"⟩
  commands := []
  version := none
  hasHelp := false

/-- The commands of a command, with the one that explains them. -/
def allCommands (c : Command) : List Command :=
  if c.commands.isEmpty then [] else c.commands ++ [explain]

/-- The command with a name among those of a command. -/
def find? (c : Command) (name : String) : Option Command := c.allCommands.find? (·.name = name)

/-- The option with a name. -/
def option? (c : Command) (name : String) : Option Opt := c.options.find? (·.name = name)

/-- The option with a letter. -/
def letter? (c : Command) (letter : Char) : Option Opt := c.options.find? (·.letter = letter)

end Command

/-! ## Help -/

/-- An option as it is used. -/
def Opt.form (o : Opt) : String := s!"--{o.name} <{o.value}>"

/-- What an option is for, with its default and the values that it may have. -/
def Opt.text (o : Opt) : String :=
  let default := match o.default with
    | some v => s!" [default: {v}]"
    | none => ""
  let choices := if o.choices.isEmpty then ""
    else " [possible values: " ++ ", ".intercalate o.choices ++ "]"
  o.help ++ default ++ choices

/-- Lines of two columns, both indented, below a heading. There is no text without lines. -/
def columns (heading : String) (rows : List (String × String)) : String :=
  let width := (rows.map fun r => r.1.length).foldl max 0
  let line (r : String × String) : String :=
    "  " ++ r.1 ++ String.ofList (List.replicate (width - r.1.length) ' ') ++ "  " ++ r.2 ++ "\n"
  if rows.isEmpty then "" else "\n" ++ heading ++ ":\n" ++ String.join (rows.map line)

namespace Command

/-- How a command is used, behind the names of the commands that lead to it. -/
def usage (path : List String) (c : Command) : String :=
  let some_ := if c.options.any fun o => !o.isRequired then ["[OPTIONS]"] else []
  let required := (c.options.filter (·.isRequired)).map Opt.form
  let argument := c.argument.toList.map (·.form)
  let command := if c.commands.isEmpty then [] else ["<COMMAND>"]
  " ".intercalate (path ++ some_ ++ required ++ argument ++ command)

/-- The text that explains a command, which some names lead to. -/
def help (path : List String) (c : Command) : String :=
  let options := c.options.map fun o => (s!"-{o.letter}, {o.form}", o.text)
  let helpOption := if c.hasHelp then [("-h, --help", "Print help")] else []
  let versionOption := if c.version.isSome then [("-V, --version", "Print version")] else []
  c.about ++ "\n\nUsage: " ++ c.usage path ++ "\n"
    ++ columns "Commands" (c.allCommands.map fun d => (d.name, d.about))
    ++ columns "Arguments" (c.argument.toList.map fun a => (a.form, a.help))
    ++ columns "Options" (options ++ helpOption ++ versionOption)

end Command

end Airlink.CommandLine
