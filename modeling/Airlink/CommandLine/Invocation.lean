import Airlink.CommandLine.Command

/-!
# Invocations

What the words of a command line ask for. Words are taken from left to right; the first fault, or
the first word that asks for help or for the version, decides. The value of an option is looked at
only when the next option, an argument, or the end of the line follows, so that a word that asks for
help on a later command comes before a fault in it.
-/

namespace Airlink.CommandLine

/-- A command with its values. -/
structure Invocation where
  /-- The names of the commands, the outermost first. -/
  commands : List String
  /-- The values of options, those of inner commands first. -/
  values : List (String × String)
  argument : Option String
  deriving DecidableEq, Repr

/-- What a command line asks for. -/
inductive Request where
  | invoke (i : Invocation)
  /-- A text is to be shown. -/
  | tell (text : String)
  /-- The line cannot be understood. -/
  | refuse
  deriving DecidableEq, Repr

/-- What has been read for a command. -/
structure Reading where
  values : List (String × String) := []
  /-- The option that is read last, with its value if that is read too. -/
  pending : Option (Opt × Option String) := none
  argument : Option String := none
  /-- Whether all words from here on are arguments. -/
  isEscaped : Bool := false

namespace Reading

/-- Takes a value of an option. Each option has one value, which must be allowed. -/
def accept? (r : Reading) (o : Opt) (value : String) : Option Reading :=
  if (o.choices.isEmpty || o.choices.contains value) && (r.values.lookup o.name).isNone then
    some { r with values := (o.name, value) :: r.values }
  else none

/-- Takes the value of the option that is read last. -/
def settle? (r : Reading) : Option Reading :=
  match r.pending with
  | none => some r
  | some (_, none) => none
  | some (o, some value) => { r with pending := none }.accept? o value

/-- Reads an option, with a value if one is attached to it. -/
def option? (r : Reading) (o : Opt) (attached : Option String) : Option Reading := do
  let r ← r.settle?
  match attached with
  | some value => r.accept? o value
  | none => return { r with pending := some (o, none) }

/-- Reads an argument. -/
def argument? (r : Reading) (c : Command) (word : String) : Option Reading := do
  let r ← r.settle?
  if c.argument.isSome && r.argument.isNone then some { r with argument := some word } else none

/-- The values at the end of a command, with those that options have without being given. Nothing
that the command needs may be missing. -/
def finish? (r : Reading) (c : Command) : Option Reading := do
  let r ← r.settle?
  let isGiven (o : Opt) : Bool := (r.values.lookup o.name).isSome
  let isMissing := c.argument.isSome && r.argument.isNone
  if isMissing || c.options.any fun o => o.isRequired && !isGiven o then none
  else
    let defaults := (c.options.filter (!isGiven ·)).filterMap fun o => o.default.map (o.name, ·)
    return { r with values := r.values ++ defaults }

end Reading

/-- What a word that starts with a dash asks for. -/
inductive Sign where
  | option (o : Opt) (attached : Option String)
  | help
  | version (text : String)
  | unknown

/-- The sign that a long name is, with the value behind its equals sign. -/
def longSign (c : Command) (word : List Char) : Sign :=
  let name := String.ofList (word.takeWhile (· ≠ '='))
  let attached := match word.dropWhile (· ≠ '=') with
    | _ :: value => some (String.ofList value)
    | [] => none
  match c.option? name with
  | some o => .option o attached
  | none =>
    if name = "help" ∧ c.hasHelp ∧ attached.isNone then .help
    else match c.version with
      | some version => if name = "version" ∧ attached.isNone then .version version else .unknown
      | none => .unknown

/-- The sign that letters start with. What is behind the letter of an option is its value, which an
equals sign may stand before. -/
def letterSign (c : Command) (letter : Char) (rest : List Char) : Sign :=
  match c.letter? letter with
  | some o =>
    .option o (match rest with
      | [] => none
      | '=' :: value => some (String.ofList value)
      | value => some (String.ofList value))
  | none =>
    if letter = 'h' ∧ c.hasHelp then .help
    else match c.version with
      | some version => if letter = 'V' then .version version else .unknown
      | none => .unknown

/-- The sign that a word is, `none` if it is none. -/
def sign? (c : Command) (word : String) : Option Sign :=
  match word.toList with
  | '-' :: '-' :: [] => none
  | '-' :: '-' :: rest => some (longSign c rest)
  | '-' :: letter :: rest => some (letterSign c letter rest)
  | _ => none

/-- The help that words ask for, each the name of a command of the one before it. -/
def explanation (path : List String) (c : Command) : List String → Request
  | [] => .tell (c.help path)
  | word :: words =>
    match c.find? word with
    | some d => explanation (path ++ [word]) d words
    | none => .refuse

/-- What words ask for behind the names of some commands, when some of the words of the last one are
read. -/
def requestFrom (path : List String) (c : Command) (r : Reading) : List String → Request
  | [] =>
    match r.finish? c with
    | none => .refuse
    | some r => if c.commands.isEmpty then .invoke ⟨[], r.values, r.argument⟩ else .refuse
  | word :: words =>
    let goOn (r : Option Reading) : Request :=
      match r with
      | some r => requestFrom path c r words
      | none => .refuse
    let isOpen := r.pending.any fun p => p.2.isNone
    if r.isEscaped then goOn (r.argument? c word)
    else
      match if isOpen then none else c.find? word with
      | some d =>
        if d.name = Command.explain.name then explanation path c words
        else
          match requestFrom (path ++ [word]) d {} words with
          | .invoke i =>
            match r.finish? c with
            | none => .refuse
            | some r => .invoke { i with
                commands := word :: i.commands, values := i.values ++ r.values }
          | other => other
      | none =>
        if word = "--" then requestFrom path c { r with isEscaped := true } words
        else
          match sign? c word with
          | some (.option o attached) => goOn (r.option? o attached)
          | some .help => if r.settle?.isSome then .tell (c.help path) else .refuse
          | some (.version text) => if r.settle?.isSome then .tell text else .refuse
          | some .unknown => .refuse
          | none =>
            match r.pending with
            | some (o, none) => requestFrom path c { r with pending := some (o, some word) } words
            | _ => goOn (r.argument? c word)

/-- What the words behind the name of a program ask for. -/
def request (c : Command) (words : List String) : Request := requestFrom [c.name] c {} words

end Airlink.CommandLine
