import AdapterWiring.CommandLine.Config

/-!
# Arguments

The arguments of the command line: options common to all commands, before or
after the name of the command, and the options and paths of the command.

* **Command** — what to do.
* **Presentation** — how to show the result.
* **Invocation.parse** — read the arguments. Every fault is a usage error.
-/

namespace AdapterWiring

/-! ## Invocations -/

/-- What to do. -/
inductive Command where
  /-- Check specifications against a universe. -/
  | check (inputs : Inputs) (config? : Option String)
  /-- Resolve the adapter between two types. -/
  | resolve (world source wanted : String) (specs : List String)
  /-- Show the declarations of a file. -/
  | parse (file : String)
  /-- Report cycles of precedence. -/
  | cycles (inputs : Inputs) (config? : Option String)
deriving DecidableEq, Inhabited

/-- How results are written. -/
inductive OutputFormat where
  /-- As lines of text. -/
  | text
  /-- As JSON. -/
  | json
deriving DecidableEq, Inhabited

/-- How to show a result. -/
structure Presentation where
  /-- The format. -/
  format : OutputFormat
  /-- Whether to leave out what is not essential. -/
  quiet : Bool
  /-- Whether to log what is done. -/
  verbose : Bool
deriving DecidableEq, Inhabited

/-- What arguments ask for. -/
inductive Invocation where
  /-- A command, and how to show its result. -/
  | command (command : Command) (presentation : Presentation)
  /-- The version of the program. -/
  | version
  /-- How to use the program. -/
  | help
  /-- The arguments are at fault. -/
  | usageError
deriving DecidableEq, Inhabited

namespace Invocation

/-! ## Levels

The arguments before the name of the command and those after it are read with
the same rules, each with options of its own. -/

/-- What a level of arguments has given so far. -/
structure Given where
  /-- The values of options, by name. -/
  values : List (String × String)
  /-- The flags. -/
  flags : List String
  /-- The paths, in order. -/
  paths : List String
deriving Inhabited

/-- What a level of arguments may give. -/
structure Level where
  /-- The options with a value. -/
  options : List String
  /-- How many paths there may be; none is no bound. -/
  paths : Option Nat

/-- The options with a value that name a file. -/
def isPathOption (name : String) : Bool := name = "universe" || name = "config"

/-- The format of a name. -/
def format? : String → Option OutputFormat
  | "text" => some .text
  | "json" => some .json
  | _ => none

/-- Note the value of an option: at most one, and a path must not be empty. -/
def giveValue (level : Level) (given : Given) (name value : String) : Option Given :=
  if !level.options.contains name || (given.values.lookup name).isSome then none
  else if isPathOption name && value.isEmpty then none
  else if name = "output" && (format? value).isNone then none
  else some { given with values := (name, value) :: given.values }

/-- Note a flag, at most once. -/
def giveFlag (given : Given) (name : String) : Option Given :=
  if given.flags.contains name then none else some { given with flags := name :: given.flags }

/-- Note a path, which must not be empty, if there may be one more. -/
def givePath (level : Level) (given : Given) (path : String) : Option Given :=
  let room := match level.paths with
    | none => true
    | some bound => given.paths.length < bound
  if room && !path.isEmpty then some { given with paths := given.paths ++ [path] } else none

/-- The flag of a letter. -/
def flagOfLetter? : Char → Option String
  | 'v' => some "verbose"
  | _ => none

/-- Whether an argument can be the value of the option before it. -/
def isValue (argument : String) : Bool :=
  match argument.toList with
  | '-' :: _ :: _ => false
  | _ => true

/-- Where reading a level of arguments ends. -/
inductive Ending where
  /-- At the end of the arguments. -/
  | finished (given : Given)
  /-- At the name of a command. -/
  | atCommand (name : String) (given : Given) (rest : List String)
  /-- At an option that asks for the version. -/
  | version
  /-- At an option that asks for help. -/
  | help
  /-- At a fault. -/
  | fault
deriving Inhabited

/-- The letters of short options: flags, or an option that ends the reading. -/
def readLetters (top : Bool) (given : Given) : List Char → Except Ending Given
  | [] => .ok given
  | letter :: rest =>
    if letter = 'h' then .error .help
    else if letter = 'V' ∧ top = true then .error .version
    else
      match (flagOfLetter? letter).bind (giveFlag given) with
      | some given => readLetters top given rest
      | none => .error .fault

/-- The rest of a level of arguments. At the top level a plain argument is the name of a command,
elsewhere a path. -/
def readLevel (top : Bool) (level : Level) (given : Given) : List String → Ending
  | [] => .finished given
  | argument :: rest =>
    match argument.toList with
    | ['-', '-'] =>
      if top then .fault
      else
        match rest.foldlM (givePath level) given with
        | some given => .finished given
        | none => .fault
    | '-' :: '-' :: option =>
      let name := String.ofList (option.takeWhile (· ≠ '='))
      match option.dropWhile (· ≠ '=') with
      | _ :: value =>
        match giveValue level given name (String.ofList value) with
        | some given => readLevel top level given rest
        | none => .fault
      | [] =>
        if name = "help" then .help
        else if name = "version" ∧ top = true then .version
        else if name = "quiet" ∨ name = "verbose" then
          match giveFlag given name with
          | some given => readLevel top level given rest
          | none => .fault
        else
          match rest with
          | value :: others =>
            if isValue value then
              match giveValue level given name value with
              | some given => readLevel top level given others
              | none => .fault
            else .fault
          | [] => .fault
    | '-' :: letter :: letters =>
      match readLetters top given (letter :: letters) with
      | .ok given => readLevel top level given rest
      | .error ending => ending
    | _ =>
      if top then .atCommand argument given rest
      else
        match givePath level given argument with
        | some given => readLevel top level given rest
        | none => .fault

/-! ## Commands -/

/-- The level of the arguments before the name of a command. -/
def topLevel : Level := ⟨["output"], some 0⟩

/-- The level of the arguments after the name of a command. -/
def levelOf? : String → Option Level
  | "check" => some ⟨["output", "universe", "config"], none⟩
  | "resolve" => some ⟨["output", "universe", "from", "to"], none⟩
  | "parse" => some ⟨["output"], some 1⟩
  | "cycles" => some ⟨["output", "universe", "config"], none⟩
  | _ => none

/-- The command of a name with what was given for it. -/
def command? (name : String) (given : Given) : Option Command :=
  let value? (option : String) := given.values.lookup option
  let inputs : Inputs := ⟨value? "universe", given.paths⟩
  match name with
  | "check" => some (.check inputs (value? "config"))
  | "cycles" => some (.cycles inputs (value? "config"))
  | "resolve" => do
    return .resolve (← value? "universe") (← value? "from") (← value? "to") given.paths
  | "parse" =>
    match given.paths with
    | [file] => some (.parse file)
    | _ => none
  | _ => none

/-- The presentation that two levels of arguments ask for; the later level goes first. -/
def presentation (before after : Given) : Presentation where
  format :=
    (((after.values.lookup "output").or (before.values.lookup "output")).bind format?).getD .text
  quiet := before.flags.contains "quiet" || after.flags.contains "quiet"
  verbose := before.flags.contains "verbose" || after.flags.contains "verbose"

/-- Help, for the program or for one command named. -/
def helpOn : List String → Invocation
  | [] => .help
  | [name] => if name = "help" ∨ (levelOf? name).isSome then .help else .usageError
  | _ => .usageError

/-- Read the arguments. -/
def parse (arguments : List String) : Invocation :=
  match readLevel true topLevel default arguments with
  | .finished _ => .usageError
  | .version => .version
  | .help => .help
  | .fault => .usageError
  | .atCommand name before rest =>
    match levelOf? name with
    | none => if name = "help" then helpOn rest else .usageError
    | some level =>
      match readLevel false level default rest with
      | .finished after =>
        match command? name after with
        | some found => .command found (presentation before after)
        | none => .usageError
      | .help => .help
      | _ => .usageError

end Invocation

end AdapterWiring
