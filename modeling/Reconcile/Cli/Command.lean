import Reconcile.Cli.Opt
import Reconcile.Marker

/-!
# What a command line asks for

`Command.ofArguments` reads the arguments level by level. A level holds the option it has read last
until the next one, or its end, shows that the value is complete; only then is the value checked. So
a command below is read before the last option above it is checked. An option may be given once at
each level, and of an option shared between levels the deepest counts. Two hyphens end the options.
-/
namespace Reconcile.Cli

inductive Format where
  | yaml | json
  deriving DecidableEq, Repr

def Format.ofName? : String → Option Format
  | "yaml" => some .yaml
  | "json" => some .json
  | _ => none

structure Settings where
  format : Format := .yaml
  marker : Marker := .standard
  /-- Is the change against the observed document counted? -/
  summary : Bool := false
  deriving DecidableEq, Repr

inductive Command where
  | merge (observed : String) (lastApplied : Option String) (desired : String)
  | apply (observed desired : String) (ignoreBadSnapshot : Bool)
  | retrieve (file : String)
  | record (file snapshot : String)
  | strip (file : String)
  | live (desired : String) («namespace» : Option String)
  deriving DecidableEq, Repr

/-- Why the arguments ask for nothing. -/
inductive Misuse where
  | unexpected (argument : String)
  | missingValue (opt : Opt)
  | badValue (opt : Opt) (value : String)
  | repeated (opt : Opt)
  | missingOption (opt : Opt)
  | missingCommand
  deriving DecidableEq, Repr

def Misuse.message : Misuse → String
  | .unexpected argument => "unexpected argument '" ++ argument ++ "'"
  | .missingValue opt => "a value is required for '" ++ opt.describe ++ "'"
  | .badValue opt value => "invalid value '" ++ value ++ "' for '" ++ opt.describe ++ "'"
  | .repeated opt => "the argument '" ++ opt.describe ++ "' cannot be used multiple times"
  | .missingOption opt => "the argument '" ++ opt.describe ++ "' was not provided"
  | .missingCommand => "a subcommand is required"

/-- What ends the reading of the arguments early. -/
inductive Stop where
  | help
  | version
  | misuse (cause : Misuse)
  deriving DecidableEq, Repr

/-- What one level of the command line has been given so far. -/
structure Given where
  level : Level
  /-- The options whose values have been checked; a flag has no text. -/
  settled : List (Opt × String) := []
  /-- The option read last, with its value if that has been read too. -/
  held : Option (Opt × Option String) := none

namespace Given

def value? (given : Given) (opt : Opt) : Option String := given.settled.lookup opt

/-- May the value be given to the option? -/
def accepts (opt : Opt) (value : String) : Bool :=
  if opt = .format then (Format.ofName? value).isSome
  else !(opt.isPath && value.isEmpty)

/-- Check the option that is held. -/
def settle (given : Given) : Except Stop Given :=
  match given.held with
  | none => .ok given
  | some (opt, none) => .error (.misuse (.missingValue opt))
  | some (opt, some value) =>
    if (given.value? opt).isSome then .error (.misuse (.repeated opt))
    else if !accepts opt value then .error (.misuse (.badValue opt value))
    else .ok { given with settled := given.settled ++ [(opt, value)], held := none }

/-- Hold another option. -/
def hold (given : Given) (opt : Opt) (value : Option String) : Except Stop Given := do
  return { ← given.settle with held := some (opt, value) }

/-- Take an option, with the value that is attached to it if there is one. -/
def take (given : Given) (opt : Opt) (attached : Option String) (argument : String) :
    Except Stop Given := do
  if opt.isFlag then
    if attached.isSome then throw (.misuse (.unexpected argument))
    let given ← given.settle
    if opt = .help then throw .help
    if opt = .version then throw .version
    (← given.hold opt (some "")).settle
  else
    match attached with
    | none => given.hold opt none
    | some value => (← given.hold opt (some value)).settle

/-- The held option, if it has no value yet. -/
def awaited? (given : Given) : Option Opt :=
  match given.held with
  | some (opt, none) => some opt
  | _ => none

/-- Take an argument that is not an option: the file that the command works on. -/
def takeFile (given : Given) (argument : String) : Except Stop Given :=
  if given.level.options.contains .file then given.hold .file (some argument)
  else .error (.misuse (.unexpected argument))

end Given

/-- An option as an argument spells it. -/
inductive Spelling where
  | long (name : String) (attached : Option String)
  | short (letter : Char) (attached : Option String)
  | endOfOptions
  | word

def Spelling.ofArgument (argument : String) : Spelling :=
  match argument.toList with
  | ['-', '-'] => .endOfOptions
  | '-' :: '-' :: text =>
    match text.span (· != '=') with
    | (name, []) => .long (String.ofList name) none
    | (name, _ :: value) => .long (String.ofList name) (some (String.ofList value))
  | '-' :: letter :: text =>
    match text with
    | [] => .short letter none
    | '=' :: value => .short letter (some (String.ofList value))
    | value => .short letter (some (String.ofList value))
  | _ => .word

/-- Do the words after `help` lead to a command? -/
def leadsSomewhere : Level → List String → Bool
  | _, [] => true
  | level, word :: rest =>
    if word = "help" then !level.commands.isEmpty && rest.isEmpty
    else
      match level.commands.lookup word with
      | some level => leadsSomewhere level rest
      | none => false

/-- Read the arguments of a level and of those below it; `literal` after two hyphens. The levels
come out with the deepest first. -/
def readLevels : (given : Given) → (literal : Bool) → List String → Except Stop (List Given)
  | given, _, [] => do return [← given.settle]
  | given, true, argument :: rest => do readLevels (← given.takeFile argument) true rest
  | given, false, argument :: rest =>
    match Spelling.ofArgument argument with
    | .endOfOptions => readLevels given true rest
    | .long name attached =>
      match given.level.options.find? (·.longName? == some name) with
      | some opt => do readLevels (← given.take opt attached argument) false rest
      | none => .error (.misuse (.unexpected argument))
    | .short letter attached =>
      match given.level.options.find? (·.shortName? == some letter) with
      | some opt => do
        let attached := if opt.isFlag then none else attached
        readLevels (← given.take opt attached argument) false rest
      | none => .error (.misuse (.unexpected argument))
    | .word =>
      match given.awaited?, given.level.commands.lookup argument with
      | some opt, _ => readLevels { given with held := some (opt, some argument) } false rest
      | none, some level => do
        let below ← readLevels { level } false rest
        return below ++ [← given.settle]
      | none, none =>
        if argument = "help" && !given.level.commands.isEmpty then
          .error (if leadsSomewhere given.level rest then .help else .misuse (.unexpected argument))
        else do readLevels (← given.takeFile argument) false rest

namespace Command

/-- The command of the deepest level. -/
def ofGiven (given : Given) : Except Misuse Command := do
  let value (opt : Opt) : Except Misuse String :=
    match given.value? opt with
    | some value => .ok value
    | none => .error (.missingOption opt)
  match given.level with
  | .merge => return .merge (← value .observed) (given.value? .lastApplied) (← value .desired)
  | .apply =>
    return .apply (← value .observed) (← value .desired) (given.value? .ignoreBadSnapshot).isSome
  | .retrieve => return .retrieve (← value .file)
  | .record => return .record (← value .file) (← value .snapshot)
  | .strip => return .strip (← value .file)
  | .live => return .live (← value .desired) (given.value? .namespace)
  | .program | .lastApplied => throw .missingCommand

/-- The paths that the command reads, in its order. -/
def paths : Command → List String
  | merge observed lastApplied desired => [observed, desired] ++ lastApplied.toList
  | apply observed desired _ => [observed, desired]
  | retrieve file | strip file => [file]
  | record file snapshot => [file, snapshot]
  | live desired _ => [desired]

end Command

/-- The settings that the levels give, the deepest first; `key` is the name of the marker where no
level gives one. -/
def Settings.ofLevels (levels : List Given) (key : Option String) : Settings :=
  let value? (opt : Opt) : Option String := levels.findSome? (·.value? opt)
  { format := ((value? .format).bind Format.ofName?).getD .yaml
    marker := (((value? .key).or key).map Marker.mk).getD .standard
    summary := (value? .summary).isSome }

/-- The settings and the command that the arguments ask for. -/
def Command.ofArguments (arguments : List String) (key : Option String) :
    Except Stop (Settings × Command) := do
  let levels ← readLevels { level := .program } false arguments
  match levels.head?.map Command.ofGiven with
  | some (.ok command) => return (Settings.ofLevels levels key, command)
  | some (.error cause) => throw (.misuse cause)
  | none => throw (.misuse .missingCommand)

end Reconcile.Cli
