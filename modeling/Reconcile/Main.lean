import Reconcile.Cli.Run

/-!
# The command line program

Reads what a command line asks for, hands it to `Cli.respond`, and prints what comes back.
-/
namespace Reconcile

/-- Why a file cannot be read, as the system words it. -/
def reasonOf : IO.Error → String
  | .noFileOrDirectory .. => "No such file or directory (os error 2)"
  | .permissionDenied .. => "Permission denied (os error 13)"
  | .inappropriateType .. => "Is a directory (os error 21)"
  | error => toString error

/-- The text that bytes spell, or why they spell none. -/
def textOf (bytes : ByteArray) : Except String String :=
  match String.fromUTF8? bytes with
  | some text => .ok text
  | none => .error "stream did not contain valid UTF-8"

/-- The text of a file, or why it cannot be read. -/
def readFile (path : String) : IO (Except String String) := do
  try
    return textOf (← IO.FS.readBinFile path)
  catch error =>
    return .error (reasonOf error)

/-- Everything on the standard input, or why it cannot be read. -/
def readInput : IO (Except String String) := do
  return textOf (← (← IO.getStdin).readBinToEnd)

def variableNames : List String :=
  ["TETHER_LAST_APPLIED_KEY", "TETHER_MAX_YAML_BYTES", "TETHER_MAX_YAML_NODES"]

/-- What a command with these arguments can read; there is no client for a cluster. -/
def surroundings (arguments : List String) : IO Cli.Surroundings := do
  let values ← variableNames.mapM fun name => return (name, ← IO.getEnv name)
  let paths := match Cli.Command.ofArguments arguments none with
    | .ok (_, command) => command.paths
    | .error _ => []
  let files ← (paths.filter (· != "-")).mapM fun path => return (path, ← readFile path)
  let input ← if paths.contains "-" then readInput else pure (.ok "")
  return {
    file := fun path => (files.lookup path).getD (.error "not a file of the command")
    input
    environment := fun name => (values.lookup name).join }

/-- The first message, then the ones that explain it. -/
def renderMessages : List String → String
  | [] => ""
  | [message] => "Error: " ++ message
  | message :: causes => "Error: " ++ message ++ "\n\nCaused by:\n    " ++ "\n    ".intercalate causes

def runProgram (arguments : List String) : IO UInt32 := do
  let outcome := Cli.respond arguments (← surroundings arguments)
  match outcome with
  | .printed out err =>
    IO.eprint err
    IO.print out
  | .failed trouble => IO.eprintln (renderMessages trouble.messages)
  | .misused cause => IO.eprintln ("error: " ++ cause.message)
  return outcome.exitCode.toUInt32

end Reconcile

def main (arguments : List String) : IO UInt32 := Reconcile.runProgram arguments
