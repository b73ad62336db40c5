/-!
# The options of the command line

The command line is a tree of levels: the program, its commands, and the commands below
`last-applied`. Each level has options of its own and, except for `--version`, shares those of the
program. The file that some commands work on stands without an option name and counts as one here.
-/
namespace Reconcile.Cli

inductive Level where
  | program | merge | apply | lastApplied | retrieve | record | strip | live
  deriving DecidableEq, Repr

inductive Opt where
  | format | key | summary | help | version
  | observed | desired | lastApplied | ignoreBadSnapshot | «namespace» | file | snapshot
  deriving DecidableEq, Repr

namespace Level

/-- The levels below, by the words that lead to them. -/
def commands : Level → List (String × Level)
  | program =>
    [("merge", merge), ("apply", apply), ("last-applied", lastApplied), ("live", live)]
  | lastApplied => [("get", retrieve), ("set", record), ("sanitize", strip)]
  | _ => []

/-- The options that only this level has. -/
def ownOptions : Level → List Opt
  | program => [.version]
  | merge => [.observed, .lastApplied, .desired]
  | apply => [.observed, .desired, .ignoreBadSnapshot]
  | lastApplied => []
  | retrieve | strip => [.file]
  | record => [.file, .snapshot]
  | live => [.desired, .namespace]

def options (level : Level) : List Opt := level.ownOptions ++ [.format, .key, .summary, .help]

end Level

namespace Opt

/-- The word after two hyphens. -/
def longName? : Opt → Option String
  | format => some "output"
  | key => some "key"
  | summary => some "summary"
  | help => some "help"
  | version => some "version"
  | observed => some "observed"
  | desired => some "desired"
  | lastApplied => some "last-applied"
  | ignoreBadSnapshot => some "ignore-bad-snapshot"
  | «namespace» => some "ns"
  | snapshot => some "from"
  | file => none

/-- The letter after one hyphen. -/
def shortName? : Opt → Option Char
  | format => some 'o'
  | help => some 'h'
  | version => some 'V'
  | _ => none

/-- Does the option say all by being there? -/
def isFlag : Opt → Bool
  | summary | ignoreBadSnapshot | help | version => true
  | _ => false

/-- Is the value of the option a path? -/
def isPath : Opt → Bool
  | observed | desired | lastApplied | file | snapshot => true
  | _ => false

def describe (opt : Opt) : String := ((opt.longName?).map ("--" ++ ·)).getD "<FILE>"

end Opt

end Reconcile.Cli
