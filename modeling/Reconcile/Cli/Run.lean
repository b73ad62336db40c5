import Reconcile.ChangeCount
import Reconcile.Cli.Command
import Reconcile.Cluster
import Reconcile.InPlace
import Reconcile.Input
import Reconcile.Yaml.Writer

/-!
# Running a command

A command reads its documents, works on them and has one document to print, or stops at the first
trouble. `respond` is the whole program as a function of its arguments, its environment and what it
can read. A live preview fetches the observed document from a cluster; nothing is ever written to one.
-/
namespace Reconcile.Cli

/-- Why a command prints nothing. -/
inductive Trouble where
  | unreadable (path reason : String)
  | refused (path : String) (refusal : Refusal)
  | notRetrieved (path : String) (failure : Failure)
  | notRecorded (failure : Failure)
  | notMerged (failure : Failure)
  | noTarget (missing : Target.Missing)
  | notFetched (reason : Unfetched)
  | notEncoded (causes : List String)
  deriving DecidableEq, Repr

/-- What went wrong, then why. -/
def Trouble.messages : Trouble → List String
  | .unreadable path reason => ["reading " ++ path, reason]
  | .refused path refusal => ["loading " ++ path, refusal.message]
  | .notRetrieved path failure =>
    ["reading last-applied snapshot from " ++ path, failure.message]
  | .notRecorded failure => ["recording last-applied snapshot", failure.message]
  | .notMerged failure => ["can't merge desired changes", failure.message]
  | .noTarget missing => [missing.message]
  | .notFetched reason => reason.messages
  | .notEncoded causes => "encoding live object" :: causes

/-- What a program can read: files, the standard input, variables, and a cluster. -/
structure Surroundings where
  /-- The text of a file, or why it cannot be read. -/
  file : String → Except String String
  /-- The text on the standard input, or why it cannot be read. -/
  input : Except String String := .ok ""
  environment : String → Option String := fun _ => none
  /-- The cluster, or why there is no client for one. -/
  cluster : Except (List String) Cluster := .error []

namespace Surroundings

def limits (around : Surroundings) : Limits :=
  .ofTexts (around.environment "TETHER_MAX_YAML_BYTES") (around.environment "TETHER_MAX_YAML_NODES")

end Surroundings

/-- Running keeps what is left of the standard input. -/
abbrev Running := StateT (Except String String) (Except Trouble)

/-- The text under a path; a hyphen takes all that is left of the standard input. -/
def readText (around : Surroundings) (path : String) : Running String := do
  if path = "-" then
    match ← get with
    | .ok text =>
      set (Except.ok "" : Except String String)
      return text
    | .error reason => throw (.unreadable "stdin" reason)
  else
    match around.file path with
    | .ok text => return text
    | .error reason => throw (.unreadable path reason)

def load (around : Surroundings) (path : String) : Running Doc := do
  match around.limits.readDoc (← readText around path) with
  | .ok doc => return doc
  | .error refusal => throw (.refused path refusal)

/-- The snapshot on what is observed. One that cannot be read may count as none. -/
def retrieveFrom [Annotated α] (marker : Marker) (ignoreBad : Bool) (path : String) (observed : α) :
    Except Trouble (Option Doc) :=
  match marker.retrieve observed with
  | .ok snapshot => .ok snapshot
  | .error failure =>
    if ignoreBad && failure.isSerialization then .ok none else .error (.notRetrieved path failure)

/-- What a command prints: a document, and how much it changes the observed one. -/
structure Report where
  document : Doc
  change : Option ChangeCount := none

/-- Merge and report the change. -/
def preview (settings : Settings) (observed : Doc) (lastApplied : Option Doc) (desired : Doc) :
    Except Trouble Report := do
  let merged ← (merge observed lastApplied desired).mapError .notMerged
  return ⟨merged, if settings.summary then some (.between merged observed) else none⟩

/-- Reconcile and report the change: merge against the snapshot on the observed document, and leave
the new one there. -/
def previewStep (settings : Settings) (ignoreBad : Bool) (path : String) (observed desired : Doc) :
    Except Trouble Report := do
  let lastApplied ← retrieveFrom settings.marker ignoreBad path observed
  let stamped ← (settings.marker.stamp desired).mapError .notRecorded
  preview settings observed lastApplied stamped

/-- The object that a desired document names, as the cluster has it. -/
def fetchFor (around : Surroundings) (desired : Doc) («namespace» : Option String) :
    Except Trouble (Option LiveObject) := do
  let target ← (Target.ofDoc desired «namespace»).mapError .noTarget
  (target.fetch around.cluster).mapError .notFetched

/-- The snapshot on a fetched object. -/
def retrieveLive (marker : Marker) : Option LiveObject → Except Trouble (Option Doc)
  | some object => retrieveFrom marker false "live object" object.resource
  | none => .ok none

/-- The observed document of a live preview; null where there is no object. -/
def observedLive : Option LiveObject → Except Trouble Doc
  | some object => object.document.mapError .notEncoded
  | none => .ok .null

/-- Reconcile with a fetched object and report the change: the snapshot is taken from the object, and
the merge is into its document. -/
def previewLive (settings : Settings) (current : Option LiveObject) (desired : Doc) :
    Except Trouble Report := do
  let lastApplied ← retrieveLive settings.marker current
  let observed ← observedLive current
  let stamped ← (settings.marker.stamp desired).mapError .notRecorded
  preview settings observed lastApplied stamped

namespace Command

def run (settings : Settings) (around : Surroundings) : Command → Running Report
  | merge observed lastApplied desired => do
    let observedDoc ← load around observed
    let desiredDoc ← load around desired
    let last ← lastApplied.mapM (load around)
    preview settings observedDoc last desiredDoc
  | apply observed desired ignoreBadSnapshot => do
    let observedDoc ← load around observed
    let desiredDoc ← load around desired
    previewStep settings ignoreBadSnapshot observed observedDoc desiredDoc
  | retrieve file => do
    let snapshot ← retrieveFrom settings.marker false file (← load around file)
    return { document := snapshot.getD .null }
  | record file snapshot => do
    let object ← load around file
    let bare := settings.marker.strip (← load around snapshot)
    match (settings.marker.recordInPlace bare).run object with
    | .ok _ recorded => return { document := recorded }
    | .error failure _ => throw (.notRecorded failure)
  | strip file => return { document := settings.marker.strip (← load around file) }
  | live desired override => do
    let desiredDoc ← load around desired
    let current ← fetchFor around desiredDoc override
    previewLive settings current desiredDoc

end Command

/-- The text of a document, with its final line break. -/
def Format.write : Format → Doc → String
  | .yaml, doc => Yaml.write doc
  | .json, doc => Json.pretty doc ++ "\n"

def versionText : String := "tetherctl 0.0.0\n"

def helpText : String :=
  "Preview client-side three-way apply\n\n" ++
  "Usage: tetherctl [OPTIONS] <COMMAND>\n\n" ++
  "Commands:\n" ++
  "  merge --observed <FILE> --desired <FILE> [--last-applied <FILE>]\n" ++
  "  apply --observed <FILE> --desired <FILE> [--ignore-bad-snapshot]\n" ++
  "  last-applied get <FILE>\n" ++
  "  last-applied set <FILE> --from <FILE>\n" ++
  "  last-applied sanitize <FILE>\n" ++
  "  live --desired <FILE> [--ns <NAMESPACE>]\n\n" ++
  "Options:\n" ++
  "  -o, --output <yaml|json>\n" ++
  "      --key <ANNOTATION>\n" ++
  "      --summary\n" ++
  "  -h, --help\n" ++
  "  -V, --version\n"

/-- How the program ends. -/
inductive Outcome where
  /-- It prints a text on the standard output, and this on the standard error besides its log. -/
  | printed (out err : String)
  | failed (trouble : Trouble)
  | misused (cause : Misuse)
  deriving DecidableEq, Repr

def Outcome.exitCode : Outcome → Nat
  | .printed .. => 0
  | .failed _ => 1
  | .misused _ => 2

/-- The whole program, but for the log that it keeps on the standard error. -/
def respond (arguments : List String) (around : Surroundings) : Outcome :=
  match Command.ofArguments arguments (around.environment "TETHER_LAST_APPLIED_KEY") with
  | .error .help => .printed helpText ""
  | .error .version => .printed versionText ""
  | .error (.misuse cause) => .misused cause
  | .ok (settings, command) =>
    match (command.run settings around).run' around.input with
    | .ok report =>
      .printed (settings.format.write report.document)
        ((report.change.map fun change => change.render ++ "\n").getD "")
    | .error trouble => .failed trouble

end Reconcile.Cli
