import Reconcile.Doc.Basic

/-!
# Where a document wants to live

A desired document names its target by `apiVersion`, `kind` and `metadata.name`. The version splits
at its first slash into a group and a version; without a slash the group is empty. A namespace
given from outside wins over the one in the document.
-/
namespace Reconcile

structure Target where
  group : String
  version : String
  kind : String
  name : String
  «namespace» : Option String
  deriving DecidableEq, Repr

namespace Target

/-- The field that a document lacks, or has as something else than text. -/
inductive Missing where
  | apiVersion | kind | name
  deriving DecidableEq, Repr

def Missing.message : Missing → String
  | .apiVersion => "desired missing apiVersion"
  | .kind => "desired missing kind"
  | .name => "desired missing metadata.name"

/-- The group and the version. -/
def splitVersion (apiVersion : String) : String × String :=
  match apiVersion.toList.span (· != '/') with
  | (group, _ :: version) => (String.ofList group, String.ofList version)
  | (_, []) => ("", apiVersion)

def ofDoc (desired : Doc) (override : Option String) : Except Missing Target := do
  let text (path : List String) (missing : Missing) : Except Missing String :=
    match (desired.getPath? path).bind Doc.asString? with
    | some text => .ok text
    | none => .error missing
  let apiVersion ← text ["apiVersion"] .apiVersion
  let kind ← text ["kind"] .kind
  let name ← text ["metadata", "name"] .name
  let (group, version) := splitVersion apiVersion
  let own := (desired.getPath? ["metadata", "namespace"]).bind Doc.asString?
  return { group, version, kind, name, «namespace» := override.or own }

end Target

end Reconcile
