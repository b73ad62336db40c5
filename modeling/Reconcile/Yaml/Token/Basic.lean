/-!
# Tokens of YAML

What a text says once its characters, its indentation and its line breaks have been read: where
documents, collections, entries, keys and values begin, and the properties and scalars between. A
block collection has tokens for its start and its end too, although no character stands for them.
-/
namespace Reconcile.Yaml

inductive Token where
  | version (major minor : Nat)
  | tagHandle (handle expansion : String)
  | documentStart
  | documentEnd
  | blockSequenceStart
  | blockMappingStart
  | blockEnd
  | flowSequenceStart
  | flowSequenceEnd
  | flowMappingStart
  | flowMappingEnd
  | blockEntry
  | flowEntry
  | key
  | value
  | alias (name : String)
  | anchor (name : String)
  | tag (handle suffix : String)
  | scalar (plain : Bool) (text : String)
  deriving DecidableEq, Repr, Inhabited

end Reconcile.Yaml
