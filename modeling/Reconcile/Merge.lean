import Reconcile.Failure
import Reconcile.KeyedList

/-!
# Three-way merge

`merge observed lastApplied desired` folds the change from `lastApplied` to `desired` into
`observed`. What was last applied and is no longer desired goes, whatever its value has become;
what is desired is merged into what is observed; fields that neither mentions stay as they are.
Objects are merged field by field, keyed lists element by element, and any other list or value is
replaced. No schema is used.

A desired document is read as a `Revision`: what it makes of a current value at a path, given what
was last applied there. The revision of an object or list is put together from those of its parts,
so the recursion is on the desired document alone. `mergeAt_object`, `mergeAt_array` and
`mergeAt_of_scalar` are the recursive equations of the merge, one for each shape of the observed
document.
-/
namespace Reconcile

/-- What a desired document makes of the current value at a path, given what was last applied. -/
abbrev Revision := Path → Doc → Option Doc → Except Failure Doc

/-- The fields of a document that must be an object; absent and null have none. -/
def expectObject (side : Side) (path : Path) : Option Doc → Except Failure (Option (Fields Doc))
  | none | some .null => .ok none
  | some (.object fields) => .ok (some fields)
  | some other => .error (.shapeMismatch side path .object other.shape)

/-- The items of a document that must be a list; absent and null have none. -/
def expectArray (side : Side) (path : Path) : Option Doc → Except Failure (List Doc)
  | none | some .null => .ok []
  | some (.array items) => .ok items
  | some other => .error (.shapeMismatch side path .array other.shape)

/-- Drop the fields that were last applied and are no longer desired. -/
def retract (current : Fields Doc) (lastApplied : Option (Fields Doc)) (desired : List String) :
    Fields Doc :=
  match lastApplied with
  | none => current
  | some last => current.filter fun entry => desired.contains entry.1 || !last.contains entry.1

/-- Revise one field: a field that is not there yet counts as null, and a new one is appended. -/
def reviseField (path : Path) (lastApplied : Option (Fields Doc)) (fields : Fields Doc)
    (entry : String × Revision) : Except Failure (Fields Doc) := do
  let value ← entry.2 (path.child entry.1) ((fields.get? entry.1).getD .null)
    (lastApplied.bind (·.get? entry.1))
  return fields.insert entry.1 value

/-- Merge fields: retract, then revise each desired field in its order. -/
def reviseFields (path : Path) (current : Fields Doc) (lastApplied : Option (Fields Doc))
    (revisions : Fields Revision) : Except Failure (Fields Doc) :=
  revisions.foldlM (reviseField path lastApplied) (retract current lastApplied revisions.keys)

/-- Merge keyed lists as if they were objects named by identity. The elements come out in the order
of the current list, then the new ones in the desired order, each identity once. -/
def reviseElements (path : Path) (key : String) (current lastApplied : List Doc)
    (revisions : List (Doc × Revision)) : Except Failure (List Doc) := do
  let desired := revisions.map fun entry => (entry.1.identity key, entry.2)
  let merged ← reviseFields path (byIdentity key current) (some (byIdentity key lastApplied))
    (Fields.ofList desired)
  let order := current.map (·.identity key) ++ desired.map (·.1)
  return order.eraseDups.filterMap merged.get?

/-- The revision of a desired document: `fields?` are the revisions of its fields if it can be
merged into an object, and `items?` those of its items if it can be merged into a list. -/
def reviseWith (desired : Doc) (fields? : Option (Fields Revision))
    (items? : Option (List (Doc × Revision))) : Revision := fun path current lastApplied =>
  match current with
  | .object fields => do
    let last ← expectObject .lastApplied path lastApplied
    match fields? with
    | some revisions => return .object (← reviseFields path fields last revisions)
    | none => throw (.shapeMismatch .desired path .object desired.shape)
  | .array items => do
    let last ← expectArray .lastApplied path lastApplied
    match items? with
    | some revisions =>
      match sharedKey? [items, last, revisions.map (·.1)] with
      | some key => return .array (← reviseElements path key items last revisions)
      | none => return desired
    | none => throw (.shapeMismatch .desired path .array desired.shape)
  | _ => return desired

namespace Doc

mutual

def revision : Doc → Revision
  | .null => reviseWith .null (some []) (some [])
  | .object fields => reviseWith (.object fields) (some (fieldRevisions fields)) none
  | .array items => reviseWith (.array items) none (some (itemRevisions items))
  | .bool value => reviseWith (.bool value) none none
  | .number value => reviseWith (.number value) none none
  | .string value => reviseWith (.string value) none none
termination_by structural doc => doc

def fieldRevisions : List (String × Doc) → List (String × Revision)
  | [] => []
  | (key, value) :: rest => (key, value.revision) :: fieldRevisions rest
termination_by structural fields => fields

def itemRevisions : List Doc → List (Doc × Revision)
  | [] => []
  | item :: rest => (item, item.revision) :: itemRevisions rest
termination_by structural items => items

end

theorem fieldRevisions_eq_map (fields : List (String × Doc)) :
    fieldRevisions fields = fields.map fun entry => (entry.1, entry.2.revision) := by
  induction fields with
  | nil => rfl
  | cons entry rest ih => simp [fieldRevisions, ih]

theorem itemRevisions_eq_map (items : List Doc) :
    itemRevisions items = items.map fun item => (item, item.revision) := by
  induction items with
  | nil => rfl
  | cons item rest ih => simp [itemRevisions, ih]

/-- The revisions of the fields, of a document that can be merged into an object. -/
def fieldRevisions? : Doc → Option (Fields Revision)
  | .null => some []
  | .object fields => some (fields.map fun entry => (entry.1, entry.2.revision))
  | _ => none

/-- The revisions of the items, of a document that can be merged into a list. -/
def itemRevisions? : Doc → Option (List (Doc × Revision))
  | .null => some []
  | .array items => some (items.map fun item => (item, item.revision))
  | _ => none

theorem revision_eq (doc : Doc) :
    doc.revision = reviseWith doc doc.fieldRevisions? doc.itemRevisions? := by
  cases doc with
  | object fields =>
    rw [revision, fieldRevisions_eq_map]
    rfl
  | array items =>
    rw [revision, itemRevisions_eq_map]
    rfl
  | _ => rfl

end Doc

/-- Merge at a path below the root. -/
def mergeAt (path : Path) (current : Doc) (lastApplied : Option Doc) (desired : Doc) :
    Except Failure Doc :=
  desired.revision path current lastApplied

theorem mergeAt_object (path : Path) (fields : Fields Doc) (lastApplied : Option Doc)
    (desired : Doc) :
    mergeAt path (.object fields) lastApplied desired = (do
      let last ← expectObject .lastApplied path lastApplied
      match desired.fieldRevisions? with
      | some revisions => return .object (← reviseFields path fields last revisions)
      | none => throw (.shapeMismatch .desired path .object desired.shape)) := by
  rw [mergeAt, Doc.revision_eq]
  rfl

theorem mergeAt_array (path : Path) (items : List Doc) (lastApplied : Option Doc)
    (desired : Doc) :
    mergeAt path (.array items) lastApplied desired = (do
      let last ← expectArray .lastApplied path lastApplied
      match desired.itemRevisions? with
      | some revisions =>
        match sharedKey? [items, last, revisions.map (·.1)] with
        | some key => return .array (← reviseElements path key items last revisions)
        | none => return desired
      | none => throw (.shapeMismatch .desired path .array desired.shape)) := by
  rw [mergeAt, Doc.revision_eq]
  rfl

theorem mergeAt_of_scalar {path : Path} {current : Doc} {lastApplied : Option Doc} {desired : Doc}
    (hobject : current.asObject? = none) (harray : ∀ items, current ≠ .array items) :
    mergeAt path current lastApplied desired = .ok desired := by
  rw [mergeAt, Doc.revision_eq]
  cases current with
  | object fields => cases hobject
  | array items => exact absurd rfl (harray items)
  | _ => rfl

/-- Fold the change from `lastApplied` to `desired` into `observed`. -/
def merge (observed : Doc) (lastApplied : Option Doc) (desired : Doc) : Except Failure Doc :=
  mergeAt .root observed lastApplied desired

end Reconcile
