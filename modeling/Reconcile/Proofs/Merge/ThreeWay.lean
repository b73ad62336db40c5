import Reconcile.Proofs.Merge.Fields

/-!
# Three-way semantics at every depth

A merge treats every object it reaches like the one at the root. Where the observed and the desired
document both have a value along a path of fields, and the observed value is an object, the merged
document has there the merge of the three values found along the path (`mergeAt_getPath?`). What
the last applied document has along it may be missing or null, and counts as no fields then.
-/
namespace Reconcile

/-- A merged field holds the merge of what stands under the name in the three documents. -/
theorem mergeAt_get?_success {path : Path} {observed inner desired wanted merged : Doc}
    {lastApplied : Option Doc} {key : String} (wellFormed : desired.WellFormed)
    (h : mergeAt path observed lastApplied desired = .ok merged)
    (atObserved : observed.get? key = some inner) (atDesired : desired.get? key = some wanted) :
    ∃ result, mergeAt (path.child key) inner (lastApplied.bind (·.get? key)) wanted = .ok result ∧
      merged.get? key = some result := by
  cases observed with
  | object current =>
    obtain ⟨out, rfl, fields⟩ := mergeAt_object_success wellFormed h
    obtain ⟨result, revised, stored⟩ := fields.merged key wanted atDesired
    have present : Fields.get? current key = some inner := atObserved
    rw [present, Option.getD_some] at revised
    exact ⟨result, revised, stored⟩
  | _ => cases atObserved

/-- The induction is on the path: each step moves all three documents one field down. -/
theorem mergeAt_getPath? {base : Path} {observed desired merged wanted : Doc}
    {lastApplied : Option Doc} {current : Fields Doc} (path : List String)
    (wellFormed : desired.WellFormed) (h : mergeAt base observed lastApplied desired = .ok merged)
    (atObserved : observed.getPath? path = some (.object current))
    (atDesired : desired.getPath? path = some wanted) :
    ∃ out, merged.getPath? path = some (.object out) ∧
      FieldsMerged ⟨base.steps ++ path⟩ current (lastApplied.bind (·.getPath? path)) wanted out := by
  induction path generalizing base observed lastApplied desired merged with
  | nil =>
    cases atObserved
    cases atDesired
    obtain ⟨out, rfl, fields⟩ := mergeAt_object_success wellFormed h
    refine ⟨out, rfl, ?_⟩
    simpa using fields
  | cons key rest ih =>
    rw [Doc.getPath?_cons, Option.bind_eq_some_iff] at atObserved atDesired
    obtain ⟨inner, atObserved, restObserved⟩ := atObserved
    obtain ⟨value, atDesired, restDesired⟩ := atDesired
    obtain ⟨result, revised, stored⟩ := mergeAt_get?_success wellFormed h atObserved atDesired
    obtain ⟨out, found, fields⟩ :=
      ih (wellFormed.of_get? atDesired) revised restObserved restDesired
    refine ⟨out, ?_, ?_⟩
    · rw [Doc.getPath?_cons, stored, Option.bind_some, found]
    · simpa [Path.child, Option.bind_assoc, Doc.getPath?_cons] using fields

/-- Three-way semantics: at any path of fields where the observed document has an object and the
desired one has a value, the merged document has an object. Its names are the desired ones and the
observed ones that were not last applied, in observed order and then in desired order; each desired
field is the merge of the three fields of its name, any other that stays is as observed, and what
was last applied and is no longer desired is gone. -/
theorem merge_threeWay {observed desired merged wanted : Doc} {lastApplied : Option Doc}
    {path : List String} {current : Fields Doc} (wellFormed : desired.WellFormed)
    (success : merge observed lastApplied desired = .ok merged)
    (atObserved : observed.getPath? path = some (.object current))
    (atDesired : desired.getPath? path = some wanted) :
    ∃ out : Fields Doc, merged.getPath? path = some (.object out) ∧
      (∀ key, key ∈ out.keys ↔ key ∈ wanted.names ∨
        key ∈ current.keys ∧ key ∉ ((lastApplied.bind (·.getPath? path)).getD .null).names) ∧
      FieldsMerged ⟨path⟩ current (lastApplied.bind (·.getPath? path)) wanted out := by
  obtain ⟨out, found, fields⟩ := mergeAt_getPath? path wellFormed success atObserved atDesired
  exact ⟨out, found, fun _ => fields.mem_keys, by simpa [Path.root] using fields⟩

section Deployment

/-- Someone else has changed `paused` and added `strategy`. -/
private def observedSpec : Fields Doc :=
  [("paused", .bool true), ("strategy", .string "Recreate"),
    ("replicas", .number (.int 5 (by decide)))]

private def appliedSpec : Doc := .object [("paused", .bool false), ("replicas", .null)]

private def desiredSpec : Doc :=
  .object [("image", .string "web:2"), ("replicas", .number (.int 6 (by decide)))]

private def mergedSpec : Fields Doc :=
  [("strategy", .string "Recreate"), ("replicas", .number (.int 6 (by decide))),
    ("image", .string "web:2")]

theorem merge_threeWay_deployment :
    merge (.object [("kind", .string "Deployment"), ("spec", .object observedSpec)])
        (some (.object [("spec", appliedSpec)])) (.object [("spec", desiredSpec)]) =
      .ok (.object [("kind", .string "Deployment"), ("spec", .object mergedSpec)]) ∧
    (∀ key, key ∈ mergedSpec.keys ↔ key ∈ desiredSpec.names ∨
      key ∈ observedSpec.keys ∧ key ∉ appliedSpec.names) ∧
    FieldsMerged ⟨["spec"]⟩ observedSpec (some appliedSpec) desiredSpec mergedSpec := by
  have wellFormed : (Doc.object [("spec", desiredSpec)]).WellFormed := by decide
  have success : merge (.object [("kind", .string "Deployment"), ("spec", .object observedSpec)])
        (some (.object [("spec", appliedSpec)])) (.object [("spec", desiredSpec)]) =
      .ok (.object [("kind", .string "Deployment"), ("spec", .object mergedSpec)]) := rfl
  have atObserved : (Doc.object [("kind", .string "Deployment"),
      ("spec", .object observedSpec)]).getPath? ["spec"] = some (.object observedSpec) := rfl
  have atDesired : (Doc.object [("spec", desiredSpec)]).getPath? ["spec"] = some desiredSpec := rfl
  obtain ⟨out, found, names, fields⟩ := merge_threeWay wellFormed success atObserved atDesired
  cases found
  exact ⟨success, names, fields⟩

end Deployment

end Reconcile
