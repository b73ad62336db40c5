import Reconcile.Proofs.Merge.Elements

/-!
# Merging a desired object

A desired object is merged into an object field by field, replaces a scalar, and cannot be merged
into a list. A scalar counts like an object without fields, so one description holds of both
(`mergeAt_into_object`, `mergeAt_into_object_ok`). Along a path of desired objects, a field that is
neither desired nor was last applied stays as it is (`mergeAt_getPath?_kept`).
-/
namespace Reconcile

namespace Doc

/-- The fields of an object; any other document has none. -/
def fields : Doc → Fields Doc
  | .object fields => fields
  | _ => []

theorem get?_eq_fields (doc : Doc) (key : String) : doc.get? key = doc.fields.get? key := by
  cases doc with
  | _ => rfl

theorem nodup_fields {doc : Doc} (wellFormed : doc.WellFormed) : doc.fields.keys.Nodup := by
  cases doc with
  | object fields => exact wellFormed.nodup_names
  | _ => exact List.nodup_nil

theorem get?_of_mem_fields {doc : Doc} {entry : String × Doc} (wellFormed : doc.WellFormed)
    (listed : entry ∈ doc.fields) : doc.get? entry.1 = some entry.2 := by
  rw [get?_eq_fields]
  exact Fields.get?_of_mem (nodup_fields wellFormed) listed

theorem wellFormed_of_mem_fields {doc : Doc} {entry : String × Doc} (wellFormed : doc.WellFormed)
    (listed : entry ∈ doc.fields) : entry.2.WellFormed :=
  wellFormed.of_get? (get?_of_mem_fields wellFormed listed)

/-- What holds of null and of a value holds where a missing value counts as null. -/
theorem getD_null_of {P : Doc → Prop} {held : Option Doc} (null : P .null)
    (each : ∀ doc, held = some doc → P doc) : P (held.getD .null) := by
  cases held with
  | none => exact null
  | some doc => exact each doc rfl

theorem wellFormed_field {doc : Doc} (wellFormed : doc.WellFormed) (key : String) :
    ((doc.fields.get? key).getD .null).WellFormed := by
  rw [← get?_eq_fields]
  exact getD_null_of rfl fun value found => wellFormed.of_get? found

theorem get?_getD_null (held : Option Doc) (key : String) :
    (held.getD .null).get? key = held.bind (·.get? key) := by
  cases held with
  | none => rfl
  | some doc => rfl

/-- A missing value counts as null, in which no path leads anywhere. -/
theorem getPath?_getD_null (held : Option Doc) (path : List String) (key : String) :
    (held.getD .null).getPath? (path ++ [key]) = held.bind (·.getPath? (path ++ [key])) := by
  cases held with
  | some value => rfl
  | none =>
    cases path with
    | nil => rfl
    | cons step rest =>
      rw [List.cons_append, Option.getD_none, getPath?_cons]
      rfl

end Doc

section Objects

variable {path : Path} {observed merged : Doc} {lastApplied : Option Doc} {desired : Fields Doc}

/-- Merging a desired object into anything but a list gives an object. -/
theorem mergeAt_into_object (wellFormed : (Doc.object desired).WellFormed)
    (h : mergeAt path observed lastApplied (.object desired) = .ok merged) :
    (∀ items, observed ≠ .array items) ∧
      ∃ out, merged = .object out ∧
        FieldsMerged path observed.fields lastApplied (.object desired) out := by
  cases observed with
  | object current => exact ⟨nofun, mergeAt_object_success wellFormed h⟩
  | array items =>
    obtain ⟨fits | ⟨_, fits⟩, _⟩ := mergeAt_array_success h
    · cases fits
    · cases fits
  | _ =>
    refine ⟨nofun, desired, ?_, .inr ⟨desired, rfl⟩, ?_, ?_, ?_, ?_⟩
    · rw [mergeAt_scalar rfl] at h
      cases h
      rfl
    · simp [Doc.fields]
    · exact fun key value wanted => ⟨value, mergeAt_scalar rfl, wanted⟩
    · exact fun key unwanted _ => Fields.get?_eq_none_iff.mpr unwanted
    · exact fun key _ unwanted => Fields.get?_eq_none_iff.mpr unwanted

theorem mergeAt_into_object_ok {last : Option (Fields Doc)}
    (notList : ∀ items, observed ≠ .array items)
    (expected : expectObject .lastApplied path lastApplied = .ok last)
    (nodup : desired.keys.Nodup)
    (each : ∀ key value, desired.get? key = some value → ∃ result, mergeAt (path.child key)
      ((observed.fields.get? key).getD .null) (lastApplied.bind (·.get? key)) value = .ok result) :
    ∃ merged, mergeAt path observed lastApplied (.object desired) = .ok merged := by
  cases observed with
  | object current =>
    obtain ⟨out, run⟩ := mergeAt_object_ok expected nodup each
    exact ⟨_, run⟩
  | array items => exact absurd rfl (notList items)
  | _ => exact ⟨_, mergeAt_scalar rfl⟩

end Objects

/-- Along a path of desired objects, a field at its end stays as it is when it is neither desired nor
was last applied. The induction is on the path: each step moves all documents one field down. -/
theorem mergeAt_getPath?_kept {base : Path} {observed desired merged : Doc}
    {lastApplied : Option Doc} {path : List String} {key : String}
    (wellFormed : desired.WellFormed) (h : mergeAt base observed lastApplied desired = .ok merged)
    (above : ∃ fields, desired.getPath? path = some (.object fields))
    (undesired : desired.getPath? (path ++ [key]) = none)
    (unapplied : lastApplied.bind (·.getPath? (path ++ [key])) = none) :
    merged.getPath? (path ++ [key]) = observed.getPath? (path ++ [key]) := by
  induction path generalizing base observed lastApplied desired merged with
  | nil =>
    obtain ⟨fields, above⟩ := above
    cases above
    obtain ⟨_, out, rfl, spec⟩ := mergeAt_into_object wellFormed h
    have kept : Fields.get? out key = observed.fields.get? key := by
      refine spec.kept key (Doc.get?_eq_none_iff.mp undesired) (Doc.get?_eq_none_iff.mp ?_)
      rw [Doc.get?_getD_null]
      exact unapplied
    exact kept.trans (observed.get?_eq_fields key).symm
  | cons step rest ih =>
    obtain ⟨fields, above⟩ := above
    rw [Doc.getPath?_cons, Option.bind_eq_some_iff] at above
    obtain ⟨value, found, above⟩ := above
    cases desired with
    | object wanted =>
      obtain ⟨_, out, rfl, spec⟩ := mergeAt_into_object wellFormed h
      obtain ⟨result, revised, stored⟩ := spec.merged step value found
      have stored : (Doc.object out).get? step = some result := stored
      have below : result.getPath? (rest ++ [key]) =
          ((observed.fields.get? step).getD .null).getPath? (rest ++ [key]) := by
        refine ih (wellFormed.of_get? found) revised ⟨fields, above⟩ ?_ ?_
        · rw [List.cons_append, Doc.getPath?_cons, found] at undesired
          exact undesired
        · simpa [Doc.getPath?_cons, Option.bind_assoc] using unapplied
      rw [List.cons_append, Doc.getPath?_cons, Doc.getPath?_cons, stored, Option.bind_some, below,
        Doc.getPath?_getD_null, Doc.get?_eq_fields observed step]
    | _ => cases found

end Reconcile
