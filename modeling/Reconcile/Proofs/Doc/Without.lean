import Mathlib.Data.List.Nodup
import Reconcile.Proofs.Doc.WellKeyed

/-!
# A document without one of its fields

`Doc.without` takes the field at the end of a path out of a document. Every other entry of every
object keeps its place and its value (`names_without`, `get?_without_of_ne`), the field is gone
(`getPath?_without`), and the document nests no deeper than before (`depth_without_le`).
-/
namespace Reconcile

namespace Fields

variable {α : Type u}

/-- Change the value of every entry of `key`. -/
def alter (fields : Fields α) (key : String) (change : α → α) : Fields α :=
  fields.map fun entry => (entry.1, if entry.1 = key then change entry.2 else entry.2)

theorem alter_cons (k : String) (v : α) (rest : Fields α) (key : String) (change : α → α) :
    alter ((k, v) :: rest) key change = (k, if k = key then change v else v) :: alter rest key change :=
  rfl

@[simp] theorem keys_alter (fields : Fields α) (key : String) (change : α → α) :
    keys (alter fields key change) = keys fields := by
  simp [keys, alter]

theorem get?_alter_self (fields : Fields α) (key : String) (change : α → α) :
    get? (alter fields key change) key = (get? fields key).map change := by
  induction fields with
  | nil => rfl
  | cons entry rest ih =>
    obtain ⟨k, v⟩ := entry
    rw [alter_cons, get?_cons, get?_cons]
    by_cases same : k = key
    · simp [same]
    · simp [same, ih]

theorem get?_alter_of_ne {fields : Fields α} {key other : String} {change : α → α}
    (different : other ≠ key) : get? (alter fields key change) other = get? fields other := by
  induction fields with
  | nil => rfl
  | cons entry rest ih =>
    obtain ⟨k, v⟩ := entry
    rw [alter_cons, get?_cons, get?_cons, ih]
    by_cases same : k = other
    · have apart : k ≠ key := fun equal => different (same.symm.trans equal)
      simp [same, different]
    · simp [same]

theorem insert_get? {fields : Fields α} {key : String} {value : α}
    (found : get? fields key = some value) : insert fields key value = fields := by
  induction fields with
  | nil => cases found
  | cons entry rest ih =>
    obtain ⟨k, v⟩ := entry
    rw [get?_cons] at found
    by_cases same : k = key
    · rw [if_pos same, Option.some.injEq] at found
      simp [insert, same, found]
    · rw [if_neg same] at found
      simp [insert, same, ih found]

theorem alter_of_not_mem {fields : Fields α} {key : String} {change : α → α}
    (absent : key ∉ keys fields) : alter fields key change = fields := by
  induction fields with
  | nil => rfl
  | cons entry rest ih =>
    obtain ⟨k, v⟩ := entry
    simp only [keys_cons, List.mem_cons, not_or] at absent
    rw [alter_cons, if_neg (Ne.symm absent.1), ih absent.2]

/-- With distinct names there is one entry to change. -/
theorem alter_of_get? {fields : Fields α} {key : String} {value : α} {change : α → α}
    (nodup : (keys fields).Nodup) (found : get? fields key = some value) :
    alter fields key change = insert fields key (change value) := by
  induction fields with
  | nil => cases found
  | cons entry rest ih =>
    obtain ⟨k, v⟩ := entry
    simp only [keys_cons, List.nodup_cons] at nodup
    rw [get?_cons] at found
    by_cases same : k = key
    · rw [if_pos same, Option.some.injEq] at found
      rw [alter_cons, if_pos same, alter_of_not_mem (same ▸ nodup.1)]
      simp [insert, same, found]
    · rw [if_neg same] at found
      rw [alter_cons, if_neg same, ih nodup.2 found]
      simp [insert, same]

end Fields

namespace Doc

/-- The document without the field at the end of the path. Nothing else changes, and nothing at all
where the path does not lead to a field. -/
def without : Doc → (path : List String) → Doc
  | .object fields, [key] => .object (Fields.erase fields key)
  | .object fields, key :: path => .object (Fields.alter fields key (·.without path))
  | doc, _ => doc
termination_by structural _ path => path

theorem without_cons (fields : Fields Doc) (key next : String) (path : List String) :
    (object fields).without (key :: next :: path) =
      .object (Fields.alter fields key (·.without (next :: path))) :=
  rfl

@[simp] theorem without_nil (doc : Doc) : doc.without [] = doc := by
  cases doc with
  | _ => rfl

theorem without_of_not_object {doc : Doc} (other : doc.asObject? = none) (path : List String) :
    doc.without path = doc := by
  cases doc with
  | object fields => cases other
  | _ =>
    cases path with
    | nil => rfl
    | cons key path => rfl

/-- No name of the object is lost but the last one of the path. -/
theorem names_without {doc : Doc} {key next : String} {path : List String} :
    (doc.without (key :: next :: path)).names = doc.names := by
  cases doc with
  | object fields =>
    rw [without_cons, names_object, names_object, Fields.keys_alter]
  | _ => rfl

/-- A field that the path does not go through keeps its value. -/
theorem get?_without_of_ne {doc : Doc} {key other : String} {path : List String}
    (different : other ≠ key) : (doc.without (key :: path)).get? other = doc.get? other := by
  cases doc with
  | object fields =>
    cases path with
    | nil => exact Fields.get?_erase_of_ne different
    | cons next path => exact Fields.get?_alter_of_ne different
  | _ => rfl

/-- The field is gone. -/
theorem getPath?_without (doc : Doc) {path : List String} (nonempty : path ≠ []) :
    (doc.without path).getPath? path = none := by
  induction path generalizing doc with
  | nil => exact absurd rfl nonempty
  | cons key path ih =>
    rw [getPath?_cons]
    cases doc with
    | object fields =>
      cases path with
      | nil =>
        have gone : ((object fields).without [key]).get? key = none :=
          Fields.get?_erase_self fields key
        rw [gone]
        rfl
      | cons next path =>
        have inner : ((object fields).without (key :: next :: path)).get? key =
            (Fields.get? fields key).map (·.without (next :: path)) :=
          Fields.get?_alter_self fields key _
        rw [inner]
        cases Fields.get? fields key with
        | none => rfl
        | some value => exact ih value (List.cons_ne_nil next path)
    | _ => rfl

/-- Where the path leads to no object that could hold the field, nothing changes. -/
theorem without_of_no_object {doc : Doc} {parent : List String} (key : String)
    (wellFormed : doc.WellFormed)
    (other : ∀ fields, doc.getPath? parent ≠ some (.object fields)) :
    doc.without (parent ++ [key]) = doc := by
  induction parent generalizing doc with
  | nil =>
    refine without_of_not_object ?_ _
    cases doc with
    | object fields => exact absurd rfl (other fields)
    | _ => rfl
  | cons name rest ih =>
    cases doc with
    | object fields =>
      obtain ⟨next, path, shape⟩ := List.exists_cons_of_ne_nil
        (List.append_ne_nil_of_right_ne_nil rest (List.cons_ne_nil key []))
      rw [List.cons_append, shape, without_cons, ← shape]
      cases found : Fields.get? fields name with
      | none => rw [Fields.alter_of_not_mem (Fields.get?_eq_none_iff.mp found)]
      | some value =>
        have field : (object fields).get? name = some value := found
        have same : value.without (rest ++ [key]) = value := by
          refine ih (wellFormed.of_get? field) fun fields reached => other fields ?_
          rw [getPath?_cons, field]
          exact reached
        rw [Fields.alter_of_get? wellFormed.nodup_names found, same, Fields.insert_get? found]
    | _ => exact without_of_not_object rfl _

theorem depth_without_le (doc : Doc) (path : List String) :
    (doc.without path).depth ≤ doc.depth := by
  induction path generalizing doc with
  | nil => simp
  | cons key path ih =>
    cases doc with
    | object fields =>
      have each : ∀ entry ∈ fields, entry.2.depth ≤ depthOfFields fields :=
        depthOfFields_le_iff.mp (Nat.le_refl _)
      cases path with
      | nil =>
        refine depth_object_le_iff.mpr fun entry member => ?_
        exact each entry (List.mem_of_mem_filter member)
      | cons next path =>
        refine depth_object_le_iff.mpr fun entry member => ?_
        obtain ⟨old, listed, rfl⟩ := List.mem_map.mp member
        have bound := each old listed
        dsimp only
        split
        · exact Nat.le_trans (ih old.2) bound
        · exact bound
    | _ => exact Nat.le_refl _

theorem WellFormed.without {doc : Doc} (wellFormed : doc.WellFormed) (path : List String) :
    (doc.without path).WellFormed := by
  induction path generalizing doc with
  | nil => simpa using wellFormed
  | cons key path ih =>
    cases doc with
    | object fields =>
      obtain ⟨nodup, each⟩ := wellFormed_object_iff.mp wellFormed
      cases path with
      | nil =>
        refine wellFormed_object_iff.mpr ⟨?_, fun entry member => ?_⟩
        · rw [Fields.keys_erase]
          exact nodup.filter _
        · exact each entry (List.mem_of_mem_filter member)
      | cons next path =>
        refine wellFormed_object_iff.mpr ⟨?_, fun entry member => ?_⟩
        · rw [Fields.keys_alter]
          exact nodup
        · obtain ⟨old, listed, rfl⟩ := List.mem_map.mp member
          have inner := each old listed
          dsimp only
          split
          · exact ih inner
          · exact inner
    | _ => exact wellFormed

/-- A test that every object passes is passed by what is left of the document. -/
theorem everywhere_without {test : Doc → Bool} {doc : Doc}
    (objects : ∀ fields, test (.object fields) = true) (h : doc.everywhere test = true)
    (path : List String) : (doc.without path).everywhere test = true := by
  induction path generalizing doc with
  | nil => simpa using h
  | cons key path ih =>
    cases doc with
    | object fields =>
      have each := (everywhere_object_iff.mp h).2
      cases path with
      | nil =>
        refine everywhere_object_iff.mpr ⟨objects _, fun entry member => ?_⟩
        exact each entry (List.mem_of_mem_filter member)
      | cons next path =>
        refine everywhere_object_iff.mpr ⟨objects _, fun entry member => ?_⟩
        obtain ⟨old, listed, rfl⟩ := List.mem_map.mp member
        have inner := each old listed
        dsimp only
        split
        · exact ih inner
        · exact inner
    | _ => exact h

theorem WellKeyed.without {doc : Doc} (wellKeyed : doc.WellKeyed) (path : List String) :
    (doc.without path).WellKeyed :=
  everywhere_without (fun _ => rfl) wellKeyed path

end Doc

end Reconcile
