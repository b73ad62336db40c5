import Reconcile.Doc.Basic

/-!
# One entry of an object

What happens when one entry of an object changes and nothing else does. `Fields.ChangesAt` says it of
two sequences of fields, entry by entry: a new entry stands at the end, one that was there keeps its
place, and all others keep their values and their places. Inserting and erasing are changes of this
kind (`changesAt_insert`, `changesAt_erase`). `Doc.Opens` is the change of a value that holds an
object, and `Doc.AnnotationChanges` puts the two together down to one annotation of a document.
-/
namespace Reconcile

namespace Fields

variable {α : Type u} {change : Option α → Option α → Prop} {name : String}

/-- All entries are the same but the one of `name`, whose value before and after, if there is one, are
related by `change`. -/
inductive ChangesAt (name : String) (change : Option α → Option α → Prop) :
    (before after : Fields α) → Prop where
  | absent {fields : Fields α} (fresh : name ∉ keys fields) (allowed : change none none) :
      ChangesAt name change fields fields
  | appended {fields : Fields α} {value : α} (fresh : name ∉ keys fields)
      (allowed : change none (some value)) : ChangesAt name change fields (fields ++ [(name, value)])
  | replaced {front back : Fields α} {old value : α} (first : name ∉ keys front)
      (allowed : change (some old) (some value)) :
      ChangesAt name change (front ++ (name, old) :: back) (front ++ (name, value) :: back)
  | removed {front back : Fields α} {old : α} (first : name ∉ keys front) (only : name ∉ keys back)
      (allowed : change (some old) none) :
      ChangesAt name change (front ++ (name, old) :: back) (front ++ back)

/-- An entry of another name in front stays where it is. -/
theorem ChangesAt.cons {before after : Fields α} (changes : ChangesAt name change before after)
    {other : String} (different : name ≠ other) (value : α) :
    ChangesAt name change ((other, value) :: before) ((other, value) :: after) := by
  have still {fields : Fields α} (fresh : name ∉ keys fields) :
      name ∉ keys ((other, value) :: fields) := by
    simp [different, fresh]
  cases changes with
  | absent fresh allowed => exact .absent (still fresh) allowed
  | appended fresh allowed => exact .appended (still fresh) allowed
  | replaced first allowed => exact .replaced (still first) allowed
  | removed first only allowed => exact .removed (still first) only allowed

theorem not_mem_keys_nil : name ∉ keys ([] : Fields α) := List.not_mem_nil

theorem changesAt_insert {fields : Fields α} {value : α}
    (allowed : change (fields.get? name) (some value)) :
    ChangesAt name change fields (fields.insert name value) := by
  induction fields with
  | nil => exact .appended not_mem_keys_nil allowed
  | cons entry rest ih =>
    obtain ⟨other, old⟩ := entry
    rw [get?_cons] at allowed
    by_cases same : other = name
    · subst same
      rw [insert, if_pos rfl]
      rw [if_pos rfl] at allowed
      exact .replaced not_mem_keys_nil allowed
    · rw [if_neg same] at allowed
      rw [insert, if_neg same]
      exact (ih allowed).cons (Ne.symm same) old

theorem erase_of_not_mem {fields : Fields α} (absent : name ∉ keys fields) :
    erase fields name = fields := by
  refine List.filter_eq_self.mpr fun entry member => ?_
  have different : entry.1 ≠ name := fun same => absent (same ▸ mem_keys_of_mem member)
  simpa using different

theorem erase_erase (fields : Fields α) (name : String) :
    erase (erase fields name) name = erase fields name :=
  erase_of_not_mem (get?_eq_none_iff.mp (get?_erase_self fields name))

theorem erase_insert (fields : Fields α) (name : String) (value : α) :
    erase (insert fields name value) name = erase fields name := by
  induction fields with
  | nil => simp [insert, erase]
  | cons entry rest ih =>
    obtain ⟨other, old⟩ := entry
    unfold erase at ih
    by_cases same : other = name
    · simp [insert, erase, same]
    · simp [insert, erase, same, ih]

theorem changesAt_erase {fields : Fields α} (nodup : (keys fields).Nodup)
    (allowed : change (fields.get? name) none) :
    ChangesAt name change fields (erase fields name) := by
  induction fields with
  | nil => exact .absent not_mem_keys_nil allowed
  | cons entry rest ih =>
    obtain ⟨other, old⟩ := entry
    rw [keys_cons, List.nodup_cons] at nodup
    rw [get?_cons] at allowed
    by_cases same : other = name
    · subst same
      rw [if_pos rfl] at allowed
      have gone : erase ((other, old) :: rest) other = rest := by
        rw [erase, List.filter_cons_of_neg (by simp)]
        exact erase_of_not_mem nodup.1
      rw [gone]
      exact .removed not_mem_keys_nil nodup.1 allowed
    · rw [if_neg same] at allowed
      have kept : erase ((other, old) :: rest) name = (other, old) :: erase rest name :=
        List.filter_cons_of_pos (by simpa using same)
      rw [kept]
      exact (ih nodup.2 allowed).cons (Ne.symm same) old

end Fields

namespace Doc

/-- A value that is missing, null or an object becomes an object, whose fields are related to the ones
before by `change`; missing and null had none. -/
inductive Opens (change : Fields Doc → Fields Doc → Prop) : Option Doc → Option Doc → Prop where
  | missing {fields : Fields Doc} (allowed : change [] fields) :
      Opens change none (some (.object fields))
  | null {fields : Fields Doc} (allowed : change [] fields) :
      Opens change (some .null) (some (.object fields))
  | object {old fields : Fields Doc} (allowed : change old fields) :
      Opens change (some (.object old)) (some (.object fields))

/-- The documents are objects that differ in one annotation, and in what was made to hold it. -/
def AnnotationChanges (name : String) (change : Option Doc → Option Doc → Prop)
    (before after : Doc) : Prop :=
  ∃ root fields, before = .object root ∧ after = .object fields ∧
    Fields.ChangesAt "metadata" (Opens (Fields.ChangesAt "annotations"
      (Opens (Fields.ChangesAt name change)))) root fields

end Doc

end Reconcile
