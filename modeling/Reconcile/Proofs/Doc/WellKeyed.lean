import Reconcile.KeyedList

/-!
# Well-keyed documents

In a well-keyed document every list of objects can be read by identity: whatever identity field all
its elements carry holds scalars there, and their texts are distinct. `Doc.everywhere` is the test
of a document and of all that it contains, from which `Doc.WellKeyed` and `Doc.NullFree` are made.
-/
namespace Reconcile

namespace Doc

mutual

/-- Does the document pass a test, and every document inside? -/
def everywhere (test : Doc → Bool) : Doc → Bool
  | .array items => test (.array items) && everywhereItems test items
  | .object fields => test (.object fields) && everywhereFields test fields
  | doc => test doc
termination_by structural doc => doc

def everywhereItems (test : Doc → Bool) : List Doc → Bool
  | [] => true
  | item :: rest => item.everywhere test && everywhereItems test rest
termination_by structural items => items

def everywhereFields (test : Doc → Bool) : List (String × Doc) → Bool
  | [] => true
  | (_, value) :: rest => value.everywhere test && everywhereFields test rest
termination_by structural fields => fields

end

variable {test : Doc → Bool}

theorem everywhereItems_iff {items : List Doc} :
    everywhereItems test items = true ↔ ∀ item ∈ items, item.everywhere test = true := by
  induction items with
  | nil => simp [everywhereItems]
  | cons item rest ih => simp [everywhereItems, ih]

theorem everywhereFields_iff {fields : List (String × Doc)} :
    everywhereFields test fields = true ↔ ∀ entry ∈ fields, entry.2.everywhere test = true := by
  induction fields with
  | nil => simp [everywhereFields]
  | cons entry rest ih =>
    obtain ⟨key, value⟩ := entry
    simp [everywhereFields, ih]

theorem everywhere_array_iff {items : List Doc} :
    (array items).everywhere test = true ↔
      test (.array items) = true ∧ ∀ item ∈ items, item.everywhere test = true := by
  rw [everywhere, Bool.and_eq_true, everywhereItems_iff]

theorem everywhere_object_iff {fields : List (String × Doc)} :
    (object fields).everywhere test = true ↔
      test (.object fields) = true ∧ ∀ entry ∈ fields, entry.2.everywhere test = true := by
  rw [everywhere, Bool.and_eq_true, everywhereFields_iff]

theorem everywhere_of_get? {doc value : Doc} {key : String} (h : doc.everywhere test = true)
    (found : doc.get? key = some value) : value.everywhere test = true := by
  cases doc with
  | object fields => exact (everywhere_object_iff.mp h).2 (key, value) (Fields.mem_of_get? found)
  | _ => cases found

/-- Do all the items have the field? Only objects have any. -/
def allCarry (key : String) (items : List Doc) : Bool := items.all fun item => (item.get? key).isSome

/-- Does the field hold scalars in all the items, with distinct texts? -/
def tellsApart (key : String) (items : List Doc) : Bool :=
  (items.all fun item => ((item.get? key).getD .null).isScalar) &&
    decide (items.map (·.identity key)).Nodup

/-- Does every identity field that all the items of a list carry tell them apart? -/
def identitiesTellApart : Doc → Bool
  | .array items => identityKeys.all fun key => !allCarry key items || tellsApart key items
  | _ => true

def WellKeyed (doc : Doc) : Prop := doc.everywhere identitiesTellApart = true

instance (doc : Doc) : Decidable doc.WellKeyed := inferInstanceAs (Decidable (_ = true))

def NullFree (doc : Doc) : Prop := doc.everywhere (· ≠ .null) = true

instance (doc : Doc) : Decidable doc.NullFree := inferInstanceAs (Decidable (_ = true))

theorem allCarry_iff {key : String} {items : List Doc} :
    allCarry key items = true ↔ ∀ item ∈ items, (item.get? key).isSome = true := by
  simp [allCarry]

theorem WellKeyed.scalar_identity {items : List Doc} {key : String}
    (wellKeyed : (array items).WellKeyed) (known : key ∈ identityKeys)
    (carried : allCarry key items = true) :
    (∀ item ∈ items, ((item.get? key).getD .null).isScalar = true) ∧
      (items.map (·.identity key)).Nodup := by
  have each := List.all_eq_true.mp (everywhere_array_iff.mp wellKeyed).1 key known
  rw [carried, Bool.not_true, Bool.false_or, tellsApart, Bool.and_eq_true, decide_eq_true_iff,
    List.all_eq_true] at each
  exact each

theorem WellKeyed.of_mem {items : List Doc} {item : Doc} (wellKeyed : (array items).WellKeyed)
    (member : item ∈ items) : item.WellKeyed :=
  (everywhere_array_iff.mp wellKeyed).2 item member

theorem WellKeyed.of_mem_items {doc item : Doc} (wellKeyed : doc.WellKeyed)
    (member : item ∈ doc.items) : item.WellKeyed := by
  cases doc with
  | array items => exact wellKeyed.of_mem member
  | _ => cases member

theorem WellKeyed.of_get? {doc value : Doc} {key : String} (wellKeyed : doc.WellKeyed)
    (found : doc.get? key = some value) : value.WellKeyed :=
  everywhere_of_get? wellKeyed found

/-- An object is well-keyed when all its values are. -/
theorem wellKeyed_object_iff {fields : List (String × Doc)} :
    (object fields).WellKeyed ↔ ∀ entry ∈ fields, entry.2.WellKeyed := by
  rw [WellKeyed, everywhere_object_iff]
  exact and_iff_right rfl

theorem wellKeyed_insert {fields : Fields Doc} {key : String} {value : Doc}
    (wellKeyed : (object fields).WellKeyed) (wellKeyedValue : value.WellKeyed) :
    (object (fields.insert key value)).WellKeyed := by
  refine wellKeyed_object_iff.mpr fun entry member => ?_
  rcases Fields.mem_insert member with rfl | old
  · exact wellKeyedValue
  · exact wellKeyed_object_iff.mp wellKeyed entry old

theorem NullFree.of_mem {items : List Doc} {item : Doc} (nullFree : (array items).NullFree)
    (member : item ∈ items) : item.NullFree :=
  (everywhere_array_iff.mp nullFree).2 item member

theorem NullFree.of_get? {doc value : Doc} {key : String} (nullFree : doc.NullFree)
    (found : doc.get? key = some value) : value.NullFree :=
  everywhere_of_get? nullFree found

theorem WellFormed.of_mem {items : List Doc} {item : Doc} (wellFormed : (array items).WellFormed)
    (member : item ∈ items) : item.WellFormed :=
  wellFormed_array_iff.mp wellFormed item member

theorem WellFormed.of_mem_items {doc item : Doc} (wellFormed : doc.WellFormed)
    (member : item ∈ doc.items) : item.WellFormed := by
  cases doc with
  | array items => exact wellFormed.of_mem member
  | _ => cases member

theorem not_nullFree_null : ¬ null.NullFree := by
  simp [NullFree, everywhere]

end Doc

end Reconcile
