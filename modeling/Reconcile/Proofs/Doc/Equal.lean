import Mathlib.Data.List.Perm.Subperm
import Reconcile.Doc.Same
import Reconcile.Proofs.Doc.Permuted

/-!
# Equal documents

`Doc.Equal` is equality of documents as data: the names of an object have no order, the elements of
a list have one, and numbers are equal when they are of one kind and have one value, so that the two
zeros of a double are equal although they are written differently. It is symmetric and transitive
(`Equal.symm`, `Equal.trans`), documents that differ in the order of names are equal
(`Permuted.equal`), and the test `Doc.same` decides it where no name is repeated (`same_iff_equal`).
-/
namespace Reconcile.Doc

inductive Equal : Doc → Doc → Prop where
  | scalar {doc : Doc} (h : doc.isScalar = true) : Equal doc doc
  | double {a b : Double} (value : a.toUnits = b.toUnits) :
      Equal (.number (.double a)) (.number (.double b))
  | object {a b : Fields Doc} (keys : a.keys.Perm b.keys)
      (values : ∀ key x y, a.get? key = some x → b.get? key = some y → Equal x y) :
      Equal (.object a) (.object b)
  | array {a b : List Doc} (items : List.Forall₂ Equal a b) : Equal (.array a) (.array b)

namespace Equal

theorem shape_eq {a b : Doc} (h : Equal a b) : a.shape = b.shape := by
  cases h with
  | scalar _ => rfl
  | double _ => rfl
  | object _ _ => rfl
  | array _ => rfl

theorem symm {a b : Doc} (h : Equal a b) : Equal b a := by
  induction a using Doc.induction generalizing b with
  | array items ih =>
    cases h with
    | scalar scalar => cases scalar
    | array pairs =>
      have each := (List.forall₂_and_left items _).mpr ⟨ih, pairs⟩
      exact .array (List.Forall₂.flip (each.imp fun x y both => both.1 both.2))
  | object fields ih =>
    cases h with
    | scalar scalar => cases scalar
    | object keys values =>
      refine .object keys.symm fun key x y left right => ?_
      exact ih (key, y) (Fields.mem_of_get? right) (values key y x right left)
  | number value =>
    cases h with
    | scalar scalar => exact .scalar scalar
    | double value => exact .double value.symm
  | _ =>
    cases h with
    | scalar scalar => exact .scalar scalar

theorem trans_items {xs ys zs : List Doc}
    (each : ∀ x ∈ xs, ∀ {y z : Doc}, Equal x y → Equal y z → Equal x z)
    (left : List.Forall₂ Equal xs ys) (right : List.Forall₂ Equal ys zs) :
    List.Forall₂ Equal xs zs := by
  induction left generalizing zs with
  | nil => exact right
  | cons head _ ih =>
    cases right with
    | cons head' rest =>
      constructor
      · exact each _ List.mem_cons_self head head'
      · exact ih (fun x member => each x (List.mem_cons_of_mem _ member)) rest

theorem trans {a b c : Doc} (h : Equal a b) (h' : Equal b c) : Equal a c := by
  induction a using Doc.induction generalizing b c with
  | array items ih =>
    cases h with
    | scalar scalar => cases scalar
    | array pairs =>
      cases h' with
      | scalar scalar => cases scalar
      | array pairs' => exact .array (trans_items ih pairs pairs')
  | object fields ih =>
    cases h with
    | scalar scalar => cases scalar
    | object keys values =>
      cases h' with
      | scalar scalar => cases scalar
      | @object middle last keys' values' =>
        refine .object (keys.trans keys') fun key x z left right => ?_
        have member := keys'.mem_iff.mpr (Fields.mem_keys_of_mem (Fields.mem_of_get? right))
        obtain ⟨y, between⟩ := Fields.exists_get?_of_mem_keys member
        exact ih (key, x) (Fields.mem_of_get? left) (values key x y left between)
          (values' key y z between right)
  | number value =>
    cases h with
    | scalar _ => exact h'
    | double value =>
      cases h' with
      | scalar _ => exact .double value
      | double value' => exact .double (value.trans value')
  | _ =>
    cases h with
    | scalar _ => exact h'

end Equal

theorem Permuted.equal {a b : Doc} (h : Permuted a b) : Equal a b := by
  induction a using Doc.induction generalizing b with
  | array items ih =>
    cases h with
    | scalar scalar => cases scalar
    | array pairs =>
      have each := (List.forall₂_and_left items _).mpr ⟨ih, pairs⟩
      exact .array (each.imp fun x y both => both.1 both.2)
  | object fields ih =>
    cases h with
    | scalar scalar => cases scalar
    | object keys values =>
      refine .object keys fun key x y left right => ?_
      exact ih (key, x) (Fields.mem_of_get? left) (values key x y left right)
  | _ =>
    cases h with
    | scalar scalar => exact .scalar scalar

theorem equal_array_iff {xs ys : List Doc} :
    Equal (.array xs) (.array ys) ↔
      xs.length = ys.length ∧ ∀ pair ∈ xs.zip ys, Equal pair.1 pair.2 := by
  constructor
  · intro h
    cases h with
    | scalar scalar => cases scalar
    | array items =>
      obtain ⟨length, each⟩ := List.forall₂_iff_zip.mp items
      exact ⟨length, fun pair member => each member⟩
  · rintro ⟨length, each⟩
    exact .array (List.forall₂_iff_zip.mpr ⟨length, fun member => each _ member⟩)

/-- With distinct names it is enough to look at every name. -/
theorem equal_object_iff {a b : Fields Doc} (nodup : a.keys.Nodup) (nodup' : b.keys.Nodup) :
    Equal (.object a) (.object b) ↔ ∀ key, Option.Rel Equal (a.get? key) (b.get? key) := by
  constructor
  · intro h
    cases h with
    | scalar scalar => cases scalar
    | object keys values => exact Fields.rel_get? (fun _ => keys.mem_iff) values
  · intro same
    refine .object (Fields.perm_keys_of_rel nodup nodup' same) fun key x y left right => ?_
    have related := same key
    rw [left, right] at related
    exact Option.rel_some_some.mp related

/-- It is also enough to follow the names of one object, if the other has as many. -/
theorem equal_object_iff_length {a b : Fields Doc} (nodup : a.keys.Nodup) :
    Equal (.object a) (.object b) ↔
      a.length = b.length ∧
        ∀ entry ∈ a, ∃ value, b.get? entry.1 = some value ∧ Equal entry.2 value := by
  constructor
  · intro equal
    cases equal with
    | scalar scalar => cases scalar
    | object keys values =>
      constructor
      · simpa [Fields.keys] using keys.length_eq
      · intro entry member
        have named := keys.mem_iff.mp (Fields.mem_keys_of_mem member)
        obtain ⟨value, present⟩ := Fields.exists_get?_of_mem_keys named
        exact ⟨value, present, values _ _ _ (Fields.get?_of_mem nodup member) present⟩
  · rintro ⟨length, found⟩
    -- Every name of the first object is in the second one, which has no more of them.
    have listed : a.keys ⊆ b.keys := by
      intro key member
      obtain ⟨entry, held, rfl⟩ := List.mem_map.mp member
      obtain ⟨value, present, _⟩ := found entry held
      exact Fields.mem_keys_of_mem (Fields.mem_of_get? present)
    have many : b.keys.length ≤ a.keys.length := by simp [Fields.keys, length]
    refine .object ((List.subperm_of_subset nodup listed).perm_of_length_le many)
      fun key x y left right => ?_
    obtain ⟨value, present, equal⟩ := found (key, x) (Fields.mem_of_get? left)
    cases present.symm.trans right
    exact equal

theorem sameItems_iff {xs ys : List Doc} :
    sameItems xs ys = true ↔
      xs.length = ys.length ∧ ∀ pair ∈ xs.zip ys, pair.1.same pair.2 = true := by
  induction xs generalizing ys with
  | nil =>
    cases ys with
    | nil => simp [sameItems]
    | cons y ys => simp [sameItems]
  | cons x xs ih =>
    cases ys with
    | nil => simp [sameItems]
    | cons y ys =>
      simp only [sameItems, Bool.and_eq_true, ih, List.length_cons, Nat.add_right_cancel_iff,
        List.zip_cons_cons, List.forall_mem_cons]
      exact and_left_comm

theorem sameFields_iff {a b : Fields Doc} :
    sameFields a b = true ↔
      ∀ entry ∈ a, ∃ value, b.get? entry.1 = some value ∧ entry.2.same value = true := by
  induction a with
  | nil => simp [sameFields]
  | cons entry rest ih =>
    obtain ⟨key, held⟩ := entry
    rw [sameFields, Bool.and_eq_true, ih, List.forall_mem_cons]
    cases found : Fields.get? b key with
    | none => simp
    | some value => simp

theorem same_number_iff {a b : Number} :
    (number a).same (number b) = true ↔ Equal (.number a) (.number b) := by
  constructor
  · intro same
    cases a with
    | int value fits =>
      cases b with
      | int other fits' =>
        obtain rfl : value = other := by simpa [Doc.same, Number.same] using same
        exact .scalar rfl
      | double other => cases same
    | double value =>
      cases b with
      | int other fits => cases same
      | double other => exact .double (by simpa [Doc.same, Number.same, Double.sameValue] using same)
  · intro equal
    cases equal with
    | scalar _ =>
      cases a with
      | int value fits => simp [Doc.same, Number.same]
      | double value => simp [Doc.same, Number.same, Double.sameValue]
    | double value => simp [Doc.same, Number.same, Double.sameValue, value]

theorem shape_eq_of_same {a b : Doc} (same : a.same b = true) : a.shape = b.shape := by
  cases a <;> cases b <;> first | rfl | cases same

theorem same_iff_of_shape_ne {a b : Doc} (apart : a.shape ≠ b.shape) :
    a.same b = true ↔ Equal a b :=
  iff_of_false (mt shape_eq_of_same apart) (mt Equal.shape_eq apart)

/-- The test follows the first document and looks up its names in the second, so names that are
distinct and as many on both sides make it see all of the second. -/
theorem same_iff_equal {a b : Doc} (formed : a.WellFormed) (formed' : b.WellFormed) :
    a.same b = true ↔ Equal a b := by
  induction a using Doc.induction generalizing b with
  | array xs ih =>
    cases b with
    | array ys =>
      have each : ∀ pair ∈ xs.zip ys, (pair.1.same pair.2 = true ↔ Equal pair.1 pair.2) := by
        intro pair member
        obtain ⟨left, right⟩ := List.of_mem_zip member
        exact ih _ left (formed.of_mem left) (formed'.of_mem right)
      rw [Doc.same, sameItems_iff, equal_array_iff]
      exact and_congr_right fun _ => forall₂_congr each
    | _ => exact same_iff_of_shape_ne (by simp [shape])
  | object fields ih =>
    cases b with
    | object others =>
      have each : ∀ entry ∈ fields, ∀ value, Fields.get? others entry.1 = some value →
          (entry.2.same value = true ↔ Equal entry.2 value) := by
        intro entry member value found
        exact ih entry member ((wellFormed_object_iff.mp formed).2 entry member)
          (formed'.of_get? found)
      rw [Doc.same, Bool.and_eq_true, beq_iff_eq, sameFields_iff,
        equal_object_iff_length formed.nodup_names]
      apply and_congr_right
      intro _
      exact forall₂_congr fun entry member =>
        exists_congr fun value => and_congr_right (each entry member value)
    | _ => exact same_iff_of_shape_ne (by simp [shape])
  | number value =>
    cases b with
    | number other => exact same_number_iff
    | _ => exact same_iff_of_shape_ne (by simp [shape])
  | null =>
    cases b with
    | null => exact iff_of_true rfl (.scalar rfl)
    | _ => exact same_iff_of_shape_ne (by simp [shape])
  | bool value =>
    cases b with
    | bool other =>
      rw [Doc.same, beq_iff_eq]
      constructor
      · rintro rfl
        exact .scalar rfl
      · intro equal
        cases equal
        rfl
    | _ => exact same_iff_of_shape_ne (by simp [shape])
  | string value =>
    cases b with
    | string other =>
      rw [Doc.same, beq_iff_eq]
      constructor
      · rintro rfl
        exact .scalar rfl
      · intro equal
        cases equal
        rfl
    | _ => exact same_iff_of_shape_ne (by simp [shape])

end Reconcile.Doc
