import Mathlib.Data.List.Forall2
import Reconcile.Doc.Shape
import Reconcile.Proofs.Doc.WellKeyed

/-!
# Equality up to the order of names

`Doc.Permuted a b` says that `a` and `b` hold the same, with the names of every object inside in an
order of its own. Lists have the same elements in one order and scalars are equal.
-/
namespace Reconcile.Doc

inductive Permuted : Doc → Doc → Prop where
  | scalar {doc : Doc} (h : doc.isScalar = true) : Permuted doc doc
  | object {a b : Fields Doc} (keys : a.keys.Perm b.keys)
      (values : ∀ key x y, a.get? key = some x → b.get? key = some y → Permuted x y) :
      Permuted (.object a) (.object b)
  | array {a b : List Doc} (items : List.Forall₂ Permuted a b) : Permuted (.array a) (.array b)

namespace Permuted

theorem refl (doc : Doc) : Permuted doc doc := by
  induction doc using Doc.induction with
  | array items ih => exact .array (List.forall₂_same.mpr ih)
  | object fields ih =>
    refine .object (List.Perm.refl _) fun key x y left right => ?_
    rw [left, Option.some.injEq] at right
    exact right ▸ ih (key, x) (Fields.mem_of_get? left)
  | _ => exact .scalar rfl

theorem eq_of_scalar {a b : Doc} (h : Permuted a b) (scalar : b.isScalar = true) : a = b := by
  cases h with
  | scalar _ => rfl
  | object keys values => cases scalar
  | array items => cases scalar

theorem exists_object {a : Doc} {b : Fields Doc} (h : Permuted a (.object b)) :
    ∃ fields, a = .object fields := by
  cases h with
  | scalar scalar => cases scalar
  | object keys values => exact ⟨_, rfl⟩

theorem get? {a b : Doc} (h : Permuted a b) (key : String) :
    Option.Rel Permuted (a.get? key) (b.get? key) := by
  cases h with
  | scalar scalar =>
    rw [get?_of_scalar scalar]
    exact .none
  | array items => exact .none
  | object keys values => exact Fields.rel_get? (fun _ => keys.mem_iff) values key

/-- With distinct names it is enough to look at every name. -/
theorem of_get? {a b : Fields Doc} (nodup : a.keys.Nodup) (nodup' : b.keys.Nodup)
    (same : ∀ key, Option.Rel Permuted (a.get? key) (b.get? key)) :
    Permuted (.object a) (.object b) := by
  refine .object (Fields.perm_keys_of_rel nodup nodup' same) fun key x y left right => ?_
  have related := same key
  rw [left, right] at related
  exact Option.rel_some_some.mp related

/-- Setting a name to the same on both sides. -/
theorem insert {a b : Fields Doc} {x y : Doc} (h : Permuted (.object a) (.object b)) (key : String)
    (same : Permuted x y) : Permuted (.object (a.insert key x)) (.object (b.insert key y)) := by
  cases h with
  | scalar scalar => cases scalar
  | object keys values =>
    refine .object ?_ fun name u v left right => ?_
    · rw [Fields.keys_insert, Fields.keys_insert]
      by_cases present : key ∈ Fields.keys a
      · rw [if_pos present, if_pos (keys.mem_iff.mp present)]
        exact keys
      · rw [if_neg present, if_neg (mt keys.mem_iff.mpr present)]
        exact keys.append_right [key]
    · by_cases named : name = key
      · subst named
        rw [Fields.get?_insert_self] at left right
        cases left
        cases right
        exact same
      · rw [Fields.get?_insert_of_ne named] at left right
        exact values name u v left right

/-- Two names can be set in either order. -/
theorem insert_comm (fields : Fields Doc) {key other : String} (apart : key ≠ other) (x y : Doc) :
    Permuted (.object ((fields.insert key x).insert other y))
      (.object ((fields.insert other y).insert key x)) := by
  refine .object ?_ fun name u v left right => ?_
  · simp only [Fields.keys_insert]
    by_cases first : key ∈ Fields.keys fields
    · by_cases second : other ∈ Fields.keys fields
      · simp [first, second]
      · simp [first, second]
    · by_cases second : other ∈ Fields.keys fields
      · simp [first, second]
      · simp only [first, second, if_false, List.mem_append, List.mem_singleton, apart, apart.symm,
          or_self, List.append_assoc]
        exact (List.Perm.swap other key []).append_left (Fields.keys fields)
  · have same : Fields.get? ((fields.insert key x).insert other y) name =
        Fields.get? ((fields.insert other y).insert key x) name := by
      by_cases isOther : name = other
      · subst isOther
        rw [Fields.get?_insert_self, Fields.get?_insert_of_ne apart.symm, Fields.get?_insert_self]
      · rw [Fields.get?_insert_of_ne isOther]
        by_cases isKey : name = key
        · subst isKey
          rw [Fields.get?_insert_self, Fields.get?_insert_self]
        · rw [Fields.get?_insert_of_ne isKey, Fields.get?_insert_of_ne isKey,
            Fields.get?_insert_of_ne isOther]
    rw [same, right, Option.some.injEq] at left
    exact left ▸ refl v

/-- Two fields the other way round. -/
theorem swap {first second : String} (apart : first ≠ second) {a a' b b' : Doc}
    (same : Permuted a a') (same' : Permuted b b') :
    Permuted (.object [(first, a), (second, b)]) (.object [(second, b'), (first, a')]) := by
  refine .object (List.Perm.swap second first []) fun key x y left right => ?_
  rw [Fields.get?_cons, Fields.get?_cons] at left right
  by_cases isFirst : first = key
  · subst isFirst
    rw [if_pos rfl] at left
    rw [if_neg apart.symm, if_pos rfl] at right
    cases left
    cases right
    exact same
  · by_cases isSecond : second = key
    · rw [if_neg isFirst, if_pos isSecond] at left
      rw [if_pos isSecond] at right
      cases left
      cases right
      exact same'
    · rw [if_neg isFirst, if_neg isSecond] at left
      cases left

section Counterparts

variable {a b : Doc}

theorem shape_eq (h : Permuted a b) : a.shape = b.shape := by
  cases h with
  | scalar _ => rfl
  | object _ _ => rfl
  | array _ => rfl

theorem isScalar_eq (h : Permuted a b) : a.isScalar = b.isScalar := by
  cases h with
  | scalar _ => rfl
  | object _ _ => rfl
  | array _ => rfl

theorem mem_names_iff (h : Permuted a b) {key : String} : key ∈ a.names ↔ key ∈ b.names := by
  cases h with
  | scalar _ => rfl
  | object keys _ => exact keys.mem_iff
  | array _ => rfl

theorem items (h : Permuted a b) : List.Forall₂ Permuted a.items b.items := by
  cases h with
  | scalar scalar =>
    cases a with
    | array items => cases scalar
    | _ => exact .nil
  | object _ _ => exact .nil
  | array items => exact items

theorem exists_get? {x : Doc} {key : String} (h : Permuted a b) (found : a.get? key = some x) :
    ∃ y, b.get? key = some y ∧ Permuted x y := by
  have related := h.get? key
  rw [found] at related
  generalize b.get? key = held at related
  cases related with
  | some permuted => exact ⟨_, rfl, permuted⟩

theorem symm (h : Permuted a b) : Permuted b a := by
  induction a using Doc.induction generalizing b with
  | array items ih =>
    cases h with
    | scalar scalar => cases scalar
    | array pairs =>
      have each := (List.forall₂_and_left items _).mpr ⟨ih, pairs⟩
      exact .array (List.Forall₂.flip (each.imp fun x y both => both.1 both.2))
  | object fields ih =>
    cases h with
    | scalar scalar => cases scalar
    | object keys values =>
      refine .object keys.symm fun key x y left right => ?_
      exact ih (key, y) (Fields.mem_of_get? right) (values key y x right left)
  | _ =>
    cases h with
    | scalar scalar => exact .scalar scalar

/-- What holds of the elements of a list holds of their counterparts. -/
theorem forall_mem {P : Doc → Prop} {items others : List Doc}
    (pairs : List.Forall₂ Permuted items others)
    (each : ∀ x ∈ items, ∀ y, Permuted x y → P y) : ∀ y ∈ others, P y := by
  induction pairs with
  | nil => exact nofun
  | cons head _ ih =>
    intro y member
    rcases List.mem_cons.mp member with rfl | later
    · exact each _ List.mem_cons_self y head
    · exact ih (fun x listed => each x (List.mem_cons_of_mem _ listed)) y later

theorem wellFormed (h : Permuted a b) (wellFormed : a.WellFormed) : b.WellFormed := by
  induction a using Doc.induction_inside generalizing b with
  | step a fields items =>
    cases h with
    | scalar _ => exact wellFormed
    | array pairs =>
      refine wellFormed_array_iff.mpr (forall_mem pairs fun x member y permuted => ?_)
      exact items x member permuted (wellFormed.of_mem member)
    | object keys values =>
      have nodup := keys.nodup_iff.mp wellFormed.nodup_names
      refine wellFormed_object_iff.mpr ⟨nodup, fun entry member => ?_⟩
      have found := Fields.get?_of_mem nodup member
      obtain ⟨x, present, permuted⟩ := (Permuted.object keys values).symm.exists_get? found
      exact fields entry.1 x present permuted.symm (wellFormed.of_get? present)

/-- With distinct names, a test of documents that sees no order can be made everywhere in either. -/
theorem everywhere {test : Doc → Bool} (same : ∀ {a b : Doc}, Permuted a b → test a = test b)
    (h : Permuted a b) (nodup : b.WellFormed) (passed : a.everywhere test = true) :
    b.everywhere test = true := by
  induction a using Doc.induction_inside generalizing b with
  | step a fields items =>
    cases h with
    | scalar _ => exact passed
    | array pairs =>
      obtain ⟨here, inside⟩ := everywhere_array_iff.mp passed
      refine everywhere_array_iff.mpr ⟨same (.array pairs) ▸ here, ?_⟩
      have each : ∀ y ∈ _, Doc.WellFormed y → y.everywhere test = true :=
        forall_mem pairs fun x member y permuted wellFormed =>
          items x member permuted wellFormed (inside x member)
      exact fun y member => each y member (nodup.of_mem member)
    | object keys values =>
      obtain ⟨here, inside⟩ := everywhere_object_iff.mp passed
      refine everywhere_object_iff.mpr ⟨same (.object keys values) ▸ here, fun entry member => ?_⟩
      have found := Fields.get?_of_mem nodup.nodup_names member
      obtain ⟨x, present, permuted⟩ := (Permuted.object keys values).symm.exists_get? found
      exact fields entry.1 x present permuted.symm (nodup.of_get? found)
        (inside (entry.1, x) (Fields.mem_of_get? present))

theorem getD_null {a b : Option Doc} (h : Option.Rel Permuted a b) :
    Permuted (a.getD .null) (b.getD .null) := by
  cases h with
  | none => exact .scalar rfl
  | some permuted => exact permuted

end Counterparts

end Permuted

end Reconcile.Doc
