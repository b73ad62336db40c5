import Mathlib.Algebra.BigOperators.Group.Finset.Basic
import Reconcile.ChangeCount
import Reconcile.Proofs.Doc.Equal

/-!
# What a comparison counts

A comparison walks through the names of the target and then looks for names of the base alone. Its
count does not depend on this order: it is the sum, over the names of either object, of what each
name counts for (`between_object`), where a name held by both counts for the comparison of its two
values, equal or not. Two lists are compared position by position, and all other pairs, here called
`Plain`, as a whole (`between_plain`). `pair_induction` is the induction that follows the comparison.
-/
namespace Reconcile.ChangeCount

open Doc (Equal)

attribute [ext] ChangeCount

instance : Zero ChangeCount := ⟨{}⟩

instance : AddCommMonoid ChangeCount where
  add_assoc a b c := by ext <;> apply Nat.add_assoc
  zero_add a := by ext <;> apply Nat.zero_add
  add_zero a := by ext <;> apply Nat.add_zero
  add_comm a b := by ext <;> apply Nat.add_comm
  nsmul := nsmulRec

@[simp] theorem adds_zero : (0 : ChangeCount).adds = 0 := rfl

@[simp] theorem updates_zero : (0 : ChangeCount).updates = 0 := rfl

@[simp] theorem removes_zero : (0 : ChangeCount).removes = 0 := rfl

@[simp] theorem adds_add (a b : ChangeCount) : (a + b).adds = a.adds + b.adds := rfl

@[simp] theorem updates_add (a b : ChangeCount) : (a + b).updates = a.updates + b.updates := rfl

@[simp] theorem removes_add (a b : ChangeCount) : (a + b).removes = a.removes + b.removes := rfl

/-- What one name counts for, given its values in the target and in the base. -/
def entryChange : (new old : Option Doc) → ChangeCount
  | some new, some old => between new old
  | some _, none => { adds := 1 }
  | none, some _ => { removes := 1 }
  | none, none => 0

/-- Neither two objects nor two lists. -/
def Plain (a b : Doc) : Prop := a.isScalar = true ∨ b.isScalar = true ∨ a.shape ≠ b.shape

theorem Plain.symm {a b : Doc} (plain : Plain a b) : Plain b a := by
  rcases plain with scalar | scalar | apart
  · exact .inr (.inl scalar)
  · exact .inl scalar
  · exact .inr (.inr apart.symm)

theorem between_plain {target base : Doc} (plain : Plain target base) :
    between target base = if target.same base then 0 else { updates := 1 } := by
  unfold between
  split
  · simp [Plain, Doc.isScalar, Doc.shape] at plain
  · simp [Plain, Doc.isScalar, Doc.shape] at plain
  · rfl

/-- To prove a property of every two documents, prove it of two objects from the values of the first
one, of two lists, and of all others. -/
theorem pair_induction {motive : Doc → Doc → Prop}
    (object : ∀ a b : Fields Doc, (∀ key x, a.get? key = some x → ∀ y, motive x y) →
      motive (.object a) (.object b))
    (array : ∀ xs ys : List Doc, motive (.array xs) (.array ys))
    (plain : ∀ a b, Plain a b → motive a b) (a b : Doc) : motive a b := by
  induction a using Doc.induction_inside generalizing b with
  | step a fields _ =>
    cases a with
    | object entries =>
      cases b with
      | object others => exact object entries others fields
      | _ => exact plain _ _ (.inr (by simp [Doc.isScalar, Doc.shape]))
    | array items =>
      cases b with
      | array others => exact array items others
      | _ => exact plain _ _ (.inr (by simp [Doc.isScalar, Doc.shape]))
    | _ => exact plain _ _ (.inl rfl)

section Same

variable {target base : Doc}

theorem betweenFields_of_same {target base : Fields Doc}
    (same : Doc.sameFields target base = true) : betweenFields target base = 0 := by
  induction target with
  | nil => rfl
  | cons entry rest ih =>
    obtain ⟨key, value⟩ := entry
    rw [Doc.sameFields, Bool.and_eq_true] at same
    rw [betweenFields, ih same.2, add_zero]
    cases found : Fields.get? base key with
    | none => simp [found] at same
    | some old =>
      rw [found] at same
      simp [same.1]
      rfl

/-- A comparison that passes over equal values counts as one that looks into them. -/
theorem between_of_same (formed : target.WellFormed) (formed' : base.WellFormed)
    (same : target.same base = true) : between target base = 0 := by
  have equal := (Doc.same_iff_equal formed formed').mp same
  induction target, base using pair_induction with
  | plain target base plain => rw [between_plain plain, if_pos same]
  | array xs ys =>
    obtain ⟨length, each⟩ := Doc.sameItems_iff.mp same
    have updated : (xs.zip ys).countP (fun pair => !pair.1.same pair.2) = 0 :=
      List.countP_eq_zero.mpr fun pair member => by simp [each pair member]
    rw [between, length, updated]
    ext <;> simp
  | object a b _ =>
    rw [Doc.same, Bool.and_eq_true] at same
    cases equal with
    | scalar scalar => cases scalar
    | object keys _ =>
      have removed : (Fields.keys b).countP (fun key => !Fields.contains a key) = 0 :=
        List.countP_eq_zero.mpr fun key member => by
          simp [Fields.contains_iff.mpr (keys.mem_iff.mpr member)]
      rw [between, betweenFields_of_same same.2, removed]
      rfl

theorem betweenFields_eq_sum_map {entries base : Fields Doc}
    (formed : ∀ entry ∈ entries, entry.2.WellFormed) (formed' : (Doc.object base).WellFormed) :
    betweenFields entries base =
      (entries.map fun entry => entryChange (some entry.2) (base.get? entry.1)).sum := by
  induction entries with
  | nil => rfl
  | cons entry rest ih =>
    obtain ⟨key, value⟩ := entry
    obtain ⟨first, others⟩ := List.forall_mem_cons.mp formed
    rw [betweenFields, ih others, List.map_cons, List.sum_cons]
    congr 1
    cases found : Fields.get? base key with
    | none => rfl
    | some old =>
      by_cases same : value.same old = true
      · simp only [same, if_true]
        exact (between_of_same first (formed'.of_get? found) same).symm
      · simp only [same]
        rfl

theorem betweenFields_eq_sum {target base : Fields Doc}
    (formed : (Doc.object target).WellFormed) (formed' : (Doc.object base).WellFormed) :
    betweenFields target base =
      ∑ name ∈ target.keys.toFinset, entryChange (target.get? name) (base.get? name) := by
  obtain ⟨nodup, each⟩ := Doc.wellFormed_object_iff.mp formed
  rw [betweenFields_eq_sum_map each formed', List.sum_toFinset _ nodup, Fields.keys, List.map_map]
  congr 1
  refine List.map_congr_left fun entry member => ?_
  rw [Function.comp_apply, Fields.get?_of_mem nodup member]

theorem nsmul_removes (n : Nat) : n • ({ removes := 1 } : ChangeCount) = { removes := n } := by
  induction n with
  | zero => exact zero_nsmul _
  | succ n ih =>
    rw [succ_nsmul, ih]
    rfl

theorem removed_eq_sum {target base : Fields Doc} (nodup : base.keys.Nodup) :
    ({ removes := base.keys.countP fun key => !target.contains key } : ChangeCount) =
      ∑ name ∈ base.keys.toFinset \ target.keys.toFinset,
        entryChange (target.get? name) (base.get? name) := by
  have counted : base.keys.countP (fun key => !target.contains key) =
      (base.keys.toFinset \ target.keys.toFinset).card := by
    rw [List.countP_eq_length_filter, ← List.toFinset_card_of_nodup (nodup.filter _)]
    congr 1
    ext name
    simp [← Fields.contains_iff]
  have alone : ∀ name ∈ base.keys.toFinset \ target.keys.toFinset,
      entryChange (target.get? name) (base.get? name) = { removes := 1 } := by
    intro name member
    simp only [Finset.mem_sdiff, List.mem_toFinset] at member
    obtain ⟨old, held⟩ := Fields.exists_get?_of_mem_keys member.1
    rw [Fields.get?_eq_none_iff.mpr member.2, held]
    rfl
  rw [counted, Finset.sum_congr rfl alone, Finset.sum_const, nsmul_removes]

/-- The names of either object count, each on its own and in no order. -/
theorem between_object {target base : Fields Doc}
    (formed : (Doc.object target).WellFormed) (formed' : (Doc.object base).WellFormed) :
    between (.object target) (.object base) =
      ∑ name ∈ target.keys.toFinset ∪ base.keys.toFinset,
        entryChange (target.get? name) (base.get? name) := by
  rw [between, betweenFields_eq_sum formed formed', removed_eq_sum formed'.nodup_names,
    ← Finset.sum_union Finset.disjoint_sdiff, Finset.union_sdiff_self_eq_union]

end Same

end Reconcile.ChangeCount
