import Mathlib.Data.List.Zip
import Reconcile.Proofs.Change.Between

/-!
# Counting in the other direction

The comparison of `b` with `a` counts what the comparison of `a` with `b` counts, with additions and
removals exchanged, and neither sees the order of names (`between_mirrored`). Both are inductions over
pairs of documents: each name of two objects counts on its own, so an exchange or another order goes
through the sum over the names.
-/
namespace Reconcile.ChangeCount

open Doc (Equal Permuted)

/-- The count with additions and removals exchanged. -/
def swap : ChangeCount →+ ChangeCount where
  toFun count := { adds := count.removes, updates := count.updates, removes := count.adds }
  map_zero' := rfl
  map_add' _ _ := rfl

theorem entryChange_swap {new old : Option Doc}
    (each : ∀ x y, new = some x → old = some y → between y x = swap (between x y)) :
    entryChange old new = swap (entryChange new old) := by
  cases new with
  | none =>
    cases old with
    | none => rfl
    | some y => rfl
  | some x =>
    cases old with
    | none => rfl
    | some y => exact each x y rfl rfl

section Pair

variable {a b a' b' : Doc}

theorem same_comm (formed : a.WellFormed) (formed' : b.WellFormed) : b.same a = a.same b := by
  rw [Bool.eq_iff_iff, Doc.same_iff_equal formed' formed, Doc.same_iff_equal formed formed']
  exact ⟨Equal.symm, Equal.symm⟩

theorem between_swap (formed : a.WellFormed) (formed' : b.WellFormed) :
    between b a = swap (between a b) := by
  induction a, b using pair_induction with
  | plain a b plain =>
    rw [between_plain plain.symm, between_plain plain, same_comm formed formed']
    split <;> rfl
  | array xs ys =>
    have updated : (ys.zip xs).countP (fun pair => !pair.1.same pair.2) =
        (xs.zip ys).countP fun pair => !pair.1.same pair.2 := by
      rw [← List.zip_swap, List.countP_map]
      refine List.countP_congr fun pair member => ?_
      obtain ⟨left, right⟩ := List.of_mem_zip member
      rw [Function.comp_apply, Prod.fst_swap, Prod.snd_swap,
        same_comm (formed.of_mem left) (formed'.of_mem right)]
    rw [between, between, updated]
    rfl
  | object a b ih =>
    rw [between_object formed formed', between_object formed' formed, map_sum, Finset.union_comm]
    refine Finset.sum_congr rfl fun name _ => entryChange_swap fun x y left right => ?_
    exact ih name x left y (formed.of_get? left) (formed'.of_get? right)

theorem same_permuted (formed : a.WellFormed) (formed' : b.WellFormed) (left : Permuted a a')
    (right : Permuted b b') : a'.same b' = a.same b := by
  rw [Bool.eq_iff_iff, Doc.same_iff_equal (left.wellFormed formed) (right.wellFormed formed'),
    Doc.same_iff_equal formed formed']
  constructor
  · intro equal
    exact (left.equal.trans equal).trans right.equal.symm
  · intro equal
    exact (left.equal.symm.trans equal).trans right.equal

theorem updated_permuted {xs ys xs' ys' : List Doc} (formed : ∀ x ∈ xs, x.WellFormed)
    (formed' : ∀ y ∈ ys, y.WellFormed) (left : List.Forall₂ Permuted xs xs')
    (right : List.Forall₂ Permuted ys ys') :
    (xs'.zip ys').countP (fun pair => !pair.1.same pair.2) =
      (xs.zip ys).countP fun pair => !pair.1.same pair.2 := by
  induction left generalizing ys ys' with
  | nil => simp
  | cons first _ ih =>
    cases right with
    | nil => simp
    | cons other rest =>
      obtain ⟨formedFirst, formed⟩ := List.forall_mem_cons.mp formed
      obtain ⟨formedOther, formed'⟩ := List.forall_mem_cons.mp formed'
      rw [List.zip_cons_cons, List.zip_cons_cons, List.countP_cons, List.countP_cons,
        ih formed formed' rest, same_permuted formedFirst formedOther first other]

theorem entryChange_permuted {new old new' old' : Option Doc}
    (left : Option.Rel Permuted new new') (right : Option.Rel Permuted old old')
    (each : ∀ x y x' y', new = some x → old = some y → Permuted x x' → Permuted y y' →
      between x' y' = between x y) :
    entryChange new' old' = entryChange new old := by
  cases left with
  | none =>
    cases right with
    | none => rfl
    | some _ => rfl
  | some permuted =>
    cases right with
    | none => rfl
    | some permuted' => exact each _ _ _ _ rfl rfl permuted permuted'

theorem between_permuted (formed : a.WellFormed) (formed' : b.WellFormed) (left : Permuted a a')
    (right : Permuted b b') : between a' b' = between a b := by
  induction a, b using pair_induction generalizing a' b' with
  | plain a b plain =>
    have plain' : Plain a' b' := by
      rwa [Plain, ← left.isScalar_eq, ← right.isScalar_eq, ← left.shape_eq, ← right.shape_eq]
    rw [between_plain plain', between_plain plain, same_permuted formed formed' left right]
  | array xs ys =>
    cases left with
    | scalar scalar => cases scalar
    | array left =>
      cases right with
      | scalar scalar => cases scalar
      | array right =>
        rw [between, between, left.length_eq, right.length_eq,
          updated_permuted (fun _ => formed.of_mem) (fun _ => formed'.of_mem) left right]
  | object a b ih =>
    cases left with
    | scalar scalar => cases scalar
    | @object _ a' keys values =>
      cases right with
      | scalar scalar => cases scalar
      | @object _ b' keys' values' =>
        have formedLeft := (Permuted.object keys values).wellFormed formed
        have formedRight := (Permuted.object keys' values').wellFormed formed'
        rw [between_object formed formed', between_object formedLeft formedRight,
          List.toFinset_eq_of_perm _ _ keys, List.toFinset_eq_of_perm _ _ keys']
        refine Finset.sum_congr rfl fun name _ => entryChange_permuted
          ((Permuted.object keys values).get? name) ((Permuted.object keys' values').get? name)
          fun x y x' y' left right permuted permuted' => ?_
        exact ih name x left y (formed.of_get? left) (formed'.of_get? right) permuted permuted'

/-- Counting in the other direction exchanges additions and removals and keeps updates, and documents
that differ in the order of names count alike. -/
theorem between_mirrored (formed : a.WellFormed) (formed' : b.WellFormed) :
    (between a b).adds = (between b a).removes ∧ (between a b).removes = (between b a).adds ∧
      (between a b).updates = (between b a).updates ∧
      ∀ a' b', Permuted a a' → Permuted b b' → between a' b' = between a b := by
  have swapped := between_swap formed formed'
  refine ⟨?_, ?_, ?_, fun a' b' left right => between_permuted formed formed' left right⟩
  · rw [swapped]
    rfl
  · rw [swapped]
    rfl
  · rw [swapped]
    rfl

end Pair

section Scaled

private def scaledTarget : Doc :=
  .object [("image", .string "b"), ("template", .object
    [("paused", .bool true), ("ports", .array [.string "a", .string "b"])])]

private def turnedTarget : Doc :=
  .object [("template", .object
    [("ports", .array [.string "a", .string "b"]), ("paused", .bool true)]), ("image", .string "b")]

private def scaledBase : Doc :=
  .object [("kind", .null), ("template", .object
    [("ports", .array [.string "a", .object [], .null]), ("labels", .object [])])]

private def turnedBase : Doc :=
  .object [("template", .object
    [("ports", .array [.string "a", .object [], .null]), ("labels", .object [])]), ("kind", .null)]

/-- A port of another type, one that is gone, and names held on one side only. -/
theorem between_mirrored_scaled :
    scaledTarget.WellFormed ∧ scaledBase.WellFormed ∧
      between scaledTarget scaledBase = { adds := 2, updates := 1, removes := 3 } ∧
      between scaledBase scaledTarget = { adds := 3, updates := 1, removes := 2 } ∧
      Permuted scaledTarget turnedTarget ∧ Permuted scaledBase turnedBase ∧
      between turnedTarget turnedBase = { adds := 2, updates := 1, removes := 3 } := by
  have formed : scaledTarget.WellFormed := by decide
  have formed' : scaledBase.WellFormed := by decide
  have forward : between scaledTarget scaledBase = { adds := 2, updates := 1, removes := 3 } := by
    decide
  have left : Permuted scaledTarget turnedTarget :=
    .swap (by decide) (.refl _) (.swap (by decide) (.refl _) (.refl _))
  have right : Permuted scaledBase turnedBase := .swap (by decide) (.refl _) (.refl _)
  obtain ⟨adds, removes, updates, reordered⟩ := between_mirrored formed formed'
  rw [forward] at adds removes updates
  refine ⟨formed, formed', forward, ?_, left, right, ?_⟩
  · ext
    · exact removes.symm
    · exact updates.symm
    · exact adds.symm
  · exact (reordered _ _ left right).trans forward

end Scaled

end Reconcile.ChangeCount
