import Mathlib.Data.List.Forall2
import Reconcile.Proofs.Doc.WellKeyed

/-!
# Equality up to order

`Doc.Reorders a b` says that `a` holds what `b` holds, with the names of objects and the elements of
keyed lists in an order of its own. Any other list has its elements in the order of `b`, and scalars
are equal. A keyed list is one whose elements are all objects with an identity field in common.
-/
namespace Reconcile.Doc

inductive Reorders : Doc → Doc → Prop where
  | scalar {doc : Doc} (h : doc.isScalar = true) : Reorders doc doc
  | object {a b : Fields Doc} (keys : a.keys.Perm b.keys)
      (values : ∀ key x y, a.get? key = some x → b.get? key = some y → Reorders x y) :
      Reorders (.object a) (.object b)
  | array {a b : List Doc} (items : List.Forall₂ Reorders a b) : Reorders (.array a) (.array b)
  | keyed {a b ordered : List Doc} {key : String} (known : key ∈ identityKeys)
      (carried : allCarry key b = true) (perm : a.Perm ordered)
      (items : List.Forall₂ Reorders ordered b) : Reorders (.array a) (.array b)

namespace Reorders

theorem refl (doc : Doc) : Reorders doc doc := by
  induction doc using Doc.induction with
  | null => exact .scalar rfl
  | bool b => exact .scalar rfl
  | number n => exact .scalar rfl
  | string s => exact .scalar rfl
  | array items ih => exact .array (List.forall₂_same.mpr ih)
  | object fields ih =>
    refine .object (List.Perm.refl _) fun key x y left right => ?_
    rw [left, Option.some.injEq] at right
    exact right ▸ ih (key, x) (Fields.mem_of_get? left)

theorem eq_of_scalar {a b : Doc} (h : Reorders a b) (scalar : b.isScalar = true) : a = b := by
  cases h with
  | scalar => rfl
  | object => cases scalar
  | array => cases scalar
  | keyed => cases scalar

/-- A list that reorders another has its elements in some order. -/
theorem exists_perm {a : Doc} {b : List Doc} (h : Reorders a (.array b)) :
    ∃ items ordered, a = .array items ∧ items.Perm ordered ∧ List.Forall₂ Reorders ordered b := by
  cases h with
  | scalar scalar => cases scalar
  | array items => exact ⟨_, _, rfl, List.Perm.refl _, items⟩
  | keyed _ _ perm items => exact ⟨_, _, rfl, perm, items⟩

theorem exists_fields {a : Doc} {b : Fields Doc} (h : Reorders a (.object b)) :
    ∃ fields : Fields Doc, a = .object fields ∧ fields.keys.Perm b.keys ∧
      ∀ key x y, fields.get? key = some x → b.get? key = some y → Reorders x y := by
  cases h with
  | scalar scalar => cases scalar
  | object keys values => exact ⟨_, rfl, keys, values⟩

theorem get? {a b y : Doc} {key : String} (h : Reorders a b) (found : b.get? key = some y) :
    ∃ x, a.get? key = some x ∧ Reorders x y := by
  cases b with
  | object fields =>
    obtain ⟨own, rfl, keys, values⟩ := h.exists_fields
    have member : key ∈ own.keys :=
      keys.mem_iff.mpr (Fields.mem_keys_of_mem (Fields.mem_of_get? found))
    obtain ⟨x, present⟩ := Fields.exists_get?_of_mem_keys member
    exact ⟨x, present, values key x y present found⟩
  | _ => cases found

/-- Reordering leaves the identity of an element alone, as long as a scalar gives it. -/
theorem identity_eq {a b : Doc} {key : String} (h : Reorders a b)
    (carried : (b.get? key).isSome = true)
    (scalar : ((b.get? key).getD .null).isScalar = true) : a.identity key = b.identity key := by
  obtain ⟨y, found⟩ := Option.isSome_iff_exists.mp carried
  obtain ⟨x, present, same⟩ := h.get? found
  rw [found, Option.getD_some] at scalar
  rw [identity, identity, present, found, same.eq_of_scalar scalar]

end Reorders

end Reconcile.Doc
