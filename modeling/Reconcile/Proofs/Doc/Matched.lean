import Mathlib.Data.List.Forall2
import Reconcile.KeyedList

/-!
# Fields that match

Two sequences of fields match when they have the same names in the same order, with values that are
related. Inserting the same name keeps them so, and hence lists whose elements are related and have
the same identities match when they are read by identity (`byIdentity_matched`).
-/
namespace Reconcile

namespace Fields

variable {α : Type u} {β : Type v} {R : α → β → Prop} {a : Fields α} {b : Fields β}

def Matched (R : α → β → Prop) (a : Fields α) (b : Fields β) : Prop :=
  List.Forall₂ (fun x y => x.1 = y.1 ∧ R x.2 y.2) a b

theorem Matched.keys (h : Matched R a b) : Fields.keys a = Fields.keys b := by
  induction h with
  | nil => rfl
  | cons head _ ih => rw [keys_cons, keys_cons, head.1, ih]

theorem Matched.get? (h : Matched R a b) (key : String) :
    Option.Rel R (Fields.get? a key) (Fields.get? b key) := by
  induction h with
  | nil => exact .none
  | @cons x y _ _ head _ ih =>
    obtain ⟨k, v⟩ := x
    obtain ⟨l, w⟩ := y
    obtain ⟨rfl, related⟩ : k = l ∧ R v w := head
    rw [get?_cons, get?_cons]
    split
    · exact .some related
    · exact ih

theorem Matched.insert (h : Matched R a b) (key : String) {x : α} {y : β} (related : R x y) :
    Matched R (Fields.insert a key x) (Fields.insert b key y) := by
  induction h with
  | nil => exact .cons ⟨rfl, related⟩ .nil
  | @cons first second _ _ head tail ih =>
    obtain ⟨k, v⟩ := first
    obtain ⟨l, w⟩ := second
    obtain ⟨rfl, old⟩ : k = l ∧ R v w := head
    rw [Fields.insert, Fields.insert]
    split
    · exact .cons ⟨rfl, related⟩ tail
    · exact .cons ⟨rfl, old⟩ ih

theorem Matched.ofList {a : List (String × α)} {b : List (String × β)} (h : Matched R a b) :
    Matched R (Fields.ofList a) (Fields.ofList b) := by
  suffices ∀ {start : Fields α} {other : Fields β}, Matched R start other →
      Matched R (a.foldl (fun fields entry => Fields.insert fields entry.1 entry.2) start)
        (b.foldl (fun fields entry => Fields.insert fields entry.1 entry.2) other) from this .nil
  induction h with
  | nil => exact id
  | cons head _ ih =>
    intro start other matched
    rw [List.foldl_cons, List.foldl_cons, head.1]
    exact ih (matched.insert _ head.2)

end Fields

theorem byIdentity_matched {R : Doc → Doc → Prop} {key : String} {a b : List Doc}
    (related : List.Forall₂ R a b)
    (identities : List.Forall₂ (fun x y => x.identity key = y.identity key) a b) :
    Fields.Matched R (byIdentity key a) (byIdentity key b) := by
  refine Fields.Matched.ofList ?_
  induction related with
  | nil => exact .nil
  | cons head _ ih =>
    cases identities with
    | cons same rest => exact .cons ⟨same, head⟩ (ih rest)

end Reconcile
