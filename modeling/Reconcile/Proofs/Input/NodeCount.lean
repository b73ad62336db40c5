import Mathlib.Algebra.BigOperators.Group.List.Basic
import Mathlib.Algebra.Ring.Nat
import Reconcile.Input
import Reconcile.Proofs.Doc.Permuted

/-!
# The node count that stops at a limit

`Doc.nodes` counts every document inside; `Doc.countNodes` counts on from a number and stops at a
limit, at each node and between any two parts of a list or object. The count that stops is the full
one, cut off at the limit (`countNodes_exact`), so a document is over the limit by its number of
nodes alone. The loops stop earlier than the nodes would have them, and to no effect: once the limit is
reached, nothing counts on (`countItems_eq_foldl`, `countFields_eq_foldl`).
-/
namespace Reconcile

/-- Adding each cost and cutting off at the limit each time is adding all of them and cutting off
once. -/
theorem foldl_eq_min {α : Type} {limit : Nat} {step : Nat → α → Nat} {cost : α → Nat} {l : List α}
    (each : ∀ a ∈ l, ∀ count ≤ limit, step count a = min limit (count + cost a)) {count : Nat}
    (within : count ≤ limit) : l.foldl step count = min limit (count + (l.map cost).sum) := by
  induction l generalizing count with
  | nil => simp [within]
  | cons a rest ih =>
    obtain ⟨first, others⟩ := List.forall_mem_cons.mp each
    rw [List.foldl_cons, first count within, ih others (Nat.min_le_left _ _), List.map_cons,
      List.sum_cons]
    omega

namespace Doc

theorem nodesOfItems_eq_sum (items : List Doc) : nodesOfItems items = (items.map nodes).sum := by
  induction items with
  | nil => rfl
  | cons item rest ih => rw [nodesOfItems, ih, List.map_cons, List.sum_cons]

theorem nodesOfFields_eq_sum (fields : List (String × Doc)) :
    nodesOfFields fields = (fields.map fun entry => entry.2.nodes).sum := by
  induction fields with
  | nil => rfl
  | cons entry rest ih => rw [nodesOfFields, ih, List.map_cons, List.sum_cons]

section Stopping

variable {limit count : Nat}

theorem countNodes_of_reached (reached : limit ≤ count) (doc : Doc) :
    doc.countNodes limit count = count := by
  cases doc with
  | _ => exact if_pos reached

theorem foldl_of_reached {α : Type} (part : α → Doc) (reached : limit ≤ count) (l : List α) :
    l.foldl (fun count a => (part a).countNodes limit count) count = count := by
  induction l with
  | nil => rfl
  | cons a rest ih => rw [List.foldl_cons, countNodes_of_reached reached, ih]

/-- The loop over a list may as well go on to the end. -/
theorem countItems_eq_foldl (limit : Nat) (items : List Doc) (count : Nat) :
    countItems limit items count =
      items.foldl (fun count item => item.countNodes limit count) count := by
  induction items generalizing count with
  | nil => rfl
  | cons item rest ih =>
    rw [countItems]
    split
    · next reached => exact (foldl_of_reached id reached (item :: rest)).symm
    · rw [ih, List.foldl_cons]

/-- The loop over an object may as well go on to the end. -/
theorem countFields_eq_foldl (limit : Nat) (fields : List (String × Doc)) (count : Nat) :
    countFields limit fields count =
      fields.foldl (fun count entry => entry.2.countNodes limit count) count := by
  induction fields generalizing count with
  | nil => rfl
  | cons entry rest ih =>
    rw [countFields]
    split
    · next reached => exact (foldl_of_reached Prod.snd reached (entry :: rest)).symm
    · rw [ih, List.foldl_cons]

theorem countNodes_eq_min (doc : Doc) (within : count ≤ limit) :
    doc.countNodes limit count = min limit (count + doc.nodes) := by
  induction doc using Doc.induction generalizing count with
  | array items ih =>
    rw [countNodes, nodes, nodesOfItems_eq_sum]
    split
    · omega
    · rw [countItems_eq_foldl, foldl_eq_min (fun item member count => ih item member) (by omega)]
      omega
  | object fields ih =>
    rw [countNodes, nodes, nodesOfFields_eq_sum]
    split
    · omega
    · rw [countFields_eq_foldl, foldl_eq_min (fun entry member count => ih entry member) (by omega)]
      omega
  | _ =>
    change (if limit ≤ count then count else count + 1) = min limit (count + 1)
    split
    · omega
    · omega

end Stopping

/-- With distinct names, the nodes of an object are those under each of its names. -/
theorem nodesOfFields_eq_sum_keys {fields : Fields Doc} (nodup : fields.keys.Nodup) :
    nodesOfFields fields =
      (fields.keys.map fun key => ((fields.get? key).map nodes).getD 0).sum := by
  rw [nodesOfFields_eq_sum, Fields.keys, List.map_map]
  congr 1
  refine List.map_congr_left fun entry member => ?_
  simp [Fields.get?_of_mem nodup member]

theorem Permuted.nodes_eq {a b : Doc} (h : Permuted a b) (formed : a.WellFormed) :
    a.nodes = b.nodes := by
  induction a using Doc.induction generalizing b with
  | array items ih =>
    cases h with
    | scalar scalar => cases scalar
    | @array _ others pairs =>
      have alike : ∀ item ∈ items, ∀ other, Permuted item other → item.nodes = other.nodes :=
        fun item member other permuted => ih item member permuted (formed.of_mem member)
      have each : items.map nodes = others.map nodes := by
        rw [← List.forall₂_eq_eq_eq, List.forall₂_map_left_iff, List.forall₂_map_right_iff]
        exact ((List.forall₂_and_left items _).mpr ⟨alike, pairs⟩).imp fun x y both => both.1 y both.2
      rw [nodes, nodes, nodesOfItems_eq_sum, nodesOfItems_eq_sum, each]
  | object fields ih =>
    cases h with
    | scalar scalar => cases scalar
    | @object _ others keys values =>
      have nodup := formed.nodup_names
      rw [nodes, nodes, nodesOfFields_eq_sum_keys nodup,
        nodesOfFields_eq_sum_keys (keys.nodup_iff.mp nodup), (keys.map _).sum_eq]
      congr 2
      refine List.map_congr_left fun key member => ?_
      obtain ⟨x, held⟩ := Fields.exists_get?_of_mem_keys (keys.mem_iff.mpr member)
      obtain ⟨y, found⟩ := Fields.exists_get?_of_mem_keys member
      rw [held, found]
      exact ih (key, x) (Fields.mem_of_get? held) (values key x y held found) (formed.of_get? held)
  | _ =>
    cases h with
    | scalar _ => rfl

theorem Permuted.countNodes_eq {a b : Doc} (h : Permuted a b) (formed : a.WellFormed)
    (limit count : Nat) : a.countNodes limit count = b.countNodes limit count := by
  by_cases within : count ≤ limit
  · rw [countNodes_eq_min a within, countNodes_eq_min b within, h.nodes_eq formed]
  · have reached : limit ≤ count := by omega
    rw [countNodes_of_reached reached, countNodes_of_reached reached]

end Doc

theorem Limits.isExceededBy_iff {limits : Limits} {doc : Doc} :
    limits.isExceededBy doc = true ↔ limits.maxNodes ≤ doc.nodes := by
  rw [isExceededBy, decide_eq_true_iff, Doc.countNodes_eq_min doc (Nat.zero_le _)]
  omega

namespace Doc

/-- Counting on from a number within the limit ends at the full count, cut off at the limit. The order
of the names in objects makes no difference, and neither does the place where the counting stops: a
loop that goes on past the limit ends at the same number. So a document is over the limit by its
number of nodes alone. -/
theorem countNodes_exact :
    (∀ (doc : Doc) (limit count : Nat), count ≤ limit →
      doc.countNodes limit count = min limit (count + doc.nodes)) ∧
    (∀ (doc other : Doc) (limit count : Nat), doc.WellFormed → doc.Permuted other →
      doc.countNodes limit count = other.countNodes limit count) ∧
    (∀ (limit count : Nat) (items : List Doc), countItems limit items count =
      items.foldl (fun count item => item.countNodes limit count) count) ∧
    (∀ (limit count : Nat) (fields : Fields Doc), countFields limit fields count =
      fields.foldl (fun count entry => entry.2.countNodes limit count) count) ∧
    ∀ (limits : Limits) (doc : Doc),
      limits.isExceededBy doc = true ↔ limits.maxNodes ≤ doc.nodes := by
  refine ⟨?_, ?_, ?_, ?_, ?_⟩
  · intro doc limit count within
    exact countNodes_eq_min doc within
  · intro doc other limit count formed permuted
    exact permuted.countNodes_eq formed limit count
  · intro limit count items
    exact countItems_eq_foldl limit items count
  · intro limit count fields
    exact countFields_eq_foldl limit fields count
  · intro limits doc
    exact Limits.isExceededBy_iff

section Web

private def webSpec : Doc :=
  .object [("host", .null), ("ports", .array [.string "http", .string "https"])]

private def webDoc : Doc := .object [("kind", .string "Web"), ("spec", webSpec)]

private def turnedWebDoc : Doc := .object [("spec", webSpec), ("kind", .string "Web")]

/-- The limit is reached between two fields, and with the fields turned round in front of the first
item of the list. -/
theorem countNodes_exact_web :
    2 ≤ 6 ∧ webDoc.nodes = 7 ∧ webDoc.countNodes 6 2 = min 6 (2 + webDoc.nodes) ∧
      webDoc.WellFormed ∧ webDoc.Permuted turnedWebDoc ∧
      webDoc.countNodes 6 2 = turnedWebDoc.countNodes 6 2 := by
  obtain ⟨cut, turned, _⟩ := countNodes_exact
  have formed : webDoc.WellFormed := by decide
  have permuted : webDoc.Permuted turnedWebDoc :=
    Permuted.swap (by decide) (Permuted.refl _) (Permuted.refl _)
  exact ⟨by decide, by decide, cut webDoc 6 2 (by decide), formed, permuted,
    turned webDoc turnedWebDoc 6 2 formed permuted⟩

end Web

end Doc

end Reconcile
