import Reconcile.Proofs.Change.Between

/-!
# When nothing is counted

A comparison counts nothing exactly when the two documents are equal (`isNoop_between_iff`). The
counts of the names of two objects are natural numbers that are added, so nothing is counted in all
only where every name counts for nothing, and then each is on both sides with equal values. A count
can be told from its text (`render_injective`), so the text tells whether anything was counted.
-/
namespace Reconcile.ChangeCount

open Doc (Equal)

theorem isNoop_iff {count : ChangeCount} : count.isNoop = true ↔ count = 0 := by
  simp [isNoop, ChangeCount.ext_iff, and_assoc]

/-- All that a count counts. -/
def total : ChangeCount →+ Nat where
  toFun count := count.adds + count.updates + count.removes
  map_zero' := rfl
  map_add' a b := by
    simp
    omega

theorem total_eq_zero_iff {count : ChangeCount} : total count = 0 ↔ count = 0 := by
  change count.adds + count.updates + count.removes = 0 ↔ count = 0
  simp [ChangeCount.ext_iff, and_assoc]

theorem sum_eq_zero_iff {names : Finset String} {change : String → ChangeCount} :
    ∑ name ∈ names, change name = 0 ↔ ∀ name ∈ names, change name = 0 := by
  rw [← total_eq_zero_iff, map_sum, Finset.sum_eq_zero_iff]
  simp only [total_eq_zero_iff]

theorem entryChange_eq_zero_iff {new old : Option Doc}
    (each : ∀ x y, new = some x → old = some y → (between x y = 0 ↔ Equal x y)) :
    entryChange new old = 0 ↔ Option.Rel Equal new old := by
  cases new with
  | none =>
    cases old with
    | none => simp [entryChange]
    | some y => simp [entryChange, ChangeCount.ext_iff]
  | some x =>
    cases old with
    | none => simp [entryChange, ChangeCount.ext_iff]
    | some y => simpa [entryChange] using each x y rfl rfl

theorem between_array_eq_zero_iff {xs ys : List Doc} :
    between (.array xs) (.array ys) = 0 ↔ (Doc.array xs).same (.array ys) = true := by
  rw [between, Doc.same, Doc.sameItems_iff, ChangeCount.ext_iff]
  simp only [adds_zero, updates_zero, removes_zero, List.countP_eq_zero, Bool.not_eq_true',
    Bool.not_eq_false]
  constructor
  · rintro ⟨fewer, each, more⟩
    constructor
    · omega
    · exact each
  · rintro ⟨length, each⟩
    refine ⟨?_, each, ?_⟩
    · omega
    · omega

theorem between_eq_zero_iff {target base : Doc} (formed : target.WellFormed)
    (formed' : base.WellFormed) : between target base = 0 ↔ Equal target base := by
  induction target, base using pair_induction with
  | plain target base plain =>
    rw [between_plain plain, ← Doc.same_iff_equal formed formed']
    split
    · next same => exact iff_of_true rfl same
    · next differs => simp [differs, ChangeCount.ext_iff]
  | array xs ys => rw [between_array_eq_zero_iff, Doc.same_iff_equal formed formed']
  | object target base ih =>
    rw [between_object formed formed', sum_eq_zero_iff,
      Doc.equal_object_iff formed.nodup_names formed'.nodup_names]
    have each (name : String) :
        entryChange (target.get? name) (base.get? name) = 0 ↔
          Option.Rel Equal (target.get? name) (base.get? name) :=
      entryChange_eq_zero_iff fun x y left right =>
        ih name x left y (formed.of_get? left) (formed'.of_get? right)
    simp only [each]
    constructor
    · intro counted name
      by_cases member : name ∈ target.keys.toFinset ∪ base.keys.toFinset
      · exact counted name member
      · -- A name that neither object has is not summed over, and is alike on both sides.
        simp only [Finset.mem_union, List.mem_toFinset, not_or] at member
        rw [Fields.get?_eq_none_iff.mpr member.1, Fields.get?_eq_none_iff.mpr member.2]
        exact .none
    · exact fun equal name _ => equal name

theorem isNoop_between_iff {target base : Doc} (formed : target.WellFormed)
    (formed' : base.WellFormed) : (between target base).isNoop = true ↔ Equal target base := by
  rw [isNoop_iff, between_eq_zero_iff formed formed']

section Text

/-- Where a number is followed by something else than a digit, its text tells it. -/
theorem numeral_injective {a b : Nat} {rest rest' : List Char}
    (stop : ∀ c ∈ rest.head?, c.isDigit = false) (stop' : ∀ c ∈ rest'.head?, c.isDigit = false)
    (equal : Nat.toDigits 10 a ++ rest = Nat.toDigits 10 b ++ rest') : a = b ∧ rest = rest' := by
  have digits (n : Nat) : ∀ c ∈ Nat.toDigits 10 n, c.isDigit = true :=
    fun c member => Nat.isDigit_of_mem_toDigits (by decide) (Nat.le_refl 10) member
  have spans := congrArg Decimal.spanDigits equal
  rw [Decimal.spanDigits_append (digits a) stop, Decimal.spanDigits_append (digits b) stop',
    Prod.mk.injEq] at spans
  constructor
  · calc
      a = Decimal.valueOfDigits (Nat.toDigits 10 a) := (Decimal.valueOfDigits_toDigits a).symm
      _ = Decimal.valueOfDigits (Nat.toDigits 10 b) := by rw [spans.1]
      _ = b := Decimal.valueOfDigits_toDigits b
  · exact spans.2

theorem toList_render (count : ChangeCount) :
    count.render.toList =
      Nat.toDigits 10 count.adds ++ (" adds, ".toList ++
        (Nat.toDigits 10 count.updates ++ (" updates, ".toList ++
          (Nat.toDigits 10 count.removes ++ " removes".toList)))) := by
  simp [render]

theorem render_injective : Function.Injective render := by
  intro a b equal
  have texts := congrArg String.toList equal
  rw [toList_render, toList_render] at texts
  obtain ⟨adds, texts⟩ := numeral_injective (by simp) (by simp) texts
  obtain ⟨updates, texts⟩ := numeral_injective (by simp) (by simp) (List.append_cancel_left texts)
  obtain ⟨removes, _⟩ := numeral_injective (by simp) (by simp) (List.append_cancel_left texts)
  ext
  · exact adds
  · exact updates
  · exact removes

end Text

end Reconcile.ChangeCount
