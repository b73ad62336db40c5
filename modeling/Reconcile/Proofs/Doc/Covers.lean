import Reconcile.Proofs.Doc.WellKeyed

/-!
# Documents that hold what is desired

A document covers a desired one when it has every desired field and value, whatever else it has.
A list covers another that it equals, or one that can be read by the same identity field, if each
desired element is covered by some element. `Covers` asks for null where null is desired; `Satisfies`
is content with all that a merge leaves standing there, and the two agree on documents without null
(`satisfies_iff_covers`). `EmptyAtNull` names the one thing that may stand there and that another merge
would still replace: an empty list.
-/
namespace Reconcile.Doc

mutual

/-- Does `held` have what is desired? Where null is desired, `atNull` decides. -/
def coveredBy (atNull : Doc → Bool) : (desired held : Doc) → Bool
  | .null, held => atNull held
  | .object fields, .object own => fieldsCoveredBy atNull fields own
  | .array items, .array own =>
    decide (own = items) ||
      (identityKeys.any fun key => allCarry key (own ++ items)) && itemsCoveredBy atNull items own
  | desired, held => decide (held = desired)
termination_by structural desired => desired

def fieldsCoveredBy (atNull : Doc → Bool) : List (String × Doc) → Fields Doc → Bool
  | [], _ => true
  | (key, value) :: rest, own =>
    (own.get? key).any (value.coveredBy atNull) && fieldsCoveredBy atNull rest own
termination_by structural fields => fields

def itemsCoveredBy (atNull : Doc → Bool) : List Doc → List Doc → Bool
  | [], _ => true
  | item :: rest, own => own.any (item.coveredBy atNull) && itemsCoveredBy atNull rest own
termination_by structural items => items

end

/-- What a merge may leave where null is desired: null itself, an object, or a list that can be read
by identity. -/
def standsForNull : Doc → Bool
  | .null | .object _ => true
  | .array items => identityKeys.any fun key => allCarry key items
  | _ => false

/-- The document has every desired field and value. -/
def Covers (held desired : Doc) : Prop := desired.coveredBy (fun held => decide (held = .null)) held

instance (held desired : Doc) : Decidable (held.Covers desired) :=
  inferInstanceAs (Decidable (_ = true))

/-- The document has every desired field and value, where null is no demand. -/
def Satisfies (held desired : Doc) : Prop := desired.coveredBy standsForNull held

instance (held desired : Doc) : Decidable (held.Satisfies desired) :=
  inferInstanceAs (Decidable (_ = true))

section CoveredBy

variable {atNull : Doc → Bool} {desired held : Doc}

theorem fieldsCoveredBy_iff {fields : List (String × Doc)} {own : Fields Doc} :
    fieldsCoveredBy atNull fields own = true ↔
      ∀ entry ∈ fields, ∃ inner, own.get? entry.1 = some inner ∧
        entry.2.coveredBy atNull inner = true := by
  induction fields with
  | nil => simp [fieldsCoveredBy]
  | cons entry rest ih =>
    obtain ⟨key, value⟩ := entry
    rw [fieldsCoveredBy, Bool.and_eq_true, ih, List.forall_mem_cons, Option.any_eq_true]

theorem itemsCoveredBy_iff {items own : List Doc} :
    itemsCoveredBy atNull items own = true ↔
      ∀ item ∈ items, ∃ inner ∈ own, item.coveredBy atNull inner = true := by
  induction items with
  | nil => simp [itemsCoveredBy]
  | cons item rest ih =>
    rw [itemsCoveredBy, Bool.and_eq_true, ih, List.forall_mem_cons, List.any_eq_true]

theorem coveredBy_object_iff {fields : Fields Doc} (nodup : fields.keys.Nodup) :
    (object fields).coveredBy atNull held = true ↔
      ∃ own : Fields Doc, held = .object own ∧ ∀ key value, fields.get? key = some value →
        ∃ inner, own.get? key = some inner ∧ value.coveredBy atNull inner = true := by
  cases held with
  | object own =>
    rw [coveredBy, fieldsCoveredBy_iff]
    constructor
    · intro each
      exact ⟨own, rfl, fun key value found => each (key, value) (Fields.mem_of_get? found)⟩
    · rintro ⟨_, equal, each⟩ ⟨key, value⟩ member
      cases equal
      exact each key value (Fields.get?_of_mem nodup member)
  | _ => simp [coveredBy]

theorem coveredBy_array_iff {items : List Doc} :
    (array items).coveredBy atNull held = true ↔
      held = .array items ∨ ∃ own key, held = .array own ∧ key ∈ identityKeys ∧
        allCarry key (own ++ items) = true ∧
        ∀ item ∈ items, ∃ inner ∈ own, item.coveredBy atNull inner = true := by
  cases held with
  | array own =>
    rw [coveredBy, Bool.or_eq_true, Bool.and_eq_true, itemsCoveredBy_iff, List.any_eq_true,
      decide_eq_true_iff, Doc.array.injEq]
    refine or_congr_right ⟨?_, ?_⟩
    · rintro ⟨⟨key, known, carried⟩, each⟩
      exact ⟨own, key, rfl, known, carried, each⟩
    · rintro ⟨_, key, equal, known, carried, each⟩
      cases equal
      exact ⟨⟨key, known, carried⟩, each⟩
  | _ => simp [coveredBy]

theorem coveredBy_self (selfNull : atNull .null = true) {doc : Doc} (wellFormed : doc.WellFormed) :
    doc.coveredBy atNull doc = true := by
  induction doc using Doc.induction_inside with
  | step doc fields _ =>
    cases doc with
    | null => exact selfNull
    | object own =>
      refine (coveredBy_object_iff wellFormed.nodup_names).mpr ⟨own, rfl, fun key value found => ?_⟩
      exact ⟨value, found, fields key value found (wellFormed.of_get? found)⟩
    | array items => exact coveredBy_array_iff.mpr (.inl rfl)
    | _ => simp [coveredBy]

/-- Without null it does not matter what may stand for it. -/
theorem coveredBy_of_nullFree {other : Doc → Bool} (wellFormed : desired.WellFormed)
    (nullFree : desired.NullFree) (h : desired.coveredBy atNull held = true) :
    desired.coveredBy other held = true := by
  induction desired using Doc.induction_inside generalizing held with
  | step desired fields items =>
    cases desired with
    | null => exact absurd nullFree not_nullFree_null
    | object wanted =>
      have nodup : (Fields.keys wanted).Nodup := wellFormed.nodup_names
      obtain ⟨own, rfl, each⟩ := (coveredBy_object_iff nodup).mp h
      refine (coveredBy_object_iff nodup).mpr ⟨own, rfl, fun key value found => ?_⟩
      obtain ⟨inner, present, covered⟩ := each key value found
      exact ⟨inner, present, fields key value found (wellFormed.of_get? found)
        (nullFree.of_get? found) covered⟩
    | array wanted =>
      refine coveredBy_array_iff.mpr ((coveredBy_array_iff.mp h).imp_right ?_)
      rintro ⟨own, key, rfl, known, carried, each⟩
      refine ⟨own, key, rfl, known, carried, fun item member => ?_⟩
      obtain ⟨inner, present, covered⟩ := each item member
      exact ⟨inner, present,
        items item member (wellFormed.of_mem member) (nullFree.of_mem member) covered⟩
    | _ => simpa [coveredBy] using h

end CoveredBy

theorem satisfies_iff_covers {held desired : Doc} (wellFormed : desired.WellFormed)
    (nullFree : desired.NullFree) : held.Satisfies desired ↔ held.Covers desired :=
  ⟨coveredBy_of_nullFree wellFormed nullFree, coveredBy_of_nullFree wellFormed nullFree⟩

namespace Satisfies

variable {held desired : Doc}

theorem refl {doc : Doc} (wellFormed : doc.WellFormed) : doc.Satisfies doc :=
  coveredBy_self rfl wellFormed

/-- A scalar satisfies nothing but itself. -/
theorem eq_of_scalar (h : held.Satisfies desired) (scalar : held.isScalar = true) :
    held = desired := by
  unfold Satisfies at h
  cases held with
  | array items => cases scalar
  | object fields => cases scalar
  | _ => cases desired <;> simp_all [coveredBy, standsForNull]

theorem get? {key : String} {value : Doc} (h : held.Satisfies desired)
    (wellFormed : desired.WellFormed) (found : desired.get? key = some value) :
    ∃ inner, held.get? key = some inner ∧ inner.Satisfies value := by
  cases desired with
  | object fields =>
    obtain ⟨own, rfl, each⟩ := (coveredBy_object_iff wellFormed.nodup_names).mp h
    exact each key value found
  | _ => cases found

/-- The elements that satisfy a desired element have its identity, as long as a scalar gives it. -/
theorem identity_eq {key : String} (h : held.Satisfies desired) (wellFormed : desired.WellFormed)
    (carried : (desired.get? key).isSome = true)
    (scalar : ((held.get? key).getD .null).isScalar = true) :
    held.identity key = desired.identity key := by
  obtain ⟨value, wanted⟩ := Option.isSome_iff_exists.mp carried
  obtain ⟨inner, present, satisfied⟩ := h.get? wellFormed wanted
  rw [present, Option.getD_some] at scalar
  rw [identity, identity, present, wanted, satisfied.eq_of_scalar scalar]

end Satisfies

/-- Somewhere null is desired where an empty list stands. What leads there are fields, and elements
of one identity in lists that can be read by it. -/
inductive EmptyAtNull : (held desired : Doc) → Prop where
  | here : EmptyAtNull (.array []) .null
  | field {held desired inner wanted : Doc} {key : String} (present : held.get? key = some inner)
      (found : desired.get? key = some wanted) (inside : EmptyAtNull inner wanted) :
      EmptyAtNull held desired
  | element {held desired : List Doc} {inner wanted : Doc} {key : String}
      (shared : sharedKey? [held, desired] = some key) (present : inner ∈ held)
      (found : wanted ∈ desired) (same : inner.identity key = wanted.identity key)
      (inside : EmptyAtNull inner wanted) : EmptyAtNull (.array held) (.array desired)

theorem EmptyAtNull.eq_of_null {held : Doc} (h : EmptyAtNull held .null) : held = .array [] := by
  cases h with
  | here => rfl
  | field _ found _ => cases found

theorem EmptyAtNull.not_nullFree {held desired : Doc} (h : EmptyAtNull held desired) :
    ¬ desired.NullFree := by
  induction h with
  | here => exact not_nullFree_null
  | field _ found _ ih => exact fun nullFree => ih (nullFree.of_get? found)
  | element _ _ found _ _ ih => exact fun nullFree => ih (nullFree.of_mem found)

theorem EmptyAtNull.not_scalar {held desired : Doc} (h : EmptyAtNull held desired) :
    held.isScalar = false := by
  cases h with
  | here => rfl
  | element => rfl
  | field present =>
    cases held with
    | object fields => rfl
    | _ => cases present

end Reconcile.Doc
