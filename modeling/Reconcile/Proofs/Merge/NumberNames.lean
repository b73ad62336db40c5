import Reconcile.Proofs.Json.Numeral
import Reconcile.Proofs.Merge.KeyedResult
import Reconcile.Proofs.Number.Value

/-!
# Elements named by numbers

The identity of a number is the text of its `plain` form, in which an integral double below
`identityLimit` is the integer (`identityText_number`). No two numbers have one text, so two numbers
name one element exactly when they have one plain form, which is `SameName`.
-/
namespace Reconcile

namespace Number

theorem write_injective (layout : Layout) : Function.Injective (write layout) := by
  intro a b same
  have ends : Json.EndsNumeral [] := nofun
  have reads := Json.readNumber_write layout a ends
  rw [same, Json.readNumber_write layout b ends] at reads
  cases reads
  rfl

theorem fits_of_small {whole : Int} (small : whole.natAbs < identityLimit) :
    -2 ^ 63 ≤ whole ∧ whole < 2 ^ 64 := by
  unfold identityLimit at small
  omega

/-- The number whose text names an element: an integral double below the limit gives way to the
integer. -/
def plain : Number → Number
  | .int value fits => .int value fits
  | .double d =>
    match d.toInt? with
    | some whole =>
      if small : whole.natAbs < identityLimit then .int whole (fits_of_small small) else .double d
    | none => .double d

theorem plain_small {d : Double} {whole : Int} (integral : d.toInt? = some whole)
    (small : whole.natAbs < identityLimit) :
    (double d).plain = .int whole (fits_of_small small) := by
  simp only [plain, integral, dif_pos small]

/-- A double is plain unless it is a small integer. -/
theorem plain_double_cases (d : Double) :
    (∃ whole fits, d.toInt? = some whole ∧ whole.natAbs < identityLimit ∧
      (double d).plain = .int whole fits) ∨
    (∀ whole, d.toInt? = some whole → identityLimit ≤ whole.natAbs) ∧
      (double d).plain = .double d := by
  cases integral : d.toInt? with
  | none => exact .inr ⟨nofun, by simp only [plain, integral]⟩
  | some whole =>
    by_cases small : whole.natAbs < identityLimit
    · exact .inl ⟨whole, fits_of_small small, rfl, small, plain_small integral small⟩
    · refine .inr ⟨fun other found => ?_, by simp only [plain, integral, dif_neg small]⟩
      cases found
      omega

theorem value_plain (a : Number) : a.plain.value = a.value := by
  cases a with
  | int value fits => rfl
  | double d =>
    rcases plain_double_cases d with ⟨whole, fits, integral, _, plain⟩ | ⟨_, plain⟩
    · rw [plain]
      exact (value_double_eq_iff.mpr integral).symm
    · rw [plain]

/-- Two numbers name one element: they are equal, and of one kind or below the limit. -/
def SameName (a b : Number) : Prop :=
  a.value = b.value ∧ (a.isDouble = b.isDouble ∨ |a.value| < identityLimit)

theorem sameName_comm {a b : Number} : SameName a b ↔ SameName b a := by
  have symm {a b : Number} (same : SameName a b) : SameName b a := by
    obtain ⟨value, kind⟩ := same
    exact ⟨value.symm, value ▸ kind.imp_left Eq.symm⟩
  exact ⟨symm, symm⟩

theorem plain_int_eq_iff {whole : Int} {fits : -2 ^ 63 ≤ whole ∧ whole < 2 ^ 64} {d : Double} :
    (int whole fits).plain = (double d).plain ↔ SameName (.int whole fits) (.double d) := by
  have small : |(whole : ℚ)| < identityLimit ↔ whole.natAbs < identityLimit := by
    rw [← Int.cast_abs, Int.abs_eq_natAbs]
    exact_mod_cast Iff.rfl
  have named : SameName (.int whole fits) (.double d) ↔
      d.toInt? = some whole ∧ whole.natAbs < identityLimit := by
    rw [SameName, eq_comm, ← small, ← value_double_eq_iff]
    simp
  rw [named]
  constructor
  · intro equal
    rcases plain_double_cases d with ⟨other, _, integral, below, plain⟩ | ⟨_, plain⟩
    · rw [plain] at equal
      cases equal
      exact ⟨integral, below⟩
    · rw [plain] at equal
      cases equal
  · rintro ⟨integral, below⟩
    exact (plain_small integral below).symm

/-- The two zeros are different doubles of one value, and both are plainly the integer. -/
theorem plain_double_congr {a b : Double} (same : a.toUnits = b.toUnits) :
    (double a).plain = (double b).plain := by
  by_cases zero : a.toUnits = 0
  · have integral {d : Double} (zero : d.toUnits = 0) : d.toInt? = some 0 := by
      rw [Double.toInt?_eq_some_iff, zero, Int.zero_mul]
    rw [plain_small (integral zero) (by decide), plain_small (integral (same ▸ zero)) (by decide)]
  · rw [Double.eq_of_toUnits_eq same zero]

theorem plain_eq_iff {a b : Number} : a.plain = b.plain ↔ SameName a b := by
  cases a with
  | int x fits =>
    cases b with
    | int y fits' => simp [plain, SameName]
    | double e => exact plain_int_eq_iff
  | double d =>
    cases b with
    | int y fits => rw [eq_comm, sameName_comm, plain_int_eq_iff]
    | double e =>
      constructor
      · intro equal
        refine ⟨?_, .inl rfl⟩
        rw [← value_plain, equal, value_plain]
      · rintro ⟨equal, _⟩
        exact plain_double_congr (value_double_inj.mp equal)

theorem identityText_number (a : Number) :
    (Doc.number a).identityText = String.ofList (a.plain.write Json.layout) := by
  have text (number : Number) :
      Json.compact (.number number) = String.ofList (number.write Json.layout) := by
    rw [Json.compact, Json.write, List.append_nil]
  cases a with
  | int value fits => exact text _
  | double d =>
    cases integral : d.toInt? with
    | none => simp only [Doc.identityText, plain, integral, text]
    | some whole =>
      by_cases small : whole.natAbs < identityLimit
      · simp only [Doc.identityText, plain, integral, if_pos small, dif_pos small, write]
      · simp only [Doc.identityText, plain, integral, if_neg small, dif_neg small, text]

theorem identityText_number_eq_iff {a b : Number} :
    (Doc.number a).identityText = (Doc.number b).identityText ↔ SameName a b := by
  rw [identityText_number, identityText_number, ← plain_eq_iff, String.ofList_inj,
    (write_injective Json.layout).eq_iff]

end Number

open Number (SameName)

section Elements

variable {path : Path} {key : String} {current lastApplied desired out : List Doc}

theorem identity_eq_iff_sameName {x y : Doc} {a b : Number} (named : x.get? key = some (.number a))
    (named' : y.get? key = some (.number b)) :
    x.identity key = y.identity key ↔ SameName a b := by
  rw [Doc.identity, Doc.identity, named, named']
  exact Number.identityText_number_eq_iff

/-- Every element of the lists is named by a number. -/
def Numbered (key : String) (items : List Doc) : Prop :=
  ∀ item ∈ items, ∃ number, item.get? key = some (.number number)

/-- An element that comes out is named by a number, and still has its identity. -/
theorem BecomesElement.numbered {identity : String} {element : Doc}
    (numbered : Numbered key (current ++ desired)) (wellFormed : ∀ item ∈ desired, item.WellFormed)
    (becomes : BecomesElement path key current lastApplied desired identity element) :
    (∃ number, element.get? key = some (.number number)) ∧ element.identity key = identity := by
  have carried : ∀ item ∈ current ++ desired, (item.get? key).isSome = true := fun item listed => by
    obtain ⟨number, found⟩ := numbered item listed
    rw [found, Option.isSome_some]
  have scalar : ∀ item ∈ current, ((item.get? key).getD .null).isScalar = true :=
    fun item listed => by
      obtain ⟨number, found⟩ := numbered item (List.mem_append_left desired listed)
      rw [found]
      rfl
  obtain ⟨item, listed, _, value, stored, same⟩ :=
    BecomesElement.exists_listed carried wellFormed becomes
  obtain ⟨number, found⟩ := numbered item listed
  constructor
  · exact ⟨number, by rw [stored, ← same scalar, found]⟩
  · exact (BecomesElement.carries carried wellFormed becomes).2 scalar

/-- What comes out of a merge of elements named by numbers has every desired number once. -/
theorem reviseElements_numbered (numbered : Numbered key (current ++ desired))
    (wellFormed : ∀ item ∈ desired, item.WellFormed)
    (success : reviseElements path key current lastApplied
      (desired.map fun item => (item, item.revision)) = .ok out) :
    out.Pairwise (fun x y => ∀ a b, x.get? key = some (.number a) →
      y.get? key = some (.number b) → ¬ SameName a b) ∧
    ∀ item ∈ desired, ∀ b, item.get? key = some (.number b) →
      ∃ element ∈ out, ∃ a, element.get? key = some (.number a) ∧ SameName a b := by
  obtain ⟨element?, spec⟩ := reviseElements_success success
  have each := spec.forall₂_becomes.flip.imp fun element identity becomes =>
    BecomesElement.numbered numbered wellFormed becomes
  have named : ∀ element ∈ out, ∃ number, element.get? key = some (.number number) :=
    ((List.forall₂_and_left _ _).mp each).1
  have identities : out.map (·.identity key) = mergedIdentities key current lastApplied desired := by
    rw [← List.forall₂_eq_eq_eq, List.forall₂_map_left_iff]
    exact each.imp fun element identity both => both.2
  constructor
  · have distinct : (out.map (·.identity key)).Nodup := identities ▸ nodup_mergedIdentities
    refine (List.pairwise_map.mp distinct).imp fun apart a b left right same => ?_
    exact apart ((identity_eq_iff_sameName left right).mpr same)
  · intro item member b held
    have listed : item.identity key ∈ out.map (·.identity key) := by
      rw [identities, mem_mergedIdentities]
      exact .inl (mem_identities.mpr ⟨item, member, rfl⟩)
    obtain ⟨element, inside, equal⟩ := List.mem_map.mp listed
    obtain ⟨a, stored⟩ := named element inside
    exact ⟨element, inside, a, stored, (identity_eq_iff_sameName stored held).mp equal⟩

end Elements

/-- Two numbers have one identity exactly when they are equal, and of one kind or below `10 ^ 15` in
magnitude. So it is with two elements that they name, and a merge of elements named by numbers gives
every desired number, and no number twice. -/
theorem sameName_exact (a b : Number) :
    ((Doc.number a).identityText = (Doc.number b).identityText ↔
      a.value = b.value ∧ (a.isDouble = b.isDouble ∨ |a.value| < 10 ^ 15)) ∧
    (∀ (key : String) (x y : Doc), x.get? key = some (.number a) →
      y.get? key = some (.number b) → (x.identity key = y.identity key ↔ SameName a b)) ∧
    ∀ (path : Path) (key : String) (current lastApplied desired out : List Doc),
      Numbered key (current ++ desired) → (∀ item ∈ desired, item.WellFormed) →
      reviseElements path key current lastApplied
        (desired.map fun item => (item, item.revision)) = .ok out →
      out.Pairwise (fun x y => x.get? key = some (.number a) → y.get? key = some (.number b) →
        ¬ SameName a b) ∧
      ∀ item ∈ desired, item.get? key = some (.number a) →
        ∃ element ∈ out, ∃ c, element.get? key = some (.number c) ∧ SameName c a := by
  refine ⟨?_, ?_, ?_⟩
  · have limit : (identityLimit : ℚ) = 10 ^ 15 := by
      unfold identityLimit
      push_cast
      rfl
    rw [Number.identityText_number_eq_iff, SameName, limit]
  · intro key x y named named'
    exact identity_eq_iff_sameName named named'
  · intro path key current lastApplied desired out numbered wellFormed success
    obtain ⟨apart, present⟩ := reviseElements_numbered numbered wellFormed success
    constructor
    · exact apart.imp fun distinct => distinct a b
    · intro item member named
      exact present item member a named

section Ports

private def numberedPort (port : Number) (name : String) : Doc :=
  .object [("port", .number port), ("name", .string name)]

/-- The double that is 389. -/
private def floating : Double := ⟨false, 389 * 2 ^ 44, 1030, by decide, by decide, by decide⟩

/-- The double that is `10 ^ 15`. -/
private def firstLarge : Double := ⟨false, 10 ^ 15 * 2 ^ 3, 1071, by decide, by decide, by decide⟩

private def currentNumbers : List Doc :=
  [numberedPort (.int 389 (by decide)) "slapd", numberedPort (.double firstLarge) "far"]

private def desiredNumbers : List Doc := [numberedPort (.double floating) "ldap"]

private def mergedNumbers : List Doc :=
  [numberedPort (.double floating) "ldap", numberedPort (.double firstLarge) "far"]

/-- The double takes the place of the integer, and another one stays beside it. -/
theorem sameName_exact_ports :
    (numberedPort (.int 389 (by decide)) "slapd").identity "port" =
        (numberedPort (.double floating) "ldap").identity "port" ∧
      reviseElements .root "port" currentNumbers []
        (desiredNumbers.map fun item => (item, item.revision)) = .ok mergedNumbers ∧
      ∃ element ∈ mergedNumbers, ∃ a, element.get? "port" = some (.number a) ∧
        SameName a (.double floating) := by
  obtain ⟨_, elements, _⟩ := sameName_exact (.int 389 (by decide)) (.double floating)
  obtain ⟨_, _, merges⟩ := sameName_exact (.double floating) (.int 389 (by decide))
  have integral : floating.toInt? = some 389 := by decide +kernel
  have same : SameName (.int 389 (by decide)) (.double floating) :=
    Number.plain_int_eq_iff.mp (Number.plain_small integral (by decide)).symm
  have numbered : Numbered "port" (currentNumbers ++ desiredNumbers) := by
    simp [Numbered, currentNumbers, desiredNumbers, numberedPort, Doc.get?, Fields.get?_cons]
  have success : reviseElements .root "port" currentNumbers []
      (desiredNumbers.map fun item => (item, item.revision)) = .ok mergedNumbers :=
    ok_of_toOption (by decide +kernel)
  obtain ⟨_, present⟩ := merges _ _ _ _ _ _ numbered (by decide) success
  exact ⟨(elements "port" _ _ rfl rfl).mpr same, success, present _ List.mem_cons_self rfl⟩

private def largePort : Number := .int (10 ^ 15) (by decide)

/-- From `10 ^ 15` on, an integer and the double equal to it name two elements. -/
theorem sameName_large :
    largePort.value = (Number.double firstLarge).value ∧
      (Doc.number largePort).identityText ≠ (Doc.number (.double firstLarge)).identityText ∧
      merge (.array [numberedPort (.double firstLarge) "far"]) none
          (.array [numberedPort largePort "near"]) =
        .ok (.array [numberedPort (.double firstLarge) "far", numberedPort largePort "near"]) := by
  have integral : firstLarge.toInt? = some (10 ^ 15) := by decide +kernel
  exact ⟨(Number.value_double_eq_iff.mpr integral).symm, by decide +kernel,
    ok_of_toOption (by decide +kernel)⟩

end Ports

end Reconcile
