import Reconcile.Json.Reader

/-!
# Quoted text reads back

Every character, quotes, backslashes and control characters included, is escaped to something that
`readString` reads as that character (`readString_escape`), so quoted text is read as it was before
quoting (`readString_quoted`).
-/
namespace Reconcile.Json

theorem hexValue?_hexDigit : ∀ n < 16, hexValue? (hexDigit n) = some n := by
  decide

theorem hexUnit?_hexDigit {n : Nat} (small : n < 256) :
    hexUnit? '0' '0' (hexDigit (n / 16)) (hexDigit (n % 16)) = some n := by
  have zero : hexValue? '0' = some 0 := by decide
  have high := hexValue?_hexDigit (n / 16) (by omega)
  have low := hexValue?_hexDigit (n % 16) (by omega)
  unfold hexUnit?
  rw [zero, high, low]
  dsimp only [Option.bind_eq_bind, Option.bind_some, Option.pure_def]
  congr 1
  omega

theorem readString_close (seen rest : List Char) :
    readString seen ('"' :: rest) = some (String.ofList seen.reverse, rest) := by
  rw [readString.eq_def]
  dsimp only
  rw [if_pos rfl]

theorem readString_letter {letter c : Char} (notUnit : letter ≠ 'u')
    (short : unescape? letter = some c) (seen rest : List Char) :
    readString seen ('\\' :: letter :: rest) = readString (c :: seen) rest := by
  rw [readString.eq_def]
  dsimp only
  rw [if_neg (by decide), if_pos rfl, if_neg notUnit, short]

theorem readString_unit {h₁ h₂ h₃ h₄ : Char} {unit : Nat} (value : hexUnit? h₁ h₂ h₃ h₄ = some unit)
    (low : unit < 0xD800) (seen rest : List Char) :
    readString seen ('\\' :: 'u' :: h₁ :: h₂ :: h₃ :: h₄ :: rest) =
      readString (Char.ofNat unit :: seen) rest := by
  rw [readString.eq_def]
  dsimp only
  rw [if_neg (by decide), if_pos rfl, if_pos rfl, value]
  dsimp only
  rw [if_neg (by omega), if_neg (by omega)]

theorem readString_plain {c : Char} (quote : c ≠ '"') (backslash : c ≠ '\\') (printable : 32 ≤ c.toNat)
    (seen rest : List Char) : readString seen (c :: rest) = readString (c :: seen) rest := by
  rw [readString.eq_def]
  dsimp only
  rw [if_neg quote, if_neg backslash, if_neg (by omega)]

theorem readString_escape (c : Char) (seen rest : List Char) :
    readString seen (escape c ++ rest) = readString (c :: seen) rest := by
  unfold escape
  split
  case isTrue equal =>
    subst equal
    exact readString_letter (by decide) (by decide) seen rest
  case isFalse quote =>
    split
    case isTrue equal =>
      subst equal
      exact readString_letter (by decide) (by decide) seen rest
    case isFalse backslash =>
      repeat' split
      case isFalse.isFalse.isFalse.isFalse.isFalse.isTrue control =>
        have reads := readString_unit (hexUnit?_hexDigit (show c.toNat < 256 by omega)) (by omega)
          seen rest
        rw [Char.ofNat_toNat] at reads
        exact reads
      case isFalse.isFalse.isFalse.isFalse.isFalse.isFalse raw =>
        exact readString_plain quote backslash (by omega) seen rest
      all_goals
        next equal =>
          subst equal
          exact readString_letter (by decide) (by decide) seen rest

/-- Text in quotes is read up to the closing quote. -/
theorem readString_quoted (text seen rest : List Char) :
    readString seen (text.flatMap escape ++ '"' :: rest) =
      some (String.ofList (seen.reverse ++ text), rest) := by
  induction text generalizing seen with
  | nil =>
    rw [List.append_nil]
    exact readString_close seen rest
  | cons c text ih =>
    rw [List.flatMap_cons, List.append_assoc, readString_escape, ih, List.reverse_cons,
      List.append_assoc, List.singleton_append]

theorem readString_toList (s : String) (rest : List Char) :
    readString [] (s.toList.flatMap escape ++ '"' :: rest) = some (s, rest) := by
  rw [readString_quoted, List.reverse_nil, List.nil_append, String.ofList_toList]

end Reconcile.Json
