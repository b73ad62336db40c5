import Reconcile.Input

/-!
# What is read has distinct names

No document that is read repeats a name in an object (`Limits.wellFormed_readDoc`). Keys that differ
as values can fall together as names, so this is the work of `Fields.ofList` at each mapping and not
of the reader, which only tells keys apart as values.
-/
namespace Reconcile

namespace Yaml.Value

mutual

theorem wellFormed_of_toDoc? {doc : Doc} :
    (value : Value) → value.toDoc? = some doc → doc.WellFormed
  | .scalar value, read => by
    cases read
    cases value with
    | _ => rfl
  | .sequence items, read => by
    obtain ⟨docs, each, rfl⟩ := Option.map_eq_some_iff.mp read
    exact Doc.wellFormed_array_iff.mpr (wellFormed_of_toDocs? items each)
  | .mapping entries, read => by
    obtain ⟨fields, each, rfl⟩ := Option.map_eq_some_iff.mp read
    refine Doc.wellFormed_object_iff.mpr ⟨Fields.nodup_keys_ofList fields, fun entry member => ?_⟩
    exact wellFormed_of_toFields? entries each entry (Fields.mem_ofList member)
  | .tagged label value, read => by
    obtain ⟨doc, inner, rfl⟩ := Option.map_eq_some_iff.mp read
    have formed := wellFormed_of_toDoc? value inner
    simp [Doc.wellFormed_object_iff, formed]

theorem wellFormed_of_toDocs? {docs : List Doc} :
    (items : List Value) → toDocs? items = some docs → ∀ doc ∈ docs, doc.WellFormed
  | [], read => by
    cases read
    exact nofun
  | item :: rest, read => by
    rw [toDocs?] at read
    split at read
    · next doc docs first others =>
      cases read
      exact List.forall_mem_cons.mpr
        ⟨wellFormed_of_toDoc? item first, wellFormed_of_toDocs? rest others⟩
    · cases read

theorem wellFormed_of_toFields? {fields : List (String × Doc)} :
    (entries : List (Value × Value)) → toFields? entries = some fields →
      ∀ entry ∈ fields, entry.2.WellFormed
  | [], read => by
    cases read
    exact nofun
  | (key, value) :: rest, read => by
    rw [toFields?] at read
    split at read
    · next name doc fields _ first others =>
      cases read
      exact List.forall_mem_cons.mpr
        ⟨wellFormed_of_toDoc? value first, wellFormed_of_toFields? rest others⟩
    · cases read

end

end Yaml.Value

namespace Limits

variable {limits : Limits} {text : String} {doc : Doc}

/-- A document that is read is within both limits. -/
theorem readDoc_success (read : limits.readDoc text = .ok doc) :
    text.utf8ByteSize ≤ limits.maxBytes ∧ limits.isExceededBy doc = false ∧
      ∃ value, Yaml.read? text = some value ∧ value.toDoc? = some doc := by
  unfold readDoc at read
  simp only [bind, Except.bind, throw, throwThe, MonadExceptOf.throw, pure, Except.pure] at read
  split at read
  · cases read
  · next small =>
    split at read
    · next value valueRead =>
      split at read
      · next result converted =>
        split at read
        · cases read
        · next simple =>
          cases read
          exact ⟨Nat.le_of_not_lt small, Bool.eq_false_iff.mpr simple, value, valueRead, converted⟩
      · cases read
    · cases read

theorem wellFormed_readDoc (read : limits.readDoc text = .ok doc) : doc.WellFormed := by
  obtain ⟨_, _, value, _, converted⟩ := readDoc_success read
  exact Yaml.Value.wellFormed_of_toDoc? value converted

end Limits

end Reconcile
