import Reconcile.Proofs.Input.NodeCount

/-!
# What the limits let through

A text that holds a document is answered by its bytes and by the nodes of the document alone
(`readDoc_eq`, `readDoc_answers`). The limit of bytes is the last number that is let through. The
limit of nodes is the first that is not, although the refusal speaks of more nodes
(`readDoc_full`).
-/
namespace Reconcile.Limits

section Answers

variable {limits : Limits} {text : String} {doc : Doc}

/-- The two limits are all that stands between a text that holds a document and the document. -/
theorem readDoc_eq (held : (Yaml.read? text).bind Yaml.Value.toDoc? = some doc) :
    limits.readDoc text =
      if limits.maxBytes < text.utf8ByteSize then .error (.tooLarge limits.maxBytes)
      else if limits.maxNodes ≤ doc.nodes then .error (.tooComplex limits.maxNodes)
      else .ok doc := by
  obtain ⟨value, read, converted⟩ := Option.bind_eq_some_iff.mp held
  unfold readDoc
  simp only [bind, Except.bind, throw, throwThe, MonadExceptOf.throw, pure, Except.pure, read,
    converted]
  by_cases large : limits.maxBytes < text.utf8ByteSize
  · rw [if_pos large, if_pos large]
  · rw [if_neg large, if_neg large]
    by_cases complex : limits.maxNodes ≤ doc.nodes
    · rw [if_pos complex, if_pos (isExceededBy_iff.mpr complex)]
    · rw [if_neg complex, if_neg (isExceededBy_iff.not.mpr complex)]

/-- The two messages already differ in their first words. -/
theorem message_tooComplex_ne (maxNodes maxBytes : Nat) :
    (Refusal.tooComplex maxNodes).message ≠ (Refusal.tooLarge maxBytes).message := by
  intro equal
  have words := congrArg (fun message => message.toList.take 14) equal
  unfold Refusal.message at words
  simp only [String.toList_append, List.append_assoc] at words
  rw [List.take_append_of_le_length (by decide), List.take_append_of_le_length (by decide)] at words
  revert words
  decide

/-- A text that holds a document is read exactly when its bytes are at most as many as the limit and
the nodes of the document fewer than the limit. Otherwise the bytes are refused if there are more of
them than the limit, and else the nodes, as soon as there are as many as the limit. -/
theorem readDoc_answers (limits : Limits)
    (held : (Yaml.read? text).bind Yaml.Value.toDoc? = some doc) :
    (limits.readDoc text = .ok doc ↔
      text.utf8ByteSize ≤ limits.maxBytes ∧ doc.nodes < limits.maxNodes) ∧
    ((limits.readDoc text).mapError Refusal.message =
        .error ("document too large (>" ++ toString limits.maxBytes ++ " bytes)") ↔
      limits.maxBytes < text.utf8ByteSize) ∧
    ((limits.readDoc text).mapError Refusal.message =
        .error ("document too complex (>" ++ toString limits.maxNodes ++ " nodes)") ↔
      text.utf8ByteSize ≤ limits.maxBytes ∧ limits.maxNodes ≤ doc.nodes) := by
  have apart := message_tooComplex_ne limits.maxNodes limits.maxBytes
  change _ ∧ (_ = Except.error (Refusal.tooLarge limits.maxBytes).message ↔ _) ∧
    (_ = Except.error (Refusal.tooComplex limits.maxNodes).message ↔ _)
  rw [readDoc_eq held]
  by_cases large : limits.maxBytes < text.utf8ByteSize
  · rw [if_pos large]
    refine ⟨iff_of_false nofun (by omega), iff_of_true rfl large, iff_of_false ?_ (by omega)⟩
    intro equal
    exact apart (Except.error.inj equal).symm
  · rw [if_neg large]
    by_cases complex : limits.maxNodes ≤ doc.nodes
    · rw [if_pos complex]
      refine ⟨iff_of_false nofun (by omega), iff_of_false ?_ large, iff_of_true rfl (by omega)⟩
      intro equal
      exact apart (Except.error.inj equal)
    · rw [if_neg complex]
      exact ⟨iff_of_true rfl (by omega), iff_of_false nofun large, iff_of_false nofun (by omega)⟩

end Answers

section List

private def listText : String := "a: [x, y, z]\n"

private def listDoc : Doc :=
  .object [("a", .array [.string "x", .string "y", .string "z"])]

/-- Thirteen bytes and five nodes, once with just enough room for them and once with one byte too
few. -/
theorem readDoc_answers_list :
    (Yaml.read? listText).bind Yaml.Value.toDoc? = some listDoc ∧
      readDoc ⟨13, 6⟩ listText = .ok listDoc ∧
      (readDoc ⟨12, 6⟩ listText).mapError Refusal.message =
        .error "document too large (>12 bytes)" := by
  have held : (Yaml.read? listText).bind Yaml.Value.toDoc? = some listDoc := by decide +kernel
  obtain ⟨room, _, _⟩ := readDoc_answers ⟨13, 6⟩ held
  obtain ⟨_, short, _⟩ := readDoc_answers ⟨12, 6⟩ held
  exact ⟨held, room.mpr (by decide), short.mpr (by decide)⟩

/-- Five nodes are refused as more than five. -/
theorem readDoc_full :
    (Yaml.read? listText).bind Yaml.Value.toDoc? = some listDoc ∧
      listText.utf8ByteSize ≤ 13 ∧ listDoc.nodes ≤ 5 ∧
      readDoc ⟨13, 5⟩ listText ≠ .ok listDoc ∧
      (readDoc ⟨13, 5⟩ listText).mapError Refusal.message =
        .error "document too complex (>5 nodes)" := by
  have held : (Yaml.read? listText).bind Yaml.Value.toDoc? = some listDoc := by decide +kernel
  have refused : readDoc ⟨13, 5⟩ listText = .error (.tooComplex 5) := readDoc_eq held
  rw [refused]
  exact ⟨held, by decide, by decide, nofun, rfl⟩

end List

end Reconcile.Limits
