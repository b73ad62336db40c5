import Reconcile.Proofs.Doc.Permuted
import Reconcile.Proofs.Marker.Annotations
import Reconcile.Proofs.Merge.Agree
import Reconcile.Proofs.Merge.Objects

/-!
# Markers of different names

Two markers share the annotations of an object and nothing else (`markers_independent`). Recording
under one and stripping it leave the annotation of the other alone, whatever stands there; snapshots
can be recorded under both in either order; and a reconcile step of one keeps the annotation of the
other, unless what the step desires or what it applied last has it. The last of these rests on what
a merge does along a path of desired objects (`mergeAt_getPath?_kept`): the stamp puts the
annotations into the desired document, so no step retracts them as a whole.
-/
namespace Reconcile.Marker

open Doc (Permuted AnnotationsAt withAnnotations)

variable {first second : Marker} {object out : Doc}

/-- Other annotations matter to a marker only if they change what stands where it is kept. -/
theorem held_withAnnotations {root metadata annotations others : Fields Doc}
    (held : AnnotationsAt object root metadata annotations)
    (same : others.get? second.key = annotations.get? second.key) :
    (withAnnotations root metadata others).getPath? second.path = object.getPath? second.path ∧
      second.retrieve (withAnnotations root metadata others) = second.retrieve object := by
  have found : (withAnnotations root metadata others).getPath? second.path =
      object.getPath? second.path := by
    unfold path
    rw [Doc.getPath?_withAnnotations, held.annotations, same]
  exact ⟨found, retrieve_eq found (held.describe_eq others)⟩

theorem held_record (apart : first.key ≠ second.key) {snapshot : Doc}
    (h : first.record object snapshot = .ok out) :
    out.getPath? second.path = object.getPath? second.path ∧
      second.retrieve out = second.retrieve object := by
  rcases record_success h with ⟨_, rfl⟩ | ⟨_, _, _, annotated⟩
  · exact ⟨rfl, rfl⟩
  · obtain ⟨_, _, _, held, rfl⟩ := Doc.exists_withAnnotations annotated
    exact held_withAnnotations held (Fields.get?_insert_of_ne apart.symm)

theorem held_strip (apart : first.key ≠ second.key) (object : Doc) :
    (first.strip object).getPath? second.path = object.getPath? second.path ∧
      second.retrieve (first.strip object) = second.retrieve object := by
  rcases first.strip_cases object with same | ⟨_, _, _, held, stripped⟩
  · rw [same]
    exact ⟨rfl, rfl⟩
  · rw [stripped]
    exact held_withAnnotations held (Fields.get?_erase_of_ne apart.symm)

/-- Both orders fail for the one reason that the object cannot be annotated, or write the same two
annotations. -/
theorem record_comm (apart : first.key ≠ second.key) (object : Doc)
    {snapshot₁ snapshot₂ : Fields Doc} (nonempty₁ : snapshot₁ ≠ []) (nonempty₂ : snapshot₂ ≠ []) :
    Agree Eq Permuted
      (first.record object (.object snapshot₁) >>= fun out =>
        second.record out (.object snapshot₂))
      (second.record object (.object snapshot₂) >>= fun out =>
        first.record out (.object snapshot₁)) := by
  have texts : ∀ (marker : Marker) (doc : Doc) {fields : Fields Doc}, fields ≠ [] →
      marker.record doc (.object fields) = doc.annotate marker.key (Json.compact (.object fields)) :=
    fun _ doc _ nonempty => record_object doc nonempty
  simp only [texts _ _ nonempty₁, texts _ _ nonempty₂]
  rcases object.annotate_cases with ⟨failure, refused⟩ | ⟨root, metadata, annotations, _, written⟩
  · rw [refused, refused]
    exact .error rfl
  · rw [written, written]
    simp only [bind, Except.bind, Doc.annotate_withAnnotations]
    exact .ok (.insert (.refl _) _ (.insert (.refl _) _ (.insert_comm annotations apart _ _)))

/-- A step keeps the annotation of another marker that it neither desires nor applied last. -/
theorem held_reconcile {desired : Fields Doc} {merged : Doc} (apart : first.key ≠ second.key)
    (wellFormed : (Doc.object desired).WellFormed) (nonempty : desired ≠ [])
    (h : first.reconcile object (.object desired) = .ok merged)
    (undesired : (Doc.object desired).getPath? second.path = none)
    (unapplied : ∀ last, first.retrieve object = .ok (some last) → last.getPath? second.path = none) :
    merged.getPath? second.path = object.getPath? second.path := by
  obtain ⟨lastApplied, stamped, retrieved, stamp, step⟩ := reconcile_success h
  have kept : stamped.getPath? second.path = (Doc.object desired).getPath? second.path :=
    (held_record apart stamp).1.trans (held_strip apart _).1
  have above : ∃ fields, stamped.getPath? ["metadata", "annotations"] = some (.object fields) := by
    obtain ⟨root, metadata, _, _, _, _, _, rfl⟩ := stamp_eq wellFormed (by simpa) stamp
    exact ⟨_, Doc.annotations_withAnnotations root metadata _⟩
  refine mergeAt_getPath?_kept (wellFormed_stamp wellFormed stamp) step above
    (kept.trans undesired) ?_
  cases lastApplied with
  | none => rfl
  | some last => exact unapplied last retrieved

/-- Markers of different names do not interfere. Recording under one and stripping it leave what the
other one holds, and so what it retrieves; snapshots can be recorded in either order, up to the order
of names, or in neither; and a step of the first keeps what the second one holds, unless the step
desires it or applied it last. -/
theorem markers_independent (apart : first.key ≠ second.key) (object : Doc) :
    (∀ snapshot out, first.record object snapshot = .ok out →
      out.getPath? second.path = object.getPath? second.path ∧
        second.retrieve out = second.retrieve object) ∧
    ((first.strip object).getPath? second.path = object.getPath? second.path ∧
      second.retrieve (first.strip object) = second.retrieve object) ∧
    (∀ snapshot₁ snapshot₂ : Fields Doc, snapshot₁ ≠ [] → snapshot₂ ≠ [] →
      Agree Eq Permuted
        (first.record object (.object snapshot₁) >>= fun out =>
          second.record out (.object snapshot₂))
        (second.record object (.object snapshot₂) >>= fun out =>
          first.record out (.object snapshot₁))) ∧
    ∀ (desired : Fields Doc) merged, (Doc.object desired).WellFormed → desired ≠ [] →
      first.reconcile object (.object desired) = .ok merged →
      (Doc.object desired).getPath? second.path = none →
      (∀ last, first.retrieve object = .ok (some last) → last.getPath? second.path = none) →
      merged.getPath? second.path = object.getPath? second.path :=
  ⟨fun _ _ h => held_record apart h, held_strip apart object,
    fun _ _ nonempty₁ nonempty₂ => record_comm apart object nonempty₁ nonempty₂,
    fun _ _ wellFormed nonempty h undesired unapplied =>
      held_reconcile apart wellFormed nonempty h undesired unapplied⟩

section Neighbours

private def north : Marker := ⟨"north"⟩

private def south : Marker := ⟨"south"⟩

private def annotated (annotations others : Fields Doc) : Doc :=
  .object (("metadata", .object [("annotations", .object annotations)]) :: others)

private def northText : String := "\x7b\"metadata\":\x7b\"annotations\":\x7b\"note\":\"\"\x7d\x7d\x7d"

/-- What stands under the other marker is not even text. -/
private def neighbours : Doc :=
  annotated [("note", .string "seen"), ("south", .bool true), ("north", .string northText)] []

private def northDesired : Fields Doc := [("metadata", .null), ("size", .null)]

/-- The step of one marker drops an annotation of its own and keeps what the other one holds. -/
theorem markers_independent_neighbours :
    north.key ≠ south.key ∧
      north.reconcile neighbours (.object northDesired) =
        .ok (annotated [("south", .bool true),
          ("north", .string "\x7b\"metadata\":null,\"size\":null\x7d")] [("size", .null)]) ∧
      (annotated [("south", .bool true),
          ("north", .string "\x7b\"metadata\":null,\"size\":null\x7d")]
        [("size", .null)]).getPath? south.path = neighbours.getPath? south.path ∧
      south.retrieve (north.strip neighbours) = south.retrieve neighbours ∧
      Agree Eq Permuted
        (north.record (Doc.object []) (.object northDesired) >>= fun out =>
          south.record out (.object northDesired))
        (south.record (Doc.object []) (.object northDesired) >>= fun out =>
          north.record out (.object northDesired)) := by
  have apart : north.key ≠ south.key := by decide
  have nonempty : northDesired ≠ [] := List.cons_ne_nil _ _
  have step : north.reconcile neighbours (.object northDesired) =
      .ok (annotated [("south", .bool true),
        ("north", .string "\x7b\"metadata\":null,\"size\":null\x7d")] [("size", .null)]) :=
    ok_of_toOption (by decide +kernel)
  have retrieved : north.retrieve neighbours = .ok (some (.object [("metadata",
      .object [("annotations", .object [("note", .string "")])])])) :=
    ok_of_toOption (by decide +kernel)
  obtain ⟨_, ⟨_, stripped⟩, _, kept⟩ := markers_independent apart neighbours
  obtain ⟨_, _, either, _⟩ := markers_independent apart (.object [])
  refine ⟨apart, step, kept _ _ (by decide) nonempty step rfl ?_, stripped,
    either _ _ nonempty nonempty⟩
  intro last found
  cases retrieved.symm.trans found
  rfl

end Neighbours

end Reconcile.Marker
