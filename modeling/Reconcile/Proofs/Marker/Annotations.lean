import Reconcile.Proofs.Marker.Recording

/-!
# Where a document keeps its annotations

Every write of a marker goes through `Doc.withAnnotations`, which sets the annotations of an object
and nothing else: annotating either fails for one reason, whatever the annotation, or inserts it
(`Doc.annotate_cases`), and stripping erases the marker where there are annotations
(`Marker.strip_cases`). A stamp does both (`Marker.stamp_eq`). What describes the object is outside
the annotations (`Doc.AnnotationsAt.describe_eq`).
-/
namespace Reconcile

namespace Doc

/-- The object with other annotations in its metadata. -/
def withAnnotations (root metadata annotations : Fields Doc) : Doc :=
  .object (root.insert "metadata" (.object (metadata.insert "annotations" (.object annotations))))

/-- The fields on the way to the annotations; what is missing or null has none. -/
structure AnnotationsAt (doc : Doc) (root metadata annotations : Fields Doc) : Prop where
  root : doc = .object root
  metadata : ∀ name, doc.getPath? ["metadata", name] = metadata.get? name
  annotations : ∀ name, doc.getPath? ["metadata", "annotations", name] = annotations.get? name

variable {doc : Doc} {root metadata annotations : Fields Doc}

theorem annotations_withAnnotations (root metadata annotations : Fields Doc) :
    (withAnnotations root metadata annotations).getPath? ["metadata", "annotations"] =
      some (.object annotations) := by
  simp [withAnnotations, getPath?_cons, get?]

theorem getPath?_withAnnotations (root metadata annotations : Fields Doc) (name : String) :
    (withAnnotations root metadata annotations).getPath? ["metadata", "annotations", name] =
      annotations.get? name := by
  simp [withAnnotations, getPath?_cons, get?]

theorem AnnotationsAt.get?_of_ne (held : AnnotationsAt doc root metadata annotations)
    (others : Fields Doc) {name : String} (different : name ≠ "metadata") :
    (withAnnotations root metadata others).get? name = doc.get? name := by
  rw [held.root]
  exact Fields.get?_insert_of_ne different

theorem AnnotationsAt.getPath?_of_ne (held : AnnotationsAt doc root metadata annotations)
    (others : Fields Doc) {name : String} (different : name ≠ "annotations") :
    (withAnnotations root metadata others).getPath? ["metadata", name] =
      doc.getPath? ["metadata", name] := by
  rw [held.metadata]
  simp [withAnnotations, getPath?_cons, get?, Fields.get?_insert_of_ne different]

/-- Annotations do not describe an object. -/
theorem AnnotationsAt.describe_eq (held : AnnotationsAt doc root metadata annotations)
    (others : Fields Doc) : (withAnnotations root metadata others).describe = doc.describe := by
  have outside (name : String) (different : name ≠ "metadata") :
      (withAnnotations root metadata others).textAt [name] = doc.textAt [name] := by
    rw [textAt, textAt, getPath?_cons, getPath?_cons, held.get?_of_ne others different]
  have inside (name : String) (different : name ≠ "annotations") :
      (withAnnotations root metadata others).textAt ["metadata", name] =
        doc.textAt ["metadata", name] := by
    rw [textAt, textAt, held.getPath?_of_ne others different]
  unfold describe
  rw [outside "apiVersion" (by decide), outside "kind" (by decide),
    inside "namespace" (by decide), inside "name" (by decide)]

theorem AnnotationsAt.of_open {object : String}
    (openMetadata : openField object "metadata" root = .ok metadata)
    (openAnnotations : openField object "annotations" metadata = .ok annotations) :
    AnnotationsAt (.object root) root metadata annotations := by
  refine ⟨rfl, fun name => getPath?_openField openMetadata, fun name => ?_⟩
  rw [getPath?_openField openMetadata, getPath?_openField openAnnotations]
  rfl

theorem exists_withAnnotations {out : Doc} {name text : String}
    (annotated : doc.annotate name text = .ok out) :
    ∃ root metadata annotations, AnnotationsAt doc root metadata annotations ∧
      out = withAnnotations root metadata (annotations.insert name (.string text)) := by
  obtain ⟨root, metadata, annotations, rfl, openMetadata, openAnnotations, rfl⟩ :=
    annotate_eq annotated
  exact ⟨root, metadata, annotations, .of_open openMetadata openAnnotations, rfl⟩

theorem annotate_of_open
    (openMetadata : openField (object root).describe "metadata" root = .ok metadata)
    (openAnnotations : openField (object root).describe "annotations" metadata = .ok annotations)
    (name text : String) :
    (object root).annotate name text =
      .ok (withAnnotations root metadata (annotations.insert name (.string text))) := by
  rw [annotate, openMetadata]
  change (openField (object root).describe "annotations" metadata >>= _) = _
  rw [openAnnotations]
  rfl

/-- Whether an object can be annotated, and why not, does not depend on the annotation. -/
theorem annotate_cases (doc : Doc) :
    (∃ failure, ∀ name text, doc.annotate name text = .error failure) ∨
      ∃ root metadata annotations, AnnotationsAt doc root metadata annotations ∧
        ∀ name text, doc.annotate name text =
          .ok (withAnnotations root metadata (annotations.insert name (.string text))) := by
  cases doc with
  | object root =>
    cases openMetadata : openField (object root).describe "metadata" root with
    | error failure =>
      refine .inl ⟨failure, fun name text => ?_⟩
      rw [annotate, openMetadata]
      rfl
    | ok metadata =>
      cases openAnnotations : openField (object root).describe "annotations" metadata with
      | error failure =>
        refine .inl ⟨failure, fun name text => ?_⟩
        rw [annotate, openMetadata]
        change (openField (object root).describe "annotations" metadata >>= _) = _
        rw [openAnnotations]
        rfl
      | ok annotations =>
        exact .inr ⟨root, metadata, annotations, .of_open openMetadata openAnnotations,
          annotate_of_open openMetadata openAnnotations⟩
  | _ => exact .inl ⟨_, fun _ _ => rfl⟩

theorem openField_insert (object name : String) (parent fields : Fields Doc) :
    openField object name (parent.insert name (.object fields)) = .ok fields := by
  rw [openField, Fields.get?_insert_self]

theorem annotate_withAnnotations (root metadata annotations : Fields Doc) (name text : String) :
    (withAnnotations root metadata annotations).annotate name text =
      .ok (withAnnotations root metadata (annotations.insert name (.string text))) := by
  unfold withAnnotations
  rw [annotate_of_open (openField_insert _ _ _ _) (openField_insert _ _ _ _), withAnnotations,
    Fields.insert_insert, Fields.insert_insert]

end Doc

namespace Marker

open Doc (AnnotationsAt withAnnotations)

/-- Stripping erases the marker from the annotations, if the document has any. -/
theorem strip_cases (marker : Marker) (doc : Doc) :
    marker.strip doc = doc ∨ ∃ root metadata annotations,
      AnnotationsAt doc root metadata annotations ∧
        marker.strip doc = withAnnotations root metadata (Fields.erase annotations marker.key) := by
  unfold strip
  split
  · next metadata annotations root atMetadata atAnnotations =>
    rw [Doc.getPath?_cons, atMetadata, Option.bind_some] at atAnnotations
    refine .inr ⟨root, metadata, annotations, ⟨rfl, fun name => ?_, fun name => ?_⟩, rfl⟩
    · rw [Doc.getPath?_cons, atMetadata]
      rfl
    · rw [Doc.getPath?_cons, atMetadata, Option.bind_some, Doc.getPath?_cons]
      have atAnnotations : (Doc.object metadata).get? "annotations" = some (.object annotations) :=
        atAnnotations
      rw [atAnnotations]
      rfl
  · exact .inl rfl

/-- The stamp of anything but null and the empty object is the stripped document with its own text
under the marker, in annotations that are made where there are none. -/
theorem stamp_eq {marker : Marker} {desired stamped : Doc} (wellFormed : desired.WellFormed)
    (something : ¬ (desired = .null ∨ desired = .object []))
    (h : marker.stamp desired = .ok stamped) :
    ∃ root metadata annotations : Fields Doc, marker.strip desired = .object root ∧
      Doc.openField (Doc.object root).describe "metadata" root = .ok metadata ∧
      Doc.openField (Doc.object root).describe "annotations" metadata = .ok annotations ∧
      marker.key ∉ annotations.keys ∧
      stamped = withAnnotations root metadata (annotations.insert marker.key
        (.string (Json.compact (marker.strip desired)))) := by
  rcases record_success h with ⟨empty, _⟩ | ⟨_, _, _, annotated⟩
  · exact absurd ((marker.strip_eq_empty_iff wellFormed).mp empty) something
  · obtain ⟨root, metadata, annotations, stripped, openMetadata, openAnnotations, result⟩ :=
      Doc.annotate_eq annotated
    rw [stripped] at openMetadata openAnnotations
    have held := Doc.AnnotationsAt.of_open openMetadata openAnnotations
    have unmarked : annotations.get? marker.key = none := by
      rw [← held.annotations, ← stripped]
      exact marker.getPath?_strip wellFormed
    exact ⟨root, metadata, annotations, stripped, openMetadata, openAnnotations,
      Fields.get?_eq_none_iff.mp unmarked, result⟩

/-- What is retrieved depends on the annotation, and a failure also on the description. -/
theorem retrieve_eq_of_annotation? {α β : Type} [Annotated α] [Annotated β] {marker : Marker}
    {thing : α} {other : β}
    (noted : Annotated.annotation? thing marker.key = Annotated.annotation? other marker.key)
    (described : Annotated.describe thing = Annotated.describe other) :
    marker.retrieve thing = marker.retrieve other := by
  unfold retrieve
  rw [noted, described]

theorem retrieve_eq {marker : Marker} {object other : Doc}
    (same : object.getPath? marker.path = other.getPath? marker.path)
    (described : object.describe = other.describe) :
    marker.retrieve object = marker.retrieve other := by
  refine retrieve_eq_of_annotation? ?_ described
  unfold path at same
  change object.annotation? marker.key = other.annotation? marker.key
  unfold Doc.annotation?
  rw [same, described]

end Marker

end Reconcile
