import Reconcile.Proofs.Doc.Entry
import Reconcile.Proofs.Marker.Annotations
import Reconcile.Proofs.Marker.ForeignField

/-!
# Snapshots do not nest

A stamped document that comes back as the desired one is stamped like any other. Its old snapshot is
stripped first, so the new one does not hold it; but the annotations that were made for the old one
stay, and if there were none before, the new snapshot differs from the old one in this. A third stamp
finds nothing new. `Marker.stamp_stamped` gives the stamp of a stamped document, whatever text it
held, and `Marker.stamp_settles` is what follows for any number of stamps.
-/
namespace Reconcile

namespace Doc

/-- Setting the annotations that are there changes nothing. -/
theorem withAnnotations_self {root metadata annotations : Fields Doc}
    (atMetadata : root.get? "metadata" = some (.object metadata))
    (atAnnotations : metadata.get? "annotations" = some (.object annotations)) :
    withAnnotations root metadata annotations = .object root := by
  rw [withAnnotations, Fields.insert_get? atAnnotations, Fields.insert_get? atMetadata]

end Doc

namespace Marker

open Doc (withAnnotations)

variable {marker : Marker}

theorem strip_withAnnotations (marker : Marker) (root metadata annotations : Fields Doc) :
    marker.strip (withAnnotations root metadata annotations) =
      withAnnotations root metadata (annotations.erase marker.key) := by
  unfold withAnnotations
  rw [marker.strip_of_annotations (Fields.get?_insert_self _ _ _) (Fields.get?_insert_self _ _ _),
    Fields.insert_insert, Fields.insert_insert]

/-- Where a document has annotations, stripping erases the marker from them and changes no other
entry. -/
theorem strip_changes {doc : Doc} {annotations : Fields Doc} (wellFormed : doc.WellFormed)
    (held : doc.getPath? ["metadata", "annotations"] = some (.object annotations)) :
    (marker.strip doc).getPath? ["metadata", "annotations"] =
        some (.object (annotations.erase marker.key)) ∧
      Doc.AnnotationChanges marker.key (fun _ now => now = none) doc (marker.strip doc) := by
  obtain ⟨root, metadata, rfl, atMetadata, atAnnotations⟩ := Doc.exists_metadata held
  have stripped := marker.strip_of_annotations atMetadata atAnnotations
  rw [stripped]
  constructor
  · exact Doc.annotations_withAnnotations root metadata (annotations.erase marker.key)
  · have nodup : annotations.keys.Nodup := by
      have metadataFormed : (Doc.object metadata).WellFormed := wellFormed.of_get? atMetadata
      have annotationsFormed : (Doc.object annotations).WellFormed :=
        metadataFormed.of_get? atAnnotations
      exact annotationsFormed.nodup_names
    refine ⟨root, _, rfl, rfl, Fields.changesAt_insert ?_⟩
    rw [atMetadata]
    refine .object (Fields.changesAt_insert ?_)
    rw [atAnnotations]
    exact .object (Fields.changesAt_erase nodup rfl)

theorem strip_strip (marker : Marker) (doc : Doc) :
    marker.strip (marker.strip doc) = marker.strip doc := by
  by_cases held : ∃ annotations,
      doc.getPath? ["metadata", "annotations"] = some (.object annotations)
  · obtain ⟨annotations, held⟩ := held
    obtain ⟨root, metadata, rfl, atMetadata, atAnnotations⟩ := Doc.exists_metadata held
    have stripped : marker.strip (.object root) =
        withAnnotations root metadata (Fields.erase annotations marker.key) :=
      marker.strip_of_annotations atMetadata atAnnotations
    rw [stripped, strip_withAnnotations, Fields.erase_erase]
  · have stays := marker.strip_of_no_annotations (not_exists.mp held)
    rw [stays, stays]

/-- Stripping neither makes annotations nor takes them away. -/
theorem strip_annotations_iff {doc : Doc} (wellFormed : doc.WellFormed) :
    (∃ annotations, (marker.strip doc).getPath? ["metadata", "annotations"] =
        some (.object annotations)) ↔
      ∃ annotations, doc.getPath? ["metadata", "annotations"] = some (.object annotations) := by
  by_cases held : ∃ annotations,
      doc.getPath? ["metadata", "annotations"] = some (.object annotations)
  · obtain ⟨annotations, held⟩ := held
    exact iff_of_true ⟨_, (strip_changes wellFormed held).1⟩ ⟨annotations, held⟩
  · rw [marker.strip_of_no_annotations (not_exists.mp held)]

/-- A document whose marker holds text is stamped as if it did not, but the annotations are there. -/
theorem stamp_stamped (root metadata : Fields Doc) {annotations : Fields Doc}
    (unmarked : marker.key ∉ annotations.keys) (text : Doc) :
    marker.strip (withAnnotations root metadata (annotations.insert marker.key text)) =
        withAnnotations root metadata annotations ∧
      marker.stamp (withAnnotations root metadata (annotations.insert marker.key text)) =
        .ok (withAnnotations root metadata (annotations.insert marker.key
          (.string (Json.compact (withAnnotations root metadata annotations))))) := by
  have stripped : marker.strip (withAnnotations root metadata (annotations.insert marker.key text)) =
      withAnnotations root metadata annotations := by
    rw [strip_withAnnotations, Fields.erase_insert, Fields.erase_of_not_mem unmarked]
  refine ⟨stripped, ?_⟩
  have something : root.insert "metadata" (.object (metadata.insert "annotations"
      (.object annotations))) ≠ [] := by
    intro empty
    have found := Fields.get?_insert_self root "metadata"
      (.object (metadata.insert "annotations" (.object annotations)))
    rw [empty] at found
    cases found
  rw [stamp, stripped]
  exact (record_object _ something).trans (Doc.annotate_withAnnotations root metadata annotations _ _)

/-- Making the annotations of a document changes nothing exactly if it has them. -/
theorem withAnnotations_eq_iff {object : String} {root metadata annotations : Fields Doc}
    (openMetadata : Doc.openField object "metadata" root = .ok metadata)
    (openAnnotations : Doc.openField object "annotations" metadata = .ok annotations) :
    withAnnotations root metadata annotations = .object root ↔
      ∃ held, (Doc.object root).getPath? ["metadata", "annotations"] = some (.object held) := by
  constructor
  · intro same
    rw [← same]
    exact ⟨annotations, Doc.annotations_withAnnotations root metadata annotations⟩
  · rintro ⟨held, found⟩
    obtain ⟨_, inner, equal, atMetadata, atAnnotations⟩ := Doc.exists_metadata found
    cases equal
    rw [Doc.openField, atMetadata] at openMetadata
    cases openMetadata
    rw [Doc.openField, atAnnotations] at openAnnotations
    cases openAnnotations
    exact Doc.withAnnotations_self atMetadata atAnnotations

/-- The marker holds the text of a document without the marker. -/
def HoldsUnmarked (marker : Marker) (doc : Doc) : Prop :=
  ∃ snapshot : Doc, doc.getPath? marker.path = some (.string (Json.compact snapshot)) ∧
    snapshot.getPath? marker.path = none

theorem getPath?_marked (root metadata annotations : Fields Doc) (text : String) :
    (withAnnotations root metadata (annotations.insert marker.key (.string text))).getPath?
      marker.path = some (.string text) :=
  (Doc.getPath?_withAnnotations root metadata _ marker.key).trans (Fields.get?_insert_self _ _ _)

/-- The second stamp of a document, which is the last one that changes it: both hold the text of what
stripping leaves, and that is the same twice exactly if the document has annotations. -/
theorem stamp_again {desired stamped : Doc} (wellFormed : desired.WellFormed)
    (something : ¬ (desired = .null ∨ desired = .object []))
    (h : marker.stamp desired = .ok stamped) :
    ∃ again, marker.stamp stamped = .ok again ∧ marker.stamp again = .ok again ∧
      (again = stamped ↔ ∃ annotations,
        desired.getPath? ["metadata", "annotations"] = some (.object annotations)) ∧
      marker.HoldsUnmarked stamped ∧ marker.HoldsUnmarked again := by
  obtain ⟨root, metadata, annotations, stripped, openMetadata, openAnnotations, unmarked, rfl⟩ :=
    stamp_eq wellFormed something h
  have stampedFormed := wellFormed_stamp wellFormed h
  have strippedFormed := marker.wellFormed_strip wellFormed
  obtain ⟨settles, second⟩ := stamp_stamped root metadata unmarked
    (.string (Json.compact (marker.strip desired)))
  obtain ⟨_, fixed⟩ := stamp_stamped root metadata unmarked
    (.string (Json.compact (withAnnotations root metadata annotations)))
  have settledFormed : (withAnnotations root metadata annotations).WellFormed := by
    rw [← settles]
    exact marker.wellFormed_strip stampedFormed
  refine ⟨_, second, fixed, ?_, ?_, ?_⟩
  · rw [← strip_annotations_iff wellFormed, stripped,
      ← withAnnotations_eq_iff openMetadata openAnnotations]
    constructor
    · intro same
      have texts := congrArg (·.getPath? marker.path) same
      simp only [getPath?_marked, Option.some.injEq, Doc.string.injEq] at texts
      exact Json.compact_injective texts
    · intro same
      rw [same]
  · exact ⟨_, getPath?_marked root metadata annotations _, marker.getPath?_strip wellFormed⟩
  · refine ⟨_, getPath?_marked root metadata annotations _, ?_⟩
    rw [← settles]
    exact marker.getPath?_strip stampedFormed

theorem iterate_stamp {doc : Doc} (fixed : marker.stamp doc = .ok doc) (n : Nat) :
    (· >>= marker.stamp)^[n] (.ok doc) = .ok doc :=
  Function.iterate_fixed fixed n

/-- Stamping comes to rest with the second stamp. A stamp can be stamped again, and from then on
nothing changes; the second stamp is the first one exactly for null, the empty object and a document
that has annotations; and what the marker holds in either is the text of a document without the
marker. Stripping a document takes its marker out and leaves every other entry where it is, as it
is. -/
theorem stamp_settles (marker : Marker) :
    (∀ desired stamped : Doc, desired.WellFormed → marker.stamp desired = .ok stamped →
      ∃ again, marker.stamp stamped = .ok again ∧ marker.stamp again = .ok again ∧
        (∀ n, (· >>= marker.stamp)^[n + 2] (.ok desired) = .ok again) ∧
        (again = stamped ↔ desired = .null ∨ desired = .object [] ∨
          ∃ annotations,
            desired.getPath? ["metadata", "annotations"] = some (.object annotations)) ∧
        (¬ (desired = .null ∨ desired = .object []) →
          marker.HoldsUnmarked stamped ∧ marker.HoldsUnmarked again)) ∧
      ∀ doc : Doc, doc.WellFormed →
        marker.retrieve (marker.strip doc) = .ok none ∧
          marker.strip (marker.strip doc) = marker.strip doc ∧
          (∀ annotations, doc.getPath? ["metadata", "annotations"] = some (.object annotations) →
            Doc.AnnotationChanges marker.key (fun _ now => now = none) doc (marker.strip doc)) ∧
          ((∀ annotations,
              doc.getPath? ["metadata", "annotations"] ≠ some (.object annotations)) →
            marker.strip doc = doc) := by
  constructor
  · intro desired stamped wellFormed first
    have runs {again : Doc} (second : marker.stamp stamped = .ok again)
        (fixed : marker.stamp again = .ok again) (n : Nat) :
        (· >>= marker.stamp)^[n + 2] (.ok desired) = .ok again := by
      rw [Function.iterate_add_apply]
      have twice : (· >>= marker.stamp)^[2] (.ok desired) = .ok again := by
        change ((marker.stamp desired) >>= marker.stamp) = .ok again
        rw [first]
        exact second
      rw [twice]
      exact iterate_stamp fixed n
    by_cases nothing : desired = .null ∨ desired = .object []
    · obtain rfl := stamp_of_nothing nothing first
      exact ⟨stamped, first, first, runs first first, iff_of_true rfl (nothing.imp_right .inl),
        fun something => absurd nothing something⟩
    · obtain ⟨again, second, fixed, same, held, heldAgain⟩ := stamp_again wellFormed nothing first
      refine ⟨again, second, fixed, runs second fixed, ?_, fun _ => ⟨held, heldAgain⟩⟩
      rw [same, ← or_assoc, or_iff_right nothing]
  · intro doc wellFormed
    refine ⟨retrieve_none (marker.getPath?_strip wellFormed), marker.strip_strip doc, ?_, ?_⟩
    · intro annotations held
      exact (strip_changes wellFormed held).2
    · exact marker.strip_of_no_annotations

section Echoed

private def echoedMarker : Marker := ⟨"applied"⟩

/-- There are no metadata yet. -/
private def bareDesired : Doc := .object [("size", .null)]

private def markedWith (text : String) : Doc := .object
  [("size", .null), ("metadata", .object [("annotations", .object [("applied", .string text)])])]

private def firstStamp : Doc := markedWith "\x7b\"size\":null\x7d"

/-- The snapshot has the annotations that the first stamp made. -/
private def secondStamp : Doc :=
  markedWith "\x7b\"size\":null,\"metadata\":\x7b\"annotations\":\x7b\x7d\x7d\x7d"

theorem stamp_settles_echoed :
    bareDesired.WellFormed ∧ echoedMarker.stamp bareDesired = .ok firstStamp ∧
      echoedMarker.stamp firstStamp = .ok secondStamp ∧ secondStamp ≠ firstStamp ∧
      (∀ n, (· >>= echoedMarker.stamp)^[n + 2] (.ok bareDesired) = .ok secondStamp) ∧
      echoedMarker.retrieve (echoedMarker.strip firstStamp) = .ok none ∧
      Doc.AnnotationChanges "applied" (fun _ now => now = none) firstStamp
        (echoedMarker.strip firstStamp) := by
  have wellFormed : bareDesired.WellFormed := by decide
  have first : echoedMarker.stamp bareDesired = .ok firstStamp := ok_of_toOption (by decide +kernel)
  have second : echoedMarker.stamp firstStamp = .ok secondStamp :=
    ok_of_toOption (by decide +kernel)
  obtain ⟨stamps, strips⟩ := stamp_settles echoedMarker
  obtain ⟨again, reached, _, runs, same, _⟩ := stamps bareDesired firstStamp wellFormed first
  obtain rfl : again = secondStamp := by
    rw [second, Except.ok.injEq] at reached
    exact reached.symm
  obtain ⟨forgotten, _, changes, _⟩ := strips firstStamp (by decide)
  refine ⟨wellFormed, first, second, ?_, runs, forgotten, changes _ rfl⟩
  intro equal
  rcases same.mp equal with null | empty | ⟨annotations, held⟩
  · cases null
  · cases empty
  · cases held

end Echoed

end Marker

end Reconcile
