import Reconcile.Cli.Run
import Reconcile.Proofs.Marker.ForeignField
import Reconcile.Proofs.Merge.Overwritten

/-!
# A reconcile step on the command line

The command retrieves, stamps and merges on its own, and can be told to ignore a snapshot that it
cannot read. Unless it ignores one, it has the outcome of the library's step
(`outcome?_previewStep`). If it does, its outcome is that of the step on the observed document
without the marker: the broken text is where the new snapshot goes, so it is neither read nor left
(`previewStep_reconciles`).
-/
namespace Reconcile

open Doc (Permuted)

namespace Marker

variable {marker : Marker} {observed : Doc} {failure : Failure}

/-- There are two ways not to retrieve a snapshot, and in one of them there is text that cannot be
read. -/
theorem retrieve_error (failed : marker.retrieve observed = .error failure) :
    (∃ object reason, failure = .metadataMalformed object reason) ∨
      ∃ object key text, failure = .snapshotUnreadable object key ∧
        observed.getPath? marker.path = some (.string text) := by
  change (observed.annotation? marker.key >>= _) = _ at failed
  unfold Doc.annotation? at failed
  split at failed
  · cases failed
  · cases failed
  · next text found =>
    change (if text.isEmpty = true then _ else _) = _ at failed
    split at failed
    · cases failed
    · split at failed
      · cases failed
      · cases failed
        exact .inr ⟨_, _, text, rfl, found⟩
  · cases failed
    exact .inl ⟨_, _, rfl⟩

/-- Stamp and merge against a baseline that is known. -/
def reconcileFrom (marker : Marker) (lastApplied : Option Doc) (observed desired : Doc) :
    Except Failure Doc := do
  let stamped ← marker.stamp desired
  merge observed lastApplied stamped

theorem reconcile_eq (marker : Marker) (observed desired : Doc) :
    marker.reconcile observed desired =
      marker.retrieve observed >>= fun last => marker.reconcileFrom last observed desired :=
  rfl

/-- A step from no baseline on a document whose marker holds text is a step on the document without
the marker. -/
theorem reconcileFrom_none {desired : Doc} {text : String} (observedFormed : observed.WellFormed)
    (desiredFormed : desired.WellFormed) (something : ¬ (desired = .null ∨ desired = .object []))
    (held : observed.getPath? marker.path = some (.string text)) :
    Agree Eq Permuted (marker.reconcileFrom none observed desired)
      (marker.reconcile (observed.without marker.path) desired) := by
  have first : marker.retrieve (observed.without marker.path) = .ok none :=
    retrieve_none (Doc.getPath?_without observed (List.cons_ne_nil _ _))
  rw [reconcile_eq, first]
  change Agree Eq Permuted (marker.stamp desired >>= _) (marker.stamp desired >>= _)
  cases stamp : marker.stamp desired with
  | error failure => exact .error rfl
  | ok stamped =>
    rcases stamp_success desiredFormed stamp with ⟨nothing, _⟩ | ⟨_, stampedFormed, recorded, _⟩
    · exact absurd nothing something
    · exact mergeAt_without observedFormed stampedFormed held rfl recorded

end Marker

namespace Cli

variable {settings : Settings} {path : String} {observed desired : Doc}

/-- The failure of the library that a trouble comes from. -/
def Trouble.cause? : Trouble → Option Failure
  | .notRetrieved _ failure | .notRecorded failure | .notMerged failure => some failure
  | _ => none

/-- What a run comes to: a document or a failure of the library. -/
def outcome? : Except Trouble Report → Option (Except Failure Doc)
  | .ok report => some (.ok report.document)
  | .error trouble => trouble.cause?.map .error

/-- With its baseline at hand the command stamps and merges as the library does. -/
theorem outcome?_preview (last : Option Doc) :
    outcome? ((settings.marker.stamp desired).mapError .notRecorded >>=
        fun stamped => preview settings observed last stamped) =
      some (settings.marker.reconcileFrom last observed desired) := by
  unfold preview Marker.reconcileFrom
  cases settings.marker.stamp desired with
  | error failure => rfl
  | ok stamped =>
    change outcome? ((merge observed last stamped).mapError .notMerged >>= _) =
      some (merge observed last stamped)
    cases merge observed last stamped with
    | error failure => rfl
    | ok merged => rfl

/-- A command that does not ignore a bad snapshot has the outcome of the library's step. -/
theorem outcome?_previewStep :
    outcome? (previewStep settings false path observed desired) =
      some (settings.marker.reconcile observed desired) := by
  rw [Marker.reconcile_eq, previewStep, retrieveFrom]
  cases settings.marker.retrieve observed with
  | error failure => rfl
  | ok last => exact outcome?_preview last

/-- Ignoring a bad snapshot changes nothing but where the text of one cannot be read. -/
theorem previewStep_of_not_serialization (ignoreBad : Bool)
    (fine : ∀ failure, settings.marker.retrieve observed = .error failure →
      failure.isSerialization = false) :
    previewStep settings ignoreBad path observed desired =
      previewStep settings false path observed desired := by
  unfold previewStep retrieveFrom
  cases retrieved : settings.marker.retrieve observed with
  | ok last => rfl
  | error failure =>
    dsimp only
    rw [fine failure retrieved, Bool.and_false, Bool.false_and]

/-- The command agrees with the library. Not ignoring bad snapshots, it prints the document of the
library's step or stops at its failure. Where a snapshot, or none, is retrieved, ignoring bad ones
makes no difference; where the metadata are malformed, both stop there; and where the text cannot be
read, a command that ignores it has the outcome of the library's step on the observed document
without the marker, for anything desired but null and the empty object. -/
theorem previewStep_reconciles (settings : Settings) (path : String)
    (observedFormed : observed.WellFormed) (desiredFormed : desired.WellFormed) :
    outcome? (previewStep settings false path observed desired) =
        some (settings.marker.reconcile observed desired) ∧
      (∀ last, settings.marker.retrieve observed = .ok last →
        previewStep settings true path observed desired =
          previewStep settings false path observed desired) ∧
      ∀ failure, settings.marker.retrieve observed = .error failure →
        previewStep settings false path observed desired = .error (.notRetrieved path failure) ∧
          ((∃ object reason, failure = .metadataMalformed object reason ∧
              previewStep settings true path observed desired =
                .error (.notRetrieved path failure)) ∨
            ∃ object key, failure = .snapshotUnreadable object key ∧
              (¬ (desired = .null ∨ desired = .object []) → ∃ outcome,
                outcome? (previewStep settings true path observed desired) = some outcome ∧
                Agree Eq Permuted outcome (settings.marker.reconcile
                  (observed.without settings.marker.path) desired))) := by
  refine ⟨outcome?_previewStep, fun last retrieved => ?_, fun failure retrieved => ?_⟩
  · refine previewStep_of_not_serialization true fun failure failed => ?_
    cases retrieved.symm.trans failed
  · have stops : previewStep settings false path observed desired =
        .error (.notRetrieved path failure) := by
      rw [previewStep, retrieveFrom, retrieved]
      rfl
    refine ⟨stops, ?_⟩
    rcases Marker.retrieve_error retrieved with
      ⟨object, reason, rfl⟩ | ⟨object, key, text, rfl, held⟩
    · refine .inl ⟨object, reason, rfl, ?_⟩
      rw [previewStep_of_not_serialization true, stops]
      intro failure failed
      cases retrieved.symm.trans failed
      rfl
    · refine .inr ⟨object, key, rfl, fun something => ⟨_, ?_,
        Marker.reconcileFrom_none observedFormed desiredFormed something held⟩⟩
      rw [previewStep, retrieveFrom, retrieved]
      exact outcome?_preview none

section Broken

private def appliedSettings : Settings := { marker := ⟨"applied"⟩ }

private def annotated (annotations fields : Fields Doc) : Doc :=
  .object (("metadata", .object [("annotations", .object annotations)]) :: fields)

/-- The text of its snapshot breaks off. -/
private def brokenObserved : Doc :=
  annotated [("applied", .string "\x7b\"size\""), ("team", .string "web")] [("size", .bool true)]

private def newSnapshot : Doc := .string "\x7b\"paused\":null\x7d"

/-- The new snapshot takes the place of the broken one, or comes last where that is taken out. -/
theorem previewStep_reconciles_broken :
    brokenObserved.WellFormed ∧ (Doc.object [("paused", .null)]).WellFormed ∧
      appliedSettings.marker.retrieve brokenObserved =
        .error (.snapshotUnreadable ":::" "applied") ∧
      previewStep appliedSettings false "-" brokenObserved (.object [("paused", .null)]) =
        .error (.notRetrieved "-" (.snapshotUnreadable ":::" "applied")) ∧
      outcome? (previewStep appliedSettings true "-" brokenObserved (.object [("paused", .null)])) =
        some (.ok (annotated [("applied", newSnapshot), ("team", .string "web")]
          [("size", .bool true), ("paused", .null)])) ∧
      appliedSettings.marker.reconcile (brokenObserved.without appliedSettings.marker.path)
          (.object [("paused", .null)]) =
        .ok (annotated [("team", .string "web"), ("applied", newSnapshot)]
          [("size", .bool true), ("paused", .null)]) ∧
      Permuted
        (annotated [("applied", newSnapshot), ("team", .string "web")]
          [("size", .bool true), ("paused", .null)])
        (annotated [("team", .string "web"), ("applied", newSnapshot)]
          [("size", .bool true), ("paused", .null)]) := by
  have observedFormed : brokenObserved.WellFormed := by decide
  have desiredFormed : (Doc.object [("paused", .null)]).WellFormed := by decide
  have retrieved : appliedSettings.marker.retrieve brokenObserved =
      .error (.snapshotUnreadable ":::" "applied") := by decide +kernel
  have ignoring : outcome? (previewStep appliedSettings true "-" brokenObserved
        (.object [("paused", .null)])) =
      some (.ok (annotated [("applied", newSnapshot), ("team", .string "web")]
        [("size", .bool true), ("paused", .null)])) := by decide +kernel
  have without : appliedSettings.marker.reconcile
        (brokenObserved.without appliedSettings.marker.path) (.object [("paused", .null)]) =
      .ok (annotated [("team", .string "web"), ("applied", newSnapshot)]
        [("size", .bool true), ("paused", .null)]) := by decide +kernel
  obtain ⟨_, _, failed⟩ := previewStep_reconciles appliedSettings "-" observedFormed desiredFormed
  obtain ⟨stops, malformed | ⟨_, _, _, recovers⟩⟩ := failed _ retrieved
  · obtain ⟨_, _, impossible, _⟩ := malformed
    cases impossible
  · obtain ⟨outcome, reached, agree⟩ := recovers (by decide)
    cases reached.symm.trans ignoring
    rw [without] at agree
    cases agree with
    | ok permuted =>
      exact ⟨observedFormed, desiredFormed, retrieved, stops, ignoring, without, permuted⟩

end Broken

end Cli

end Reconcile
