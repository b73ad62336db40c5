import Reconcile.Proofs.Marker.Recording
import Reconcile.Resource

/-!
# Reading back what was recorded

A snapshot that was recorded on a thing is read back as it was, names in their order and numbers of
their kind, exactly when it nests no deeper than a snapshot may, provided that its doubles read back
(`record_retrieve`). Recording does not ask for the depth: a deeper one is kept all the same and
fails to be read (`record_retrieve_deep`).
-/
namespace Reconcile

/-- Things that give back the text with which they were annotated. -/
class LawfulAnnotated (α : Type) [Annotated α] : Prop where
  annotation?_annotate : ∀ {thing out : α} {name text : String},
    Annotated.annotate thing name text = .ok out → Annotated.annotation? out name = .ok (some text)

instance : LawfulAnnotated Doc where
  annotation?_annotate h := Doc.annotation?_of_getPath? (Doc.getPath?_annotate h)

instance : LawfulAnnotated Resource where
  annotation?_annotate {thing out name text} h := by
    have equal : thing.annotate name text = out := Except.ok.inj h
    subst equal
    change Except.ok ((thing.annotate name text).annotation? name) = _
    unfold Resource.annotation? Resource.annotate
    rw [Option.bind_some, Fields.get?_insert_self]

namespace Marker

variable {marker : Marker} {fields : Fields Doc}

theorem retrieve_of_record {α : Type} [Annotated α] [LawfulAnnotated α] {thing out : α}
    (wellFormed : (Doc.object fields).WellFormed)
    (readsBack : (Doc.object fields).DoublesReadBack) (nonempty : fields ≠ [])
    (h : marker.record thing (.object fields) = .ok out) :
    marker.retrieve out =
      if (Doc.object fields).depth ≤ snapshotDepth then .ok (some (.object fields))
      else .error (.snapshotUnreadable (Annotated.describe out) marker.key) := by
  rw [record_object thing nonempty] at h
  exact retrieve_of_readsBack wellFormed readsBack (LawfulAnnotated.annotation?_annotate h)

/-- What was recorded on a document or a resource is read back as it was if it is at most 127 deep,
and cannot be read if it is deeper. -/
theorem record_retrieve (wellFormed : (Doc.object fields).WellFormed)
    (readsBack : (Doc.object fields).DoublesReadBack) (nonempty : fields ≠ []) :
    (∀ object out : Doc, marker.record object (.object fields) = .ok out →
      marker.retrieve out =
        if (Doc.object fields).depth ≤ 127 then .ok (some (.object fields))
        else .error (.snapshotUnreadable out.describe marker.key)) ∧
    ∀ resource out : Resource, marker.record resource (.object fields) = .ok out →
      marker.retrieve out =
        if (Doc.object fields).depth ≤ 127 then .ok (some (.object fields))
        else .error (.snapshotUnreadable out.describe marker.key) :=
  ⟨fun _ _ h => retrieve_of_record wellFormed readsBack nonempty h,
    fun _ _ h => retrieve_of_record wellFormed readsBack nonempty h⟩

section Book

private def bookMarker : Marker := ⟨"applied"⟩

private def sevenPointZero : Double := ⟨false, 7 * 2 ^ 50, 1024, by decide, by decide, by decide⟩

/-- Two numbers of one value and different kinds, and a name that has to be escaped. -/
private def bookSnapshot : Fields Doc :=
  [("size", .number (.double sevenPointZero)),
    ("ids", .array [.number (.int 7 (by decide)), .null]), ("a\"\n", .object [])]

private def bookText : String :=
  "\x7b\"size\":7.0,\"ids\":[7,null],\"a\\\"\\n\":\x7b\x7d\x7d"

private def bookDoc : Doc :=
  .object [("metadata", .object [("annotations", .object [("applied", .string bookText)])])]

private def bookResource : Resource :=
  { name := some "book", annotations := some [("team", "web"), ("applied", bookText)] }

theorem record_retrieve_book :
    bookMarker.record (Doc.object [("metadata", .null)]) (.object bookSnapshot) = .ok bookDoc ∧
    bookMarker.retrieve bookDoc = .ok (some (.object bookSnapshot)) ∧
    bookMarker.record { bookResource with annotations := some [("team", "web")] }
      (.object bookSnapshot) = .ok bookResource ∧
    bookMarker.retrieve bookResource = .ok (some (.object bookSnapshot)) := by
  have onDoc : bookMarker.record (Doc.object [("metadata", .null)]) (.object bookSnapshot) =
      .ok bookDoc := ok_of_toOption (by decide +kernel)
  have onResource : bookMarker.record { bookResource with annotations := some [("team", "web")] }
      (.object bookSnapshot) = .ok bookResource := ok_of_toOption (by decide +kernel)
  have wellFormed : (Doc.object bookSnapshot).WellFormed := by decide
  have readsBack : (Doc.object bookSnapshot).DoublesReadBack := by decide +kernel
  have nonempty : bookSnapshot ≠ [] := List.cons_ne_nil _ _
  exact ⟨onDoc, (record_retrieve wellFormed readsBack nonempty).1 _ _ onDoc, onResource,
    (record_retrieve wellFormed readsBack nonempty).2 _ _ onResource⟩

end Book

section Deep

/-- So many objects, each in the one before. -/
private def nested : Nat → Doc
  | 0 => .null
  | n + 1 => .object [("in", nested n)]

private theorem depth_nested (n : Nat) : (nested n).depth = n := by
  induction n with
  | zero => rfl
  | succ n ih => simp [nested, Doc.depth, Doc.depthOfFields, ih]

private theorem wellFormed_nested (n : Nat) : (nested n).WellFormed := by
  induction n with
  | zero => rfl
  | succ n ih => exact Doc.wellFormed_object_iff.mpr ⟨List.nodup_singleton _, by simpa using ih⟩

/-- A snapshot of 128 objects, each in the one before, is recorded and cannot be read. -/
theorem record_retrieve_deep :
    bookMarker.record (Doc.object []) (nested 128) =
      .ok (.object [("metadata", .object [("annotations",
        .object [("applied", .string (Json.compact (nested 128)))])])]) ∧
    bookMarker.retrieve (Doc.object [("metadata", .object [("annotations",
        .object [("applied", .string (Json.compact (nested 128)))])])]) =
      .error (.snapshotUnreadable ":::" "applied") := by
  have recorded : bookMarker.record (Doc.object []) (nested 128) =
      .ok (.object [("metadata", .object [("annotations",
        .object [("applied", .string (Json.compact (nested 128)))])])]) := rfl
  refine ⟨recorded, ?_⟩
  have deep : ¬ (Doc.object [("in", nested 127)]).depth ≤ snapshotDepth := by
    change ¬ (nested 128).depth ≤ snapshotDepth
    rw [depth_nested]
    decide
  have readsBack : (nested 128).DoublesReadBack := by decide +kernel
  have unread :=
    retrieve_of_record (wellFormed_nested 128) readsBack (List.cons_ne_nil _ _) recorded
  rw [if_neg deep] at unread
  exact unread

end Deep

end Marker

end Reconcile
