import Reconcile.Marker
import Reconcile.Proofs.Doc.Without
import Reconcile.Proofs.Json.RoundTrip
import Reconcile.Proofs.Merge.Elements

/-!
# A reconcile step records what it applied

`Marker.reconcile_retrieve`: after a step the marker holds the desired document, less the marker
itself. The text of the snapshot is put into the desired document before the merge
(`stamp_success`), a merge leaves desired text in its place whatever stood there before
(`mergeAt_getPath?_string`), and the text is read as the document if its doubles read back
(`Json.read?_compact`, `DoublesReadBack.reread?`).
-/
namespace Reconcile

namespace Doc

theorem openField_success {object name : String} {parent fields : Fields Doc}
    (h : openField object name parent = .ok fields) :
    (parent.get? name = none ∨ parent.get? name = some .null) ∧ fields = [] ∨
      parent.get? name = some (.object fields) := by
  unfold openField at h
  split at h
  · next missing =>
    cases h
    exact Or.inl ⟨Or.inl missing, rfl⟩
  · next null =>
    cases h
    exact Or.inl ⟨Or.inr null, rfl⟩
  · next found =>
    cases h
    exact Or.inr found
  · cases h

theorem getPath?_openField {object name next : String} {parent fields : Fields Doc}
    {path : List String} (h : openField object name parent = .ok fields) :
    (Doc.object parent).getPath? (name :: next :: path) =
      (Doc.object fields).getPath? (next :: path) := by
  have field : (Doc.object parent).get? name = parent.get? name := rfl
  rw [getPath?_cons, field]
  rcases openField_success h with ⟨missing | absent, rfl⟩ | found
  · rw [missing, getPath?_cons]
    rfl
  · rw [absent, Option.bind_some, getPath?_cons, getPath?_cons]
    rfl
  · rw [found, Option.bind_some]

theorem exists_metadata {doc : Doc} {annotations : Fields Doc}
    (held : doc.getPath? ["metadata", "annotations"] = some (.object annotations)) :
    ∃ root metadata : Fields Doc, doc = .object root ∧
      root.get? "metadata" = some (.object metadata) ∧
      metadata.get? "annotations" = some (.object annotations) := by
  rw [getPath?_cons, Option.bind_eq_some_iff] at held
  obtain ⟨inner, atMetadata, held⟩ := held
  rw [getPath?_cons, Option.bind_eq_some_iff] at held
  obtain ⟨value, atAnnotations, held⟩ := held
  cases held
  cases doc with
  | object root =>
    cases inner with
    | object metadata => exact ⟨root, metadata, rfl, atMetadata, atAnnotations⟩
    | _ => cases atAnnotations
  | _ => cases atMetadata

theorem wellFormed_insert {fields : Fields Doc} {key : String} {value : Doc}
    (wellFormed : (object fields).WellFormed) (wellFormedValue : value.WellFormed) :
    (object (fields.insert key value)).WellFormed := by
  obtain ⟨nodup, each⟩ := wellFormed_object_iff.mp wellFormed
  refine wellFormed_object_iff.mpr ⟨Fields.nodup_keys_insert nodup, fun entry member => ?_⟩
  rcases Fields.mem_insert member with rfl | old
  · exact wellFormedValue
  · exact each entry old

theorem wellFormed_openField {object name : String} {parent fields : Fields Doc}
    (wellFormed : (Doc.object parent).WellFormed) (h : openField object name parent = .ok fields) :
    (Doc.object fields).WellFormed := by
  rcases openField_success h with ⟨_, rfl⟩ | found
  · decide
  · exact wellFormed.of_get? found

/-- Annotating inserts the text into the annotations, those into the metadata, and the metadata into
the document. -/
theorem annotate_eq {doc out : Doc} {name text : String} (h : doc.annotate name text = .ok out) :
    ∃ root metadata annotations : Fields Doc, doc = .object root ∧
      openField doc.describe "metadata" root = .ok metadata ∧
      openField doc.describe "annotations" metadata = .ok annotations ∧
      out = .object (root.insert "metadata" (.object (metadata.insert "annotations"
        (.object (annotations.insert name (.string text)))))) := by
  unfold annotate at h
  split at h
  · next root =>
    obtain ⟨metadata, openMetadata, h⟩ := ok_of_bind h
    obtain ⟨annotations, openAnnotations, h⟩ := ok_of_bind h
    cases h
    exact ⟨root, metadata, annotations, rfl, openMetadata, openAnnotations, rfl⟩
  · cases h

theorem getPath?_annotate {doc out : Doc} {name text : String}
    (h : doc.annotate name text = .ok out) :
    out.getPath? ["metadata", "annotations", name] = some (.string text) := by
  obtain ⟨_, _, _, _, _, _, rfl⟩ := annotate_eq h
  simp [getPath?_cons, get?]

/-- An annotated document holds the text under the name, and differs in its metadata only. -/
theorem annotate_success {doc out : Doc} {name text : String}
    (h : doc.annotate name text = .ok out) (wellFormed : doc.WellFormed) :
    out.getPath? ["metadata", "annotations", name] = some (.string text) ∧ out.WellFormed ∧
      ∀ other, other ≠ "metadata" → out.get? other = doc.get? other := by
  refine ⟨getPath?_annotate h, ?_⟩
  obtain ⟨root, metadata, annotations, rfl, openMetadata, openAnnotations, rfl⟩ := annotate_eq h
  have wellFormedMetadata := wellFormed_openField wellFormed openMetadata
  have wellFormedAnnotations := wellFormed_openField wellFormedMetadata openAnnotations
  have text : (string text).WellFormed := rfl
  refine ⟨?_, fun other different => Fields.get?_insert_of_ne different⟩
  exact wellFormed_insert wellFormed (wellFormed_insert wellFormedMetadata
    (wellFormed_insert wellFormedAnnotations text))

theorem annotation?_of_getPath? {doc : Doc} {name text : String}
    (found : doc.getPath? ["metadata", "annotations", name] = some (.string text)) :
    doc.annotation? name = .ok (some text) := by
  unfold annotation?
  rw [found]

end Doc

/-- A merge leaves desired text in its place if what it replaces is neither a list nor an object. The
induction is on the path: where the observed document has no value, the desired one is merged into
null. -/
theorem mergeAt_getPath?_string {base : Path} {observed desired merged : Doc}
    {lastApplied : Option Doc} {path : List String} {text : String}
    (wellFormed : desired.WellFormed) (h : mergeAt base observed lastApplied desired = .ok merged)
    (wanted : desired.getPath? path = some (.string text))
    (replaceable : ∀ current, observed.getPath? path = some current → current.isScalar = true) :
    merged.getPath? path = some (.string text) := by
  induction path generalizing base observed lastApplied desired merged with
  | nil =>
    cases wanted
    rw [mergeAt_scalar (replaceable observed rfl)] at h
    cases h
    rfl
  | cons key rest ih =>
    have desiredField := wanted
    rw [Doc.getPath?_cons, Option.bind_eq_some_iff] at desiredField
    obtain ⟨value, found, inner⟩ := desiredField
    cases observed with
    | object current =>
      obtain ⟨out, rfl, fields⟩ := mergeAt_object_success wellFormed h
      obtain ⟨result, revised, stored⟩ := fields.merged key value found
      have stored : (Doc.object out).get? key = some result := stored
      rw [Doc.getPath?_cons, stored]
      refine ih (wellFormed.of_get? found) revised inner fun below reached => ?_
      cases present : Fields.get? current key with
      | none =>
        rw [present, Option.getD_none] at reached
        cases rest with
        | nil => cases reached; rfl
        | cons next rest => rw [Doc.getPath?_cons] at reached; cases reached
      | some old =>
        rw [present, Option.getD_some] at reached
        refine replaceable below ?_
        have present : (Doc.object current).get? key = some old := present
        rw [Doc.getPath?_cons, present]
        exact reached
    | array items =>
      obtain ⟨rfl | ⟨items, rfl⟩, _⟩ := mergeAt_array_success h
      · cases found
      · cases found
    | _ =>
      rw [mergeAt_scalar rfl] at h
      cases h
      exact wanted

namespace Marker

/-- Where a document holds the marker. -/
def path (marker : Marker) : List String := ["metadata", "annotations", marker.key]

theorem strip_of_annotations (marker : Marker) {root metadata annotations : Fields Doc}
    (atMetadata : root.get? "metadata" = some (.object metadata))
    (atAnnotations : metadata.get? "annotations" = some (.object annotations)) :
    marker.strip (.object root) = .object (Fields.insert root "metadata"
      (.object (Fields.insert metadata "annotations"
        (.object (Fields.erase annotations marker.key))))) := by
  have outer : (Doc.object root).get? "metadata" = some (.object metadata) := atMetadata
  have inner : (Doc.object root).getPath? ["metadata", "annotations"] =
      some (.object annotations) := by
    rw [Doc.getPath?_cons, outer]
    exact atAnnotations
  unfold strip
  rw [outer, inner]

theorem strip_of_no_annotations (marker : Marker) {doc : Doc}
    (other : ∀ annotations,
      doc.getPath? ["metadata", "annotations"] ≠ some (.object annotations)) :
    marker.strip doc = doc := by
  unfold strip
  split
  · next found => exact absurd found (other _)
  · rfl

/-- Stripping a document takes the marker out and changes nothing else. -/
theorem strip_eq_without (marker : Marker) {doc : Doc} (wellFormed : doc.WellFormed) :
    marker.strip doc = doc.without marker.path := by
  by_cases held : ∃ annotations,
      doc.getPath? ["metadata", "annotations"] = some (.object annotations)
  · obtain ⟨annotations, held⟩ := held
    obtain ⟨root, metadata, rfl, atMetadata, atAnnotations⟩ := Doc.exists_metadata held
    have metadataFormed : (Doc.object metadata).WellFormed := wellFormed.of_get? atMetadata
    unfold path
    rw [marker.strip_of_annotations atMetadata atAnnotations, Doc.without_cons,
      Fields.alter_of_get? wellFormed.nodup_names atMetadata, Doc.without_cons,
      Fields.alter_of_get? metadataFormed.nodup_names atAnnotations]
    rfl
  · have other := not_exists.mp held
    rw [marker.strip_of_no_annotations other]
    exact (Doc.without_of_no_object marker.key wellFormed other).symm

theorem wellFormed_strip (marker : Marker) {doc : Doc} (wellFormed : doc.WellFormed) :
    (marker.strip doc).WellFormed := by
  rw [marker.strip_eq_without wellFormed]
  exact wellFormed.without marker.path

theorem depth_strip_le (marker : Marker) {doc : Doc} (wellFormed : doc.WellFormed) :
    (marker.strip doc).depth ≤ doc.depth := by
  rw [marker.strip_eq_without wellFormed]
  exact Doc.depth_without_le doc marker.path

/-- The marker is gone from a stripped document. -/
theorem getPath?_strip (marker : Marker) {doc : Doc} (wellFormed : doc.WellFormed) :
    (marker.strip doc).getPath? marker.path = none := by
  rw [marker.strip_eq_without wellFormed]
  exact Doc.getPath?_without doc (List.cons_ne_nil _ _)

/-- A stripped object has the names that it had. -/
theorem strip_object (marker : Marker) {fields : Fields Doc}
    (wellFormed : (Doc.object fields).WellFormed) :
    ∃ kept, marker.strip (.object fields) = .object kept ∧ Fields.keys kept = Fields.keys fields := by
  rw [marker.strip_eq_without wellFormed]
  exact ⟨_, rfl, Fields.keys_alter fields "metadata" _⟩

theorem strip_eq_empty_iff (marker : Marker) {doc : Doc} (wellFormed : doc.WellFormed) :
    (marker.strip doc = .null ∨ marker.strip doc = .object []) ↔
      (doc = .null ∨ doc = .object []) := by
  cases doc with
  | object fields =>
    obtain ⟨kept, stripped, names⟩ := marker.strip_object wellFormed
    rw [stripped]
    have empty (fields : Fields Doc) : fields.keys = [] ↔ fields = [] := List.map_eq_nil_iff
    have same : kept = [] ↔ fields = [] := by rw [← empty, ← empty, names]
    simp [same]
  | _ => rfl

theorem record_object {α : Type} [Annotated α] {marker : Marker} {fields : Fields Doc} (thing : α)
    (nonempty : fields ≠ []) :
    marker.record thing (.object fields) =
      Annotated.annotate thing marker.key (Json.compact (.object fields)) := by
  cases fields with
  | nil => exact absurd rfl nonempty
  | cons first rest => rfl

theorem record_success {marker : Marker} {object snapshot out : Doc}
    (h : marker.record object snapshot = .ok out) :
    (snapshot = .null ∨ snapshot = .object []) ∧ out = object ∨
      ∃ fields, fields ≠ [] ∧ snapshot = .object fields ∧
        object.annotate marker.key (Json.compact snapshot) = .ok out := by
  unfold record at h
  split at h
  · cases h
    exact Or.inl ⟨Or.inl rfl, rfl⟩
  · cases h
    exact Or.inl ⟨Or.inr rfl, rfl⟩
  · next fields nonempty => exact Or.inr ⟨fields, nonempty, rfl, h⟩
  · cases h

/-- The stamp of a document: null and the empty object carry none, and any other object holds the
text of its stripped self where the marker is kept and differs from itself in the metadata only. -/
theorem stamp_success {marker : Marker} {desired stamped : Doc} (wellFormed : desired.WellFormed)
    (h : marker.stamp desired = .ok stamped) :
    (desired = .null ∨ desired = .object []) ∧ stamped = desired ∨
      (∃ fields, fields ≠ [] ∧ desired = .object fields) ∧ stamped.WellFormed ∧
        stamped.getPath? marker.path = some (.string (Json.compact (marker.strip desired))) ∧
        ∀ name, name ≠ "metadata" → stamped.get? name = desired.get? name := by
  rcases record_success h with ⟨empty, rfl⟩ | ⟨kept, nonempty, snapshot, annotated⟩
  · have empty := (marker.strip_eq_empty_iff wellFormed).mp empty
    refine Or.inl ⟨empty, ?_⟩
    rcases empty with rfl | rfl
    · rfl
    · rfl
  · obtain ⟨held, wellFormedStamped, others⟩ :=
      Doc.annotate_success annotated (marker.wellFormed_strip wellFormed)
    refine Or.inr ⟨?_, wellFormedStamped, held, ?_⟩
    · cases desired with
      | object fields =>
        refine ⟨fields, ?_, rfl⟩
        rintro rfl
        cases snapshot
        exact nonempty rfl
      | _ => cases snapshot
    · intro name different
      rw [others name different, marker.strip_eq_without wellFormed]
      exact Doc.get?_without_of_ne different

theorem wellFormed_stamp {marker : Marker} {desired stamped : Doc} (wellFormed : desired.WellFormed)
    (h : marker.stamp desired = .ok stamped) : stamped.WellFormed := by
  rcases stamp_success wellFormed h with ⟨_, rfl⟩ | ⟨_, wellFormedStamped, _⟩
  · exact wellFormed
  · exact wellFormedStamped

/-- The marker gives back what is read of the text of an object. -/
theorem retrieve_of_noted {α : Type} [Annotated α] {marker : Marker} {thing : α}
    {fields : Fields Doc} (wellFormed : (Doc.object fields).WellFormed)
    (noted : Annotated.annotation? thing marker.key =
      .ok (some (Json.compact (.object fields)))) :
    marker.retrieve thing =
      match if (Doc.object fields).depth ≤ snapshotDepth
        then (Doc.object fields).reread? .stepwise else none with
      | some read => .ok (some read)
      | none => .error (.snapshotUnreadable (Annotated.describe thing) marker.key) := by
  have written : (Json.compact (.object fields)).isEmpty = false := by
    obtain ⟨c, tail, text, _⟩ := Json.write_opens (.object fields) []
    unfold Json.compact
    rw [text]
    simp
  unfold retrieve
  rw [noted]
  change (if (Json.compact (.object fields)).isEmpty = true then _ else _) = _
  rw [written, if_neg (by decide), Json.read?_compact snapshotDepth wellFormed]
  cases within : if (Doc.object fields).depth ≤ snapshotDepth
      then (Doc.object fields).reread? .stepwise else none with
  | none => rfl
  | some read =>
    obtain ⟨_, reread⟩ := Option.ite_none_right_eq_some.mp within
    obtain ⟨kept, rfl, _⟩ := Doc.reread?_object reread
    rfl

/-- Reading back the text of an object whose doubles read back gives the object, if it does not nest
too deep for a snapshot. -/
theorem retrieve_of_readsBack {α : Type} [Annotated α] {marker : Marker} {thing : α}
    {fields : Fields Doc} (wellFormed : (Doc.object fields).WellFormed)
    (readsBack : (Doc.object fields).DoublesReadBack)
    (noted : Annotated.annotation? thing marker.key =
      .ok (some (Json.compact (.object fields)))) :
    marker.retrieve thing =
      if (Doc.object fields).depth ≤ snapshotDepth then .ok (some (.object fields))
      else .error (.snapshotUnreadable (Annotated.describe thing) marker.key) := by
  rw [retrieve_of_noted wellFormed noted, readsBack.reread?]
  by_cases shallow : (Doc.object fields).depth ≤ snapshotDepth
  · rw [if_pos shallow, if_pos shallow]
  · rw [if_neg shallow, if_neg shallow]

/-- Whatever is read of the text of an object has the names of the object. -/
theorem names_of_noted {α : Type} [Annotated α] {marker : Marker} {thing : α}
    {fields : Fields Doc} {lastApplied : Option Doc} (wellFormed : (Doc.object fields).WellFormed)
    (noted : Annotated.annotation? thing marker.key =
      .ok (some (Json.compact (.object fields))))
    (h : marker.retrieve thing = .ok lastApplied) :
    (lastApplied.getD .null).names = Fields.keys fields := by
  rw [retrieve_of_noted wellFormed noted] at h
  split at h
  case h_1 read within =>
    obtain ⟨_, reread⟩ := Option.ite_none_right_eq_some.mp within
    obtain ⟨kept, rfl, names⟩ := Doc.reread?_object reread
    cases h
    exact names
  case h_2 => cases h

theorem reconcile_success {marker : Marker} {observed desired merged : Doc}
    (h : marker.reconcile observed desired = .ok merged) :
    ∃ lastApplied stamped, marker.retrieve observed = .ok lastApplied ∧
      marker.stamp desired = .ok stamped ∧ merge observed lastApplied stamped = .ok merged := by
  unfold reconcile at h
  obtain ⟨lastApplied, retrieved, h⟩ := ok_of_bind h
  obtain ⟨stamped, stamp, h⟩ := ok_of_bind h
  exact ⟨lastApplied, stamped, retrieved, stamp, h⟩

/-- Only null and text stand where a marker could be read. -/
theorem scalar_of_retrieve {marker : Marker} {object current : Doc} {lastApplied : Option Doc}
    (h : marker.retrieve object = .ok lastApplied)
    (found : object.getPath? marker.path = some current) : current.isScalar = true := by
  have found : object.getPath? ["metadata", "annotations", marker.key] = some current := found
  unfold retrieve at h
  obtain ⟨text, noted, _⟩ := ok_of_bind h
  have noted : object.annotation? marker.key = .ok text := noted
  unfold Doc.annotation? at noted
  rw [found] at noted
  cases current with
  | array items => cases noted
  | object fields => cases noted
  | _ => rfl

/-- After a step the marker holds the text of the stripped desired document. -/
theorem getPath?_reconciled {marker : Marker} {observed desired merged : Doc}
    {fields : Fields Doc} (wellFormed : desired.WellFormed) (shape : desired = .object fields)
    (nonempty : fields ≠ []) (h : marker.reconcile observed desired = .ok merged) :
    merged.getPath? marker.path = some (.string (Json.compact (marker.strip desired))) := by
  obtain ⟨lastApplied, stamped, retrieved, stamp, h⟩ := reconcile_success h
  rcases stamp_success wellFormed stamp with ⟨rfl | rfl, _⟩ | ⟨_, wellFormedStamped, held, _⟩
  · cases shape
  · cases shape
    exact absurd rfl nonempty
  · refine mergeAt_getPath?_string wellFormedStamped h held fun current found => ?_
    exact scalar_of_retrieve retrieved found

/-- What stands where the marker is kept after a step. -/
theorem annotation?_reconciled {marker : Marker} {observed merged : Doc} {fields : Fields Doc}
    (wellFormed : (Doc.object fields).WellFormed) (nonempty : fields ≠ [])
    (h : marker.reconcile observed (.object fields) = .ok merged) :
    ∃ kept, marker.strip (.object fields) = .object kept ∧ Fields.keys kept = Fields.keys fields ∧
      (Doc.object kept).WellFormed ∧
      Annotated.annotation? merged marker.key = .ok (some (Json.compact (.object kept))) := by
  have held := getPath?_reconciled wellFormed rfl nonempty h
  have formed := marker.wellFormed_strip wellFormed
  obtain ⟨kept, stripped, names⟩ := marker.strip_object wellFormed
  rw [stripped] at held formed
  exact ⟨kept, stripped, names, formed, Doc.annotation?_of_getPath? held⟩

theorem doublesReadBack_strip (marker : Marker) {doc : Doc} (wellFormed : doc.WellFormed)
    (readsBack : doc.DoublesReadBack) : (marker.strip doc).DoublesReadBack := by
  rw [marker.strip_eq_without wellFormed]
  exact readsBack.without marker.path

/-- What the marker gives back after a step. -/
theorem retrieve_reconciled {marker : Marker} {observed merged : Doc} {fields : Fields Doc}
    (wellFormed : (Doc.object fields).WellFormed)
    (readsBack : (Doc.object fields).DoublesReadBack) (nonempty : fields ≠ [])
    (h : marker.reconcile observed (.object fields) = .ok merged) :
    marker.retrieve merged =
      if (marker.strip (.object fields)).depth ≤ snapshotDepth
      then .ok (some (marker.strip (.object fields)))
      else .error (.snapshotUnreadable merged.describe marker.key) := by
  have kept := marker.doublesReadBack_strip wellFormed readsBack
  obtain ⟨_, stripped, _, formed, noted⟩ := annotation?_reconciled wellFormed nonempty h
  rw [stripped] at kept ⊢
  exact retrieve_of_readsBack formed kept noted

/-- A step that desires an object which is not empty records that object: if its doubles read back,
retrieving gives it back without the marker and otherwise unchanged, whatever the observed document
held before. -/
theorem reconcile_retrieve {marker : Marker} {observed merged : Doc} {fields : Fields Doc}
    (wellFormed : (Doc.object fields).WellFormed)
    (readsBack : (Doc.object fields).DoublesReadBack) (nonempty : fields ≠ [])
    (shallow : (Doc.object fields).depth ≤ 127)
    (success : marker.reconcile observed (.object fields) = .ok merged) :
    marker.retrieve merged = .ok (some ((Doc.object fields).without marker.path)) ∧
      ((Doc.object fields).without marker.path).getPath? marker.path = none := by
  have stripped := marker.strip_eq_without wellFormed
  have readable : ((Doc.object fields).without marker.path).depth ≤ snapshotDepth :=
    Nat.le_trans (Doc.depth_without_le _ _) shallow
  refine ⟨?_, Doc.getPath?_without _ (List.cons_ne_nil _ _)⟩
  rw [retrieve_reconciled wellFormed readsBack nonempty success, stripped, if_pos readable]

section Echo

private def echoMarker : Marker := ⟨"applied"⟩

/-- The observed document holds the snapshot of an earlier step. -/
private def echoObserved : Doc := .object
  [("metadata", .object [("annotations", .object [("applied", .string "\x7b\"size\":1\x7d")])]),
    ("size", .number (.int 4 (by decide))), ("owner", .string "ops")]

private def oneHalf : Double := ⟨false, 2 ^ 52, 1021, by decide, by decide, by decide⟩

/-- The desired document repeats the marker that was observed. -/
private def echoDesired : Fields Doc :=
  [("metadata", .object [("annotations", .object
      [("applied", .string "\x7b\"size\":1\x7d"), ("team", .string "web")])]),
    ("replicas", .number (.int 3 (by decide))), ("share", .number (.double oneHalf))]

private def echoSnapshot : Doc := .object
  [("metadata", .object [("annotations", .object [("team", .string "web")])]),
    ("replicas", .number (.int 3 (by decide))), ("share", .number (.double oneHalf))]

private def echoMerged : Doc := .object
  [("metadata", .object [("annotations", .object [("applied", .string
      ("\x7b\"metadata\":\x7b\"annotations\":\x7b\"team\":\"web\"\x7d\x7d,\"replicas\":3," ++
        "\"share\":0.5\x7d")), ("team", .string "web")])]),
    ("owner", .string "ops"), ("replicas", .number (.int 3 (by decide))),
    ("share", .number (.double oneHalf))]

theorem reconcile_retrieve_echo :
    echoMarker.reconcile echoObserved (.object echoDesired) = .ok echoMerged ∧
      echoMarker.retrieve echoMerged = .ok (some echoSnapshot) ∧
      echoSnapshot.getPath? ["metadata", "annotations", "applied"] = none := by
  have success : echoMarker.reconcile echoObserved (.object echoDesired) = .ok echoMerged :=
    ok_of_toOption (by decide +kernel)
  have readsBack : (Doc.object echoDesired).DoublesReadBack := by decide +kernel
  exact ⟨success, reconcile_retrieve (by decide) readsBack (by decide) (by decide) success⟩

end Echo

end Marker

end Reconcile
