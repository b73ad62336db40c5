import Reconcile.InPlace
import Reconcile.Proofs.Doc.Entry
import Reconcile.Proofs.Marker.Annotations

/-!
# A snapshot is recorded whole or not at all

Recording in place makes objects on its way down before it knows that it can go on. Nothing of that
is left when it fails: what could stop it further down was there before, so nothing was made above
(`Doc.editField_run`). In place, recording is therefore `Marker.record`, and an object on which it
fails is as it was (`Marker.recordInPlace_run`). `Marker.recordInPlace_exact` says on which objects a
snapshot can be recorded and that one annotation is all that changes there.
-/
namespace Reconcile

/-- The outcome of work in place that leaves what is held as it was when it fails. -/
def wholeOrNot {σ : Type} (held : σ) : Except Failure σ → EStateM.Result Failure σ Unit
  | .ok left => .ok () left
  | .error failure => .error failure held

theorem wholeOrNot_eq_ok_iff {σ : Type} {held left : σ} {outcome : Except Failure σ} :
    wholeOrNot held outcome = .ok () left ↔ outcome = .ok left := by
  cases outcome with
  | ok value => simp [wholeOrNot]
  | error failure => simp [wholeOrNot]

theorem eq_of_wholeOrNot_eq_error {σ : Type} {held left : σ} {outcome : Except Failure σ}
    {failure : Failure} (failed : wholeOrNot held outcome = .error failure left) : left = held := by
  cases outcome with
  | ok value => cases failed
  | error failure =>
    cases failed
    rfl

/-- Work on a part is whole if the work on it alone is, and putting the part back as it was changes
nothing. -/
theorem editPart_run {σ τ : Type} {part : τ} {work : Edit τ Unit} {outcome : Except Failure τ}
    (whole : work.run part = wholeOrNot part outcome) (putBack : τ → σ → σ) (held : σ)
    (back : ∀ failure, outcome = .error failure → putBack part held = held) :
    (editPart part putBack work).run held =
      wholeOrNot held (outcome.map fun left => putBack left held) := by
  unfold EStateM.run editPart
  rw [whole]
  cases outcome with
  | ok left => rfl
  | error failure => exact congrArg (EStateM.Result.error failure) (back failure rfl)

namespace Doc

variable {object name : String} {parent fields : Fields Doc}

/-- What can be opened as an object: a missing value, null or an object. -/
def isOpen : Option Doc → Bool
  | none | some .null | some (.object _) => true
  | some _ => false

theorem openField_ok_iff :
    (∃ fields, openField object name parent = .ok fields) ↔ isOpen (parent.get? name) = true := by
  unfold openField
  constructor
  · rintro ⟨fields, opened⟩
    split at opened
    · next missing => rw [missing]; rfl
    · next null => rw [null]; rfl
    · next found => rw [found]; rfl
    · cases opened
  · intro opened
    split
    · exact ⟨[], rfl⟩
    · exact ⟨[], rfl⟩
    · exact ⟨_, rfl⟩
    · next other notNull notObject found =>
      rw [found] at opened
      cases other with
      | null => exact absurd rfl notNull
      | object fields => exact absurd rfl (notObject fields)
      | _ => cases opened

theorem opens_of_openField {change : Fields Doc → Fields Doc → Prop} {after : Fields Doc}
    (opened : openField object name parent = .ok fields) (allowed : change fields after) :
    Opens change (parent.get? name) (some (.object after)) := by
  rcases openField_success opened with ⟨missing | null, rfl⟩ | found
  · rw [missing]
    exact .missing allowed
  · rw [null]
    exact .null allowed
  · rw [found]
    exact .object allowed

/-- Stepping down to an object that is there, or can be made. Only the entry of that name has changed
then, so that what is put there later is put where it would have been. -/
theorem enterField_of_open (opened : openField object name parent = .ok fields) :
    ∃ entered : Fields Doc, (enterField object name).run parent = .ok fields entered ∧
      (∀ value, entered.insert name value = parent.insert name value) ∧
      (parent.get? name = some (.object fields) → entered = parent) := by
  rcases openField_success opened with ⟨missing | null, rfl⟩ | found
  · have absent : parent.contains name = false := by
      rw [Fields.contains, missing, Option.isSome_none]
    refine ⟨parent.insert name (.object []), ?_, Fields.insert_insert parent name _, ?_⟩
    · simp [enterField, absent, Fields.insert_insert]
    · intro found
      rw [missing] at found
      cases found
  · have present : parent.contains name = true := by
      rw [Fields.contains, null, Option.isSome_some]
    refine ⟨parent.insert name (.object []), ?_, Fields.insert_insert parent name _, ?_⟩
    · simp [enterField, present, null]
    · intro found
      rw [null] at found
      cases found
  · have present : parent.contains name = true := by
      rw [Fields.contains, found, Option.isSome_some]
    refine ⟨parent, ?_, fun _ => rfl, fun _ => rfl⟩
    simp [enterField, present, found]

theorem enterField_of_closed {failure : Failure}
    (closed : openField object name parent = .error failure) :
    (enterField object name).run parent = .error failure parent := by
  unfold openField at closed
  split at closed
  · cases closed
  · cases closed
  · cases closed
  · next other notNull notObject found =>
    cases closed
    have present : parent.contains name = true := by
      rw [Fields.contains, found, Option.isSome_some]
    cases other with
    | null => exact absurd rfl notNull
    | object fields => exact absurd rfl (notObject fields)
    | _ =>
      simp [enterField, present, found]
      rfl

/-- Work in place on the object under a name changes the parent as a whole or leaves it as it was, if
the work does so with that object and cannot fail on an empty one: an object that was made for it is
empty, and so is never left behind. -/
theorem editField_run {work : Edit (Fields Doc) Unit}
    {change : Fields Doc → Except Failure (Fields Doc)}
    (whole : ∀ fields, work.run fields = wholeOrNot fields (change fields))
    (fresh : ∃ left, change [] = .ok left) (object name : String) (parent : Fields Doc) :
    (editField object name work).run parent = wholeOrNot parent (do
      let fields ← openField object name parent
      return parent.insert name (.object (← change fields))) := by
  rw [editField, EStateM.run_bind]
  cases opened : openField object name parent with
  | error failure =>
    rw [enterField_of_closed opened]
    rfl
  | ok fields =>
    obtain ⟨entered, entering, placed, same⟩ := enterField_of_open opened
    -- Only an object that was there can make the work fail.
    have there (failure : Failure) (failed : change fields = .error failure) :
        parent.get? name = some (.object fields) := by
      rcases openField_success opened with ⟨_, rfl⟩ | found
      · obtain ⟨left, fine⟩ := fresh
        cases fine.symm.trans failed
      · exact found
    rw [entering]
    change (editPart fields _ work).run entered = _
    rw [editPart_run (whole fields)]
    · change _ = wholeOrNot parent (change fields >>= _)
      cases changed : change fields with
      | ok left =>
        change EStateM.Result.ok () (entered.insert name (.object left)) = _
        rw [placed]
        rfl
      | error failure =>
        rw [same (there failure changed)]
        rfl
    · intro failure failed
      rw [placed]
      exact (Fields.insert_get? (there failure failed)).trans (same (there failure failed)).symm

/-- Inserting cannot fail, and neither can stepping down from an empty object, so that each level is
whole because the one below it is. -/
theorem annotateInPlace_run (doc : Doc) (name text : String) :
    (annotateInPlace name text).run doc = wholeOrNot doc (doc.annotate name text) := by
  cases doc with
  | object root =>
    have insertion (annotations : Fields Doc) :
        (modify (·.insert name (.string text)) : Edit (Fields Doc) Unit).run annotations =
          wholeOrNot annotations (.ok (annotations.insert name (.string text))) := rfl
    have inAnnotations := editField_run insertion ⟨_, rfl⟩ (object root).describe "annotations"
    have inMetadata := editField_run inAnnotations ⟨_, rfl⟩ (object root).describe "metadata" root
    refine (editPart_run inMetadata (fun left _ => object left) (object root) fun _ _ => rfl).trans ?_
    rw [annotate]
    cases openField (object root).describe "metadata" root with
    | error failure => rfl
    | ok metadata =>
      refine congrArg (wholeOrNot (object root)) ?_
      change Except.map _ ((openField (object root).describe "annotations" metadata >>= _) >>= _) =
        (openField (object root).describe "annotations" metadata >>= _)
      cases openField (object root).describe "annotations" metadata with
      | error failure => rfl
      | ok annotations => rfl
  | _ => rfl

/-- An object whose metadata can be opened, and the annotations in them. -/
structure CanCarry (doc : Doc) : Prop where
  object : ∃ root, doc = .object root
  metadata : isOpen (doc.get? "metadata") = true
  annotations : isOpen (doc.getPath? ["metadata", "annotations"]) = true

theorem annotate_ok_iff {doc : Doc} {name text : String} :
    (∃ out, doc.annotate name text = .ok out) ↔ doc.CanCarry := by
  constructor
  · rintro ⟨out, annotated⟩
    obtain ⟨root, metadata, annotations, rfl, openMetadata, openAnnotations, _⟩ :=
      annotate_eq annotated
    have held := AnnotationsAt.of_open openMetadata openAnnotations
    refine ⟨⟨root, rfl⟩, openField_ok_iff.mp ⟨metadata, openMetadata⟩, ?_⟩
    rw [held.metadata]
    exact openField_ok_iff.mp ⟨annotations, openAnnotations⟩
  · rintro ⟨⟨root, rfl⟩, openMetadata, openAnnotations⟩
    obtain ⟨metadata, openMetadata⟩ := openField_ok_iff.mpr openMetadata
    rw [getPath?_openField openMetadata] at openAnnotations
    obtain ⟨annotations, openAnnotations⟩ := openField_ok_iff.mpr openAnnotations
    exact ⟨_, annotate_of_open openMetadata openAnnotations name text⟩

/-- Annotating changes the one annotation and nothing that describes the object. -/
theorem annotate_changes {doc out : Doc} {name text : String}
    (annotated : doc.annotate name text = .ok out) :
    AnnotationChanges name (fun _ now => now = some (.string text)) doc out ∧
      out.describe = doc.describe := by
  obtain ⟨root, metadata, annotations, rfl, openMetadata, openAnnotations, rfl⟩ :=
    annotate_eq annotated
  constructor
  · refine ⟨root, _, rfl, rfl, Fields.changesAt_insert (opens_of_openField openMetadata ?_)⟩
    refine Fields.changesAt_insert (opens_of_openField openAnnotations ?_)
    exact Fields.changesAt_insert rfl
  · exact (AnnotationsAt.of_open openMetadata openAnnotations).describe_eq _

end Doc

namespace Marker

/-- In place, a snapshot is recorded as `record` does it, and an object on which that fails stays as
it was. -/
theorem recordInPlace_run (marker : Marker) (held snapshot : Doc) :
    (marker.recordInPlace snapshot).run held = wholeOrNot held (marker.record held snapshot) := by
  cases snapshot with
  | object fields =>
    cases fields with
    | nil => rfl
    | cons first rest => exact Doc.annotateInPlace_run held marker.key _
  | _ => rfl

/-- Recording in place leaves an object as it was when it fails. A snapshot that is an object, and not
the empty one, can be recorded exactly on an object whose metadata are missing, null or an object, and
whose annotations are so too; its text is then the annotation of the marker, no other entry has
another value or another place, what was missing stands at the end, and the object is described as
before. -/
theorem recordInPlace_exact (marker : Marker) (held snapshot : Doc) :
    (∀ failure left, (marker.recordInPlace snapshot).run held = .error failure left → left = held) ∧
      ∀ fields, snapshot = .object fields → fields ≠ [] →
        ((∃ left, (marker.recordInPlace snapshot).run held = .ok () left) ↔ held.CanCarry) ∧
          ∀ left, (marker.recordInPlace snapshot).run held = .ok () left →
            left.getPath? marker.path = some (.string (Json.compact snapshot)) ∧
              Doc.AnnotationChanges marker.key
                (fun _ now => now = some (.string (Json.compact snapshot))) held left ∧
              left.describe = held.describe := by
  rw [recordInPlace_run]
  constructor
  · intro failure left failed
    exact eq_of_wholeOrNot_eq_error failed
  · rintro fields rfl nonempty
    have annotates : marker.record held (.object fields) =
        held.annotate marker.key (Json.compact (.object fields)) := record_object held nonempty
    simp only [wholeOrNot_eq_ok_iff, annotates]
    refine ⟨Doc.annotate_ok_iff, fun left annotated => ⟨Doc.getPath?_annotate annotated, ?_⟩⟩
    exact Doc.annotate_changes annotated

section Bare

private def bareMarker : Marker := ⟨"applied"⟩

/-- The metadata are there but null, between two other entries. -/
private def bareObject : Doc := .object
  [("kind", .string "Thing"), ("metadata", .null), ("spec", .object [])]

/-- The place of the annotations is taken by a list. -/
private def listedObject : Doc := .object
  [("metadata", .object [("annotations", .array [.string "x"])])]

private def annotatedObject : Doc := .object
  [("kind", .string "Thing"),
    ("metadata", .object [("annotations", .object [("applied", .string "\x7b\"a\":null\x7d")])]),
    ("spec", .object [])]

theorem recordInPlace_exact_bare :
    (bareMarker.recordInPlace (.object [("a", .null)])).run bareObject = .ok () annotatedObject ∧
      bareObject.CanCarry ∧ annotatedObject.describe = bareObject.describe ∧
      ¬ listedObject.CanCarry ∧
      ∃ failure, (bareMarker.recordInPlace (.object [("a", .null)])).run listedObject =
        .error failure listedObject := by
  have success : (bareMarker.recordInPlace (.object [("a", .null)])).run bareObject =
      .ok () annotatedObject := by
    have recorded : bareMarker.record bareObject (.object [("a", .null)]) = .ok annotatedObject :=
      ok_of_toOption (by decide +kernel)
    rw [recordInPlace_run, recorded]
    rfl
  have listed : ¬ listedObject.CanCarry := fun carries => nomatch carries.annotations
  obtain ⟨_, onBare⟩ := recordInPlace_exact bareMarker bareObject (.object [("a", .null)])
  obtain ⟨unchanged, onListed⟩ := recordInPlace_exact bareMarker listedObject (.object [("a", .null)])
  obtain ⟨carries, exact⟩ := onBare _ rfl (by decide)
  refine ⟨success, carries.mp ⟨_, success⟩, (exact _ success).2.2, listed, ?_⟩
  cases outcome : (bareMarker.recordInPlace (.object [("a", .null)])).run listedObject with
  | ok value left => exact absurd ((onListed _ rfl (by decide)).1.mp ⟨left, outcome⟩) listed
  | error failure left => exact ⟨failure, by rw [unchanged failure left outcome]⟩

end Bare

end Marker

end Reconcile
