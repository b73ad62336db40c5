import Reconcile.Proofs.Doc.Permuted
import Reconcile.Proofs.Marker.Annotations
import Reconcile.Proofs.Merge.Agree
import Reconcile.Resource

/-!
# Resources and the documents that mirror them

A document mirrors a resource when it is an object whose type information and metadata are those of
the resource; the annotations may stand in another order, and the document may hold more elsewhere.
Whatever is asked of the two is answered alike, and a change leaves a document that mirrors the
resource again (`run_mirrored`). So a caller may read a snapshot from the one and go on with the
other, through any sequence of calls (`transcript_mirrored`).
-/
namespace Reconcile

open Doc (Permuted withAnnotations)

/-- Texts under names, as a document. -/
def Doc.ofTexts (texts : Fields String) : Doc :=
  .object (texts.map fun entry => (entry.1, .string entry.2))

theorem Doc.Permuted.get?_ofTexts {noted : Doc} {texts : Fields String}
    (permuted : Permuted noted (.ofTexts texts)) (name : String) :
    noted.get? name = (texts.get? name).map .string := by
  have related := permuted.get? name
  have texted : (Doc.ofTexts texts).get? name = (texts.get? name).map Doc.string :=
    Fields.get?_map texts Doc.string name
  rw [texted] at related
  generalize noted.get? name = value, texts.get? name = text at related
  cases text with
  | none =>
    cases related
    rfl
  | some text =>
    cases related with
    | some same => rw [same.eq_of_scalar rfl, Option.map_some]

theorem Doc.Permuted.insert_ofTexts {fields : Fields Doc} {texts : Fields String}
    (permuted : Permuted (.object fields) (.ofTexts texts)) (name text : String) :
    Permuted (.object (fields.insert name (.string text))) (.ofTexts (texts.insert name text)) := by
  rw [Doc.ofTexts, ← Fields.insert_map]
  exact permuted.insert name (.refl _)

/-- The document holds what the resource holds, and nothing where the resource has none. -/
structure Mirrors (resource : Resource) (doc : Doc) : Prop where
  apiVersion : doc.get? "apiVersion" = resource.types.map fun types => .string types.apiVersion
  kind : doc.get? "kind" = resource.types.map fun types => .string types.kind
  metadata : ∃ fields, doc.get? "metadata" = some (.object fields)
  name : doc.getPath? ["metadata", "name"] = resource.name.map .string
  «namespace» : doc.getPath? ["metadata", "namespace"] = resource.namespace.map .string
  annotations : Option.Rel Permuted (doc.getPath? ["metadata", "annotations"])
    (resource.annotations.map Doc.ofTexts)

namespace Mirrors

variable {resource : Resource} {doc : Doc}

theorem describe_eq (mirrors : Mirrors resource doc) : resource.describe = doc.describe := by
  have text {path : List String} {held : Option String}
      (found : doc.getPath? path = held.map .string) : doc.textAt path = held.getD "" := by
    rw [Doc.textAt, found]
    cases held with
    | none => rfl
    | some _ => rfl
  have ofType {key : String} {part : TypeMeta → String}
      (found : doc.get? key = resource.types.map fun types => .string (part types)) :
      doc.textAt [key] = (resource.types.map part).getD "" := by
    refine text ?_
    rw [Doc.getPath?_cons, found]
    cases resource.types with
    | none => rfl
    | some _ => rfl
  rw [Doc.describe, ofType mirrors.apiVersion, ofType mirrors.kind, text mirrors.namespace,
    text mirrors.name]
  rfl

theorem annotation?_eq (mirrors : Mirrors resource doc) (name : String) :
    Annotated.annotation? resource name = Annotated.annotation? doc name := by
  have found : doc.getPath? ["metadata", "annotations", name] =
      (resource.annotation? name).map .string := by
    have above : doc.getPath? ["metadata", "annotations", name] =
        (doc.getPath? ["metadata", "annotations"]).bind (·.get? name) := rfl
    have related := mirrors.annotations
    rw [above, Resource.annotation?]
    generalize doc.getPath? ["metadata", "annotations"] = noted,
      resource.annotations = texts at related
    cases texts with
    | none =>
      cases related
      rfl
    | some texts =>
      cases related with
      | some permuted => exact permuted.get?_ofTexts name
  change Except.ok (resource.annotation? name) = doc.annotation? name
  rw [Doc.annotation?, found]
  cases resource.annotation? name with
  | none => rfl
  | some _ => rfl

/-- The annotations of a document that mirrors a resource can be opened. -/
theorem exists_open (mirrors : Mirrors resource doc) : ∃ root metadata annotations : Fields Doc,
    doc = .object root ∧ Doc.openField doc.describe "metadata" root = .ok metadata ∧
      Doc.openField doc.describe "annotations" metadata = .ok annotations ∧
      Permuted (.object annotations) (.ofTexts (resource.annotations.getD [])) := by
  obtain ⟨metadata, atMetadata⟩ := mirrors.metadata
  have related := mirrors.annotations
  rw [Doc.getPath?_cons, atMetadata, Option.bind_some, Doc.getPath?_cons] at related
  cases doc with
  | object root =>
    have openMetadata : Doc.openField (Doc.object root).describe "metadata" root = .ok metadata := by
      have found : Fields.get? root "metadata" = some (.object metadata) := atMetadata
      rw [Doc.openField, found]
    suffices ∃ annotations,
        Doc.openField (Doc.object root).describe "annotations" metadata = .ok annotations ∧
          Permuted (.object annotations) (.ofTexts (resource.annotations.getD [])) by
      obtain ⟨annotations, openAnnotations, permuted⟩ := this
      exact ⟨root, metadata, annotations, rfl, openMetadata, openAnnotations, permuted⟩
    change Option.Rel Permuted ((Fields.get? metadata "annotations").bind some) _ at related
    rw [Option.bind_fun_some] at related
    unfold Doc.openField
    generalize Fields.get? metadata "annotations" = noted, resource.annotations = texts at related ⊢
    cases texts with
    | none =>
      cases related
      exact ⟨[], rfl, .refl _⟩
    | some texts =>
      cases related with
      | some permuted =>
        obtain ⟨annotations, rfl⟩ := permuted.exists_object
        exact ⟨annotations, rfl, permuted⟩
  | _ => cases atMetadata

theorem annotate_agree (mirrors : Mirrors resource doc) (name text : String) :
    Agree Eq Mirrors (Annotated.annotate resource name text) (Annotated.annotate doc name text) := by
  obtain ⟨root, metadata, annotations, rfl, openMetadata, openAnnotations, permuted⟩ :=
    mirrors.exists_open
  have held : Doc.AnnotationsAt (.object root) root metadata annotations :=
    .of_open openMetadata openAnnotations
  have written := Doc.annotate_of_open openMetadata openAnnotations name text
  change Agree Eq Mirrors (.ok (resource.annotate name text)) ((Doc.object root).annotate name text)
  rw [written]
  refine .ok ⟨?_, ?_, ⟨_, Fields.get?_insert_self _ _ _⟩, ?_, ?_, ?_⟩
  · rw [held.get?_of_ne _ (by decide)]
    exact mirrors.apiVersion
  · rw [held.get?_of_ne _ (by decide)]
    exact mirrors.kind
  · rw [held.getPath?_of_ne _ (by decide)]
    exact mirrors.name
  · rw [held.getPath?_of_ne _ (by decide)]
    exact mirrors.namespace
  · rw [Doc.annotations_withAnnotations]
    exact .some (permuted.insert_ofTexts name text)

theorem record_agree (mirrors : Mirrors resource doc) (marker : Marker) (snapshot : Doc) :
    Agree Eq Mirrors (marker.record resource snapshot) (marker.record doc snapshot) := by
  unfold Marker.record
  split
  · exact .ok mirrors
  · exact .ok mirrors
  · exact mirrors.annotate_agree _ _
  · have described : Annotated.describe resource = Annotated.describe doc := mirrors.describe_eq
    rw [described]
    exact .error rfl

theorem retrieve_eq (mirrors : Mirrors resource doc) (marker : Marker) :
    marker.retrieve resource = marker.retrieve doc :=
  Marker.retrieve_eq_of_annotation? (mirrors.annotation?_eq marker.key) mirrors.describe_eq

end Mirrors

/-- What can be asked of an annotated thing, the first two through a marker. -/
inductive Call where
  | record (snapshot : Doc)
  | retrieve
  | annotate (name text : String)
  | lookup (name : String)
  | describe
  deriving DecidableEq, Repr

inductive Answer where
  | done (outcome : Except Failure Unit)
  | snapshot (outcome : Except Failure (Option Doc))
  | text (outcome : Except Failure (Option String))
  | description (text : String)
  deriving DecidableEq

/-- A change that fails leaves the thing as it was. -/
def settle (thing : α) : Except Failure α → Answer × α
  | .ok changed => (.done (.ok ()), changed)
  | .error failure => (.done (.error failure), thing)

/-- The answer to a call, and the thing afterwards. -/
def Call.run [Annotated α] (marker : Marker) (thing : α) : Call → Answer × α
  | record snapshot => settle thing (marker.record thing snapshot)
  | retrieve => (.snapshot (marker.retrieve thing), thing)
  | annotate name text => settle thing (Annotated.annotate thing name text)
  | lookup name => (.text (Annotated.annotation? thing name), thing)
  | describe => (.description (Annotated.describe thing), thing)

/-- Every answer to a sequence of calls, each with the thing after it. -/
def transcript [Annotated α] (marker : Marker) (thing : α) : List Call → List (Answer × α)
  | [] => []
  | call :: rest =>
    call.run marker thing :: transcript marker (call.run marker thing).2 rest

/-- The same was answered, and what is left mirrors. -/
def Mirrored (one : Answer × Resource) (other : Answer × Doc) : Prop :=
  one.1 = other.1 ∧ Mirrors one.2 other.2

variable {resource : Resource} {doc : Doc}

theorem settle_mirrored {left : Except Failure Resource} {right : Except Failure Doc}
    (mirrors : Mirrors resource doc) (outcomes : Agree Eq Mirrors left right) :
    Mirrored (settle resource left) (settle doc right) := by
  cases outcomes with
  | ok changed => exact ⟨rfl, changed⟩
  | error same => exact ⟨same ▸ rfl, mirrors⟩

theorem run_mirrored (mirrors : Mirrors resource doc) (marker : Marker) (call : Call) :
    Mirrored (call.run marker resource) (call.run marker doc) := by
  cases call with
  | record snapshot => exact settle_mirrored mirrors (mirrors.record_agree marker snapshot)
  | retrieve => exact ⟨congrArg Answer.snapshot (mirrors.retrieve_eq marker), mirrors⟩
  | annotate name text => exact settle_mirrored mirrors (mirrors.annotate_agree name text)
  | lookup name => exact ⟨congrArg Answer.text (mirrors.annotation?_eq name), mirrors⟩
  | describe => exact ⟨congrArg Answer.description mirrors.describe_eq, mirrors⟩

/-- A resource and a document that mirrors it answer every sequence of calls alike, and the document
mirrors the resource after each of them. -/
theorem transcript_mirrored (mirrors : Mirrors resource doc) (marker : Marker) (calls : List Call) :
    List.Forall₂ Mirrored (transcript marker resource calls) (transcript marker doc calls) := by
  induction calls generalizing resource doc with
  | nil => exact .nil
  | cons call rest ih =>
    have step := run_mirrored mirrors marker call
    exact .cons step (ih step.2)

section Dialogue

private def dialogueMarker : Marker := ⟨"applied"⟩

private def plainResource : Resource := { types := some ⟨"v1", "Pod"⟩, name := some "web" }

private def plainDoc : Doc := .object
  [("kind", .string "Pod"), ("metadata", .object [("name", .string "web")]),
    ("size", .string "4"), ("apiVersion", .string "v1")]

/-- The map of annotations is made, holds empty text, text that cannot be read, a snapshot. -/
private def dialogue : List Call :=
  [.retrieve, .record (.object []), .annotate "applied" "", .retrieve, .annotate "applied" "[]",
    .retrieve, .record (.bool true), .record (.object [("size", .null)]), .retrieve,
    .lookup "applied", .lookup "team", .describe]

private def dialogueAnswers : List Answer :=
  [.snapshot (.ok none), .done (.ok ()), .done (.ok ()), .snapshot (.ok none), .done (.ok ()),
    .snapshot (.error (.snapshotUnreadable "v1:Pod::web" "applied")),
    .done (.error (.snapshotNotObject "v1:Pod::web" "applied" .bool)), .done (.ok ()),
    .snapshot (.ok (some (.object [("size", .null)]))),
    .text (.ok (some "\x7b\"size\":null\x7d")), .text (.ok none), .description "v1:Pod::web"]

theorem transcript_mirrored_dialogue :
    Mirrors plainResource plainDoc ∧
      (transcript dialogueMarker plainDoc dialogue).map (·.1) = dialogueAnswers ∧
      List.Forall₂ Mirrored (transcript dialogueMarker plainResource dialogue)
        (transcript dialogueMarker plainDoc dialogue) := by
  have mirrors : Mirrors plainResource plainDoc := ⟨rfl, rfl, ⟨_, rfl⟩, rfl, rfl, .none⟩
  exact ⟨mirrors, by decide +kernel, transcript_mirrored mirrors dialogueMarker dialogue⟩

end Dialogue

end Reconcile
