import Reconcile.Proofs.Doc.Identities
import Reconcile.Proofs.Merge.Objects

/-!
# The first conflict

A merge fails exactly when one of the places that it visits conflicts, and then with the failure of
the first of them (`merge_error_iff`). A place holds what the three documents have there; below an
object it has one place for each desired field, and below keyed lists one for each desired identity
(`Place.below`). The places are visited in depth-first order, each before those below it
(`Place.visited`). A field that was last applied and is no longer desired is at no place, so nothing
is asked of it; neither is a list without an identity field looked into.
-/
namespace Reconcile

/-- Neither null nor of the shape. -/
def Doc.Misfits (doc : Doc) (expected : Shape) : Prop := doc.shape ≠ .null ∧ doc.shape ≠ expected

instance (doc : Doc) (expected : Shape) : Decidable (doc.Misfits expected) :=
  inferInstanceAs (Decidable (_ ∧ _))

/-- What the three documents of a merge have at one path. -/
structure Place where
  path : Path
  observed : Doc
  lastApplied : Option Doc
  desired : Doc

namespace Place

/-- The place where a merge starts. -/
def root (observed : Doc) (lastApplied : Option Doc) (desired : Doc) : Place :=
  ⟨.root, observed, lastApplied, desired⟩

/-- The place of a desired field. What is not observed there counts as null. -/
def field (place : Place) (key : String) (wanted : Doc) : Place :=
  ⟨place.path.child key, (place.observed.get? key).getD .null,
    place.lastApplied.bind (·.get? key), wanted⟩

/-- The place of an identity in keyed lists, where the last elements that have it count. -/
def element (place : Place) (key identity : String) : Place :=
  ⟨place.path.child identity, (lastNamed key place.observed.items identity).getD .null,
    lastNamed key (place.lastApplied.getD .null).items identity,
    (lastNamed key place.desired.items identity).getD .null⟩

/-- The identity field of the lists at a place, if they have one. -/
def elementKey? (place : Place) : Option String :=
  sharedKey? [place.observed.items, (place.lastApplied.getD .null).items,
    place.desired.items]

/-- The places one step below. -/
def below (place : Place) : List Place :=
  match place.observed with
  | .object _ => place.desired.fields.map fun entry => place.field entry.1 entry.2
  | .array _ =>
    match place.elementKey? with
    | some key => (identities key place.desired.items).map (place.element key)
    | none => []
  | _ => []

theorem mem_below_iff {place inner : Place} :
    inner ∈ place.below ↔
      (place.observed.shape = .object ∧
        ∃ entry ∈ place.desired.fields, inner = place.field entry.1 entry.2) ∨
      place.observed.shape = .array ∧ ∃ key, place.elementKey? = some key ∧
        ∃ identity ∈ identities key place.desired.items, inner = place.element key identity := by
  unfold below
  cases place.observed with
  | object current => simp [Doc.shape, eq_comm]
  | array items =>
    cases place.elementKey? with
    | none => simp [Doc.shape]
    | some key => simp [Doc.shape, eq_comm]
  | _ => simp [Doc.shape]

theorem sizeOf_field_lt {doc : Doc} {entry : String × Doc} (member : entry ∈ doc.fields) :
    sizeOf entry.2 < sizeOf doc := by
  cases doc with
  | object fields =>
    have inside := List.sizeOf_lt_of_mem member
    have value : sizeOf entry = 1 + sizeOf entry.1 + sizeOf entry.2 := rfl
    have whole : sizeOf (Doc.object fields) = 1 + sizeOf fields := by simp
    change sizeOf entry < sizeOf fields at inside
    omega
  | _ => cases member

theorem sizeOf_item_lt {doc item : Doc} (member : item ∈ doc.items) : sizeOf item < sizeOf doc := by
  cases doc with
  | array items =>
    have inside := List.sizeOf_lt_of_mem member
    have whole : sizeOf (Doc.array items) = 1 + sizeOf items := by simp
    change sizeOf item < sizeOf items at inside
    omega
  | _ => cases member

/-- What is desired at a place below is a part of what is desired at the place. -/
theorem sizeOf_below_lt {place inner : Place} (member : inner ∈ place.below) :
    sizeOf inner.desired < sizeOf place.desired := by
  rcases mem_below_iff.mp member with ⟨_, entry, listed, rfl⟩ | ⟨_, key, _, identity, named, rfl⟩
  · exact sizeOf_field_lt listed
  · unfold element
    cases found : lastNamed key place.desired.items identity with
    | some item => exact sizeOf_item_lt (mem_of_lastNamed found).1
    | none => exact absurd named (lastNamed_eq_none_iff.mp found)

/-- The place and all places below it, in the order in which a merge comes to them. -/
def visited (place : Place) : List Place :=
  place :: place.below.attach.flatMap fun inner => inner.1.visited
termination_by sizeOf place.desired
decreasing_by exact sizeOf_below_lt inner.2

theorem visited_eq (place : Place) : place.visited = place :: place.below.flatMap visited := by
  rw [visited]
  simp [List.flatMap_subtype]

/-- An object or a list is observed, and what was last applied or is desired does not fit it. -/
def Conflicts (place : Place) : Prop :=
  (place.observed.shape = .object ∨ place.observed.shape = .array) ∧
    ((∃ last ∈ place.lastApplied, last.Misfits place.observed.shape) ∨
      place.desired.Misfits place.observed.shape)

instance (place : Place) : Decidable place.Conflicts :=
  inferInstanceAs (Decidable (_ ∧ (_ ∨ _)))

/-- The part that is to blame for a conflict; what was last applied is looked at first. -/
def offender (place : Place) : Side × Doc :=
  let last := place.lastApplied.getD .null
  if last.Misfits place.observed.shape then (.lastApplied, last) else (.desired, place.desired)

def failure (place : Place) : Failure :=
  .shapeMismatch place.offender.1 place.path place.observed.shape place.offender.2.shape

/-- The merge of what stands at a place. -/
def merged (place : Place) : Except Failure Doc :=
  mergeAt place.path place.observed place.lastApplied place.desired

def conflict? (place : Place) : Option Failure :=
  if place.Conflicts then some place.failure else none

end Place

section Failures

variable {α β : Type}

/-- Why a run failed, if it did. -/
def failure? : Except Failure α → Option Failure
  | .ok _ => none
  | .error failure => some failure

theorem failure?_eq_some_iff {result : Except Failure α} {failure : Failure} :
    failure? result = some failure ↔ result = .error failure := by
  cases result with
  | ok value => simp [failure?]
  | error other => simp [failure?]

theorem failure?_eq_none_iff {result : Except Failure α} :
    failure? result = none ↔ ∃ value, result = .ok value := by
  cases result with
  | ok value => simp [failure?]
  | error other => simp [failure?]

theorem failure?_map (result : Except Failure α) (f : α → β) :
    failure? (result >>= fun value => pure (f value)) = failure? result := by
  cases result with
  | ok value => rfl
  | error other => rfl

theorem findSome?_congr {l : List α} {f g : α → Option β} (same : ∀ a ∈ l, f a = g a) :
    l.findSome? f = l.findSome? g := by
  induction l with
  | nil => rfl
  | cons a rest ih =>
    rw [List.findSome?_cons, List.findSome?_cons, same a List.mem_cons_self,
      ih fun other member => same other (List.mem_cons_of_mem a member)]

theorem findSome?_flatMap {γ : Type} (l : List α) (f : α → List β) (g : β → Option γ) :
    (l.flatMap f).findSome? g = l.findSome? fun a => (f a).findSome? g := by
  induction l with
  | nil => rfl
  | cons a rest ih =>
    rw [List.flatMap_cons, List.findSome?_append, List.findSome?_cons, ih]
    cases (f a).findSome? g with
    | none => rfl
    | some c => rfl

end Failures

section Fields

variable {path : Path} {lastApplied : Option (Fields Doc)}

/-- A run of revisions fails as the first of them that fails at the value that it starts from. -/
theorem failure?_foldlM_reviseField {start : Fields Doc} {revisions : Fields Revision}
    (nodup : revisions.keys.Nodup) :
    failure? (revisions.foldlM (reviseField path lastApplied) start) =
      revisions.findSome? fun entry => failure? (entry.2 (path.child entry.1)
        ((start.get? entry.1).getD .null) (lastApplied.bind (·.get? entry.1))) := by
  induction revisions generalizing start with
  | nil => rfl
  | cons entry rest ih =>
    rw [Fields.keys_cons, List.nodup_cons] at nodup
    rw [List.foldlM_cons, List.findSome?_cons, reviseField]
    cases entry.2 (path.child entry.1) ((start.get? entry.1).getD .null)
      (lastApplied.bind (·.get? entry.1)) with
    | error failure => rfl
    | ok value =>
      change failure? (rest.foldlM (reviseField path lastApplied) (start.insert entry.1 value)) = _
      rw [ih nodup.2]
      refine findSome?_congr fun other member => ?_
      have different : other.1 ≠ entry.1 := fun equal =>
        nodup.1 (equal ▸ Fields.mem_keys_of_mem member)
      rw [Fields.get?_insert_of_ne different]

theorem failure?_reviseFields {current : Fields Doc} {revisions : Fields Revision}
    (nodup : revisions.keys.Nodup) :
    failure? (reviseFields path current lastApplied revisions) =
      revisions.findSome? fun entry => failure? (entry.2 (path.child entry.1)
        ((current.get? entry.1).getD .null) (lastApplied.bind (·.get? entry.1))) := by
  rw [reviseFields, failure?_foldlM_reviseField nodup]
  refine findSome?_congr fun entry member => ?_
  rw [get?_retract, if_pos (.inl (Fields.mem_keys_of_mem member))]

end Fields

/-- Fields with distinct names are the values found under them. -/
theorem Fields.eq_map_keys {fields : Fields Doc} (nodup : fields.keys.Nodup) :
    fields = fields.keys.map fun key => (key, (fields.get? key).getD .null) := by
  rw [keys, List.map_map]
  conv_lhs => rw [← List.map_id fields]
  refine List.map_congr_left fun entry member => ?_
  simp [get?_of_mem nodup member]

theorem byIdentity_eq_map_identities (key : String) (items : List Doc) :
    byIdentity key items =
      (identities key items).map fun identity =>
        (identity, (lastNamed key items identity).getD .null) := by
  have nodup : (byIdentity key items).keys.Nodup := Fields.nodup_keys_ofList _
  rw [Fields.eq_map_keys nodup, keys_byIdentity_eq]
  simp only [get?_byIdentity_eq]

theorem failure?_reviseElements {path : Path} {key : String}
    {current lastApplied desired : List Doc} :
    failure? (reviseElements path key current lastApplied
        (desired.map fun item => (item, item.revision))) =
      (identities key desired).findSome? fun identity =>
        failure? (mergeAt (path.child identity) ((lastNamed key current identity).getD .null)
          (lastNamed key lastApplied identity) ((lastNamed key desired identity).getD .null)) := by
  have names := Fields.keys_map (byIdentity key desired) Doc.revision
  rw [reviseElements, failure?_map, ofList_revisions,
    failure?_reviseFields (names ▸ Fields.nodup_keys_ofList _),
    byIdentity_eq_map_identities key desired, List.map_map, List.findSome?_map]
  simp only [Function.comp_def, get?_byIdentity_eq, Option.bind_some]
  rfl

section Expected

variable {side : Side} {path : Path} {doc : Option Doc}

theorem expectObject_eq :
    expectObject side path doc =
      if (doc.getD .null).Misfits .object
      then .error (.shapeMismatch side path .object (doc.getD .null).shape)
      else .ok (doc.bind Doc.asObject?) := by
  cases doc with
  | none => rfl
  | some doc => cases doc with
    | _ => rfl

theorem expectArray_eq :
    expectArray side path doc =
      if (doc.getD .null).Misfits .array
      then .error (.shapeMismatch side path .array (doc.getD .null).shape)
      else .ok (doc.getD .null).items := by
  cases doc with
  | none => rfl
  | some doc => cases doc with
    | _ => rfl

theorem fieldRevisions?_eq (desired : Doc) :
    desired.fieldRevisions? = if desired.Misfits .object then none
      else some (desired.fields.map fun entry => (entry.1, entry.2.revision)) := by
  cases desired with
  | _ => rfl

theorem itemRevisions?_eq (desired : Doc) :
    desired.itemRevisions? = if desired.Misfits .array then none
      else some (desired.items.map fun item => (item, item.revision)) := by
  cases desired with
  | _ => rfl

end Expected

namespace Place

variable {place : Place}

theorem exists_misfits_iff {last : Option Doc} {expected : Shape} :
    (∃ doc ∈ last, doc.Misfits expected) ↔ (last.getD .null).Misfits expected := by
  cases last with
  | none => simp [Doc.Misfits, Doc.shape]
  | some doc => simp

/-- Where a place conflicts its merge goes no further. -/
theorem merged_of_conflicts (conflicts : place.Conflicts) :
    place.merged = .error place.failure := by
  obtain ⟨container, misfits⟩ := conflicts
  rw [exists_misfits_iff] at misfits
  cases observed : place.observed with
  | object current =>
    have shape : place.observed.shape = .object := by rw [observed]; rfl
    rw [merged, observed, mergeAt_object, expectObject_eq, fieldRevisions?_eq, failure, offender,
      shape]
    rw [shape] at misfits
    by_cases applied : (place.lastApplied.getD .null).Misfits .object
    · rw [if_pos applied, if_pos applied]
      rfl
    · rw [if_neg applied, if_neg applied, if_pos (misfits.resolve_left applied)]
      rfl
  | array current =>
    have shape : place.observed.shape = .array := by rw [observed]; rfl
    rw [merged, observed, mergeAt_array, expectArray_eq, itemRevisions?_eq, failure, offender,
      shape]
    rw [shape] at misfits
    by_cases applied : (place.lastApplied.getD .null).Misfits .array
    · rw [if_pos applied, if_pos applied]
      rfl
    · rw [if_neg applied, if_neg applied, if_pos (misfits.resolve_left applied)]
      rfl
  | _ => simp [observed, Doc.shape] at container

theorem fits_of_not_conflicts {expected : Shape} (fits : ¬ place.Conflicts)
    (shape : place.observed.shape = expected) (container : expected = .object ∨ expected = .array) :
    ¬ (place.lastApplied.getD .null).Misfits expected ∧ ¬ place.desired.Misfits expected := by
  subst shape
  rw [← not_or, ← exists_misfits_iff]
  exact fun misfits => fits ⟨container, misfits⟩

theorem failure?_merged_object {current : Fields Doc} (wellFormed : place.desired.WellFormed)
    (observed : place.observed = .object current) (fits : ¬ place.Conflicts) :
    failure? place.merged = place.below.findSome? fun inner => failure? inner.merged := by
  have shape : place.observed.shape = .object := by rw [observed]; rfl
  obtain ⟨applied, desires⟩ := fits_of_not_conflicts fits shape (.inl rfl)
  have nodup :
      (Fields.keys (place.desired.fields.map fun entry => (entry.1, entry.2.revision))).Nodup := by
    rw [Fields.keys_map]
    exact Doc.nodup_fields wellFormed
  have last (key : String) : (place.lastApplied.bind Doc.asObject?).bind (·.get? key) =
      place.lastApplied.bind (·.get? key) := by
    rw [Option.bind_assoc]
    congr 1
    funext doc
    cases doc with
    | _ => rfl
  rw [merged, observed, mergeAt_object, expectObject_eq, fieldRevisions?_eq, if_neg applied,
    if_neg desires]
  change failure? (reviseFields place.path current (place.lastApplied.bind Doc.asObject?)
    (place.desired.fields.map fun entry => (entry.1, entry.2.revision)) >>= fun out =>
      pure (Doc.object out)) = _
  rw [failure?_map, failure?_reviseFields nodup, below, observed, List.findSome?_map,
    List.findSome?_map]
  refine findSome?_congr fun entry _ => ?_
  simp only [Function.comp_apply, last, merged, field, observed]
  rfl

theorem failure?_merged_array {current : List Doc} (observed : place.observed = .array current)
    (fits : ¬ place.Conflicts) :
    failure? place.merged = place.below.findSome? fun inner => failure? inner.merged := by
  have shape : place.observed.shape = .array := by rw [observed]; rfl
  obtain ⟨applied, desires⟩ := fits_of_not_conflicts fits shape (.inr rfl)
  rw [merged, observed, mergeAt_array, expectArray_eq, itemRevisions?_eq, if_neg applied,
    if_neg desires, below]
  simp only [bind, Except.bind, fst_itemRevisions, elementKey?, observed, Doc.items_array]
  cases shared :
      sharedKey? [current, (place.lastApplied.getD .null).items, place.desired.items] with
  | none => rfl
  | some key =>
    change failure? (reviseElements place.path key current (place.lastApplied.getD .null).items
      (place.desired.items.map fun item => (item, item.revision)) >>= fun out =>
        pure (Doc.array out)) = _
    rw [failure?_map, failure?_reviseElements, List.findSome?_map]
    simp only [Function.comp_def, merged, element, observed, Doc.items_array]

/-- One step: a merge fails at the place itself, or else as the first place below it that fails. -/
theorem failure?_merged (wellFormed : place.desired.WellFormed) :
    failure? place.merged =
      place.conflict?.or (place.below.findSome? fun inner => failure? inner.merged) := by
  by_cases conflicts : place.Conflicts
  · rw [conflict?, if_pos conflicts, merged_of_conflicts conflicts]
    rfl
  · rw [conflict?, if_neg conflicts, Option.none_or]
    cases observed : place.observed with
    | object current => exact failure?_merged_object wellFormed observed conflicts
    | array current => exact failure?_merged_array observed conflicts
    | _ =>
      rw [merged, observed, mergeAt_scalar rfl, below, observed]
      rfl

theorem wellFormed_below {inner : Place} (wellFormed : place.desired.WellFormed)
    (member : inner ∈ place.below) : inner.desired.WellFormed := by
  rcases mem_below_iff.mp member with ⟨_, entry, listed, rfl⟩ | ⟨_, key, _, identity, _, rfl⟩
  · exact Doc.wellFormed_of_mem_fields wellFormed listed
  · unfold element
    cases found : lastNamed key place.desired.items identity with
    | some item => exact wellFormed.of_mem_items (mem_of_lastNamed found).1
    | none => rfl

/-- A merge fails as the first place that it visits and that conflicts. The induction is on the
places below. -/
theorem failure?_merged_eq (wellFormed : place.desired.WellFormed) :
    failure? place.merged = place.visited.findSome? conflict? := by
  induction place using visited.induct with
  | case1 place ih =>
    have each : place.below.findSome? (fun inner => failure? inner.merged) =
        place.below.findSome? fun inner => inner.visited.findSome? conflict? :=
      findSome?_congr fun inner member => ih ⟨inner, member⟩ (wellFormed_below wellFormed member)
    rw [failure?_merged wellFormed, each, visited_eq, List.findSome?_cons, findSome?_flatMap]
    cases place.conflict? with
    | none => rfl
    | some failure => rfl

theorem conflict?_eq_some_iff {failure : Failure} :
    place.conflict? = some failure ↔ place.Conflicts ∧ failure = place.failure := by
  unfold conflict?
  split
  · next conflicts => simp [conflicts, eq_comm]
  · next fits => simp [fits]

theorem conflict?_eq_none_iff : place.conflict? = none ↔ ¬ place.Conflicts := by
  simp [conflict?]

/-- A merge succeeds if the place fits and the merges below it succeed. -/
theorem merged_ok_iff (wellFormed : place.desired.WellFormed) :
    (∃ result, place.merged = .ok result) ↔
      ¬ place.Conflicts ∧ ∀ inner ∈ place.below, ∃ result, inner.merged = .ok result := by
  simp only [← failure?_eq_none_iff]
  rw [failure?_merged wellFormed, Option.or_eq_none_iff, conflict?_eq_none_iff,
    List.findSome?_eq_none_iff]

end Place

/-- A merge fails exactly when a place that it visits conflicts, and then it is the first one in
depth-first order that it fails for: the failure says which side is to blame, where, which shape was
observed there and which one was found. -/
theorem merge_error_iff (observed : Doc) (lastApplied : Option Doc) {desired : Doc}
    (wellFormed : desired.WellFormed) :
    ((∃ failure, merge observed lastApplied desired = .error failure) ↔
      ∃ place ∈ (Place.root observed lastApplied desired).visited, place.Conflicts) ∧
    ∀ failure, merge observed lastApplied desired = .error failure ↔
      ∃ earlier place later,
        (Place.root observed lastApplied desired).visited = earlier ++ place :: later ∧
          (∀ other ∈ earlier, ¬ other.Conflicts) ∧ place.Conflicts ∧ failure = place.failure := by
  let root := Place.root observed lastApplied desired
  have error (failure : Failure) : merge observed lastApplied desired = .error failure ↔
      root.visited.findSome? Place.conflict? = some failure := by
    have first : failure? root.merged = root.visited.findSome? Place.conflict? :=
      Place.failure?_merged_eq wellFormed
    rw [← first, failure?_eq_some_iff]
    rfl
  refine ⟨⟨?_, ?_⟩, fun failure => ?_⟩
  · rintro ⟨failure, failed⟩
    have found := (error failure).mp failed
    obtain ⟨place, listed, conflicts⟩ := List.exists_of_findSome?_eq_some found
    exact ⟨place, listed, (Place.conflict?_eq_some_iff.mp conflicts).1⟩
  · rintro ⟨place, listed, conflicts⟩
    cases found : root.visited.findSome? Place.conflict? with
    | some failure => exact ⟨failure, (error failure).mpr found⟩
    | none =>
      have fits := List.findSome?_eq_none_iff.mp found place listed
      exact absurd conflicts (Place.conflict?_eq_none_iff.mp fits)
  · rw [error, List.findSome?_eq_some_iff]
    simp only [Place.conflict?_eq_some_iff, Place.conflict?_eq_none_iff]
    constructor
    · rintro ⟨earlier, place, later, split, ⟨conflicts, failed⟩, before⟩
      exact ⟨earlier, place, later, split, before, conflicts, failed⟩
    · rintro ⟨earlier, place, later, split, before, conflicts, failed⟩
      exact ⟨earlier, place, later, split, ⟨conflicts, failed⟩, before⟩

section Probe

private def served (probe : Doc) : Doc := .object [("port", .string "80"), ("probe", probe)]

private def observedProbe : Doc := .object
  [("legacy", .object []), ("args", .array [.object []]),
    ("ports", .array [served (.object [("path", .string "/")])]), ("spec", .object [])]

/-- What is said of `legacy` does not fit, and neither does the probe. -/
private def appliedProbe : Doc := .object
  [("legacy", .string "text"), ("ports", .array [served (.bool true)])]

/-- The item of `args` and the specification do not fit. -/
private def desiredProbe : Doc := .object
  [("args", .array [.bool true]), ("ports", .array [served (.string "tcp")]),
    ("spec", .string "none")]

private def probeFailure : Failure :=
  .shapeMismatch .lastApplied ⟨["ports", "80", "probe"]⟩ .object .bool

example :
    (Place.root observedProbe (some appliedProbe) desiredProbe).visited.map (·.path.steps) =
    [[], ["args"], ["ports"], ["ports", "80"], ["ports", "80", "port"], ["ports", "80", "probe"],
      ["spec"]] := by
  cbv

/-- Nothing is asked of a field that is no longer desired or of the items of a plain list, and of
several conflicts the first one is reported. -/
theorem merge_error_iff_probe :
    desiredProbe.WellFormed ∧
      merge observedProbe (some appliedProbe) desiredProbe = .error probeFailure ∧
      (∃ place ∈ (Place.root observedProbe (some appliedProbe) desiredProbe).visited,
        place.Conflicts) ∧
      ∃ earlier place later,
        (Place.root observedProbe (some appliedProbe) desiredProbe).visited =
            earlier ++ place :: later ∧
          (∀ other ∈ earlier, ¬ other.Conflicts) ∧ place.Conflicts ∧
            probeFailure = place.failure := by
  have wellFormed : desiredProbe.WellFormed := by decide
  have failed : merge observedProbe (some appliedProbe) desiredProbe = .error probeFailure := rfl
  obtain ⟨fails, first⟩ := merge_error_iff observedProbe (some appliedProbe) wellFormed
  exact ⟨wellFormed, failed, fails.mp ⟨_, failed⟩, (first probeFailure).mp failed⟩

end Probe

end Reconcile
