import Reconcile.Proofs.Marker.Recording

/-!
# A field set by someone else between two steps

Between two reconcile steps another actor sets a field that neither desired document has.
`foreignField_survives_iff` says exactly when the second step leaves it alone: always, unless the
first step desired null or the empty object, which leaves no snapshot, and the snapshot that was
there before is still there and has the field. The second step then takes the older snapshot for its
baseline and retracts the field (`foreignField_lost`).
-/
namespace Reconcile.Marker

variable {marker : Marker}

/-- What is retrieved depends only on what stands where the marker is kept. -/
theorem retrieve_congr {object other : Doc} {lastApplied : Option Doc}
    (same : object.getPath? marker.path = other.getPath? marker.path)
    (h : marker.retrieve object = .ok lastApplied) : marker.retrieve other = .ok lastApplied := by
  unfold retrieve at h ⊢
  obtain ⟨text, noted, h⟩ := ok_of_bind h
  have noted : other.annotation? marker.key = .ok text := by
    have noted : object.annotation? marker.key = .ok text := noted
    unfold Doc.annotation? at noted ⊢
    unfold path at same
    rw [← same]
    split at noted
    · exact noted
    · exact noted
    · exact noted
    · cases noted
  change (other.annotation? marker.key >>= _) = _
  rw [noted]
  cases text with
  | none => exact h
  | some text =>
    dsimp only [Except.bind, bind] at h ⊢
    by_cases empty : text.isEmpty = true
    · rw [if_pos empty] at h ⊢
      exact h
    · rw [if_neg empty] at h ⊢
      split at h
      · exact h
      · cases h

/-- A step on an object, taken apart: the baseline that was read, the stamped document, and the
fields that their merge gives. -/
theorem reconcile_object {current : Fields Doc} {desired merged : Doc}
    (wellFormed : desired.WellFormed)
    (h : marker.reconcile (.object current) desired = .ok merged) :
    ∃ lastApplied stamped out, marker.retrieve (Doc.object current) = .ok lastApplied ∧
      marker.stamp desired = .ok stamped ∧ merged = .object out ∧
      FieldsMerged .root current lastApplied stamped out := by
  obtain ⟨lastApplied, stamped, retrieved, stamp, h⟩ := reconcile_success h
  obtain ⟨out, rfl, fields⟩ := mergeAt_object_success (wellFormed_stamp wellFormed stamp) h
  exact ⟨lastApplied, stamped, out, retrieved, stamp, rfl, fields⟩

/-- Outside the metadata a stamped document has the fields of the desired one. -/
theorem get?_stamp {desired stamped : Doc} (wellFormed : desired.WellFormed)
    (h : marker.stamp desired = .ok stamped) {name : String} (different : name ≠ "metadata") :
    stamped.get? name = desired.get? name := by
  rcases stamp_success wellFormed h with ⟨_, rfl⟩ | ⟨_, _, _, others⟩
  · rfl
  · exact others name different

/-- A field that is not desired stays exactly when the baseline does not have it. -/
theorem undesired_field {current : Fields Doc} {desired merged : Doc} {lastApplied : Option Doc}
    {field : String} (wellFormed : desired.WellFormed) (notMetadata : field ≠ "metadata")
    (undesired : desired.get? field = none)
    (baseline : marker.retrieve (Doc.object current) = .ok lastApplied)
    (h : marker.reconcile (.object current) desired = .ok merged) :
    merged.get? field =
      if field ∈ (lastApplied.getD .null).names then none else Fields.get? current field := by
  obtain ⟨last, stamped, out, retrieved, stamp, rfl, fields⟩ := reconcile_object wellFormed h
  rw [baseline] at retrieved
  cases retrieved
  have absent : field ∉ stamped.names := by
    rw [← Doc.get?_eq_none_iff, get?_stamp wellFormed stamp notMetadata]
    exact undesired
  split
  case isTrue applied => exact fields.retracted field applied absent
  case isFalse unapplied => exact fields.kept field absent unapplied

/-- Setting a field other than the metadata does not touch the marker. -/
theorem getPath?_insert {fields : Fields Doc} {field : String} (value : Doc)
    (notMetadata : field ≠ "metadata") :
    (Doc.object (fields.insert field value)).getPath? marker.path =
      (Doc.object fields).getPath? marker.path := by
  have same : (Doc.object (fields.insert field value)).get? "metadata" =
      (Doc.object fields).get? "metadata" := Fields.get?_insert_of_ne notMetadata.symm
  unfold path
  rw [Doc.getPath?_cons, Doc.getPath?_cons, same]

/-- Where the metadata is the same, the marker is. -/
theorem getPath?_of_metadata {object other : Doc}
    (same : object.get? "metadata" = other.get? "metadata") :
    object.getPath? marker.path = other.getPath? marker.path := by
  unfold path
  rw [Doc.getPath?_cons, Doc.getPath?_cons, same]

theorem retrieve_none {object : Doc} (missing : object.getPath? marker.path = none) :
    marker.retrieve object = .ok none := by
  have noted : object.annotation? marker.key = .ok none := by
    unfold path at missing
    unfold Doc.annotation?
    rw [missing]
  unfold retrieve
  change (object.annotation? marker.key >>= _) = _
  rw [noted]
  rfl

theorem stamp_of_nothing {first stamped : Doc} (nothing : first = .null ∨ first = .object [])
    (h : marker.stamp first = .ok stamped) : stamped = first := by
  rcases nothing with rfl | rfl
  · cases h
    rfl
  · cases h
    rfl

/-- The baseline of the step after one that desired nothing: the snapshot that was there before,
unless it went together with the metadata. -/
theorem retrieve_after_nothing {observed first : Doc} {fields : Fields Doc}
    (nothing : first = .null ∨ first = .object [])
    (h : marker.reconcile observed first = .ok (.object fields)) :
    ∃ lastApplied, marker.retrieve observed = .ok lastApplied ∧
      marker.retrieve (Doc.object fields) =
        .ok (if "metadata" ∈ (lastApplied.getD .null).names then none else lastApplied) := by
  have wellFormed : first.WellFormed := by
    rcases nothing with rfl | rfl
    · decide
    · decide
  have unnamed : "metadata" ∉ first.names := by
    rcases nothing with rfl | rfl
    · simp
    · simp
  obtain ⟨lastApplied, stamped, retrieved, stamp, merged⟩ := reconcile_success h
  have same := stamp_of_nothing nothing stamp
  subst same
  refine ⟨lastApplied, retrieved, ?_⟩
  cases observed with
  | object current =>
    obtain ⟨out, equal, spec⟩ := mergeAt_object_success wellFormed merged
    cases equal
    split
    case isTrue applied =>
      have gone : (Doc.object fields).get? "metadata" = none :=
        spec.retracted "metadata" applied unnamed
      refine retrieve_none ?_
      unfold path
      rw [Doc.getPath?_cons, gone]
      rfl
    case isFalse unapplied =>
      have kept : (Doc.object current).get? "metadata" = (Doc.object fields).get? "metadata" :=
        (spec.kept "metadata" unnamed unapplied).symm
      exact retrieve_congr (getPath?_of_metadata kept) retrieved
  | array items =>
    obtain ⟨fits, ⟨_, equal⟩ | ⟨_, _, _, _, equal, _⟩⟩ := mergeAt_array_success merged
    · rcases fits with rfl | ⟨_, rfl⟩
      · cases equal
      · cases equal
    · cases equal
  | _ =>
    rw [merge, mergeAt_scalar rfl] at merged
    cases merged
    cases retrieved.symm.trans (retrieve_none rfl)
    rcases nothing with equal | equal
    · cases equal
    · cases equal
      exact retrieve_none rfl

/-- The baseline of the step after one that desired something has the names which that step
desired. -/
theorem names_after_something {observed first : Doc} {fields : Fields Doc}
    {lastApplied : Option Doc} (wellFormed : first.WellFormed)
    (something : ¬ (first = .null ∨ first = .object []))
    (h : marker.reconcile observed first = .ok (.object fields))
    (baseline : marker.retrieve (Doc.object fields) = .ok lastApplied) :
    (lastApplied.getD .null).names = first.names := by
  obtain ⟨_, stamped, _, stamp, _⟩ := reconcile_success h
  rcases stamp_success wellFormed stamp with ⟨nothing, _⟩ | ⟨⟨desired, nonempty, rfl⟩, _⟩
  · exact absurd nothing something
  · obtain ⟨kept, _, names, formed, noted⟩ := annotation?_reconciled wellFormed nonempty h
    rw [names_of_noted formed noted baseline]
    exact names

/-- Between two steps someone sets a field that neither step desires. The second step leaves it alone
unless the first one desired null or the empty object and the snapshot from before it, which then
still stands, has the field. -/
theorem foreignField_survives_iff {observed first second result value : Doc} {fields : Fields Doc}
    {field : String} (wellFormed₁ : first.WellFormed) (wellFormed₂ : second.WellFormed)
    (notMetadata : field ≠ "metadata") (undesired₁ : first.get? field = none)
    (undesired₂ : second.get? field = none)
    (step₁ : marker.reconcile observed first = .ok (.object fields))
    (step₂ : marker.reconcile (.object (fields.insert field value)) second = .ok result) :
    (result.get? field = some value ↔ ¬ ((first = .null ∨ first = .object []) ∧
      ∃ last, marker.retrieve observed = .ok (some last) ∧ field ∈ last.names ∧
        "metadata" ∉ last.names)) ∧
      (result.get? field = some value ∨ result.get? field = none) := by
  obtain ⟨lastApplied, _, baseline, _, _⟩ := reconcile_success step₂
  have outcome := undesired_field wellFormed₂ notMetadata undesired₂ baseline step₂
  rw [Fields.get?_insert_self] at outcome
  have unset := retrieve_congr (getPath?_insert value notMetadata) baseline
  by_cases nothing : first = .null ∨ first = .object []
  · obtain ⟨older, retrieved, after⟩ := retrieve_after_nothing nothing step₁
    cases unset.symm.trans after
    by_cases replaced : "metadata" ∈ (older.getD .null).names
    · rw [if_pos replaced, Option.getD_none, if_neg (by simp)] at outcome
      refine ⟨⟨?_, fun _ => outcome⟩, .inl outcome⟩
      rintro _ ⟨_, last, found, _, unnamed⟩
      cases retrieved.symm.trans found
      exact unnamed replaced
    · rw [if_neg replaced] at outcome
      by_cases applied : field ∈ (older.getD .null).names
      · rw [if_pos applied] at outcome
        refine ⟨⟨?_, ?_⟩, .inr outcome⟩
        · intro survived
          rw [outcome] at survived
          cases survived
        · intro safe
          cases older with
          | none => cases applied
          | some last => exact absurd ⟨nothing, last, retrieved, applied, replaced⟩ safe
      · rw [if_neg applied] at outcome
        refine ⟨⟨?_, fun _ => outcome⟩, .inl outcome⟩
        rintro _ ⟨_, last, found, named, _⟩
        cases retrieved.symm.trans found
        exact applied named
  · have names := names_after_something wellFormed₁ nothing step₁ unset
    have absent : field ∉ (lastApplied.getD .null).names := by
      rw [names]
      exact Doc.get?_eq_none_iff.mp undesired₁
    rw [if_neg absent] at outcome
    exact ⟨⟨fun _ both => nothing both.1, fun _ => outcome⟩, .inl outcome⟩

section Tally

private def tallyMarker : Marker := ⟨"applied"⟩

private def one : Doc := .number (.int 1 (by decide))

private def two : Doc := .number (.int 2 (by decide))

/-- An object whose marker holds the given text. -/
private def tallied (snapshot : String) (fields : Fields Doc) : Fields Doc :=
  ("metadata", .object [("annotations", .object [("applied", .string snapshot)])]) :: fields

/-- The first step desires only `hits`, so the earlier snapshot that has `misses` is replaced, and
`misses` may be set again. -/
theorem foreignField_survives_iff_tally :
    tallyMarker.reconcile (.object (tallied "\x7b\"misses\":1\x7d" [("misses", one)]))
        (.object [("hits", one)]) =
      .ok (.object (tallied "\x7b\"hits\":1\x7d" [("hits", one)])) ∧
    tallyMarker.reconcile
        (.object ((tallied "\x7b\"hits\":1\x7d" [("hits", one)]).insert "misses" two))
        (.object [("hits", two)]) =
      .ok (.object (tallied "\x7b\"hits\":2\x7d" [("hits", two), ("misses", two)])) ∧
    ((Doc.object (tallied "\x7b\"hits\":2\x7d" [("hits", two), ("misses", two)])).get? "misses" =
        some two ↔
      ¬ ((Doc.object [("hits", one)] = .null ∨ Doc.object [("hits", one)] = .object []) ∧
        ∃ last, tallyMarker.retrieve
            (Doc.object (tallied "\x7b\"misses\":1\x7d" [("misses", one)])) = .ok (some last) ∧
          "misses" ∈ last.names ∧ "metadata" ∉ last.names)) := by
  have step₁ : tallyMarker.reconcile (.object (tallied "\x7b\"misses\":1\x7d" [("misses", one)]))
        (.object [("hits", one)]) =
      .ok (.object (tallied "\x7b\"hits\":1\x7d" [("hits", one)])) :=
    ok_of_toOption (by decide +kernel)
  have step₂ : tallyMarker.reconcile
        (.object ((tallied "\x7b\"hits\":1\x7d" [("hits", one)]).insert "misses" two))
        (.object [("hits", two)]) =
      .ok (.object (tallied "\x7b\"hits\":2\x7d" [("hits", two), ("misses", two)])) :=
    ok_of_toOption (by decide +kernel)
  exact ⟨step₁, step₂, (foreignField_survives_iff (by decide) (by decide) (by decide) rfl rfl
    step₁ step₂).1⟩

/-- A first step that desires the empty object leaves the earlier snapshot, which has `misses`, and
the second step retracts what someone else has set in between. -/
theorem foreignField_lost :
    (Doc.object []).get? "misses" = none ∧ (Doc.object [("hits", one)]).get? "misses" = none ∧
    tallyMarker.reconcile (.object (tallied "\x7b\"misses\":1\x7d" [("misses", one)])) (.object []) =
      .ok (.object (tallied "\x7b\"misses\":1\x7d" [])) ∧
    tallyMarker.reconcile
        (.object ((tallied "\x7b\"misses\":1\x7d" []).insert "misses" two))
        (.object [("hits", one)]) =
      .ok (.object (tallied "\x7b\"hits\":1\x7d" [("hits", one)])) ∧
    (Doc.object (tallied "\x7b\"hits\":1\x7d" [("hits", one)])).get? "misses" ≠ some two :=
  ⟨rfl, rfl, ok_of_toOption (by decide +kernel), ok_of_toOption (by decide +kernel), by decide⟩

end Tally

end Reconcile.Marker
