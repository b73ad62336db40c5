import Reconcile.Proofs.Marker.Annotations
import Reconcile.Proofs.Merge.Settled

/-!
# Repeating a step

A step that is repeated with the same desired document and nothing changed in between
(`reconcile_again_iff`) changes nothing, unless the first one left a list empty where null is
desired. This asks that the doubles of the desired document read back: a misread one can name an
element of someone else, which the second step then takes away. The second step merges against the
snapshot of the first (`reconcile_reconciled`), which lies within the stamped document
(`within_stamp`), so the merge has nothing to retract and the question is whether it settles
(`mergeAt_eq_self_iff`). The stamp makes no difference to the answer, because text stands where the
marker is (`emptyAtNull_stamp`).
-/
namespace Reconcile

open Doc (EmptyAtNull)

namespace Doc

variable {held inner : Doc} {key : String}

/-- An empty list where null is desired is looked for field by field. -/
theorem emptyAtNull_congr {a b : Fields Doc} (present : held.get? key = some inner)
    (others : ∀ name, name ≠ key → a.get? name = b.get? name)
    (below : (∃ wanted ∈ a.get? key, EmptyAtNull inner wanted) ↔
      ∃ wanted ∈ b.get? key, EmptyAtNull inner wanted) :
    EmptyAtNull held (.object a) ↔ EmptyAtNull held (.object b) := by
  have half : ∀ {a b : Fields Doc}, (∀ name, name ≠ key → a.get? name = b.get? name) →
      ((∃ wanted ∈ a.get? key, EmptyAtNull inner wanted) →
        ∃ wanted ∈ b.get? key, EmptyAtNull inner wanted) →
      EmptyAtNull held (.object a) → EmptyAtNull held (.object b) := by
    intro a b others below empty
    cases empty with
    | @field _ _ x wanted name atHeld found inside =>
      by_cases same : name = key
      · subst same
        cases present.symm.trans atHeld
        obtain ⟨other, foundOther, insideOther⟩ := below ⟨wanted, found, inside⟩
        exact .field present foundOther insideOther
      · exact .field atHeld ((others name same).symm.trans found) inside
  exact ⟨half others below.mp, half (fun name different => (others name different).symm) below.mpr⟩

theorem emptyAtNull_insert {value : Doc} {before : Option Doc} {fields : Fields Doc}
    (present : held.get? key = some inner)
    (opened : (before = none ∨ before = some .null) ∧ fields = [] ∨ before = some (.object fields))
    (below : EmptyAtNull inner value ↔ ∃ wanted ∈ fields.get? key, EmptyAtNull inner wanted) :
    EmptyAtNull held (.object (fields.insert key value)) ↔
      ∃ wanted ∈ before, EmptyAtNull held wanted := by
  have inserted : EmptyAtNull held (.object (fields.insert key value)) ↔
      EmptyAtNull held (.object fields) := by
    refine emptyAtNull_congr present (fun name different => Fields.get?_insert_of_ne different) ?_
    rw [Fields.get?_insert_self, ← below]
    simp
  rw [inserted]
  rcases opened with ⟨missing, rfl⟩ | rfl
  · constructor
    · intro empty
      cases empty with
      | field _ found _ => cases found
    · rintro ⟨wanted, found, empty⟩
      rcases missing with rfl | rfl
      · cases found
      · cases found
        cases empty.eq_of_null
        cases present
  · simp

/-- Taking out a field does not matter where a scalar stands in its place. -/
theorem emptyAtNull_without {desired below : Doc} {path : List String}
    (stands : held.getPath? path = some below) (scalar : below.isScalar = true) :
    EmptyAtNull held (desired.without path) ↔ EmptyAtNull held desired := by
  induction path generalizing held desired with
  | nil => rw [without_nil]
  | cons key rest ih =>
    rw [getPath?_cons, Option.bind_eq_some_iff] at stands
    obtain ⟨inner, present, stands⟩ := stands
    cases desired with
    | object fields =>
      cases rest with
      | nil =>
        cases stands
        have nothing : ∀ wanted, ¬ EmptyAtNull below wanted := fun wanted empty => by
          cases scalar.symm.trans empty.not_scalar
        refine emptyAtNull_congr present (fun name different => Fields.get?_erase_of_ne different) ?_
        simp [nothing]
      | cons next path =>
        refine emptyAtNull_congr present (fun name different => Fields.get?_alter_of_ne different) ?_
        rw [Fields.get?_alter_self]
        cases Fields.get? fields key with
        | none => rfl
        | some wanted => simpa using ih stands
    | _ => rw [without_of_not_object rfl]

theorem wellKeyed_openField {object name : String} {parent fields : Fields Doc}
    (wellKeyed : (Doc.object parent).WellKeyed) (h : openField object name parent = .ok fields) :
    (Doc.object fields).WellKeyed := by
  rcases openField_success h with ⟨_, rfl⟩ | found
  · decide
  · exact wellKeyed.of_get? found

end Doc

/-- Setting a value in opened fields puts what was there within what is there now. -/
theorem Within.insert {key : String} {value : Doc} {before : Option Doc} {fields : Fields Doc}
    (opened : (before = none ∨ before = some .null) ∧ fields = [] ∨ before = some (.object fields))
    (inside : Within (fields.get? key) value) :
    Within before (.object (fields.insert key value)) := by
  rcases opened with ⟨rfl | rfl, _⟩ | rfl
  · exact .absent
  · exact .null
  · refine .object ?_ ?_
    · intro name member
      rw [Fields.keys_insert]
      split
      · exact member
      · exact List.mem_append_left _ member
    · intro name wanted found
      by_cases same : name = key
      · subst same
        rw [Fields.get?_insert_self] at found
        cases found
        exact inside
      · rw [Fields.get?_insert_of_ne same] at found
        rw [found]
        exact .same

namespace Marker

variable {marker : Marker} {fields : Fields Doc} {stamped : Doc}

/-- The snapshot of a step lies within what the step desires. -/
theorem within_stamp (wellFormed : (Doc.object fields).WellFormed) (nonempty : fields ≠ [])
    (h : marker.stamp (.object fields) = .ok stamped) :
    Within (some (marker.strip (.object fields))) stamped := by
  obtain ⟨root, metadata, annotations, stripped, openMetadata, openAnnotations, unmarked, rfl⟩ :=
    stamp_eq wellFormed (by simpa) h
  rw [stripped]
  refine Within.insert (.inr rfl) (Within.insert (Doc.openField_success openMetadata)
    (Within.insert (Doc.openField_success openAnnotations) ?_))
  rw [Fields.get?_eq_none_iff.mpr unmarked]
  exact .absent

theorem wellKeyed_stamp (wellFormed : (Doc.object fields).WellFormed) (nonempty : fields ≠ [])
    (wellKeyed : (Doc.object fields).WellKeyed) (h : marker.stamp (.object fields) = .ok stamped) :
    stamped.WellKeyed := by
  have kept := wellKeyed.without marker.path
  rw [← marker.strip_eq_without wellFormed] at kept
  obtain ⟨root, metadata, annotations, stripped, openMetadata, openAnnotations, _, rfl⟩ :=
    stamp_eq wellFormed (by simpa) h
  rw [stripped] at kept
  have keptMetadata := Doc.wellKeyed_openField kept openMetadata
  have text (text : String) : (Doc.string text).WellKeyed := rfl
  exact Doc.wellKeyed_insert kept (Doc.wellKeyed_insert keptMetadata
    (Doc.wellKeyed_insert (Doc.wellKeyed_openField keptMetadata openAnnotations) (text _)))

/-- Where text stands in the place of the marker, the stamp is of no account. -/
theorem emptyAtNull_stamp {merged : Doc} {text : String}
    (wellFormed : (Doc.object fields).WellFormed) (nonempty : fields ≠ [])
    (h : marker.stamp (.object fields) = .ok stamped)
    (marked : merged.getPath? marker.path = some (.string text)) :
    EmptyAtNull merged stamped ↔ EmptyAtNull merged (.object fields) := by
  have unmarked : EmptyAtNull merged ((Doc.object fields).without marker.path) ↔
      EmptyAtNull merged (.object fields) := Doc.emptyAtNull_without marked rfl
  rw [← unmarked, ← marker.strip_eq_without wellFormed]
  obtain ⟨root, metadata, annotations, stripped, openMetadata, openAnnotations, _, rfl⟩ :=
    stamp_eq wellFormed (by simpa) h
  rw [stripped]
  unfold path at marked
  rw [Doc.getPath?_cons, Option.bind_eq_some_iff] at marked
  obtain ⟨atMetadata, present, marked⟩ := marked
  rw [Doc.getPath?_cons, Option.bind_eq_some_iff] at marked
  obtain ⟨atAnnotations, presentInside, marked⟩ := marked
  rw [Doc.getPath?_cons, Option.bind_eq_some_iff] at marked
  obtain ⟨atMarker, presentLast, marked⟩ := marked
  cases marked
  have nothing : ∀ wanted, ¬ EmptyAtNull (.string text) wanted := fun wanted empty => by
    cases empty.not_scalar
  unfold Doc.withAnnotations
  rw [Doc.emptyAtNull_insert present (.inr rfl)
    (Doc.emptyAtNull_insert presentInside (Doc.openField_success openMetadata)
      (Doc.emptyAtNull_insert presentLast (Doc.openField_success openAnnotations) ?_))]
  · simp
  · simp [nothing]

/-- A step that is repeated merges against the snapshot of the first one. -/
theorem reconcile_reconciled {observed merged : Doc} (wellFormed : (Doc.object fields).WellFormed)
    (readsBack : (Doc.object fields).DoublesReadBack) (nonempty : fields ≠ [])
    (shallow : (Doc.object fields).depth ≤ snapshotDepth)
    (step : marker.reconcile observed (.object fields) = .ok merged)
    (h : marker.stamp (.object fields) = .ok stamped) :
    marker.reconcile merged (.object fields) =
      merge merged (some (marker.strip (.object fields))) stamped := by
  have readable := Nat.le_trans (marker.depth_strip_le wellFormed) shallow
  have retrieved := retrieve_reconciled wellFormed readsBack nonempty step
  rw [if_pos readable] at retrieved
  unfold reconcile
  rw [retrieved, h]
  rfl

/-- A step repeated with nothing changed in between changes nothing, exactly when the first one left
no list empty where null is desired. The doubles that are desired read back, so that the baseline of
the second step is what the first one desired. -/
theorem reconcile_again_iff {observed merged : Doc} (wellFormed : (Doc.object fields).WellFormed)
    (wellKeyed : (Doc.object fields).WellKeyed) (readsBack : (Doc.object fields).DoublesReadBack)
    (nonempty : fields ≠ []) (shallow : (Doc.object fields).depth ≤ 127)
    (step : marker.reconcile observed (.object fields) = .ok merged)
    (mergedKeyed : merged.WellKeyed) :
    marker.reconcile merged (.object fields) = .ok merged ↔
      ¬ EmptyAtNull merged (.object fields) := by
  obtain ⟨_, stamped, _, stamp, first⟩ := reconcile_success step
  have stampedFormed := wellFormed_stamp wellFormed stamp
  have stampedKeyed := wellKeyed_stamp wellFormed nonempty wellKeyed stamp
  have realised := mergeAt_satisfies stampedFormed stampedKeyed first
  have marked := getPath?_reconciled wellFormed rfl nonempty step
  rw [reconcile_reconciled wellFormed readsBack nonempty shallow step stamp,
    ← emptyAtNull_stamp wellFormed nonempty stamp marked]
  exact mergeAt_eq_self_iff mergedKeyed stampedFormed stampedKeyed
    (within_stamp wellFormed nonempty stamp) realised

section Ports

private def portsMarker : Marker := ⟨"applied"⟩

private def marked (snapshot : String) (others : Fields Doc) : Doc :=
  .object (("metadata", .object [("annotations", .object [("applied", .string snapshot)])]) :: others)

private def namedPort (name : String) : Doc := .object [("name", .string name)]

private def portText : String := "\x7b\"ports\":[\x7b\"name\":\"a\"\x7d]\x7d"

private def fiveQuarters : Double := ⟨false, 5 * 2 ^ 50, 1022, by decide, by decide, by decide⟩

private def nullPortArgs : Fields Doc :=
  [("ports", .null), ("args", .null), ("load", .number (.double fiveQuarters))]

private def foreignPort : Doc :=
  marked "\x7b\"ports\":null,\"args\":null,\"load\":1.25\x7d"
    [("ports", .array [namedPort "b"]), ("args", .null), ("load", .number (.double fiveQuarters))]

/-- Null is desired where a list by identity stands, of which a foreign port remains, and where a
plain list stands. -/
theorem reconcile_again_iff_foreignPort :
    portsMarker.reconcile (marked portText
        [("ports", .array [namedPort "a", namedPort "b"]), ("args", .array [.string "quiet"])])
        (.object nullPortArgs) = .ok foreignPort ∧
      portsMarker.reconcile foreignPort (.object nullPortArgs) = .ok foreignPort := by
  have step : portsMarker.reconcile (marked portText
        [("ports", .array [namedPort "a", namedPort "b"]), ("args", .array [.string "quiet"])])
        (.object nullPortArgs) = .ok foreignPort := ok_of_toOption (by decide +kernel)
  have noEmpty : ¬ EmptyAtNull foreignPort (.object nullPortArgs) := by
    intro empty
    cases empty with
    | field present found inside =>
      have wanted := Fields.mem_of_get? found
      simp only [nullPortArgs, List.mem_cons, Prod.mk.injEq, List.not_mem_nil, or_false] at wanted
      rcases wanted with ⟨rfl, rfl⟩ | ⟨rfl, rfl⟩ | ⟨rfl, rfl⟩
      · cases inside.eq_of_null
        cases present
      · cases inside.eq_of_null
        cases present
      · cases present
        cases inside.not_scalar
  have wellFormed : (Doc.object nullPortArgs).WellFormed := by decide
  have wellKeyed : (Doc.object nullPortArgs).WellKeyed := by decide
  have readsBack : (Doc.object nullPortArgs).DoublesReadBack := by decide +kernel
  have mergedKeyed : foreignPort.WellKeyed := by decide
  exact ⟨step, (reconcile_again_iff wellFormed wellKeyed readsBack (List.cons_ne_nil _ _)
    (by decide) step mergedKeyed).mpr noEmpty⟩

private def nullPorts : Doc := .object [("ports", .null)]

private def leftPorts (ports : Doc) : Doc := marked "\x7b\"ports\":null\x7d" [("ports", ports)]

/-- When no foreign port remains, the first step leaves an empty list and the second one null. -/
theorem reconcile_again_noPort :
    nullPorts.WellKeyed ∧ nullPorts.depth ≤ 127 ∧ (leftPorts (.array [])).WellKeyed ∧
      portsMarker.reconcile (marked portText [("ports", .array [namedPort "a"])]) nullPorts =
        .ok (leftPorts (.array [])) ∧
      portsMarker.reconcile (leftPorts (.array [])) nullPorts = .ok (leftPorts .null) ∧
      leftPorts .null ≠ leftPorts (.array []) :=
  ⟨by decide, by decide, by decide, ok_of_toOption (by decide +kernel),
    ok_of_toOption (by decide +kernel), by decide⟩

private def numberedPort (significand : Nat) (h : significand < 2 ^ 53 ∧ 2 ^ 52 ≤ significand) :
    Doc :=
  .object [("port", .number (.double ⟨false, significand, 1026, h.1, .inr h.2, by decide⟩))]

private def nearPort : Doc := numberedPort 8794761699453571 (by decide)

private def wantedPort : Doc := numberedPort 8794761699453570 (by decide)

private def wantedPorts : Doc := .object [("ports", .array [wantedPort])]

private def markedPorts (ports : List Doc) : Doc :=
  .object [("ports", .array ports), ("metadata", .object [("annotations", .object
    [("applied", .string "\x7b\"ports\":[\x7b\"port\":31.245270191439438\x7d]\x7d")])])]

/-- The second step reads the desired double as its neighbour and retracts the element of that
name. -/
example : ¬ wantedPorts.DoublesReadBack ∧
    (portsMarker.reconcile (.object [("ports", .array [nearPort])]) wantedPorts).toOption =
      some (markedPorts [nearPort, wantedPort]) ∧
    (portsMarker.reconcile (markedPorts [nearPort, wantedPort]) wantedPorts).toOption =
      some (markedPorts [wantedPort]) := by
  decide +kernel

end Ports

end Marker

end Reconcile
