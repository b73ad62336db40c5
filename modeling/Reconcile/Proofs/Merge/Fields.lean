import Mathlib.Data.List.Nodup
import Reconcile.Merge

/-!
# Merging fields

What a successful merge makes of the fields of an object. `retract` only drops entries, one
revision changes one entry (`reviseField_success`), so a whole run keeps the order of what is there,
appends what is new in the desired order, and leaves every other entry alone
(`foldlM_reviseField`). `FieldsMerged` says this of three documents, and `mergeAt_object_success`
reads it off a merge into an object.
-/
namespace Reconcile

theorem ok_of_bind {ε α β : Type} {step : Except ε α} {next : α → Except ε β} {result : β}
    (h : (step >>= next) = .ok result) : ∃ value, step = .ok value ∧ next value = .ok result :=
  match step, h with
  | .ok value, h => ⟨value, rfl, h⟩

theorem ok_of_toOption {ε α : Type} {result : Except ε α} {value : α}
    (h : result.toOption = some value) : result = .ok value := by
  cases result with
  | error reason => cases h
  | ok other =>
    cases h
    rfl

/-- Whatever is merged into a scalar replaces it. -/
theorem mergeAt_scalar {path : Path} {current : Doc} {lastApplied : Option Doc} {desired : Doc}
    (scalar : current.isScalar = true) :
    mergeAt path current lastApplied desired = .ok desired := by
  refine mergeAt_of_scalar ?_ ?_
  · cases current with
    | object fields => cases scalar
    | _ => rfl
  · rintro items rfl
    cases scalar

theorem expectObject_success {side : Side} {path : Path} {doc : Option Doc}
    {fields : Option (Fields Doc)} (h : expectObject side path doc = .ok fields) :
    (doc.getD .null).names = (fields.getD []).keys ∧
      ∀ key, doc.bind (·.get? key) = fields.bind (·.get? key) := by
  unfold expectObject at h
  split at h
  · cases h
    exact ⟨rfl, fun _ => rfl⟩
  · cases h
    exact ⟨rfl, fun _ => rfl⟩
  · cases h
    exact ⟨rfl, fun _ => rfl⟩
  · cases h

theorem keys_retract (current : Fields Doc) (lastApplied : Option (Fields Doc))
    (desired : List String) :
    (retract current lastApplied desired).keys =
      current.keys.filter fun key => key ∈ desired ∨ key ∉ (lastApplied.getD []).keys := by
  cases lastApplied with
  | none => simp [retract]
  | some last =>
    rw [retract, Fields.keys_filter current fun key => desired.contains key || !last.contains key]
    congr 1
    funext key
    simp [← Fields.contains_iff]

theorem get?_retract (current : Fields Doc) (lastApplied : Option (Fields Doc))
    (desired : List String) (key : String) :
    (retract current lastApplied desired).get? key =
      if key ∈ desired ∨ key ∉ (lastApplied.getD []).keys then current.get? key else none := by
  cases lastApplied with
  | none => simp [retract]
  | some last =>
    rw [retract, Fields.get?_filter current fun key => desired.contains key || !last.contains key]
    simp [← Fields.contains_iff]

section Run

variable {path : Path} {lastApplied : Option (Fields Doc)}

theorem reviseField_success {fields next : Fields Doc} {entry : String × Revision}
    (h : reviseField path lastApplied fields entry = .ok next) :
    ∃ value, entry.2 (path.child entry.1) ((fields.get? entry.1).getD .null)
        (lastApplied.bind (·.get? entry.1)) = .ok value ∧
      next = fields.insert entry.1 value := by
  unfold reviseField at h
  obtain ⟨value, revised, stored⟩ := ok_of_bind h
  cases stored
  exact ⟨value, revised, rfl⟩

/-- The effect of a run of revisions on the fields it starts from. -/
structure Revised (path : Path) (lastApplied : Option (Fields Doc)) (start : Fields Doc)
    (revisions : Fields Revision) (out : Fields Doc) : Prop where
  keys : out.keys = start.keys ++ revisions.keys.filter (· ∉ start.keys)
  untouched : ∀ key, key ∉ revisions.keys → out.get? key = start.get? key
  revised : ∀ entry ∈ revisions, ∃ value,
    entry.2 (path.child entry.1) ((start.get? entry.1).getD .null)
      (lastApplied.bind (·.get? entry.1)) = .ok value ∧ out.get? entry.1 = some value

/-- A run goes revision by revision; the first one is out of reach of the others because the names
differ. -/
theorem foldlM_reviseField {start out : Fields Doc} {revisions : Fields Revision}
    (nodup : revisions.keys.Nodup)
    (h : revisions.foldlM (reviseField path lastApplied) start = .ok out) :
    Revised path lastApplied start revisions out := by
  induction revisions generalizing start with
  | nil =>
    cases h
    exact ⟨by simp, fun _ _ => rfl, nofun⟩
  | cons entry rest ih =>
    rw [List.foldlM_cons] at h
    obtain ⟨next, first, h⟩ := ok_of_bind h
    obtain ⟨value, revised, rfl⟩ := reviseField_success first
    rw [Fields.keys_cons, List.nodup_cons] at nodup
    have tail := ih nodup.2 h
    refine ⟨?_, ?_, ?_⟩
    · rw [tail.keys, Fields.keys_insert, Fields.keys_cons, List.filter_cons]
      by_cases present : entry.1 ∈ Fields.keys start
      · simp [present]
      · have later : (Fields.keys rest).filter (· ∉ Fields.keys start ++ [entry.1]) =
            (Fields.keys rest).filter (· ∉ Fields.keys start) := by
          refine List.filter_congr fun key member => ?_
          have different : key ≠ entry.1 := fun equal => nodup.1 (equal ▸ member)
          simp [different]
        rw [if_neg present, if_pos (decide_eq_true present), later, List.append_assoc,
          List.singleton_append]
    · intro key absent
      rw [Fields.keys_cons, List.mem_cons, not_or] at absent
      rw [tail.untouched key absent.2, Fields.get?_insert_of_ne absent.1]
    · intro candidate member
      rcases List.mem_cons.mp member with rfl | member
      · refine ⟨value, revised, ?_⟩
        rw [tail.untouched _ nodup.1, Fields.get?_insert_self]
      · have different : candidate.1 ≠ entry.1 := fun equal =>
          nodup.1 (equal ▸ Fields.mem_keys_of_mem member)
        simpa only [Fields.get?_insert_of_ne different] using tail.revised candidate member

/-- A run succeeds if each revision does at the value that it starts from. -/
theorem foldlM_reviseField_ok {start : Fields Doc} {revisions : Fields Revision}
    (nodup : revisions.keys.Nodup)
    (each : ∀ entry ∈ revisions, ∃ value, entry.2 (path.child entry.1)
      ((start.get? entry.1).getD .null) (lastApplied.bind (·.get? entry.1)) = .ok value) :
    ∃ out, revisions.foldlM (reviseField path lastApplied) start = .ok out := by
  induction revisions generalizing start with
  | nil => exact ⟨start, rfl⟩
  | cons entry rest ih =>
    rw [Fields.keys_cons, List.nodup_cons] at nodup
    obtain ⟨value, revised⟩ := each entry List.mem_cons_self
    have step : reviseField path lastApplied start entry = .ok (start.insert entry.1 value) := by
      unfold reviseField
      rw [revised]
      rfl
    rw [List.foldlM_cons, step]
    refine ih nodup.2 fun other member => ?_
    have different : other.1 ≠ entry.1 := fun equal =>
      nodup.1 (equal ▸ Fields.mem_keys_of_mem member)
    rw [Fields.get?_insert_of_ne different]
    exact each other (List.mem_cons_of_mem entry member)

theorem reviseFields_success {current out : Fields Doc} {revisions : Fields Revision}
    (nodup : revisions.keys.Nodup)
    (h : reviseFields path current lastApplied revisions = .ok out) :
    Revised path lastApplied (retract current lastApplied revisions.keys) revisions out :=
  foldlM_reviseField nodup h

end Run

/-- The fields `out` are the merge of `desired`, an object or null, into the fields `current`, given
what was last applied: the names are the kept ones in their order and then the new ones in the
desired order, each desired field is merged, any other that was last applied is gone, and the rest
keep their values. -/
structure FieldsMerged (path : Path) (current : Fields Doc) (lastApplied : Option Doc)
    (desired : Doc) (out : Fields Doc) : Prop where
  fits : desired = .null ∨ ∃ fields, desired = .object fields
  keys : out.keys =
    (current.keys.filter fun key =>
      key ∈ desired.names ∨ key ∉ (lastApplied.getD .null).names) ++
    desired.names.filter (· ∉ current.keys)
  merged : ∀ key value, desired.get? key = some value → ∃ result,
    mergeAt (path.child key) ((current.get? key).getD .null) (lastApplied.bind (·.get? key)) value =
      .ok result ∧ out.get? key = some result
  kept : ∀ key, key ∉ desired.names → key ∉ (lastApplied.getD .null).names →
    out.get? key = current.get? key
  retracted : ∀ key, key ∈ (lastApplied.getD .null).names → key ∉ desired.names →
    out.get? key = none

namespace FieldsMerged

variable {path : Path} {current out : Fields Doc} {lastApplied : Option Doc} {desired : Doc}

theorem mem_keys (spec : FieldsMerged path current lastApplied desired out) {key : String} :
    key ∈ out.keys ↔ key ∈ desired.names ∨
      key ∈ current.keys ∧ key ∉ (lastApplied.getD .null).names := by
  rw [spec.keys, List.mem_append, List.mem_filter, List.mem_filter, decide_eq_true_iff,
    decide_eq_true_iff]
  tauto

theorem nodup_keys (spec : FieldsMerged path current lastApplied desired out)
    (nodup : current.keys.Nodup) (nodupDesired : desired.names.Nodup) : out.keys.Nodup := by
  rw [spec.keys, List.nodup_append]
  refine ⟨nodup.filter _, nodupDesired.filter _, fun a left b right equal => ?_⟩
  subst equal
  exact of_decide_eq_true (List.mem_filter.mp right).2 (List.mem_filter.mp left).1

end FieldsMerged

theorem fieldRevisions?_success {desired : Doc} {revisions : Fields Revision}
    (h : desired.fieldRevisions? = some revisions) :
    (desired = .null ∨ ∃ fields, desired = .object fields) ∧ revisions.keys = desired.names ∧
      ∀ key value, desired.get? key = some value → (key, value.revision) ∈ revisions := by
  unfold Doc.fieldRevisions? at h
  split at h
  · cases h
    exact ⟨Or.inl rfl, rfl, nofun⟩
  · cases h
    refine ⟨Or.inr ⟨_, rfl⟩, Fields.keys_map _ _, fun key value found => ?_⟩
    exact List.mem_map.mpr ⟨(key, value), Fields.mem_of_get? found, rfl⟩
  · cases h

/-- A merge into an object gives an object, with the fields merged. -/
theorem mergeAt_object_success {path : Path} {current : Fields Doc} {lastApplied : Option Doc}
    {desired merged : Doc} (wellFormed : desired.WellFormed)
    (h : mergeAt path (.object current) lastApplied desired = .ok merged) :
    ∃ out, merged = .object out ∧ FieldsMerged path current lastApplied desired out := by
  rw [mergeAt_object] at h
  obtain ⟨last, expected, h⟩ := ok_of_bind h
  obtain ⟨lastNames, lastGet⟩ := expectObject_success expected
  split at h
  · next revisions found =>
    obtain ⟨out, run, h⟩ := ok_of_bind h
    cases h
    obtain ⟨fits, names, members⟩ := fieldRevisions?_success found
    have spec := reviseFields_success (names ▸ wellFormed.nodup_names) run
    rw [names] at spec
    refine ⟨out, rfl, fits, ?_, ?_, ?_, ?_⟩
    · rw [spec.keys, keys_retract, names, lastNames]
      congr 1
      refine List.filter_congr fun key member => ?_
      simp [member]
    · intro key value wanted
      obtain ⟨result, revised, stored⟩ := spec.revised _ (members key value wanted)
      have member : key ∈ desired.names := by
        by_contra absent
        rw [Doc.get?_eq_none_iff.mpr absent] at wanted
        cases wanted
      rw [get?_retract, if_pos (Or.inl member), ← lastGet] at revised
      exact ⟨result, revised, stored⟩
    · intro key unwanted unapplied
      rw [spec.untouched key (names ▸ unwanted), get?_retract, if_pos (Or.inr (lastNames ▸ unapplied))]
    · intro key applied unwanted
      rw [spec.untouched key (names ▸ unwanted), get?_retract,
        if_neg (not_or.mpr ⟨unwanted, not_not.mpr (lastNames ▸ applied)⟩)]
  · cases h

theorem mergeAt_object_of_run {path : Path} {current out : Fields Doc} {lastApplied : Option Doc}
    {last : Option (Fields Doc)} {desired : Doc} {revisions : Fields Revision}
    (expected : expectObject .lastApplied path lastApplied = .ok last)
    (found : desired.fieldRevisions? = some revisions)
    (run : reviseFields path current last revisions = .ok out) :
    mergeAt path (.object current) lastApplied desired = .ok (.object out) := by
  simp only [mergeAt_object, expected, found, run, bind, Except.bind, pure, Except.pure]

/-- A merge into an object succeeds if nothing of another shape was last applied and each field can
be merged. -/
theorem mergeAt_object_ok {path : Path} {current : Fields Doc} {lastApplied : Option Doc}
    {last : Option (Fields Doc)} {desired : Fields Doc}
    (expected : expectObject .lastApplied path lastApplied = .ok last)
    (nodup : desired.keys.Nodup)
    (each : ∀ key value, desired.get? key = some value → ∃ result,
      mergeAt (path.child key) ((current.get? key).getD .null) (lastApplied.bind (·.get? key)) value =
        .ok result) :
    ∃ out, mergeAt path (.object current) lastApplied (.object desired) = .ok (.object out) := by
  obtain ⟨_, lastGet⟩ := expectObject_success expected
  have names := Fields.keys_map desired Doc.revision
  obtain ⟨out, run⟩ : ∃ out, reviseFields path current last
      (desired.map fun entry => (entry.1, entry.2.revision)) = .ok out := by
    refine foldlM_reviseField_ok (names ▸ nodup) fun entry member => ?_
    obtain ⟨⟨key, value⟩, listed, rfl⟩ := List.mem_map.mp member
    have wanted : key ∈ desired.keys := Fields.mem_keys_of_mem listed
    rw [get?_retract, if_pos (.inl (names ▸ wanted)), ← lastGet]
    exact each key value (Fields.get?_of_mem nodup listed)
  exact ⟨out, mergeAt_object_of_run expected rfl run⟩

end Reconcile
