import Reconcile.Proofs.Doc.Without
import Reconcile.Proofs.Merge.KeyOrder

/-!
# Values that are overwritten anyway

A scalar that is observed where something is desired does not matter: with the scalar taken out of
the observed document, the merge fails alike or gives the same up to the order of names
(`mergeAt_without`). One step down, two objects that are equal outside the desired names merge alike
if their desired fields do (`mergeAt_object_agree`).
-/
namespace Reconcile

open Doc (Permuted)

namespace Agree

variable {α β : Type} {results : α → β → Prop} {first : Except Failure α}
  {second : Except Failure β}

theorem failure?_eq (h : Agree Eq results first second) : failure? first = failure? second := by
  cases h with
  | ok _ => rfl
  | error same => exact congrArg some same

theorem of_failure? (same : failure? first = failure? second)
    (each : ∀ a b, first = .ok a → second = .ok b → results a b) :
    Agree Eq results first second := by
  cases first with
  | ok a =>
    cases second with
    | ok b => exact .ok (each a b rfl rfl)
    | error failure => cases same
  | error failure =>
    cases second with
    | ok b => cases same
    | error other =>
      cases same
      exact .error rfl

/-- An outcome agrees with itself. -/
theorem self (outcome : Except Failure Doc) : Agree Eq Permuted outcome outcome := by
  cases outcome with
  | ok doc => exact .ok (.refl doc)
  | error failure => exact .error rfl

end Agree

section Step

variable {path : Path} {current current' : Fields Doc} {lastApplied : Option Doc} {desired : Doc}

/-- Merges into two objects fail alike if those of their desired fields do. -/
theorem failure?_mergeAt_object (wellFormed : desired.WellFormed)
    (each : ∀ key value, desired.get? key = some value →
      failure? (mergeAt (path.child key) ((current.get? key).getD .null)
          (lastApplied.bind (·.get? key)) value) =
        failure? (mergeAt (path.child key) ((current'.get? key).getD .null)
          (lastApplied.bind (·.get? key)) value)) :
    failure? (mergeAt path (.object current) lastApplied desired) =
      failure? (mergeAt path (.object current') lastApplied desired) := by
  let place : Place := ⟨path, .object current, lastApplied, desired⟩
  let other : Place := ⟨path, .object current', lastApplied, desired⟩
  have here : place.conflict? = other.conflict? := rfl
  have below : place.below.findSome? (fun inner => failure? inner.merged) =
      other.below.findSome? fun inner => failure? inner.merged := by
    change (desired.fields.map fun entry => place.field entry.1 entry.2).findSome? _ =
      (desired.fields.map fun entry => other.field entry.1 entry.2).findSome? _
    rw [List.findSome?_map, List.findSome?_map]
    exact findSome?_congr fun entry listed =>
      each entry.1 entry.2 (Doc.get?_of_mem_fields wellFormed listed)
  calc failure? place.merged
      = place.conflict?.or (place.below.findSome? fun inner => failure? inner.merged) :=
        Place.failure?_merged wellFormed
    _ = other.conflict?.or (other.below.findSome? fun inner => failure? inner.merged) := by
        rw [here, below]
    _ = failure? other.merged := (Place.failure?_merged wellFormed).symm

theorem mergeAt_object_agree (nodup : current.keys.Nodup) (nodup' : current'.keys.Nodup)
    (wellFormed : desired.WellFormed)
    (untouched : ∀ key, key ∉ desired.names → current.get? key = current'.get? key)
    (each : ∀ key value, desired.get? key = some value → Agree Eq Permuted
      (mergeAt (path.child key) ((current.get? key).getD .null)
        (lastApplied.bind (·.get? key)) value)
      (mergeAt (path.child key) ((current'.get? key).getD .null)
        (lastApplied.bind (·.get? key)) value)) :
    Agree Eq Permuted (mergeAt path (.object current) lastApplied desired)
      (mergeAt path (.object current') lastApplied desired) := by
  refine .of_failure? ?_ fun result result' first second => ?_
  · exact failure?_mergeAt_object wellFormed fun key value found =>
      (each key value found).failure?_eq
  · obtain ⟨out, rfl, spec⟩ := mergeAt_object_success wellFormed first
    obtain ⟨out', rfl, spec'⟩ := mergeAt_object_success wellFormed second
    refine spec.permuted spec' (spec.nodup_keys nodup wellFormed.nodup_names)
      (spec'.nodup_keys nodup' wellFormed.nodup_names) (.refl desired) (.refl _) ?_ ?_
    · intro key undesired
      rw [untouched key undesired]
      cases current'.get? key with
      | none => exact .none
      | some doc => exact .some (.refl doc)
    · intro key value value' found found' _ part part' step step'
      cases found.symm.trans found'
      have agree := each key value found
      rw [step, step'] at agree
      cases agree with
      | ok permuted => exact permuted

end Step

/-- What a path goes through first is the only field that changes, to what is left of it. -/
theorem Doc.without_object (fields : Fields Doc) (key : String) (rest : List String) :
    ∃ kept : Fields Doc, (object fields).without (key :: rest) = .object kept ∧
      (∀ other, other ≠ key → kept.get? other = fields.get? other) ∧
      kept.get? key = if rest = [] then none else (fields.get? key).map (·.without rest) := by
  cases rest with
  | nil =>
    exact ⟨_, rfl, fun _ different => Fields.get?_erase_of_ne different, Fields.get?_erase_self _ _⟩
  | cons next rest =>
    refine ⟨_, rfl, fun _ different => Fields.get?_alter_of_ne different, ?_⟩
    rw [Fields.get?_alter_self, if_neg (List.cons_ne_nil next rest)]

/-- Taking out a scalar where something is desired makes no difference but to the order of names.
The induction is on the path; at its end the desired value replaces the scalar, or the null that
stands for what is missing. -/
theorem mergeAt_without {base : Path} {observed desired held wanted : Doc}
    {lastApplied : Option Doc} {path : List String} (observedFormed : observed.WellFormed)
    (desiredFormed : desired.WellFormed)
    (found : observed.getPath? path = some held) (scalar : held.isScalar = true)
    (desires : desired.getPath? path = some wanted) :
    Agree Eq Permuted (mergeAt base observed lastApplied desired)
      (mergeAt base (observed.without path) lastApplied desired) := by
  induction path generalizing base observed lastApplied desired with
  | nil =>
    rw [Doc.without_nil]
    exact .self _
  | cons key rest ih =>
    rw [Doc.getPath?_cons, Option.bind_eq_some_iff] at found desires
    obtain ⟨inner, atKey, found⟩ := found
    obtain ⟨value, wantedAtKey, desires⟩ := desires
    cases observed with
    | object current =>
      obtain ⟨kept, removed, others, left⟩ := Doc.without_object current key rest
      have present : Fields.get? current key = some inner := atKey
      have agree : Agree Eq Permuted
          (mergeAt (base.child key) inner (lastApplied.bind (·.get? key)) value)
          (mergeAt (base.child key) ((kept.get? key).getD .null) (lastApplied.bind (·.get? key))
            value) := by
        rw [left]
        cases rest with
        | nil =>
          cases found
          rw [if_pos rfl, mergeAt_scalar scalar, Option.getD_none, mergeAt_scalar rfl]
          exact .self _
        | cons next rest =>
          rw [if_neg (List.cons_ne_nil next rest), present, Option.map_some, Option.getD_some]
          exact ih (observedFormed.of_get? atKey) (desiredFormed.of_get? wantedAtKey) found desires
      have keptFormed := observedFormed.without (key :: rest)
      rw [removed] at keptFormed ⊢
      refine mergeAt_object_agree observedFormed.nodup_names keptFormed.nodup_names desiredFormed
        ?_ ?_
      · intro other undesired
        refine (others other ?_).symm
        rintro rfl
        rw [Doc.get?_eq_none_iff.mpr undesired] at wantedAtKey
        cases wantedAtKey
      · intro other value' desiredAt
        by_cases same : other = key
        · subst same
          cases wantedAtKey.symm.trans desiredAt
          rw [present, Option.getD_some]
          exact agree
        · rw [others other same]
          exact .self _
    | _ => cases atKey

end Reconcile
