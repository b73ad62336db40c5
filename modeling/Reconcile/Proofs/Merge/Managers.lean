import Reconcile.Proofs.Doc.Permuted
import Reconcile.Proofs.Merge.Agree
import Reconcile.Proofs.Merge.Objects

/-!
# Managers of disjoint fields

Two managers that share one object and mention no field in common, but for objects in which they are
again apart, can update it in either order: both orders fail, or both succeed with the same document
up to the order of names (`update_comm`). A manager acts on each field by itself (`Manager.act`),
and on those that it does not mention not at all, so the question is settled field by field; where
both managers want an object, the induction goes into it. A scalar counts like an object without
fields there, since both replace it by an object.
-/
namespace Reconcile

open Doc (Permuted)

/-- What a manager knows of an object: what it applied last, if anything, and what it wants now. -/
structure Manager where
  lastApplied : Option Doc
  desired : Doc

namespace Manager

/-- The merge of a manager, at a path. -/
def updateAt (manager : Manager) (path : Path) (observed : Doc) : Except Failure Doc :=
  mergeAt path observed manager.lastApplied manager.desired

def update (manager : Manager) (observed : Doc) : Except Failure Doc :=
  merge observed manager.lastApplied manager.desired

/-- What a manager knows of a field of its object that it wants. -/
def field (manager : Manager) (key : String) (wanted : Doc) : Manager :=
  ⟨manager.lastApplied.bind (·.get? key), wanted⟩

/-- A name that the manager applied last or wants now. -/
def Mentions (manager : Manager) (key : String) : Prop :=
  key ∈ (manager.lastApplied.getD .null).names ∨ key ∈ manager.desired.names

/-- Both managers want objects, and where both mention a field both want objects again, in which
they are apart. What was last applied may be missing or null. -/
inductive Apart : Manager → Manager → Prop where
  | mk {first second : Manager} {desired₁ desired₂ : Fields Doc}
      (object₁ : first.desired = .object desired₁) (object₂ : second.desired = .object desired₂)
      (applied₁ : ∀ last ∈ first.lastApplied, last = .null ∨ ∃ fields, last = .object fields)
      (applied₂ : ∀ last ∈ second.lastApplied, last = .null ∨ ∃ fields, last = .object fields)
      (shared : ∀ key, first.Mentions key → second.Mentions key →
        key ∈ desired₁.keys ∧ key ∈ desired₂.keys)
      (inside : ∀ key wanted₁ wanted₂, desired₁.get? key = some wanted₁ →
        desired₂.get? key = some wanted₂ →
        Apart (first.field key wanted₁) (second.field key wanted₂)) :
      Apart first second

theorem Apart.symm {first second : Manager} (apart : Apart first second) : Apart second first := by
  induction apart with
  | mk object₁ object₂ applied₁ applied₂ shared _ ih =>
    refine .mk object₂ object₁ applied₂ applied₁ ?_ ?_
    · exact fun key mentioned₂ mentioned₁ => (shared key mentioned₁ mentioned₂).symm
    · exact fun key wanted₂ wanted₁ found₂ found₁ => ih key wanted₁ wanted₂ found₁ found₂

instance (manager : Manager) (key : String) : Decidable (manager.Mentions key) :=
  inferInstanceAs (Decidable (_ ∨ _))

/-- What a manager makes of one field, which may be missing. -/
def act (manager : Manager) (path : Path) (key : String) (held : Option Doc) :
    Except Failure (Option Doc) :=
  match manager.desired.get? key with
  | some wanted => do
    return some (← (manager.field key wanted).updateAt (path.child key) (held.getD .null))
  | none => .ok (if manager.Mentions key then none else held)

section Act

variable {manager first second : Manager} {path : Path} {key : String} {held : Option Doc}

theorem act_of_not_mentions (unmentioned : ¬ manager.Mentions key) :
    manager.act path key held = .ok held := by
  have undesired : manager.desired.get? key = none :=
    Doc.get?_eq_none_iff.mpr fun member => unmentioned (.inr member)
  rw [act, undesired, if_neg unmentioned]

theorem act_of_desired {wanted : Doc} (found : manager.desired.get? key = some wanted) :
    manager.act path key held = (do
      return some (← (manager.field key wanted).updateAt (path.child key) (held.getD .null))) := by
  rw [act, found]

/-- A merge acts on every field. -/
theorem act_merged {current out : Fields Doc}
    (spec : FieldsMerged path current manager.lastApplied manager.desired out) (key : String) :
    manager.act path key (current.get? key) = .ok (out.get? key) := by
  cases found : manager.desired.get? key with
  | some wanted =>
    obtain ⟨result, revised, stored⟩ := spec.merged key wanted found
    rw [act_of_desired found, updateAt, field, revised, stored]
    rfl
  | none =>
    have undesired := Doc.get?_eq_none_iff.mp found
    rw [act, found]
    by_cases applied : key ∈ (manager.lastApplied.getD .null).names
    · rw [if_pos (.inl applied), spec.retracted key applied undesired]
    · have unmentioned : ¬ manager.Mentions key := not_or.mpr ⟨applied, undesired⟩
      rw [if_neg unmentioned, spec.kept key undesired applied]

/-- An update gives an object with the fields merged, and is impossible where a list stands. -/
theorem updateAt_success {observed merged : Doc} {desired : Fields Doc}
    (object : manager.desired = .object desired) (wellFormed : manager.desired.WellFormed)
    (h : manager.updateAt path observed = .ok merged) :
    (∀ items, observed ≠ .array items) ∧ ∃ out : Fields Doc, merged = .object out ∧
      FieldsMerged path observed.fields manager.lastApplied manager.desired out := by
  unfold updateAt at h
  rw [object] at h wellFormed ⊢
  exact mergeAt_into_object wellFormed h

theorem updateAt_ok {observed : Doc} {desired : Fields Doc}
    (object : manager.desired = .object desired) (wellFormed : manager.desired.WellFormed)
    (applied : ∀ last ∈ manager.lastApplied, last = .null ∨ ∃ fields, last = .object fields)
    (notList : ∀ items, observed ≠ .array items)
    (each : ∀ key, ∃ result, manager.act path key (observed.fields.get? key) = .ok result) :
    ∃ merged, manager.updateAt path observed = .ok merged := by
  have expected : ∃ last, expectObject .lastApplied path manager.lastApplied = .ok last := by
    cases known : manager.lastApplied with
    | none => exact ⟨none, rfl⟩
    | some last =>
      rcases applied last known with rfl | ⟨fields, rfl⟩
      · exact ⟨none, rfl⟩
      · exact ⟨some fields, rfl⟩
  obtain ⟨last, expected⟩ := expected
  unfold updateAt
  rw [object] at wellFormed ⊢
  refine mergeAt_into_object_ok notList expected wellFormed.nodup_names fun key wanted found => ?_
  have found : manager.desired.get? key = some wanted := object ▸ found
  obtain ⟨result, acted⟩ := each key
  rw [act_of_desired found] at acted
  obtain ⟨value, revised, _⟩ := ok_of_bind acted
  exact ⟨value, revised⟩

/-- If the second manager can follow the first one, the first can follow the second one to the same
end. -/
def Swaps (first second : Manager) : Prop :=
  ∀ {path : Path} {observed once twice : Doc}, observed.WellFormed → first.desired.WellFormed →
    second.desired.WellFormed → first.updateAt path observed = .ok once →
    second.updateAt path once = .ok twice →
    ∃ other both, second.updateAt path observed = .ok other ∧ first.updateAt path other = .ok both ∧
      Permuted twice both

/-- One field can be swapped when a manager does not mention it, or else by the induction. -/
theorem act_swap {once twice : Option Doc}
    (heldFormed : (held.getD .null).WellFormed) (wellFormed₁ : first.desired.WellFormed)
    (wellFormed₂ : second.desired.WellFormed)
    (shared : first.Mentions key → second.Mentions key → ∃ wanted₁ wanted₂,
      first.desired.get? key = some wanted₁ ∧ second.desired.get? key = some wanted₂ ∧
        Swaps (first.field key wanted₁) (second.field key wanted₂))
    (step₁ : first.act path key held = .ok once) (step₂ : second.act path key once = .ok twice) :
    ∃ other both, second.act path key held = .ok other ∧ first.act path key other = .ok both ∧
      Option.Rel Permuted twice both := by
  have same : ∀ value : Option Doc, Option.Rel Permuted value value
    | none => .none
    | some doc => .some (.refl doc)
  by_cases mentioned₁ : first.Mentions key
  · by_cases mentioned₂ : second.Mentions key
    · obtain ⟨wanted₁, wanted₂, found₁, found₂, swaps⟩ := shared mentioned₁ mentioned₂
      rw [act_of_desired found₁] at step₁
      rw [act_of_desired found₂] at step₂
      obtain ⟨result₁, revised₁, stored₁⟩ := ok_of_bind step₁
      cases stored₁
      obtain ⟨result₂, revised₂, stored₂⟩ := ok_of_bind step₂
      cases stored₂
      obtain ⟨other, both, revised₃, revised₄, permuted⟩ := swaps heldFormed
        (wellFormed₁.of_get? found₁) (wellFormed₂.of_get? found₂) revised₁ revised₂
      refine ⟨some other, some both, ?_, ?_, .some permuted⟩
      · rw [act_of_desired found₂, revised₃]
        rfl
      · rw [act_of_desired found₁, Option.getD_some, revised₄]
        rfl
    · rw [act_of_not_mentions mentioned₂] at step₂
      cases step₂
      exact ⟨held, once, act_of_not_mentions mentioned₂, step₁, same once⟩
  · rw [act_of_not_mentions mentioned₁] at step₁
    cases step₁
    exact ⟨twice, twice, step₂, act_of_not_mentions mentioned₁, same twice⟩

end Act

/-- The induction is on how the managers are apart; each level is settled field by field. -/
theorem Apart.swaps {first second : Manager} (apart : Apart first second) : Swaps first second := by
  induction apart with
  | @mk first second desired₁ desired₂ object₁ object₂ applied₁ applied₂ shared _ ih =>
    intro path observed once twice observedFormed wellFormed₁ wellFormed₂ step₁ step₂
    obtain ⟨notList, onceFields, rfl, merged₁⟩ := updateAt_success object₁ wellFormed₁ step₁
    obtain ⟨_, twiceFields, rfl, merged₂⟩ := updateAt_success object₂ wellFormed₂ step₂
    have each : ∀ key, ∃ other both, second.act path key (observed.fields.get? key) = .ok other ∧
        first.act path key other = .ok both ∧
        Option.Rel Permuted (Fields.get? twiceFields key) both := by
      intro key
      refine act_swap (Doc.wellFormed_field observedFormed key) wellFormed₁ wellFormed₂ ?_
        (act_merged merged₁ key) (act_merged merged₂ key)
      intro mentioned₁ mentioned₂
      obtain ⟨named₁, named₂⟩ := shared key mentioned₁ mentioned₂
      obtain ⟨wanted₁, found₁⟩ := Fields.exists_get?_of_mem_keys named₁
      obtain ⟨wanted₂, found₂⟩ := Fields.exists_get?_of_mem_keys named₂
      exact ⟨wanted₁, wanted₂, object₁ ▸ found₁, object₂ ▸ found₂,
        ih key wanted₁ wanted₂ found₁ found₂⟩
    obtain ⟨other, step₃⟩ := updateAt_ok object₂ wellFormed₂ applied₂ notList fun key => by
      obtain ⟨other, _, acted, _⟩ := each key
      exact ⟨other, acted⟩
    obtain ⟨_, otherFields, rfl, merged₃⟩ := updateAt_success object₂ wellFormed₂ step₃
    have follow : ∀ key, ∃ both, first.act path key (Fields.get? otherFields key) = .ok both ∧
        Option.Rel Permuted (Fields.get? twiceFields key) both := by
      intro key
      obtain ⟨other, both, acted, next, permuted⟩ := each key
      cases acted.symm.trans (act_merged merged₃ key)
      exact ⟨both, next, permuted⟩
    have again : ∃ both, first.updateAt path (.object otherFields) = .ok both := by
      refine updateAt_ok object₁ wellFormed₁ applied₁ nofun fun key => ?_
      obtain ⟨both, acted, _⟩ := follow key
      exact ⟨both, acted⟩
    obtain ⟨both, step₄⟩ := again
    obtain ⟨_, bothFields, rfl, merged₄⟩ := updateAt_success object₁ wellFormed₁ step₄
    refine ⟨_, _, step₃, step₄, .of_get? ?_ ?_ fun key => ?_⟩
    · exact merged₂.nodup_keys (merged₁.nodup_keys (Doc.nodup_fields observedFormed)
        wellFormed₁.nodup_names) wellFormed₂.nodup_names
    · exact merged₄.nodup_keys (merged₃.nodup_keys (Doc.nodup_fields observedFormed)
        wellFormed₂.nodup_names) wellFormed₁.nodup_names
    · obtain ⟨both, acted, permuted⟩ := follow key
      cases acted.symm.trans (act_merged merged₄ key)
      exact permuted

/-- Managers that are apart can update an object in either order: both orders fail, or both succeed
with the same document up to the order of names. -/
theorem update_comm {first second : Manager} {observed : Doc} (apart : Apart first second)
    (observedFormed : observed.WellFormed) (wellFormed₁ : first.desired.WellFormed)
    (wellFormed₂ : second.desired.WellFormed) :
    Agree (fun _ _ => True) Permuted (first.update observed >>= second.update)
      (second.update observed >>= first.update) := by
  refine .of_success ?_ ?_
  · intro twice run
    obtain ⟨once, step₁, step₂⟩ := ok_of_bind run
    obtain ⟨other, both, step₃, step₄, permuted⟩ :=
      apart.swaps observedFormed wellFormed₁ wellFormed₂ step₁ step₂
    refine ⟨both, ?_, permuted⟩
    change (second.updateAt .root observed >>= first.update) = _
    rw [step₃]
    exact step₄
  · intro both run
    obtain ⟨other, step₂, step₁⟩ := ok_of_bind run
    obtain ⟨once, twice, step₃, step₄, _⟩ :=
      apart.symm.swaps observedFormed wellFormed₂ wellFormed₁ step₂ step₁
    refine ⟨twice, ?_⟩
    change (first.updateAt .root observed >>= second.update) = _
    rw [step₃]
    exact step₄

section Rollout

private def release : Manager :=
  ⟨some (.object [("legacy", .bool true), ("spec", .null)]),
    .object [("spec", .object [("image", .string "web:2")])]⟩

private def scaler : Manager :=
  ⟨none, .object [("owner", .string "ops"), ("spec", .object [("paused", .bool false)])]⟩

/-- Nothing but a scalar stands where both managers want an object. -/
private def unreleased : Doc :=
  .object [("legacy", .string "drifted"), ("spec", .string "unset"), ("status", .null)]

private def rolledOut (spec : Fields Doc) : Doc :=
  .object [("spec", .object spec), ("status", .null), ("owner", .string "ops")]

private theorem release_apart_scaler : Apart release scaler := by
  refine .mk rfl rfl ?_ nofun ?_ ?_
  · rintro _ ⟨⟩
    exact .inr ⟨_, rfl⟩
  · intro key mentioned₁ mentioned₂
    simp [Mentions, release, scaler] at mentioned₁ mentioned₂ ⊢
    rcases mentioned₁ with rfl | rfl
    · simp at mentioned₂
    · simp
  · intro key wanted₁ wanted₂ found₁ found₂
    have listed := Fields.mem_of_get? found₁
    simp only [List.mem_singleton, Prod.mk.injEq] at listed
    obtain ⟨rfl, rfl⟩ := listed
    cases found₂
    refine .mk rfl rfl ?_ nofun ?_ ?_
    · rintro _ ⟨⟩
      exact .inl rfl
    · intro key mentioned₁ mentioned₂
      simp [Mentions, field, release, scaler, Doc.get?, Fields.get?_cons] at mentioned₁ mentioned₂
      subst mentioned₁
      simp at mentioned₂
    · intro key wanted₁ wanted₂ found₁ found₂
      have listed₁ := Fields.mem_of_get? found₁
      have listed₂ := Fields.mem_of_get? found₂
      simp_all

theorem update_comm_rollout :
    (release.update unreleased >>= scaler.update) =
        .ok (rolledOut [("image", .string "web:2"), ("paused", .bool false)]) ∧
      (scaler.update unreleased >>= release.update) =
        .ok (rolledOut [("paused", .bool false), ("image", .string "web:2")]) ∧
      Permuted (rolledOut [("image", .string "web:2"), ("paused", .bool false)])
        (rolledOut [("paused", .bool false), ("image", .string "web:2")]) := by
  have first : (release.update unreleased >>= scaler.update) =
      .ok (rolledOut [("image", .string "web:2"), ("paused", .bool false)]) := rfl
  have second : (scaler.update unreleased >>= release.update) =
      .ok (rolledOut [("paused", .bool false), ("image", .string "web:2")]) := rfl
  have agree : Agree (fun _ _ => True) Permuted (release.update unreleased >>= scaler.update)
      (scaler.update unreleased >>= release.update) :=
    update_comm release_apart_scaler (by decide) (by decide) (by decide)
  rw [first, second] at agree
  cases agree with
  | ok permuted => exact ⟨first, second, permuted⟩

end Rollout

end Manager

end Reconcile
