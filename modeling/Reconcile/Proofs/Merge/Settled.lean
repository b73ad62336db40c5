import Reconcile.Proofs.Doc.Without
import Reconcile.Proofs.Merge.Realised

/-!
# Merges that change nothing

When what was last applied lies within what is desired (`Within`), a merge has nothing to retract,
and the observed document comes back as it was, names and elements in their order, exactly when it
satisfies the desired one and is nowhere an empty list where null is desired (`mergeAt_eq_self_iff`).
The field by which a list is read need not be the one by which it satisfies the desired list; a
desired element and the element that satisfies it agree on every scalar field that both carry, so
they have one identity whichever field gives it.
-/
namespace Reconcile

open Doc (Satisfies Covers EmptyAtNull)

/-- What was last applied lies within what is desired: it is missing or null, it is the same, or it
is an object with some of the desired names whose values lie within the desired ones. -/
inductive Within : (lastApplied : Option Doc) → (desired : Doc) → Prop where
  | absent {desired : Doc} : Within none desired
  | null {desired : Doc} : Within (some .null) desired
  | same {desired : Doc} : Within (some desired) desired
  | object {last desired : Fields Doc} (names : ∀ key ∈ last.keys, key ∈ desired.keys)
      (values : ∀ key value, desired.get? key = some value → Within (last.get? key) value) :
      Within (some (.object last)) (.object desired)

namespace Within

variable {lastApplied : Option Doc} {desired : Doc}

theorem field {key : String} {value : Doc} (within : Within lastApplied desired)
    (found : desired.get? key = some value) : Within (lastApplied.bind (·.get? key)) value := by
  cases within with
  | absent => exact .absent
  | null => exact .absent
  | same =>
    rw [Option.bind_some, found]
    exact .same
  | object _ values => exact values key value found

theorem names (within : Within lastApplied desired) :
    ∀ key ∈ (lastApplied.getD .null).names, key ∈ desired.names := by
  cases within with
  | absent => nofun
  | null => nofun
  | same => exact fun _ member => member
  | object names _ => exact names

theorem items (within : Within lastApplied desired) :
    (lastApplied.getD .null).items = [] ∨ (lastApplied.getD .null).items = desired.items := by
  cases within with
  | absent => exact .inl rfl
  | null => exact .inl rfl
  | same => exact .inr rfl
  | object _ _ => exact .inl rfl

/-- The element last applied under the identity of a desired element lies within that one. -/
theorem element {key : String} {item : Doc} (within : Within lastApplied desired)
    (nodup : (desired.items.map (·.identity key)).Nodup) (member : item ∈ desired.items) :
    Within ((byIdentity key (lastApplied.getD .null).items).get? (item.identity key)) item := by
  rcases within.items with nothing | all
  · rw [nothing]
    exact .absent
  · rw [all, get?_byIdentity nodup member]
    exact .same

theorem expectObject (path : Path) (within : Within lastApplied desired)
    (fits : desired = .null ∨ ∃ fields, desired = .object fields) :
    ∃ last, Reconcile.expectObject .lastApplied path lastApplied = .ok last := by
  cases within with
  | absent => exact ⟨none, rfl⟩
  | null => exact ⟨none, rfl⟩
  | object _ _ => exact ⟨_, rfl⟩
  | same =>
    rcases fits with rfl | ⟨fields, rfl⟩
    · exact ⟨none, rfl⟩
    · exact ⟨some fields, rfl⟩

theorem expectArray (path : Path) (within : Within lastApplied desired)
    (fits : desired = .null ∨ ∃ items, desired = .array items) :
    Reconcile.expectArray .lastApplied path lastApplied = .ok (lastApplied.getD .null).items := by
  cases within with
  | absent => rfl
  | null => rfl
  | object _ _ =>
    rcases fits with fits | ⟨_, fits⟩
    · cases fits
    · cases fits
  | same =>
    rcases fits with rfl | ⟨items, rfl⟩
    · rfl
    · rfl

end Within

section Fields

variable {path : Path} {current : Fields Doc}

/-- If nothing is retracted and each revision gives back the value that is there, the fields stay as
they are. -/
theorem reviseFields_eq_self {lastApplied : Option (Fields Doc)} {revisions : Fields Revision}
    (retained : ∀ key ∈ (lastApplied.getD []).keys, key ∈ revisions.keys)
    (each : ∀ entry ∈ revisions, ∃ held, current.get? entry.1 = some held ∧
      entry.2 (path.child entry.1) held (lastApplied.bind (·.get? entry.1)) = .ok held) :
    reviseFields path current lastApplied revisions = .ok current := by
  have kept : retract current lastApplied revisions.keys = current := by
    cases lastApplied with
    | none => rfl
    | some last =>
      refine List.filter_eq_self.mpr fun entry _ => ?_
      by_cases applied : entry.1 ∈ last.keys
      · simp [retained entry.1 applied]
      · have unapplied : last.contains entry.1 = false := by
          rw [Bool.eq_false_iff, ne_eq, Fields.contains_iff]
          exact applied
        simp [unapplied]
  unfold reviseFields
  rw [kept]
  clear kept retained
  induction revisions with
  | nil => rfl
  | cons entry rest ih =>
    obtain ⟨held, present, revised⟩ := each entry List.mem_cons_self
    have step : reviseField path lastApplied current entry = .ok current := by
      unfold reviseField
      rw [present, Option.getD_some, revised]
      change Except.ok (current.insert entry.1 held) = _
      rw [Fields.insert_get? present]
    rw [List.foldlM_cons, step]
    exact ih fun other member => each other (List.mem_cons_of_mem entry member)

theorem mergeAt_object_eq_self {lastApplied : Option Doc} {desired : Doc}
    (wellFormed : desired.WellFormed) (fits : desired = .null ∨ ∃ fields, desired = .object fields)
    (within : Within lastApplied desired)
    (each : ∀ key value, desired.get? key = some value → ∃ held, current.get? key = some held ∧
      mergeAt (path.child key) held (lastApplied.bind (·.get? key)) value = .ok held) :
    mergeAt path (.object current) lastApplied desired = .ok (.object current) := by
  obtain ⟨last, expected⟩ := within.expectObject path fits
  obtain ⟨lastNames, lastGet⟩ := expectObject_success expected
  have retained : ∀ key ∈ (last.getD []).keys, key ∈ desired.names := lastNames ▸ within.names
  rcases fits with rfl | ⟨wanted, rfl⟩
  · exact mergeAt_object_of_run expected rfl (reviseFields_eq_self retained nofun)
  · refine mergeAt_object_of_run expected rfl (reviseFields_eq_self ?_ fun entry member => ?_)
    · rw [Fields.keys_map]
      exact retained
    · obtain ⟨⟨key, value⟩, listed, rfl⟩ := List.mem_map.mp member
      obtain ⟨held, present, revised⟩ :=
        each key value (Fields.get?_of_mem wellFormed.nodup_names listed)
      rw [lastGet] at revised
      exact ⟨held, present, revised⟩

end Fields

section Elements

variable {path : Path} {key : String} {current : List Doc}

theorem eraseDups_eq_self {l : List String} (nodup : l.Nodup) : l.eraseDups = l := by
  induction l with
  | nil => rfl
  | cons a rest ih =>
    rw [List.nodup_cons] at nodup
    have apart : rest.filter (fun b => !b == a) = rest := by
      refine List.filter_eq_self.mpr fun b member => ?_
      have different : b ≠ a := fun equal => nodup.1 (equal ▸ member)
      simp [different]
    rw [List.eraseDups_cons, apart, ih nodup.2]

theorem eraseDups_append_of_subset {l more : List String} (nodup : l.Nodup)
    (subset : ∀ a ∈ more, a ∈ l) : (l ++ more).eraseDups = l := by
  have nothing : more.removeAll l = [] := by
    refine List.filter_eq_nil_iff.mpr fun a member => ?_
    simp [subset a member]
  rw [List.eraseDups_append, nothing, eraseDups_eq_self nodup, List.eraseDups_nil, List.append_nil]

theorem filterMap_byIdentity (nodup : (current.map (·.identity key)).Nodup) :
    (current.map (·.identity key)).filterMap (byIdentity key current).get? = current := by
  rw [List.filterMap_map]
  have found : ∀ item ∈ current,
      ((byIdentity key current).get? ∘ (·.identity key)) item = some item :=
    fun item member => get?_byIdentity nodup member
  rw [List.filterMap_congr found, List.filterMap_some]

/-- If no identity is retracted and each desired element, merged into the current element of its
identity, gives that element back, the list stays as it is. -/
theorem reviseElements_eq_self {lastApplied desired : List Doc}
    (nodup : (current.map (·.identity key)).Nodup)
    (nodupDesired : (desired.map (·.identity key)).Nodup)
    (retained : ∀ item ∈ lastApplied, item ∈ desired)
    (each : ∀ item ∈ desired, ∃ held ∈ current, held.identity key = item.identity key ∧
      mergeAt (path.child (item.identity key)) held
        ((byIdentity key lastApplied).get? (item.identity key)) item = .ok held) :
    reviseElements path key current lastApplied (desired.map fun item => (item, item.revision)) =
      .ok current := by
  have run : reviseFields path (byIdentity key current) (some (byIdentity key lastApplied))
      ((byIdentity key desired).map fun entry => (entry.1, entry.2.revision)) =
        .ok (byIdentity key current) := by
    refine reviseFields_eq_self ?_ fun entry member => ?_
    · intro identity applied
      obtain ⟨item, found⟩ := Fields.exists_get?_of_mem_keys applied
      obtain ⟨listed, rfl⟩ := mem_of_get?_byIdentity found
      rw [Fields.keys_map, keys_byIdentity nodupDesired]
      exact List.mem_map_of_mem (retained item listed)
    · rw [byIdentity_eq_map nodupDesired, List.map_map] at member
      obtain ⟨item, wanted, rfl⟩ := List.mem_map.mp member
      obtain ⟨held, present, same, revised⟩ := each item wanted
      have found := get?_byIdentity nodup present
      rw [same] at found
      exact ⟨held, found, revised⟩
  have order : (current.map (·.identity key) ++
      (desired.map (·.identity key))).eraseDups = current.map (·.identity key) := by
    refine eraseDups_append_of_subset nodup fun identity member => ?_
    obtain ⟨item, wanted, rfl⟩ := List.mem_map.mp member
    obtain ⟨held, present, same, _⟩ := each item wanted
    exact same ▸ List.mem_map_of_mem present
  rw [← ofList_revisions] at run
  unfold reviseElements
  dsimp only
  rw [run, List.map_map, List.map_map]
  change Except.ok ((current.map (·.identity key) ++
    (desired.map (·.identity key))).eraseDups.filterMap (byIdentity key current).get?) = _
  rw [order, filterMap_byIdentity nodup]

end Elements

section Settled

variable {path : Path} {lastApplied : Option Doc} {held desired : Doc}

/-- The identity field of two lists does not change when a part of one is looked at as well. -/
theorem sharedKey?_between (current : List Doc) {last items : List Doc}
    (part : last = [] ∨ last = items) :
    sharedKey? [current, last, items] = sharedKey? [current, items] := by
  refine sharedKey?_congr fun item => ?_
  rcases part with rfl | rfl
  · simp
  · simp

/-- Each desired element is satisfied by some element of the list. -/
theorem exists_satisfying {current : List Doc} (wellFormed : desired.WellFormed)
    (satisfied : (Doc.array current).Satisfies desired) {item : Doc} (member : item ∈ desired.items) :
    ∃ inner ∈ current, inner.Satisfies item := by
  cases desired with
  | array items =>
    rcases Doc.coveredBy_array_iff.mp satisfied with equal | ⟨own, _, equal, _, _, each⟩
    · cases equal
      exact ⟨item, member, .refl (wellFormed.of_mem member)⟩
    · cases equal
      exact each item member
  | _ => cases member

/-- Lists that share no identity field satisfy each other only when they are equal, but for the
empty list where null is desired. -/
theorem eq_of_not_shared {current : List Doc} (satisfied : (Doc.array current).Satisfies desired)
    (unshared : sharedKey? [current, desired.items] = none)
    (noEmpty : ¬ EmptyAtNull (.array current) desired) : desired = .array current := by
  cases desired with
  | null =>
    obtain ⟨key, known, carried⟩ := List.any_eq_true.mp satisfied
    cases current with
    | nil => exact absurd .here noEmpty
    | cons first rest =>
      have member : first ∈ [first :: rest, []].flatten := by simp
      exact absurd unshared (sharedKey?_ne_none known (by simpa using carried) member)
  | array items =>
    rcases Doc.coveredBy_array_iff.mp satisfied with equal | ⟨own, key, equal, known, carried, _⟩
    · exact equal.symm
    · cases equal
      cases joined : current ++ items with
      | nil => rw [(List.append_eq_nil_iff.mp joined).1, (List.append_eq_nil_iff.mp joined).2]
      | cons first rest =>
        have member : first ∈ [current, items].flatten := by simp [joined]
        exact absurd unshared (sharedKey?_ne_none known (by simpa using carried) member)
  | _ => cases satisfied

/-- Merging into a list that satisfies what is desired, where the elements settle by the induction. -/
theorem mergeAt_array_eq_self {current : List Doc}
    (heldKeyed : (Doc.array current).WellKeyed) (wellFormed : desired.WellFormed)
    (wellKeyed : desired.WellKeyed) (within : Within lastApplied desired)
    (satisfied : (Doc.array current).Satisfies desired)
    (noEmpty : ¬ EmptyAtNull (.array current) desired)
    (settled : ∀ item ∈ desired.items, ∀ {path inner last}, inner.WellKeyed → Within last item →
      inner.Satisfies item → ¬ EmptyAtNull inner item → mergeAt path inner last item = .ok inner) :
    mergeAt path (.array current) lastApplied desired = .ok (.array current) := by
  have fits : desired = .null ∨ ∃ items, desired = .array items := by
    cases desired with
    | null => exact .inl rfl
    | array items => exact .inr ⟨items, rfl⟩
    | _ => cases satisfied
  have expected := within.expectArray path fits
  have between := sharedKey?_between current within.items
  cases shared : sharedKey? [current, desired.items] with
  | none =>
    have equal := eq_of_not_shared satisfied shared noEmpty
    rw [mergeAt_array_of_plain fits expected (between.trans shared), equal]
  | some key =>
    refine mergeAt_array_of_run fits expected (between.trans shared) ?_
    obtain ⟨known, carried⟩ := sharedKey?_eq_some shared
    have wantedCarry : ∀ item ∈ desired.items, (item.get? key).isSome = true :=
      carried desired.items (by simp)
    obtain ⟨scalar, nodup⟩ := heldKeyed.scalar_identity known
      (Doc.allCarry_iff.mpr (carried current (by simp)))
    have nodupDesired : (desired.items.map (·.identity key)).Nodup := by
      rcases fits with rfl | ⟨items, rfl⟩
      · exact List.nodup_nil
      · exact (wellKeyed.scalar_identity known (Doc.allCarry_iff.mpr wantedCarry)).2
    refine reviseElements_eq_self nodup nodupDesired ?_ fun item member => ?_
    · rcases within.items with nothing | same
      · rw [nothing]
        nofun
      · rw [same]
        exact fun _ member => member
    obtain ⟨inner, present, satisfies⟩ := exists_satisfying wellFormed satisfied member
    have itemFormed := wellFormed.of_mem_items member
    have identity : inner.identity key = item.identity key :=
      satisfies.identity_eq itemFormed (wantedCarry item member) (scalar inner present)
    refine ⟨inner, present, identity, settled item member (heldKeyed.of_mem present)
      (within.element nodupDesired member) satisfies fun empty => noEmpty ?_⟩
    rcases fits with rfl | ⟨items, rfl⟩
    · cases member
    · exact .element shared present member identity empty

theorem mergeAt_eq_self (heldKeyed : held.WellKeyed) (wellFormed : desired.WellFormed)
    (wellKeyed : desired.WellKeyed) (within : Within lastApplied desired)
    (satisfied : held.Satisfies desired) (noEmpty : ¬ EmptyAtNull held desired) :
    mergeAt path held lastApplied desired = .ok held := by
  induction desired using Doc.induction_inside generalizing path held lastApplied with
  | step desired fields items =>
    cases held with
    | object current =>
      have fits : desired = .null ∨ ∃ fields, desired = .object fields := by
        cases desired with
        | null => exact .inl rfl
        | object wanted => exact .inr ⟨wanted, rfl⟩
        | _ => cases satisfied
      refine mergeAt_object_eq_self wellFormed fits within fun key value found => ?_
      obtain ⟨inner, present, satisfies⟩ := satisfied.get? wellFormed found
      exact ⟨inner, present, fields key value found (heldKeyed.of_get? present)
        (wellFormed.of_get? found) (wellKeyed.of_get? found) (within.field found) satisfies
        fun empty => noEmpty (.field present found empty)⟩
    | array current =>
      refine mergeAt_array_eq_self heldKeyed wellFormed wellKeyed within satisfied noEmpty ?_
      intro item member path inner last innerKeyed inside satisfies empty
      exact items item member innerKeyed (wellFormed.of_mem_items member)
        (wellKeyed.of_mem_items member) inside satisfies empty
    | _ => rw [mergeAt_scalar rfl, satisfied.eq_of_scalar rfl]

/-- An empty list where null is desired does not stay: the induction is on what leads to it. -/
theorem mergeAt_ne_self (empty : EmptyAtNull held desired) (heldKeyed : held.WellKeyed)
    (wellFormed : desired.WellFormed) (wellKeyed : desired.WellKeyed)
    (within : Within lastApplied desired) : mergeAt path held lastApplied desired ≠ .ok held := by
  induction empty generalizing path lastApplied with
  | here =>
    intro h
    obtain ⟨_, ⟨_, equal⟩ | ⟨key, _, _, shared, _⟩⟩ := mergeAt_array_success h
    · cases equal
    · rw [sharedKey?_between [] within.items] at shared
      cases shared
  | @field held desired inner wanted key present found _ ih =>
    intro h
    cases held with
    | object current =>
      obtain ⟨_, equal, spec⟩ := mergeAt_object_success wellFormed h
      cases equal
      obtain ⟨result, revised, stored⟩ := spec.merged key wanted found
      have present : Fields.get? current key = some inner := present
      cases present.symm.trans stored
      rw [present, Option.getD_some] at revised
      exact ih (heldKeyed.of_get? present) (wellFormed.of_get? found) (wellKeyed.of_get? found)
        (within.field found) revised
    | _ => cases present
  | @element held desired inner wanted key shared present found same _ ih =>
    intro h
    have between := (sharedKey?_between held within.items).trans shared
    obtain ⟨known, carried⟩ := sharedKey?_eq_some shared
    have wantedCarry : ∀ item ∈ desired, (item.get? key).isSome = true := carried desired (by simp)
    obtain ⟨scalar, nodup⟩ := heldKeyed.scalar_identity known
      (Doc.allCarry_iff.mpr (carried held (by simp)))
    obtain ⟨_, nodupDesired⟩ := wellKeyed.scalar_identity known (Doc.allCarry_iff.mpr wantedCarry)
    obtain ⟨_, ⟨unshared, _⟩ | ⟨_, element?, _, detected, equal, spec⟩⟩ := mergeAt_array_success h
    · cases between.symm.trans unshared
    · cases between.symm.trans detected
      cases equal
      obtain ⟨result, listed, _, revised⟩ := spec.exists_mem_out nodupDesired found
      have wantedFormed := wellFormed.of_mem found
      have satisfies := mergeAt_satisfies wantedFormed (wellKeyed.of_mem found) revised
      have identity : result.identity key = inner.identity key :=
        (satisfies.identity_eq wantedFormed (wantedCarry wanted found) (scalar result listed)).trans
          same.symm
      have equal : result = inner := List.inj_on_of_nodup_map nodup listed present identity
      subst equal
      rw [← same, get?_byIdentity nodup present, Option.getD_some] at revised
      exact ih (heldKeyed.of_mem present) wantedFormed (wellKeyed.of_mem found)
        (same ▸ within.element nodupDesired found) revised

theorem mergeAt_eq_self_iff (heldKeyed : held.WellKeyed) (wellFormed : desired.WellFormed)
    (wellKeyed : desired.WellKeyed) (within : Within lastApplied desired)
    (satisfied : held.Satisfies desired) :
    mergeAt path held lastApplied desired = .ok held ↔ ¬ EmptyAtNull held desired := by
  constructor
  · exact fun h empty => mergeAt_ne_self empty heldKeyed wellFormed wellKeyed within h
  · exact mergeAt_eq_self heldKeyed wellFormed wellKeyed within satisfied

end Settled

/-- A merge of what was last applied changes nothing exactly when the observed document covers it. -/
theorem merge_eq_self_iff_covers {observed desired : Doc} (observedKeyed : observed.WellKeyed)
    (wellFormed : desired.WellFormed) (wellKeyed : desired.WellKeyed) (nullFree : desired.NullFree) :
    merge observed (some desired) desired = .ok observed ↔ observed.Covers desired := by
  rw [← Doc.satisfies_iff_covers wellFormed nullFree]
  constructor
  · exact mergeAt_satisfies wellFormed wellKeyed
  · intro satisfied
    exact mergeAt_eq_self observedKeyed wellFormed wellKeyed .same satisfied
      fun empty => empty.not_nullFree nullFree

section Pod

private def container (name image : String) (own : Fields Doc) : Doc :=
  .object (own ++ [("image", .string image), ("name", .string name)])

/-- The injected container and the status are foreign. -/
private def observedPod (image : String) : Doc :=
  .object [("status", .null), ("containers", .array [container "proxy" "envoy" [],
    container "log" "fluentd" [("id", .string "proxy")], container "web" image []])]

private def desiredPod : Doc :=
  .object [("containers", .array [container "web" "nginx" [], container "log" "fluentd" []])]

theorem merge_eq_self_iff_covers_pod :
    merge (observedPod "nginx") (some desiredPod) desiredPod = .ok (observedPod "nginx") ∧
      merge (observedPod "caddy") (some desiredPod) desiredPod ≠ .ok (observedPod "caddy") := by
  have observedKeyed : ∀ image ∈ ["nginx", "caddy"], (observedPod image).WellKeyed := by decide
  have wellFormed : desiredPod.WellFormed := by decide
  have wellKeyed : desiredPod.WellKeyed := by decide
  have nullFree : desiredPod.NullFree := by decide
  have holds : (observedPod "nginx").Covers desiredPod := by decide
  have lacks : ¬ (observedPod "caddy").Covers desiredPod := by decide
  constructor
  · exact (merge_eq_self_iff_covers (observedKeyed _ (by simp)) wellFormed wellKeyed nullFree).mpr
      holds
  · exact fun settled => lacks ((merge_eq_self_iff_covers (observedKeyed _ (by simp)) wellFormed
      wellKeyed nullFree).mp settled)

end Pod

end Reconcile
