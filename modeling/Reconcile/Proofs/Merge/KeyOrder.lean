import Reconcile.Proofs.Doc.Matched
import Reconcile.Proofs.Doc.Permuted
import Reconcile.Proofs.Merge.Agree
import Reconcile.Proofs.Merge.Conflicts
import Reconcile.Proofs.Merge.KeyedResult

/-!
# The order of names does not matter

Documents that differ in the order of names only are merged alike: both merges fail, or both succeed
with results that differ in the order of names only (`merge_permuted`). Identities are texts, and
the text of an object shows the order of its names, so no element of a list may hold an object or a
list under an identity field (`Doc.ScalarNamed`). Two places that differ in order have such places
below them (`Place.Reordered.below`), so conflicts correspond and so do results.
-/
namespace Reconcile

open Doc (Permuted)

namespace Doc

/-- Do the items of a list hold scalars under every identity field? -/
def identitiesAreScalar : Doc → Bool
  | .array items => items.all fun item =>
    identityKeys.all fun key => ((item.get? key).getD .null).isScalar
  | _ => true

/-- No item of a list, at any depth, holds an object or a list under an identity field. -/
def ScalarNamed (doc : Doc) : Prop := doc.everywhere identitiesAreScalar = true

instance (doc : Doc) : Decidable doc.ScalarNamed := inferInstanceAs (Decidable (_ = true))

theorem eq_array_of_shape {doc : Doc} (list : doc.shape = .array) : doc = .array doc.items := by
  cases doc with
  | array items => rfl
  | _ => cases list

namespace ScalarNamed

variable {doc item value : Doc} {key : String}

theorem of_get? (h : doc.ScalarNamed) (found : doc.get? key = some value) : value.ScalarNamed :=
  everywhere_of_get? h found

theorem of_mem_items (h : doc.ScalarNamed) (member : item ∈ doc.items) : item.ScalarNamed := by
  cases doc with
  | array items => exact (everywhere_array_iff.mp h).2 item member
  | _ => cases member

theorem scalar (h : doc.ScalarNamed) (known : key ∈ identityKeys) :
    ∀ item ∈ doc.items, ((item.get? key).getD .null).isScalar = true := by
  intro item member
  cases doc with
  | array items =>
    have here := List.all_eq_true.mp (everywhere_array_iff.mp h).1 item member
    exact List.all_eq_true.mp here key known
  | _ => cases member

theorem permuted {other : Doc} (h : doc.ScalarNamed) (same : Permuted doc other)
    (wellFormed : other.WellFormed) : other.ScalarNamed := by
  refine same.everywhere ?_ wellFormed h
  intro a b permuted
  cases permuted with
  | scalar _ => rfl
  | object _ _ => rfl
  | array pairs =>
    refine all_of_forall₂ (pairs.imp fun x y permuted => ?_)
    congr 1
    funext key
    exact (Permuted.getD_null (permuted.get? key)).isScalar_eq

end ScalarNamed

/-- A document where all objects have distinct names and all items of lists are named by scalars. -/
structure Plain (doc : Doc) : Prop where
  formed : doc.WellFormed
  named : doc.ScalarNamed

namespace Plain

variable {doc item value : Doc} {key : String}

theorem null : Plain .null := ⟨rfl, rfl⟩

theorem of_get? (h : doc.Plain) (found : doc.get? key = some value) : value.Plain :=
  ⟨h.formed.of_get? found, h.named.of_get? found⟩

theorem of_mem_items (h : doc.Plain) (member : item ∈ doc.items) : item.Plain :=
  ⟨h.formed.of_mem_items member, h.named.of_mem_items member⟩

theorem permuted {other : Doc} (h : doc.Plain) (same : Permuted doc other) : other.Plain := by
  have formed := same.wellFormed h.formed
  exact ⟨formed, h.named.permuted same formed⟩

end Plain

end Doc

theorem forall₂_of_forall₂ {α β γ : Type} {R : α → β → Prop} {S : α → γ → Prop}
    {T : β → γ → Prop} {l : List α} {a : List β} {b : List γ} (first : List.Forall₂ R l a)
    (second : List.Forall₂ S l b)
    (each : ∀ x y z, R x y → S x z → T y z) : List.Forall₂ T a b := by
  induction first generalizing b with
  | nil =>
    cases second
    exact .nil
  | cons head _ ih =>
    cases second with
    | cons head' tail' => exact .cons (each _ _ _ head head') (ih tail')

section Items

variable {key : String} {a b : List Doc}

theorem identity_permuted {x y : Doc} (h : Permuted x y)
    (scalar : ((x.get? key).getD .null).isScalar = true) : x.identity key = y.identity key := by
  have same := Permuted.getD_null (h.get? key)
  rw [Doc.identity, Doc.identity, same.eq_of_scalar (same.isScalar_eq ▸ scalar)]

theorem forall₂_identity (pairs : List.Forall₂ Permuted a b)
    (scalar : ∀ x ∈ a, ((x.get? key).getD .null).isScalar = true) :
    List.Forall₂ (fun x y => x.identity key = y.identity key) a b := by
  have each := (List.forall₂_and_left a b).mpr ⟨scalar, pairs⟩
  exact each.imp fun x y both => identity_permuted both.2 both.1

theorem identities_permuted (pairs : List.Forall₂ Permuted a b)
    (scalar : ∀ x ∈ a, ((x.get? key).getD .null).isScalar = true) :
    identities key a = identities key b := by
  have same : a.map (·.identity key) = b.map (·.identity key) := by
    rw [← List.forall₂_eq_eq_eq, List.forall₂_map_left_iff, List.forall₂_map_right_iff]
    exact forall₂_identity pairs scalar
  rw [identities, identities, same]

theorem lastNamed_permuted (pairs : List.Forall₂ Permuted a b)
    (scalar : ∀ x ∈ a, ((x.get? key).getD .null).isScalar = true) (identity : String) :
    Option.Rel Permuted (lastNamed key a identity) (lastNamed key b identity) := by
  rw [← get?_byIdentity_eq, ← get?_byIdentity_eq]
  exact (byIdentity_matched pairs (forall₂_identity pairs scalar)).get? identity

end Items

/-- What is merged from documents that differ in order differs in order, if that holds of every
desired field. -/
theorem FieldsMerged.permuted {path path' : Path} {current current' out out' : Fields Doc}
    {lastApplied lastApplied' : Option Doc} {desired desired' : Doc}
    (spec : FieldsMerged path current lastApplied desired out)
    (spec' : FieldsMerged path' current' lastApplied' desired' out')
    (nodup : out.keys.Nodup) (nodup' : out'.keys.Nodup) (wanted : Permuted desired desired')
    (applied : Permuted (lastApplied.getD .null) (lastApplied'.getD .null))
    (untouched : ∀ key, key ∉ desired.names →
      Option.Rel Permuted (current.get? key) (current'.get? key))
    (merged : ∀ key value value', desired.get? key = some value → desired'.get? key = some value' →
      Permuted value value' → ∀ result result',
      mergeAt (path.child key) ((current.get? key).getD .null) (lastApplied.bind (·.get? key))
        value = .ok result →
      mergeAt (path'.child key) ((current'.get? key).getD .null) (lastApplied'.bind (·.get? key))
        value' = .ok result' →
      Permuted result result') :
    Permuted (.object out) (.object out') := by
  refine .of_get? nodup nodup' fun key => ?_
  cases found : desired.get? key with
  | some value =>
    obtain ⟨value', found', same⟩ := wanted.exists_get? found
    obtain ⟨result, revised, stored⟩ := spec.merged key value found
    obtain ⟨result', revised', stored'⟩ := spec'.merged key value' found'
    rw [stored, stored']
    exact .some (merged key value value' found found' same _ _ revised revised')
  | none =>
    have undesired := Doc.get?_eq_none_iff.mp found
    have undesired' := mt wanted.mem_names_iff.mpr undesired
    by_cases last : key ∈ (lastApplied.getD .null).names
    · rw [spec.retracted key last undesired,
        spec'.retracted key (applied.mem_names_iff.mp last) undesired']
      exact .none
    · rw [spec.kept key undesired last,
        spec'.kept key undesired' (mt applied.mem_names_iff.mpr last)]
      exact untouched key undesired

namespace Place

/-- A place where the documents are plain. -/
structure Plain (place : Place) : Prop where
  observed : place.observed.Plain
  lastApplied : (place.lastApplied.getD .null).Plain
  desired : place.desired.Plain

/-- Places at one path whose documents differ in the order of names only. -/
structure Reordered (place other : Place) : Prop where
  path : place.path = other.path
  observed : Permuted place.observed other.observed
  lastApplied : Option.Rel Permuted place.lastApplied other.lastApplied
  desired : Permuted place.desired other.desired

variable {place other inner : Place} {key : String}

theorem Plain.below (plain : place.Plain) (member : inner ∈ place.below) : inner.Plain := by
  rcases mem_below_iff.mp member with ⟨_, entry, listed, rfl⟩ | ⟨_, key, _, identity, _, rfl⟩
  · have wanted := Doc.get?_of_mem_fields plain.desired.formed listed
    refine ⟨?_, ?_, plain.desired.of_get? wanted⟩
    · exact Doc.getD_null_of .null fun doc found => plain.observed.of_get? found
    · rw [field, ← Doc.get?_getD_null]
      exact Doc.getD_null_of .null fun doc found => plain.lastApplied.of_get? found
  · refine ⟨?_, ?_, ?_⟩
    · exact Doc.getD_null_of .null fun doc found =>
        plain.observed.of_mem_items (mem_of_lastNamed found).1
    · exact Doc.getD_null_of .null fun doc found =>
        plain.lastApplied.of_mem_items (mem_of_lastNamed found).1
    · exact Doc.getD_null_of .null fun doc found =>
        plain.desired.of_mem_items (mem_of_lastNamed found).1

/-- Merges below the place, and at counterparts of the places there, give documents that differ in
order. -/
def PermutesBelow (place : Place) : Prop :=
  ∀ inner ∈ place.below, ∀ counterpart, inner.Reordered counterpart → ∀ part part',
    inner.merged = .ok part → counterpart.merged = .ok part' → Permuted part part'

namespace Reordered

theorem last (h : place.Reordered other) :
    Permuted (place.lastApplied.getD .null) (other.lastApplied.getD .null) :=
  Permuted.getD_null h.lastApplied

theorem symm (h : place.Reordered other) : other.Reordered place := by
  obtain ⟨path, observed, lastApplied, desired⟩ := h
  refine ⟨path.symm, observed.symm, ?_, desired.symm⟩
  generalize place.lastApplied = last, other.lastApplied = last' at lastApplied
  cases lastApplied with
  | none => exact .none
  | some permuted => exact .some permuted.symm

theorem conflicts (h : place.Reordered other) (conflicts : place.Conflicts) : other.Conflicts := by
  rw [Conflicts, exists_misfits_iff] at conflicts ⊢
  have last := h.last.shape_eq
  unfold Doc.Misfits at conflicts ⊢
  rwa [← h.observed.shape_eq, ← h.desired.shape_eq, ← last]

theorem plain (h : place.Reordered other) (plain : place.Plain) : other.Plain :=
  ⟨plain.observed.permuted h.observed, plain.lastApplied.permuted h.last,
    plain.desired.permuted h.desired⟩

theorem field {value value' : Doc} (h : place.Reordered other) (key : String)
    (same : Permuted value value') :
    (place.field key value).Reordered (other.field key value') := by
  refine ⟨?_, Permuted.getD_null (h.observed.get? key), ?_, same⟩
  · rw [Place.field, Place.field, h.path]
  · have last := h.lastApplied
    unfold Place.field
    generalize place.lastApplied = last, other.lastApplied = last' at last
    cases last with
    | none => exact .none
    | some permuted => exact permuted.get? key

theorem element (h : place.Reordered other) (plain : place.Plain) (known : key ∈ identityKeys)
    (identity : String) : (place.element key identity).Reordered (other.element key identity) := by
  refine ⟨?_, ?_, ?_, ?_⟩
  · rw [Place.element, Place.element, h.path]
  · apply Permuted.getD_null
    exact lastNamed_permuted h.observed.items (plain.observed.named.scalar known) identity
  · exact lastNamed_permuted h.last.items (plain.lastApplied.named.scalar known) identity
  · apply Permuted.getD_null
    exact lastNamed_permuted h.desired.items (plain.desired.named.scalar known) identity

theorem elementKey?_eq (h : place.Reordered other) : place.elementKey? = other.elementKey? := by
  have same {a b : List Doc} (pairs : List.Forall₂ Permuted a b) :
      List.Forall₂ (fun x y : Doc => ∀ key, hasField key x = hasField key y) a b :=
    pairs.imp fun x y permuted key => hasField_of_rel (permuted.get? key)
  exact sharedKey?_of_forall₂ (.cons (same h.observed.items)
    (.cons (same h.last.items) (.cons (same h.desired.items) .nil)))

/-- Every place below has its counterpart. -/
theorem below (h : place.Reordered other) (plain : place.Plain) (member : inner ∈ place.below) :
    ∃ counterpart ∈ other.below, inner.Reordered counterpart := by
  rcases mem_below_iff.mp member with
    ⟨shape, entry, listed, rfl⟩ | ⟨shape, key, shared, identity, named, rfl⟩
  · have found := Doc.get?_of_mem_fields plain.desired.formed listed
    obtain ⟨value, present, same⟩ := h.desired.exists_get? found
    rw [Doc.get?_eq_fields] at present
    refine ⟨other.field entry.1 value, mem_below_iff.mpr (.inl ⟨?_, ?_⟩), h.field entry.1 same⟩
    · rw [← h.observed.shape_eq, shape]
    · exact ⟨(entry.1, value), Fields.mem_of_get? present, rfl⟩
  · have known := (sharedKey?_eq_some shared).1
    have same := identities_permuted h.desired.items (plain.desired.named.scalar known)
    refine ⟨other.element key identity, mem_below_iff.mpr (.inr ⟨?_, ?_⟩),
      h.element plain known identity⟩
    · rw [← h.observed.shape_eq, shape]
    · exact ⟨key, h.elementKey?_eq ▸ shared, identity, same ▸ named, rfl⟩

/-- If the merge at one place succeeds, so does the one at the other. -/
theorem merged_ok (h : place.Reordered other) (plain : place.Plain)
    (success : ∃ result, place.merged = .ok result) : ∃ result, other.merged = .ok result := by
  induction place using visited.induct generalizing other with
  | case1 place ih =>
    have plain' := h.plain plain
    rw [merged_ok_iff plain.desired.formed] at success
    obtain ⟨fits, each⟩ := success
    rw [merged_ok_iff plain'.desired.formed]
    refine ⟨mt h.symm.conflicts fits, fun inner member => ?_⟩
    obtain ⟨counterpart, listed, same⟩ := h.symm.below plain' member
    exact ih ⟨counterpart, listed⟩ same.symm (plain.below listed) (each counterpart listed)

/-- Results below the places differ in order, by the induction. -/
theorem merged_object {current current' : Fields Doc} {result result' : Doc}
    (h : place.Reordered other) (plain : place.Plain) (ih : place.PermutesBelow)
    (observed : place.observed = .object current) (observed' : other.observed = .object current')
    (first : place.merged = .ok result) (second : other.merged = .ok result') :
    Permuted result result' := by
  have plain' := h.plain plain
  unfold merged at first second
  rw [observed] at first
  rw [observed'] at second
  obtain ⟨out, rfl, spec⟩ := mergeAt_object_success plain.desired.formed first
  obtain ⟨out', rfl, spec'⟩ := mergeAt_object_success plain'.desired.formed second
  have nodup : current.keys.Nodup := (observed ▸ plain.observed.formed).nodup_names
  have nodup' : current'.keys.Nodup := (observed' ▸ plain'.observed.formed).nodup_names
  refine spec.permuted spec' (spec.nodup_keys nodup plain.desired.formed.nodup_names)
    (spec'.nodup_keys nodup' plain'.desired.formed.nodup_names) h.desired h.last ?_ ?_
  · intro key _
    have held := h.observed.get? key
    rw [observed, observed'] at held
    exact held
  · intro key value value' found found' same part part' step step'
    rw [Doc.get?_eq_fields] at found
    have listed : place.field key value ∈ place.below := mem_below_iff.mpr
      (.inl ⟨by rw [observed]; rfl, (key, value), Fields.mem_of_get? found, rfl⟩)
    refine ih _ listed _ (h.field key same) part part' ?_ ?_
    · unfold merged Place.field
      rw [observed]
      exact step
    · unfold merged Place.field
      rw [observed']
      exact step'

/-- Results for one identity differ in order, by the induction. -/
theorem becomes_element {identity : String} {part part' : Doc}
    (h : place.Reordered other) (plain : place.Plain) (ih : place.PermutesBelow)
    (list : place.observed.shape = .array) (shared : place.elementKey? = some key)
    (first : BecomesElement place.path key place.observed.items (place.lastApplied.getD .null).items
      place.desired.items identity part)
    (second : BecomesElement other.path key other.observed.items
      (other.lastApplied.getD .null).items other.desired.items identity part') :
    Permuted part part' := by
  have known := (sharedKey?_eq_some shared).1
  have wanted := lastNamed_permuted h.desired.items (plain.desired.named.scalar known) identity
  unfold BecomesElement at first second
  cases found : lastNamed key place.desired.items identity with
  | some value =>
    cases found' : lastNamed key other.desired.items identity with
    | none =>
      rw [found, found'] at wanted
      cases wanted
    | some value' =>
      rw [found] at first
      rw [found'] at second
      have named : identity ∈ identities key place.desired.items :=
        mem_identities.mpr ⟨value, mem_of_lastNamed found⟩
      refine ih (place.element key identity) ?_ (other.element key identity)
        (h.element plain known identity) part part' ?_ ?_
      · exact mem_below_iff.mpr (.inr ⟨list, key, shared, identity, named, rfl⟩)
      · unfold merged Place.element
        rw [found]
        exact first
      · unfold merged Place.element
        rw [found']
        exact second
  | none =>
    cases found' : lastNamed key other.desired.items identity with
    | some value' =>
      rw [found, found'] at wanted
      cases wanted
    | none =>
      rw [found] at first
      rw [found'] at second
      have held := lastNamed_permuted h.observed.items (plain.observed.named.scalar known) identity
      rw [first, second] at held
      cases held with
      | some permuted => exact permuted

theorem mergedIdentities_eq (h : place.Reordered other) (plain : place.Plain)
    (known : key ∈ identityKeys) :
    mergedIdentities key place.observed.items (place.lastApplied.getD .null).items
        place.desired.items =
      mergedIdentities key other.observed.items (other.lastApplied.getD .null).items
        other.desired.items := by
  unfold mergedIdentities
  rw [identities_permuted h.observed.items (plain.observed.named.scalar known),
    identities_permuted h.last.items (plain.lastApplied.named.scalar known),
    identities_permuted h.desired.items (plain.desired.named.scalar known)]

theorem merged_array {result result' : Doc}
    (h : place.Reordered other) (plain : place.Plain) (ih : place.PermutesBelow)
    (list : place.observed.shape = .array)
    (first : place.merged = .ok result) (second : other.merged = .ok result') :
    Permuted result result' := by
  unfold merged at first second
  rw [Doc.eq_array_of_shape list] at first
  rw [Doc.eq_array_of_shape (h.observed.shape_eq.symm.trans list)] at second
  have same : place.elementKey? = other.elementKey? := h.elementKey?_eq
  unfold elementKey? at same
  obtain ⟨_, ⟨shared, rfl⟩ | ⟨key, element?, out, shared, rfl, spec⟩⟩ := mergeAt_array_success first
  · obtain ⟨_, ⟨_, rfl⟩ | ⟨_, _, _, shared', _⟩⟩ := mergeAt_array_success second
    · exact h.desired
    · cases shared.symm.trans (same.trans shared')
  · obtain ⟨_, ⟨shared', _⟩ | ⟨key', element?', out', shared', rfl, spec'⟩⟩ :=
      mergeAt_array_success second
    · cases shared.symm.trans (same.trans shared')
    · cases shared.symm.trans (same.trans shared')
      have becomes := spec.forall₂_becomes
      have becomes' := spec'.forall₂_becomes
      rw [← h.mergedIdentities_eq plain (sharedKey?_eq_some shared).1] at becomes'
      exact .array (forall₂_of_forall₂ becomes becomes' fun identity part part' first second =>
        h.becomes_element plain ih list shared first second)

/-- Successful merges at both places give documents that differ in order. -/
theorem merged_permuted {result result' : Doc} (h : place.Reordered other) (plain : place.Plain)
    (first : place.merged = .ok result) (second : other.merged = .ok result') :
    Permuted result result' := by
  induction place using visited.induct generalizing other result result' with
  | case1 place ih =>
    have each : place.PermutesBelow :=
      fun inner member counterpart same part part' left right =>
        ih ⟨inner, member⟩ same (plain.below member) left right
    have observed := h.observed
    cases held : place.observed with
    | object current =>
      rw [held] at observed
      obtain ⟨current', held'⟩ := observed.symm.exists_object
      exact h.merged_object plain each held held' first second
    | array items => exact h.merged_array plain each (by rw [held]; rfl) first second
    | _ =>
      have scalar : place.observed.isScalar = true := by rw [held]; rfl
      unfold merged at first second
      rw [mergeAt_scalar scalar] at first
      rw [mergeAt_scalar (h.observed.isScalar_eq ▸ scalar)] at second
      cases first
      cases second
      exact h.desired

end Reordered

end Place

/-- The order of names does not influence a merge: from documents that differ in it only, whose
elements of lists are named by scalars, both merges fail or both succeed, with results that differ
in the order of names only. -/
theorem merge_permuted {observed observed' desired desired' : Doc}
    {lastApplied lastApplied' : Option Doc} (observedFormed : observed.WellFormed)
    (lastFormed : ∀ last ∈ lastApplied, last.WellFormed) (desiredFormed : desired.WellFormed)
    (observedNamed : observed.ScalarNamed) (lastNamed : ∀ last ∈ lastApplied, last.ScalarNamed)
    (desiredNamed : desired.ScalarNamed) (sameObserved : Permuted observed observed')
    (sameLast : Option.Rel Permuted lastApplied lastApplied')
    (sameDesired : Permuted desired desired') :
    Agree (fun _ _ => True) Permuted (merge observed lastApplied desired)
      (merge observed' lastApplied' desired') := by
  let place := Place.root observed lastApplied desired
  let other := Place.root observed' lastApplied' desired'
  have plainLast : (lastApplied.getD .null).Plain := Doc.getD_null_of .null fun last found =>
    ⟨lastFormed last found, lastNamed last found⟩
  have plain : place.Plain :=
    ⟨⟨observedFormed, observedNamed⟩, plainLast, ⟨desiredFormed, desiredNamed⟩⟩
  have same : place.Reordered other := ⟨rfl, sameObserved, sameLast, sameDesired⟩
  refine .of_success (fun result success => ?_) fun result success => ?_
  · obtain ⟨result', success'⟩ := same.merged_ok plain ⟨result, success⟩
    exact ⟨result', success', same.merged_permuted plain success success'⟩
  · exact same.symm.merged_ok (same.plain plain) ⟨result, success⟩

section Turned

/-- A named part of a route, with one more field. -/
private def part (name field : String) (value : Doc) : Doc :=
  .object [("name", .string name), (field, value)]

private def turnedPart (name field : String) (value : Doc) : Doc :=
  .object [(field, value), ("name", .string name)]

private theorem permuted_part (name : String) {field : String} (apart : "name" ≠ field)
    {value value' : Doc} (same : Permuted value value') :
    Permuted (part name field value) (turnedPart name field value') :=
  Permuted.swap apart (.refl (.string name)) same

/-- The route as it is, with a listener and a field of someone else. -/
private def route : Doc := .object
  [("listeners", .array
      [part "web" "tls" (.object [("mode", .string "old"), ("secure", .bool true)]),
        part "ops" "port" (.string "81")]),
    ("owner", .string "ops")]

private def turnedRoute : Doc := .object
  [("owner", .string "ops"),
    ("listeners", .array
      [turnedPart "web" "tls" (.object [("secure", .bool true), ("mode", .string "old")]),
        turnedPart "ops" "port" (.string "81")])]

/-- What was applied had a mode of the listener, which is no longer desired. -/
private def lastRoute : Doc := .object
  [("listeners", .array [part "web" "tls" (.object [("mode", .string "old")])]), ("note", .null)]

private def turnedLastRoute : Doc := .object
  [("note", .null),
    ("listeners", .array [turnedPart "web" "tls" (.object [("mode", .string "old")])])]

private def newRoute : Doc := .object
  [("listeners", .array
      [part "web" "tls" (.object [("version", .null)]), part "grpc" "port" (.string "90")]),
    ("note", .string "moved")]

private def turnedNewRoute : Doc := .object
  [("note", .string "moved"),
    ("listeners", .array
      [turnedPart "web" "tls" (.object [("version", .null)]),
        turnedPart "grpc" "port" (.string "90")])]

/-- The mode is gone, what someone else has set is there, and the new listener comes last. -/
private def mergedRoute : Doc := .object
  [("listeners", .array
      [part "web" "tls" (.object [("secure", .bool true), ("version", .null)]),
        part "ops" "port" (.string "81"), part "grpc" "port" (.string "90")]),
    ("owner", .string "ops"), ("note", .string "moved")]

private def turnedMergedRoute : Doc := .object
  [("owner", .string "ops"),
    ("listeners", .array
      [turnedPart "web" "tls" (.object [("secure", .bool true), ("version", .null)]),
        turnedPart "ops" "port" (.string "81"), turnedPart "grpc" "port" (.string "90")]),
    ("note", .string "moved")]

theorem merge_permuted_route :
    Permuted route turnedRoute ∧ Permuted lastRoute turnedLastRoute ∧
      Permuted newRoute turnedNewRoute ∧
      merge route (some lastRoute) newRoute = .ok mergedRoute ∧
      merge turnedRoute (some turnedLastRoute) turnedNewRoute = .ok turnedMergedRoute ∧
      Permuted mergedRoute turnedMergedRoute := by
  have observed : Permuted route turnedRoute := by
    have tls : Permuted (.object [("mode", .string "old"), ("secure", .bool true)])
        (.object [("secure", .bool true), ("mode", .string "old")]) :=
      Permuted.swap (by decide) (.refl _) (.refl _)
    have web := permuted_part "web" (by decide : "name" ≠ "tls") tls
    have ops := permuted_part "ops" (by decide : "name" ≠ "port") (.refl (.string "81"))
    exact Permuted.swap (by decide) (.array (.cons web (.cons ops .nil))) (.refl _)
  have last : Permuted lastRoute turnedLastRoute := by
    have web := permuted_part "web" (by decide : "name" ≠ "tls")
      (.refl (.object [("mode", .string "old")]))
    exact Permuted.swap (by decide) (.array (.cons web .nil)) (.refl .null)
  have desired : Permuted newRoute turnedNewRoute := by
    have web := permuted_part "web" (by decide : "name" ≠ "tls")
      (.refl (.object [("version", .null)]))
    have grpc := permuted_part "grpc" (by decide : "name" ≠ "port") (.refl (.string "90"))
    exact Permuted.swap (by decide) (.array (.cons web (.cons grpc .nil))) (.refl _)
  have first : merge route (some lastRoute) newRoute = .ok mergedRoute := rfl
  have second : merge turnedRoute (some turnedLastRoute) turnedNewRoute = .ok turnedMergedRoute :=
    rfl
  have agree := merge_permuted (by decide : route.WellFormed) (by rintro _ ⟨⟩; decide)
    (by decide : newRoute.WellFormed) (by decide) (by rintro _ ⟨⟩; decide) (by decide) observed
    (.some last) desired
  rw [first, second] at agree
  cases agree with
  | ok permuted => exact ⟨observed, last, desired, first, second, permuted⟩

end Turned

end Reconcile
