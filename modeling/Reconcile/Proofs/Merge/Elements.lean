import Mathlib.Data.List.Forall2
import Mathlib.Data.List.Nodup
import Reconcile.Proofs.Doc.WellKeyed
import Reconcile.Proofs.Merge.Fields

/-!
# Merging keyed lists

What a successful merge makes of a list (`mergeAt_array_success`): the desired document as it is
when the lists share no identity field, and otherwise `ElementsMerged`: the elements come out in
the order of their identities, current ones first and each once; the element of a desired identity
is the merge of the elements of that identity, and any other is the current one unless it was last
applied. The identity field is a field of every element (`sharedKey?_eq_some`).
-/
namespace Reconcile

theorem all_of_forall₂ {α : Type u} {β : Type v} {p : α → Bool} {q : β → Bool} {a : List α}
    {b : List β} (h : List.Forall₂ (fun x y => p x = q y) a b) : a.all p = b.all q := by
  induction h with
  | nil => rfl
  | cons head _ ih => rw [List.all_cons, List.all_cons, head, ih]

section SharedKey

variable {α : Type u} [Named α]

/-- Is the element an object with the field? -/
def hasField (key : String) (element : α) : Bool :=
  (Named.fieldNames? element).any (·.contains key)

/-- The running intersection is one filter, as long as every element is an object. -/
theorem foldlM_commonNames (rest : List α) (start : List String) :
    rest.foldlM (fun common element =>
      (Named.fieldNames? element).map fun names => common.filter names.contains) start =
      if rest.all fun element => (Named.fieldNames? element).isSome
      then some (start.filter fun name => rest.all (hasField name))
      else none := by
  induction rest generalizing start with
  | nil => simp
  | cons element rest ih =>
    rw [List.foldlM_cons]
    cases named : Named.fieldNames? element with
    | none => simp [named]
    | some names =>
      rw [Option.map_some, Option.bind_eq_bind, Option.bind_some, ih, List.filter_filter]
      simp [named, hasField, Bool.and_comm]

theorem commonNames?_cons (first : α) (rest : List α) :
    commonNames? (first :: rest) = (Named.fieldNames? first).bind fun names =>
      if rest.all fun element => (Named.fieldNames? element).isSome
      then some (names.filter fun name => rest.all (hasField name))
      else none := by
  unfold commonNames?
  simp only [foldlM_commonNames]
  rfl

theorem all_hasField_of_not_object {elements : List α} {element : α} (key : String)
    (member : element ∈ elements) (unnamed : Named.fieldNames? element = none) :
    elements.all (hasField key) = false :=
  List.all_eq_false.mpr ⟨element, member, by simp [hasField, unnamed]⟩

/-- The shared key is the first conventional name that every element has, if there is an element. -/
theorem sharedKey?_eq (lists : List (List α)) :
    sharedKey? lists = if lists.flatten = [] then none
      else identityKeys.find? fun key => lists.flatten.all (hasField key) := by
  unfold sharedKey?
  generalize lists.flatten = elements
  have unshared {element : α} (member : element ∈ elements)
      (unnamed : Named.fieldNames? element = none) :
      identityKeys.find? (fun key => elements.all (hasField key)) = none :=
    List.find?_eq_none.mpr fun key _ => by simp [all_hasField_of_not_object key member unnamed]
  cases elements with
  | nil => rfl
  | cons first rest =>
    rw [if_neg (List.cons_ne_nil first rest), commonNames?_cons]
    cases named : Named.fieldNames? first with
    | none => exact (unshared List.mem_cons_self named).symm
    | some names =>
      rw [Option.bind_some]
      split
      · rw [Option.bind_some]
        congr 1
        funext key
        rw [List.all_cons, Bool.eq_iff_iff]
        simp [hasField, named, List.mem_filter]
      · next partly =>
        obtain ⟨element, member, unnamed⟩ :=
          List.all_eq_false.mp (Bool.eq_false_iff.mpr partly)
        exact (unshared (List.mem_cons_of_mem first member) (by simpa using unnamed)).symm

/-- Only the elements matter, not how they are spread over the lists. -/
theorem sharedKey?_congr {lists others : List (List α)}
    (same : ∀ element, element ∈ lists.flatten ↔ element ∈ others.flatten) :
    sharedKey? lists = sharedKey? others := by
  have empty : lists.flatten = [] ↔ others.flatten = [] := by
    simp only [List.eq_nil_iff_forall_not_mem, same]
  have carried : (fun key => lists.flatten.all (hasField key)) =
      fun key => others.flatten.all (hasField key) := by
    funext key
    rw [Bool.eq_iff_iff, List.all_eq_true, List.all_eq_true]
    simp only [same]
  rw [sharedKey?_eq, sharedKey?_eq, carried]
  by_cases none : others.flatten = []
  · rw [if_pos (empty.mpr none), if_pos none]
  · rw [if_neg (empty.not.mpr none), if_neg none]

/-- Only the names of the elements matter, not what kind of element has them. -/
theorem sharedKey?_of_forall₂ {β : Type v} [Named β] {lists : List (List α)}
    {others : List (List β)}
    (same : List.Forall₂ (List.Forall₂ fun x y => ∀ key, hasField key x = hasField key y)
      lists others) : sharedKey? lists = sharedKey? others := by
  have elements := List.rel_flatten same
  have empty : lists.flatten = [] ↔ others.flatten = [] := by
    generalize lists.flatten = a, others.flatten = b at elements
    cases elements with
    | nil => exact iff_of_true rfl rfl
    | cons => simp
  have carried : (fun key => lists.flatten.all (hasField key)) =
      fun key => others.flatten.all (hasField key) := by
    funext key
    exact all_of_forall₂ (elements.imp fun x y fields => fields key)
  rw [sharedKey?_eq, sharedKey?_eq, carried]
  simp only [empty]

end SharedKey

theorem hasField_eq (key : String) (item : Doc) : hasField key item = (item.get? key).isSome := by
  cases item with
  | object fields =>
    change (some (Fields.keys fields)).any (·.contains key) = (Fields.get? fields key).isSome
    rw [Bool.eq_iff_iff, ← Fields.contains, Fields.contains_iff]
    simp
  | _ => rfl

theorem hasField_of_rel {R : Doc → Doc → Prop} {key : String} {x y : Doc}
    (h : Option.Rel R (x.get? key) (y.get? key)) : hasField key x = hasField key y := by
  rw [hasField_eq, hasField_eq]
  generalize x.get? key = held, y.get? key = other at h
  cases h with
  | some _ => rfl
  | none => rfl

theorem all_hasField_eq (key : String) (items : List Doc) :
    items.all (hasField key) = Doc.allCarry key items := by
  rw [Doc.allCarry, funext (hasField_eq key)]

/-- The identity field of lists of documents is a conventional one and every element has it. -/
theorem sharedKey?_eq_some {lists : List (List Doc)} {key : String}
    (h : sharedKey? lists = some key) :
    key ∈ identityKeys ∧ ∀ items ∈ lists, ∀ item ∈ items, (item.get? key).isSome = true := by
  rw [sharedKey?_eq] at h
  split at h
  · cases h
  · refine ⟨List.mem_of_find?_eq_some h, fun items listed item member => ?_⟩
    have carried := List.find?_some h
    rw [all_hasField_eq] at carried
    exact Doc.allCarry_iff.mp carried item (List.mem_flatten_of_mem listed member)

theorem sharedKey?_ne_none {lists : List (List Doc)} {key : String} {item : Doc}
    (known : key ∈ identityKeys) (carried : Doc.allCarry key lists.flatten = true)
    (member : item ∈ lists.flatten) : sharedKey? lists ≠ none := by
  rw [sharedKey?_eq, if_neg (List.ne_nil_of_mem member)]
  intro missing
  refine List.find?_eq_none.mp missing key known ?_
  rw [all_hasField_eq, carried]

section ByIdentity

variable {key : String} {items : List Doc}

theorem byIdentity_eq_map (nodup : (items.map (·.identity key)).Nodup) :
    byIdentity key items = items.map fun item => (item.identity key, item) := by
  refine Fields.ofList_eq_self ?_
  simpa [Fields.keys, Function.comp_def] using nodup

theorem keys_byIdentity (nodup : (items.map (·.identity key)).Nodup) :
    (byIdentity key items).keys = items.map (·.identity key) := by
  simp [byIdentity_eq_map nodup, Fields.keys, Function.comp_def]

theorem get?_byIdentity {item : Doc} (nodup : (items.map (·.identity key)).Nodup)
    (member : item ∈ items) : (byIdentity key items).get? (item.identity key) = some item := by
  refine Fields.get?_of_mem (keys_byIdentity nodup ▸ nodup) ?_
  rw [byIdentity_eq_map nodup]
  exact List.mem_map.mpr ⟨item, member, rfl⟩

/-- What is found under an identity is an element that has it. -/
theorem mem_of_get?_byIdentity {identity : String} {item : Doc}
    (found : (byIdentity key items).get? identity = some item) :
    item ∈ items ∧ item.identity key = identity := by
  obtain ⟨listed, member, equal⟩ := List.mem_map.mp (Fields.mem_ofList (Fields.mem_of_get? found))
  cases equal
  exact ⟨member, rfl⟩

end ByIdentity

theorem nodup_eraseDups {α : Type} [BEq α] [LawfulBEq α] (l : List α) : l.eraseDups.Nodup := by
  match l with
  | [] => exact List.nodup_nil
  | a :: rest =>
    rw [List.eraseDups_cons, List.nodup_cons]
    have shorter : (rest.filter fun b => !b == a).length < rest.length + 1 :=
      Nat.lt_succ_of_le (List.length_filter_le _ _)
    exact ⟨by simp, nodup_eraseDups _⟩
termination_by l.length

/-- The list `out` is the merge of `desired` into `current` by identity. -/
structure ElementsMerged (path : Path) (key : String) (current lastApplied desired : List Doc)
    (element? : String → Option Doc) (out : List Doc) : Prop where
  order : out = ((current.map (·.identity key) ++ desired.map (·.identity key)).eraseDups).filterMap
    element?
  merged : ∀ identity value, (byIdentity key desired).get? identity = some value → ∃ result,
    mergeAt (path.child identity) (((byIdentity key current).get? identity).getD .null)
      ((byIdentity key lastApplied).get? identity) value = .ok result ∧
      element? identity = some result
  others : ∀ identity, identity ∉ (byIdentity key desired).keys →
    element? identity = if identity ∈ (byIdentity key lastApplied).keys then none
      else (byIdentity key current).get? identity

theorem ofList_revisions (key : String) (desired : List Doc) :
    Fields.ofList ((desired.map fun item => (item, item.revision)).map
        fun entry => (entry.1.identity key, entry.2)) =
      (byIdentity key desired).map fun entry => (entry.1, entry.2.revision) := by
  rw [byIdentity, ← Fields.ofList_map, List.map_map, List.map_map]
  rfl

theorem reviseElements_success {path : Path} {key : String}
    {current lastApplied desired out : List Doc}
    (h : reviseElements path key current lastApplied
      (desired.map fun item => (item, item.revision)) = .ok out) :
    ∃ element?, ElementsMerged path key current lastApplied desired element? out := by
  unfold reviseElements at h
  obtain ⟨merged, run, h⟩ := ok_of_bind h
  cases h
  rw [ofList_revisions] at run
  have names := Fields.keys_map (byIdentity key desired) Doc.revision
  have spec := reviseFields_success (names ▸ Fields.nodup_keys_ofList _) run
  rw [names] at spec
  refine ⟨merged.get?, by simp [Function.comp_def], ?_, ?_⟩
  · intro identity value wanted
    have member : identity ∈ (byIdentity key desired).keys := by
      rw [← Fields.contains_iff, Fields.contains, wanted, Option.isSome_some]
    obtain ⟨result, revised, stored⟩ := spec.revised (identity, value.revision)
      (List.mem_map.mpr ⟨(identity, value), Fields.mem_of_get? wanted, rfl⟩)
    rw [get?_retract, if_pos (Or.inl member)] at revised
    exact ⟨result, revised, stored⟩
  · intro identity unwanted
    rw [spec.untouched identity (names ▸ unwanted), get?_retract, Option.getD_some]
    by_cases applied : identity ∈ (byIdentity key lastApplied).keys
    · simp [applied, unwanted]
    · simp [applied]

theorem expectArray_success {side : Side} {path : Path} {doc : Option Doc} {items : List Doc}
    (h : expectArray side path doc = .ok items) : (doc.getD .null).items = items := by
  unfold expectArray at h
  split at h
  · cases h
    rfl
  · cases h
    rfl
  · cases h
    rfl
  · cases h

theorem fst_itemRevisions (items : List Doc) :
    (items.map fun item => (item, item.revision)).map (·.1) = items := by
  simp [Function.comp_def]

/-- A merge into a list gives the desired document itself, or the lists merged by identity. -/
theorem mergeAt_array_success {path : Path} {current : List Doc} {lastApplied : Option Doc}
    {desired merged : Doc} (h : mergeAt path (.array current) lastApplied desired = .ok merged) :
    (desired = .null ∨ ∃ items, desired = .array items) ∧
    (sharedKey? [current, (lastApplied.getD .null).items, desired.items] = none ∧ merged = desired ∨
      ∃ key element? out,
        sharedKey? [current, (lastApplied.getD .null).items, desired.items] = some key ∧
        merged = .array out ∧ ElementsMerged path key current (lastApplied.getD .null).items
          desired.items element? out) := by
  rw [mergeAt_array] at h
  obtain ⟨last, expected, h⟩ := ok_of_bind h
  rw [expectArray_success expected]
  split at h
  · next revisions found =>
    have items : (desired = .null ∨ ∃ items, desired = .array items) ∧
        revisions = desired.items.map fun item => (item, item.revision) := by
      unfold Doc.itemRevisions? at found
      split at found
      · cases found
        exact ⟨Or.inl rfl, rfl⟩
      · cases found
        exact ⟨Or.inr ⟨_, rfl⟩, rfl⟩
      · cases found
    refine ⟨items.1, ?_⟩
    rw [items.2, fst_itemRevisions] at h
    split at h
    · next key shared =>
      obtain ⟨out, run, h⟩ := ok_of_bind h
      cases h
      obtain ⟨element?, spec⟩ := reviseElements_success run
      exact Or.inr ⟨key, element?, out, shared, rfl, spec⟩
    · next shared =>
      cases h
      exact Or.inl ⟨shared, rfl⟩
  · cases h

section Runs

variable {path : Path} {current last out : List Doc} {lastApplied : Option Doc} {desired : Doc}

theorem itemRevisions?_of_fits (fits : desired = .null ∨ ∃ items, desired = .array items) :
    desired.itemRevisions? = some (desired.items.map fun item => (item, item.revision)) := by
  rcases fits with rfl | ⟨items, rfl⟩
  · rfl
  · rfl

theorem mergeAt_array_of_plain (fits : desired = .null ∨ ∃ items, desired = .array items)
    (expected : expectArray .lastApplied path lastApplied = .ok last)
    (shared : sharedKey? [current, last, desired.items] = none) :
    mergeAt path (.array current) lastApplied desired = .ok desired := by
  rw [← fst_itemRevisions desired.items] at shared
  simp only [mergeAt_array, expected, itemRevisions?_of_fits fits, shared, bind, Except.bind, pure,
    Except.pure]

theorem mergeAt_array_of_run {key : String}
    (fits : desired = .null ∨ ∃ items, desired = .array items)
    (expected : expectArray .lastApplied path lastApplied = .ok last)
    (shared : sharedKey? [current, last, desired.items] = some key)
    (run : reviseElements path key current last
      (desired.items.map fun item => (item, item.revision)) = .ok out) :
    mergeAt path (.array current) lastApplied desired = .ok (.array out) := by
  rw [← fst_itemRevisions desired.items] at shared
  simp only [mergeAt_array, expected, itemRevisions?_of_fits fits, shared, run, bind, Except.bind,
    pure, Except.pure]

end Runs

end Reconcile
