import Reconcile.Proofs.Merge.Elements

/-!
# The identity field, said without a walk

`sharedKey?` walks through the elements with a running intersection of their names and gives up at the
first element that is no object. What it finds is the `FirstShared` of the conventional names: the
first that all elements carry (`sharedKey?_eq_some_iff`). That speaks of no order, of no list and of
no kind of element, and so the answer depends on none of them (`sharedKey?_exact`).
-/
namespace Reconcile

section Named

variable {α : Type u} [Named α]

/-- The element is an object and has a field of this name. -/
def Carries (name : String) (element : α) : Prop :=
  ∃ names, Named.fieldNames? element = some names ∧ name ∈ names

theorem hasField_iff {name : String} {element : α} :
    hasField name element = true ↔ Carries name element := by
  simp [hasField, Carries, Option.any_eq_true]

/-- All elements of all lists carry the name. -/
def Common (lists : List (List α)) (name : String) : Prop :=
  ∀ items ∈ lists, ∀ element ∈ items, Carries name element

/-- There is an element, and the key is the first conventional name that all elements carry. -/
structure FirstShared (lists : List (List α)) (key : String) : Prop where
  occupied : ∃ items ∈ lists, items ≠ []
  common : Common lists key
  first : ∃ before after, identityKeys = before ++ key :: after ∧
    ∀ name ∈ before, ¬ Common lists name

theorem all_hasField_iff {lists : List (List α)} {name : String} :
    lists.flatten.all (hasField name) = true ↔ Common lists name := by
  simp only [List.all_eq_true, hasField_iff, Common, List.forall_mem_flatten]

theorem sharedKey?_eq_some_iff {lists : List (List α)} {key : String} :
    sharedKey? lists = some key ↔ FirstShared lists key := by
  rw [sharedKey?_eq]
  split
  · next empty =>
    refine iff_of_false nofun fun shared => ?_
    obtain ⟨items, listed, nonempty⟩ := shared.occupied
    exact nonempty (List.flatten_eq_nil_iff.mp empty items listed)
  · next occupied =>
    simp only [List.flatten_eq_nil_iff, not_forall] at occupied
    obtain ⟨items, listed, nonempty⟩ := occupied
    rw [List.find?_eq_some_iff_append, all_hasField_iff]
    simp only [Bool.not_eq_true', Bool.eq_false_iff, ne_eq, all_hasField_iff]
    constructor
    · rintro ⟨common, first⟩
      exact ⟨⟨items, listed, nonempty⟩, common, first⟩
    · rintro ⟨_, common, first⟩
      exact ⟨common, first⟩

theorem sharedKey?_eq_none_iff {lists : List (List α)} :
    sharedKey? lists = none ↔ ∀ key, ¬ FirstShared lists key := by
  rw [Option.eq_none_iff_forall_ne_some]
  exact forall_congr' fun key => sharedKey?_eq_some_iff.not

end Named

/-- A document carries the names of its fields, and so does a map. -/
theorem hasField_object {β : Type v} {fields : Fields Doc} {map : Fields β}
    (names : ∀ name, name ∈ fields.keys ↔ name ∈ map.keys) (key : String) :
    hasField key (Doc.object fields) = hasField key map := by
  rw [Bool.eq_iff_iff]
  simpa [hasField, Named.fieldNames?, Doc.asObject?] using names key

/-- The identity field of any number of lists of any length is the first conventional name that every
element carries; there is none without an element, with an element that is no object, or where no
conventional name is common. Lists of the same elements have the same identity field, however the
elements are ordered, repeated and spread over lists, empty ones included; and so have documents and
maps with the same names. -/
theorem sharedKey?_exact {α : Type u} [Named α] {β : Type v} (lists : List (List α)) :
    (∀ key, sharedKey? lists = some key ↔ FirstShared lists key) ∧
    (sharedKey? lists = none ↔ ∀ key, ¬ FirstShared lists key) ∧
    (∀ others : List (List α),
      (∀ element, element ∈ lists.flatten ↔ element ∈ others.flatten) →
      sharedKey? lists = sharedKey? others) ∧
    ∀ (docs : List (List Doc)) (maps : List (List (Fields β))),
      List.Forall₂ (List.Forall₂ fun doc map => ∃ fields, doc = .object fields ∧
        ∀ name, name ∈ Fields.keys fields ↔ name ∈ map.keys) docs maps →
      sharedKey? docs = sharedKey? maps := by
  refine ⟨?_, ?_, ?_, ?_⟩
  · intro key
    exact sharedKey?_eq_some_iff
  · exact sharedKey?_eq_none_iff
  · intro others same
    exact sharedKey?_congr same
  · intro docs maps alike
    refine sharedKey?_of_forall₂ (alike.imp fun items others pairs => pairs.imp ?_)
    rintro _ map ⟨fields, rfl, names⟩ key
    exact hasField_object names key

section Services

private def service (fields : List String) : Doc :=
  .object (fields.map fun name => (name, .null))

private def services : List (List Doc) :=
  [[service ["name", "port"]], [], [service ["uid", "port", "name"], service ["port", "name", "ip"]]]

/-- The same services in one list and in another order, one of them twice. -/
private def regroupedServices : List (List Doc) :=
  [[service ["port", "name", "ip"], service ["name", "port"], service ["uid", "port", "name"],
    service ["name", "port"]]]

private def serviceMap (fields : List String) : Fields Nat := fields.map fun name => (name, 0)

private def serviceMaps : List (List (Fields Nat)) :=
  [[serviceMap ["name", "port"]], [],
    [serviceMap ["name", "port", "uid"], serviceMap ["ip", "name", "port"]]]

/-- Two conventional names are common, and the more specific one is the key. -/
theorem sharedKey?_exact_services :
    FirstShared services "port" ∧ sharedKey? services = some "port" ∧
      sharedKey? regroupedServices = some "port" ∧ sharedKey? serviceMaps = some "port" := by
  obtain ⟨first, _, regrouped, mapped⟩ := sharedKey?_exact (β := Nat) services
  have shared : sharedKey? services = some "port" := by decide
  have there : ∀ element ∈ services.flatten, element ∈ regroupedServices.flatten := by decide
  have back : ∀ element ∈ regroupedServices.flatten, element ∈ services.flatten := by decide
  have named {a b : List String} (perm : a.Perm b) : ∃ fields, service a = .object fields ∧
      ∀ name, name ∈ Fields.keys fields ↔ name ∈ (serviceMap b).keys :=
    ⟨_, rfl, fun name => by simpa [Fields.keys, serviceMap] using perm.mem_iff⟩
  have alike : List.Forall₂ (List.Forall₂ fun doc map => ∃ fields, doc = .object fields ∧
      ∀ name, name ∈ Fields.keys fields ↔ name ∈ map.keys) services serviceMaps :=
    .cons (.cons (named (by decide)) .nil) (.cons .nil
      (.cons (.cons (named (by decide)) (.cons (named (by decide)) .nil)) .nil))
  have regroup := regrouped _ fun element => ⟨there element, back element⟩
  have remap := mapped _ _ alike
  rw [shared] at regroup remap
  exact ⟨(first "port").mp shared, shared, regroup.symm, remap.symm⟩

end Services

end Reconcile
