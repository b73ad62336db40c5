import Reconcile.Proofs.Doc.Identities
import Reconcile.Proofs.Merge.ThreeWay
import Reconcile.Proofs.Merge.Elements

/-!
# The exact result of merging keyed lists

A merge of keyed lists loses no element, repeats none and keeps the order (`reviseElements_exact`).
The identities that come out are those of the current list, without what was last applied and is no
longer desired, and then the new ones of the desired list (`mergedIdentities`); what stands under
each of them is a matter of the last elements that have it (`BecomesElement`). The elements may
carry anything under the key, in any number and on any side.
-/
namespace Reconcile

section Exact

variable {path : Path} {key : String} {current lastApplied desired out : List Doc}

/-- The identities of a merged list, in its order. -/
def mergedIdentities (key : String) (current lastApplied desired : List Doc) : List String :=
  (identities key current).filter
      (fun identity => identity ∈ identities key desired ∨ identity ∉ identities key lastApplied) ++
    (identities key desired).filter (· ∉ identities key current)

/-- What a merge makes of the elements of one identity: they are merged if one of them is desired,
and otherwise the current one stays. -/
def BecomesElement (path : Path) (key : String) (current lastApplied desired : List Doc)
    (identity : String) (element : Doc) : Prop :=
  match lastNamed key desired identity with
  | some wanted =>
    mergeAt (path.child identity) ((lastNamed key current identity).getD .null)
      (lastNamed key lastApplied identity) wanted = .ok element
  | none => lastNamed key current identity = some element

theorem mem_mergedIdentities {identity : String} :
    identity ∈ mergedIdentities key current lastApplied desired ↔
      identity ∈ identities key desired ∨
        identity ∈ identities key current ∧ identity ∉ identities key lastApplied := by
  simp only [mergedIdentities, List.mem_append, List.mem_filter, decide_eq_true_iff]
  tauto

theorem nodup_mergedIdentities :
    (mergedIdentities key current lastApplied desired).Nodup := by
  rw [mergedIdentities, List.nodup_append]
  refine ⟨(nodup_eraseDups _).filter _, (nodup_eraseDups _).filter _, ?_⟩
  intro a left b right equal
  subst equal
  exact of_decide_eq_true (List.mem_filter.mp right).2 (List.mem_filter.mp left).1

/-- A merge walks through the current identities and then through those that are only desired. -/
theorem eraseDups_identities (key : String) (current desired : List Doc) :
    (current.map (·.identity key) ++ desired.map (·.identity key)).eraseDups =
      identities key current ++ (identities key desired).filter (· ∉ identities key current) := by
  rw [List.eraseDups_append, List.removeAll, eraseDups_filter]
  simp only [identities, List.elem_eq_mem, List.mem_eraseDups, decide_not]

/-- What is kept of a list, and what becomes of it. -/
theorem forall₂_filterMap {α β : Type} (f : α → Option β) (l : List α) :
    List.Forall₂ (fun a b => f a = some b) (l.filter fun a => (f a).isSome) (l.filterMap f) := by
  induction l with
  | nil => exact .nil
  | cons a rest ih =>
    cases found : f a with
    | none =>
      rw [List.filter_cons_of_neg (by simp [found]), List.filterMap_cons_none found]
      exact ih
    | some b =>
      rw [List.filter_cons_of_pos (by simp [found]), List.filterMap_cons_some found]
      exact .cons found ih

namespace ElementsMerged

variable {element? : String → Option Doc}

theorem becomes (spec : ElementsMerged path key current lastApplied desired element? out)
    {identity : String} {element : Doc} (found : element? identity = some element) :
    BecomesElement path key current lastApplied desired identity element := by
  unfold BecomesElement
  cases wanted : lastNamed key desired identity with
  | some value =>
    have desires : (byIdentity key desired).get? identity = some value := by
      rw [get?_byIdentity_eq, wanted]
    obtain ⟨result, merged, stored⟩ := spec.merged identity value desires
    rw [found, Option.some.injEq] at stored
    rw [get?_byIdentity_eq, get?_byIdentity_eq, ← stored] at merged
    exact merged
  | none =>
    have undesired : identity ∉ (byIdentity key desired).keys := by
      rwa [keys_byIdentity_eq, ← lastNamed_eq_none_iff]
    rw [spec.others identity undesired, get?_byIdentity_eq] at found
    split at found
    · cases found
    · exact found

theorem isSome_iff (spec : ElementsMerged path key current lastApplied desired element? out)
    (identity : String) :
    (element? identity).isSome = true ↔
      identity ∈ mergedIdentities key current lastApplied desired := by
  rw [mem_mergedIdentities]
  cases wanted : lastNamed key desired identity with
  | some value =>
    obtain ⟨result, _, stored⟩ := spec.merged identity value (by rw [get?_byIdentity_eq, wanted])
    have named : identity ∈ identities key desired := by
      by_contra absent
      rw [lastNamed_eq_none_iff.mpr absent] at wanted
      cases wanted
    simp [stored, named]
  | none =>
    rw [lastNamed_eq_none_iff] at wanted
    rw [spec.others identity (by rwa [keys_byIdentity_eq]), keys_byIdentity_eq, get?_byIdentity_eq]
    by_cases applied : identity ∈ identities key lastApplied
    · simp [applied, wanted]
    · rw [if_neg applied, Option.isSome_iff_ne_none, ne_eq, lastNamed_eq_none_iff, not_not]
      tauto

/-- The elements come out one for each merged identity. -/
theorem forall₂_becomes (spec : ElementsMerged path key current lastApplied desired element? out) :
    List.Forall₂ (BecomesElement path key current lastApplied desired)
      (mergedIdentities key current lastApplied desired) out := by
  have kept : (identities key current ++
        (identities key desired).filter (· ∉ identities key current)).filter
        (fun identity => (element? identity).isSome) =
      mergedIdentities key current lastApplied desired := by
    have present : (fun identity => (element? identity).isSome) = fun identity =>
        decide (identity ∈ mergedIdentities key current lastApplied desired) := by
      funext identity
      rw [Bool.eq_iff_iff, spec.isSome_iff, decide_eq_true_iff]
    rw [present, List.filter_append, List.filter_filter]
    conv_rhs => rw [mergedIdentities]
    congr 1
    · refine List.filter_congr fun identity member => ?_
      rw [decide_eq_decide, mem_mergedIdentities]
      tauto
    · refine List.filter_congr fun identity member => ?_
      simp [mem_mergedIdentities, member]
  have walked := forall₂_filterMap element?
    (current.map (·.identity key) ++ desired.map (·.identity key)).eraseDups
  rw [← spec.order, eraseDups_identities, kept] at walked
  exact walked.imp fun identity element found => spec.becomes found

end ElementsMerged

/-- Merging keeps the key: its value is merged like any other, so the desired one replaces a
scalar. -/
theorem mergeAt_key {held : Option Doc} {last : Option Doc} {wanted element value : Doc}
    (wellFormed : wanted.WellFormed) (carried : ∀ item ∈ held, (item.get? key).isSome = true)
    (found : wanted.get? key = some value)
    (h : mergeAt path (held.getD .null) last wanted = .ok element) :
    ∃ result, element.get? key = some result ∧
      ((∀ item ∈ held, ((item.get? key).getD .null).isScalar = true) → result = value) := by
  cases held with
  | none =>
    rw [Option.getD_none, mergeAt_scalar rfl] at h
    cases h
    exact ⟨value, found, fun _ => rfl⟩
  | some item =>
    obtain ⟨inner, present⟩ := Option.isSome_iff_exists.mp (carried item rfl)
    obtain ⟨result, merged, stored⟩ := mergeAt_get?_success wellFormed h present found
    refine ⟨result, stored, fun scalar => ?_⟩
    have replaced := scalar item rfl
    rw [present, Option.getD_some] at replaced
    rw [mergeAt_scalar replaced] at merged
    cases merged
    rfl

/-- An element that comes out has a value under the key, and as long as only scalars stand there it
is the one of a listed element of its identity. -/
theorem BecomesElement.exists_listed {identity : String} {element : Doc}
    (carried : ∀ item ∈ current ++ desired, (item.get? key).isSome = true)
    (wellFormed : ∀ item ∈ desired, item.WellFormed)
    (becomes : BecomesElement path key current lastApplied desired identity element) :
    ∃ item ∈ current ++ desired, item.identity key = identity ∧
      ∃ value, element.get? key = some value ∧
        ((∀ item ∈ current, ((item.get? key).getD .null).isScalar = true) →
          item.get? key = some value) := by
  unfold BecomesElement at becomes
  split at becomes
  · next wanted desires =>
    obtain ⟨listed, rfl⟩ := mem_of_lastNamed desires
    have among := List.mem_append_right current listed
    obtain ⟨value, found⟩ := Option.isSome_iff_exists.mp (carried wanted among)
    have held : ∀ item ∈ lastNamed key current (wanted.identity key), item ∈ current :=
      fun item named => (mem_of_lastNamed named).1
    have keyed : ∀ item ∈ lastNamed key current (wanted.identity key),
        (item.get? key).isSome = true :=
      fun item named => carried item (List.mem_append_left desired (held item named))
    obtain ⟨result, stored, replaced⟩ := mergeAt_key (wellFormed wanted listed) keyed found becomes
    refine ⟨wanted, among, rfl, result, stored, fun scalar => ?_⟩
    rw [found, replaced fun item named => scalar item (held item named)]
  · obtain ⟨listed, named⟩ := mem_of_lastNamed becomes
    have among := List.mem_append_left desired listed
    obtain ⟨value, found⟩ := Option.isSome_iff_exists.mp (carried element among)
    exact ⟨element, among, named, value, found, fun _ => found⟩

/-- An element keeps the key, and its identity as long as only scalars stand under the key. -/
theorem BecomesElement.carries {identity : String} {element : Doc}
    (carried : ∀ item ∈ current ++ desired, (item.get? key).isSome = true)
    (wellFormed : ∀ item ∈ desired, item.WellFormed)
    (becomes : BecomesElement path key current lastApplied desired identity element) :
    (element.get? key).isSome = true ∧
      ((∀ item ∈ current, ((item.get? key).getD .null).isScalar = true) →
        element.identity key = identity) := by
  obtain ⟨item, _, rfl, value, stored, same⟩ :=
    BecomesElement.exists_listed carried wellFormed becomes
  refine ⟨Option.isSome_iff_exists.mpr ⟨value, stored⟩, fun scalar => ?_⟩
  rw [Doc.identity, Doc.identity, stored, same scalar]

/-- The exact result of merging keyed lists. The identities that come out are all different: first
the current ones that are desired or were not last applied, then the new desired ones, both in the
order of first occurrence. Under each of them stands the merge of its last elements, or the last
current one where none is desired. Every element that comes out has the key, and where all current
elements have scalars there, its value names the element as before. -/
theorem reviseElements_exact
    (carried : ∀ item ∈ current ++ desired, (item.get? key).isSome = true)
    (wellFormed : ∀ item ∈ desired, item.WellFormed)
    (success : reviseElements path key current lastApplied
      (desired.map fun item => (item, item.revision)) = .ok out) :
    (mergedIdentities key current lastApplied desired).Nodup ∧
      List.Forall₂ (BecomesElement path key current lastApplied desired)
        (mergedIdentities key current lastApplied desired) out ∧
      (∀ element ∈ out, (element.get? key).isSome = true) ∧
      ((∀ item ∈ current, ((item.get? key).getD .null).isScalar = true) →
        out.map (·.identity key) = mergedIdentities key current lastApplied desired) := by
  obtain ⟨element?, spec⟩ := reviseElements_success success
  have becomes := spec.forall₂_becomes
  refine ⟨nodup_mergedIdentities, becomes, ?_, fun scalar => ?_⟩
  · have each := becomes.flip.imp fun element identity was =>
      And.intro (BecomesElement.carries carried wellFormed was).1 was
    exact ((List.forall₂_and_left _ _).mp each).1
  · rw [← List.forall₂_eq_eq_eq, List.forall₂_map_left_iff]
    exact becomes.flip.imp fun element identity was =>
      (BecomesElement.carries carried wellFormed was).2 scalar

end Exact

section Ports

private def port (value : Doc) (name : String) : Doc :=
  .object [("port", value), ("name", .string name)]

/-- Two elements are named 8000 here, by a number and by text. -/
private def currentPorts : List Doc :=
  [port (.number (.int 8000 (by decide))) "lost", port (.number (.int 8443 (by decide))) "tls",
    port (.string "8000") "http", port (.number (.int 9090 (by decide))) "metrics"]

private def appliedPorts : List Doc := [port (.number (.int 8443 (by decide))) "tls"]

private def eightThousand : Double := ⟨false, 125 * 2 ^ 46, 1034, by decide, by decide, by decide⟩

private def desiredPorts : List Doc :=
  [port (.number (.int 53 (by decide))) "lost", .object [("port", .number (.double eightThousand))],
    port (.number (.int 53 (by decide))) "dns"]

private def mergedPorts : List Doc :=
  [.object [("port", .number (.double eightThousand)), ("name", .string "http")],
    port (.number (.int 9090 (by decide))) "metrics", port (.number (.int 53 (by decide))) "dns"]

/-- Identities are the same across types, and occur more than once on both sides. -/
theorem reviseElements_exact_ports :
    reviseElements .root "port" currentPorts appliedPorts
        (desiredPorts.map fun item => (item, item.revision)) = .ok mergedPorts ∧
      List.Forall₂ (BecomesElement .root "port" currentPorts appliedPorts desiredPorts)
        ["8000", "9090", "53"] mergedPorts ∧
      mergedPorts.map (·.identity "port") = ["8000", "9090", "53"] := by
  have success : reviseElements .root "port" currentPorts appliedPorts
      (desiredPorts.map fun item => (item, item.revision)) = .ok mergedPorts :=
    ok_of_toOption (by decide +kernel)
  have names : mergedIdentities "port" currentPorts appliedPorts desiredPorts =
      ["8000", "9090", "53"] := by decide +kernel
  have carried : ∀ item ∈ currentPorts ++ desiredPorts, (item.get? "port").isSome = true := by
    decide
  obtain ⟨_, becomes, _, named⟩ := reviseElements_exact carried (by decide) success
  rw [names] at becomes named
  exact ⟨success, becomes, named (by decide)⟩

end Ports

end Reconcile
