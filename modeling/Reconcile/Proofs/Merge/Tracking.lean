import Mathlib.Data.List.Perm.Basic
import Reconcile.Proofs.Doc.Reorders
import Reconcile.Proofs.Merge.Elements

/-!
# A sole manager's object

When one manager alone applies documents in turn, the object holds after each step what was desired
last, up to order: nothing of an earlier document survives and nothing of the last one is missing
(`soleRun_tracks`). What carries the run is that the observed document reorders the last applied one,
and a merge makes of such a document one that reorders the desired one (`mergeAt_reorders`). The key
of a list may change from step to step, so the invariant does not mention it.
-/
namespace Reconcile

open Doc (Reorders)

theorem mergeAt_null {path : Path} {lastApplied : Option Doc} {desired : Doc} :
    mergeAt path .null lastApplied desired = .ok desired :=
  mergeAt_scalar rfl

section Objects

/-- The motive of the induction on the desired document. -/
def Tracks (desired : Doc) : Prop :=
  ∀ {path : Path} {observed lastApplied merged : Doc}, lastApplied.WellFormed →
    lastApplied.WellKeyed → desired.WellFormed → desired.WellKeyed → desired.NullFree →
    Reorders observed lastApplied → mergeAt path observed (some lastApplied) desired = .ok merged →
    Reorders merged desired

theorem mergeAt_object_reorders {path : Path} {current applied : Fields Doc} {desired merged : Doc}
    (ih : ∀ key value, desired.get? key = some value → Tracks value)
    (appliedFormed : (Doc.object applied).WellFormed) (appliedKeyed : (Doc.object applied).WellKeyed)
    (wellFormed : desired.WellFormed) (wellKeyed : desired.WellKeyed) (nullFree : desired.NullFree)
    (same : Reorders (.object current) (.object applied))
    (h : mergeAt path (.object current) (some (.object applied)) desired = .ok merged) :
    Reorders merged desired := by
  obtain ⟨out, rfl, fields⟩ := mergeAt_object_success wellFormed h
  obtain ⟨_, own, keys, values⟩ := same.exists_fields
  cases own
  have appliedIff : ∀ key, key ∈ current.keys ↔ key ∈ applied.keys := fun _ => keys.mem_iff
  have currentNodup : current.keys.Nodup := keys.nodup_iff.mpr appliedFormed.nodup_names
  rcases fields.fits with rfl | ⟨wanted, rfl⟩
  · exact absurd nullFree Doc.not_nullFree_null
  refine .object ?_ ?_
  · have outNodup := fields.nodup_keys currentNodup wellFormed.nodup_names
    refine (List.perm_ext_iff_of_nodup outNodup wellFormed.nodup_names).mpr fun key => ?_
    rw [fields.mem_keys, appliedIff, Option.getD_some, Doc.names_object, Doc.names_object]
    tauto
  · intro key x y left right
    obtain ⟨result, revised, stored⟩ := fields.merged key y right
    rw [left, Option.some.injEq] at stored
    subst stored
    cases present : current.get? key with
    | none =>
      rw [present, Option.getD_none, mergeAt_null] at revised
      cases revised
      exact Reorders.refl _
    | some c =>
      have member : key ∈ applied.keys :=
        (appliedIff key).mp (Fields.mem_keys_of_mem (Fields.mem_of_get? present))
      obtain ⟨a, was⟩ := Fields.exists_get?_of_mem_keys member
      have found : (Doc.object applied).get? key = some a := was
      rw [present, Option.getD_some, Option.bind_some, found] at revised
      exact ih key y right (appliedFormed.of_get? found) (appliedKeyed.of_get? found)
        (wellFormed.of_get? right) (wellKeyed.of_get? right) (nullFree.of_get? right)
        (values key c a present was) revised

end Objects

section Lists

variable {key : String} {items : List Doc}

theorem forall₂_filterMap_map {R : Doc → Doc → Prop} {name : Doc → String}
    {element? : String → Option Doc}
    (h : ∀ item ∈ items, ∃ result, element? (name item) = some result ∧ R result item) :
    List.Forall₂ R ((items.map name).filterMap element?) items := by
  induction items with
  | nil => exact .nil
  | cons item rest ih =>
    obtain ⟨result, found, related⟩ := h item (by simp)
    rw [List.map_cons, List.filterMap_cons_some found]
    exact .cons related (ih fun other member => h other (by simp [member]))

theorem exists_of_mem_forall₂ {R : Doc → Doc → Prop} {a b : List Doc} (h : List.Forall₂ R a b)
    {x : Doc} (member : x ∈ a) : ∃ y ∈ b, R x y := by
  induction h with
  | nil => cases member
  | cons head _ ih =>
    rcases List.mem_cons.mp member with rfl | member
    · exact ⟨_, List.mem_cons_self, head⟩
    · obtain ⟨y, inside, related⟩ := ih member
      exact ⟨y, List.mem_cons_of_mem _ inside, related⟩

theorem map_eq_of_forall₂ {R : Doc → Doc → Prop} {name : Doc → String} {a b : List Doc}
    (h : List.Forall₂ R a b) (agree : ∀ x y, y ∈ b → R x y → name x = name y) :
    a.map name = b.map name := by
  induction h with
  | nil => rfl
  | cons head _ ih =>
    rw [List.map_cons, List.map_cons, agree _ _ List.mem_cons_self head,
      ih fun x y member => agree x y (List.mem_cons_of_mem _ member)]

/-- If only the desired identities have an element, the merged list is the desired elements in some
order. -/
theorem ElementsMerged.perm {path : Path} {current lastApplied desired out : List Doc}
    {element? : String → Option Doc}
    (spec : ElementsMerged path key current lastApplied desired element? out)
    (nodup : (desired.map (·.identity key)).Nodup)
    (gone : ∀ identity, identity ∉ desired.map (·.identity key) → element? identity = none) :
    out.Perm ((desired.map (·.identity key)).filterMap element?) := by
  have drop : ∀ all : List String, all.filterMap element? =
      (all.filter (· ∈ desired.map (·.identity key))).filterMap element? := by
    intro all
    rw [List.filterMap_filter]
    refine List.filterMap_congr fun identity _ => ?_
    by_cases wanted : identity ∈ desired.map (·.identity key)
    · rw [if_pos (decide_eq_true wanted)]
    · rw [if_neg (by simpa using wanted), gone identity wanted]
  rw [spec.order, drop]
  refine List.Perm.filterMap _ ?_
  rw [List.perm_ext_iff_of_nodup ((nodup_eraseDups _).filter _) nodup]
  intro identity
  simp only [List.mem_filter, List.mem_eraseDups, List.mem_append, decide_eq_true_iff]
  tauto

theorem mergeAt_array_reorders {path : Path} {current applied : List Doc} {desired merged : Doc}
    (ih : ∀ item ∈ desired.items, Tracks item)
    (appliedFormed : (Doc.array applied).WellFormed) (appliedKeyed : (Doc.array applied).WellKeyed)
    (wellFormed : desired.WellFormed) (wellKeyed : desired.WellKeyed) (nullFree : desired.NullFree)
    (same : Reorders (.array current) (.array applied))
    (h : mergeAt path (.array current) (some (.array applied)) desired = .ok merged) :
    Reorders merged desired := by
  obtain ⟨fits, ⟨_, rfl⟩ | ⟨key, element?, out, shared, rfl, spec⟩⟩ := mergeAt_array_success h
  · exact Reorders.refl _
  rcases fits with rfl | ⟨wanted, rfl⟩
  · exact absurd nullFree Doc.not_nullFree_null
  change ElementsMerged path key current applied wanted element? out at spec
  obtain ⟨known, carried⟩ := sharedKey?_eq_some shared
  have appliedCarry : ∀ item ∈ applied, (item.get? key).isSome = true := carried applied (by simp)
  have wantedCarry : ∀ item ∈ wanted, (item.get? key).isSome = true := carried wanted (by simp)
  obtain ⟨appliedScalar, appliedNodup⟩ :=
    appliedKeyed.scalar_identity known (Doc.allCarry_iff.mpr appliedCarry)
  obtain ⟨_, wantedNodup⟩ := wellKeyed.scalar_identity known (Doc.allCarry_iff.mpr wantedCarry)
  obtain ⟨_, ordered, own, perm, pairs⟩ := same.exists_perm
  cases own
  -- Every current element has its counterpart among the applied ones, under one identity.
  have partner : ∀ c ∈ current, ∃ a ∈ applied, Reorders c a ∧ a.identity key = c.identity key := by
    intro c member
    obtain ⟨a, applies, related⟩ := exists_of_mem_forall₂ pairs (perm.mem_iff.mp member)
    exact ⟨a, applies, related,
      (related.identity_eq (appliedCarry a applies) (appliedScalar a applies)).symm⟩
  have identities : (current.map (·.identity key)).Perm (applied.map (·.identity key)) := by
    have aligned : ordered.map (·.identity key) = applied.map (·.identity key) :=
      map_eq_of_forall₂ pairs fun c a applies related =>
        related.identity_eq (appliedCarry a applies) (appliedScalar a applies)
    exact aligned ▸ perm.map _
  have currentNodup : (current.map (·.identity key)).Nodup := identities.nodup_iff.mpr appliedNodup
  refine .keyed known (Doc.allCarry_iff.mpr wantedCarry) (spec.perm wantedNodup ?_)
    (forall₂_filterMap_map ?_)
  · intro identity unwanted
    rw [spec.others identity (by rwa [keys_byIdentity wantedNodup]), keys_byIdentity appliedNodup]
    by_cases applies : identity ∈ applied.map (·.identity key)
    · rw [if_pos applies]
    · rw [if_neg applies, Fields.get?_eq_none_iff, keys_byIdentity currentNodup]
      exact fun present => applies (identities.mem_iff.mp present)
  · intro d member
    obtain ⟨result, revised, stored⟩ := spec.merged _ d (get?_byIdentity wantedNodup member)
    refine ⟨result, stored, ?_⟩
    by_cases present : d.identity key ∈ current.map (·.identity key)
    · obtain ⟨c, held, sameIdentity⟩ := List.mem_map.mp present
      obtain ⟨a, applies, related, counterpart⟩ := partner c held
      have atCurrent := get?_byIdentity currentNodup held
      have atApplied := get?_byIdentity appliedNodup applies
      rw [counterpart, sameIdentity] at atApplied
      rw [sameIdentity] at atCurrent
      rw [atCurrent, atApplied, Option.getD_some] at revised
      exact ih d member (appliedFormed.of_mem applies) (appliedKeyed.of_mem applies)
        (wellFormed.of_mem member) (wellKeyed.of_mem member) (nullFree.of_mem member) related revised
    · have absent : (byIdentity key current).get? (d.identity key) = none := by
        rwa [Fields.get?_eq_none_iff, keys_byIdentity currentNodup]
      rw [absent, Option.getD_none, mergeAt_null] at revised
      cases revised
      exact Reorders.refl _

end Lists

theorem mergeAt_reorders (desired : Doc) : Tracks desired := by
  induction desired using Doc.induction_inside with
  | step desired fields items =>
    intro path observed lastApplied merged appliedFormed appliedKeyed wellFormed wellKeyed nullFree
      same h
    cases observed with
    | object current =>
      cases same with
      | scalar scalar => cases scalar
      | object keys values =>
        exact mergeAt_object_reorders fields appliedFormed appliedKeyed wellFormed wellKeyed nullFree
          (.object keys values) h
    | array current =>
      cases lastApplied with
      | array applied =>
        exact mergeAt_array_reorders items appliedFormed appliedKeyed wellFormed wellKeyed nullFree
          same h
      | _ => cases same
    | _ =>
      rw [mergeAt_scalar rfl] at h
      cases h
      exact Reorders.refl _

/-- The documents observed after each step when one manager applies each desired document against
the one before it, and nobody else writes. -/
def soleRun (observed : Doc) (lastApplied : Option Doc) : List Doc → Except Failure (List Doc)
  | [] => .ok []
  | desired :: rest => do
    let merged ← merge observed lastApplied desired
    return merged :: (← soleRun merged (some desired) rest)

/-- What holds between two steps of a sole manager's run. -/
def Follows (observed : Doc) : Option Doc → Prop
  | none => observed = .null
  | some last => last.WellFormed ∧ last.WellKeyed ∧ Reorders observed last

theorem Follows.merge_reorders {observed desired merged : Doc} {lastApplied : Option Doc}
    (follows : Follows observed lastApplied) (wellFormed : desired.WellFormed)
    (wellKeyed : desired.WellKeyed) (nullFree : desired.NullFree)
    (h : merge observed lastApplied desired = .ok merged) : Reorders merged desired := by
  cases lastApplied with
  | none =>
    cases follows
    rw [merge, mergeAt_null] at h
    cases h
    exact Reorders.refl _
  | some last =>
    obtain ⟨appliedFormed, appliedKeyed, same⟩ := follows
    exact mergeAt_reorders desired appliedFormed appliedKeyed wellFormed wellKeyed nullFree same h

theorem Follows.soleRun_reorders {observed : Doc} {lastApplied : Option Doc}
    {desired states : List Doc}
    (follows : Follows observed lastApplied) (wellFormed : ∀ doc ∈ desired, doc.WellFormed)
    (wellKeyed : ∀ doc ∈ desired, doc.WellKeyed) (nullFree : ∀ doc ∈ desired, doc.NullFree)
    (h : soleRun observed lastApplied desired = .ok states) :
    List.Forall₂ Reorders states desired := by
  induction desired generalizing observed lastApplied states with
  | nil =>
    cases h
    exact .nil
  | cons first rest ih =>
    obtain ⟨merged, step, h⟩ := ok_of_bind h
    obtain ⟨later, run, h⟩ := ok_of_bind h
    cases h
    simp only [List.forall_mem_cons] at wellFormed wellKeyed nullFree
    have head : Reorders merged first :=
      follows.merge_reorders wellFormed.1 wellKeyed.1 nullFree.1 step
    have next : Follows merged (some first) := ⟨wellFormed.1, wellKeyed.1, head⟩
    exact .cons head (ih next wellFormed.2 wellKeyed.2 nullFree.2 run)

/-- A sole manager's object equals the document desired last, up to order, after every step of
every run that succeeds. -/
theorem soleRun_tracks {desired states : List Doc} (wellFormed : ∀ doc ∈ desired, doc.WellFormed)
    (wellKeyed : ∀ doc ∈ desired, doc.WellKeyed) (nullFree : ∀ doc ∈ desired, doc.NullFree)
    (success : soleRun .null none desired = .ok states) : List.Forall₂ Reorders states desired :=
  have start : Follows .null none := rfl
  start.soleRun_reorders wellFormed wellKeyed nullFree success

section Listeners

private def httpPort : Doc := .number (.int 80 (by decide))

private def httpsPort : Doc := .number (.int 443 (by decide))

private def listeners (ports args : List Doc) : Doc :=
  .object [("ports", .array ports), ("args", .array args)]

/-- The list of ports is keyed by `port` in the first document and by `name` from the second on. -/
private def desiredListeners : List Doc :=
  [listeners [.object [("port", httpPort), ("name", .string "web")],
      .object [("port", httpsPort), ("name", .string "tls")]] [.string "a"],
    listeners [.object [("name", .string "log")],
      .object [("name", .string "tls"), ("port", httpPort)]] [.string "b", .string "a"],
    .object [("args", .array []), ("ports", .array [.object [("name", .string "log")]])]]

private def observedListeners : List Doc :=
  [listeners [.object [("port", httpPort), ("name", .string "web")],
      .object [("port", httpsPort), ("name", .string "tls")]] [.string "a"],
    listeners [.object [("port", httpPort), ("name", .string "tls")],
      .object [("name", .string "log")]] [.string "b", .string "a"],
    listeners [.object [("name", .string "log")]] []]

theorem soleRun_tracks_listeners :
    soleRun .null none desiredListeners = .ok observedListeners ∧
      List.Forall₂ Reorders observedListeners desiredListeners := by
  have success : soleRun .null none desiredListeners = .ok observedListeners := rfl
  have wellFormed : ∀ doc ∈ desiredListeners, doc.WellFormed := by decide
  have wellKeyed : ∀ doc ∈ desiredListeners, doc.WellKeyed := by decide
  have nullFree : ∀ doc ∈ desiredListeners, doc.NullFree := by decide
  exact ⟨success, soleRun_tracks wellFormed wellKeyed nullFree success⟩

end Listeners

end Reconcile
