import Reconcile.Proofs.Doc.Covers
import Reconcile.Proofs.Merge.Elements

/-!
# What is desired is realised

Whatever is observed and whatever was last applied, a merge that succeeds gives a document that
covers the desired one (`merge_covers`). The induction is on the desired document: an element of a
merged list is the merge of a desired element or an element that was there before
(`ElementsMerged.mem_out`), so all of them have the identity field.
-/
namespace Reconcile

open Doc (Satisfies Covers)

section Elements

variable {path : Path} {key : String} {current lastApplied desired out : List Doc}
  {element? : String → Option Doc}

/-- An element of a merged list was there before or is what became of a desired one. -/
theorem ElementsMerged.mem_out
    (spec : ElementsMerged path key current lastApplied desired element? out) {inner : Doc}
    (member : inner ∈ out) :
    inner ∈ current ∨ ∃ item ∈ desired,
      mergeAt (path.child (item.identity key))
        (((byIdentity key current).get? (item.identity key)).getD .null)
        ((byIdentity key lastApplied).get? (item.identity key)) item = .ok inner := by
  rw [spec.order] at member
  obtain ⟨identity, _, found⟩ := List.mem_filterMap.mp member
  by_cases wanted : identity ∈ (byIdentity key desired).keys
  · obtain ⟨item, listed⟩ := Fields.exists_get?_of_mem_keys wanted
    obtain ⟨result, revised, stored⟩ := spec.merged identity item listed
    rw [found, Option.some.injEq] at stored
    subst stored
    obtain ⟨asked, rfl⟩ := mem_of_get?_byIdentity listed
    exact .inr ⟨item, asked, revised⟩
  · rw [spec.others identity wanted] at found
    split at found
    · cases found
    · exact .inl (mem_of_get?_byIdentity found).1

/-- Each desired element has its result in the merged list, if their identities differ. -/
theorem ElementsMerged.exists_mem_out
    (spec : ElementsMerged path key current lastApplied desired element? out)
    (nodup : (desired.map (·.identity key)).Nodup) {item : Doc} (member : item ∈ desired) :
    ∃ inner ∈ out, element? (item.identity key) = some inner ∧
      mergeAt (path.child (item.identity key))
        (((byIdentity key current).get? (item.identity key)).getD .null)
        ((byIdentity key lastApplied).get? (item.identity key)) item = .ok inner := by
  obtain ⟨inner, revised, stored⟩ := spec.merged _ item (get?_byIdentity nodup member)
  refine ⟨inner, ?_, stored, revised⟩
  rw [spec.order]
  refine List.mem_filterMap.mpr ⟨item.identity key, ?_, stored⟩
  exact List.mem_eraseDups.mpr (List.mem_append_right _ (List.mem_map_of_mem member))

end Elements

/-- Merging into a list: the results for the desired elements satisfy them, by the induction. -/
theorem mergeAt_array_satisfies {path : Path} {current : List Doc} {desired merged : Doc}
    {lastApplied : Option Doc} (wellFormed : desired.WellFormed) (wellKeyed : desired.WellKeyed)
    (result : ∀ item ∈ desired.items, ∀ {path observed lastApplied inner},
      mergeAt path observed lastApplied item = .ok inner → inner.Satisfies item)
    (h : mergeAt path (.array current) lastApplied desired = .ok merged) :
    merged.Satisfies desired := by
  obtain ⟨fits, ⟨_, rfl⟩ | ⟨key, element?, out, shared, rfl, spec⟩⟩ := mergeAt_array_success h
  · exact .refl wellFormed
  obtain ⟨known, carried⟩ := sharedKey?_eq_some shared
  have wantedCarry : ∀ item ∈ desired.items, (item.get? key).isSome = true :=
    carried desired.items (by simp)
  have outCarry : ∀ inner ∈ out, (inner.get? key).isSome = true := by
    intro inner member
    rcases spec.mem_out member with kept | ⟨item, asked, revised⟩
    · exact carried current (by simp) inner kept
    · obtain ⟨value, found⟩ := Option.isSome_iff_exists.mp (wantedCarry item asked)
      obtain ⟨held, present, _⟩ :=
        (result item asked revised).get? (wellFormed.of_mem_items asked) found
      rw [present, Option.isSome_some]
  rcases fits with rfl | ⟨wanted, rfl⟩
  · exact List.any_eq_true.mpr ⟨key, known, Doc.allCarry_iff.mpr outCarry⟩
  · have allCarry : Doc.allCarry key (out ++ wanted) = true :=
      Doc.allCarry_iff.mpr fun item member => (List.mem_append.mp member).elim (outCarry item)
        (wantedCarry item)
    obtain ⟨_, nodup⟩ := wellKeyed.scalar_identity known (Doc.allCarry_iff.mpr wantedCarry)
    refine Doc.coveredBy_array_iff.mpr (.inr ⟨out, key, rfl, known, allCarry, fun item member => ?_⟩)
    obtain ⟨inner, present, _, revised⟩ := spec.exists_mem_out nodup member
    exact ⟨inner, present, result item member revised⟩

theorem mergeAt_satisfies {path : Path} {observed desired merged : Doc} {lastApplied : Option Doc}
    (wellFormed : desired.WellFormed) (wellKeyed : desired.WellKeyed)
    (h : mergeAt path observed lastApplied desired = .ok merged) : merged.Satisfies desired := by
  induction desired using Doc.induction_inside generalizing path observed lastApplied merged with
  | step desired fields items =>
    cases observed with
    | object current =>
      obtain ⟨out, rfl, spec⟩ := mergeAt_object_success wellFormed h
      rcases spec.fits with rfl | ⟨wanted, rfl⟩
      · rfl
      · refine (Doc.coveredBy_object_iff wellFormed.nodup_names).mpr ⟨out, rfl, ?_⟩
        intro key value found
        obtain ⟨result, revised, stored⟩ := spec.merged key value found
        exact ⟨result, stored,
          fields key value found (wellFormed.of_get? found) (wellKeyed.of_get? found) revised⟩
    | array current =>
      refine mergeAt_array_satisfies wellFormed wellKeyed ?_ h
      intro item member path observed lastApplied inner revised
      exact items item member (wellFormed.of_mem_items member) (wellKeyed.of_mem_items member) revised
    | _ =>
      rw [mergeAt_scalar rfl] at h
      cases h
      exact .refl wellFormed

/-- What is desired is realised: if every list of the desired document can be read by identity and
it says null nowhere, then the merged document covers it. -/
theorem merge_covers {observed desired merged : Doc} {lastApplied : Option Doc}
    (wellFormed : desired.WellFormed) (wellKeyed : desired.WellKeyed) (nullFree : desired.NullFree)
    (success : merge observed lastApplied desired = .ok merged) : merged.Covers desired :=
  (Doc.satisfies_iff_covers wellFormed nullFree).mp (mergeAt_satisfies wellFormed wellKeyed success)

section Drifted

private def webPort : Doc := .number (.int 8080 (by decide))

private def server (args ports : List Doc) : Doc :=
  .object [("args", .array args), ("ports", .array ports)]

/-- Two ports have one identity, one was applied before and one is foreign. -/
private def driftedServer : Doc :=
  server [.string "verbose"]
    [.object [("port", .string "8080"), ("name", .string "old")], .object [("port", .string "22")],
      .object [("port", webPort), ("node", webPort)], .object [("port", .string "443")]]

private def appliedServer : Doc := server [] [.object [("port", .string "443")]]

private def desiredServer : Doc :=
  server [.string "quiet", .string "verbose"]
    [.object [("port", .string "9090")], .object [("name", .string "web"), ("port", webPort)]]

private def realisedServer : Doc :=
  server [.string "quiet", .string "verbose"]
    [.object [("port", webPort), ("node", webPort), ("name", .string "web")],
      .object [("port", .string "22")], .object [("port", .string "9090")]]

theorem merge_covers_drifted :
    merge driftedServer (some appliedServer) desiredServer = .ok realisedServer ∧
      realisedServer.Covers desiredServer := by
  have success : merge driftedServer (some appliedServer) desiredServer = .ok realisedServer := rfl
  have wellFormed : desiredServer.WellFormed := by decide
  have wellKeyed : desiredServer.WellKeyed := by decide
  have nullFree : desiredServer.NullFree := by decide
  exact ⟨success, merge_covers wellFormed wellKeyed nullFree success⟩

end Drifted

end Reconcile
