import Reconcile.Proofs.Merge.Objects
import Reconcile.Proofs.Merge.Realised

/-!
# Names stay distinct

A merge of documents without repeated names gives such a document (`mergeAt_wellFormed`), whatever was
last applied. The induction is on the desired document; what is not desired is taken over from the
observed one.
-/
namespace Reconcile

variable {path : Path} {observed desired merged : Doc} {lastApplied : Option Doc}

theorem FieldsMerged.wellFormed {current out : Fields Doc}
    (spec : FieldsMerged path current lastApplied desired out)
    (held : (Doc.object current).WellFormed) (wanted : desired.WellFormed)
    (each : ∀ key value, desired.get? key = some value → ∀ {path observed lastApplied result},
      observed.WellFormed → mergeAt path observed lastApplied value = .ok result →
      result.WellFormed) :
    (Doc.object out).WellFormed := by
  have nodup := spec.nodup_keys held.nodup_names wanted.nodup_names
  refine Doc.wellFormed_object_iff.mpr ⟨nodup, fun entry member => ?_⟩
  have found := Fields.get?_of_mem nodup member
  cases asked : desired.get? entry.1 with
  | some value =>
    obtain ⟨result, revised, stored⟩ := spec.merged entry.1 value asked
    cases stored.symm.trans found
    exact each entry.1 value asked (Doc.wellFormed_field held entry.1) revised
  | none =>
    have unwanted := Doc.get?_eq_none_iff.mp asked
    have unapplied : entry.1 ∉ (lastApplied.getD .null).names := by
      intro applied
      cases (spec.retracted entry.1 applied unwanted).symm.trans found
    rw [spec.kept entry.1 unwanted unapplied] at found
    exact held.of_get? found

theorem mergeAt_wellFormed (held : observed.WellFormed) (wanted : desired.WellFormed)
    (h : mergeAt path observed lastApplied desired = .ok merged) : merged.WellFormed := by
  induction desired using Doc.induction_inside generalizing path observed lastApplied merged with
  | step desired fields items =>
    cases observed with
    | object current =>
      obtain ⟨out, rfl, spec⟩ := mergeAt_object_success wanted h
      apply spec.wellFormed held wanted
      intro key value asked _ _ _ _ heldValue revised
      exact fields key value asked heldValue (wanted.of_get? asked) revised
    | array current =>
      obtain ⟨_, ⟨_, rfl⟩ | ⟨key, element?, out, _, rfl, spec⟩⟩ := mergeAt_array_success h
      · exact wanted
      · refine Doc.wellFormed_array_iff.mpr fun inner member => ?_
        rcases spec.mem_out member with kept | ⟨item, asked, revised⟩
        · exact held.of_mem kept
        · apply items item asked ?_ (wanted.of_mem_items asked) revised
          exact Doc.getD_null_of rfl fun element found =>
            held.of_mem (mem_of_get?_byIdentity found).1
    | _ =>
      rw [mergeAt_scalar rfl] at h
      cases h
      exact wanted

end Reconcile
