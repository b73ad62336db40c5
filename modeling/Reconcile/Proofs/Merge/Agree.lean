import Reconcile.Failure

/-!
# Outcomes of two runs

`Agree failures results` relates the outcomes of two runs that can fail: either both succeed, with
results that are related, or both fail, with failures that are. Steps whose outcomes agree can be
chained (`Agree.bind`) and folded over a list (`Agree.foldlM`).
-/
namespace Reconcile

inductive Agree {α β : Type} (failures : Failure → Failure → Prop) (results : α → β → Prop) :
    Except Failure α → Except Failure β → Prop where
  | ok {a : α} {b : β} (related : results a b) : Agree failures results (.ok a) (.ok b)
  | error {e f : Failure} (related : failures e f) : Agree failures results (.error e) (.error f)

namespace Agree

variable {α β γ δ ι : Type} {failures : Failure → Failure → Prop} {results : α → β → Prop}
  {first : Except Failure α} {second : Except Failure β}

theorem bind {onward : γ → δ → Prop} {next₁ : α → Except Failure γ} {next₂ : β → Except Failure δ}
    (start : Agree failures results first second)
    (next : ∀ a b, results a b → Agree failures onward (next₁ a) (next₂ b)) :
    Agree failures onward (first >>= next₁) (second >>= next₂) := by
  cases start with
  | ok related => exact next _ _ related
  | error related => exact .error related

/-- Two folds over one list agree when each entry makes of related values outcomes that agree. -/
theorem foldlM {step₁ : α → ι → Except Failure α} {step₂ : β → ι → Except Failure β}
    {entries : List ι} {a : α} {b : β} (start : results a b)
    (each : ∀ entry ∈ entries, ∀ a b, results a b →
      Agree failures results (step₁ a entry) (step₂ b entry)) :
    Agree failures results (entries.foldlM step₁ a) (entries.foldlM step₂ b) := by
  induction entries generalizing a b with
  | nil => exact .ok start
  | cons entry rest ih =>
    rw [List.foldlM_cons, List.foldlM_cons]
    refine (each entry List.mem_cons_self a b start).bind fun next₁ next₂ related => ?_
    exact ih related fun other member => each other (List.mem_cons_of_mem entry member)

/-- Runs agree, whatever their failures, when each succeeds if the other one does. -/
theorem of_success (forward : ∀ a, first = .ok a → ∃ b, second = .ok b ∧ results a b)
    (backward : ∀ b, second = .ok b → ∃ a, first = .ok a) :
    Agree (fun _ _ => True) results first second := by
  cases first with
  | ok a =>
    obtain ⟨b, rfl, related⟩ := forward a rfl
    exact .ok related
  | error e =>
    cases second with
    | ok b =>
      obtain ⟨a, impossible⟩ := backward b rfl
      cases impossible
    | error f => exact .error trivial

end Agree

end Reconcile
