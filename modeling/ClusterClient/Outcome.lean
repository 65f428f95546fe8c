import ClusterClient.Failure

/-!
# Outcomes

An attempt, an exchange or a whole call ends with a value, with a failure, or by being cancelled. To be
cancelled is no failure: nobody records it, and nothing is tried in its place.
-/

namespace ClusterClient

/-- How an attempt, or a run, has ended. -/
inductive Outcome (α : Type) where
  | returned (value : α)
  | raised (failure : Failure)
  | cancelled

namespace Outcome

variable {α : Type} {outcome : Outcome α} {f : Failure}

/-- How a run ends whose attempt has ended like this. There is nothing if the run goes on, which it does after a
failure that can be shown; one that cannot is put aside for what showing it has failed with. -/
def final? : Outcome α → Option (Outcome α)
  | returned value => some (returned value)
  | raised f => f.whyMute?.map raised
  | cancelled => some cancelled

/-- The failure after which a run goes on. -/
def passed? : Outcome α → Option Failure
  | raised f => if f.Speaks then some f else none
  | _ => none

/-- The failures that an attempt adds to those of its run. -/
def failures : Outcome α → List Failure
  | raised f => [f]
  | _ => []

theorem passed?_of_speaks (hf : f.Speaks) : (raised f : Outcome α).passed? = some f := if_pos hf

/-- Nothing else does. -/
theorem passed?_eq_some_iff : outcome.passed? = some f ↔ f.Speaks ∧ outcome = raised f := by
  cases outcome with
  | returned value => simp [passed?]
  | cancelled => simp [passed?]
  | raised g =>
    -- a failure passes as itself
    simp only [passed?, Option.ite_none_right_eq_some, Option.some.injEq, raised.injEq]
    refine ⟨fun ⟨hg, heq⟩ => ⟨heq ▸ hg, heq⟩, fun ⟨hf, heq⟩ => ⟨heq.symm ▸ hf, heq⟩⟩

/-- **A run goes on or ends**: an attempt that does not pass decides how the run ends. -/
theorem exists_final (h : outcome.passed? = none) : ∃ last, outcome.final? = some last := by
  cases outcome with
  | returned value => exact ⟨_, rfl⟩
  | cancelled => exact ⟨_, rfl⟩
  | raised f =>
    obtain ⟨why, hwhy⟩ : ∃ why, f.whyMute? = some why := by
      rw [← Failure.not_speaks_iff]
      intro hf
      rw [passed?_of_speaks hf] at h
      cases h
    exact ⟨raised why, by rw [final?, hwhy, Option.map_some]⟩

end Outcome

end ClusterClient
