import DreamHeroes.LabelledRuns

/- A system that takes each step as some steps of a more abstract one, none of them included,
   under a map of its states. -/
namespace Simulations

open LabelledRuns

variable {State Event Abstract Label : Type}

/-- Every allowed step from the invariant keeps it and is matched by allowed abstract steps. -/
structure Simulates (step : State → Event → State) (ok : State → Event → Prop)
    (inv : State → Prop) (abstract : State → Abstract)
    (above : Abstract → Label → Abstract) (allowed : Abstract → Label → Prop) : Prop where
  keeps : ∀ s event, inv s → ok s event → inv (step s event)
  matched : ∀ s event, inv s → ok s event → ∃ labels,
    EveryStep above allowed (abstract s) labels ∧
      abstract (step s event) = run above (abstract s) labels

variable {step : State → Event → State} {ok : State → Event → Prop} {inv : State → Prop}
  {abstract : State → Abstract} {above : Abstract → Label → Abstract}
  {allowed : Abstract → Label → Prop} {s : State} {events more : List Event}

theorem run_append : run step s (events ++ more) = run step (run step s events) more := by
  induction events generalizing s with
  | nil => rfl
  | cons event rest ih => exact ih

theorem everyStep_append : EveryStep step ok s (events ++ more) ↔
    EveryStep step ok s events ∧ EveryStep step ok (run step s events) more := by
  induction events generalizing s with
  | nil => simp [EveryStep, run]
  | cons event rest ih => simp [EveryStep, run, ih, and_assoc]

/-- What holds wherever allowed abstract steps lead holds, read through the map, wherever
allowed steps lead. -/
theorem everyState_of_simulates (simulates : Simulates step ok inv abstract above allowed)
    {good : Abstract → Prop} (start : inv s)
    (reaches : ∀ labels, EveryStep above allowed (abstract s) labels →
      good (run above (abstract s) labels))
    (all : EveryStep step ok s events) :
    EveryState step (fun s => good (abstract s)) s events := by
  induction events generalizing s with
  | nil => exact reaches [] trivial
  | cons event rest ih =>
    obtain ⟨first, firstAll, here⟩ := simulates.matched s event start all.1
    refine ⟨reaches [] trivial, ih (simulates.keeps s event start all.1) ?_ all.2⟩
    intro later laterAll
    rw [here] at laterAll ⊢
    rw [← run_append]
    exact reaches _ (everyStep_append.mpr ⟨firstAll, laterAll⟩)

end Simulations
