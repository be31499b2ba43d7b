import DreamHeroes.Simulations
import Mathlib.Data.List.Induction

/- What the steps of a run have brought about by its end. -/
namespace PastSteps

open LabelledRuns Simulations

variable {State Event Fact : Type}

/-- A step of the run brought the fact about. -/
def Brought (step : State → Event → State) (brings : State → Event → Fact → Prop) (s : State)
    (events : List Event) (fact : Fact) : Prop :=
  ∃ before event after, events = before ++ event :: after ∧
    brings (run step s before) event fact

variable {step : State → Event → State} {brings : State → Event → Fact → Prop} {s : State}
  {events : List Event} {event : Event} {fact : Fact}

theorem brought_earlier (brought : Brought step brings s events fact) :
    Brought step brings s (events ++ [event]) fact := by
  obtain ⟨before, cause, after, split, caused⟩ := brought
  exact ⟨before, cause, after ++ [event], by simp [split], caused⟩

theorem brought_last (now : brings (run step s events) event fact) :
    Brought step brings s (events ++ [event]) fact :=
  ⟨events, event, [], rfl, now⟩

/-- When each step keeps the state backed by the facts known before and those it brings about,
the state a run ends in is backed by what its steps brought about. -/
theorem backed_run {backed : (Fact → Prop) → State → Prop}
    (more : ∀ known known' s, (∀ fact, known fact → known' fact) → backed known s →
      backed known' s)
    (keep : ∀ known s event, (∀ fact, brings s event fact → known fact) → backed known s →
      backed known (step s event))
    (start : backed (fun _ => False) s) (events : List Event) :
    backed (Brought step brings s events) (run step s events) := by
  induction events using List.reverseRecOn with
  | nil =>
    apply more _ _ s _ start
    intro fact impossible
    cases impossible
  | append_singleton before event ih =>
    rw [run_append]
    apply keep
    · intro fact now
      exact brought_last now
    · apply more _ _ _ _ ih
      intro fact past
      exact brought_earlier past

end PastSteps
