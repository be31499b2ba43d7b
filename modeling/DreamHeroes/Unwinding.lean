import DreamHeroes.LabelledRuns

/- Runs in which some events are hidden from an observer: what it sees without them. -/
namespace Unwinding

open LabelledRuns

variable {State Event Sight : Type}

/-- The events of a run that are not hidden. -/
def purge (step : State → Event → State) (hidden : State → Event → Bool) :
    State → List Event → List Event
  | _, [] => []
  | s, event :: rest =>
      if hidden s event then purge step hidden (step s event) rest
      else event :: purge step hidden (step s event) rest

/-- What the observer sees in a run. -/
def seen (step : State → Event → State) (sees : State → Event → List Sight) :
    State → List Event → List Sight
  | _, [] => []
  | s, event :: rest => sees s event ++ seen step sees (step s event) rest

variable {step : State → Event → State} {hidden : State → Event → Bool}
  {sees : State → Event → List Sight} {alike : State → State → Prop}
  {fine fine' : State → Event → Prop}

/-- If hidden events are not seen and keep a state like the one without them, and the others are
seen and done alike, then the observer sees the same without the hidden ones. -/
theorem seen_purge {events : List Event} {s s' : State}
    (passed : ∀ s s' event, alike s s' → fine s event → hidden s event = true →
      alike (step s event) s' ∧ sees s event = [])
    (kept : ∀ s s' event, alike s s' → fine s event → fine' s' event → hidden s event = false →
      alike (step s event) (step s' event) ∧ sees s' event = sees s event)
    (same : alike s s') (all : EveryStep step fine s events)
    (all' : EveryStep step fine' s' (purge step hidden s events)) :
    alike (run step s events) (run step s' (purge step hidden s events)) ∧
      seen step sees s' (purge step hidden s events) = seen step sees s events := by
  induction events generalizing s s' with
  | nil => exact ⟨same, rfl⟩
  | cons event rest ih =>
    rw [purge] at all' ⊢
    by_cases away : hidden s event = true
    · rw [if_pos away] at all' ⊢
      obtain ⟨still, nothing⟩ := passed s s' event same all.1 away
      rw [run, seen, nothing, List.nil_append]
      exact ih still all.2 all'
    · rw [if_neg away] at all' ⊢
      obtain ⟨still, both⟩ := kept s s' event same all.1 all'.1 (Bool.eq_false_iff.mpr away)
      obtain ⟨last, later⟩ := ih still all.2 all'.2
      exact ⟨last, by rw [seen, seen, both, later]⟩

end Unwinding
