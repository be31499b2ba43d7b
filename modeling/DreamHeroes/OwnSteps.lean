import DreamHeroes.LabelledRuns

/- What a system can come to by the steps it takes itself, without events from outside. -/
namespace OwnSteps

open LabelledRuns

variable {State Event : Type} {step : State → Event → State} {own : Event → Prop}
  {s s' s'' : State}

/-- Some events of the system itself lead from one state to the other. -/
def Leads (step : State → Event → State) (own : Event → Prop) (s s' : State) : Prop :=
  ∃ events : List Event, (∀ event ∈ events, own event) ∧ run step s events = s'

theorem leads_refl (s : State) : Leads step own s s := by
  refine ⟨[], ?_, rfl⟩
  intro event member
  cases member

theorem leads_next (event : Event) (mine : own event) (later : Leads step own (step s event) s') :
    Leads step own s s' := by
  obtain ⟨events, all, same⟩ := later
  refine ⟨event :: events, ?_, same⟩
  intro other member
  cases member with
  | head => exact mine
  | tail _ member => exact all other member

theorem leads_step (event : Event) (mine : own event) : Leads step own s (step s event) :=
  leads_next event mine (leads_refl _)

theorem leads_trans (first : Leads step own s s') (second : Leads step own s' s'') :
    Leads step own s s'' := by
  obtain ⟨events, all, same⟩ := first
  induction events generalizing s with
  | nil =>
    rw [run] at same
    rw [same]
    exact second
  | cons event rest ih =>
    have later := ih (fun other member => all other (List.mem_cons_of_mem event member)) same
    exact leads_next event (all event List.mem_cons_self) later

/-- What every step of its own keeps still holds where these steps lead. -/
theorem leads_keep {inv : State → Prop} (keep : ∀ s event, own event → inv s → inv (step s event))
    (start : inv s) (leads : Leads step own s s') : inv s' := by
  obtain ⟨events, all, same⟩ := leads
  induction events generalizing s with
  | nil =>
    rw [run] at same
    rw [← same]
    exact start
  | cons event rest ih =>
    have now := keep s event (all event List.mem_cons_self) start
    exact ih now (fun other member => all other (List.mem_cons_of_mem event member)) same

/-- The measure rule: while the aim is missed, some steps of its own lower the measure. -/
theorem leads_until (inv aim : State → Prop) (measure : State → Nat)
    (down : ∀ s, inv s → ¬ aim s →
      ∃ s', Leads step own s s' ∧ inv s' ∧ measure s' < measure s) (start : inv s) :
    ∃ s', Leads step own s s' ∧ inv s' ∧ aim s' := by
  induction size : measure s using Nat.strongRecOn generalizing s with
  | ind size ih =>
    by_cases reached : aim s
    · exact ⟨s, leads_refl s, start, reached⟩
    · obtain ⟨next, first, kept, less⟩ := down s start reached
      obtain ⟨last, later, good⟩ := ih (measure next) (by omega) kept rfl
      exact ⟨last, leads_trans first later, good⟩

end OwnSteps
