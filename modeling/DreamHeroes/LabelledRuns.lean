/- Runs of a system that takes one step for each event. A system that can crash has a
   crashed state that no event leaves. -/
namespace LabelledRuns

variable {State Event : Type}

def run (step : State → Event → State) : State → List Event → State
  | s, [] => s
  | s, event :: rest => run step (step s event) rest

/-- The property holds in the first state and in every state the events lead to. -/
def EveryState (step : State → Event → State) (good : State → Prop) :
    State → List Event → Prop
  | s, [] => good s
  | s, event :: rest => good s ∧ EveryState step good (step s event) rest

/-- Each event meets the condition in the state it is taken from. -/
def EveryStep (step : State → Event → State) (ok : State → Event → Prop) :
    State → List Event → Prop
  | _, [] => True
  | s, event :: rest => ok s event ∧ EveryStep step ok (step s event) rest

instance decidableEveryStep {step : State → Event → State} {ok : State → Event → Prop}
    [∀ s event, Decidable (ok s event)] :
    ∀ (s : State) (events : List Event), Decidable (EveryStep step ok s events)
  | _, [] => .isTrue trivial
  | s, event :: rest =>
      @instDecidableAnd _ _ inferInstance (decidableEveryStep (step s event) rest)

variable {step : State → Event → State} {good inv : State → Prop}
  {ok : State → Event → Prop} {s : State} {events : List Event}

theorem everyState_last (all : EveryState step good s events) : good (run step s events) := by
  induction events generalizing s with
  | nil => exact all
  | cons event rest ih => exact ih all.2

theorem everyState_first (all : EveryState step good s events) : good s := by
  cases events with
  | nil => exact all
  | cons event rest => exact all.1

theorem everyState_imp (weaker : ∀ s, inv s → good s) (all : EveryState step inv s events) :
    EveryState step good s events := by
  induction events generalizing s with
  | nil => exact weaker s all
  | cons event rest ih => exact ⟨weaker s all.1, ih all.2⟩

/-- What one good step preserves, a run of good steps preserves. -/
theorem everyState_of_everyStep (keep : ∀ s event, inv s → ok s event → inv (step s event))
    (start : inv s) (all : EveryStep step ok s events) : EveryState step inv s events := by
  induction events generalizing s with
  | nil => exact start
  | cons event rest ih => exact ⟨start, ih (keep s event start all.1) all.2⟩

theorem run_of_everyStep (inv : State → Prop)
    (keep : ∀ s event, inv s → ok s event → inv (step s event)) (start : inv s)
    (all : EveryStep step ok s events) : inv (run step s events) :=
  everyState_last (everyState_of_everyStep keep start all)

/-- A step that is good from every state of the invariant is good wherever the run takes it. -/
theorem everyStep_of_invariant {better : State → Event → Prop}
    (keep : ∀ s event, inv s → ok s event → inv (step s event))
    (good : ∀ s event, inv s → ok s event → better s event) (start : inv s)
    (all : EveryStep step ok s events) : EveryStep step better s events := by
  induction events generalizing s with
  | nil => trivial
  | cons event rest ih =>
    exact ⟨good s event start all.1, ih (keep s event start all.1) all.2⟩

/-- What a good state after a step says of the state before it and of the step, a good state
at the end of a run says of its start and of every step. -/
theorem everyStep_of_run (good : State → Prop) {spared : State → Event → Prop}
    (back : ∀ s event, ok s event → good (step s event) → good s ∧ spared s event)
    (all : EveryStep step ok s events) (last : good (run step s events)) :
    good s ∧ EveryStep step spared s events := by
  induction events generalizing s with
  | nil => exact ⟨last, trivial⟩
  | cons event rest ih =>
    obtain ⟨next, later⟩ := ih all.2 last
    obtain ⟨first, now⟩ := back s event all.1 next
    exact ⟨first, now, later⟩

theorem everyStep_last {event : Event} (all : EveryStep step ok s (events ++ [event])) :
    ok (run step s events) event := by
  induction events generalizing s with
  | nil => exact all.1
  | cons first rest ih => exact ih all.2

theorem everyStep_and {other : State → Event → Prop} :
    EveryStep step (fun s event => ok s event ∧ other s event) s events ↔
      EveryStep step ok s events ∧ EveryStep step other s events := by
  induction events generalizing s with
  | nil => simp [EveryStep]
  | cons event rest ih =>
    simp only [EveryStep, ih]
    constructor
    · intro ⟨⟨a, b⟩, c, d⟩
      exact ⟨⟨a, c⟩, b, d⟩
    · intro ⟨⟨a, c⟩, b, d⟩
      exact ⟨⟨a, b⟩, c, d⟩

theorem run_of_every (keep : ∀ s event, inv s → inv (step s event)) (start : inv s)
    (events : List Event) : inv (run step s events) := by
  induction events generalizing s with
  | nil => exact start
  | cons event rest ih => exact ih (keep s event start)

theorem everyStep_of_forall (kinds : ∀ s, ∀ event ∈ events, ok s event) :
    EveryStep step ok s events := by
  induction events generalizing s with
  | nil => trivial
  | cons event rest ih =>
    exact ⟨kinds s event List.mem_cons_self,
      ih fun s later member => kinds s later (List.mem_cons_of_mem event member)⟩

/-- When a bad step is seen in the state it leads to, the good runs are the runs of good
steps and no others. Only runs of steps that are allowed are looked at. -/
theorem everyState_iff_of_allowed (inv : State → Prop) {allowed : State → Event → Prop}
    (enough : ∀ s, inv s → good s)
    (keep : ∀ s event, allowed s event → inv s → ok s event → inv (step s event))
    (needed : ∀ s event, allowed s event → inv s → good (step s event) → ok s event)
    (start : inv s) (all : EveryStep step allowed s events) :
    EveryState step good s events ↔ EveryStep step ok s events := by
  induction events generalizing s with
  | nil => exact iff_of_true (enough s start) trivial
  | cons event rest ih =>
    obtain ⟨now, later⟩ := all
    constructor
    · intro good
      have fine := needed s event now start (everyState_first good.2)
      exact ⟨fine, (ih (keep s event now start fine) later).mp good.2⟩
    · intro fine
      exact ⟨enough s start, (ih (keep s event now start fine.1) later).mpr fine.2⟩

/-- The same where only the kind of the events is restricted. -/
theorem everyState_iff_everyStep (inv : State → Prop) (allowed : Event → Prop)
    (enough : ∀ s, inv s → good s)
    (keep : ∀ s event, allowed event → inv s → ok s event → inv (step s event))
    (needed : ∀ s event, allowed event → inv s → good (step s event) → ok s event)
    (start : inv s) (kinds : ∀ event ∈ events, allowed event) :
    EveryState step good s events ↔ EveryStep step ok s events :=
  everyState_iff_of_allowed inv enough keep needed start
    (everyStep_of_forall fun _ event member => kinds event member)

theorem start_of_run (back : ∀ s event, good (step s event) → good s)
    (last : good (run step s events)) : good s := by
  induction events generalizing s with
  | nil => exact last
  | cons event rest ih => exact back s event (ih last)

/-- When what goes wrong for good is seen in the state it happens in, every state is good as
long as nothing has gone wrong at the end. -/
theorem everyState_iff_last {few : State → Prop} (enough : ∀ s, inv s → few s → good s)
    (needed : ∀ s event, inv (step s event) → few s → good (step s event) → few (step s event))
    (back : ∀ s event, few (step s event) → few s) (all : EveryState step inv s events)
    (start : few s) : EveryState step good s events ↔ few (run step s events) := by
  induction events generalizing s with
  | nil => exact ⟨fun _ => start, enough s all⟩
  | cons event rest ih =>
    obtain ⟨here, later⟩ := all
    have next := needed s event (everyState_first later) start
    constructor
    · intro ⟨_, good⟩
      exact (ih later (next (everyState_first good))).mp good
    · intro last
      have before : few (step s event) := start_of_run back last
      exact ⟨enough s here start, (ih later before).mpr last⟩

/-- Each event meets the condition with the events before it. -/
def EachAfter (fine : List Event → Event → Prop) (events : List Event) : Prop :=
  ∀ before event after, events = before ++ event :: after → fine before event

variable {fine : List Event → Event → Prop} {event : Event}

theorem eachAfter_nil : EachAfter fine [] := by
  intro before event after split
  cases before <;> cases split

theorem eachAfter_append (all : EachAfter fine events) (last : fine events event) :
    EachAfter fine (events ++ [event]) := by
  intro before event after split
  rcases List.eq_nil_or_concat after with none | ⟨rest, final, rfl⟩
  · subst none
    obtain ⟨same, here⟩ := List.append_inj' split rfl
    exact same ▸ List.singleton_inj.mp here ▸ last
  · rw [List.concat_eq_append, ← List.cons_append, ← List.append_assoc] at split
    exact all before event rest (List.append_inj' split rfl).1

theorem eachAfter_append_all {more : List Event} (all : EachAfter fine events)
    (free : ∀ before, ∀ event ∈ more, fine before event) : EachAfter fine (events ++ more) := by
  induction more generalizing events with
  | nil => simpa using all
  | cons event rest ih =>
    have one := eachAfter_append all (free events event List.mem_cons_self)
    simpa using ih one fun before later member =>
      free before later (List.mem_cons_of_mem event member)

end LabelledRuns
