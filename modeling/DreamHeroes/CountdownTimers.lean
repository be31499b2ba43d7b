/- One-shot timers that count down. An update runs the call of every timer that is due, in
   list order, and drops it; the calls leave the timers alone. -/
namespace CountdownTimers

structure Countdown (Call : Type) where
  call : Call
  left : Nat
  deriving DecidableEq, Repr

variable {Call State : Type}

def update (execute : State → Call → State) (diff : Nat) :
    State → List (Countdown Call) → State × List (Countdown Call)
  | s, [] => (s, [])
  | s, timer :: rest =>
      if timer.left ≤ diff then update execute diff (execute s timer.call) rest
      else
        let later := update execute diff s rest
        (later.1, ⟨timer.call, timer.left - diff⟩ :: later.2)

variable {execute : State → Call → State} {diff : Nat} {s : State}
  {timers : List (Countdown Call)}

theorem mem_update {timer : Countdown Call} :
    timer ∈ (update execute diff s timers).2 ↔
      ∃ old ∈ timers, diff < old.left ∧ timer = ⟨old.call, old.left - diff⟩ := by
  induction timers generalizing s with
  | nil => simp [update]
  | cons first rest ih =>
    unfold update
    split
    · rename_i due
      rw [ih]
      constructor
      · intro ⟨old, member, rest⟩
        exact ⟨old, List.mem_cons_of_mem first member, rest⟩
      · intro ⟨old, member, notDue, same⟩
        rcases List.mem_cons.mp member with rfl | later
        · omega
        · exact ⟨old, later, notDue, same⟩
    · rename_i notDue
      simp only [List.mem_cons, ih]
      constructor
      · intro cases
        rcases cases with same | ⟨old, member, rest⟩
        · exact ⟨first, .inl rfl, by omega, same⟩
        · exact ⟨old, .inr member, rest⟩
      · intro ⟨old, member, later, same⟩
        rcases member with rfl | member
        · exact .inl same
        · exact .inr ⟨old, member, later, same⟩

/-- What the call of every due timer preserves, the update preserves. -/
theorem update_invariant {inv : State → Prop}
    (keep : ∀ s, inv s → ∀ timer ∈ timers, timer.left ≤ diff → inv (execute s timer.call))
    (start : inv s) : inv (update execute diff s timers).1 := by
  induction timers generalizing s with
  | nil => exact start
  | cons first rest ih =>
    have keepRest : ∀ s, inv s → ∀ timer ∈ rest, timer.left ≤ diff →
        inv (execute s timer.call) :=
      fun s held timer member => keep s held timer (List.mem_cons_of_mem first member)
    unfold update
    split
    · rename_i due
      exact ih keepRest (keep s start first List.mem_cons_self due)
    · exact ih keepRest start

/-- What the call of one due timer establishes and no later call undoes holds at the end. -/
theorem update_reaches {goal : State → Prop} {timer : Countdown Call}
    (listed : timer ∈ timers) (due : timer.left ≤ diff)
    (reach : ∀ s, goal (execute s timer.call))
    (keep : ∀ s, goal s → ∀ other ∈ timers, other.left ≤ diff → goal (execute s other.call)) :
    goal (update execute diff s timers).1 := by
  induction timers generalizing s with
  | nil => cases listed
  | cons first rest ih =>
    have keepRest : ∀ s, goal s → ∀ other ∈ rest, other.left ≤ diff →
        goal (execute s other.call) :=
      fun s held other member => keep s held other (List.mem_cons_of_mem first member)
    unfold update
    rcases List.mem_cons.mp listed with here | later
    · subst here
      rw [if_pos due]
      exact update_invariant keepRest (reach s)
    · split
      · exact ih later keepRest
      · exact ih later keepRest

/-- No timer for the call is due within the time. -/
def NotDue (call : Call) (time : Nat) (timers : List (Countdown Call)) : Prop :=
  ∀ timer ∈ timers, timer.call = call → time < timer.left

theorem notDue_append {call : Call} {time : Nat} {new : List (Countdown Call)}
    (later : ∀ timer ∈ new, time < timer.left) :
    NotDue call time (timers ++ new) ↔ NotDue call time timers := by
  constructor
  · intro notDue timer listed
    exact notDue timer (List.mem_append_left new listed)
  · intro notDue timer listed same
    rcases List.mem_append.mp listed with old | added
    · exact notDue timer old same
    · exact later timer added

theorem notDue_update {call : Call} {time : Nat} :
    NotDue call diff timers ∧ NotDue call time (update execute diff s timers).2 ↔
      NotDue call (diff + time) timers := by
  constructor
  · intro ⟨now, after⟩ timer listed same
    have waits := now timer listed same
    have rest := after ⟨timer.call, timer.left - diff⟩ (mem_update.mpr ⟨timer, listed, waits, rfl⟩)
      same
    simp only at rest
    omega
  · intro both
    constructor
    · intro timer listed same
      have waits := both timer listed same
      omega
    · intro timer listed same
      obtain ⟨old, oldListed, waits, shape⟩ := mem_update.mp listed
      subst shape
      have enough := both old oldListed same
      simp only
      omega

end CountdownTimers
