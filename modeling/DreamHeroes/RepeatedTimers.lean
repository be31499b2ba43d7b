import Mathlib.Data.List.Induction

/- Timers that come again every period, up to a number of times or for ever, and are told of the
   time that has gone by in differences of any size. A timer is due in the difference with which
   the time since it was set or fired last reaches the period; what is left over is lost. -/
namespace RepeatedTimers

/-- The time since the last firing, and how often the timer has fired. -/
structure Clock where
  since : Nat
  fired : Nat
  deriving DecidableEq, Repr

def Clock.zero : Clock := ⟨0, 0⟩

/-- The timer is to fire again; with no limit it always is. -/
def Clock.live (limit : Option Nat) (c : Clock) : Bool := limit.all (c.fired < ·)

def Clock.due (period : Nat) (limit : Option Nat) (c : Clock) (difference : Nat) : Bool :=
  c.live limit && period ≤ c.since + difference

def Clock.tick (period : Nat) (limit : Option Nat) (c : Clock) (difference : Nat) : Clock :=
  if c.due period limit difference then ⟨0, c.fired + 1⟩ else ⟨c.since + difference, c.fired⟩

def after (period : Nat) (limit : Option Nat) (differences : List Nat) : Clock :=
  differences.foldl (Clock.tick period limit) .zero

/-- How often the timer fires in each difference. -/
def firings (period : Nat) (limit : Option Nat) : Clock → List Nat → List Nat
  | _, [] => []
  | c, d :: rest => (c.due period limit d).toNat :: firings period limit (c.tick period limit d) rest

variable {period n d : Nat} {limit : Option Nat} {c : Clock} {differences : List Nat}

@[simp] theorem after_nil : after period limit [] = .zero := rfl

@[simp] theorem after_append : after period limit (differences ++ [d]) =
    (after period limit differences).tick period limit d := by
  simp [after]

theorem firings_append : firings period limit c (differences ++ [d]) =
    firings period limit c differences ++
      [((differences.foldl (Clock.tick period limit) c).due period limit d).toNat] := by
  induction differences generalizing c with
  | nil => rfl
  | cons first rest ih => simp only [List.cons_append, firings, ih, List.foldl_cons]

theorem tick_fired : (c.tick period limit d).fired = c.fired + (c.due period limit d).toNat := by
  unfold Clock.tick
  split
  · rename_i due
    simp [due]
  · rename_i early
    simp [early]

/-- A timer that is not to fire any more does not. -/
theorem due_spent (spent : c.live limit = false) : c.due period limit d = false := by
  simp [Clock.due, spent]

theorem live_tick_spent (spent : c.live limit = false) :
    (c.tick period limit d).live limit = false := by
  have same : (c.tick period limit d).fired = c.fired := by
    rw [tick_fired, due_spent spent]
    rfl
  unfold Clock.live at spent ⊢
  rwa [same]

/-- Up to its limit a timer fires as one without a limit does. -/
theorem due_limit (fewer : c.fired < n) : c.due period (some n) d = c.due period none d := by
  simp [Clock.due, Clock.live, fewer]

theorem after_limit (few : (after period none differences).fired ≤ n) :
    after period (some n) differences = after period none differences ∧
      firings period (some n) .zero differences = firings period none .zero differences := by
  induction differences using List.reverseRecOn with
  | nil => exact ⟨rfl, rfl⟩
  | append_singleton rest d ih =>
    rw [after_append, tick_fired] at few
    obtain ⟨same, firing⟩ := ih (by omega)
    have due : (after period none rest).due period (some n) d =
        (after period none rest).due period none d := by
      by_cases below : (after period none rest).fired < n
      · exact due_limit below
      · have early : (after period none rest).due period none d = false := by
          by_contra due
          rw [Bool.not_eq_false] at due
          rw [due, Bool.toNat_true] at few
          omega
        rw [early]
        exact due_spent (by simpa [Clock.live] using below)
    have before : rest.foldl (Clock.tick period (some n)) .zero = after period none rest := same
    have endless : rest.foldl (Clock.tick period none) .zero = after period none rest := rfl
    rw [after_append, after_append, same, firings_append, firings_append, firing, before, endless,
      due]
    refine ⟨?_, rfl⟩
    unfold Clock.tick
    rw [due]

/-- A timer that was due often enough is spent. -/
theorem spent_of_due (many : n ≤ (after period none differences).fired) :
    (after period (some n) differences).live (some n) = false := by
  induction differences using List.reverseRecOn with
  | nil =>
    have none : n = 0 := Nat.le_zero.mp many
    simp [Clock.live, none]
  | append_singleton rest d ih =>
    rw [after_append] at many ⊢
    by_cases already : n ≤ (after period none rest).fired
    · exact live_tick_spent (ih already)
    · rw [Nat.not_le] at already
      have same := (after_limit (Nat.le_of_lt already)).1
      rw [tick_fired, ← due_limit already, ← same, ← tick_fired] at many
      simpa [Clock.live] using many

theorem fired_le_append {more : List Nat} :
    (after period limit differences).fired ≤ (after period limit (differences ++ more)).fired := by
  induction more using List.reverseRecOn with
  | nil => simp
  | append_singleton rest d ih =>
    rw [← List.append_assoc, after_append, tick_fired]
    omega

end RepeatedTimers
