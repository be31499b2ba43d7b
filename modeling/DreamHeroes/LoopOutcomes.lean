import Mathlib.Algebra.Group.Int.Defs
import Mathlib.Algebra.Group.Nat.Defs

/- What a call or a number of turns of a loop comes to. A fault is undefined behaviour or an
   exception; nothing is said of what follows it. -/
namespace LoopOutcomes

inductive Outcome (α : Type) where
  | fault
  | running
  | done (result : α)
  deriving DecidableEq, Repr

namespace Outcome

variable {α β : Type} {first : Outcome α} {next : α → Outcome β} {a : α} {b : β}

def bind (first : Outcome α) (next : α → Outcome β) : Outcome β :=
  match first with
  | .fault => .fault
  | .running => .running
  | .done result => next result

@[simp] theorem done_bind : (Outcome.done a).bind next = next a := rfl

theorem bind_eq_done : first.bind next = .done b ↔ ∃ a, first = .done a ∧ next a = .done b := by
  cases first <;> simp [bind]

end Outcome

/-- The value of an expression of type int, whose overflow is undefined. -/
def int (value : Int) : Outcome Int :=
  if -2 ^ 31 ≤ value ∧ value < 2 ^ 31 then .done value else .fault

theorem int_natCast {n : Nat} (small : n < 2 ^ 31) : int n = .done (n : Int) := by
  rw [int, if_pos]
  omega

theorem int_fault {value : Int} (large : 2 ^ 31 ≤ value) : int value = .fault := by
  rw [int, if_neg]
  omega

/-- Every form of a loop ends, and with the same result. -/
def Agree {Form α : Type} (loop : Form → Nat → Outcome α) : Prop :=
  ∃ result, ∀ form, ∃ turns, loop form turns = .done result

end LoopOutcomes
