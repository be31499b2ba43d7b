import Mathlib.Algebra.BigOperators.Ring.Finset
import Mathlib.Algebra.Order.BigOperators.Group.Finset
import Mathlib.Tactic.Ring

/- Loads that are handed out one at a time, each to an item that has least. -/
namespace EvenLoads

open Finset

variable {A : Type}

variable {slack : Nat} {load : A → Nat} {items : Set A} {a : A}

end EvenLoads
