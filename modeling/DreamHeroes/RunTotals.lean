import DreamHeroes.LabelledRuns

/- What the steps of a run add up to, and quantities that grow by no more. -/
namespace RunTotals

open LabelledRuns

variable {State Event : Type} {step : State → Event → State} {weight : State → Event → Nat}
  {measure : State → Nat} {s : State}

/-- The weights of the steps, each in the state it is taken from. -/
def total (step : State → Event → State) (weight : State → Event → Nat) : State → List Event → Nat
  | _, [] => 0
  | s, event :: rest => weight s event + total step weight (step s event) rest

end RunTotals
