import DreamHeroes.LoginServer
import DreamHeroes.LeastLoaded
import DreamHeroes.EvenLoads

/- How the login server spreads logins over the gates: each goes to a gate with the least count
   of players reported and logins given. -/
namespace GateBalance

open LoginServer LeastLoaded EvenLoads LabelledRuns Finset

variable {s : Login} {g h : GatePtr} {event : Event}

/-- The gates that are in a slot of the table. -/
def gates (s : Login) : List GatePtr := (List.range maxGateId).filterMap s.gates

theorem idleSearch_eq (slots : List GateId) (best : Option GatePtr) :
    s.idleSearch slots best = search s.getBalenceCount 0 (slots.filterMap s.gates) best := by
  induction slots generalizing best with
  | nil => rfl
  | cons i rest ih =>
    cases slot : s.gates i with
    | none => simp only [Login.idleSearch, slot, List.filterMap_cons, ih]
    | some g =>
      cases best with
      | none => simp [Login.idleSearch, slot, search, ih]
      | some k =>
        simp only [Login.idleSearch, slot, List.filterMap_cons, search, gt_iff_lt, Nat.not_lt_zero,
          if_false, ih]

end GateBalance
