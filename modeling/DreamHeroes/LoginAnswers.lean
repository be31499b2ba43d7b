import DreamHeroes.LoginDeliveries
import DreamHeroes.RunTotals
import Mathlib.Data.List.Perm.Basic

/- How many answers the login server gives to the requests of a connection: a request is a check
that is under way, then an order to a gate, then an answer, and each of them once. -/
namespace LoginAnswers

open LoginServer hiding step
open LoginDeliveries LabelledRuns RunTotals

variable {s : Login} {c : Connection}

/-- The answers to requests of the connection. -/
def answers (c : Connection) (s : Login) : Nat := s.toClients.countP (·.asked = c)

def checks (c : Connection) (s : Login) : Nat := s.tasks.countP (·.asked = c)

/-- The gate is to answer for the connection. -/
def orderOf (c : Connection) (order : GatePtr × GateMessage) : Bool :=
  match order.2 with
  | .userLogin _ _ asked => asked = c
  | .kickUser _ _ => false

def orders (c : Connection) (s : Login) : Nat := s.toGates.countP (orderOf c)

/-- The connection makes a request. -/
def asks (c : Connection) (s : Login) : SystemEvent → Nat
  | .login (.request p _ _ _) =>
      if s.crashed = false ∧ (s.sessions p).phase = .connected ∧ (s.sessions p).connection = c
      then 1 else 0
  | _ => 0

/-- What the requests of the connection have come to. -/
def measure (c : Connection) (s : Login) : Nat := answers c s + checks c s + orders c s

end LoginAnswers
