import DreamHeroes.LoginServer
import DreamHeroes.GateServer

/- The login server and its gates, over links that are lost and made again. -/
namespace GateLinks

open ByteWords OrderedMaps ObjMap
open LoginServer (Login GatePtr GateId AccountId TranId GateMessage invalidGateId maxGateId
  RecordsAccounts handle)
open GateServer (Gate)

/- link is a gate's connection as the gate sees it, and toGate what is on its way there. isOpen
   and register are about a connection as the login server sees it: whether it is not closed
   yet, and the accounts with which the gate at its other end registers, until that is handled.
   The id of a gate is the serverid of its configuration, and no two gates share one. -/
structure System where
  login : Login
  gate : GateId → Gate
  link : GateId → Option GatePtr
  toGate : GateId → List GateMessage
  owner : GatePtr → GateId
  isOpen : GatePtr → Bool
  register : GatePtr → Option (OrderedMap AccountId TranId)

/- Each side finds out by itself that a connection is lost. -/
inductive SystemEvent where
  | login (event : LoginServer.Event)
  | gate (i : GateId) (event : GateServer.Event)
  | connect (i : GateId) (p : GatePtr)
  | register (p : GatePtr) (ip : Bytes) (port : Nat)
  | deliver (i : GateId)
  | lose (i : GateId)
  | close (p : GatePtr)

/- These come over the link of a gate and have events of their own. -/
def onLink : LoginServer.Event → Bool
  | .gateRegister _ _ _ _ _ => true
  | .gateClose _ => true
  | _ => false

def fromLogin : GateServer.Event → Bool
  | .addToWait _ _ => true
  | .kickUser _ _ => true
  | _ => false

def receive (g : Gate) : GateMessage → Gate
  | .userLogin t a _ => GateServer.step g (.addToWait t a)
  | .kickUser t a => GateServer.step g (.kickUser t a)

/- What is sent over a connection that its gate has given up is lost. -/
def passedOn (link : Option GatePtr) (orders : List (GatePtr × GateMessage)) : List GateMessage :=
  orders.filterMap fun order => if link = some order.1 then some order.2 else none

namespace System

def setLogin (s : System) (login : Login) : System :=
  { s with
    login := { login with toGates := [] }
    toGate := fun i => s.toGate i ++ passedOn (s.link i) login.toGates }

/- The registration data are those of makeRegisterData at the time of the connect. -/
def connect (s : System) (i : GateId) (p : GatePtr) : System :=
  if invalidGateId < i ∧ i < maxGateId ∧ s.link i = none ∧ s.isOpen p = false ∧
      s.link (s.owner p) ≠ some p then
    { s with
      link := Function.update s.link i (some p)
      owner := Function.update s.owner p i
      isOpen := Function.update s.isOpen p true
      register := Function.update s.register p (some (s.gate i).onlineaccs) }
  else s

def handleRegister (s : System) (p : GatePtr) (ip : Bytes) (port : Nat) : System :=
  match s.register p with
  | some accounts =>
      { s with register := Function.update s.register p none }.setLogin
        (LoginServer.step s.login (.gateRegister p (s.owner p) ip port accounts))
  | none => s

def deliver (s : System) (i : GateId) : System :=
  match s.toGate i with
  | message :: rest =>
      { s with
        gate := Function.update s.gate i (receive (s.gate i) message)
        toGate := Function.update s.toGate i rest }
  | [] => s

def lose (s : System) (i : GateId) : System :=
  { s with
    link := Function.update s.link i none
    toGate := Function.update s.toGate i [] }

def close (s : System) (p : GatePtr) : System :=
  if s.isOpen p then
    { s with
      isOpen := Function.update s.isOpen p false
      register := Function.update s.register p none }.setLogin
        (LoginServer.step s.login (.gateClose p))
  else s

end System

def step (s : System) : SystemEvent → System
  | .login event => if onLink event then s else s.setLogin (LoginServer.step s.login event)
  | .gate i event =>
      if fromLogin event then s
      else { s with gate := Function.update s.gate i (GateServer.step (s.gate i) event) }
  | .connect i p => s.connect i p
  | .register p ip port => s.handleRegister p ip port
  | .deliver i => s.deliver i
  | .lose i => s.lose i
  | .close p => s.close p

def start (gsIdleMax : GateId → Nat) : System where
  login := LoginServer.start
  gate := fun i => GateServer.start (gsIdleMax i)
  link := fun _ => none
  toGate := fun _ => []
  owner := fun _ => 0
  isOpen := fun _ => false
  register := fun _ => none

/- What is on the way to a gate. -/

def about (a : AccountId) : GateMessage → Bool
  | .userLogin _ b _ => b = a
  | .kickUser _ b => b = a

def lastAbout (a : AccountId) (messages : List GateMessage) : Option GateMessage :=
  messages.reverse.find? (about a)

/-- The last thing that the gate will hear about the account is a kick. -/
def Kicked (messages : List GateMessage) (a : AccountId) : Prop :=
  ∃ t, lastAbout a messages = some (.kickUser t a)

section Orders

variable {a : AccountId} {q r : List GateMessage} {message : GateMessage}

theorem lastAbout_append : lastAbout a (q ++ r) = (lastAbout a r).or (lastAbout a q) := by
  simp [lastAbout]

theorem lastAbout_cons : lastAbout a (message :: q) =
    (lastAbout a q).or (if about a message then some message else none) := by
  rw [← List.singleton_append, lastAbout_append]
  simp [lastAbout, List.find?_cons]
  split <;> simp_all

theorem lastAbout_none (unrelated : ∀ message ∈ q, about a message = false) :
    lastAbout a q = none := by
  simp only [lastAbout, List.find?_eq_none, List.mem_reverse, Bool.not_eq_true]
  exact unrelated

/-- Messages about other accounts change nothing. -/
theorem kicked_append_others (unrelated : ∀ message ∈ r, about a message = false) :
    Kicked (q ++ r) a ↔ Kicked q a := by
  simp [Kicked, lastAbout_append, lastAbout_none unrelated]

/-- Nor do more kicks. -/
theorem kicked_append_kicks (kicks : ∀ message ∈ r, ∃ t, message = .kickUser t a)
    (kicked : Kicked q a) : Kicked (q ++ r) a := by
  rw [Kicked, lastAbout_append]
  cases last : lastAbout a r with
  | none => exact kicked
  | some message =>
    have member := List.mem_reverse.mp (List.mem_of_find?_eq_some last)
    obtain ⟨t, rfl⟩ := kicks message member
    exact ⟨t, rfl⟩

theorem kicked_append_kick (t : TranId) : Kicked (q ++ [.kickUser t a]) a := by
  refine ⟨t, ?_⟩
  rw [lastAbout_append]
  simp [lastAbout, about]

example : Kicked [.userLogin 5 9 0, .kickUser 5 9, .userLogin 6 8 0] 9 := ⟨5, by decide⟩

theorem about_others {b : AccountId} (other : b ≠ a) (related : about a message = true) :
    about b message = false := by
  cases message with
  | userLogin t c asked =>
    simp only [about, decide_eq_true_eq, decide_eq_false_iff_not] at related ⊢
    exact related ▸ other.symm
  | kickUser t c =>
    simp only [about, decide_eq_true_eq, decide_eq_false_iff_not] at related ⊢
    exact related ▸ other.symm

theorem mem_passedOn {link : Option GatePtr} {orders : List (GatePtr × GateMessage)} :
    message ∈ passedOn link orders ↔ ∃ p, (p, message) ∈ orders ∧ link = some p := by
  simp [passedOn]

end Orders

theorem kickOrders_kicks {s : Login} {a : AccountId} {order : GatePtr × GateMessage}
    (member : order ∈ s.kickOrders a) : ∃ t, order.2 = .kickUser t a := by
  unfold Login.kickOrders at member
  split at member
  · rename_i account found
    split at member
    · split at member
      · rw [List.mem_singleton] at member
        exact ⟨account.nTranId, by rw [member]⟩
      · cases member
    · cases member
  · cases member

variable {s : System} {a : AccountId}

/-- What the login server does when it tells no gate anything. -/
theorem setLogin_silent {login : Login} (silent : login.toGates = []) :
    s.setLogin login = { s with login := login } := by
  have same : ({ login with toGates := [] } : Login) = login := by rw [← silent]
  simp [System.setLogin, same, silent, passedOn]

/-- What a step of the login server that is not about a gate link does to its links: orders
about one account go out, and only its record may change. -/
structure Told (s login : Login) (a : AccountId) (orders : List (GatePtr × GateMessage)) :
    Prop where
  crashed : login.crashed = s.crashed
  gates : login.gates = s.gates
  gateIds : ∀ p, (login.gateSession p).gateId = (s.gateSession p).gateId
  toGates : login.toGates = s.toGates ++ orders
  others : ∀ b, b ≠ a → getData login.accts b = getData s.accts b

/-- The orders and the record of the account that a finished check can lead to. -/
inductive Admission (s : Login) (n : Nat) (outcome : LoginServer.Outcome) :
    Option LoginServer.Account → List (GatePtr × GateMessage) → Prop where
  | none : Admission s n outcome (getData s.accts outcome.acct) []
  | noGate : Admission s n outcome Option.none (s.kickOrders outcome.acct)
  | given {data : LoginServer.CheckAcct} {g : GatePtr} (t : TranId)
      (task : s.tasks[n]? = some data) (kind : data.checkType = .loginCheck)
      (passes : s.Passes data outcome) (idle : s.getIdleGate = some g) :
      Admission s n outcome (some ⟨t, (s.gateSession g).gateId⟩)
        (s.kickOrders outcome.acct ++ [(g, .userLogin t outcome.acct data.asked)])

theorem told_inside (login : Login) (sessions : LoginServer.SessionPtr →
    LoginServer.UserLoginSession) (nextConnection : LoginServer.Connection)
    (tasks : List LoginServer.CheckAcct) (a : AccountId) :
    Told login { login with
      sessions := sessions
      nextConnection := nextConnection
      tasks := tasks } a [] :=
  ⟨rfl, rfl, fun _ => rfl, (List.append_nil _).symm, fun _ _ => rfl⟩

theorem sendClient_accts (login : Login) (p : LoginServer.SessionPtr)
    (asked : LoginServer.Connection) (message : LoginServer.ClientMessage) :
    (login.sendClient p asked message).accts = login.accts := by
  obtain ⟨log, sent⟩ := login.sendClient_eq p asked message
  rw [sent]

/-- Clients are told without the gates. -/
theorem told_sendClient {login before : Login} {orders : List (GatePtr × GateMessage)}
    (p : LoginServer.SessionPtr) (asked : LoginServer.Connection)
    (message : LoginServer.ClientMessage) (told : Told before login a orders) :
    Told before (login.sendClient p asked message) a orders := by
  obtain ⟨log, sent⟩ := login.sendClient_eq p asked message
  rw [sent]
  exact ⟨told.crashed, told.gates, told.gateIds, told.toGates, told.others⟩

theorem finish_told (s : Login) (n : Nat) (outcome : LoginServer.Outcome)
    (time serverTime : Nat) :
    ∃ orders, Told s (s.finish n outcome time serverTime) outcome.acct orders ∧
      Admission s n outcome (getData (s.finish n outcome time serverTime).accts outcome.acct)
        orders := by
  cases task : s.tasks[n]? with
  | none =>
    simp only [Login.finish, task]
    exact ⟨[], told_inside s _ _ _ outcome.acct, .none⟩
  | some data =>
    have popped := told_inside s s.sessions s.nextConnection (s.tasks.eraseIdx n) outcome.acct
    simp only [Login.finish, task]
    cases kind : data.checkType with
    | loginCheck =>
      have checked := Login.checkAccountCall_checked { s with tasks := s.tasks.eraseIdx n } data
        outcome time serverTime
      have same : ({ s with tasks := s.tasks.eraseIdx n } : Login).getIdleGate = s.getIdleGate :=
        Login.getIdleGate_congr rfl rfl
      generalize Login.checkAccountCall _ _ _ _ _ = login at checked
      cases checked with
      | dropped fails => exact ⟨[], popped, .none⟩
      | refused message fails plain =>
        refine ⟨[], told_sendClient data.ower data.asked message popped, ?_⟩
        rw [sendClient_accts]
        exact .none
      | noGate passes idle =>
        refine ⟨s.kickOrders outcome.acct, told_sendClient data.ower data.asked .loginFail
          ⟨rfl, rfl, fun _ => rfl, rfl, ?_⟩, ?_⟩
        · intro b other
          simp [getData, eraseData, Ne.symm other]
        · rw [sendClient_accts]
          simp only [getData_eraseData, if_pos]
          exact .noGate
      | @given g passes idle =>
        rw [same] at idle
        refine ⟨_, ⟨rfl, rfl, ?_, List.append_assoc _ _ _, ?_⟩, ?_⟩
        · intro p
          by_cases here : p = g
          · simp [here]
          · simp [here]
        · intro b other
          simp [getData, Ne.symm other]
        · simp only [getData, OrderedMap.find?_insert, if_pos]
          exact .given (s.newTransId data time) task kind passes idle
    | newAccCheck =>
      simp only [Login.createNewAccount]
      split
      · split
        · exact ⟨[], told_inside s _ _ _ outcome.acct, .none⟩
        · refine ⟨[], told_sendClient data.ower data.asked .registerAccountFaild popped, ?_⟩
          rw [sendClient_accts]
          exact .none
      · exact ⟨[], popped, .none⟩

/-- The other events of the login server leave its links alone. -/
theorem quiet_told {event : LoginServer.Event} (login : Login) (a : AccountId)
    (inside : onLink event = false) (quiet : RecordsAccounts event = false) :
    Told login (handle login event) a [] := by
  have told := told_inside login login.sessions login.nextConnection login.tasks a
  cases event with
  | arm p =>
    simp only [handle, Login.arm]
    split
    · exact told_inside login _ _ _ a
    · exact told
  | accept p address =>
    simp only [handle, Login.accept]
    split
    · exact told_inside login _ _ _ a
    · exact told
  | disconnect p =>
    simp only [handle, Login.disconnect]
    split
    · exact told_inside login _ _ _ a
    · exact told
  | freeSession p =>
    simp only [handle, Login.freeSession]
    split
    · exact told_inside login _ _ _ a
    · exact told
  | request p checkType str pwd =>
    simp only [handle, Login.checkAccount]
    split
    · exact told_inside login _ _ _ a
    · exact told
  | finish n outcome time serverTime => cases quiet
  | gateRegister g serverid ip port accounts => cases quiet
  | gateOnlines g onlines =>
    refine ⟨rfl, rfl, ?_, told.toGates, told.others⟩
    intro p
    by_cases here : p = g
    · simp [handle, Login.parseGateOnlines, Login.setGateSession, here]
    · simp [handle, Login.parseGateOnlines, Login.setGateSession, here]
  | gateUserPrepar g t asked =>
    simp only [handle, Login.parseGateUserPrepar, Login.receiveUserPrepar]
    split
    · rename_i wait found
      have sent := told_sendClient wait.session asked (.loginSuccess t
        (login.gateSession g).outIp (login.gateSession g).outPort) told
      exact ⟨sent.crashed, sent.gates, sent.gateIds, sent.toGates, sent.others⟩
    · exact told
  | balenceInfo g serverTime =>
    refine ⟨rfl, rfl, ?_, told.toGates, told.others⟩
    intro p
    by_cases here : p = g
    · simp [handle, Login.balenceInfoEvent, Login.setGateSession, here]
    · simp [handle, Login.balenceInfoEvent, Login.setGateSession, here]
  | gateClose g => cases inside

theorem kickOrders_about {login : Login} {order : GatePtr × GateMessage}
    (member : order ∈ login.kickOrders a) : about a order.2 = true := by
  obtain ⟨t, kick⟩ := kickOrders_kicks member
  simp [kick, about]

theorem admission_about {n : Nat} {outcome : LoginServer.Outcome}
    {record : Option LoginServer.Account} {orders : List (GatePtr × GateMessage)}
    (admission : Admission s.login n outcome record orders) :
    ∀ order ∈ orders, about outcome.acct order.2 = true := by
  intro order member
  cases admission with
  | none => cases member
  | noGate => exact kickOrders_about member
  | given t task kind passes idle =>
    rcases List.mem_append.mp member with kick | admitted
    · exact kickOrders_about kick
    · rw [List.mem_singleton.mp admitted]
      simp [about]

theorem passedOn_kicks {login : Login} {link : Option GatePtr} {message : GateMessage}
    (member : message ∈ passedOn link (login.kickOrders a)) : ∃ t, message = .kickUser t a := by
  obtain ⟨p, order, _⟩ := mem_passedOn.mp member
  exact kickOrders_kicks order

end GateLinks
