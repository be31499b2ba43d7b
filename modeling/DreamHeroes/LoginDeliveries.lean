import DreamHeroes.LoginServer

/- On whose connection the answers of the login server go out. A check that is under way and a
   login that waits for its gate name a session object of the pool, not a connection. The orders
   to the gates that are not answered yet stay in toGates, and a gate may answer them in any
   order or lose them. -/
namespace LoginDeliveries

open LoginServer OrderedMaps ObjMap LabelledRuns

inductive SystemEvent where
  | login (event : Event)
  | answer (i : Nat)
  | lose (i : Nat)

/-- A gate answers every user it is given, and nothing else. -/
def answer (s : Login) (i : Nat) : Login :=
  match s.toGates[i]? with
  | some (g, .userLogin t _ asked) =>
      LoginServer.step { s with toGates := s.toGates.eraseIdx i } (.gateUserPrepar g t asked)
  | some (_, .kickUser _ _) => { s with toGates := s.toGates.eraseIdx i }
  | none => s

def step (s : Login) : SystemEvent → Login
  | .login (.gateUserPrepar _ _ _) => s
  | .login event => LoginServer.step s event
  | .answer i => answer s i
  | .lose i => { s with toGates := s.toGates.eraseIdx i }

/-- Every answer went out on the connection whose request led to it. -/
def Rightful (s : Login) : Prop := ∀ delivery ∈ s.toClients, delivery.on = delivery.asked

/-- A gate has still to answer for the transid. -/
def Ordered (s : Login) (t : TranId) (asked : Connection) : Prop :=
  ∃ g a, (g, .userLogin t a asked) ∈ s.toGates

/-- A session object is accepted again only when no check and no unanswered order leads to it,
and a login gets no transid under which another connection's login waits. -/
def Careful (s : Login) : SystemEvent → Prop
  | .login (.accept p _) => (s.sessions p).phase = .accepting →
      (∀ data ∈ s.tasks, data.ower ≠ p) ∧
        ∀ t asked wait, Ordered s t asked → getData s.waitSessions t = some wait →
          wait.session ≠ p
  | .login (.finish i outcome time _) => ∀ data, s.tasks[i]? = some data →
      data.checkType = .loginCheck → s.Passes data outcome → s.getIdleGate ≠ none →
        (∀ wait, getData s.waitSessions (s.newTransId data time) = some wait →
          wait = ⟨data.ower, data.asked⟩) ∧
        ∀ asked, Ordered s (s.newTransId data time) asked → asked = data.asked
  | _ => True

variable {s s' : Login} {event : SystemEvent}

/-- The invariant of the careful runs. -/
structure Owned (s : Login) : Prop where
  rightful : Rightful s
  tasks : ∀ data ∈ s.tasks, (s.sessions data.ower).connection = data.asked
  waits : ∀ t asked wait, Ordered s t asked → getData s.waitSessions t = some wait →
    wait.asked = asked ∧ (s.sessions wait.session).connection = asked

theorem owned_start : Owned start where
  rightful := by
    intro delivery member
    cases member
  tasks := by
    intro data member
    cases member
  waits := by
    intro t asked wait ⟨g, a, member⟩
    cases member

/-- Fewer tasks, orders and waiting sessions lead to fewer sessions. -/
theorem owned_less (owned : Owned s) (rightful : Rightful s') (tasks : s'.tasks ⊆ s.tasks)
    (orders : s'.toGates ⊆ s.toGates) (waits : ∀ t wait, getData s'.waitSessions t = some wait →
      getData s.waitSessions t = some wait)
    (sessions : ∀ p, (s'.sessions p).connection = (s.sessions p).connection) : Owned s' where
  rightful := rightful
  tasks := by
    intro data member
    rw [sessions]
    exact owned.tasks data (tasks member)
  waits := by
    intro t asked wait ⟨g, a, member⟩ found
    rw [sessions]
    exact owned.waits t asked wait ⟨g, a, orders member⟩ (waits t wait found)

theorem rightful_sendClient {p : SessionPtr} {asked : Connection} (message : ClientMessage)
    (rightful : Rightful s) (own : (s.sessions p).connection = asked) :
    Rightful (s.sendClient p asked message) := by
  unfold Login.sendClient
  split
  · intro delivery member
    rcases List.mem_append.mp member with old | added
    · exact rightful delivery old
    · rw [List.mem_singleton.mp added]
      exact own
  · exact rightful

/-- A message to the connection that asked. -/
theorem owned_sendClient {p : SessionPtr} {asked : Connection} (message : ClientMessage)
    (owned : Owned s) (own : (s.sessions p).connection = asked) :
    Owned (s.sendClient p asked message) := by
  have rightful := rightful_sendClient message owned.rightful own
  obtain ⟨log, sent⟩ := s.sendClient_eq p asked message
  rw [sent] at rightful ⊢
  exact owned_less owned rightful (List.Subset.refl _) (List.Subset.refl _) (fun _ _ => id)
    fun _ => rfl

theorem ordered_append {orders : List (GatePtr × GateMessage)} {t : TranId} {asked : Connection}
    (ordered : Ordered { s with toGates := s.toGates ++ orders } t asked) :
    Ordered s t asked ∨ ∃ g a, (g, .userLogin t a asked) ∈ orders := by
  obtain ⟨g, a, member⟩ := ordered
  rcases List.mem_append.mp member with old | added
  · exact .inl ⟨g, a, old⟩
  · exact .inr ⟨g, a, added⟩

theorem kickOrders_plain (s : Login) (b : AccountId) (g : GatePtr) (t : TranId) (a : AccountId)
    (asked : Connection) : (g, .userLogin t a asked) ∉ s.kickOrders b := by
  unfold Login.kickOrders
  split
  · split
    · split <;> simp
    · simp
  · simp

/-- Kicks lead to no client. -/
theorem owned_kick (owned : Owned s) (a : AccountId) (accts : OrderedMap AccountId Account) :
    Owned { s with toGates := s.toGates ++ s.kickOrders a, accts := accts } where
  rightful := owned.rightful
  tasks := owned.tasks
  waits := by
    rintro t asked wait ⟨g, b, member⟩ found
    rcases List.mem_append.mp member with old | added
    · exact owned.waits t asked wait ⟨g, b, old⟩ found
    · exact absurd added (kickOrders_plain s a g t b asked)

/-- A login that is handed to a gate waits under its transid, unless the same connection's
earlier login does already. -/
theorem owned_given {data : CheckAcct} {t : TranId} {a : AccountId} {g : GatePtr}
    {accts : OrderedMap AccountId Account} {gateSession : GatePtr → GateSession}
    (owned : Owned s) (own : (s.sessions data.ower).connection = data.asked)
    (waiting : ∀ wait, getData s.waitSessions t = some wait → wait = ⟨data.ower, data.asked⟩)
    (ordered : ∀ asked, Ordered s t asked → asked = data.asked) :
    Owned { s with
      toGates := s.toGates ++ [(g, .userLogin t a data.asked)]
      accts := accts
      gateSession := gateSession
      waitSessions := addData s.waitSessions t ⟨data.ower, data.asked⟩ } where
  rightful := owned.rightful
  tasks := owned.tasks
  waits := by
    intro k asked wait orders found
    have entry : k = t → wait = ⟨data.ower, data.asked⟩ := by
      rintro rfl
      rcases getData_addData_some found with old | ⟨_, same⟩
      · exact waiting wait old
      · exact same.symm
    have asks : k = t → asked = data.asked := by
      rintro rfl
      rcases ordered_append orders with old | ⟨_, _, added⟩
      · exact ordered asked old
      · rw [List.mem_singleton] at added
        cases added
        rfl
    by_cases here : k = t
    · rw [entry here, asks here]
      exact ⟨rfl, own⟩
    · have old : getData s.waitSessions k = some wait := by
        rcases getData_addData_some found with old | ⟨same, _⟩
        · exact old
        · exact absurd same.symm here
      rcases ordered_append orders with before | ⟨_, _, added⟩
      · exact owned.waits k asked wait before old
      · rw [List.mem_singleton] at added
        cases added
        exact absurd rfl here

theorem owned_checked {data : CheckAcct} {outcome : Outcome} {time serverTime : Nat}
    (checked : s.Checked data outcome time serverTime s') (owned : Owned s)
    (own : (s.sessions data.ower).connection = data.asked)
    (careful : s.Passes data outcome → s.getIdleGate ≠ none →
      (∀ wait, getData s.waitSessions (s.newTransId data time) = some wait →
        wait = ⟨data.ower, data.asked⟩) ∧
      ∀ asked, Ordered s (s.newTransId data time) asked → asked = data.asked) : Owned s' := by
  cases checked with
  | dropped fails => exact owned
  | refused message fails plain => exact owned_sendClient message owned own
  | noGate passes none => exact owned_sendClient .loginFail (owned_kick owned outcome.acct _) own
  | @given g passes idle =>
    have there : s.getIdleGate ≠ none := by
      rw [idle]
      exact Option.some_ne_none g
    obtain ⟨waiting, ordered⟩ := careful passes there
    have kicked := owned_kick owned outcome.acct s.accts
    apply owned_given kicked own waiting
    intro asked orders
    rcases ordered_append orders with before | ⟨h, b, added⟩
    · exact ordered asked before
    · exact absurd added (kickOrders_plain s outcome.acct h _ b asked)

theorem owned_finish {i : Nat} {outcome : Outcome} {time serverTime : Nat} (owned : Owned s)
    (careful : Careful s (.login (.finish i outcome time serverTime))) :
    Owned (s.finish i outcome time serverTime) := by
  cases found : s.tasks[i]? with
  | none =>
    simp only [Login.finish, found]
    exact owned
  | some data =>
    have own := owned.tasks data (List.mem_of_getElem? found)
    have popped : Owned { s with tasks := s.tasks.eraseIdx i } :=
      owned_less owned owned.rightful List.eraseIdx_subset (List.Subset.refl _) (fun _ _ => id)
        fun _ => rfl
    simp only [Login.finish, found]
    cases kind : data.checkType with
    | loginCheck =>
      have checked := Login.checkAccountCall_checked { s with tasks := s.tasks.eraseIdx i } data
        outcome time serverTime
      apply owned_checked checked popped own
      intro passes idle
      have same : ({ s with tasks := s.tasks.eraseIdx i } : Login).getIdleGate = s.getIdleGate :=
        Login.getIdleGate_congr rfl rfl
      rw [same] at idle
      exact careful data found kind passes idle
    | newAccCheck =>
      simp only [Login.createNewAccount]
      split
      · split
        · refine ⟨popped.rightful, ?_, popped.waits⟩
          intro other member
          rcases List.mem_append.mp member with old | added
          · exact popped.tasks other old
          · rw [List.mem_singleton.mp added]
            exact own
        · exact owned_sendClient _ popped own
      · exact popped

theorem owned_accept {p : SessionPtr} {address : ByteWords.Bytes} (owned : Owned s)
    (careful : Careful s (.login (.accept p address))) : Owned (s.accept p address) := by
  unfold Login.accept
  split
  · rename_i accepting
    obtain ⟨tasks, waits⟩ := careful accepting
    refine ⟨owned.rightful, ?_, ?_⟩
    · intro data member
      simp only [Login.setSession, Function.update_of_ne (tasks data member)]
      exact owned.tasks data member
    · intro t asked wait ordered found
      simp only [Login.setSession, Function.update_of_ne (waits t asked wait ordered found)]
      exact owned.waits t asked wait ordered found
  · exact owned

theorem owned_setSession {p : SessionPtr} {session : UserLoginSession} (owned : Owned s)
    (same : session.connection = (s.sessions p).connection) : Owned (s.setSession p session) := by
  have sessions : ∀ q, ((s.setSession p session).sessions q).connection =
      (s.sessions q).connection := by
    intro q
    by_cases here : q = p
    · subst here
      simpa [Login.setSession] using same
    · simp [Login.setSession, here]
  exact owned_less owned owned.rightful (List.Subset.refl _) (List.Subset.refl _)
    (fun _ _ => id) sessions

theorem owned_request {p : SessionPtr} {checkType : CheckType} {str pwd : ByteWords.Bytes}
    (owned : Owned s) : Owned (s.checkAccount str pwd p checkType) := by
  unfold Login.checkAccount
  split
  · refine ⟨owned.rightful, ?_, owned.waits⟩
    intro data member
    rcases List.mem_append.mp member with old | added
    · exact owned.tasks data old
    · rw [List.mem_singleton.mp added]
  · exact owned

theorem owned_handle {event : Event} (owned : Owned s) (careful : Careful s (.login event))
    (prepared : ∀ g t asked, event ≠ .gateUserPrepar g t asked) : Owned (handle s event) := by
  cases event with
  | arm p =>
    simp only [handle, Login.arm]
    split
    · exact owned_setSession owned rfl
    · exact owned
  | accept p address => exact owned_accept owned careful
  | disconnect p =>
    simp only [handle, Login.disconnect]
    split
    · exact owned_setSession owned rfl
    · exact owned
  | freeSession p =>
    simp only [handle, Login.freeSession]
    split
    · exact owned_setSession owned rfl
    · exact owned
  | request p checkType str pwd => exact owned_request owned
  | finish i outcome time serverTime => exact owned_finish owned careful
  | gateRegister g serverid ip port accounts =>
    obtain ⟨gates, gateSession, accts, crashed, registered⟩ :=
      s.parseGateRegister_eq g serverid ip port accounts.entries
    rw [handle, registered]
    exact ⟨owned.rightful, owned.tasks, owned.waits⟩
  | gateUserPrepar g t asked => exact absurd rfl (prepared g t asked)
  | gateOnlines g onlines => exact ⟨owned.rightful, owned.tasks, owned.waits⟩
  | balenceInfo g serverTime => exact ⟨owned.rightful, owned.tasks, owned.waits⟩
  | gateClose g =>
    simp only [handle, Login.removeGate]
    split
    · exact ⟨owned.rightful, owned.tasks, owned.waits⟩
    · exact owned

/-- The gate answers for the connection that waits. -/
theorem owned_answer {i : Nat} (owned : Owned s) : Owned (answer s i) := by
  have fewer : Owned { s with toGates := s.toGates.eraseIdx i } :=
    owned_less owned owned.rightful (List.Subset.refl _) List.eraseIdx_subset (fun _ _ => id)
      fun _ => rfl
  unfold answer
  split
  · rename_i g t a asked order
    have ordered : Ordered s t asked := ⟨g, a, List.mem_of_getElem? order⟩
    simp only [LoginServer.step, handle, Login.parseGateUserPrepar, Login.receiveUserPrepar]
    split
    · exact fewer
    · split
      · rename_i wait found
        have own := (owned.waits t asked wait ordered found).2
        have sent := owned_sendClient (.loginSuccess t (s.gateSession g).outIp
          (s.gateSession g).outPort) fewer own
        exact owned_less sent sent.rightful (List.Subset.refl _) (List.Subset.refl _)
          (fun _ _ => getData_of_eraseData) fun _ => rfl
      · exact fewer
  · exact fewer
  · exact owned

theorem owned_step (owned : Owned s) (careful : Careful s event) : Owned (step s event) := by
  cases event with
  | login event =>
    by_cases prepared : ∃ g t asked, event = .gateUserPrepar g t asked
    · obtain ⟨g, t, asked, rfl⟩ := prepared
      exact owned
    · have moved : step s (.login event) = LoginServer.step s event := by
        cases event with
        | gateUserPrepar g t asked => exact absurd ⟨g, t, asked, rfl⟩ prepared
        | _ => rfl
      rw [moved, LoginServer.step]
      split
      · exact owned
      · apply owned_handle owned careful
        intro g t asked same
        exact prepared ⟨g, t, asked, same⟩
  | answer i => exact owned_answer owned
  | lose i =>
    exact owned_less owned owned.rightful (List.Subset.refl _) List.eraseIdx_subset
      (fun _ _ => id) fun _ => rfl

/-- In every careful run every answer reaches the connection that asked for it, or nobody. -/
theorem answers_reach_asker (events : List SystemEvent)
    (careful : EveryStep step Careful start events) : EveryState step Rightful start events :=
  everyState_imp (fun _ owned => owned.rightful)
    (everyState_of_everyStep (fun _ _ => owned_step) owned_start careful)

/-- A client logs in at gate 1 and leaves while the gate prepares for it. -/
def leavesEarly : List SystemEvent := [.login (.gateRegister 0 1 [] 0 .empty),
  .login (.arm 7), .login (.accept 7 [49]), .login (.request 7 .loginCheck [97] [98]),
  .login (.finish 0 ⟨true, 9, 0⟩ 1000 0), .login (.disconnect 7), .login (.freeSession 7)]

theorem answers_reach_asker_leaves :
    EveryState step Rightful start (leavesEarly ++ [.answer 0]) := by
  apply answers_reach_asker
  refine ⟨trivial, trivial, ?_, trivial, ?_, trivial, trivial, trivial, trivial⟩
  · intro _
    constructor
    · intro data member
      cases member
    · intro t asked wait ⟨g, a, member⟩
      cases member
  · intro data _ _ _ _
    constructor
    · intro wait found
      cases found
    · intro asked ⟨g, a, member⟩
      cases member

/-- The next client gets the session object, and the gate's answer with the transid of the
one that left. -/
theorem next_client_gets_transId :
    ¬ EveryState step Rightful start (leavesEarly ++ [.login (.arm 7), .login (.accept 7 [50]),
      .answer 0]) := by
  intro all
  have rightful := everyState_last all
  have wrong := rightful ⟨1, 0, .loginSuccess 4239645507 [] 0⟩ (by decide +kernel)
  cases wrong

end LoginDeliveries
