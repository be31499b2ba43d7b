import DreamHeroes.GateLinks
import DreamHeroes.GateMaps
import DreamHeroes.PastSteps

/- Which players a gate lets onto its game servers: those whose account the login server has
   checked, under the transid it made for that check. -/
namespace GateAdmissions

open GateLinks OrderedMaps ObjMap LabelledRuns PastSteps
open LoginServer (Login GatePtr GateId AccountId TranId GateMessage RecordsAccounts handle)
open GateServer (Gate SessionPtr ClientPtr GameMessage TimerCall)

structure Grant where
  gate : GateId
  transid : TranId
  account : AccountId

/-- The step finishes a check that admits the account, makes the transid for it and hands both
to the gate. -/
def Grants (s : System) (event : SystemEvent) (grant : Grant) : Prop :=
  ∃ n outcome time serverTime data p,
    event = .login (.finish n outcome time serverTime) ∧ s.login.tasks[n]? = some data ∧
      data.checkType = .loginCheck ∧ s.login.Passes data outcome ∧
      grant.account = outcome.acct ∧ grant.transid = s.login.newTransId data time ∧
      s.login.getIdleGate = some p ∧ s.link grant.gate = some p

/- The gate: a user is added from m_wait_map or from m_onlineaccs. -/

section Gates

variable {g h : Gate} {c : ClientPtr} {t : TranId} {a : AccountId}

/-- The gate has told a game server of the user. -/
def Added (g : Gate) (c : ClientPtr) (t : TranId) (a : AccountId) : Prop :=
  (c, .addUser t a) ∈ g.sent

theorem added_send {client : Option ClientPtr} {message : GameMessage}
    (added : Added (h.send client message) c t a) (same : h.sent = g.sent) :
    Added g c t a ∨ message = .addUser t a := by
  cases client with
  | none =>
    rw [Added, ← same]
    exact .inl added
  | some d =>
    rcases List.mem_append.mp added with old | new
    · rw [Added, ← same]
      exact .inl old
    · rw [List.mem_singleton, Prod.mk.injEq] at new
      exact .inr new.2.symm

/-- Any other message adds no user. -/
theorem added_of_send {client : Option ClientPtr} {message : GameMessage}
    (added : Added (h.send client message) c t a) (same : h.sent = g.sent)
    (plain : ∀ t a, message ≠ .addUser t a) : Added g c t a := by
  rcases added_send added same with old | new
  · exact old
  · exact absurd new (plain t a)

theorem setState_sent (p : SessionPtr) (state : GateServer.SessionState) :
    (g.setState p state).sent = g.sent := by
  cases state <;> rfl

theorem added_kickUser {k : TranId} {b : AccountId} (added : Added (g.kickUser k b) c t a) :
    Added g c t a := by
  unfold Gate.kickUser at added
  split at added
  · exact added_of_send added rfl (by simp)
  · simp only at added
    split at added
    · exact added_of_send added rfl (by simp)
    · exact added

theorem added_addToWait {k : TranId} {b : AccountId} (added : Added (g.addToWait k b) c t a) :
    Added g c t a := by
  unfold Gate.addToWait at added
  simp only at added
  split at added
  · exact added_kickUser added
  · exact added

theorem added_onClose {p : SessionPtr} (added : Added (g.onClose p) c t a) : Added g c t a := by
  unfold Gate.onClose Gate.checkClose Added at added
  rw [setState_sent] at added
  simp only [Gate.addEvent] at added
  split at added
  · exact added_of_send added rfl (by simp)
  · exact added_of_send added rfl (by simp)

theorem added_execute {call : TimerCall} (added : Added (g.execute call) c t a) :
    Added g c t a := by
  cases call with
  | removeWait k => exact added
  | removeReconn k =>
    simp only [Gate.execute, Gate.eventCallRemoveReconn] at added
    split at added
    · exact added_of_send added rfl (by simp)
    · exact added

theorem added_tick {diff : Nat} (added : Added (g.tick diff) c t a) : Added g c t a := by
  apply Gate.tick_invariant (fun h => Added h c t a → Added g c t a) _ _ id added
  · intro h events before
    exact before
  · intro h before timer _ _ after
    exact before (added_execute after)

theorem added_parseLoginGame {p : SessionPtr} {k : TranId}
    (added : Added (g.parseLoginGame p k) c t a) :
    Added g c t a ∨ getData g.waitMap t = some a := by
  unfold Gate.parseLoginGame at added
  split at added
  · exact .inl added
  · have told : Added (g.checkConn k p).2 c t a := by
      split at added
      · rename_i after found
        rw [found]
        exact added
      · rename_i after found
        rw [found]
        exact added
    unfold Gate.checkConn at told
    split at told
    · rename_i v waiting
      simp only at told
      split at told
      · exact .inl told
      · rcases added_send told rfl with old | same
        · exact .inl old
        · cases same
          exact .inr waiting
    · split at told
      · exact .inl told
      · exact .inl told

theorem recorded_getAccount (known : g.getAccount t ≠ GateServer.invalidAccount) :
    getData g.onlineaccs (g.getAccount t) = some t := by
  unfold Gate.getAccount getKey at known ⊢
  cases found : g.onlineaccs.entries.find? fun entry => entry.2 = t with
  | none =>
    rw [found] at known
    exact absurd rfl known
  | some entry =>
    have member := List.mem_of_find?_eq_some found
    have value : entry.2 = t := by simpa using List.find?_some found
    simp only [Option.map_some, Option.getD_some]
    rw [getData, OrderedMap.find?_eq_some]
    rw [← value]
    exact member

theorem added_parseChangeGS {d : ClientPtr} {gameserverid : Nat} {flag : TranId}
    (added : Added (g.parseChangeGS d gameserverid flag) c t a) :
    Added g c t a ∨ getData g.onlineaccs a = some t := by
  unfold Gate.parseChangeGS at added
  split at added
  · exact .inl added
  · simp only at added
    split at added
    · exact .inl added
    · rename_i p online client pkNew found
      split at added
      · rename_i known
        rcases added_send added rfl with before | same
        · exact .inl (added_of_send before rfl (by simp))
        · cases same
          exact .inr (recorded_getAccount known)
      · exact .inl (added_of_send added rfl (by simp))

theorem added_step {event : GateServer.Event} (added : Added (GateServer.step g event) c t a) :
    Added g c t a ∨ getData g.waitMap t = some a ∨ getData g.onlineaccs a = some t := by
  cases event with
  | accept p =>
    simp only [GateServer.step] at added
    split at added
    · exact .inl added
    · exact .inl added
  | loginGame p k =>
    simp only [GateServer.step] at added
    split at added
    · exact .inl added
    · rcases added_parseLoginGame added with old | waiting
      · exact .inl old
      · exact .inr (.inl waiting)
  | gameMsg p =>
    simp only [GateServer.step] at added
    split at added
    · exact .inl added
    · exact .inl (added_of_send added rfl (by simp))
  | close p => exact .inl (added_onClose added)
  | addToWait k b => exact .inl (added_addToWait added)
  | kickUser k b => exact .inl (added_kickUser added)
  | tick diff => exact .inl (added_tick added)
  | gameRegister d serverid =>
    simp only [GateServer.step, Gate.parseGameRegister] at added
    split at added
    · exact .inl added
    · exact .inl added
  | gameOnlines d onlines => exact .inl added
  | changeGS d gameserverid flag =>
    rcases added_parseChangeGS added with old | recorded
    · exact .inl old
    · exact .inr (.inr recorded)
  | gameClose d =>
    by_cases frees : g.FreesSlot d (g.clients d).gameId
    · rw [GateServer.step, Gate.removeActiveGameClient_frees frees] at added
      exact .inl added
    · rw [GateServer.step, Gate.removeActiveGameClient_other frees] at added
      exact .inl added

end Gates

/- The login server: only a check that passes hands a user to a gate. -/

section Orders

variable {s : Login} {p : GatePtr} {t : TranId} {a : AccountId} {asked : LoginServer.Connection}

/-- A user is to be given to the gate. -/
def Ordered (orders : List (GatePtr × GateMessage)) (p : GatePtr) (t : TranId) (a : AccountId) :
    Prop :=
  ∃ asked, (p, .userLogin t a asked) ∈ orders

theorem sendClient_toGates (s : Login) (q : LoginServer.SessionPtr)
    (asked : LoginServer.Connection) (message : LoginServer.ClientMessage) :
    (s.sendClient q asked message).toGates = s.toGates := by
  obtain ⟨log, sent⟩ := s.sendClient_eq q asked message
  rw [sent]

theorem ordered_kicks {b : AccountId} (ordered : Ordered (s.toGates ++ s.kickOrders b) p t a) :
    Ordered s.toGates p t a := by
  obtain ⟨asked, member⟩ := ordered
  rcases List.mem_append.mp member with old | kick
  · exact ⟨asked, old⟩
  · obtain ⟨k, same⟩ := kickOrders_kicks kick
    cases same

theorem ordered_finish {n : Nat} {outcome : LoginServer.Outcome} {time serverTime : Nat}
    (ordered : Ordered (s.finish n outcome time serverTime).toGates p t a) :
    Ordered s.toGates p t a ∨
      ∃ data, s.tasks[n]? = some data ∧ data.checkType = .loginCheck ∧ s.Passes data outcome ∧
        a = outcome.acct ∧ t = s.newTransId data time ∧ s.getIdleGate = some p := by
  cases task : s.tasks[n]? with
  | none =>
    simp only [Login.finish, task] at ordered
    exact .inl ordered
  | some data =>
    simp only [Login.finish, task] at ordered
    cases kind : data.checkType with
    | newAccCheck =>
      simp only [kind, Login.createNewAccount] at ordered
      split at ordered
      · split at ordered
        · exact .inl ordered
        · rw [sendClient_toGates] at ordered
          exact .inl ordered
      · exact .inl ordered
    | loginCheck =>
      simp only [kind] at ordered
      have checked := Login.checkAccountCall_checked { s with tasks := s.tasks.eraseIdx n } data
        outcome time serverTime
      have idle : ({ s with tasks := s.tasks.eraseIdx n } : Login).getIdleGate = s.getIdleGate :=
        Login.getIdleGate_congr rfl rfl
      generalize Login.checkAccountCall _ _ _ _ _ = after at checked ordered
      cases checked with
      | dropped fails => exact .inl ordered
      | refused message fails plain =>
        rw [sendClient_toGates] at ordered
        exact .inl ordered
      | noGate passes none =>
        rw [sendClient_toGates] at ordered
        exact .inl (ordered_kicks ordered)
      | given passes found =>
        obtain ⟨asked, member⟩ := ordered
        rcases List.mem_append.mp member with old | new
        · exact .inl (ordered_kicks ⟨asked, old⟩)
        · rw [List.mem_singleton] at new
          cases new
          exact .inr ⟨data, rfl, kind, passes, rfl, rfl, idle ▸ found⟩

theorem ordered_step {event : LoginServer.Event}
    (ordered : Ordered (LoginServer.step s event).toGates p t a) : Ordered s.toGates p t a ∨
      ∃ n outcome time serverTime data, event = .finish n outcome time serverTime ∧
        s.tasks[n]? = some data ∧ data.checkType = .loginCheck ∧ s.Passes data outcome ∧
          a = outcome.acct ∧ t = s.newTransId data time ∧ s.getIdleGate = some p := by
  unfold LoginServer.step at ordered
  split at ordered
  · exact .inl ordered
  · cases link : onLink event with
    | true =>
      cases event with
      | gateRegister g serverid ip port accounts =>
        obtain ⟨_, _, _, _, registered⟩ :=
          Login.parseGateRegister_eq s g serverid ip port accounts.entries
        rw [handle, registered] at ordered
        exact .inl ordered
      | gateClose g =>
        simp only [handle, Login.removeGate] at ordered
        split at ordered
        · exact .inl ordered
        · exact .inl ordered
      | _ => cases link
    | false =>
      cases quiet : RecordsAccounts event with
      | false =>
        have told := quiet_told s a link quiet
        rw [told.toGates, List.append_nil] at ordered
        exact .inl ordered
      | true =>
        cases event with
        | finish n outcome time serverTime =>
          rcases ordered_finish ordered with old | ⟨data, given⟩
          · exact .inl old
          · exact .inr ⟨n, outcome, time, serverTime, data, rfl, given⟩
        | gateRegister g serverid ip port accounts => cases link
        | _ => cases quiet

end Orders

/- The invariant. -/

/-- What is on its way to a gate, and what the gate keeps and has sent, is known. -/
structure Backed (known : Grant → Prop) (s : System) : Prop where
  drained : s.login.toGates = []
  ordered : ∀ i t a asked, .userLogin t a asked ∈ s.toGate i → known ⟨i, t, a⟩
  waits : ∀ i t a, getData (s.gate i).waitMap t = some a → known ⟨i, t, a⟩
  recorded : ∀ i t a, getData (s.gate i).onlineaccs a = some t → known ⟨i, t, a⟩
  added : ∀ i c t a, Added (s.gate i) c t a → known ⟨i, t, a⟩

variable {known : Grant → Prop} {s : System} {event : SystemEvent}

theorem backed_start (gsIdleMax : GateId → Nat) : Backed known (start gsIdleMax) where
  drained := rfl
  ordered := by
    intro i t a asked member
    cases member
  waits := by
    intro i t a found
    cases found
  recorded := by
    intro i t a found
    cases found
  added := by
    intro i c t a member
    cases member

theorem backed_more {known' : Grant → Prop} (more : ∀ grant, known grant → known' grant)
    (backed : Backed known s) : Backed known' s where
  drained := backed.drained
  ordered i t a asked member := more _ (backed.ordered i t a asked member)
  waits i t a found := more _ (backed.waits i t a found)
  recorded i t a found := more _ (backed.recorded i t a found)
  added i c t a member := more _ (backed.added i c t a member)

/-- A step of a gate takes users from what it keeps, but for the order it is handed. -/
theorem backed_gate {i : GateId} {message : GateServer.Event} (backed : Backed known s)
    (handed : ∀ t a, message = .addToWait t a → known ⟨i, t, a⟩) :
    Backed known { s with
      gate := Function.update s.gate i (GateServer.step (s.gate i) message) } where
  drained := backed.drained
  ordered := backed.ordered
  waits := by
    intro j t a found
    by_cases here : j = i
    · subst here
      simp only [Function.update_self] at found
      rcases GateMaps.waitMap_turn (GateServer.step_turn _ _) found with old | same
      · exact backed.waits j t a old
      · exact handed t a same
    · simp only [Function.update_of_ne here] at found
      exact backed.waits j t a found
  recorded := by
    intro j t a found
    by_cases here : j = i
    · subst here
      simp only [Function.update_self] at found
      rcases GateMaps.onlineaccs_turn (GateServer.step_turn _ _) found with old | waiting
      · exact backed.recorded j t a old
      · exact backed.waits j t a waiting
    · simp only [Function.update_of_ne here] at found
      exact backed.recorded j t a found
  added := by
    intro j c t a told
    by_cases here : j = i
    · subst here
      simp only [Function.update_self] at told
      rcases added_step told with old | waiting | recorded
      · exact backed.added j c t a old
      · exact backed.waits j t a waiting
      · exact backed.recorded j t a recorded
    · simp only [Function.update_of_ne here] at told
      exact backed.added j c t a told

/-- A step of the login server whose orders are known where they go. -/
theorem backed_setLogin {login : Login} (backed : Backed known s)
    (given : ∀ i p t a, s.link i = some p → Ordered login.toGates p t a → known ⟨i, t, a⟩) :
    Backed known (s.setLogin login) where
  drained := rfl
  ordered := by
    intro i t a asked member
    rcases List.mem_append.mp member with old | new
    · exact backed.ordered i t a asked old
    · obtain ⟨p, order, link⟩ := mem_passedOn.mp new
      exact given i p t a link ⟨asked, order⟩
  waits := backed.waits
  recorded := backed.recorded
  added := backed.added

/-- An event of a gate's link hands no user to a gate. -/
theorem none_ordered {login : LoginServer.Event} {p : GatePtr} {t : TranId} {a : AccountId}
    (backed : Backed known s) (link : onLink login = true)
    (ordered : Ordered (LoginServer.step s.login login).toGates p t a) : False := by
  rcases ordered_step ordered with old | ⟨n, outcome, time, serverTime, data, same, _⟩
  · rw [backed.drained] at old
    obtain ⟨asked, member⟩ := old
    cases member
  · rw [same] at link
    cases link

theorem backed_deliver {i : GateId} (backed : Backed known s) : Backed known (s.deliver i) := by
  unfold System.deliver
  split
  · rename_i message rest queue
    have first : message ∈ s.toGate i := queue ▸ List.mem_cons_self
    have received : Backed known { s with
        gate := Function.update s.gate i (receive (s.gate i) message) } := by
      cases message with
      | userLogin t a asked =>
        rw [receive]
        apply backed_gate backed
        intro k b same
        cases same
        exact backed.ordered i t a asked first
      | kickUser t a =>
        rw [receive]
        apply backed_gate backed
        intro k b same
        cases same
    refine ⟨received.drained, ?_, received.waits, received.recorded, received.added⟩
    intro j t a asked member
    apply backed.ordered j t a asked
    by_cases here : j = i
    · subst here
      rw [queue]
      simp only [Function.update_self] at member
      exact List.mem_cons_of_mem message member
    · simpa only [Function.update_of_ne here] using member
  · exact backed

theorem backed_step (granted : ∀ grant, Grants s event grant → known grant)
    (backed : Backed known s) : Backed known (step s event) := by
  cases event with
  | login event =>
    simp only [step]
    split
    · exact backed
    · apply backed_setLogin backed
      intro i p t a link ordered
      rcases ordered_step ordered with old | given
      · rw [backed.drained] at old
        obtain ⟨asked, member⟩ := old
        cases member
      · obtain ⟨n, outcome, time, serverTime, data, same, task, kind, passes, account, made,
          idle⟩ := given
        exact granted ⟨i, t, a⟩ ⟨n, outcome, time, serverTime, data, p, by rw [same], task, kind,
          passes, account, made, idle, link⟩
  | gate i message =>
    simp only [step]
    split
    · exact backed
    · rename_i inside
      apply backed_gate backed
      intro t a same
      rw [same] at inside
      exact absurd rfl inside
  | connect i p =>
    simp only [step, System.connect]
    split
    · exact ⟨backed.drained, backed.ordered, backed.waits, backed.recorded, backed.added⟩
    · exact backed
  | register p ip port =>
    simp only [step, System.handleRegister]
    split
    · apply backed_setLogin
      · exact ⟨backed.drained, backed.ordered, backed.waits, backed.recorded, backed.added⟩
      · intro i q t a _ ordered
        exact absurd ordered (none_ordered backed rfl)
    · exact backed
  | deliver i => exact backed_deliver backed
  | lose i =>
    refine ⟨backed.drained, ?_, backed.waits, backed.recorded, backed.added⟩
    intro j t a asked member
    by_cases here : j = i
    · subst here
      simp [step, System.lose] at member
    · simp only [step, System.lose, Function.update_of_ne here] at member
      exact backed.ordered j t a asked member
  | close p =>
    simp only [step, System.close]
    split
    · apply backed_setLogin
      · exact ⟨backed.drained, backed.ordered, backed.waits, backed.recorded, backed.added⟩
      · intro i q t a _ ordered
        exact absurd ordered (none_ordered backed rfl)
    · exact backed

/-- Whatever the clients send and the links lose, a gate adds a user at a game server only for
an account that the login server has checked, under the transid it made then, and given to this
gate. -/
theorem users_granted (gsIdleMax : GateId → Nat) (events : List SystemEvent) (i : GateId)
    (c : ClientPtr) (t : TranId) (a : AccountId)
    (told : (c, .addUser t a) ∈ ((run step (start gsIdleMax) events).gate i).sent) :
    Brought step Grants (start gsIdleMax) events ⟨i, t, a⟩ := by
  have backed : Backed (Brought step Grants (start gsIdleMax) events)
      (run step (start gsIdleMax) events) := by
    apply backed_run
    · intro known known' s more
      exact backed_more more
    · intro known s event granted
      exact backed_step granted
    · exact backed_start gsIdleMax
  exact backed.added i c t a told

/-- The account 9 is checked and given to gate 1, where its player connects and is added at the
game server 5. -/
def played : List SystemEvent := [.connect 1 0, .register 0 [] 0, .login (.arm 7),
  .login (.accept 7 [49]), .login (.request 7 .loginCheck [97] [98]),
  .login (.finish 0 ⟨true, 9, 0⟩ 1000 0), .deliver 1, .gate 1 (.gameRegister 3 5),
  .gate 1 (.accept 2), .gate 1 (.loginGame 2 (Login.makeTransId [97, 98, 49] 1000))]

theorem played_granted : Brought step Grants (start fun _ => 100) played
    ⟨1, Login.makeTransId [97, 98, 49] 1000, 9⟩ :=
  users_granted (fun _ => 100) played 1 3 (Login.makeTransId [97, 98, 49] 1000) 9 (by decide)

end GateAdmissions
