import DreamHeroes.GateGames
import DreamHeroes.Simulations

/- Messages of any type from clients. The gate passes on, under the transid of the client, what
   it has no handler for, and the game server finds a handler by the type of the message alone,
   whether the message is the gate's own or a client's. -/
namespace ForwardedMessages

open GateServer (Gate GameMessage ClientPtr TranId Account)
open GameServer (Server ClientRequest)
open GameHero (HeroConfig HeroPtr SessionPtr)
open GateGames (System Agrees)
open GatePlaces GameHolds OrderedMaps ObjMap LabelledRuns Simulations

/- The types with a handler here or on the game server; the others are numbered. -/
inductive TypeName where
  | loginGame
  | msgServerRegister
  | msgGT2GSAddUser
  | msgGT2GSRemoveUser
  | msgGT2GSOfflineUser
  | c2SModifySuitNameReq
  | c2SModifySuitReq
  | c2SDelSuitReq
  | c2SVerifyToyCDKeyReq
  | other (n : Nat)
  deriving DecidableEq, Repr

inductive PBMessage where
  | loginGame (userAccount : TranId)
  | msgServerRegister (serverid : Nat)
  | msgGT2GSAddUser (transid : TranId) (account : Account)
  | msgGT2GSRemoveUser (trans : TranId)
  | msgGT2GSOfflineUser (trans : TranId)
  | c2S (request : ClientRequest)
  | other (n : Nat)
  deriving DecidableEq, Repr

def requestName : ClientRequest → TypeName
  | .modifySuitName _ _ => .c2SModifySuitNameReq
  | .modifySuit _ => .c2SModifySuitReq
  | .delSuit _ => .c2SDelSuitReq
  | .verifyToyCDKey _ => .c2SVerifyToyCDKeyReq

def getTypeName : PBMessage → TypeName
  | .loginGame _ => .loginGame
  | .msgServerRegister _ => .msgServerRegister
  | .msgGT2GSAddUser _ _ => .msgGT2GSAddUser
  | .msgGT2GSRemoveUser _ => .msgGT2GSRemoveUser
  | .msgGT2GSOfflineUser _ => .msgGT2GSOfflineUser
  | .c2S request => requestName request
  | .other n => .other n

/- ProtocMsgBase: static_default_pb_function and static_call_back_funs, of which the map keeps
   the first registered under a name. -/
structure CallBacks (Fun : Type) where
  defaultFun : Fun
  callBackFuns : List (TypeName × Fun)

def callPBCBFun {Fun : Type} (funs : CallBacks Fun) (message : PBMessage) : Fun :=
  (funs.callBackFuns.lookup (getTypeName message)).getD funs.defaultFun

/- UserSession::initPBModule -/
inductive UserFun where
  | parseGameMsg
  | parseLoginGame
  deriving DecidableEq, Repr

def userFuns : CallBacks UserFun where
  defaultFun := .parseGameMsg
  callBackFuns := [(.loginGame, .parseLoginGame)]

/- GateSession::initPBModule of the game server -/
inductive GateFun where
  | parseUserMsg
  | parseGateRegister
  | parseAddUser
  | parseRemoveUser
  | parseOffline
  deriving DecidableEq, Repr

def gateFuns : CallBacks GateFun where
  defaultFun := .parseUserMsg
  callBackFuns := [(.msgServerRegister, .parseGateRegister), (.msgGT2GSAddUser, .parseAddUser),
    (.msgGT2GSRemoveUser, .parseRemoveUser), (.msgGT2GSOfflineUser, .parseOffline)]

/- Session::registerPBCall. The four handlers pass the request to the hero. -/
inductive SessionFun where
  | prasePBDefault
  | parseModifySuitName
  | parseModifySuit
  | parseDelSuit
  | parseC2SVerifyToyCDKeyReq
  deriving DecidableEq, Repr

def sessionFuns : CallBacks SessionFun where
  defaultFun := .prasePBDefault
  callBackFuns := [(.c2SModifySuitNameReq, .parseModifySuitName),
    (.c2SModifySuitReq, .parseModifySuit), (.c2SDelSuitReq, .parseDelSuit),
    (.c2SVerifyToyCDKeyReq, .parseC2SVerifyToyCDKeyReq)]

/- Session::parsePBMessage, reached by the transid in the flag; prasePBDefault only logs. -/
def parsePBMessage (s : Server) (flag : TranId) (message : PBMessage) : Server :=
  match callPBCBFun sessionFuns message, message with
  | .prasePBDefault, _ => s
  | _, .c2S request => GameServer.step s (.userMsg flag request)
  | _, _ => s

/- GateSession::proc_message on the link of the gate. A session that has to be made is at p. -/
def procMessage (s : Server) (p : SessionPtr) (message : PBMessage) (flag : TranId) : Server :=
  match callPBCBFun gateFuns message, message with
  | .parseGateRegister, .msgServerRegister serverid => GameServer.step s (.gateRegister 0 serverid)
  | .parseAddUser, .msgGT2GSAddUser t a => GameServer.step s (.addUser 0 t a p)
  | .parseRemoveUser, .msgGT2GSRemoveUser t => GameServer.step s (.removeUser t)
  | .parseOffline, .msgGT2GSOfflineUser t => GameServer.step s (.offlineUser t)
  | .parseUserMsg, message => parsePBMessage s flag message
  | _, _ => s

abbrev Envelope := PBMessage × TranId

/- What the gate sends of its own carries no transid as its flag. -/
def order : GameMessage → Option Envelope
  | .addUser t a => some (.msgGT2GSAddUser t a, 0)
  | .offlineUser t => some (.msgGT2GSOfflineUser t, 0)
  | .removeUser t => some (.msgGT2GSRemoveUser t, 0)
  | .client _ => none

structure Relay where
  gate : Gate
  games : ClientPtr → Server
  flight : ClientPtr → List Envelope

/- A client sends a message, the gate turns for another reason, a game server takes the next
   message of its link, or it turns. -/
inductive RelayEvent where
  | client (p : GateServer.SessionPtr) (message : PBMessage)
  | gate (event : GateServer.Event)
  | deliver (c : ClientPtr) (p : SessionPtr)
  | game (c : ClientPtr) (event : GameServer.Event)

def turnGate (w : Relay) (event : GateServer.Event) : Relay :=
  let gate := GateServer.step w.gate event
  { w with
    gate := { gate with sent := [] }
    flight := fun c => w.flight c ++ (onLink gate.sent c).filterMap order }

/- UserSession::parseGameMsg -/
def parseGameMsg (w : Relay) (p : GateServer.SessionPtr) (message : PBMessage) : Relay :=
  let user := w.gate.sessions p
  match w.gate.getGameClient user.gsId with
  | some c =>
      { w with flight := Function.update w.flight c (w.flight c ++ [(message, user.tranid)]) }
  | none => w

/- UserSession::proc_message; a closed session gets no message. -/
def clientMessage (w : Relay) (p : GateServer.SessionPtr) (message : PBMessage) : Relay :=
  if (w.gate.sessions p).state = .disable then w
  else
    match callPBCBFun userFuns message, message with
    | .parseLoginGame, .loginGame t => turnGate w (.loginGame p t)
    | .parseGameMsg, message => parseGameMsg w p message
    | _, _ => w

def deliver (w : Relay) (c : ClientPtr) (p : SessionPtr) : Relay :=
  match w.flight c with
  | [] => w
  | (message, flag) :: rest =>
      if (w.games c).live p then w
      else { w with
        games := Function.update w.games c (procMessage (w.games c) p message flag)
        flight := Function.update w.flight c rest }

def ofClient : GateServer.Event → Bool
  | .loginGame _ _ => true
  | .gameMsg _ => true
  | _ => false

def step (w : Relay) : RelayEvent → Relay
  | .client p message => clientMessage w p message
  | .gate event => if ofClient event then w else turnGate w event
  | .deliver c p => deliver w c p
  | .game c event =>
      if fromGate event then w
      else { w with
        games := Function.update w.games c (GameServer.step (w.games c) event) }

/-- What is handed to the links are the gate's own messages. -/
def Orders (log : List (ClientPtr × GameMessage)) : Prop := ∀ entry ∈ log, (order entry.2).isSome

variable {g : Gate}

theorem orders_send {client : Option ClientPtr} {message : GameMessage}
    (own : (order message).isSome) (orders : Orders g.sent) :
    Orders (g.send client message).sent := by
  cases client with
  | none => exact orders
  | some c =>
    intro entry member
    rcases List.mem_append.mp member with before | last
    · exact orders entry before
    · rw [List.mem_singleton.mp last]
      exact own

theorem setState_sent (p : GateServer.SessionPtr) (state : GateServer.SessionState) :
    (g.setState p state).sent = g.sent := by
  cases state <;> rfl

theorem orders_kickUser (t : TranId) (a : Account) (orders : Orders g.sent) :
    Orders (g.kickUser t a).sent := by
  unfold Gate.kickUser
  split
  · rename_i p online
    exact orders_send rfl orders
  · simp only
    split
    · exact orders_send rfl orders
    · exact orders

theorem orders_addToWait (t : TranId) (a : Account) (orders : Orders g.sent) :
    Orders (g.addToWait t a).sent := by
  simp only [Gate.addToWait, Gate.addEvent]
  split
  · exact orders_kickUser t a orders
  · exact orders

theorem orders_removeUsers (gs : GateServer.GameId) (orders : Orders g.sent) :
    Orders (g.removeUsers gs).sent := by
  have marks : ∀ (users : List GateServer.SessionPtr) (g : Gate),
      (users.foldl (Gate.closeIfBound gs) g).sent = g.sent := by
    intro users
    induction users with
    | nil => exact fun g => rfl
    | cons p users ih =>
      intro g
      rw [List.foldl_cons, ih, Gate.closeIfBound]
      split
      · exact setState_sent p .waitClose
      · rfl
  simp only [Gate.removeUsers, marks]
  exact orders

theorem orders_onClose (p : GateServer.SessionPtr) (orders : Orders g.sent) :
    Orders (g.onClose p).sent := by
  rw [Gate.onClose, setState_sent]
  simp only [Gate.checkClose, Gate.addEvent]
  split
  · exact orders_send rfl orders
  · exact orders_send rfl orders

theorem orders_execute (call : GateServer.TimerCall) (orders : Orders g.sent) :
    Orders (g.execute call).sent := by
  cases call with
  | removeWait t => exact orders
  | removeReconn t =>
    simp only [Gate.execute, Gate.eventCallRemoveReconn]
    split
    · exact orders_send rfl orders
    · exact orders

theorem orders_tick (diff : Nat) (orders : Orders g.sent) : Orders (g.tick diff).sent := by
  let kept (g : Gate) : Prop := Orders g.sent
  have all : kept (CountdownTimers.update Gate.execute diff g g.events).1 :=
    CountdownTimers.update_invariant
      (fun h orders timer _ _ => orders_execute timer.call orders) orders
  exact all

theorem orders_parseLoginGame (p : GateServer.SessionPtr) (t : TranId) (orders : Orders g.sent) :
    Orders (g.parseLoginGame p t).sent := by
  have checked : Orders (g.checkConn t p).2.sent := by
    unfold Gate.checkConn
    split
    · simp only
      split
      · rw [setState_sent]
        exact orders
      · simp only [setState_sent]
        exact orders_send rfl orders
    · split
      · simp only [setState_sent]
        exact orders
      · rw [setState_sent]
        exact orders
  unfold Gate.parseLoginGame
  split
  · exact orders
  · split
    · rename_i same
      rw [same] at checked
      exact checked
    · rename_i same
      rw [same] at checked
      exact checked

theorem orders_parseChangeGS (c : ClientPtr) (gameserverid : Nat) (flag : TranId)
    (orders : Orders g.sent) : Orders (g.parseChangeGS c gameserverid flag).sent := by
  unfold Gate.parseChangeGS
  split
  · exact orders
  · simp only
    split
    · exact orders
    · split
      · exact orders_send rfl (orders_send rfl orders)
      · exact orders_send rfl orders

/-- Only a message of a client makes the gate pass on a message that is not its own. -/
theorem orders_step {event : GateServer.Event} (own : ∀ p, event ≠ .gameMsg p)
    (orders : Orders g.sent) : Orders (GateServer.step g event).sent := by
  cases event with
  | accept p =>
    simp only [GateServer.step]
    split
    · exact orders
    · exact orders
  | loginGame p t =>
    simp only [GateServer.step]
    split
    · exact orders
    · exact orders_parseLoginGame p t orders
  | gameMsg p => exact absurd rfl (own p)
  | close p => exact orders_onClose p orders
  | addToWait t a => exact orders_addToWait t a orders
  | kickUser t a => exact orders_kickUser t a orders
  | tick diff => exact orders_tick diff orders
  | gameRegister c serverid =>
    simp only [GateServer.step, Gate.parseGameRegister]
    split
    · exact orders
    · exact orders
  | gameOnlines c onlines => exact orders
  | changeGS c gameserverid flag => exact orders_parseChangeGS c gameserverid flag orders
  | gameClose c =>
    simp only [GateServer.step, Gate.removeActiveGameClient]
    split
    · exact orders_removeUsers _ orders
    · exact orders

def start (gsIdleMax serverid : Nat) (config : HeroConfig) (generateId : ClientPtr → Nat) :
    Relay where
  gate := GateServer.start gsIdleMax
  games := (GateGames.start gsIdleMax serverid config generateId).games
  flight := fun _ => []

/-- The message of the gate that an envelope carries, if the game server acts on it. -/
def carried : Envelope → Option GameMessage
  | (.msgGT2GSAddUser t a, _) => some (.addUser t a)
  | (.msgGT2GSOfflineUser t, _) => some (.offlineUser t)
  | (.msgGT2GSRemoveUser t, _) => some (.removeUser t)
  | (.c2S _, flag) => some (.client flag)
  | _ => none

/-- The gate and its game servers without the messages that nobody acts on. -/
def carry (w : Relay) : System where
  gate := w.gate
  games := w.games
  flight := fun c => (w.flight c).filterMap carried

/-- No client sends a message of a type that the game server keeps for its gates. -/
def Unforged (_ : Relay) : RelayEvent → Prop
  | .client _ message => callPBCBFun gateFuns message = .parseUserMsg
  | _ => True

/-- How an event turns the gate. -/
def gateTurn : RelayEvent → Option GateServer.Event
  | .client p (.loginGame t) => some (.loginGame p t)
  | .client p _ => some (.gameMsg p)
  | .gate event => some event
  | _ => none

/-- The links stay up, no login finds its transid in m_recon_map, and no kicked session closes. -/
def Steady (w : Relay) (event : RelayEvent) : Prop :=
  ∀ turn, gateTurn event = some turn →
    GatePlaces.LinksStay w.gate turn ∧ GatePlaces.Orderly w.gate turn

/-- Nothing waits at the gate, and no registration of a gate is on its way. -/
structure Plain (w : Relay) : Prop where
  handed : w.gate.sent = []
  registered : ∀ c, ∀ entry ∈ w.flight c, ∀ serverid, entry.1 ≠ .msgServerRegister serverid

variable {w : Relay}

theorem carried_order {message : GameMessage} (own : (order message).isSome) :
    (order message).bind carried = some message := by
  cases message with
  | addUser t a => rfl
  | offlineUser t => rfl
  | removeUser t => rfl
  | client t => cases own

theorem order_plain {message : GameMessage} {entry : Envelope} (ordered : order message = some entry)
    (serverid : Nat) : entry.1 ≠ .msgServerRegister serverid := by
  cases message with
  | addUser t a =>
    cases ordered
    simp
  | offlineUser t =>
    cases ordered
    simp
  | removeUser t =>
    cases ordered
    simp
  | client t => cases ordered

/-- The gate's own messages arrive as they were handed to the link. -/
theorem carried_orders {log : List (ClientPtr × GameMessage)} (orders : Orders log)
    (c : ClientPtr) : ((onLink log c).filterMap order).filterMap carried = onLink log c := by
  have own : ∀ message ∈ onLink log c, (order message).isSome := by
    intro message member
    obtain ⟨entry, inside, same⟩ := List.mem_map.mp member
    rw [← same]
    exact orders entry (List.mem_filter.mp inside).1
  rw [List.filterMap_filterMap]
  generalize onLink log c = messages at own
  induction messages with
  | nil => rfl
  | cons message rest ih =>
    have first := carried_order (own message List.mem_cons_self)
    have later := ih fun message member => own message (List.mem_cons_of_mem _ member)
    simp only [List.filterMap_cons, first, later]

theorem carry_turnGate {event : GateServer.Event} (plain : Plain w)
    (own : ∀ p, event ≠ .gameMsg p) :
    carry (turnGate w event) = GateGames.turnGate (carry w) event := by
  have none : Orders w.gate.sent := by
    rw [plain.handed]
    intro entry member
    cases member
  have orders := orders_step own none
  simp only [carry, turnGate, GateGames.turnGate, List.filterMap_append, carried_orders orders]

theorem plain_turnGate {event : GateServer.Event} (plain : Plain w) :
    Plain (turnGate w event) where
  handed := rfl
  registered := by
    intro c entry member serverid
    rcases List.mem_append.mp member with before | new
    · exact plain.registered c entry before serverid
    · obtain ⟨message, _, ordered⟩ := List.mem_filterMap.mp new
      exact order_plain ordered serverid

/-- A message of a client that has a handler nowhere but in the session. -/
theorem userFun_forwards {message : PBMessage} (unlike : ∀ t, message ≠ .loginGame t) :
    callPBCBFun userFuns message = .parseGameMsg := by
  cases message with
  | loginGame t => exact absurd rfl (unlike t)
  | c2S request => cases request <;> rfl
  | _ => rfl

theorem clientMessage_forwards {p : GateServer.SessionPtr} {message : PBMessage}
    (unlike : ∀ t, message ≠ .loginGame t) (opened : (w.gate.sessions p).state ≠ .disable) :
    clientMessage w p message = parseGameMsg w p message := by
  unfold clientMessage
  rw [if_neg opened, userFun_forwards unlike]

/-- What a message of a client adds to the links, and what of it a game server acts on. -/
theorem carry_parseGameMsg (p : GateServer.SessionPtr) (message : PBMessage) :
    carry (parseGameMsg w p message) = { carry w with
      flight := fun c => (carry w).flight c ++
        (if w.gate.getGameClient (w.gate.sessions p).gsId = some c then
          (carried (message, (w.gate.sessions p).tranid)).toList else []) } := by
  cases client : w.gate.getGameClient (w.gate.sessions p).gsId with
  | none => simp [parseGameMsg, client, carry]
  | some c =>
    simp only [parseGameMsg, client, carry]
    congr 1
    funext d
    by_cases here : d = c
    · subst here
      cases carries : carried (message, (w.gate.sessions p).tranid) with
      | none => simp [carries]
      | some inner => simp [carries]
    · have apart : ¬ c = d := fun same => here same.symm
      simp [here, apart]

theorem turnGate_gameMsg {v : System} {p : GateServer.SessionPtr} (handed : v.gate.sent = [])
    (opened : (v.gate.sessions p).state ≠ .disable) :
    GateGames.turnGate v (.gameMsg p) = { v with
      flight := fun c => v.flight c ++
        (if v.gate.getGameClient (v.gate.sessions p).gsId = some c then
          [.client (v.gate.sessions p).tranid] else []) } := by
  obtain ⟨gate, games, flight⟩ := v
  obtain ⟨sessions, onlines, onlineaccs, waitMap, reconMap, timers, clients, activeGames, most, sent,
    admitted⟩ := gate
  subst handed
  simp only [GateGames.turnGate, GateServer.step, if_neg opened, Gate.parseGameMsg, Gate.send]
  split
  · rename_i c client
    simp only [client, onLink, Option.some.injEq, List.nil_append, List.filter_cons,
      decide_eq_true_eq, List.filter_nil]
    congr 1
    funext d
    by_cases here : c = d
    · simp [here]
    · simp [here]
  · rename_i client
    simp [client, onLink]

/-- What a game server makes of an envelope that is not a registration is what it makes of
    the message carried, and nothing if there is none. -/
theorem procMessage_carried (s : Server) (p : SessionPtr) (flag : TranId) {message : PBMessage}
    (unregistered : ∀ serverid, message ≠ .msgServerRegister serverid) :
    (∃ request inner, carried (message, flag) = some inner ∧
      procMessage s p message flag = GameServer.step s (received p request inner)) ∨
    carried (message, flag) = none ∧ procMessage s p message flag = s := by
  cases message with
  | loginGame t => exact .inr ⟨rfl, rfl⟩
  | msgServerRegister serverid => exact absurd rfl (unregistered serverid)
  | msgGT2GSAddUser t a => exact .inl ⟨.delSuit 0, _, rfl, rfl⟩
  | msgGT2GSRemoveUser t => exact .inl ⟨.delSuit 0, _, rfl, rfl⟩
  | msgGT2GSOfflineUser t => exact .inl ⟨.delSuit 0, _, rfl, rfl⟩
  | c2S request =>
    refine .inl ⟨request, _, rfl, ?_⟩
    cases request <;> rfl
  | other n => exact .inr ⟨rfl, rfl⟩

/-- The steps of the system of gate and game servers that the event comes to. -/
def Matched (w : Relay) (event : RelayEvent) : Prop :=
  ∃ labels, EveryStep GateGames.step
      (fun v label => GateGames.LinksStay v label ∧ GateGames.Orderly v label) (carry w) labels ∧
    carry (step w event) = run GateGames.step (carry w) labels

theorem matched_none {event : RelayEvent} (same : carry (step w event) = carry w) :
    Matched w event := ⟨[], trivial, same⟩

theorem matched_one {event : RelayEvent} (label : GateGames.SystemEvent)
    (steady : GateGames.LinksStay (carry w) label ∧ GateGames.Orderly (carry w) label)
    (same : carry (step w event) = GateGames.step (carry w) label) : Matched w event :=
  ⟨[label], ⟨steady, trivial⟩, same⟩

theorem matched_client {p : GateServer.SessionPtr} {message : PBMessage} (plain : Plain w)
    (unforged : Unforged w (.client p message)) (steady : Steady w (.client p message)) :
    Matched w (.client p message) := by
  by_cases closed : (w.gate.sessions p).state = .disable
  · apply matched_none
    simp [step, clientMessage, closed]
  · cases message with
    | loginGame t =>
      apply matched_one (.gate (.loginGame p t)) (steady _ rfl)
      have turned : step w (.client p (.loginGame t)) = turnGate w (.loginGame p t) := by
        simp [step, clientMessage, closed, callPBCBFun, userFuns, getTypeName]
      rw [turned]
      exact carry_turnGate plain (by simp)
    | c2S request =>
      apply matched_one (.gate (.gameMsg p)) (steady _ rfl)
      rw [step, clientMessage_forwards (by simp) closed, carry_parseGameMsg]
      exact (turnGate_gameMsg plain.handed closed).symm
    | other n =>
      apply matched_none
      rw [step, clientMessage_forwards (by simp) closed, carry_parseGameMsg]
      simp [carried]
    | _ => cases unforged

theorem matched_gate {event : GateServer.Event} (plain : Plain w)
    (steady : Steady w (.gate event)) : Matched w (.gate event) := by
  cases client : ofClient event with
  | true =>
    apply matched_none
    rw [step, if_pos client]
  | false =>
    apply matched_one (.gate event) (steady _ rfl)
    rw [step, if_neg (by simp [client])]
    apply carry_turnGate plain
    intro p same
    rw [same] at client
    cases client

theorem carry_delivered (game : Server) (c : ClientPtr) (rest : List Envelope) :
    carry { w with
      games := Function.update w.games c game, flight := Function.update w.flight c rest } =
    { carry w with
      games := Function.update w.games c game
      flight := Function.update (carry w).flight c (rest.filterMap carried) } := by
  simp only [carry]
  congr 1
  funext d
  by_cases here : d = c
  · subst here
    simp
  · simp [here]

theorem matched_deliver (c : ClientPtr) (p : SessionPtr) (plain : Plain w) :
    Matched w (.deliver c p) := by
  cases queue : w.flight c with
  | nil =>
    apply matched_none
    rw [step, deliver, queue]
  | cons entry rest =>
    obtain ⟨message, flag⟩ := entry
    cases used : (w.games c).live p with
    | true =>
      apply matched_none
      simp [step, deliver, queue, used]
    | false =>
      have unregistered : ∀ serverid, message ≠ .msgServerRegister serverid :=
        plain.registered c (message, flag) (by simp [queue])
      have delivered : step w (.deliver c p) = { w with
          games := Function.update w.games c (procMessage (w.games c) p message flag)
          flight := Function.update w.flight c rest } := by
        simp [step, deliver, queue, used]
      rcases procMessage_carried (w.games c) p flag unregistered with
        ⟨request, inner, carries, acts⟩ | ⟨none, idle⟩
      · apply matched_one (.deliver c p request) ⟨trivial, trivial⟩
        have first : (carry w).flight c = inner :: rest.filterMap carried := by
          simp [carry, queue, carries]
        have apart : ((carry w).games c).live p = false := used
        have above : GateGames.deliver (carry w) c p request = { carry w with
            games := Function.update w.games c
              (GameServer.step (w.games c) (received p request inner))
            flight := Function.update (carry w).flight c (rest.filterMap carried) } := by
          unfold GateGames.deliver
          rw [first]
          simp only [apart]
          rfl
        rw [delivered, acts, carry_delivered]
        exact above.symm
      · apply matched_none
        have shorter : rest.filterMap carried = (carry w).flight c := by
          simp [carry, queue, none]
        rw [delivered, idle, carry_delivered, shorter]
        simp [carry]

theorem matched_game (c : ClientPtr) (event : GameServer.Event) : Matched w (.game c event) := by
  apply matched_one (.game c event) ⟨trivial, trivial⟩
  simp only [step, GateGames.step]
  split
  · rfl
  · rfl

theorem plain_flight {games : ClientPtr → Server} {c : ClientPtr} {queue : List Envelope}
    (plain : Plain w)
    (registered : ∀ entry ∈ queue, ∀ serverid, entry.1 ≠ .msgServerRegister serverid) :
    Plain { w with games := games, flight := Function.update w.flight c queue } where
  handed := plain.handed
  registered := by
    intro d entry member
    simp only [Function.update_apply] at member
    split at member
    · exact registered entry member
    · exact plain.registered d entry member

theorem plain_client {p : GateServer.SessionPtr} {message : PBMessage} (plain : Plain w)
    (unforged : Unforged w (.client p message)) : Plain (step w (.client p message)) := by
  have known : ∀ serverid, message ≠ .msgServerRegister serverid := by
    intro serverid same
    subst same
    cases unforged
  have sent : Plain (parseGameMsg w p message) := by
    unfold parseGameMsg
    simp only
    split
    · rename_i c client
      apply plain_flight plain
      intro entry member serverid
      rcases List.mem_append.mp member with before | last
      · exact plain.registered c entry before serverid
      · rw [List.mem_singleton.mp last]
        exact known serverid
    · exact plain
  simp only [step]
  unfold clientMessage
  split
  · exact plain
  · split
    · exact plain_turnGate plain
    · exact sent
    · exact plain

theorem plain_step {event : RelayEvent} (plain : Plain w) (unforged : Unforged w event) :
    Plain (step w event) := by
  cases event with
  | client p message => exact plain_client plain unforged
  | gate event =>
    simp only [step]
    split
    · exact plain
    · exact plain_turnGate plain
  | deliver c p =>
    simp only [step, deliver]
    split
    · exact plain
    · rename_i message flag rest queue
      split
      · exact plain
      · apply plain_flight plain
        intro entry member
        apply plain.registered c entry
        rw [queue]
        exact List.mem_cons_of_mem _ member
  | game c event =>
    simp only [step]
    split
    · exact plain
    · exact ⟨plain.handed, plain.registered⟩

/-- Without forged messages, what the gate and its game servers do is what they do when clients
send nothing but requests. -/
theorem simulates : Simulates step (fun w event => Unforged w event ∧ Steady w event) Plain carry
    GateGames.step (fun v label => GateGames.LinksStay v label ∧ GateGames.Orderly v label) where
  keeps := fun _ _ plain ok => plain_step plain ok.1
  matched := by
    intro w event plain ok
    cases event with
    | client p message => exact matched_client plain ok.1 ok.2
    | gate event => exact matched_gate plain ok.2
    | deliver c p => exact matched_deliver c p plain
    | game c event => exact matched_game c event

/-- Once nothing is in flight, gate and game servers agree, unless one of these crashed. -/
def Synchronised (w : Relay) : Prop :=
  (∀ c, (w.games c).crashed = false) → (∀ c, w.flight c = []) → Agrees (carry w)

/-- In every run in which no client sends a message of a type kept for gates, and which is
steady, the gate and its game servers agree whenever nothing is in flight. -/
theorem unforged_synchronised (gsIdleMax serverid : Nat) (config : HeroConfig)
    (generateId : ClientPtr → Nat) (events : List RelayEvent)
    (unforged : EveryStep step Unforged (start gsIdleMax serverid config generateId) events)
    (steady : EveryStep step Steady (start gsIdleMax serverid config generateId) events) :
    EveryState step Synchronised (start gsIdleMax serverid config generateId) events := by
  have keep : ∀ v label, GateGames.SettledUnlessCrashed v →
      GateGames.LinksStay v label ∧ GateGames.Orderly v label →
        GateGames.SettledUnlessCrashed (GateGames.step v label) :=
    fun v label => GateGames.settled_step label
  have plain : Plain (start gsIdleMax serverid config generateId) := by
    refine ⟨rfl, ?_⟩
    intro c entry member
    cases member
  have all := everyState_of_simulates simulates plain
    (fun labels good => run_of_everyStep GateGames.SettledUnlessCrashed keep
      (.inr (GateGames.settled_start gsIdleMax serverid config generateId)) good)
    (everyStep_and.mpr ⟨unforged, steady⟩)
  refine everyState_imp ?_ all
  intro w settled running drained
  rcases settled with ⟨c, crashed⟩ | settled
  · have runs : (w.games c).crashed = false := running c
    rw [show (w.games c).crashed = true from crashed] at runs
    cases runs
  · apply GateGames.settled_agrees settled
    intro c
    simp [carry, drained c]

/-- A player comes online and sends a message that nobody knows and a request. -/
def plays : List RelayEvent := [.gate (.gameRegister 0 1), .gate (.addToWait 5 9),
  .gate (.accept 7), .client 7 (.loginGame 5), .deliver 0 70, .client 7 (.other 3),
  .client 7 (.c2S (.delSuit 2)), .deliver 0 71, .deliver 0 71]

theorem unforged_synchronised_plays :
    EveryState step Synchronised (start 100 1 ⟨0, 0, 1, [], .empty⟩ fun _ => 0) plays := by
  apply unforged_synchronised
  · exact ⟨trivial, trivial, trivial, rfl, trivial, rfl, rfl, trivial, trivial, trivial⟩
  · refine ⟨?_, ?_, ?_, ?_, ?_, ?_, ?_, ?_, ?_, trivial⟩
    · intro turn same
      cases same
      refine ⟨?_, trivial⟩
      intro i d active
      cases active
    · intro turn same
      cases same
      exact ⟨trivial, trivial⟩
    · intro turn same
      cases same
      exact ⟨trivial, trivial⟩
    · intro turn same
      cases same
      refine ⟨trivial, ?_⟩
      intro _ _
      refine ⟨fun _ => rfl, ?_⟩
      intro v waiting _
      exact ⟨rfl, waiting⟩
    · intro turn same
      cases same
    · intro turn same
      cases same
      exact ⟨trivial, trivial⟩
    · intro turn same
      cases same
      exact ⟨trivial, trivial⟩
    · intro turn same
      cases same
    · intro turn same
      cases same

end ForwardedMessages
