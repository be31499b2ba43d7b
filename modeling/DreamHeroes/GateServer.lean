import Mathlib.Algebra.Group.Nat.Defs
import Mathlib.Logic.Function.Basic
import DreamHeroes.ObjMap
import DreamHeroes.CountdownTimers
import DreamHeroes.LabelledRuns

/- The gate server: client sessions, the four transid maps of its UserManager, its links to
   the game servers and its timers. Pointers are names; a session object is reused after its
   close. The timer that closes an idle session is not part of the state, since a session may
   close at any time. -/
namespace GateServer

open OrderedMaps ObjMap CountdownTimers
open Function (update_apply)

abbrev TranId := Nat
abbrev Account := Nat
abbrev GameId := Nat
abbrev SessionPtr := Nat
abbrev ClientPtr := Nat

def invalidAccount : Account := 0
def invalidTransId : TranId := 0
def invalidGameId : GameId := 0
def maxGameId : Nat := 255
def waiteConnectTime : Nat := 300000
def waiteReconnectTime : Nat := 300000

inductive SessionState where
  | disable
  | waitAccount
  | connect
  | waitClose
  deriving DecidableEq, Repr

structure UserSession where
  tranid : TranId
  gsId : GameId
  state : SessionState
  deriving DecidableEq, Repr

structure GameInfo where
  gameId : GameId
  onlines : Nat
  deriving DecidableEq, Repr

inductive TimerCall where
  | removeWait (t : TranId)
  | removeReconn (t : TranId)
  deriving DecidableEq, Repr

/- What the gate sends to a game server; client stands for any client message. -/
inductive GameMessage where
  | addUser (t : TranId) (a : Account)
  | offlineUser (t : TranId)
  | removeUser (t : TranId)
  | client (t : TranId)
  deriving DecidableEq, Repr

/- admitted is a history variable: the account of the last addToWait for a transid. The code
   never reads it. -/
structure Gate where
  sessions : SessionPtr → UserSession
  onlines : OrderedMap TranId SessionPtr
  onlineaccs : OrderedMap Account TranId
  waitMap : OrderedMap TranId Account
  reconMap : OrderedMap TranId GameId
  events : List (Countdown TimerCall)
  clients : ClientPtr → GameInfo
  activeGames : GameId → Option ClientPtr
  gsIdleMax : Nat
  sent : List (ClientPtr × GameMessage)
  admitted : TranId → Option Account

namespace Gate

def setSession (g : Gate) (p : SessionPtr) (user : UserSession) : Gate :=
  { g with sessions := Function.update g.sessions p user }

def setState (g : Gate) (p : SessionPtr) (state : SessionState) : Gate :=
  match state with
  | .disable => g.setSession p ⟨invalidTransId, invalidGameId, .disable⟩
  | _ => g.setSession p { g.sessions p with state := state }

def send (g : Gate) (client : Option ClientPtr) (message : GameMessage) : Gate :=
  match client with
  | some c => { g with sent := g.sent ++ [(c, message)] }
  | none => g

def addEvent (g : Gate) (call : TimerCall) (time : Nat) : Gate :=
  { g with events := g.events ++ [⟨call, time⟩] }

def getGameClient (g : Gate) (gs : GameId) : Option ClientPtr :=
  if invalidGameId < gs ∧ gs < maxGameId then g.activeGames gs else none

def idleSearch (g : Gate) : List GameId → Option ClientPtr → Option ClientPtr
  | [], pkConn => pkConn
  | i :: rest, pkConn =>
      match g.activeGames i, pkConn with
      | none, _ => idleSearch g rest pkConn
      | some c, none =>
          if (g.clients c).onlines < g.gsIdleMax then some c else idleSearch g rest (some c)
      | some c, some k =>
          if (g.clients c).onlines < (g.clients k).onlines then
            if (g.clients c).onlines < g.gsIdleMax then some c else idleSearch g rest (some c)
          else idleSearch g rest (some k)

def getIdleGameClient (g : Gate) : Option ClientPtr := idleSearch g (List.range maxGameId) none

/- close() of a kicked session is only posted, so its state and transid stay. -/
def kickUser (g : Gate) (t : TranId) (a : Account) : Gate :=
  match getData g.onlines t with
  | some p =>
      let g := g.send (g.getGameClient (g.sessions p).gsId) (.removeUser t)
      { g with onlines := eraseData g.onlines t, onlineaccs := eraseData g.onlineaccs a }
  | none =>
      let v := (getData g.waitMap t).getD invalidAccount
      let g := { g with
        waitMap := eraseData g.waitMap t
        onlineaccs := if v ≠ invalidAccount then eraseData g.onlineaccs v else g.onlineaccs }
      match getData g.reconMap t with
      | some gs =>
          let g := { g with reconMap := eraseData g.reconMap t }
          g.send (g.getGameClient gs) (.removeUser t)
      | none => g

def addToWait (g : Gate) (t : TranId) (a : Account) : Gate :=
  let g := if hasData g.onlines t then g.kickUser t a else g
  let g := { g with
    waitMap := addData g.waitMap t a
    admitted := Function.update g.admitted t (some a) }
  g.addEvent (.removeWait t) waiteConnectTime

def closeIfBound (gs : GameId) (g : Gate) (p : SessionPtr) : Gate :=
  if (g.sessions p).gsId = gs then g.setState p .waitClose else g

/- The loop erases from a local copy of m_onlines, so the map itself stays. -/
def removeUsers (g : Gate) (gs : GameId) : Gate :=
  let g := (g.onlines.entries.map (·.2)).foldl (closeIfBound gs) g
  { g with reconMap := eraseValue g.reconMap gs }

def getAccount (g : Gate) (t : TranId) : Account := (getKey g.onlineaccs t).getD invalidAccount

def checkClose (g : Gate) (p : SessionPtr) : Gate :=
  let tranid := (g.sessions p).tranid
  let gsid := (g.sessions p).gsId
  let g := { g with onlines := eraseData g.onlines tranid }
  let gs := g.getGameClient gsid
  let g :=
    if gs ≠ none ∧ (g.sessions p).state = .connect then
      { g with reconMap := addData g.reconMap tranid gsid }.send gs (.offlineUser tranid)
    else
      { g with onlineaccs := eraseValue g.onlineaccs tranid }.send gs (.removeUser tranid)
  g.addEvent (.removeReconn tranid) waiteReconnectTime

def onClose (g : Gate) (p : SessionPtr) : Gate := (g.checkClose p).setState p .disable

def eventCallRemoveWait (g : Gate) (t : TranId) : Gate :=
  { g with waitMap := eraseData g.waitMap t }

def eventCallRemoveReconn (g : Gate) (t : TranId) : Gate :=
  let gsid := (getData g.reconMap t).getD invalidGameId
  let g := { g with
    reconMap := eraseData g.reconMap t
    onlineaccs := eraseValue g.onlineaccs t }
  if gsid ≠ invalidGameId then g.send (g.getGameClient gsid) (.removeUser t) else g

def execute (g : Gate) : TimerCall → Gate
  | .removeWait t => g.eventCallRemoveWait t
  | .removeReconn t => g.eventCallRemoveReconn t

def tick (g : Gate) (diff : Nat) : Gate :=
  let after := update execute diff g g.events
  { after.1 with events := after.2 }

/-- The value checkConn returns and the state it leaves. -/
def checkConn (g : Gate) (t : TranId) (p : SessionPtr) : Bool × Gate :=
  match getData g.waitMap t with
  | some v =>
      let g := { g with waitMap := eraseData g.waitMap t }
      match g.getIdleGameClient with
      | none => (false, g.setState p .waitClose)
      | some c =>
          let g := g.send (some c) (.addUser t v)
          let g := g.setSession p { g.sessions p with gsId := (g.clients c).gameId }
          let g := g.setState p .connect
          (true, { g with
            onlines := addData g.onlines t p
            onlineaccs := addData g.onlineaccs v t })
  | none =>
      match getData g.reconMap t with
      | some gs =>
          let g := { g with reconMap := eraseData g.reconMap t }
          let g := g.setSession p { g.sessions p with gsId := gs }
          let g := g.setState p .connect
          (true, { g with onlines := addData g.onlines t p })
      | none => (false, g.setState p .waitClose)

def parseLoginGame (g : Gate) (p : SessionPtr) (t : TranId) : Gate :=
  if (g.sessions p).state = .connect then g
  else
    match g.checkConn t p with
    | (true, g) => g.setSession p { g.sessions p with tranid := t }
    | (false, g) => g

def parseGameMsg (g : Gate) (p : SessionPtr) : Gate :=
  g.send (g.getGameClient (g.sessions p).gsId) (.client (g.sessions p).tranid)

def parseGameRegister (g : Gate) (c : ClientPtr) (serverid : Nat) : Gate :=
  let gameId := serverid % 2 ^ 8
  let g := { g with
    clients := Function.update g.clients c { g.clients c with gameId := gameId } }
  if 0 < gameId ∧ gameId < maxGameId then
    { g with activeGames := Function.update g.activeGames gameId (some c) }
  else g

def parseGameOnlines (g : Gate) (c : ClientPtr) (onlines : Nat) : Gate :=
  { g with clients := Function.update g.clients c { g.clients c with onlines := onlines } }

def removeActiveGameClient (g : Gate) (c : ClientPtr) : Gate :=
  let nId := (g.clients c).gameId
  if 0 < nId ∧ nId < maxGameId ∧ g.activeGames nId = some c then
    let g := g.removeUsers nId
    { g with activeGames := Function.update g.activeGames nId none }
  else g

def parseChangeGS (g : Gate) (c : ClientPtr) (gameserverid : Nat) (flag : TranId) : Gate :=
  match getData g.onlines flag with
  | none => g
  | some p =>
      let gs := gameserverid % 2 ^ 16
      match g.getGameClient gs with
      | none => g
      | some pkNew =>
          let tranid := (g.sessions p).tranid
          let g := g.send (some c) (.removeUser tranid)
          let a := g.getAccount tranid
          if a ≠ invalidAccount then
            (g.setSession p { g.sessions p with gsId := gs }).send (some pkNew)
              (.addUser tranid a)
          else g

end Gate

/- Sockets close and servers speak in any order; tick is one turn of the event holder. -/
inductive Event where
  | accept (p : SessionPtr)
  | loginGame (p : SessionPtr) (t : TranId)
  | gameMsg (p : SessionPtr)
  | close (p : SessionPtr)
  | addToWait (t : TranId) (a : Account)
  | kickUser (t : TranId) (a : Account)
  | tick (diff : Nat)
  | gameRegister (c : ClientPtr) (serverid : Nat)
  | gameOnlines (c : ClientPtr) (onlines : Nat)
  | changeGS (c : ClientPtr) (gameserverid : Nat) (flag : TranId)
  | gameClose (c : ClientPtr)
  deriving DecidableEq, Repr

/- The server accepts on a free session object only, and a closed one gets no message. -/
def step (g : Gate) : Event → Gate
  | .accept p => if (g.sessions p).state = .disable then g.setState p .waitAccount else g
  | .loginGame p t => if (g.sessions p).state = .disable then g else g.parseLoginGame p t
  | .gameMsg p => if (g.sessions p).state = .disable then g else g.parseGameMsg p
  | .close p => g.onClose p
  | .addToWait t a => g.addToWait t a
  | .kickUser t a => g.kickUser t a
  | .tick diff => g.tick diff
  | .gameRegister c serverid => g.parseGameRegister c serverid
  | .gameOnlines c onlines => g.parseGameOnlines c onlines
  | .changeGS c gameserverid flag => g.parseChangeGS c gameserverid flag
  | .gameClose c => g.removeActiveGameClient c

def start (gsIdleMax : Nat) : Gate where
  sessions := fun _ => ⟨invalidTransId, invalidGameId, .disable⟩
  onlines := .empty
  onlineaccs := .empty
  waitMap := .empty
  reconMap := .empty
  events := []
  clients := fun _ => ⟨0, 0⟩
  activeGames := fun _ => none
  gsIdleMax := gsIdleMax
  sent := []
  admitted := fun _ => none

namespace Gate

theorem send_eq (g : Gate) (client : Option ClientPtr) (message : GameMessage) :
    ∃ log, g.send client message = { g with sent := log } := by
  cases client with
  | none => exact ⟨g.sent, rfl⟩
  | some c => exact ⟨_, rfl⟩

@[simp] theorem setSession_sessions (g : Gate) (p q : SessionPtr) (user : UserSession) :
    (g.setSession p user).sessions q = if q = p then user else g.sessions q :=
  update_apply g.sessions p user q

theorem getGameClient_some {g : Gate} {gs : GameId} {c : ClientPtr}
    (client : g.getGameClient gs = some c) :
    0 < gs ∧ gs < maxGameId ∧ g.activeGames gs = some c := by
  unfold getGameClient at client
  split at client
  · rename_i inRange
    exact ⟨inRange.1, inRange.2, client⟩
  · cases client

theorem kickUser_online {g : Gate} {t : TranId} {p : SessionPtr} (a : Account)
    (online : getData g.onlines t = some p) :
    ∃ log, g.kickUser t a = { g with
      onlines := eraseData g.onlines t
      onlineaccs := eraseData g.onlineaccs a
      sent := log } := by
  obtain ⟨log, sending⟩ := g.send_eq (g.getGameClient (g.sessions p).gsId) (.removeUser t)
  refine ⟨log, ?_⟩
  simp only [kickUser, online, sending]

/-- The accounts a kick of a transid that is not online leaves in m_onlineaccs. -/
def accountsAfterKick (g : Gate) (t : TranId) : OrderedMap Account TranId :=
  match getData g.waitMap t with
  | some v => if v ≠ invalidAccount then eraseData g.onlineaccs v else g.onlineaccs
  | none => g.onlineaccs

theorem kickUser_offline {g : Gate} {t : TranId} (a : Account)
    (offline : getData g.onlines t = none) :
    ∃ log, g.kickUser t a = { g with
      waitMap := eraseData g.waitMap t
      reconMap := eraseData g.reconMap t
      onlineaccs := g.accountsAfterKick t
      sent := log } := by
  have accounts : (if (getData g.waitMap t).getD invalidAccount ≠ invalidAccount then
      eraseData g.onlineaccs ((getData g.waitMap t).getD invalidAccount) else g.onlineaccs) =
        g.accountsAfterKick t := by
    unfold accountsAfterKick
    cases getData g.waitMap t <;> simp
  cases recon : getData g.reconMap t with
  | none =>
    refine ⟨g.sent, ?_⟩
    simp only [kickUser, offline, recon, accounts, eraseData_absent recon]
  | some gs =>
    simp only [kickUser, offline, recon, accounts]
    apply send_eq

theorem addToWait_offline {g : Gate} {t : TranId} (a : Account)
    (offline : getData g.onlines t = none) :
    g.addToWait t a = { g with
      waitMap := addData g.waitMap t a
      admitted := Function.update g.admitted t (some a)
      events := g.events ++ [⟨.removeWait t, waiteConnectTime⟩] } := by
  have absent : hasData g.onlines t = false := by
    rw [hasData, Option.isSome_eq_false_iff, Option.isNone_iff_eq_none]
    exact offline
  simp [addToWait, absent, addEvent]

theorem addToWait_online {g : Gate} {t : TranId} {p : SessionPtr} (a : Account)
    (online : getData g.onlines t = some p) :
    ∃ log, g.addToWait t a = { g with
      onlines := eraseData g.onlines t
      onlineaccs := eraseData g.onlineaccs a
      waitMap := addData g.waitMap t a
      admitted := Function.update g.admitted t (some a)
      events := g.events ++ [⟨.removeWait t, waiteConnectTime⟩]
      sent := log } := by
  have present : hasData g.onlines t = true := by
    rw [hasData, Option.isSome_iff_exists]
    exact ⟨p, online⟩
  obtain ⟨log, kicked⟩ := kickUser_online a online
  refine ⟨log, ?_⟩
  simp [addToWait, present, kicked, addEvent]

/-- An ordinary disconnect: the session was connected and its game server is there. -/
abbrev KeepsPlace (g : Gate) (p : SessionPtr) : Prop :=
  g.getGameClient (g.sessions p).gsId ≠ none ∧ (g.sessions p).state = .connect

def freeSession : UserSession := ⟨invalidTransId, invalidGameId, .disable⟩

theorem close_after_send (g : Gate) (client : Option ClientPtr) (message : GameMessage)
    (t : TranId) (p : SessionPtr) :
    ∃ log, ((g.send client message).addEvent (.removeReconn t) waiteReconnectTime).setState p
      .disable = ({ g with
        events := g.events ++ [⟨.removeReconn t, waiteReconnectTime⟩]
        sent := log } : Gate).setSession p freeSession := by
  obtain ⟨log, sending⟩ := g.send_eq client message
  rw [sending]
  exact ⟨log, rfl⟩

theorem onClose_keeps {g : Gate} {p : SessionPtr} (keeps : g.KeepsPlace p) :
    ∃ log, g.onClose p = ({ g with
      onlines := eraseData g.onlines (g.sessions p).tranid
      reconMap := addData g.reconMap (g.sessions p).tranid (g.sessions p).gsId
      events := g.events ++ [⟨.removeReconn (g.sessions p).tranid, waiteReconnectTime⟩]
      sent := log } : Gate).setSession p freeSession := by
  simp only [onClose, checkClose]
  split
  · apply close_after_send
  · rename_i other
    exact absurd keeps other

theorem onClose_drops {g : Gate} {p : SessionPtr} (drops : ¬ g.KeepsPlace p) :
    ∃ log, g.onClose p = ({ g with
      onlines := eraseData g.onlines (g.sessions p).tranid
      onlineaccs := eraseValue g.onlineaccs (g.sessions p).tranid
      events := g.events ++ [⟨.removeReconn (g.sessions p).tranid, waiteReconnectTime⟩]
      sent := log } : Gate).setSession p freeSession := by
  simp only [onClose, checkClose]
  split
  · rename_i other
    exact absurd other drops
  · apply close_after_send

theorem eventCallRemoveReconn_eq (g : Gate) (t : TranId) :
    ∃ log, g.eventCallRemoveReconn t = { g with
      reconMap := eraseData g.reconMap t
      onlineaccs := eraseValue g.onlineaccs t
      sent := log } := by
  simp only [eventCallRemoveReconn]
  split
  · apply send_eq
  · exact ⟨g.sent, rfl⟩

theorem idleSearch_congr {g h : Gate} (games : g.activeGames = h.activeGames)
    (clients : g.clients = h.clients) (most : g.gsIdleMax = h.gsIdleMax)
    (slots : List GameId) (pkConn : Option ClientPtr) :
    g.idleSearch slots pkConn = h.idleSearch slots pkConn := by
  induction slots generalizing pkConn with
  | nil => rfl
  | cons i rest ih => simp only [idleSearch, games, clients, most, ih]

theorem getIdleGameClient_congr {g h : Gate} (games : g.activeGames = h.activeGames)
    (clients : g.clients = h.clients) (most : g.gsIdleMax = h.gsIdleMax) :
    g.getIdleGameClient = h.getIdleGameClient :=
  idleSearch_congr games clients most (List.range maxGameId) none

/-- What checkConn and parseLoginGame do together for a session that is not connected. -/
inductive Login (g : Gate) (p : SessionPtr) (t : TranId) : Gate → Prop where
  | noServer {v : Account} (waiting : getData g.waitMap t = some v)
      (idle : g.getIdleGameClient = none) :
      Login g p t ({ g with waitMap := eraseData g.waitMap t }.setSession p
        { g.sessions p with state := .waitClose })
  | admitted {v : Account} {c : ClientPtr} (log : List (ClientPtr × GameMessage))
      (waiting : getData g.waitMap t = some v) (idle : g.getIdleGameClient = some c) :
      Login g p t ({ g with
        waitMap := eraseData g.waitMap t
        onlines := addData g.onlines t p
        onlineaccs := addData g.onlineaccs v t
        sent := log }.setSession p ⟨t, (g.clients c).gameId, .connect⟩)
  | returned {gs : GameId} (notWaiting : getData g.waitMap t = none)
      (recon : getData g.reconMap t = some gs) :
      Login g p t ({ g with
        reconMap := eraseData g.reconMap t
        onlines := addData g.onlines t p }.setSession p ⟨t, gs, .connect⟩)
  | unknown (notWaiting : getData g.waitMap t = none) (noRecon : getData g.reconMap t = none) :
      Login g p t (g.setSession p { g.sessions p with state := .waitClose })

theorem parseLoginGame_login {g : Gate} {p : SessionPtr} (t : TranId)
    (fresh : (g.sessions p).state ≠ .connect) : Login g p t (g.parseLoginGame p t) := by
  rw [parseLoginGame, if_neg fresh]
  unfold checkConn
  cases waiting : getData g.waitMap t with
  | some v =>
    have idleSame : getIdleGameClient { g with waitMap := eraseData g.waitMap t } =
        g.getIdleGameClient :=
      getIdleGameClient_congr (h := g) rfl rfl rfl
    simp only [idleSame]
    cases idle : g.getIdleGameClient with
    | none => exact Login.noServer waiting idle
    | some c =>
      have built := Login.admitted (p := p)
        (g.sent ++ [(c, .addUser t v)]) waiting idle
      simpa [send, setState, setSession] using built
  | none =>
    cases recon : getData g.reconMap t with
    | some gs =>
      have built := Login.returned (p := p) waiting recon
      simpa [send, setState, setSession] using built
    | none => exact Login.unknown waiting recon

theorem checkConn_true_iff {g : Gate} {t : TranId} {p : SessionPtr} :
    (g.checkConn t p).1 = true ↔
      (getData g.waitMap t ≠ none ∧ g.getIdleGameClient ≠ none) ∨
        (getData g.waitMap t = none ∧ getData g.reconMap t ≠ none) := by
  unfold checkConn
  cases waiting : getData g.waitMap t with
  | some v =>
    have idleSame : getIdleGameClient { g with waitMap := eraseData g.waitMap t } =
        g.getIdleGameClient :=
      getIdleGameClient_congr (h := g) rfl rfl rfl
    simp only [idleSame]
    cases idle : g.getIdleGameClient <;> simp
  | none => cases recon : getData g.reconMap t <;> simp

theorem idleSearch_some (g : Gate) (slots : List GameId) (k : ClientPtr) :
    g.idleSearch slots (some k) ≠ none := by
  induction slots generalizing k with
  | nil => simp [idleSearch]
  | cons i rest ih =>
    cases slot : g.activeGames i with
    | none => simpa [idleSearch, slot] using ih k
    | some c =>
      simp only [idleSearch, slot]
      split
      · split
        · simp
        · exact ih c
      · exact ih k

theorem getIdleGameClient_ne_none {g : Gate} {gs : GameId} (inRange : gs < maxGameId)
    (active : g.activeGames gs ≠ none) : g.getIdleGameClient ≠ none := by
  have listed : gs ∈ List.range maxGameId := List.mem_range.mpr inRange
  unfold getIdleGameClient
  generalize List.range maxGameId = slots at listed
  induction slots with
  | nil => cases listed
  | cons i rest ih =>
    cases slot : g.activeGames i with
    | none =>
      simp only [idleSearch, slot]
      apply ih
      rcases List.mem_cons.mp listed with here | later
      · exact absurd (here ▸ slot) active
      · exact later
    | some c =>
      simp only [idleSearch, slot]
      split
      · simp
      · exact g.idleSearch_some rest c

theorem idleSearch_active {g : Gate} {slots : List GameId} {pkConn : Option ClientPtr}
    {c : ClientPtr} (found : g.idleSearch slots pkConn = some c) :
    pkConn = some c ∨ ∃ i, g.activeGames i = some c := by
  induction slots generalizing pkConn with
  | nil => exact .inl found
  | cons i rest ih =>
    unfold idleSearch at found
    split at found
    · exact ih found
    · rename_i here
      split at found
      · exact .inr ⟨i, found ▸ here⟩
      · rcases ih found with same | later
        · exact .inr ⟨i, same ▸ here⟩
        · exact .inr later
    · rename_i here
      split at found
      · split at found
        · exact .inr ⟨i, found ▸ here⟩
        · rcases ih found with same | later
          · exact .inr ⟨i, same ▸ here⟩
          · exact .inr later
      · exact ih found

theorem getIdleGameClient_active {g : Gate} {c : ClientPtr}
    (found : g.getIdleGameClient = some c) : ∃ i, g.activeGames i = some c := by
  rcases idleSearch_active found with impossible | active
  · cases impossible
  · exact active

/-- What removeUsers makes of a session. -/
def closeBound (g : Gate) (gs : GameId) (q : SessionPtr) : UserSession :=
  if q ∈ g.onlines.entries.map (·.2) ∧ (g.sessions q).gsId = gs then
    { g.sessions q with state := .waitClose }
  else g.sessions q

theorem foldl_closeIfBound (g : Gate) (gs : GameId) (users : List SessionPtr) :
    users.foldl (closeIfBound gs) g = { g with
      sessions := fun q =>
        if q ∈ users ∧ (g.sessions q).gsId = gs then { g.sessions q with state := .waitClose }
        else g.sessions q } := by
  induction users generalizing g with
  | nil => simp
  | cons p rest ih =>
    rw [List.foldl_cons, ih]
    unfold closeIfBound
    split
    · rename_i bound
      simp only [setState, setSession]
      congr
      funext q
      by_cases here : q = p
      · simp [here, bound]
      · simp [here]
    · rename_i unbound
      congr
      funext q
      by_cases here : q = p
      · simp [here, unbound]
      · simp [here]

theorem removeUsers_eq (g : Gate) (gs : GameId) :
    g.removeUsers gs = { g with
      sessions := g.closeBound gs
      reconMap := eraseValue g.reconMap gs } := by
  rw [removeUsers, foldl_closeIfBound]
  rfl

/-- The close of a game server link frees the slot the client registered last. -/
abbrev FreesSlot (g : Gate) (c : ClientPtr) (gs : GameId) : Prop :=
  (g.clients c).gameId = gs ∧ 0 < gs ∧ gs < maxGameId ∧ g.activeGames gs = some c

theorem removeActiveGameClient_frees {g : Gate} {c : ClientPtr} {gs : GameId}
    (frees : g.FreesSlot c gs) :
    g.removeActiveGameClient c = { g with
      sessions := g.closeBound gs
      reconMap := eraseValue g.reconMap gs
      activeGames := Function.update g.activeGames gs none } := by
  obtain ⟨same, inRange⟩ := frees
  subst same
  rw [removeActiveGameClient, if_pos inRange, removeUsers_eq]

theorem removeActiveGameClient_other {g : Gate} {c : ClientPtr}
    (other : ¬ g.FreesSlot c (g.clients c).gameId) : g.removeActiveGameClient c = g := by
  rw [removeActiveGameClient, if_neg]
  intro inRange
  exact other ⟨rfl, inRange⟩

theorem parseChangeGS_cases (g : Gate) (c : ClientPtr) (gameserverid : Nat) (flag : TranId) :
    ∃ log, g.parseChangeGS c gameserverid flag = { g with sent := log } ∨
      ∃ p gs, getData g.onlines flag = some p ∧ g.getGameClient gs ≠ none ∧
        g.parseChangeGS c gameserverid flag =
          ({ g with sent := log } : Gate).setSession p { g.sessions p with gsId := gs } := by
  unfold parseChangeGS
  split
  · exact ⟨g.sent, .inl rfl⟩
  · rename_i p online
    simp only
    split
    · exact ⟨g.sent, .inl rfl⟩
    · rename_i pkNew client
      have found : g.getGameClient (gameserverid % 2 ^ 16) ≠ none := by
        rw [client]
        exact Option.some_ne_none pkNew
      by_cases known :
          (g.send (some c) (.removeUser (g.sessions p).tranid)).getAccount
            (g.sessions p).tranid ≠ invalidAccount
      · rw [if_pos known]
        exact ⟨(g.sent ++ [(c, .removeUser _)]) ++ [(pkNew, .addUser _ _)],
          .inr ⟨p, _, online, found, rfl⟩⟩
      · rw [if_neg known]
        exact ⟨_, .inl rfl⟩

/-- What every due timer preserves, a turn of the event holder preserves, provided it does
not look at the timers. -/
theorem tick_invariant (inv : Gate → Prop) {g : Gate} {diff : Nat}
    (blind : ∀ g events, inv g → inv { g with events := events })
    (keep : ∀ h, inv h → ∀ timer ∈ g.events, timer.left ≤ diff → inv (h.execute timer.call))
    (start : inv g) : inv (g.tick diff) :=
  blind _ _ (update_invariant keep start)

theorem tick_reaches (goal : Gate → Prop) {g : Gate} {diff : Nat} {timer : Countdown TimerCall}
    (listed : timer ∈ g.events) (due : timer.left ≤ diff)
    (blind : ∀ g events, goal g → goal { g with events := events })
    (reach : ∀ h : Gate, goal (h.execute timer.call))
    (keep : ∀ h call, goal h → goal (h.execute call)) : goal (g.tick diff) :=
  blind _ _ (update_reaches listed due reach fun h held other _ _ => keep h other.call held)

theorem tick_events {g : Gate} {diff : Nat} {timer : Countdown TimerCall} :
    timer ∈ (g.tick diff).events ↔
      ∃ old ∈ g.events, diff < old.left ∧ timer = ⟨old.call, old.left - diff⟩ :=
  mem_update

end Gate

/-- Everything one step can do, with what the sent log becomes left open. -/
inductive Turn (g : Gate) : Event → Gate → Prop where
  | ignored {event : Event} : Turn g event g
  | logged {event : Event} (log : List (ClientPtr × GameMessage)) :
      Turn g event { g with sent := log }
  | accepted {p : SessionPtr} (free : (g.sessions p).state = .disable) :
      Turn g (.accept p) (g.setSession p { g.sessions p with state := .waitAccount })
  | login {p : SessionPtr} {t : TranId} {h : Gate} (open' : (g.sessions p).state ≠ .disable)
      (fresh : (g.sessions p).state ≠ .connect) (outcome : g.Login p t h) :
      Turn g (.loginGame p t) h
  | closeKeeps {p : SessionPtr} (log : List (ClientPtr × GameMessage)) (keeps : g.KeepsPlace p) :
      Turn g (.close p) (({ g with
        onlines := eraseData g.onlines (g.sessions p).tranid
        reconMap := addData g.reconMap (g.sessions p).tranid (g.sessions p).gsId
        events := g.events ++ [⟨.removeReconn (g.sessions p).tranid, waiteReconnectTime⟩]
        sent := log } : Gate).setSession p Gate.freeSession)
  | closeDrops {p : SessionPtr} (log : List (ClientPtr × GameMessage))
      (drops : ¬ g.KeepsPlace p) :
      Turn g (.close p) (({ g with
        onlines := eraseData g.onlines (g.sessions p).tranid
        onlineaccs := eraseValue g.onlineaccs (g.sessions p).tranid
        events := g.events ++ [⟨.removeReconn (g.sessions p).tranid, waiteReconnectTime⟩]
        sent := log } : Gate).setSession p Gate.freeSession)
  | waits {t : TranId} {a : Account} (offline : getData g.onlines t = none) :
      Turn g (.addToWait t a) { g with
        waitMap := addData g.waitMap t a
        admitted := Function.update g.admitted t (some a)
        events := g.events ++ [⟨.removeWait t, waiteConnectTime⟩] }
  | waitsKicked {t : TranId} {a : Account} {p : SessionPtr}
      (log : List (ClientPtr × GameMessage)) (online : getData g.onlines t = some p) :
      Turn g (.addToWait t a) { g with
        onlines := eraseData g.onlines t
        onlineaccs := eraseData g.onlineaccs a
        waitMap := addData g.waitMap t a
        admitted := Function.update g.admitted t (some a)
        events := g.events ++ [⟨.removeWait t, waiteConnectTime⟩]
        sent := log }
  | kicked {t : TranId} {a : Account} {p : SessionPtr} (log : List (ClientPtr × GameMessage))
      (online : getData g.onlines t = some p) :
      Turn g (.kickUser t a) { g with
        onlines := eraseData g.onlines t
        onlineaccs := eraseData g.onlineaccs a
        sent := log }
  | forgotten {t : TranId} {a : Account} (log : List (ClientPtr × GameMessage))
      (offline : getData g.onlines t = none) :
      Turn g (.kickUser t a) { g with
        waitMap := eraseData g.waitMap t
        reconMap := eraseData g.reconMap t
        onlineaccs := g.accountsAfterKick t
        sent := log }
  | ticked (diff : Nat) : Turn g (.tick diff) (g.tick diff)
  | counted {event : Event} (clients : ClientPtr → GameInfo) :
      Turn g event { g with clients := clients }
  | registered {c : ClientPtr} {serverid : Nat} (clients : ClientPtr → GameInfo) (gs : GameId)
      (inRange : 0 < gs ∧ gs < maxGameId) :
      Turn g (.gameRegister c serverid) { g with
        clients := clients
        activeGames := Function.update g.activeGames gs (some c) }
  | moved {c : ClientPtr} {gameserverid : Nat} {flag : TranId} {p : SessionPtr} {gs : GameId}
      (log : List (ClientPtr × GameMessage)) (online : getData g.onlines flag = some p)
      (client : g.getGameClient gs ≠ none) :
      Turn g (.changeGS c gameserverid flag)
        (({ g with sent := log } : Gate).setSession p { g.sessions p with gsId := gs })
  | freed {c : ClientPtr} {gs : GameId} (frees : g.FreesSlot c gs) :
      Turn g (.gameClose c) { g with
        sessions := g.closeBound gs
        reconMap := eraseValue g.reconMap gs
        activeGames := Function.update g.activeGames gs none }

theorem step_turn (g : Gate) (event : Event) : Turn g event (step g event) := by
  cases event with
  | accept p =>
    simp only [step]
    split
    · rename_i free
      exact .accepted free
    · exact .ignored
  | loginGame p t =>
    simp only [step]
    split
    · exact .ignored
    · rename_i live
      by_cases connected : (g.sessions p).state = .connect
      · rw [Gate.parseLoginGame, if_pos connected]
        exact .ignored
      · exact .login live connected (Gate.parseLoginGame_login t connected)
  | gameMsg p =>
    simp only [step]
    split
    · exact .ignored
    · obtain ⟨log, sending⟩ := g.send_eq (g.getGameClient (g.sessions p).gsId)
        (.client (g.sessions p).tranid)
      rw [Gate.parseGameMsg, sending]
      exact .logged log
  | close p =>
    by_cases keeps : g.KeepsPlace p
    · obtain ⟨log, closed⟩ := Gate.onClose_keeps keeps
      rw [step, closed]
      exact .closeKeeps log keeps
    · obtain ⟨log, closed⟩ := Gate.onClose_drops keeps
      rw [step, closed]
      exact .closeDrops log keeps
  | addToWait t a =>
    cases online : getData g.onlines t with
    | none =>
      rw [step, Gate.addToWait_offline a online]
      exact .waits online
    | some p =>
      obtain ⟨log, waiting⟩ := Gate.addToWait_online a online
      rw [step, waiting]
      exact .waitsKicked log online
  | kickUser t a =>
    cases online : getData g.onlines t with
    | none =>
      obtain ⟨log, gone⟩ := Gate.kickUser_offline a online
      rw [step, gone]
      exact .forgotten log online
    | some p =>
      obtain ⟨log, gone⟩ := Gate.kickUser_online a online
      rw [step, gone]
      exact .kicked log online
  | tick diff => exact .ticked diff
  | gameRegister c serverid =>
    simp only [step, Gate.parseGameRegister]
    split
    · rename_i inRange
      exact .registered _ _ inRange
    · exact .counted _
  | gameOnlines c onlines => exact .counted _
  | changeGS c gameserverid flag =>
    obtain ⟨log, quiet | ⟨p, gs, online, client, changed⟩⟩ :=
      g.parseChangeGS_cases c gameserverid flag
    · rw [step, quiet]
      exact .logged log
    · rw [step, changed]
      exact .moved log online client
  | gameClose c =>
    by_cases frees : g.FreesSlot c (g.clients c).gameId
    · rw [step, Gate.removeActiveGameClient_frees frees]
      exact .freed frees
    · rw [step, Gate.removeActiveGameClient_other frees]
      exact .ignored

end GateServer
