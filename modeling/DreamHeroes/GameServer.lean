import Mathlib.Logic.Function.Basic
import DreamHeroes.GameHero
import DreamHeroes.LabelledRuns

/- The game server: its links to the gates, the sessions in the object pool, the heroes it
   keeps and what it sends to the gates and to the database server. -/
namespace GameServer

open ByteWords OrderedMaps ObjMap GameHero SuitText

abbrev TranId := Nat
abbrev GateId := Nat
abbrev LinkPtr := Nat

def invalidGateId : GateId := 0
def maxGateId : Nat := 255

structure Session where
  tranid : TranId
  account : Account
  gate : GateId
  online : Bool
  dreamHero : Option HeroPtr
  deriving DecidableEq, Repr

/- The hero of saveData is a history value: the message holds only the statement. -/
inductive DatabaseMessage where
  | reqHeroData (account : Account)
  | saveData (hero : HeroPtr) (statement : SaveStatement)
  | saveAllHeroes
  | verifyToy (cdKey : CdKey)
  deriving DecidableEq, Repr

/- A released session keeps its bytes until the pool hands its memory out again. misused
   records that a hero read one, which the code must not do. After crashed nothing happens. -/
structure Server where
  gates : GateId → Option LinkPtr
  gateId : LinkPtr → GateId
  sessions : SessionPtr → Session
  live : SessionPtr → Bool
  onlines : OrderedMap TranId SessionPtr
  heroAt : HeroPtr → DreamHero
  nextHero : HeroPtr
  heros : OrderedMap Account HeroPtr
  toyCdkeyAccount : OrderedMap CdKey Account
  config : HeroConfig
  generateId : Nat
  toGates : List (LinkPtr × TranId × ClientMessage)
  toDatabase : List (TranId × DatabaseMessage)
  misused : Bool
  crashed : Bool

namespace Server

def crash (s : Server) : Server := { s with crashed := true }

def setSession (s : Server) (p : SessionPtr) (session : Session) : Server :=
  { s with sessions := Function.update s.sessions p session }

def setHero (s : Server) (h : HeroPtr) (hero : DreamHero) : Server :=
  { s with heroAt := Function.update s.heroAt h hero }

def useSession (s : Server) (p : SessionPtr) : Server :=
  { s with misused := s.misused || !s.live p }

def sendDatabase (s : Server) (flag : TranId) (message : DatabaseMessage) : Server :=
  { s with toDatabase := s.toDatabase ++ [(flag, message)] }

/- GateManager::sendMessage -/
def sendMessage (s : Server) (message : ClientMessage) (flag : TranId) (gate : GateId) :
    Server :=
  if invalidGateId < gate ∧ gate < maxGateId then
    match s.gates gate with
    | some link => { s with toGates := s.toGates ++ [(link, flag, message)] }
    | none => s
  else s

/- Session::sendPBMessage -/
def sessionSend (s : Server) (p : SessionPtr) (message : ClientMessage) : Server :=
  if (s.sessions p).online then s.sendMessage message (s.sessions p).tranid (s.sessions p).gate
  else s

/- DreamHero::sendPBMessage -/
def heroSend (s : Server) (h : HeroPtr) (message : ClientMessage) : Server :=
  (s.useSession (s.heroAt h).session).sessionSend (s.heroAt h).session message

def sendClientInit (s : Server) (h : HeroPtr) : Server :=
  let s := s.setHero h { s.heroAt h with saving := true }
  let s := (s.heroAt h).clientInit.foldl (heroSend · h) s
  s.setHero h { s.heroAt h with online := true }

/- Session::Session -/
def newSession (s : Server) (p : SessionPtr) (t : TranId) (a : Account) (gate : GateId) : Server :=
  let s := { s.setSession p ⟨t, a, gate, true, none⟩ with live := Function.update s.live p true }
  match getData s.heros a with
  | some h =>
      let s := s.setSession p ⟨t, a, gate, true, some h⟩
      let s := s.setHero h { s.heroAt h with session := p }
      s.sendClientInit h
  | none => s.sendDatabase t (.reqHeroData a)

def setReconnet (s : Server) (p : SessionPtr) : Server :=
  let s := s.setSession p { s.sessions p with online := true }
  match (s.sessions p).dreamHero with
  | some h => s.setHero h { s.heroAt h with online := true }
  | none => s

/- setWaitReconnet does not check _dream_hero. -/
def setWaitReconnet (s : Server) (p : SessionPtr) : Server :=
  let s := s.setSession p { s.sessions p with online := false }
  match (s.sessions p).dreamHero with
  | some h => s.setHero h { s.heroAt h with online := false }
  | none => s.crash

def addUser (s : Server) (t : TranId) (a : Account) (gate : GateId) (p : SessionPtr) : Server :=
  match getData s.onlines t with
  | none =>
      let s := s.newSession p t a gate
      { s with onlines := addData s.onlines t p }
  | some q =>
      if (s.sessions q).gate = gate ∧ (s.sessions q).account = a then s.setReconnet q else s

def offlineUser (s : Server) (t : TranId) : Server :=
  match getData s.onlines t with
  | some p => s.setWaitReconnet p
  | none => s

/- The released session stays in _session of its hero. -/
def removeUser (s : Server) (t : TranId) : Server :=
  match getData s.onlines t with
  | some p =>
      { s with onlines := eraseData s.onlines t, live := Function.update s.live p false }
  | none => s

def removeUserByGate (s : Server) (gate : GateId) : Server :=
  let users := s.onlines.entries.filter fun entry => (s.sessions entry.2).gate = gate
  { s with
    onlines := s.onlines.filter fun _ p => (s.sessions p).gate ≠ gate
    live := fun p => s.live p && p ∉ users.map (·.2) }

def addGate (s : Server) (gate : GateId) (link : LinkPtr) : Server :=
  if invalidGateId < gate ∧ gate < maxGateId then
    { s with gates := Function.update s.gates gate (some link) }
  else s

def removeGate (s : Server) (link : LinkPtr) : Server :=
  let gate := s.gateId link
  if invalidGateId < gate ∧ gate < maxGateId ∧ s.gates gate = some link then
    let s := s.removeUserByGate gate
    { s with gates := Function.update s.gates gate none }
  else s

def parseGateRegister (s : Server) (link : LinkPtr) (serverid : Nat) : Server :=
  let gate := serverid % 2 ^ 16
  { s with gateId := Function.update s.gateId link gate }.addGate gate link

/- DreamHeroManager::CreateHero with the data of the database -/
def createHero (s : Server) (msg : MsgHeroDataDB2GS) (a : Account) (p : SessionPtr) :
    Server × HeroPtr :=
  match getData s.heros a with
  | none =>
      let h := s.nextHero
      let hero := ((DreamHero.new p a .database).setInfo msg).setAccount a
      ({ s.setHero h hero with nextHero := h + 1, heros := s.heros.insert a h }, h)
  | some h => (s.setHero h ({ s.heroAt h with session := p }.setAccount a), h)

/- DreamHeroManager::CreateHero without data -/
def createDefaultHero (s : Server) (a : Account) (p : SessionPtr) : Server × HeroPtr :=
  match getData s.heros a with
  | none =>
      let h := s.nextHero
      let filled := (DreamHero.new p a .config).loadFromConfig s.config s.generateId
      ({ s.setHero h (filled.1.setAccount a) with
          nextHero := h + 1
          heros := s.heros.insert a h
          generateId := filled.2 }, h)
  | some h => (s.setHero h ({ s.heroAt h with session := p }.setAccount a), h)

/- What both replies to MsgReqHeroDataGS2DB do once CreateHero has returned a hero. -/
def attachHero (created : Server × HeroPtr) (p : SessionPtr) : Server :=
  let s := created.1
  (s.setSession p { s.sessions p with dreamHero := some created.2 }).sendClientInit created.2

def parseQueryHeroInfo (s : Server) (t : TranId) (msg : MsgHeroDataDB2GS) : Server :=
  match getData s.onlines t with
  | some p => attachHero (s.createHero msg (s.sessions p).account p) p
  | none => s

def parseNeedCreateHero (s : Server) (t : TranId) : Server :=
  match getData s.onlines t with
  | some p => attachHero (s.createDefaultHero (s.sessions p).account p) p
  | none => s

def removeToyOf (s : Server) (a : Account) (cdKey : CdKey) (owner : Account) : Server :=
  match getData s.heros a with
  | some h =>
      let s := s.setHero h ((s.heroAt h).removeToyByCDKey cdKey)
      { s with toyCdkeyAccount := s.toyCdkeyAccount.insert (cStr cdKey) owner }
  | none => s

def verifyToy (s : Server) (h : HeroPtr) (toy : MsgToyData) (a : Account) : Server :=
  let s := s.removeToyOf a toy.toyCdKey (s.heroAt h).account
  if (s.heroAt h).hasToy toy.toyCdKey then s
  else (s.setHero h ((s.heroAt h).insertToy toy)).heroSend h (.verifyToyCDKeyACK toy)

def parseMsgVerifyToy (s : Server) (t : TranId) (toy : MsgToyData) (a : Account) : Server :=
  match getData s.onlines t with
  | some p =>
      match (s.sessions p).dreamHero with
      | some h => s.verifyToy h toy a
      | none => s
  | none => s

/- MsgVerifyToyError does not check the hero. -/
def parseMsgVerifyToyError (s : Server) (t : TranId) (cdKey : CdKey) (error : HeroErrorCode) :
    Server :=
  match getData s.onlines t with
  | some p =>
      match (s.sessions p).dreamHero with
      | some h => s.heroSend h (.verifyToyCDKeyErrorACK (cStr cdKey) error)
      | none => s.crash
  | none => s

end Server

inductive ClientRequest where
  | modifySuitName (suitId : Int32) (suitName : Bytes)
  | modifySuit (suit : MsgSuitData)
  | delSuit (suitId : Int32)
  | verifyToyCDKey (cdKey : CdKey)
  deriving DecidableEq, Repr

namespace Server

def answer (s : Server) (h : HeroPtr) (result : DreamHero × ClientMessage) : Server :=
  (s.setHero h result.1).heroSend h result.2

def verifyToyCDKey (s : Server) (h : HeroPtr) (cdKey : CdKey) : Server :=
  if (s.heroAt h).hasToy cdKey then
    s.heroSend h (.verifyToyCDKeyErrorACK (cStr cdKey) .toyCdKeyHaveBeenInUsed)
  else
    let p := (s.heroAt h).session
    (s.useSession p).sendDatabase (s.sessions p).tranid (.verifyToy (cStr cdKey))

def heroRequest (s : Server) (h : HeroPtr) : ClientRequest → Server
  | .modifySuitName suitId suitName => s.answer h ((s.heroAt h).modifySuitName suitId suitName)
  | .modifySuit suit => s.answer h ((s.heroAt h).modifySuit suit)
  | .delSuit suitId =>
      match (s.heroAt h).delSuit suitId with
      | some result => s.answer h result
      | none => s.crash
  | .verifyToyCDKey cdKey => s.verifyToyCDKey h cdKey

def parseUserMsg (s : Server) (t : TranId) (request : ClientRequest) : Server :=
  match getData s.onlines t with
  | some p =>
      match (s.sessions p).dreamHero with
      | some h => s.heroRequest h request
      | none => s
  | none => s

def saveHero (s : Server) (h : HeroPtr) : Server :=
  match (s.heroAt h).saveStatements with
  | some statements =>
      let p := (s.heroAt h).session
      let flag := (s.sessions p).tranid
      statements.foldl (fun s statement => s.sendDatabase flag (.saveData h statement))
        (s.useSession p)
  | none => s.crash

def saveTick (s : Server) (h : HeroPtr) : Server :=
  if h < s.nextHero ∧ (s.heroAt h).saving then s.saveHero h else s

def saveDreamHeroes (s : Server) : Server :=
  (s.heros.entries.foldl (fun s entry => s.saveHero entry.2) s).sendDatabase 0 .saveAllHeroes

end Server

/- addUser names the memory the pool hands out if a session has to be made. -/
inductive Event where
  | gateRegister (link : LinkPtr) (serverid : Nat)
  | gateClose (link : LinkPtr)
  | addUser (link : LinkPtr) (t : TranId) (a : Account) (p : SessionPtr)
  | offlineUser (t : TranId)
  | removeUser (t : TranId)
  | userMsg (t : TranId) (request : ClientRequest)
  | heroData (t : TranId) (msg : MsgHeroDataDB2GS)
  | needCreateHero (t : TranId)
  | verifyToy (t : TranId) (toy : MsgToyData) (a : Account)
  | verifyToyError (t : TranId) (cdKey : CdKey) (error : HeroErrorCode)
  | saveTick (h : HeroPtr)
  | setStop

def handle (s : Server) : Event → Server
  | .gateRegister link serverid => s.parseGateRegister link serverid
  | .gateClose link => s.removeGate link
  | .addUser link t a p => if s.live p then s else s.addUser t a (s.gateId link) p
  | .offlineUser t => s.offlineUser t
  | .removeUser t => s.removeUser t
  | .userMsg t request => s.parseUserMsg t request
  | .heroData t msg => s.parseQueryHeroInfo t msg
  | .needCreateHero t => s.parseNeedCreateHero t
  | .verifyToy t toy a => s.parseMsgVerifyToy t toy a
  | .verifyToyError t cdKey error => s.parseMsgVerifyToyError t cdKey error
  | .saveTick h => s.saveTick h
  | .setStop => s.saveDreamHeroes

def step (s : Server) (event : Event) : Server := if s.crashed then s else handle s event

def start (config : HeroConfig) (generateId : Nat) : Server where
  gates := fun _ => none
  gateId := fun _ => invalidGateId
  sessions := fun _ => ⟨0, 0, invalidGateId, false, none⟩
  live := fun _ => false
  onlines := .empty
  heroAt := fun _ => DreamHero.new 0 0 .config
  nextHero := 0
  heros := .empty
  toyCdkeyAccount := .empty
  config := config
  generateId := generateId
  toGates := []
  toDatabase := []
  misused := false
  crashed := false

namespace Server

/-- The close of a link frees the gate it registered last. -/
abbrev FreesGate (s : Server) (link : LinkPtr) (gate : GateId) : Prop :=
  s.gateId link = gate ∧ 0 < gate ∧ gate < maxGateId ∧ s.gates gate = some link

end Server

end GameServer
