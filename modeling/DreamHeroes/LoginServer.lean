import Mathlib.Algebra.Group.Nat.Defs
import Mathlib.Logic.Function.Basic
import DreamHeroes.ObjMap
import DreamHeroes.Checksum
import DreamHeroes.DecimalText
import DreamHeroes.LabelledRuns

/- The login server: the pooled sessions of its clients, the account checks that the database
   threads work on, the accounts it has admitted and its links to the gates. The state of a
   client session only sets a timer that does nothing, so it is left out. -/
namespace LoginServer

open ByteWords DecimalText OrderedMaps ObjMap Checksum

abbrev TranId := Nat
abbrev AccountId := Nat
abbrev GateId := Nat
abbrev GatePtr := Nat
abbrev SessionPtr := Nat
abbrev Connection := Nat

def invalidAccount : AccountId := 0
def invalidTransId : TranId := 0
def invalidGateId : GateId := 0
def maxGateId : Nat := 255
def balenceTimeout : Nat := 40000

structure Account where
  nTranId : TranId
  nGateId : GateId
  deriving DecidableEq, Repr

structure GateSession where
  gateId : GateId
  onlines : Nat
  outIp : Bytes
  outPort : Nat
  balenceTime : List Nat
  deriving DecidableEq, Repr

/- is_valid holds in every phase but the first. -/
inductive Phase where
  | free
  | accepting
  | connected
  | closing
  deriving DecidableEq, Repr

/- connection is a history value: the number of the connection that was accepted last. -/
structure UserLoginSession where
  phase : Phase
  address : Bytes
  connection : Connection
  deriving DecidableEq, Repr

inductive CheckType where
  | loginCheck
  | newAccCheck
  deriving DecidableEq, Repr

/- asked is a history value: the connection that the request came on. -/
structure CheckAcct where
  str : Bytes
  pwd : Bytes
  ower : SessionPtr
  checkType : CheckType
  asked : Connection
  deriving DecidableEq, Repr

/- What batchQuery has written into the task once it is finished, and whether it was. -/
structure Outcome where
  sucess : Bool
  acct : AccountId
  result : Nat
  deriving DecidableEq, Repr

def checkPass : Nat := 0

inductive GateMessage where
  | userLogin (t : TranId) (a : AccountId) (asked : Connection)
  | kickUser (t : TranId) (a : AccountId)
  deriving DecidableEq, Repr

inductive ClientMessage where
  | loginFail
  | loginNameFail
  | loginSuccess (t : TranId) (gateIp : Bytes) (gatePort : Nat)
  | registerAccountFaild
  deriving DecidableEq, Repr

/- A message that went out on a connection; asked is the connection whose request led to it. -/
structure Delivery where
  on : Connection
  asked : Connection
  message : ClientMessage
  deriving DecidableEq, Repr

structure WaitSession where
  session : SessionPtr
  asked : Connection
  deriving DecidableEq, Repr

/- toGates names the session of a gate that a message is handed to. After crashed, which an
   assertion sets, nothing happens. -/
structure Login where
  sessions : SessionPtr → UserLoginSession
  nextConnection : Connection
  tasks : List CheckAcct
  accts : OrderedMap AccountId Account
  waitSessions : OrderedMap TranId WaitSession
  gates : GateId → Option GatePtr
  gateSession : GatePtr → GateSession
  toGates : List (GatePtr × GateMessage)
  toClients : List Delivery
  crashed : Bool

namespace Login

def isValid (s : Login) (p : SessionPtr) : Bool := (s.sessions p).phase ≠ .free

def setSession (s : Login) (p : SessionPtr) (session : UserLoginSession) : Login :=
  { s with sessions := Function.update s.sessions p session }

def setGateSession (s : Login) (g : GatePtr) (session : GateSession) : Login :=
  { s with gateSession := Function.update s.gateSession g session }

def sendGate (s : Login) (g : GatePtr) (message : GateMessage) : Login :=
  { s with toGates := s.toGates ++ [(g, message)] }

/- A session that is not connected drops what it is given. -/
def sendClient (s : Login) (p : SessionPtr) (asked : Connection) (message : ClientMessage) :
    Login :=
  if (s.sessions p).phase = .connected then
    { s with toClients := s.toClients ++ [⟨(s.sessions p).connection, asked, message⟩] }
  else s

/- AccountManager -/

def addAccount (s : Login) (account : AccountId) (tranid : TranId) (gate : GateId) : Login :=
  { s with accts := s.accts.insert account ⟨tranid, gate⟩ }

def removeAccount (s : Login) (account : AccountId) : Login :=
  { s with accts := eraseData s.accts account }

def makeTransId (str : Bytes) (time : Nat) : TranId := (sslCrc32 (str ++ decimal time)).toNat

/- GateManager -/

def getBalenceCount (s : Login) (g : GatePtr) : Nat :=
  (s.gateSession g).onlines + (s.gateSession g).balenceTime.length

def idleSearch (s : Login) : List GateId → Option GatePtr → Option GatePtr
  | [], pkGate => pkGate
  | i :: rest, pkGate =>
      match s.gates i, pkGate with
      | none, _ => idleSearch s rest pkGate
      | some g, none => idleSearch s rest (some g)
      | some g, some k =>
          if s.getBalenceCount k > s.getBalenceCount g then idleSearch s rest (some g)
          else idleSearch s rest (some k)

def getIdleGate (s : Login) : Option GatePtr := idleSearch s (List.range maxGateId) none

def kickUserFromGate (s : Login) (a : AccountId) (account : Account) : Login :=
  if account.nGateId < maxGateId then
    match s.gates account.nGateId with
    | some g => s.sendGate g (.kickUser account.nTranId a)
    | none => s
  else s

def addBalenceTime (s : Login) (g : GatePtr) (serverTime : Nat) : Login :=
  s.setGateSession g { s.gateSession g with
    balenceTime := (s.gateSession g).balenceTime ++ [serverTime] }

/- none when there is no gate. -/
def giveUserToGate (s : Login) (a : AccountId) (account : Account) (p : SessionPtr)
    (asked : Connection) (serverTime : Nat) : Option Login :=
  match s.getIdleGate with
  | some g =>
      let s := { s with
        accts := s.accts.insert a { account with nGateId := (s.gateSession g).gateId } }
      let s := s.addBalenceTime g serverTime
      let s := { s with waitSessions := addData s.waitSessions account.nTranId ⟨p, asked⟩ }
      some (s.sendGate g (.userLogin account.nTranId a asked))
  | none => none

/- The session that waits is not checked. -/
def receiveUserPrepar (s : Login) (t : TranId) (asked : Connection) (ip : Bytes) (port : Nat) :
    Login :=
  match getData s.waitSessions t with
  | some wait =>
      let s := s.sendClient wait.session asked (.loginSuccess t ip port)
      { s with waitSessions := eraseData s.waitSessions t }
  | none => s

/- The text that makes the transid of a login. -/
def loginText (s : Login) (data : CheckAcct) : Bytes :=
  data.str ++ data.pwd ++ (s.sessions data.ower).address

def checkAccountCall (s : Login) (data : CheckAcct) (outcome : Outcome) (time serverTime : Nat) :
    Login :=
  if s.isValid data.ower then
    if outcome.sucess then
      if outcome.acct ≠ invalidAccount then
        let s :=
          match getData s.accts outcome.acct with
          | some account => s.kickUserFromGate outcome.acct account
          | none => s
        let account : Account := ⟨makeTransId (s.loginText data) time, invalidGateId⟩
        let s := { s with accts := s.accts.insert outcome.acct account }
        match s.giveUserToGate outcome.acct account data.ower data.asked serverTime with
        | some s => s
        | none => (s.removeAccount outcome.acct).sendClient data.ower data.asked .loginFail
      else s.sendClient data.ower data.asked .loginNameFail
    else s.sendClient data.ower data.asked .loginFail
  else s

def createNewAccount (s : Login) (data : CheckAcct) (outcome : Outcome) : Login :=
  if s.isValid data.ower then
    if outcome.sucess ∧ outcome.result = checkPass then
      { s with tasks := s.tasks ++ [{ data with checkType := .loginCheck }] }
    else s.sendClient data.ower data.asked .registerAccountFaild
  else s

/- The database threads finish their tasks in any order. -/
def finish (s : Login) (i : Nat) (outcome : Outcome) (time serverTime : Nat) : Login :=
  match s.tasks[i]? with
  | some data =>
      let s := { s with tasks := s.tasks.eraseIdx i }
      match data.checkType with
      | .loginCheck => s.checkAccountCall data outcome time serverTime
      | .newAccCheck => s.createNewAccount data outcome
  | none => s

/- A client message is handled only while its session is connected. -/
def checkAccount (s : Login) (str pwd : Bytes) (p : SessionPtr) (checkType : CheckType) : Login :=
  if (s.sessions p).phase = .connected then
    { s with tasks := s.tasks ++ [⟨str, pwd, p, checkType, (s.sessions p).connection⟩] }
  else s

/- GateSession -/

def addGate (s : Login) (gate : GateId) (g : GatePtr) : Login :=
  if invalidGateId < gate ∧ gate < maxGateId then
    { s with gates := Function.update s.gates gate (some g) }
  else s

def removeGate (s : Login) (g : GatePtr) : Login :=
  let gate := (s.gateSession g).gateId
  if invalidGateId < gate ∧ gate < maxGateId ∧ s.gates gate = some g then
    { s with gates := Function.update s.gates gate none }
  else s

/- The loop over the accounts that a gate reports, with its assertion. -/
def addAccounts (gate : GateId) : List (AccountId × TranId) → Login → Login
  | [], s => s
  | (a, t) :: rest, s =>
      match getData s.accts a with
      | some account =>
          if account.nGateId = gate then addAccounts gate rest (s.addAccount a t gate)
          else { s with crashed := true }
      | none => addAccounts gate rest (s.addAccount a t gate)

/- A gate of an old version is closed, but goes on to be registered. -/
def parseGateRegister (s : Login) (g : GatePtr) (serverid : Nat) (ip : Bytes) (port : Nat)
    (accounts : List (AccountId × TranId)) : Login :=
  let gate := serverid % 2 ^ 8
  let s := s.setGateSession g { s.gateSession g with
    gateId := gate
    onlines := accounts.length
    outIp := ip
    outPort := port }
  addAccounts gate accounts (s.addGate gate g)

def parseGateOnlines (s : Login) (g : GatePtr) (onlines : Nat) : Login :=
  s.setGateSession g { s.gateSession g with onlines := onlines }

def parseGateUserPrepar (s : Login) (g : GatePtr) (t : TranId) (asked : Connection) : Login :=
  s.receiveUserPrepar t asked (s.gateSession g).outIp (s.gateSession g).outPort

def balenceInfoEvent (s : Login) (g : GatePtr) (serverTime : Nat) : Login :=
  s.setGateSession g { s.gateSession g with
    balenceTime := (s.gateSession g).balenceTime.filter fun time =>
      serverTime ≤ balenceTimeout + time }

/- The pool of client sessions -/

def arm (s : Login) (p : SessionPtr) : Login :=
  if (s.sessions p).phase = .free then
    s.setSession p { s.sessions p with phase := .accepting }
  else s

def accept (s : Login) (p : SessionPtr) (address : Bytes) : Login :=
  if (s.sessions p).phase = .accepting then
    { s.setSession p ⟨.connected, address, s.nextConnection⟩ with
      nextConnection := s.nextConnection + 1 }
  else s

def disconnect (s : Login) (p : SessionPtr) : Login :=
  if (s.sessions p).phase = .connected then
    s.setSession p { s.sessions p with phase := .closing }
  else s

def freeSession (s : Login) (p : SessionPtr) : Login :=
  if (s.sessions p).phase = .closing then
    s.setSession p { s.sessions p with phase := .free, address := [] }
  else s

end Login

/- A gate reports the accounts of a map. -/
inductive Event where
  | arm (p : SessionPtr)
  | accept (p : SessionPtr) (address : Bytes)
  | disconnect (p : SessionPtr)
  | freeSession (p : SessionPtr)
  | request (p : SessionPtr) (checkType : CheckType) (str pwd : Bytes)
  | finish (i : Nat) (outcome : Outcome) (time serverTime : Nat)
  | gateRegister (g : GatePtr) (serverid : Nat) (ip : Bytes) (port : Nat)
      (accounts : OrderedMap AccountId TranId)
  | gateOnlines (g : GatePtr) (onlines : Nat)
  | gateUserPrepar (g : GatePtr) (t : TranId) (asked : Connection)
  | balenceInfo (g : GatePtr) (serverTime : Nat)
  | gateClose (g : GatePtr)

def handle (s : Login) : Event → Login
  | .arm p => s.arm p
  | .accept p address => s.accept p address
  | .disconnect p => s.disconnect p
  | .freeSession p => s.freeSession p
  | .request p checkType str pwd => s.checkAccount str pwd p checkType
  | .finish i outcome time serverTime => s.finish i outcome time serverTime
  | .gateRegister g serverid ip port accounts =>
      s.parseGateRegister g serverid ip port accounts.entries
  | .gateOnlines g onlines => s.parseGateOnlines g onlines
  | .gateUserPrepar g t asked => s.parseGateUserPrepar g t asked
  | .balenceInfo g serverTime => s.balenceInfoEvent g serverTime
  | .gateClose g => s.removeGate g

def step (s : Login) (event : Event) : Login := if s.crashed then s else handle s event

def start : Login where
  sessions := fun _ => ⟨.free, [], 0⟩
  nextConnection := 0
  tasks := []
  accts := .empty
  waitSessions := .empty
  gates := fun _ => none
  gateSession := fun _ => ⟨0, 0, [], 0, []⟩
  toGates := []
  toClients := []
  crashed := false

namespace Login

variable {s : Login} {g : GatePtr} {p : SessionPtr} {a : AccountId}

theorem sendClient_eq (s : Login) (p : SessionPtr) (asked : Connection) (message : ClientMessage) :
    ∃ log, s.sendClient p asked message = { s with toClients := log } := by
  unfold sendClient
  split
  · exact ⟨_, rfl⟩
  · exact ⟨s.toClients, rfl⟩

theorem idleSearch_active {slots : List GateId} {pkGate : Option GatePtr}
    (found : s.idleSearch slots pkGate = some g) : pkGate = some g ∨ ∃ i, s.gates i = some g := by
  induction slots generalizing pkGate with
  | nil => exact .inl found
  | cons i rest ih =>
    unfold idleSearch at found
    split at found
    · exact ih found
    · rename_i here
      rcases ih found with same | later
      · exact .inr ⟨i, same ▸ here⟩
      · exact .inr later
    · rename_i here
      split at found
      · rcases ih found with same | later
        · exact .inr ⟨i, same ▸ here⟩
        · exact .inr later
      · exact ih found

theorem getIdleGate_active (found : s.getIdleGate = some g) : ∃ i, s.gates i = some g := by
  rcases idleSearch_active found with impossible | active
  · cases impossible
  · exact active

/-- What kickUserFromGate sends when an account is admitted again. -/
def kickOrders (s : Login) (a : AccountId) : List (GatePtr × GateMessage) :=
  match getData s.accts a with
  | some account =>
      if account.nGateId < maxGateId then
        match s.gates account.nGateId with
        | some g => [(g, .kickUser account.nTranId a)]
        | none => []
      else []
  | none => []

theorem kick_eq (s : Login) (a : AccountId) :
    (match getData s.accts a with
      | some account => s.kickUserFromGate a account
      | none => s) = { s with toGates := s.toGates ++ s.kickOrders a } := by
  unfold kickOrders
  cases getData s.accts a with
  | none => simp
  | some account =>
    simp only [kickUserFromGate]
    split
    · cases s.gates account.nGateId with
      | none => simp
      | some g => rfl
    · simp

/-- The transid that the check gives its account. -/
def newTransId (s : Login) (data : CheckAcct) (time : Nat) : TranId :=
  makeTransId (s.loginText data) time

/-- The check admits its account. -/
def Passes (s : Login) (data : CheckAcct) (outcome : Outcome) : Prop :=
  s.isValid data.ower = true ∧ outcome.sucess = true ∧ outcome.acct ≠ invalidAccount

/-- What checkAccountCall can do. -/
inductive Checked (s : Login) (data : CheckAcct) (outcome : Outcome) (time serverTime : Nat) :
    Login → Prop where
  | dropped (fails : ¬ s.Passes data outcome) : Checked s data outcome time serverTime s
  | refused (message : ClientMessage) (fails : ¬ s.Passes data outcome)
      (plain : ∀ t ip port, message ≠ .loginSuccess t ip port) :
      Checked s data outcome time serverTime (s.sendClient data.ower data.asked message)
  | noGate (passes : s.Passes data outcome) (none : s.getIdleGate = none) :
      Checked s data outcome time serverTime
        ({ s with
          toGates := s.toGates ++ s.kickOrders outcome.acct
          accts := eraseData (s.accts.insert outcome.acct
            ⟨s.newTransId data time, invalidGateId⟩) outcome.acct }.sendClient data.ower data.asked
              .loginFail)
  | given {g : GatePtr} (passes : s.Passes data outcome) (idle : s.getIdleGate = some g) :
      Checked s data outcome time serverTime { s with
        toGates := s.toGates ++ s.kickOrders outcome.acct ++
          [(g, .userLogin (s.newTransId data time) outcome.acct data.asked)]
        accts := (s.accts.insert outcome.acct ⟨s.newTransId data time, invalidGateId⟩).insert
          outcome.acct ⟨s.newTransId data time, (s.gateSession g).gateId⟩
        gateSession := Function.update s.gateSession g { s.gateSession g with
          balenceTime := (s.gateSession g).balenceTime ++ [serverTime] }
        waitSessions := addData s.waitSessions (s.newTransId data time) ⟨data.ower, data.asked⟩ }

theorem idleSearch_congr {s' : Login} (gates : s'.gates = s.gates)
    (gateSession : s'.gateSession = s.gateSession) (slots : List GateId)
    (pkGate : Option GatePtr) : s'.idleSearch slots pkGate = s.idleSearch slots pkGate := by
  have count : ∀ g, s'.getBalenceCount g = s.getBalenceCount g := by
    intro g
    rw [getBalenceCount, getBalenceCount, gateSession]
  induction slots generalizing pkGate with
  | nil => rfl
  | cons i rest ih => simp only [idleSearch, gates, count, ih]

theorem getIdleGate_congr {s' : Login} (gates : s'.gates = s.gates)
    (gateSession : s'.gateSession = s.gateSession) : s'.getIdleGate = s.getIdleGate :=
  idleSearch_congr gates gateSession (List.range maxGateId) none

theorem giveUserToGate_none (idle : s.getIdleGate = none) (account : Account)
    (asked : Connection) (serverTime : Nat) :
    s.giveUserToGate a account p asked serverTime = none := by
  simp [giveUserToGate, idle]

theorem giveUserToGate_some (idle : s.getIdleGate = some g) (account : Account)
    (asked : Connection) (serverTime : Nat) :
    s.giveUserToGate a account p asked serverTime = some { s with
      accts := s.accts.insert a { account with nGateId := (s.gateSession g).gateId }
      gateSession := Function.update s.gateSession g { s.gateSession g with
        balenceTime := (s.gateSession g).balenceTime ++ [serverTime] }
      waitSessions := addData s.waitSessions account.nTranId ⟨p, asked⟩
      toGates := s.toGates ++ [(g, .userLogin account.nTranId a asked)] } := by
  simp only [giveUserToGate, idle]
  rfl

theorem checkAccountCall_checked (s : Login) (data : CheckAcct) (outcome : Outcome)
    (time serverTime : Nat) :
    Checked s data outcome time serverTime (s.checkAccountCall data outcome time serverTime) := by
  unfold checkAccountCall
  split
  · rename_i valid
    split
    · rename_i sucess
      split
      · rename_i known
        have passes : s.Passes data outcome := ⟨valid, sucess, known⟩
        simp only [kick_eq]
        let admitted : Login := { s with
          toGates := s.toGates ++ s.kickOrders outcome.acct
          accts := s.accts.insert outcome.acct ⟨s.newTransId data time, invalidGateId⟩ }
        have same : admitted.getIdleGate = s.getIdleGate := getIdleGate_congr rfl rfl
        change Checked s data outcome time serverTime (match admitted.giveUserToGate outcome.acct
          ⟨s.newTransId data time, invalidGateId⟩ data.ower data.asked serverTime with
          | some s => s
          | none => (admitted.removeAccount outcome.acct).sendClient data.ower data.asked .loginFail)
        cases idle : s.getIdleGate with
        | none =>
          rw [idle] at same
          rw [giveUserToGate_none same]
          exact .noGate passes idle
        | some g =>
          rw [idle] at same
          rw [giveUserToGate_some same]
          exact .given passes idle
      · rename_i unknown
        exact .refused _ (fun passes => unknown passes.2.2) (by simp)
    · rename_i failed
      exact .refused _ (fun passes => failed passes.2.1) (by simp)
  · rename_i invalid
    exact .dropped fun passes => invalid passes.1

/-- The accounts once a gate has reported these. -/
def reported (gate : GateId) (accounts : List (AccountId × TranId))
    (accts : OrderedMap AccountId Account) : OrderedMap AccountId Account :=
  accounts.foldl (fun m entry => m.insert entry.1 ⟨entry.2, gate⟩) accts

/-- No account of the list is recorded at another gate. -/
def Agrees (s : Login) (gate : GateId) (accounts : List (AccountId × TranId)) : Prop :=
  ∀ entry ∈ accounts, ∀ account, getData s.accts entry.1 = some account → account.nGateId = gate

theorem addAccounts_agrees {gate : GateId} {accounts : List (AccountId × TranId)}
    (agrees : s.Agrees gate accounts) :
    addAccounts gate accounts s = { s with accts := reported gate accounts s.accts } := by
  induction accounts generalizing s with
  | nil => rfl
  | cons entry rest ih =>
    obtain ⟨b, t⟩ := entry
    have later : (s.addAccount b t gate).Agrees gate rest := by
      intro other member account found
      simp only [addAccount, getData, OrderedMap.find?_insert] at found
      split at found
      · cases found
        rfl
      · exact agrees other (List.mem_cons_of_mem _ member) account found
    unfold addAccounts
    split
    · rename_i account found
      rw [if_pos (agrees (b, t) List.mem_cons_self account found)]
      exact ih later
    · exact ih later

theorem addAccounts_crashes {gate : GateId} {accounts : List (AccountId × TranId)}
    (clash : ¬ s.Agrees gate accounts) : (addAccounts gate accounts s).crashed = true := by
  induction accounts generalizing s with
  | nil => exact absurd (by intro entry member; cases member) clash
  | cons entry rest ih =>
    obtain ⟨b, t⟩ := entry
    have later : (∀ account, getData s.accts b = some account → account.nGateId = gate) →
        ¬ (s.addAccount b t gate).Agrees gate rest := by
      intro first agrees
      apply clash
      intro other member account found
      rcases List.mem_cons.mp member with rfl | there
      · exact first account found
      · by_cases here : b = other.1
        · exact first account (here ▸ found)
        · apply agrees other there account
          simpa [addAccount, getData, here] using found
    unfold addAccounts
    split
    · rename_i account found
      split
      · rename_i same
        apply ih
        apply later
        intro other foundOther
        rw [found] at foundOther
        exact Option.some.inj foundOther ▸ same
      · rfl
    · rename_i absent
      apply ih
      apply later
      intro other foundOther
      rw [absent] at foundOther
      cases foundOther

theorem reported_unlisted {gate : GateId} {accounts : List (AccountId × TranId)}
    {accts : OrderedMap AccountId Account} (missing : ∀ t, (a, t) ∉ accounts) :
    getData (reported gate accounts accts) a = getData accts a := by
  induction accounts generalizing accts with
  | nil => rfl
  | cons entry rest ih =>
    have apart : entry.1 ≠ a := by
      rintro rfl
      exact missing entry.2 List.mem_cons_self
    have later : ∀ t, (a, t) ∉ rest := fun t there => missing t (List.mem_cons_of_mem _ there)
    rw [reported, List.foldl_cons, ← reported, ih later]
    simp [getData, apart]

theorem reported_listed {gate : GateId} {accounts : List (AccountId × TranId)}
    {accts : OrderedMap AccountId Account} {t : TranId}
    (distinct : accounts.Pairwise fun x y => x.1 < y.1) (member : (a, t) ∈ accounts) :
    getData (reported gate accounts accts) a = some ⟨t, gate⟩ := by
  induction accounts generalizing accts with
  | nil => cases member
  | cons entry rest ih =>
    obtain ⟨above, tail⟩ := List.pairwise_cons.mp distinct
    rcases List.mem_cons.mp member with rfl | there
    · have absent : ∀ k, (a, k) ∉ rest := fun k later => lt_irrefl a (above (a, k) later)
      rw [reported, List.foldl_cons, ← reported, reported_unlisted absent]
      simp [getData]
    · exact ih tail there

theorem addAccounts_eq (gate : GateId) (accounts : List (AccountId × TranId)) (s : Login) :
    ∃ accts crashed, addAccounts gate accounts s =
      { s with accts := accts, crashed := crashed } := by
  induction accounts generalizing s with
  | nil => exact ⟨s.accts, s.crashed, rfl⟩
  | cons entry rest ih =>
    obtain ⟨a, t⟩ := entry
    obtain ⟨accts, crashed, later⟩ := ih (s.addAccount a t gate)
    unfold addAccounts
    split
    · split
      · exact ⟨accts, crashed, later⟩
      · exact ⟨s.accts, true, rfl⟩
    · exact ⟨accts, crashed, later⟩

theorem parseGateRegister_eq (s : Login) (g : GatePtr) (serverid : Nat) (ip : Bytes) (port : Nat)
    (accounts : List (AccountId × TranId)) :
    ∃ gates gateSession accts crashed, s.parseGateRegister g serverid ip port accounts =
      { s with gates := gates, gateSession := gateSession, accts := accts, crashed := crashed } := by
  simp only [parseGateRegister, addGate]
  split
  · obtain ⟨accts, crashed, added⟩ := addAccounts_eq (serverid % 2 ^ 8) accounts _
    exact ⟨_, _, accts, crashed, added⟩
  · obtain ⟨accts, crashed, added⟩ := addAccounts_eq (serverid % 2 ^ 8) accounts _
    exact ⟨_, _, accts, crashed, added⟩

theorem parseGateRegister_agrees {serverid : Nat} (ip : Bytes) (port : Nat)
    {accounts : List (AccountId × TranId)} (agrees : s.Agrees (serverid % 2 ^ 8) accounts) :
    ∃ gates gateSession, s.parseGateRegister g serverid ip port accounts = { s with
      gates := gates
      gateSession := gateSession
      accts := reported (serverid % 2 ^ 8) accounts s.accts } := by
  simp only [parseGateRegister, addGate]
  split
  · exact ⟨_, _, addAccounts_agrees agrees⟩
  · exact ⟨_, _, addAccounts_agrees agrees⟩

theorem parseGateRegister_crashes {serverid : Nat} (ip : Bytes) (port : Nat)
    {accounts : List (AccountId × TranId)} (clash : ¬ s.Agrees (serverid % 2 ^ 8) accounts) :
    (s.parseGateRegister g serverid ip port accounts).crashed = true := by
  simp only [parseGateRegister, addGate]
  split
  · exact addAccounts_crashes clash
  · exact addAccounts_crashes clash

theorem parseGateRegister_listed {serverid : Nat} {gate : GateId} (ip : Bytes) (port : Nat)
    {accounts : List (AccountId × TranId)} (whole : serverid % 2 ^ 8 = gate)
    (inRange : invalidGateId < gate ∧ gate < maxGateId) (agrees : s.Agrees gate accounts) :
    s.parseGateRegister g serverid ip port accounts = { s with
      gates := Function.update s.gates gate (some g)
      gateSession := Function.update s.gateSession g { s.gateSession g with
        gateId := gate
        onlines := accounts.length
        outIp := ip
        outPort := port }
      accts := reported gate accounts s.accts } := by
  simp only [parseGateRegister, addGate, whole]
  rw [if_pos inRange]
  exact addAccounts_agrees agrees

end Login

/-- The events that only a check or the report of a gate follows change the accounts. -/
def RecordsAccounts : Event → Bool
  | .finish _ _ _ _ => true
  | .gateRegister _ _ _ _ _ => true
  | _ => false

theorem handle_kept {s : Login} {event : Event} (quiet : RecordsAccounts event = false) :
    (handle s event).accts = s.accts ∧ (handle s event).crashed = s.crashed := by
  cases event with
  | arm p =>
    simp only [handle, Login.arm]
    split <;> exact ⟨rfl, rfl⟩
  | accept p address =>
    simp only [handle, Login.accept]
    split <;> exact ⟨rfl, rfl⟩
  | disconnect p =>
    simp only [handle, Login.disconnect]
    split <;> exact ⟨rfl, rfl⟩
  | freeSession p =>
    simp only [handle, Login.freeSession]
    split <;> exact ⟨rfl, rfl⟩
  | request p checkType str pwd =>
    simp only [handle, Login.checkAccount]
    split <;> exact ⟨rfl, rfl⟩
  | finish i outcome time serverTime => cases quiet
  | gateRegister g serverid ip port accounts => cases quiet
  | gateOnlines g onlines => exact ⟨rfl, rfl⟩
  | gateUserPrepar g t asked =>
    simp only [handle, Login.parseGateUserPrepar, Login.receiveUserPrepar]
    split
    · rename_i wait found
      obtain ⟨log, sent⟩ := s.sendClient_eq wait.session asked
        (.loginSuccess t (s.gateSession g).outIp (s.gateSession g).outPort)
      rw [sent]
      exact ⟨rfl, rfl⟩
    · exact ⟨rfl, rfl⟩
  | balenceInfo g serverTime => exact ⟨rfl, rfl⟩
  | gateClose g =>
    simp only [handle, Login.removeGate]
    split <;> exact ⟨rfl, rfl⟩

end LoginServer
