import DreamHeroes.CountdownTimers
import DreamHeroes.DatabaseThreads
import DreamHeroes.GameServer

/- Stopping. A game server saves its heroes and waits for MsgSaveAllHeroesDB2GS; the database
   server stops its character database 15 seconds after the first MsgSaveAllHeroesGS2DB. -/
namespace SaveToClose

open GameHero GameServer CountdownTimers TaskLines LabelledRuns
open DatabaseThreads (Database Submission Kept normalThread)

abbrev ServerId := Nat

def queryHeroInfo : Nat := 1
def saveHeroInfo : Nat := 3

/- _SAVE_TO_CLOSE_TIME_ in milliseconds. -/
def saveToCloseTime : Nat := 15 * 1000

inductive TimerCall where
  | onSaveToClose
  deriving DecidableEq, Repr

/- A game server process. toDatabase of server is what its link still has to carry, replies
   counts the MsgSaveAllHeroesDB2GS on their way to it. -/
structure GameProcess where
  server : Server
  waitStop : Bool
  saveAllHeroesOk : Bool
  stop : Bool
  replies : Nat

/- gameId is the m_game_id of the session of each game server, games the table m_Games. Three
   history values: asked and answered name the game servers whose MsgSaveAllHeroesGS2DB was
   handled and those the reply was sent to; saves lists the save statements that arrived, each
   with its task, none if addSQueryTask refused it. -/
structure System (Row : Type) where
  game : ServerId → GameProcess
  gameId : ServerId → Nat
  games : Nat → Option ServerId
  database : Database Row
  receiveCoseMsg : Bool
  events : List (Countdown TimerCall)
  stop : Bool
  asked : List ServerId
  answered : List ServerId
  saves : List (Option Submission)

variable {Row : Type}

namespace System

/-- The main loop of the database server runs and is outside of Database::run. -/
def free (s : System Row) : Bool := !s.stop && s.database.main matches .idle

def setGame (s : System Row) (g : ServerId) (game : GameProcess) : System Row :=
  { s with game := Function.update s.game g game }

/- GameManager::sendMessage for MsgSaveAllHeroesDB2GS -/
def sendMessage (s : System Row) (gs : Nat) : System Row :=
  if invalidGateId < gs ∧ gs < maxGateId then
    match s.games gs with
    | some g =>
        { s.setGame g { s.game g with replies := (s.game g).replies + 1 } with
          answered := s.answered ++ [g] }
    | none => s
  else s

def saveToClose (s : System Row) (gsid : Nat) : System Row :=
  if s.receiveCoseMsg then s
  else
    let events :=
      if s.events.any (·.call = .onSaveToClose) then s.events
      else s.events ++ [⟨.onSaveToClose, saveToCloseTime⟩]
    { s with events := events, receiveCoseMsg := true }.sendMessage gsid

def saveSqlData (s : System Row) : System Row :=
  let parms : Submission := ⟨s.database.accepted.length, saveHeroInfo, .storeQuery⟩
  { s with
    database := s.database.addQueryTask saveHeroInfo .storeQuery
    saves := s.saves ++ [if s.database.objState = .run then some parms else none] }

/- The handlers of GameSession. MsgVerifyToyGS2DB does not get through the parser, since
   VerifyToyCDKey leaves its required account out. -/
def parseGameMessage (s : System Row) (g : ServerId) : DatabaseMessage → System Row
  | .reqHeroData _ => { s with database := s.database.addQueryTask queryHeroInfo .storeQuery }
  | .saveData _ _ => s.saveSqlData
  | .saveAllHeroes => { s with asked := s.asked ++ [g] }.saveToClose (s.gameId g)
  | .verifyToy _ => s

def receive (s : System Row) (g : ServerId) : System Row :=
  match (s.game g).server.toDatabase with
  | [] => s
  | (_, message) :: rest =>
      (s.setGame g { s.game g with
        server := { (s.game g).server with toDatabase := rest } }).parseGameMessage g message

/- parseGameRegister -/
def register (s : System Row) (g : ServerId) (serverid : Nat) : System Row :=
  let id := serverid % 2 ^ 16
  let s := { s with gameId := Function.update s.gameId g id }
  if invalidGateId < id ∧ id < maxGateId then
    { s with games := Function.update s.games id (some g) }
  else s

/- The link between the two breaks and the session on the database server closes. -/
def linkLost (s : System Row) (g : ServerId) : System Row :=
  let id := s.gameId g
  let game := s.game g
  let s := s.setGame g
    { game with server := { game.server with toDatabase := [] }, replies := 0 }
  let games :=
    if invalidGateId < id ∧ id < maxGateId ∧ s.games id = some g then
      Function.update s.games id none
    else s.games
  { s with gameId := Function.update s.gameId g invalidGateId, games := games }

/- GameServer::setStop, once behind the signal -/
def signalStop (s : System Row) (g : ServerId) : System Row :=
  let game := s.game g
  if game.stop || game.waitStop then s
  else s.setGame g { game with server := GameServer.step game.server .setStop, waitStop := true }

/- GameServer::checkStop -/
def checkStop (s : System Row) (g : ServerId) : System Row :=
  let game := s.game g
  if !game.stop && game.waitStop && game.saveAllHeroesOk then
    s.setGame g { game with server := GameServer.step game.server .setStop, stop := true }
  else s

/- parseMsgSaveAllHeroes -/
def deliver (s : System Row) (g : ServerId) : System Row :=
  let game := s.game g
  if game.stop || game.replies = 0 then s
  else s.setGame g { game with saveAllHeroesOk := true, replies := game.replies - 1 }

def onSaveToClose (database : Database Row) : TimerCall → Database Row
  | .onSaveToClose => { database with objState := .waitStop }

def tick (s : System Row) (diff : Nat) : System Row :=
  let after := update onSaveToClose diff s.database s.events
  { s with database := after.1, events := after.2 }

def gameEvent (s : System Row) (g : ServerId) (event : Event) : System Row :=
  if (s.game g).stop then s
  else s.setGame g { s.game g with server := GameServer.step (s.game g).server event }

/- The threads and the main thread of the character database. Its callbacks and the other
   handlers add tasks of the other types; only the timer stops it. -/
def databaseEvent (s : System Row) : DatabaseThreads.Event Row → System Row
  | .setWaitStop => s
  | .addQueryTask ntype store =>
      if ntype = saveHeroInfo then s
      else { s with database := DatabaseThreads.step s.database (.addQueryTask ntype store) }
  | event => { s with database := DatabaseThreads.step s.database event }

end System

inductive SystemEvent (Row : Type) where
  | game (g : ServerId) (event : Event)
  | signalStop (g : ServerId)
  | checkStop (g : ServerId)
  | register (g : ServerId) (serverid : Nat)
  | linkLost (g : ServerId)
  | receive (g : ServerId)
  | deliver (g : ServerId)
  | tick (diff : Nat)
  | database (event : DatabaseThreads.Event Row)
  | databaseCheckStop

/- The handlers and timers of the database server run in its main loop. -/
def step (s : System Row) : SystemEvent Row → System Row
  | .game g event => if event matches .setStop then s else s.gameEvent g event
  | .signalStop g => s.signalStop g
  | .checkStop g => s.checkStop g
  | .register g serverid => if s.free then s.register g serverid else s
  | .linkLost g => s.linkLost g
  | .receive g => if s.free then s.receive g else s
  | .deliver g => s.deliver g
  | .tick diff => if s.free then s.tick diff else s
  | .database event => s.databaseEvent event
  | .databaseCheckStop =>
      if s.free ∧ s.database.objState = .stop then { s with stop := true } else s

def startGame (config : HeroConfig) (generateId : Nat) : GameProcess :=
  ⟨GameServer.start config generateId, false, false, false, 0⟩

def start (config : ServerId → HeroConfig) (generateId : ServerId → Nat) (threadCount : Nat) :
    System Row where
  game := fun g => startGame (config g) (generateId g)
  gameId := fun _ => invalidGateId
  games := fun _ => none
  database := DatabaseThreads.initDatabase threadCount
  receiveCoseMsg := false
  events := []
  stop := false
  asked := []
  answered := []
  saves := []

/-- Every game server whose MsgSaveAllHeroesGS2DB arrived is answered, and every save statement
that arrived is queued and worked off when the character database has stopped. -/
structure Saved (s : System Row) : Prop where
  answered : ∀ g ∈ s.asked, g ∈ s.answered
  queued : none ∉ s.saves
  executed : s.database.objState = .stop → ∀ parms, some parms ∈ s.saves →
    parms ∈ (s.database.executed ++ s.database.batch ++ s.database.results).map (·.parms)

/-- The reply to a first MsgSaveAllHeroesGS2DB finds the way back. -/
def First (s : System Row) (g : ServerId) : Prop :=
  s.receiveCoseMsg = false ∧ invalidGateId < s.gameId g ∧ s.gameId g < maxGateId ∧
    s.games (s.gameId g) = some g

/-- The message finds the database server as the game servers expect it. -/
def Welcome (s : System Row) (g : ServerId) : DatabaseMessage → Prop
  | .saveAllHeroes => g ∈ s.answered ∨ First s g
  | .saveData _ _ => s.database.objState = .run
  | _ => True

/-- The condition on a step. -/
def Orderly (s : System Row) : SystemEvent Row → Prop
  | .receive g => s.free = true → ∀ flag message rest,
      (s.game g).server.toDatabase = (flag, message) :: rest → Welcome s g message
  | .database .main => s.database.main = .checking [] →
      ∀ thread ∈ s.database.threads, thread.data = saveHeroInfo → thread.task = none
  | _ => True

variable {s s' : System Row} {d d' : Database Row} {saves : List (Option Submission)}
  {event : SystemEvent Row} {g : ServerId}

/-- The save statements are the tasks of their type, and none of them is left when the
database has stopped. -/
structure Stored (d : Database Row) (saves : List (Option Submission)) : Prop where
  kept : Kept d
  conserved : ∀ ntype, Conserved (d.line ntype)
  calm : d.objState = .stop →
    (d.line saveHeroInfo).queued = [] ∧ (d.line saveHeroInfo).held = []
  listed : ∀ parms, some parms ∈ saves ↔ parms ∈ d.accepted ∧ parms.ntype = saveHeroInfo

theorem stored_executed (stored : Stored d saves) (stop : d.objState = .stop)
    {parms : Submission} (member : some parms ∈ saves) :
    parms ∈ (d.executed ++ d.batch ++ d.results).map (·.parms) := by
  obtain ⟨accepted, ntype⟩ := (stored.listed parms).mp member
  have placed : parms ∈ (d.line saveHeroInfo).accepted :=
    List.mem_filter.mpr ⟨accepted, decide_eq_true ntype⟩
  obtain ⟨queued, held⟩ := stored.calm stop
  replace placed := (stored.conserved saveHeroInfo).mem_iff.mp placed
  simp only [Line.pending, queued, held, List.append_nil] at placed
  simp only [Database.line, DatabaseThreads.ofType, ← List.filter_append, ← List.map_append,
    ← List.append_assoc] at placed
  exact (List.mem_filter.mp placed).1

/-- A step that accepts no save keeps what is stored. -/
theorem stored_step {event : DatabaseThreads.Event Row} (stored : Stored d saves)
    (other : ∀ ntype store, event = .addQueryTask ntype store → ntype ≠ saveHeroInfo)
    (clean : event = .main → d.main = .checking [] → ∀ thread ∈ d.threads,
      thread.data = saveHeroInfo → thread.task = none) :
    Stored (DatabaseThreads.step d event) saves where
  kept := DatabaseThreads.kept_step stored.kept event
  conserved := fun ntype =>
    conserved_move (DatabaseThreads.step_move stored.kept event ntype) (stored.conserved ntype)
  calm := by
    intro stop
    rcases DatabaseThreads.stop_cases stop with ⟨before, accepted⟩ | ⟨rfl, main⟩
    · obtain ⟨queued, held⟩ := stored.calm before
      apply drained_move (DatabaseThreads.step_move stored.kept event saveHeroInfo) queued held
      simp only [Database.line, accepted]
    · rw [DatabaseThreads.line_stop main]
      obtain ⟨empty, _⟩ := stored.kept.quiet [] (by simp [Database.unasked, main])
      exact ⟨by simp [Database.line, empty],
        (DatabaseThreads.held_checked stored.kept main).mpr (clean rfl main)⟩
  listed := by
    intro parms
    rw [stored.listed]
    rcases DatabaseThreads.accepted_step d event with same | ⟨ntype, store, rfl, more⟩
    · rw [same]
    · rw [more, List.mem_append, List.mem_singleton]
      constructor
      · exact fun old => ⟨.inl old.1, old.2⟩
      · rintro ⟨old | rfl, save⟩
        · exact ⟨old, save⟩
        · exact absurd save (other ntype store rfl)

theorem stored_query {ntype : Nat} (stored : Stored d saves) (idle : d.main = .idle)
    (other : ntype ≠ saveHeroInfo) : Stored (d.addQueryTask ntype .storeQuery) saves := by
  have calls : d.calls = true := by simp [Database.calls, idle]
  have stepped : Stored (DatabaseThreads.step d (.addQueryTask ntype .storeQuery)) saves := by
    apply stored_step stored
    · rintro _ _ same
      cases same
      exact other
    · intro same
      cases same
  simpa [DatabaseThreads.step, calls] using stepped

theorem stored_save (stored : Stored d saves) (idle : d.main = .idle) (run : d.objState = .run) :
    Stored (d.addQueryTask saveHeroInfo .storeQuery)
      (saves ++ [some ⟨d.accepted.length, saveHeroInfo, .storeQuery⟩]) where
  kept := DatabaseThreads.kept_addQueryTask stored.kept (by simp [Database.calls, idle])
  conserved := fun ntype =>
    conserved_move (DatabaseThreads.addQueryTask_move d _ _ ntype) (stored.conserved ntype)
  calm := by
    intro stop
    have same := (DatabaseThreads.addRealTask_same d saveHeroInfo
      (.new ⟨d.accepted.length, saveHeroInfo, .storeQuery⟩)).2.2.2
    simp [Database.addQueryTask, run, same] at stop
  listed := by
    intro parms
    rw [DatabaseThreads.accepted_addQueryTask, if_pos run]
    simp only [List.mem_append, List.mem_singleton, Option.some.injEq, stored.listed]
    constructor
    · rintro (old | rfl)
      · exact ⟨.inl old.1, old.2⟩
      · exact ⟨.inr rfl, rfl⟩
    · rintro ⟨old | same, save⟩
      · exact .inl ⟨old, save⟩
      · exact .inr same

theorem stored_setWaitStop (stored : Stored d saves) :
    Stored { d with objState := .waitStop } saves where
  kept := ⟨stored.kept.queueType, stored.kept.heldType, stored.kept.served, stored.kept.single,
    stored.kept.ids, stored.kept.quiet⟩
  conserved := stored.conserved
  calm := by
    intro stop
    cases stop
  listed := stored.listed

/-- The invariant of the orderly runs. -/
structure Inv (s : System Row) : Prop where
  stored : Stored s.database s.saves
  answered : ∀ g ∈ s.asked, g ∈ s.answered
  queued : none ∉ s.saves

theorem saved_of_inv (inv : Inv s) : Saved s where
  answered := inv.answered
  queued := inv.queued
  executed := fun stop _ member => stored_executed inv.stored stop member

/-- Steps that leave the database server alone keep the invariant. -/
theorem inv_of_same (inv : Inv s) (database : s'.database = s.database)
    (saves : s'.saves = s.saves) (asked : s'.asked = s.asked)
    (answered : s'.answered = s.answered) :
    Inv s' := by
  constructor
  · rw [database, saves]
    exact inv.stored
  · rw [asked, answered]
    exact inv.answered
  · rw [saves]
    exact inv.queued

theorem sendMessage_same (s : System Row) (gs : Nat) :
    (s.sendMessage gs).database = s.database ∧ (s.sendMessage gs).saves = s.saves ∧
      (s.sendMessage gs).asked = s.asked := by
  unfold System.sendMessage
  split
  · split <;> exact ⟨rfl, rfl, rfl⟩
  · exact ⟨rfl, rfl, rfl⟩

theorem sendMessage_answered (s : System Row) (gs : Nat) : (s.sendMessage gs).answered =
    s.answered ++ if invalidGateId < gs ∧ gs < maxGateId then (s.games gs).toList else [] := by
  unfold System.sendMessage
  split
  · split <;> simp_all
  · simp

/-- What saveToClose leaves alone and whom it answers. -/
theorem saveToClose_same (s : System Row) (gsid : Nat) :
    (s.saveToClose gsid).database = s.database ∧ (s.saveToClose gsid).saves = s.saves ∧
      (s.saveToClose gsid).asked = s.asked := by
  unfold System.saveToClose
  split
  · exact ⟨rfl, rfl, rfl⟩
  · exact sendMessage_same _ gsid

theorem saveToClose_answered (s : System Row) (gsid : Nat) : (s.saveToClose gsid).answered =
    s.answered ++ if s.receiveCoseMsg = false ∧ invalidGateId < gsid ∧ gsid < maxGateId then
      (s.games gsid).toList else [] := by
  unfold System.saveToClose
  split
  · rename_i received
    simp [received]
  · rename_i first
    rw [sendMessage_answered]
    simp [first]

theorem answered_saveToClose_iff (s : System Row) (g : ServerId) :
    g ∈ (s.saveToClose (s.gameId g)).answered ↔ g ∈ s.answered ∨ First s g := by
  rw [saveToClose_answered, List.mem_append]
  unfold First
  split
  · rename_i sent
    simp [sent]
  · rename_i silent
    simp only [List.not_mem_nil, or_false]
    constructor
    · exact .inl
    · rintro (old | first)
      · exact old
      · exact absurd ⟨first.1, first.2.1, first.2.2.1⟩ silent

theorem idle_of_free (free : s.free = true) : s.database.main = .idle := by
  simp only [System.free, Bool.and_eq_true] at free
  obtain ⟨_, idle⟩ := free
  split at idle
  · assumption
  · cases idle

theorem inv_parseGameMessage {message : DatabaseMessage} (inv : Inv s)
    (idle : s.database.main = .idle) (welcome : Welcome s g message) :
    Inv (s.parseGameMessage g message) := by
  cases message with
  | reqHeroData a =>
    exact ⟨stored_query inv.stored idle (by decide), inv.answered, inv.queued⟩
  | saveData h statement =>
    have run : s.database.objState = .run := welcome
    simp only [System.parseGameMessage, System.saveSqlData, if_pos run]
    refine ⟨stored_save inv.stored idle run, inv.answered, ?_⟩
    simpa using inv.queued
  | saveAllHeroes =>
    obtain ⟨database, saves, asked⟩ :=
      saveToClose_same { s with asked := s.asked ++ [g] } (s.gameId g)
    have answered := answered_saveToClose_iff { s with asked := s.asked ++ [g] }
    constructor
    · simp only [System.parseGameMessage, database, saves]
      exact inv.stored
    · intro other member
      simp only [System.parseGameMessage, asked, List.mem_append, List.mem_singleton] at member ⊢
      rcases member with old | rfl
      · rw [saveToClose_answered, List.mem_append]
        exact .inl (inv.answered other old)
      · exact (answered other).mpr welcome
    · simp only [System.parseGameMessage, saves]
      exact inv.queued
  | verifyToy cdKey => exact inv

theorem welcome_of_saved {message : DatabaseMessage}
    (saved : Saved (s.parseGameMessage g message)) : Welcome s g message := by
  cases message with
  | reqHeroData a => trivial
  | saveData h statement =>
    have queued := saved.queued
    simp only [System.parseGameMessage, System.saveSqlData, List.mem_append, List.mem_singleton,
      not_or] at queued
    by_contra stopped
    exact queued.2 (if_neg stopped).symm
  | saveAllHeroes =>
    have asked := (saveToClose_same { s with asked := s.asked ++ [g] } (s.gameId g)).2.2
    have answered := saved.answered g (by simp [System.parseGameMessage, asked])
    exact (answered_saveToClose_iff { s with asked := s.asked ++ [g] } g).mp answered
  | verifyToy cdKey => trivial

theorem welcome_setGame {message : DatabaseMessage} (game : GameProcess) :
    Welcome (s.setGame g game) g message ↔ Welcome s g message := by
  cases message <;> exact Iff.rfl

theorem inv_receive (inv : Inv s) (free : s.free = true)
    (orderly : Orderly s (.receive g)) : Inv (s.receive g) := by
  unfold System.receive
  split
  · exact inv
  · rename_i flag message rest first
    apply inv_parseGameMessage
    · exact inv_of_same inv rfl rfl rfl rfl
    · exact idle_of_free free
    · exact (welcome_setGame _).mpr (orderly free flag message rest first)

/-- The timer only asks the database to stop. -/
theorem stored_tick (stored : Stored s.database s.saves) (diff : Nat) :
    Stored (s.tick diff).database s.saves := by
  have keep : ∀ d : Database Row, Stored d s.saves → ∀ timer ∈ s.events, timer.left ≤ diff →
      Stored (System.onSaveToClose d timer.call) s.saves := by
    intro d held timer _ _
    cases timer.call with
    | onSaveToClose => exact stored_setWaitStop held
  exact update_invariant keep stored

theorem inv_databaseEvent {event : DatabaseThreads.Event Row} (inv : Inv s)
    (orderly : Orderly s (.database event)) : Inv (s.databaseEvent event) := by
  have stepped : ∀ event : DatabaseThreads.Event Row,
      (∀ ntype store, event = .addQueryTask ntype store → ntype ≠ saveHeroInfo) →
      (event = .main → s.database.main = .checking [] → ∀ thread ∈ s.database.threads,
        thread.data = saveHeroInfo → thread.task = none) →
      Inv { s with database := DatabaseThreads.step s.database event } :=
    fun event other clean => ⟨stored_step inv.stored other clean, inv.answered, inv.queued⟩
  cases event with
  | setWaitStop => exact inv
  | addQueryTask ntype store =>
    simp only [System.databaseEvent]
    split
    · exact inv
    · rename_i other
      apply stepped
      · rintro _ _ same
        cases same
        exact other
      · intro same
        cases same
  | main =>
    apply stepped
    · rintro _ _ same
      cases same
    · exact fun _ => orderly
  | thread i outcome =>
    apply stepped
    · rintro _ _ same
      cases same
    · intro same
      cases same

theorem inv_step (inv : Inv s) (orderly : Orderly s event) : Inv (step s event) := by
  have same : ∀ {s' : System Row}, s'.database = s.database → s'.saves = s.saves →
      s'.asked = s.asked → s'.answered = s.answered → Inv s' :=
    fun database saves asked answered => inv_of_same inv database saves asked answered
  cases event with
  | game g event =>
    simp only [step, System.gameEvent]
    repeat' split
    all_goals exact same rfl rfl rfl rfl
  | signalStop g =>
    simp only [step, System.signalStop]
    split <;> exact same rfl rfl rfl rfl
  | checkStop g =>
    simp only [step, System.checkStop]
    split <;> exact same rfl rfl rfl rfl
  | register g serverid =>
    simp only [step, System.register]
    repeat' split
    all_goals exact same rfl rfl rfl rfl
  | linkLost g => exact same rfl rfl rfl rfl
  | receive g =>
    simp only [step]
    split
    · rename_i free
      exact inv_receive inv free orderly
    · exact inv
  | deliver g =>
    simp only [step, System.deliver]
    split <;> exact same rfl rfl rfl rfl
  | tick diff =>
    simp only [step]
    split
    · exact ⟨stored_tick inv.stored diff, inv.answered, inv.queued⟩
    · exact inv
  | database event => exact inv_databaseEvent inv orderly
  | databaseCheckStop =>
    simp only [step]
    split <;> exact same rfl rfl rfl rfl

/-- A save that a thread still holds when the database stops is not worked off. -/
theorem held_of_saved (inv : Inv s) (main : s.database.main = .checking [])
    (saved : Saved (step s (.database .main))) :
    DatabaseThreads.heldParms saveHeroInfo s.database.threads = [] := by
  refine List.eq_nil_iff_forall_not_mem.mpr ?_
  intro parms held
  have after : (step s (.database .main)).database =
      { s.database.goes .checked with objState := .stop } := by
    simp [step, System.databaseEvent, DatabaseThreads.step, Database.mainStep, main]
  have conserved := inv.stored.conserved saveHeroInfo
  have distinct : (s.database.line saveHeroInfo).accepted.Nodup :=
    (DatabaseThreads.accepted_nodup inv.stored.kept).filter _
  have once := conserved.nodup_iff.mp distinct
  have accepted : parms ∈ (s.database.line saveHeroInfo).accepted :=
    conserved.mem_iff.mpr (by simp [Line.pending, Database.line, held])
  obtain ⟨listed, ntype⟩ := List.mem_filter.mp accepted
  have done := saved.executed (by rw [after]) parms
    ((inv.stored.listed parms).mpr ⟨listed, of_decide_eq_true ntype⟩)
  rw [after] at done
  simp only [Database.goes, Database.batch, List.append_nil, List.map_append] at done
  have worked : parms ∈ (s.database.line saveHeroInfo).finished ++
      (s.database.line saveHeroInfo).results := by
    simp only [Database.line, DatabaseThreads.ofType, ← List.filter_append]
    exact List.mem_filter.mpr ⟨done, ntype⟩
  have batch : (s.database.line saveHeroInfo).batch = [] := by
    simp [Database.line, Database.batch, main]
  rw [Line.pending, batch, List.nil_append, List.append_assoc, ← List.append_assoc] at once
  have apart := List.disjoint_of_nodup_append once
  exact apart worked (List.mem_append_left _ held)

/-- A step after which everything is saved is orderly. -/
theorem orderly_of_saved (inv : Inv s) (saved : Saved (step s event)) : Orderly s event := by
  cases event with
  | receive g =>
    intro free flag message rest first
    simp only [step, free, if_true, System.receive, first] at saved
    exact (welcome_setGame _).mp (welcome_of_saved saved)
  | database event =>
    cases event with
    | main =>
      intro main
      refine (DatabaseThreads.held_checked inv.stored.kept main).mp ?_
      exact held_of_saved inv main saved
    | setWaitStop => trivial
    | addQueryTask ntype store => trivial
    | thread i outcome => trivial
  | game g event => trivial
  | signalStop g => trivial
  | checkStop g => trivial
  | register g serverid => trivial
  | linkLost g => trivial
  | deliver g => trivial
  | tick diff => trivial
  | databaseCheckStop => trivial

theorem inv_start (config : ServerId → HeroConfig) (generateId : ServerId → Nat)
    (threadCount : Nat) : Inv (start config generateId threadCount : System Row) where
  stored :=
    let inv := DatabaseThreads.inv_initDatabase threadCount
    { kept := inv.kept
      conserved := inv.conserved
      calm := by
        intro stop
        cases stop
      listed := by
        intro parms
        simp [start, DatabaseThreads.initDatabase] }
  answered := by
    intro g member
    cases member
  queued := List.not_mem_nil

/-- Every game server that stops is answered and no save statement is lost in exactly the
orderly runs. -/
theorem saved_before_close_iff (config : ServerId → HeroConfig) (generateId : ServerId → Nat)
    (threadCount : Nat) (events : List (SystemEvent Row)) :
    EveryState step Saved (start config generateId threadCount) events ↔
      EveryStep step Orderly (start config generateId threadCount) events := by
  apply everyState_iff_everyStep Inv fun _ => True
  · exact fun s inv => saved_of_inv inv
  · exact fun s event _ inv orderly => inv_step inv orderly
  · exact fun s event _ inv saved => orderly_of_saved inv saved
  · exact inv_start config generateId threadCount
  · exact fun _ _ => trivial

/-- The second of two game servers that stop is never answered. -/
theorem second_server_waits : ¬ EveryState step Saved
    (start (fun _ => ⟨0, 0, 0, [], .empty⟩) (fun _ => 0) 1 : System Unit)
    [.register 1 1, .register 2 2, .signalStop 1, .signalStop 2, .receive 1, .receive 2] := by
  intro all
  have answered := (everyState_last all).answered 2 (by decide)
  exact absurd answered (by decide)

end SaveToClose
