import DreamHeroes.DatabaseTasks
import DreamHeroes.GameTurns

/- The rows of the character table while a game server and the database server run: who wrote
   them and which hero a save replaces them with. The selects of equips and toys and the reply
   with the data of a hero are left open: such a reply may come at any time with any data. -/
namespace HeroRows

open GameHero GameServer GameTurns DatabaseTasks OrderedMaps ObjMap LabelledRuns

/- writer is a history value: the hero whose save wrote the row, none for an older row. -/
structure StoredRow where
  row : CharacterRow
  writer : Option HeroPtr
  deriving DecidableEq, Repr

/- The database server has one thread for the selects of heroes and one for their saves. gameId
   is what the game server registered with. A message to create a hero holds no account: the one
   in toGame, for which it was asked, is a history value. -/
structure System where
  game : Server
  gameId : Nat
  character : Account → Option StoredRow
  queries : List (Task HeroQuery CharacterRow)
  saves : List (HeroPtr × SaveStatement)
  results : List (Task HeroQuery CharacterRow)
  toGame : List (TranId × Account)

/- executed says that the statement was executed although its answer may be lost. -/
structure SavePass where
  connected : Bool
  executed : Bool
  error : Option QueryError

inductive SystemEvent where
  | game (event : Event)
  | receive
  | query (pass : Pass)
  | save (pass : SavePass)
  | callback
  | deliver
  | linkLost
  | databaseRestart

namespace System

/- GameSession hands the messages of the game server to the DBQuestManager. -/
def parseGameMessage (s : System) (flag : TranId) : DatabaseMessage → System
  | .reqHeroData a => { s with queries := s.queries ++ [.new ⟨a, flag, s.gameId⟩] }
  | .saveData h statement => { s with saves := s.saves ++ [(h, statement)] }
  | .saveAllHeroes => s
  | .verifyToy _ => s

def receive (s : System) : System :=
  match s.game.toDatabase with
  | [] => s
  | (flag, message) :: rest =>
      { s with game := { s.game with toDatabase := rest } }.parseGameMessage flag message

def selected (s : System) (a : Account) : List CharacterRow :=
  ((s.character a).map (·.row)).toList

def query (s : System) (pass : Pass) : System :=
  match s.queries with
  | [] => s
  | task :: rest =>
      let after := task.pass (s.selected task.parms.account) pass
      if after.2 then { s with queries := rest, results := s.results ++ [after.1] }
      else { s with queries := after.1 :: rest }

/- Only a `replace into character` touches the table of this model. -/
def replaceInto (s : System) (h : HeroPtr) : SaveStatement → System
  | .character row =>
      { s with character := Function.update s.character row.accountId (some ⟨row, some h⟩) }
  | .equips _ => s
  | .toys _ _ => s

def finishes (error : Option QueryError) : Bool :=
  match error with
  | some error => ((Task.new () : Task Unit Unit).caught error).2
  | none => true

def save (s : System) (pass : SavePass) : System :=
  match s.saves with
  | [] => s
  | (h, statement) :: rest =>
      if pass.connected then
        let s := if pass.error = none ∨ pass.executed then s.replaceInto h statement else s
        if finishes pass.error then { s with saves := rest } else s
      else s

def callback (s : System) : System :=
  match s.results with
  | [] => s
  | task :: rest =>
      match execute task with
      | .needCreateHero tranid _ =>
          { s with results := rest, toGame := s.toGame ++ [(tranid, task.parms.account)] }
      | .queryEquips _ _ => { s with results := rest }

def deliver (s : System) : System :=
  match s.toGame with
  | [] => s
  | (t, _) :: rest => { s with game := GameServer.step s.game (.needCreateHero t), toGame := rest }

def gameEvent (s : System) : Event → System
  | .needCreateHero _ => s
  | event => { s with game := GameServer.step s.game event }

end System

def step (s : System) : SystemEvent → System
  | .game event => s.gameEvent event
  | .receive => s.receive
  | .query pass => s.query pass
  | .save pass => s.save pass
  | .callback => s.callback
  | .deliver => s.deliver
  | .linkLost => { s with game := { s.game with toDatabase := [] }, toGame := [] }
  | .databaseRestart => { s with queries := [], saves := [], results := [], toGame := [] }

def start (config : HeroConfig) (generateId gameId : Nat)
    (table : Account → Option CharacterRow) : System where
  game := GameServer.start config generateId
  gameId := gameId
  character := fun a => (table a).map fun row => ⟨row, none⟩
  queries := []
  saves := []
  results := []
  toGame := []

/-- The step replaces a row by a hero built from the config that did not write the row. -/
def Overwrites (s : System) : SystemEvent → Prop
  | .save pass => pass.connected = true ∧ (pass.error = none ∨ pass.executed = true) ∧
      ∃ h row rest stored, s.saves = (h, .character row) :: rest ∧
        (s.game.heroAt h).filledBy = .config ∧ s.character row.accountId = some stored ∧
          stored.writer ≠ some h
  | _ => False

/-- A default hero for the account does no harm: it has no row, or it has its hero. -/
def Open (s : System) (a : Account) : Prop :=
  s.character a = none ∨ getData s.game.heros a ≠ none

/-- No failed select is taken for an absent hero, and the message to create a hero reaches the
player it was asked for. -/
def Trusted (s : System) : SystemEvent → Prop
  | .query pass => ∀ task rest, s.queries = task :: rest →
      (task.pass (s.selected task.parms.account) pass).2 = true →
        FailedEmpty (task.pass (s.selected task.parms.account) pass).1 →
          Open s task.parms.account
  | .deliver => ∀ t asked rest, s.toGame = (t, asked) :: rest →
      ∀ p, getData s.game.onlines t = some p → (s.game.sessions p).account = asked
  | _ => True

/-- The invariant of the trusted runs. -/
structure Faithful (s : System) : Prop where
  valid : Valid s.game
  sent : ∀ entry ∈ s.game.toDatabase, SavesOwn s.game entry.2
  saves : ∀ h row, (h, .character row) ∈ s.saves → getData s.game.heros row.accountId = some h
  written : ∀ a row h, s.character a = some ⟨row, some h⟩ → getData s.game.heros a = some h
  results : ∀ task ∈ s.results, (task.result = none ∨ task.result = some []) →
    Open s task.parms.account
  toGame : ∀ entry ∈ s.toGame, Open s entry.2
  default : ∀ a h, getData s.game.heros a = some h → (s.game.heroAt h).filledBy = .config →
    ∀ stored, s.character a = some stored → stored.writer = some h

variable {s s' : System} {event : SystemEvent}

theorem faithful_start (config : HeroConfig) (generateId gameId : Nat)
    (table : Account → Option CharacterRow) :
    Faithful (start config generateId gameId table) where
  valid := valid_start config generateId
  sent := by
    intro entry member
    cases member
  saves := by
    intro h row member
    cases member
  written := by
    intro a row h stored
    simp [start] at stored
  results := by
    intro task member
    cases member
  toGame := by
    intro entry member
    cases member
  default := by
    intro a h listed
    cases listed

/-- A save of the queue finds the row absent or its own, if its hero is a default hero. -/
theorem faithful_not_overwrites (faithful : Faithful s) : ¬ Overwrites s event := by
  intro overwrites
  cases event with
  | save pass =>
    obtain ⟨_, _, h, row, rest, stored, first, config, found, other⟩ := overwrites
    have listed := faithful.saves h row (by simp [first])
    exact other (faithful.default row.accountId h listed config stored found)
  | _ => exact overwrites

/-- What a step of the game server grows keeps the invariant when every new default hero is for
an account without a row. -/
theorem faithful_game {gameEvent : Event} {game : Server} (faithful : Faithful s)
    (grown : Grown s.game gameEvent game) (valid : Valid game)
    (new : ∀ t p, gameEvent = .needCreateHero t → getData s.game.onlines t = some p →
      Open s (s.game.sessions p).account) : Faithful { s with game := game } := by
  have opened : ∀ a, Open s a → Open { s with game := game } a := by
    intro a before
    rcases before with absent | present
    · exact .inl absent
    · obtain ⟨h, listed⟩ := Option.ne_none_iff_exists'.mp present
      exact .inr (by simp [(grown.heros a h listed).1])
  refine ⟨valid, ?_, ?_, ?_, ?_, ?_, ?_⟩
  · obtain ⟨more, longer, own⟩ := grown.sent
    intro entry member
    rw [longer] at member
    rcases List.mem_append.mp member with old | added
    · intro h row saves
      exact (grown.heros _ h (faithful.sent entry old h row saves)).1
    · exact own entry added
  · intro h row member
    exact (grown.heros _ h (faithful.saves h row member)).1
  · intro a row h stored
    exact (grown.heros a h (faithful.written a row h stored)).1
  · intro task member empty
    exact opened _ (faithful.results task member empty)
  · intro entry member
    exact opened _ (faithful.toGame entry member)
  · intro a h listed config stored found
    cases before : getData s.game.heros a with
    | some k =>
      obtain ⟨kept, filledBy⟩ := grown.heros a k before
      have same := Option.some.inj (kept.symm.trans listed)
      subst same
      rw [filledBy] at config
      exact faithful.default a k before config stored found
    | none =>
      obtain ⟨t, p, created, online, account⟩ := grown.created a h listed before config
      rcases new t p created online with absent | present
      · rw [account, found] at absent
        cases absent
      · rw [account, before] at present
        exact absurd rfl present

/-- Messages, tasks and results may get lost. -/
theorem faithful_loses {queue : List (TranId × DatabaseMessage)}
    {queries results : List (Task HeroQuery CharacterRow)}
    {saves : List (HeroPtr × SaveStatement)} {toGame : List (TranId × Account)}
    (faithful : Faithful s) (lessSent : queue ⊆ s.game.toDatabase) (lessSaves : saves ⊆ s.saves)
    (lessResults : results ⊆ s.results) (lessToGame : toGame ⊆ s.toGame) :
    Faithful { s with
      game := { s.game with toDatabase := queue }
      queries := queries
      saves := saves
      results := results
      toGame := toGame } where
  valid := ⟨faithful.valid.online, faithful.valid.attached, faithful.valid.owned,
    faithful.valid.made⟩
  sent := fun entry member => faithful.sent entry (lessSent member)
  saves := fun h row member => faithful.saves h row (lessSaves member)
  written := faithful.written
  results := fun task member => faithful.results task (lessResults member)
  toGame := fun entry member => faithful.toGame entry (lessToGame member)
  default := faithful.default

theorem faithful_receive (faithful : Faithful s) : Faithful s.receive := by
  unfold System.receive
  split
  · exact faithful
  · rename_i flag message rest first
    have less : rest ⊆ s.game.toDatabase := by
      rw [first]
      exact List.subset_cons_self _ rest
    have later : Faithful { s with game := { s.game with toDatabase := rest } } :=
      faithful_loses faithful less (List.Subset.refl _) (List.Subset.refl _) (List.Subset.refl _)
    cases message with
    | reqHeroData a =>
      exact ⟨later.valid, later.sent, later.saves, later.written, later.results, later.toGame,
        later.default⟩
    | saveData h statement =>
      refine ⟨later.valid, later.sent, ?_, later.written, later.results, later.toGame,
        later.default⟩
      intro k row member
      rcases List.mem_append.mp member with old | added
      · exact faithful.saves k row old
      · cases List.mem_singleton.mp added
        exact faithful.sent (flag, .saveData h (.character row)) (by simp [first]) h row rfl
    | saveAllHeroes => exact later
    | verifyToy cdKey => exact later

/-- A select that finds no row leaves the account open for a default hero. -/
theorem finished_open {task : Task HeroQuery CharacterRow} {pass : Pass}
    (finishes : (task.pass (s.selected task.parms.account) pass).2 = true)
    (trusted : FailedEmpty (task.pass (s.selected task.parms.account) pass).1 →
      Open s task.parms.account)
    (empty : (task.pass (s.selected task.parms.account) pass).1.result = none ∨
      (task.pass (s.selected task.parms.account) pass).1.result = some []) :
    Open s task.parms.account := by
  rcases pass_finishes finishes with ⟨_, result⟩ | error
  · refine .inl ?_
    rw [result] at empty
    rcases empty with null | none
    · cases null
    · have noRow := Option.some.inj none
      simpa [System.selected] using noRow
  · exact trusted ⟨error, empty⟩

theorem faithful_query {pass : Pass} (faithful : Faithful s) (trusted : Trusted s (.query pass)) :
    Faithful (s.query pass) := by
  unfold System.query
  split
  · exact faithful
  · rename_i task rest first
    simp only
    split
    · rename_i finishes
      refine ⟨faithful.valid, faithful.sent, faithful.saves, faithful.written, ?_,
        faithful.toGame, faithful.default⟩
      intro other member empty
      rcases List.mem_append.mp member with old | added
      · exact faithful.results other old empty
      · rw [List.mem_singleton.mp added] at empty ⊢
        rw [pass_parms]
        exact finished_open finishes (trusted task rest first finishes) empty
    · exact ⟨faithful.valid, faithful.sent, faithful.saves, faithful.written, faithful.results,
        faithful.toGame, faithful.default⟩

theorem faithful_replaceInto {h : HeroPtr} {statement : SaveStatement} (faithful : Faithful s)
    (own : ∀ row, statement = .character row →
      getData s.game.heros row.accountId = some h) : Faithful (s.replaceInto h statement) := by
  cases statement with
  | equips text => exact faithful
  | toys account toys => exact faithful
  | character row =>
    have listed := own row rfl
    have opened : ∀ a, Open s a → Open (s.replaceInto h (.character row)) a := by
      intro a before
      by_cases here : a = row.accountId
      · exact .inr (by simp [System.replaceInto, here, listed])
      · simpa [Open, System.replaceInto, here] using before
    refine ⟨faithful.valid, faithful.sent, faithful.saves, ?_, ?_, ?_, ?_⟩
    · intro a other k stored
      by_cases here : a = row.accountId
      · subst here
        simp [System.replaceInto] at stored
        rw [← stored.2]
        exact listed
      · simp [System.replaceInto, here] at stored
        exact faithful.written a other k stored
    · intro task member empty
      exact opened _ (faithful.results task member empty)
    · intro entry member
      exact opened _ (faithful.toGame entry member)
    · intro a k heroK config stored found
      by_cases here : a = row.accountId
      · subst here
        simp [System.replaceInto] at found
        rw [← found]
        exact listed.symm.trans heroK
      · simp [System.replaceInto, here] at found
        exact faithful.default a k heroK config stored found

theorem replaceInto_saves (h : HeroPtr) (statement : SaveStatement) :
    (s.replaceInto h statement).saves = s.saves := by
  cases statement <;> rfl

theorem faithful_save {pass : SavePass} (faithful : Faithful s) : Faithful (s.save pass) := by
  unfold System.save
  split
  · exact faithful
  · rename_i h statement rest first
    have own : ∀ row, statement = .character row →
        getData s.game.heros row.accountId = some h := by
      rintro row rfl
      exact faithful.saves h row (by simp [first])
    have replaced : Faithful (if pass.error = none ∨ pass.executed then s.replaceInto h statement
        else s) := by
      split
      · exact faithful_replaceInto faithful own
      · exact faithful
    have less : rest ⊆ (if pass.error = none ∨ pass.executed then s.replaceInto h statement
        else s).saves := by
      split
      · rw [replaceInto_saves, first]
        exact List.subset_cons_self _ rest
      · rw [first]
        exact List.subset_cons_self _ rest
    split
    · simp only
      split
      · exact faithful_loses replaced (List.Subset.refl _) less (List.Subset.refl _)
          (List.Subset.refl _)
      · exact replaced
    · exact faithful

theorem faithful_callback (faithful : Faithful s) : Faithful s.callback := by
  unfold System.callback
  split
  · exact faithful
  · rename_i task rest first
    have less : rest ⊆ s.results := by
      rw [first]
      exact List.subset_cons_self _ rest
    have later : Faithful { s with results := rest } :=
      faithful_loses faithful (List.Subset.refl _) (List.Subset.refl _) less (List.Subset.refl _)
    split
    · rename_i tranid gsid answer
      refine ⟨later.valid, later.sent, later.saves, later.written, later.results, ?_,
        later.default⟩
      intro entry member
      rcases List.mem_append.mp member with old | added
      · exact faithful.toGame entry old
      · rw [List.mem_singleton.mp added]
        exact faithful.results task (by simp [first]) (execute_needCreate_empty answer)
    · exact later

theorem faithful_deliver (faithful : Faithful s) (trusted : Trusted s .deliver) :
    Faithful s.deliver := by
  unfold System.deliver
  split
  · exact faithful
  · rename_i t asked rest first
    have less : rest ⊆ s.toGame := by
      rw [first]
      exact List.subset_cons_self _ rest
    have later : Faithful { s with toGame := rest } :=
      faithful_loses faithful (List.Subset.refl _) (List.Subset.refl _) (List.Subset.refl _) less
    have grown := step_grows faithful.valid (.needCreateHero t)
    have valid := valid_step faithful.valid (.needCreateHero t)
    apply faithful_game later grown valid
    intro k p same online
    cases same
    rw [trusted t asked rest first p online]
    exact faithful.toGame (t, asked) (by simp [first])

theorem faithful_gameEvent {gameEvent : Event} (faithful : Faithful s) :
    Faithful (s.gameEvent gameEvent) := by
  have grown := step_grows faithful.valid gameEvent
  have valid := valid_step faithful.valid gameEvent
  by_cases create : ∃ t, gameEvent = .needCreateHero t
  · obtain ⟨t, rfl⟩ := create
    exact faithful
  · have moved : s.gameEvent gameEvent = { s with game := GameServer.step s.game gameEvent } := by
      cases gameEvent with
      | needCreateHero t => exact absurd ⟨t, rfl⟩ create
      | _ => rfl
    rw [moved]
    apply faithful_game faithful grown valid
    intro t p same
    exact absurd ⟨t, same⟩ create

theorem faithful_step (faithful : Faithful s) (trusted : Trusted s event) :
    Faithful (step s event) := by
  cases event with
  | game gameEvent => exact faithful_gameEvent faithful
  | receive => exact faithful_receive faithful
  | query pass => exact faithful_query faithful trusted
  | save pass => exact faithful_save faithful
  | callback => exact faithful_callback faithful
  | deliver => exact faithful_deliver faithful trusted
  | linkLost =>
    exact faithful_loses faithful (List.nil_subset _) (List.Subset.refl _) (List.Subset.refl _)
      (List.nil_subset _)
  | databaseRestart =>
    exact faithful_loses faithful (List.Subset.refl _) (List.nil_subset _) (List.nil_subset _)
      (List.nil_subset _)

/-- dbDoQueryHeroInfo asks for a new hero only when there is none, save after a failed select;
and in every run in which no failed select is trusted a default hero never replaces the row of
another. -/
theorem needCreate_only_when_absent (query : HeroQuery)
    (passes : List (List CharacterRow × Pass)) (config : HeroConfig) (generateId gameId : Nat)
    (table : Account → Option CharacterRow) (events : List SystemEvent) :
    (∀ finished : Task HeroQuery CharacterRow, work (.new query) passes = some finished →
      ((execute finished = .needCreateHero finished.parms.tranid finished.parms.gsid →
        finished.state = .done ∧ finished.result = some []) ↔ ¬ FailedEmpty finished)) ∧
    (EveryStep step Trusted (start config generateId gameId table) events →
      EveryStep step (fun s event => ¬ Overwrites s event)
        (start config generateId gameId table) events) := by
  constructor
  · intro finished done
    exact needCreate_means_absent_iff done
  · intro trusted
    apply everyStep_of_invariant (fun s event => faithful_step) _
      (faithful_start config generateId gameId table) trusted
    intro s event faithful _
    exact faithful_not_overwrites faithful

/-- A new player logs in, gets a default hero and is saved. -/
def firstSave (select : Pass) : List SystemEvent := [.game (.gateRegister 0 1),
  .game (.addUser 0 5 9 70), .receive, .query select, .callback, .deliver, .game (.saveTick 0),
  .receive, .save ⟨true, true, none⟩]

theorem needCreate_only_when_absent_new_player :
    EveryStep step (fun s event => ¬ Overwrites s event)
      (start ⟨0, 0, 1, [], .empty⟩ 0 1 fun _ => none) (firstSave ⟨true, none, none⟩) := by
  apply (needCreate_only_when_absent ⟨9, 5, 1⟩ [] _ 0 1 (fun _ => none) _).2
  refine ⟨trivial, trivial, trivial, ?_, trivial, ?_, trivial, trivial, trivial, trivial⟩
  · intro task rest first finishes failed
    cases first
    cases failed.1
  · intro t asked rest first p online
    cases first
    cases online
    rfl

def oldRow : CharacterRow := ⟨9, 30, [98, 111, 98], 100, 5, 900, []⟩

/-- A select that fails with a lock timeout is taken for an absent hero, and the save of the
default hero replaces the row of the player. -/
theorem failed_select_replaces_row :
    (∃ finished : Task HeroQuery CharacterRow,
      work (.new ⟨9, 5, 1⟩) [([oldRow], ⟨true, some (.badQuery 1205), none⟩)] = some finished ∧
        execute finished = .needCreateHero 5 1 ∧ finished.state = .error) ∧
    ¬ EveryStep step (fun s event => ¬ Overwrites s event)
      (start ⟨0, 0, 1, [], .empty⟩ 0 1 fun a => if a = 9 then some oldRow else none)
      (firstSave ⟨true, some (.badQuery 1205), none⟩) := by
  constructor
  · exact ⟨_, rfl, rfl, rfl⟩
  · intro kept
    obtain ⟨_, _, _, _, _, _, _, _, last, _⟩ := kept
    apply last
    refine ⟨rfl, .inl rfl, 0, _, _, _, rfl, rfl, rfl, ?_⟩
    simp

end HeroRows
