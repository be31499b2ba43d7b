import DreamHeroes.DatabaseTasks
import DreamHeroes.Simulations
import DreamHeroes.StoredHeroes

/- The loading of heroes on the database server. The select of the equips is asked in the
   callback of that of the character, the select of the toys in that of the equips, and the last
   callback sends the hero to the game server. -/
namespace HeroLoads

open ByteWords DecimalText GameHero OrderedMaps DatabaseTasks StoredHeroes LabelledRuns
open StoredToys (MySql)

/- struct tgHeroData. -/
structure HeroData where
  account : Account
  tranid : Nat
  info : MsgHeroDataDB2GS
  gsid : Nat
  deriving DecidableEq, Repr

def HeroData.query (d : HeroData) : HeroQuery := ⟨d.account, d.tranid, d.gsid⟩

inductive Select where
  | character
  | equips
  | toys
  deriving DecidableEq, Repr

structure Load where
  select : Select
  data : HeroData
  deriving DecidableEq, Repr

variable {DateTime : Type}

/- A row of one of the three tables. -/
inductive Row (DateTime : Type) where
  | character (row : CharacterRow)
  | equip (row : EquipRow)
  | toy (row : StoredToys.TableRow DateTime)
  deriving DecidableEq, Repr

/- MsgNeedCreateHeroDB2GS does not hold the account: it is a history value there. -/
inductive Answer where
  | needCreateHero (asked : HeroQuery)
  | heroData (asked : HeroQuery) (info : MsgHeroDataDB2GS)
  deriving DecidableEq, Repr

def Answer.asked : Answer → HeroQuery
  | .needCreateHero asked => asked
  | .heroData asked _ => asked

/- What a callback comes to. Nothing catches what it throws. -/
inductive Outcome where
  | next (load : Load)
  | answer (answer : Answer)
  | nothing
  | thrown
  deriving DecidableEq, Repr

/- row["..."] throws BadFieldName when the result has no such column. -/
def characterRow : Row DateTime → Option CharacterRow
  | .character row => some row
  | _ => none

def equipData : EquipRow → MsgEquipData
  | ⟨equipId, _, equipConfigId, level, equipped, clientSaveFlag, equipCount⟩ =>
      ⟨equipId, equipConfigId, level, equipped ≠ 0, clientSaveFlag, equipCount⟩

def equipRow : Row DateTime → Option MsgEquipData
  | .equip row => some (equipData row)
  | _ => none

def toyRow (mysql : MySql DateTime) : Row DateTime → Option MsgToyData
  | .toy row => StoredToys.toyOf (mysql.selectRow .all row)
  | _ => none

def dbDoQueryHeroInfo (r : Option (List (Row DateTime))) (d : HeroData) : Outcome :=
  match r with
  | some (row :: _) =>
      match characterRow row with
      | some row =>
          .next ⟨.equips, { d with info := { d.info with
            account := row.accountId, data := rowData row } }⟩
      | none => .thrown
  | _ => .answer (.needCreateHero d.query)

def dbDoQueryHeroEquips (r : Option (List (Row DateTime))) (d : HeroData) : Outcome :=
  match r with
  | none => .nothing
  | some rows =>
      match rows.mapM equipRow with
      | some equips =>
          .next ⟨.toys, { d with info := { d.info with equips := d.info.equips ++ equips } }⟩
      | none => .thrown

def dbDoQuerryHeroToys (mysql : MySql DateTime) (r : Option (List (Row DateTime)))
    (d : HeroData) : Outcome :=
  match r with
  | none => .nothing
  | some rows =>
      match rows.mapM (toyRow mysql) with
      | some toys => .answer (.heroData d.query { d.info with toys := d.info.toys ++ toys })
      | none => .thrown

def execute (mysql : MySql DateTime) (task : Task Load (Row DateTime)) : Outcome :=
  match task.parms.select with
  | .character => dbDoQueryHeroInfo task.result task.parms.data
  | .equips => dbDoQueryHeroEquips task.result task.parms.data
  | .toys => dbDoQuerryHeroToys mysql task.result task.parms.data

/- The tasks of type _QUERY_HERO_INFO_ have one thread. asked and dropped are history values: the
   requests so far, and those that end without an answer. -/
structure Server (DateTime : Type) where
  tables : Tables DateTime
  queries : List (Task Load (Row DateTime))
  results : List (Task Load (Row DateTime))
  sent : List Answer
  asked : List HeroQuery
  dropped : List HeroQuery
  crashed : Bool

/- saveData is the execution of a statement by the thread of the saves. -/
inductive Event (DateTime : Type) where
  | reqHeroData (asked : HeroQuery)
  | saveData (sql : Bytes)
  | query (pass : Pass) (rows : List (Row DateTime))
  | callback

def emptyInfo : MsgHeroDataDB2GS := ⟨0, ⟨0, 0, [], 0, 0, 0, []⟩, [], []⟩

namespace Server

def queryHeroInfo (s : Server DateTime) (asked : HeroQuery) : Server DateTime :=
  { s with
    queries := s.queries ++
      [.new ⟨.character, ⟨asked.account, asked.tranid, emptyInfo, asked.gsid⟩⟩]
    asked := s.asked ++ [asked] }

def query (s : Server DateTime) (pass : Pass) (rows : List (Row DateTime)) : Server DateTime :=
  match s.queries with
  | [] => s
  | task :: rest =>
      let after := task.pass rows pass
      if after.2 then { s with queries := rest, results := s.results ++ [after.1] }
      else { s with queries := after.1 :: rest }

def outcome (s : Server DateTime) (asked : HeroQuery) : Outcome → Server DateTime
  | .next load => { s with queries := s.queries ++ [.new load] }
  | .answer answer => { s with sent := s.sent ++ [answer] }
  | .nothing => { s with dropped := s.dropped ++ [asked] }
  | .thrown => { s with dropped := s.dropped ++ [asked], crashed := true }

def callback (mysql : MySql DateTime) (s : Server DateTime) : Server DateTime :=
  match s.results with
  | [] => s
  | task :: rest =>
      { s with results := rest }.outcome task.parms.data.query (execute mysql task)

end Server

def step (mysql : MySql DateTime) (s : Server DateTime) (event : Event DateTime) :
    Server DateTime :=
  if s.crashed then s
  else match event with
  | .reqHeroData asked => s.queryHeroInfo asked
  | .saveData sql => { s with tables := StoredHeroes.execute mysql s.tables sql }
  | .query pass rows => s.query pass rows
  | .callback => s.callback mysql

def start (tables : Tables DateTime) : Server DateTime where
  tables := tables
  queries := []
  results := []
  sent := []
  asked := []
  dropped := []
  crashed := false

/-- The rows that a select finds, in some order. -/
def Finds (tables : Tables DateTime) (load : Load) (rows : List (Row DateTime)) : Prop :=
  match load.select with
  | .character => rows = ((tables.character load.data.account).map .character).toList
  | .equips => ∃ equips : List EquipRow, equips.Nodup ∧ rows = equips.map .equip ∧
      ∀ row, row ∈ equips ↔
        tables.equip row.equipId = some row ∧ row.accountId = load.data.info.account
  | .toys => ∃ toys : List (StoredToys.TableRow DateTime), toys.Nodup ∧ rows = toys.map .toy ∧
      ∀ row, row ∈ toys ↔
        tables.toy row.toyCdKey = some row ∧ row.account = decimal load.data.account

/-- A select gives the rows of its table. -/
def Honest (s : Server DateTime) : Event DateTime → Prop
  | .query _ rows => ∀ task rest, s.queries = task :: rest → Finds s.tables task.parms rows
  | _ => True

/-- The requests under way. -/
def pending (s : Server DateTime) : List HeroQuery :=
  (s.queries ++ s.results).map (·.parms.data.query)

variable {mysql : MySql DateTime} {s : Server DateTime} {event : Event DateTime}
  {task : Task Load (Row DateTime)}

/-- A callback goes on with the request it belongs to. -/
theorem execute_next {load : Load} (next : execute mysql task = .next load) :
    load.data.query = task.parms.data.query := by
  unfold execute at next
  split at next
  · unfold dbDoQueryHeroInfo at next
    repeat' split at next
    all_goals cases next
    rfl
  · unfold dbDoQueryHeroEquips at next
    repeat' split at next
    all_goals cases next
    rfl
  · unfold dbDoQuerryHeroToys at next
    repeat' split at next
    all_goals cases next

theorem execute_answer {answer : Answer} (sent : execute mysql task = .answer answer) :
    answer.asked = task.parms.data.query := by
  unfold execute at sent
  split at sent
  · unfold dbDoQueryHeroInfo at sent
    repeat' split at sent
    all_goals cases sent
    rfl
  · unfold dbDoQueryHeroEquips at sent
    repeat' split at sent
    all_goals cases sent
  · unfold dbDoQuerryHeroToys at sent
    repeat' split at sent
    all_goals cases sent
    rfl

/-- Every request is under way, answered or dropped, as often as it was made. -/
def Accounted (s : Server DateTime) : Prop :=
  ∀ q, s.asked.count q =
    (s.sent.map Answer.asked).count q + s.dropped.count q + (pending s).count q

theorem accounted_query (accounted : Accounted s) (pass : Pass) (rows : List (Row DateTime)) :
    Accounted (s.query pass rows) := by
  unfold Server.query
  split
  · exact accounted
  · rename_i task rest first
    intro q
    have before := accounted q
    have same : (task.pass rows pass).1.parms = task.parms := pass_parms
    simp only [pending, first] at before ⊢
    split
    · simp only [List.map_append, List.map_cons, List.map_nil, List.count_append, List.count_cons,
        List.count_nil, List.cons_append, same] at before ⊢
      omega
    · simpa [same] using before

theorem accounted_callback (accounted : Accounted s) : Accounted (s.callback mysql) := by
  unfold Server.callback
  split
  · exact accounted
  · rename_i task rest first
    intro q
    have before := accounted q
    simp only [pending, first, List.map_append, List.map_cons, List.count_append,
      List.count_cons] at before
    cases outcome : execute mysql task with
    | next load =>
      have same := execute_next outcome
      simp only [Server.outcome, pending, Task.new, List.map_append, List.map_cons, List.map_nil,
        List.count_append, List.count_cons, List.count_nil, same]
      omega
    | answer answer =>
      have same := execute_answer outcome
      simp only [Server.outcome, pending, List.map_append, List.map_cons, List.map_nil,
        List.count_append, List.count_cons, List.count_nil, same]
      omega
    | nothing =>
      simp only [Server.outcome, pending, List.map_append, List.count_append, List.count_cons,
        List.count_nil]
      omega
    | thrown =>
      simp only [Server.outcome, pending, List.map_append, List.count_append, List.count_cons,
        List.count_nil]
      omega

theorem accounted_step (accounted : Accounted s) : Accounted (step mysql s event) := by
  unfold step
  split
  · exact accounted
  · cases event with
    | reqHeroData asked =>
      intro q
      have before := accounted q
      have same : HeroData.query ⟨asked.account, asked.tranid, emptyInfo, asked.gsid⟩ = asked := rfl
      simp only [Server.queryHeroInfo, pending, Task.new, List.map_append, List.map_cons,
        List.map_nil, List.count_append, List.count_cons, List.count_nil, same] at before ⊢
      omega
    | saveData sql => exact accounted
    | query pass rows => exact accounted_query accounted pass rows
    | callback => exact accounted_callback accounted

/- What the tasks and the answers hold, when the selects give the rows of the tables. -/

structure Filed (tables : Tables DateTime) : Prop where
  character : ∀ account row, tables.character account = some row → row.accountId = account
  equip : ∀ id row, tables.equip id = some row → row.equipId = id

/-- What a task has gathered belongs to the account it was asked for. -/
def Gathered (load : Load) : Prop :=
  match load.select with
  | .character => load.data.info = emptyInfo
  | .equips => load.data.info.account = load.data.account ∧
      load.data.info.data.account = load.data.account ∧ load.data.info.toys = []
  | .toys => load.data.info.account = load.data.account ∧
      load.data.info.data.account = load.data.account ∧ load.data.info.toys = []

/-- The rows are of the table that was asked, the character is that of the account. -/
def OwnRows (load : Load) (rows : List (Row DateTime)) : Prop :=
  match load.select with
  | .character => ∀ row ∈ rows, ∃ character, row = .character character ∧
      character.accountId = load.data.account
  | .equips => ∀ row ∈ rows, ∃ equip, row = .equip equip
  | .toys => True

def Own (task : Task Load (Row DateTime)) : Prop :=
  ∀ rows, task.result = some rows → OwnRows task.parms rows

/-- The hero is that of the account it was asked for, and has no toys. -/
def Belongs : Answer → Prop
  | .needCreateHero _ => True
  | .heroData asked info => info.account = asked.account ∧ info.data.account = asked.account ∧
      info.toys = []

structure Sound (s : Server DateTime) : Prop where
  filed : Filed s.tables
  gathered : ∀ task ∈ s.queries ++ s.results, Gathered task.parms
  own : ∀ task ∈ s.queries ++ s.results, Own task
  sent : ∀ answer ∈ s.sent, Belongs answer

theorem filed_execute {tables : Tables DateTime} (filed : Filed tables) (sql : Bytes) :
    Filed (StoredHeroes.execute mysql tables sql) := by
  unfold StoredHeroes.execute
  split
  · exact ⟨fun _ _ found => replaceRows_keyed filed.character found, filed.equip⟩
  · split
    · exact ⟨filed.character, fun _ _ found => replaceRows_keyed filed.equip found⟩
    · split
      · exact ⟨filed.character, filed.equip⟩
      · exact filed

theorem toyRow_none (row : Row DateTime) : toyRow mysql row = none := by
  cases row with
  | toy row => rfl
  | _ => rfl

theorem toys_mapM {rows : List (Row DateTime)} {toys : List MsgToyData}
    (read : rows.mapM (toyRow mysql) = some toys) : rows = [] ∧ toys = [] := by
  cases rows with
  | nil => simpa using read.symm
  | cons row rest => simp [toyRow_none] at read

/-- A pass leaves the result or takes the rows it finds. -/
theorem pass_result (task : Task Load (Row DateTime)) (rows : List (Row DateTime)) (pass : Pass) :
    (task.pass rows pass).1.result = task.result ∨
      (task.pass rows pass).1.result = some rows := by
  have caught : ∀ (task : Task Load (Row DateTime)) (error : QueryError),
      (task.caught error).1.result = task.result := by
    intro task error
    cases error with
    | badQuery errnum =>
      simp only [Task.caught]
      split <;> rfl
    | _ => rfl
  unfold Task.pass
  split
  · split
    · exact .inl (caught task _)
    · simp only
      split
      · exact .inr (caught _ _)
      · exact .inr rfl
  · exact .inl rfl

theorem gathered_next {load : Load} (gathered : Gathered task.parms) (own : Own task)
    (next : execute mysql task = .next load) : Gathered load := by
  unfold execute at next
  split at next
  · rename_i select
    unfold dbDoQueryHeroInfo at next
    repeat' split at next
    all_goals cases next
    rename_i row rest result _ character read
    have rows := own _ result
    simp only [OwnRows, select, List.forall_mem_cons] at rows
    obtain ⟨⟨same, here, account⟩, _⟩ := rows
    subst here
    cases read
    simp only [Gathered, select] at gathered ⊢
    exact ⟨account, account, by rw [gathered]; rfl⟩
  · rename_i select
    unfold dbDoQueryHeroEquips at next
    repeat' split at next
    all_goals cases next
    simp only [Gathered, select] at gathered ⊢
    exact gathered
  · unfold dbDoQuerryHeroToys at next
    repeat' split at next
    all_goals cases next

theorem belongs_answer {answer : Answer} (gathered : Gathered task.parms)
    (sent : execute mysql task = .answer answer) : Belongs answer := by
  unfold execute at sent
  split at sent
  · unfold dbDoQueryHeroInfo at sent
    repeat' split at sent
    all_goals cases sent
    trivial
  · unfold dbDoQueryHeroEquips at sent
    repeat' split at sent
    all_goals cases sent
  · rename_i select
    unfold dbDoQuerryHeroToys at sent
    repeat' split at sent
    all_goals cases sent
    rename_i toys read
    simp only [Gathered, select] at gathered
    obtain ⟨account, data, none⟩ := gathered
    exact ⟨account, data, by simp [none, (toys_mapM read).2]⟩

theorem own_finds {tables : Tables DateTime} {load : Load} {rows : List (Row DateTime)}
    (filed : Filed tables) (finds : Finds tables load rows) : OwnRows load rows := by
  unfold Finds at finds
  unfold OwnRows
  split at finds
  · intro row member
    rw [finds, Option.mem_toList, Option.map_eq_some_iff] at member
    obtain ⟨character, stored, rfl⟩ := member
    exact ⟨character, rfl, filed.character _ _ stored⟩
  · obtain ⟨equips, _, rfl, _⟩ := finds
    intro row member
    obtain ⟨equip, _, rfl⟩ := List.mem_map.mp member
    exact ⟨equip, rfl⟩
  · trivial

theorem own_pass {tables : Tables DateTime} {rows : List (Row DateTime)} (pass : Pass)
    (filed : Filed tables) (own : Own task) (finds : Finds tables task.parms rows) :
    Own (task.pass rows pass).1 := by
  intro other result
  rw [pass_parms]
  rcases pass_result task rows pass with old | new
  · exact own other (old ▸ result)
  · rw [new] at result
    cases result
    exact own_finds filed finds

theorem own_new (load : Load) : Own (.new load : Task Load (Row DateTime)) := by
  intro rows result
  cases result

theorem sound_query {pass : Pass} {rows : List (Row DateTime)} (sound : Sound s)
    (honest : Honest s (.query pass rows)) : Sound (s.query pass rows) := by
  unfold Server.query
  split
  · exact sound
  · rename_i task rest first
    obtain ⟨filed, gathered, own, sent⟩ := sound
    simp only [first, List.cons_append, List.forall_mem_cons] at gathered own
    have next := own_pass pass filed own.1 (honest task rest first)
    have same : (task.pass rows pass).1.parms = task.parms := pass_parms
    simp only
    split
    · refine ⟨filed, ?_, ?_, sent⟩
      · simp only [← List.append_assoc, List.forall_mem_append, List.forall_mem_singleton, same]
          at gathered ⊢
        exact ⟨gathered.2, gathered.1⟩
      · simp only [← List.append_assoc, List.forall_mem_append, List.forall_mem_singleton]
          at own ⊢
        exact ⟨own.2, next⟩
    · refine ⟨filed, ?_, ?_, sent⟩
      · simp only [List.cons_append, List.forall_mem_cons, same]
        exact gathered
      · simp only [List.cons_append, List.forall_mem_cons]
        exact ⟨next, own.2⟩

theorem sound_callback (sound : Sound s) : Sound (s.callback mysql) := by
  unfold Server.callback
  split
  · exact sound
  · rename_i task rest first
    obtain ⟨filed, gathered, own, sent⟩ := sound
    simp only [first, List.forall_mem_append, List.forall_mem_cons] at gathered own
    have others : ∀ task ∈ s.queries ++ rest, Gathered task.parms :=
      List.forall_mem_append.mpr ⟨gathered.1, gathered.2.2⟩
    have owns : ∀ task ∈ s.queries ++ rest, Own task :=
      List.forall_mem_append.mpr ⟨own.1, own.2.2⟩
    cases outcome : execute mysql task with
    | next load =>
      have here := gathered_next gathered.2.1 own.2.1 outcome
      refine ⟨filed, ?_, ?_, sent⟩
      · simp only [Server.outcome, List.forall_mem_append, List.forall_mem_singleton, Task.new]
        exact ⟨⟨gathered.1, here⟩, gathered.2.2⟩
      · simp only [Server.outcome, List.forall_mem_append, List.forall_mem_singleton]
        exact ⟨⟨own.1, own_new load⟩, own.2.2⟩
    | answer answer =>
      refine ⟨filed, others, owns, ?_⟩
      simp only [Server.outcome, List.forall_mem_append, List.forall_mem_singleton]
      exact ⟨sent, belongs_answer gathered.2.1 outcome⟩
    | nothing => exact ⟨filed, others, owns, sent⟩
    | thrown => exact ⟨filed, others, owns, sent⟩

theorem sound_step (sound : Sound s) (honest : Honest s event) : Sound (step mysql s event) := by
  unfold step
  split
  · exact sound
  · cases event with
    | reqHeroData asked =>
      obtain ⟨filed, gathered, own, sent⟩ := sound
      rw [List.forall_mem_append] at gathered own
      refine ⟨filed, ?_, ?_, sent⟩
      · simp only [Server.queryHeroInfo, List.forall_mem_append, List.forall_mem_singleton]
        exact ⟨⟨gathered.1, rfl⟩, gathered.2⟩
      · simp only [Server.queryHeroInfo, List.forall_mem_append, List.forall_mem_singleton]
        exact ⟨⟨own.1, own_new _⟩, own.2⟩
    | saveData sql =>
      exact ⟨filed_execute sound.filed sql, sound.gathered, sound.own, sound.sent⟩
    | query pass rows => exact sound_query sound honest
    | callback => exact sound_callback sound

theorem sound_start {tables : Tables DateTime} (filed : Filed tables) : Sound (start tables) where
  filed := filed
  gathered := by simp [start]
  own := by simp [start]
  sent := by simp [start]

theorem accounted_start (tables : Tables DateTime) : Accounted (start tables) := by
  simp [Accounted, start, pending]

/-- In every run each request for a hero is answered, dropped or under way as often as it was
made, and an answer holds the hero of the account that was asked for, without toys. -/
theorem requests_accounted {tables : Tables DateTime} {events : List (Event DateTime)}
    (filed : Filed tables) (honest : EveryStep (step mysql) Honest (start tables) events) :
    EveryState (step mysql)
      (fun s => Accounted s ∧ ∀ answer ∈ s.sent, Belongs answer) (start tables) events := by
  have all : EveryState (step mysql) (fun s => Accounted s ∧ Sound s) (start tables) events :=
    everyState_of_everyStep
      (fun s event before honest => ⟨accounted_step before.1, sound_step before.2 honest⟩)
      ⟨accounted_start tables, sound_start filed⟩ honest
  exact everyState_imp (fun s both => ⟨both.1, both.2.sent⟩) all

def emptyTables : Tables UInt64 := ⟨fun _ => none, fun _ => none, fun _ => none⟩

theorem emptyTables_filed : Filed emptyTables :=
  ⟨(fun _ _ found => by cases found), (fun _ _ found => by cases found)⟩

theorem absent_hero_accounted :
    EveryState (step StoredToys.november)
      (fun s => Accounted s ∧ ∀ answer ∈ s.sent, Belongs answer) (start emptyTables)
      [.reqHeroData ⟨7, 3, 2⟩, .query ⟨true, none, none⟩ [], .callback] := by
  apply requests_accounted emptyTables_filed
  refine ⟨trivial, ?_, trivial, trivial⟩
  intro task rest first
  cases first
  rfl

def okPass : Pass := ⟨true, none, none⟩

/-- The callback that comes next is not one for toys that were found. -/
def Toyless (s : Server DateTime) : Event DateTime → Prop
  | .callback => ∀ task rest, s.results = task :: rest → task.parms.select = .toys →
      task.result = none ∨ task.result = some []
  | _ => True

theorem equips_read {rows : List (Row DateTime)} (equips : ∀ row ∈ rows, ∃ equip, row = .equip equip) :
    ∃ datas, rows.mapM equipRow = some datas := by
  induction rows with
  | nil => exact ⟨[], rfl⟩
  | cons row rest ih =>
    obtain ⟨⟨equip, rfl⟩, others⟩ := List.forall_mem_cons.mp equips
    obtain ⟨datas, read⟩ := ih others
    exact ⟨equipData equip :: datas, by simp [equipRow, read]⟩

/-- Of rows of the right tables only toys make a callback throw. -/
theorem thrown_iff (own : Own task) : execute mysql task = .thrown ↔
    task.parms.select = .toys ∧ ∃ row rest, task.result = some (row :: rest) := by
  unfold execute
  split
  · rename_i select
    have fine : dbDoQueryHeroInfo task.result task.parms.data ≠ .thrown := by
      unfold dbDoQueryHeroInfo
      split
      · rename_i row rest result
        have rows := own _ result
        simp only [OwnRows, select, List.forall_mem_cons] at rows
        obtain ⟨⟨character, rfl, _⟩, _⟩ := rows
        simp [characterRow]
      · simp
    simp [fine, select]
  · rename_i select
    have fine : dbDoQueryHeroEquips task.result task.parms.data ≠ .thrown := by
      unfold dbDoQueryHeroEquips
      split
      · simp
      · rename_i rows result
        have equips := own _ result
        simp only [OwnRows, select] at equips
        obtain ⟨datas, read⟩ := equips_read equips
        simp [read]
    simp [fine, select]
  · rename_i select
    simp only [select, true_and]
    unfold dbDoQuerryHeroToys
    split
    · rename_i result
      simp [result]
    · rename_i rows result
      cases rows with
      | nil => simp [result]
      | cons row rest => simp [result, toyRow_none]

theorem query_crashed (pass : Pass) (rows : List (Row DateTime)) :
    (s.query pass rows).crashed = s.crashed := by
  unfold Server.query
  split
  · rfl
  · simp only
    split <;> rfl

theorem callback_crashed (sound : Sound s) (up : s.crashed = false) :
    (s.callback mysql).crashed = false ↔ Toyless s .callback := by
  unfold Server.callback Toyless
  split
  · rename_i none
    simp [up, none]
  · rename_i task rest first
    have own : Own task := sound.own task (by simp [first])
    have thrown : execute mysql task = .thrown ↔ _ := thrown_iff own
    simp only [first, List.cons.injEq, and_imp, forall_apply_eq_imp_iff, forall_eq']
    cases outcome : execute mysql task with
    | thrown =>
      obtain ⟨select, row, rest, result⟩ := thrown.mp outcome
      simp [Server.outcome, select, result]
    | _ =>
      have fine : ¬ (task.parms.select = .toys ∧ ∃ row rest, task.result = some (row :: rest)) :=
        fun bad => by simp [thrown.mpr bad] at outcome
      simp only [Server.outcome, up, true_iff]
      intro toys
      cases result : task.result with
      | none => exact .inl rfl
      | some rows =>
        cases rows with
        | nil => exact .inr rfl
        | cons row rest => exact absurd ⟨toys, row, rest, result⟩ fine

/- A hero that is saved and loaded again. -/

/-- A request and its three selects, which nothing disturbs. -/
def loading (asked : HeroQuery) (characters equips toys : List (Row DateTime)) :
    List (Event DateTime) :=
  [.reqHeroData asked, .query okPass characters, .callback, .query okPass equips, .callback,
    .query okPass toys, .callback]

structure Idle (s : Server DateTime) : Prop where
  queries : s.queries = []
  results : s.results = []
  up : s.crashed = false

def characterLoad (asked : HeroQuery) : Load :=
  ⟨.character, ⟨asked.account, asked.tranid, emptyInfo, asked.gsid⟩⟩

def equipsLoad (asked : HeroQuery) (row : CharacterRow) : Load :=
  ⟨.equips, ⟨asked.account, asked.tranid,
    { emptyInfo with account := row.accountId, data := rowData row }, asked.gsid⟩⟩

def toysLoad (asked : HeroQuery) (row : CharacterRow) (equips : List EquipRow) : Load :=
  ⟨.toys, ⟨asked.account, asked.tranid,
    ⟨row.accountId, rowData row, equips.map equipData, []⟩, asked.gsid⟩⟩

theorem read_equips (equips : List EquipRow) :
    equips.mapM (equipRow ∘ (.equip : EquipRow → Row DateTime)) =
      some (equips.map equipData) := by
  induction equips with
  | nil => rfl
  | cons equip rest ih => simp [equipRow, ih]

theorem run_request (idle : Idle s) (asked : HeroQuery) :
    run (step mysql) s [.reqHeroData asked] =
      { s with queries := [.new (characterLoad asked)], asked := s.asked ++ [asked] } := by
  obtain ⟨queries, results, up⟩ := idle
  simp [run, step, up, Server.queryHeroInfo, queries, characterLoad]

theorem run_character (idle : Idle s) (asked : HeroQuery) (row : CharacterRow) :
    run (step mysql) s [.reqHeroData asked, .query okPass [.character row], .callback] =
      { s with queries := [.new (equipsLoad asked row)], asked := s.asked ++ [asked] } := by
  obtain ⟨queries, results, up⟩ := idle
  simp [run, step, up, Server.queryHeroInfo, queries, results, Server.query, okPass, Task.pass,
    Task.new, Server.callback, execute, dbDoQueryHeroInfo, characterRow, Server.outcome,
    equipsLoad]

theorem run_equips (idle : Idle s) (asked : HeroQuery) (row : CharacterRow)
    (equips : List EquipRow) :
    run (step mysql) s [.reqHeroData asked, .query okPass [.character row], .callback,
        .query okPass (equips.map .equip), .callback] =
      { s with queries := [.new (toysLoad asked row equips)], asked := s.asked ++ [asked] } := by
  obtain ⟨queries, results, up⟩ := idle
  simp [run, step, up, Server.queryHeroInfo, queries, results, Server.query, okPass, Task.pass,
    Task.new, Server.callback, execute, dbDoQueryHeroInfo, characterRow, Server.outcome,
    dbDoQueryHeroEquips, read_equips, toysLoad, emptyInfo]

/-- A load that finds what is stored. -/
theorem loading_honest (idle : Idle s) {asked : HeroQuery} {row : CharacterRow}
    {equips : List EquipRow} {toys : List (Row DateTime)}
    (character : Finds s.tables (characterLoad asked) [.character row])
    (equipsFound : Finds s.tables (equipsLoad asked row) (equips.map .equip))
    (toysFound : Finds s.tables (toysLoad asked row equips) toys) :
    EveryStep (step mysql) Honest s
      (loading asked [.character row] (equips.map .equip) toys) := by
  refine ⟨trivial, ?_, trivial, ?_, trivial, ?_, trivial, trivial⟩
  · change Honest (run (step mysql) s [.reqHeroData asked]) _
    rw [run_request idle]
    intro task rest first
    cases first
    exact character
  · change Honest (run (step mysql) s [.reqHeroData asked, .query okPass [.character row],
      .callback]) _
    rw [run_character idle]
    intro task rest first
    cases first
    exact equipsFound
  · change Honest (run (step mysql) s [.reqHeroData asked, .query okPass [.character row],
      .callback, .query okPass (equips.map .equip), .callback]) _
    rw [run_equips idle]
    intro task rest first
    cases first
    exact toysFound

/-- The database server crashes in a run if and only if a callback gets the toys of a hero: the
select of the toys is asked without the column their callback reads. -/
theorem crashes_iff_toys {tables : Tables DateTime} {events : List (Event DateTime)}
    (filed : Filed tables) (honest : EveryStep (step mysql) Honest (start tables) events) :
    EveryState (step mysql) (fun s => s.crashed = false) (start tables) events ↔
      EveryStep (step mysql) Toyless (start tables) events := by
  have crashed : ∀ s event, Sound s → s.crashed = false →
      ((step mysql s event).crashed = false ↔ Toyless s event) := by
    intro s event sound up
    simp only [step, up, Bool.false_eq_true, if_false]
    cases event with
    | reqHeroData asked => simp [Toyless, Server.queryHeroInfo, up]
    | saveData sql => simp [Toyless]
    | query pass rows => simp [Toyless, query_crashed, up]
    | callback => exact callback_crashed sound up
  apply everyState_iff_of_allowed (fun s => Sound s ∧ s.crashed = false)
  · intro s both
    exact both.2
  · intro s event honest both fine
    exact ⟨sound_step both.1 honest, (crashed s event both.1 both.2).mpr fine⟩
  · intro s event _ both good
    exact (crashed s event both.1 both.2).mp good
  · exact ⟨sound_start filed, rfl⟩
  · exact honest

/-- A database with a hero and a toy of it. -/
def toyTables : Tables UInt64 where
  character := fun account => if account = 7 then some ⟨7, 1, [], 0, 0, 0, []⟩ else none
  equip := fun _ => none
  toy := fun key => if key = [107] then some ⟨[107], decimal 7, 1, 2, 3, 0⟩ else none

def toyEvents : List (Event UInt64) :=
  loading ⟨7, 3, 2⟩ [.character ⟨7, 1, [], 0, 0, 0, []⟩] []
    [.toy ⟨[107], decimal 7, 1, 2, 3, 0⟩]

theorem toyTables_idle : Idle (start toyTables) := ⟨rfl, rfl, rfl⟩

theorem toyTables_filed : Filed toyTables := by
  constructor
  · intro account row found
    simp only [toyTables] at found
    split at found
    · rename_i same
      cases found
      exact same.symm
    · cases found
  · intro id row found
    cases found

theorem toyEvents_honest :
    EveryStep (step StoredToys.november) Honest (start toyTables) toyEvents := by
  refine @loading_honest _ _ _ toyTables_idle _ _ [] _ ?_ ?_ ?_
  · rfl
  · exact ⟨[], List.nodup_nil, rfl, fun row => by simp [start, toyTables]⟩
  · refine ⟨[⟨[107], decimal 7, 1, 2, 3, 0⟩], by simp, rfl, ?_⟩
    intro row
    simp only [List.mem_singleton, start, toyTables]
    constructor
    · rintro rfl
      exact ⟨rfl, rfl⟩
    · intro both
      have found := both.1
      split at found
      · exact (Option.some.inj found).symm
      · cases found

theorem toy_found_crashes :
    (EveryState (step StoredToys.november) (fun s => s.crashed = false) (start toyTables)
        toyEvents ↔
      EveryStep (step StoredToys.november) Toyless (start toyTables) toyEvents) ∧
    (run (step StoredToys.november) (start toyTables) toyEvents).crashed = true :=
  ⟨crashes_iff_toys toyTables_filed toyEvents_honest, rfl⟩

variable {account : Account} {rows : List EquipRow} {hero : DreamHero} {sqls : List Bytes}
  {tables : Tables DateTime} {clock : SaveText.Clock}

end HeroLoads
