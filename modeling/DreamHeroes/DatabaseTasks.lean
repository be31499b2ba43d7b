import DreamHeroes.GameHero

/- A select that a database thread works on until it is finished, and what the database server
   makes of the result of the select of a hero. -/
namespace DatabaseTasks

open ByteWords GameHero SuitText

/-- What the catch clauses of db_thread::work tell apart. -/
inductive QueryError where
  | badQuery (errnum : Nat)
  | badConversion
  | mysqlException
  | otherException
  deriving DecidableEq, Repr

inductive TaskState where
  | doing
  | done
  | error
  deriving DecidableEq, Repr

/- result is none while the pointer result.sr is NULL. -/
structure Task (Parms Row : Type) where
  parms : Parms
  state : TaskState
  result : Option (List Row)
  deriving DecidableEq, Repr

/- One pass of work over a store query: whether mysql is connected, what store throws, and what
   store_next throws behind it when FREESTOREPROCEDURE looks for more results. -/
structure Pass where
  connected : Bool
  store : Option QueryError
  storeNext : Option QueryError
  deriving DecidableEq, Repr

variable {Parms Row : Type}

def Task.new (parms : Parms) : Task Parms Row := ⟨parms, .doing, none⟩

/-- The task after an exception, and whether addDone was called. -/
def Task.caught (task : Task Parms Row) : QueryError → Task Parms Row × Bool
  | .badQuery errnum =>
      if errnum ≠ 2013 ∧ errnum ≠ 2006 then ({ task with state := .error }, true)
      else (task, false)
  | .badConversion => ({ task with state := .error }, true)
  | .mysqlException => ({ task with state := .error }, true)
  | .otherException => (task, false)

/-- The task after one pass that finds these rows, and whether addDone was called. -/
def Task.pass (task : Task Parms Row) (rows : List Row) (pass : Pass) : Task Parms Row × Bool :=
  if pass.connected then
    match pass.store with
    | some error => task.caught error
    | none =>
        let stored := { task with result := some rows }
        match pass.storeNext with
        | some error => stored.caught error
        | none => ({ stored with state := .done }, true)
  else (task, false)

/-- The finished task, if one of the passes finishes it. Each pass finds its own rows. -/
def work (task : Task Parms Row) : List (List Row × Pass) → Option (Task Parms Row)
  | [] => none
  | (rows, pass) :: rest =>
      let after := task.pass rows pass
      if after.2 then some after.1 else work after.1 rest

structure HeroQuery where
  account : Account
  tranid : Nat
  gsid : Nat
  deriving DecidableEq, Repr

/- What dbDoQueryHeroInfo goes on with. -/
inductive HeroAnswer where
  | needCreateHero (tranid gsid : Nat)
  | queryEquips (account : Account) (data : MsgHeroData)
  deriving DecidableEq, Repr

def rowData (row : CharacterRow) : MsgHeroData :=
  ⟨row.accountId, row.level, cStr row.name, row.actionPoint, row.diamand, row.gold,
    parseSuits row.suitsName⟩

/- The success flag s is not looked at. -/
def dbDoQueryHeroInfo (r : Option (List CharacterRow)) (d : HeroQuery) (_s : Bool) : HeroAnswer :=
  match r with
  | some (row :: _) => .queryEquips row.accountId (rowData row)
  | _ => .needCreateHero d.tranid d.gsid

/- Database::run hands the callback the result and whether the task is done. -/
def execute (task : Task HeroQuery CharacterRow) : HeroAnswer :=
  dbDoQueryHeroInfo task.result task.parms (task.state = .done)

variable {task finished : Task Parms Row} {rows : List Row} {pass : Pass}

theorem caught_finishes {error : QueryError} (done : (task.caught error).2 = true) :
    (task.caught error).1 = { task with state := .error } := by
  cases error with
  | badQuery errnum =>
    simp only [Task.caught] at done ⊢
    split at done
    · rename_i fatal
      rw [if_pos fatal]
    · cases done
  | badConversion => rfl
  | mysqlException => rfl
  | otherException => cases done

/-- A pass that finishes the task leaves it done with the rows, or in error. -/
theorem pass_finishes (done : (task.pass rows pass).2 = true) :
    ((task.pass rows pass).1.state = .done ∧ (task.pass rows pass).1.result = some rows) ∨
      (task.pass rows pass).1.state = .error := by
  unfold Task.pass at done ⊢
  split at done
  · rename_i connected
    rw [if_pos connected]
    split at done
    · exact .inr (by rw [caught_finishes done])
    · split at done
      · exact .inr (by simp only [caught_finishes done])
      · exact .inl ⟨rfl, rfl⟩
  · cases done

theorem work_finishes {passes : List (List Row × Pass)} (done : work task passes = some finished) :
    (finished.state = .done ∧ ∃ rows, finished.result = some rows) ∨ finished.state = .error := by
  induction passes generalizing task with
  | nil => cases done
  | cons entry rest ih =>
    simp only [work] at done
    split at done
    · rename_i finishes
      cases done
      rcases pass_finishes finishes with ⟨state, result⟩ | error
      · exact .inl ⟨state, _, result⟩
      · exact .inr error
    · exact ih done

/-- The select failed and left no row. -/
def FailedEmpty (task : Task Parms Row) : Prop :=
  task.state = .error ∧ (task.result = none ∨ task.result = some [])

theorem caught_parms (error : QueryError) : (task.caught error).1.parms = task.parms := by
  cases error with
  | badQuery errnum =>
    simp only [Task.caught]
    split <;> rfl
  | badConversion => rfl
  | mysqlException => rfl
  | otherException => rfl

theorem pass_parms : (task.pass rows pass).1.parms = task.parms := by
  unfold Task.pass
  split
  · split
    · apply caught_parms
    · simp only
      split
      · apply caught_parms
      · rfl
  · rfl

theorem execute_needCreate_empty {task : Task HeroQuery CharacterRow} {tranid gsid : Nat}
    (answer : execute task = .needCreateHero tranid gsid) :
    task.result = none ∨ task.result = some [] := by
  unfold execute dbDoQueryHeroInfo at answer
  split at answer
  · cases answer
  · rename_i empty
    cases result : task.result with
    | none => exact .inl rfl
    | some rows =>
      cases rows with
      | nil => exact .inr rfl
      | cons row rest => exact absurd result (empty row rest)

theorem execute_needCreate_iff {task : Task HeroQuery CharacterRow} :
    execute task = .needCreateHero task.parms.tranid task.parms.gsid ↔
      task.result = none ∨ task.result = some [] := by
  constructor
  · exact execute_needCreate_empty
  · intro empty
    unfold execute dbDoQueryHeroInfo
    rcases empty with null | none
    · rw [null]
    · rw [none]

/-- The message to create a hero means that there is none, except after a failed select. -/
theorem needCreate_means_absent_iff {task finished : Task HeroQuery CharacterRow}
    {passes : List (List CharacterRow × Pass)} (done : work task passes = some finished) :
    (execute finished = .needCreateHero finished.parms.tranid finished.parms.gsid →
      finished.state = .done ∧ finished.result = some []) ↔ ¬ FailedEmpty finished := by
  rw [execute_needCreate_iff]
  constructor
  · intro absent failed
    have wrong := (absent failed.2).1
    rw [failed.1] at wrong
    cases wrong
  · intro sound empty
    rcases work_finishes done with ⟨state, rows, result⟩ | error
    · refine ⟨state, ?_⟩
      rcases empty with null | none
      · rw [result] at null
        cases null
      · exact none
    · exact absurd ⟨error, empty⟩ sound

end DatabaseTasks
