import DreamHeroes.DatabaseTasks
import DreamHeroes.LabelledRuns
import DreamHeroes.TaskLines

/- Database: a queue of tasks for each task type, the threads that work them off, the results
   and the main thread that runs the callbacks and stops the threads. -/
namespace DatabaseThreads

open DatabaseTasks OrderedMaps ObjMap LabelledRuns TaskLines

def normalThread : Nat := 0

inductive ObjState where
  | run
  | waitStop
  | stop
  deriving DecidableEq, Repr

inductive Store where
  | storeQuery
  | batchQuery
  deriving DecidableEq, Repr

/- What addSQueryTask and addBatchTask are called with. id is a history value: how many tasks
   were accepted before. -/
structure Submission where
  id : Nat
  ntype : Nat
  store : Store
  deriving DecidableEq, Repr

abbrev DBTask (Row : Type) := Task Submission Row

/- Where a thread is in run and work. fetched holds what getTask returned before it is assigned
   to _task. added and failed follow addDone, which leaves _task as it is. -/
inductive Place (Row : Type) where
  | running
  | connecting
  | entering
  | fetched (task : Option (DBTask Row))
  | working
  | added
  | failed
  | ended
  deriving DecidableEq

structure Thread (Row : Type) where
  data : Nat
  stop : Bool
  connect : Bool
  task : Option (DBTask Row)
  place : Place Row
  deriving DecidableEq

/- What the database does when a thread calls it: whether realConnect connects, the rows a
   query finds and how a pass over a task goes. -/
structure Outcome (Row : Type) where
  connects : Bool
  rows : List Row
  pass : Pass

variable {Row : Type}

/-- A pass over a task of either kind. The callback of a batch reads its own rows. -/
def attempt (task : DBTask Row) (outcome : Outcome Row) : DBTask Row × Bool :=
  match task.parms.store with
  | .storeQuery => task.pass outcome.rows outcome.pass
  | .batchQuery => task.pass [] { outcome.pass with storeNext := none }

/-- What the pass throws. -/
def thrown (task : DBTask Row) (pass : Pass) : Option QueryError :=
  match task.parms.store with
  | .storeQuery => pass.store <|> pass.storeNext
  | .batchQuery => pass.store

def keepsConnect : Option QueryError → Bool
  | some (.badQuery _) => false
  | _ => true

namespace Thread

def new (ntype : Nat) : Thread Row := ⟨ntype, false, false, none, .running⟩

def isDone (thread : Thread Row) : Bool := thread.task.isNone

/-- The thread goes on to `place`. -/
def goes (thread : Thread Row) (place : Place Row) : Thread Row := { thread with place := place }

/-- A pass over _task. -/
def works (thread : Thread Row) (task : DBTask Row) (outcome : Outcome Row) :
    Thread Row × List (DBTask Row) :=
  if outcome.pass.connected then
    let after := attempt task outcome
    let kept : Thread Row := { thread with
      task := some after.1
      connect := thread.connect && keepsConnect (thrown task outcome.pass) }
    if after.2 then
      (kept.goes (if thrown task outcome.pass = none then .added else .failed), [after.1])
    else (kept.goes .running, [])
  else (thread.goes .running, [])

/- One step of the thread: the thread behind it, what is left of its queue and what it hands to
   addDone. connetDatabase sleeps between two tries and ends when _stop is set. -/
def step (thread : Thread Row) (queue : List (DBTask Row)) (outcome : Outcome Row) :
    Thread Row × List (DBTask Row) × List (DBTask Row) :=
  match thread.place with
  | .running => (thread.goes (if thread.stop then .ended else .connecting), queue, [])
  | .connecting =>
      if thread.connect || thread.stop then (thread.goes .entering, queue, [])
      else ({ thread with connect := outcome.connects }, queue, [])
  | .entering =>
      match thread.task with
      | none => (thread.goes (.fetched queue.head?), queue.tail, [])
      | some _ => (thread.goes .working, queue, [])
  | .fetched task => ({ thread with task := task }.goes .working, queue, [])
  | .working =>
      match thread.task with
      | none => (thread.goes .running, queue, [])
      | some task =>
          let after := thread.works task outcome
          (after.1, queue, after.2)
  | .added => (thread.goes (.fetched queue.head?), queue.tail, [])
  | .failed => ({ thread with task := none }.goes .running, queue, [])
  | .ended => (thread, queue, [])

/-- The task that left the queue and has not come to addDone. -/
def holds (thread : Thread Row) : Option (DBTask Row) :=
  match thread.place with
  | .fetched task => task
  | .added => none
  | .failed => none
  | _ => thread.task

end Thread

/- The main thread: outside of run, in the loop of checkStop with the threads still to be asked,
   joining one of them, behind checkStop, and running the callbacks of the results it took. -/
inductive Main (Row : Type) where
  | idle
  | checking (rest : List Nat)
  | joining (i : Nat) (rest : List Nat)
  | checked
  | delivering (tem : List (DBTask Row))
  deriving DecidableEq

/- accepted and executed are history values: the accepted tasks and the callbacks that ran. -/
structure Database (Row : Type) where
  objState : ObjState
  tasks : OrderedMap Nat (List (DBTask Row))
  threads : List (Thread Row)
  results : List (DBTask Row)
  main : Main Row
  accepted : List Submission
  executed : List (DBTask Row)

namespace Database

def queue (s : Database Row) (ntype : Nat) : List (DBTask Row) := (getData s.tasks ntype).getD []

def addThread (s : Database Row) (ntype count : Nat) : Database Row :=
  { s with
    tasks := s.tasks.insert ntype []
    threads := s.threads ++
      List.replicate (if ntype = normalThread then count else 1) (Thread.new ntype) }

def addTask (s : Database Row) (ntype : Nat) (task : DBTask Row) : Database Row :=
  { s with tasks := s.tasks.insert ntype (s.queue ntype ++ [task]) }

def addRealTask (s : Database Row) (ntype : Nat) (task : DBTask Row) : Database Row :=
  match getData s.tasks ntype with
  | some _ => s.addTask ntype task
  | none => (s.addThread ntype 1).addTask ntype task

/- addSQueryTask and addBatchTask, called by the main thread outside of run or in a callback. -/
def addQueryTask (s : Database Row) (ntype : Nat) (store : Store) : Database Row :=
  if s.objState = .run then
    let parms : Submission := ⟨s.accepted.length, ntype, store⟩
    { s.addRealTask ntype (.new parms) with accepted := s.accepted ++ [parms] }
  else s

/-- The main thread is free to call the database. -/
def calls (s : Database Row) : Bool :=
  match s.main with
  | .idle => true
  | .delivering _ => true
  | _ => false

def setStop (s : Database Row) (i : Nat) : Database Row :=
  { s with threads := s.threads.modify i fun thread => { thread with stop := true } }

def threadIsDone (s : Database Row) (i : Nat) : Bool := (s.threads[i]?).all (·.isDone)

def threadEnded (s : Database Row) (i : Nat) : Bool :=
  (s.threads[i]?).all (·.place matches .ended)

def goes (s : Database Row) (main : Main Row) : Database Row := { s with main := main }

/- The next step of the main thread: run begins with checkStop and delivers the results
   afterwards, unless checkStop has set the state to _stop_obj_. -/
def mainStep (s : Database Row) : Database Row :=
  match s.main with
  | .idle =>
      if s.objState = .waitStop ∧ ∀ entry ∈ s.tasks.entries, entry.2 = [] then
        s.goes (.checking (List.range s.threads.length))
      else s.goes .checked
  | .checking [] => { s.goes .checked with objState := .stop }
  | .checking (i :: rest) =>
      if s.threadIsDone i then (s.setStop i).goes (.joining i rest) else s.goes .checked
  | .joining i rest => if s.threadEnded i then s.goes (.checking rest) else s
  | .checked =>
      if s.objState = .stop ∨ s.results = [] then s.goes .idle
      else { s.goes (.delivering s.results) with results := [] }
  | .delivering [] => s.goes .idle
  | .delivering (task :: tem) =>
      { s.goes (.delivering tem) with executed := s.executed ++ [task] }

def threadStep (s : Database Row) (i : Nat) (outcome : Outcome Row) : Database Row :=
  match s.threads[i]? with
  | none => s
  | some thread =>
      let after := thread.step (s.queue thread.data) outcome
      { s with
        threads := s.threads.set i after.1
        tasks := s.tasks.insert thread.data after.2.1
        results := s.results ++ after.2.2 }

end Database

inductive Event (Row : Type) where
  | addQueryTask (ntype : Nat) (store : Store)
  | setWaitStop
  | main
  | thread (i : Nat) (outcome : Outcome Row)

def step (s : Database Row) : Event Row → Database Row
  | .addQueryTask ntype store => if s.calls then s.addQueryTask ntype store else s
  | .setWaitStop => if s.calls then { s with objState := .waitStop } else s
  | .main => s.mainStep
  | .thread i outcome => s.threadStep i outcome

/-- The state behind initDatabase with _thread_ threads of the type _NORMAL_THREAD. -/
def initDatabase (threadCount : Nat) : Database Row where
  objState := .run
  tasks := OrderedMap.empty.insert normalThread []
  threads := List.replicate threadCount (Thread.new normalThread)
  results := []
  main := .idle
  accepted := []
  executed := []

/-- Every accepted task whose state is stop has had one callback, and the tasks of a type with
one thread have their callbacks in the order they were accepted. -/
structure Delivered (s : Database Row) : Prop where
  once : s.objState = .stop → ∀ parms ∈ s.accepted, (s.executed.map (·.parms)).count parms = 1
  ordered : ∀ ntype, ntype ≠ normalThread →
    (s.executed.map (·.parms)).filter (·.ntype = ntype) <+: s.accepted.filter (·.ntype = ntype)

/-- When checkStop is through with the threads nothing waits in _results and no _task is set. -/
def StopsClean (s : Database Row) : Event Row → Prop
  | .main => s.main = .checking [] → s.results = [] ∧ ∀ thread ∈ s.threads, thread.task = none
  | _ => True

variable {s s' : Database Row} {thread next : Thread Row} {queue rest added : List (DBTask Row)}
  {outcome : Outcome Row} {ntype : Nat} {event : Event Row}

/-- What a step does to the task of a thread, to its queue and to _results. -/
inductive Worked (thread : Thread Row) (queue : List (DBTask Row)) :
    Thread Row → List (DBTask Row) → List (DBTask Row) → Prop where
  | kept {next : Thread Row} (same : next.holds.map (·.parms) = thread.holds.map (·.parms)) :
      Worked thread queue next queue []
  | fetched {next : Thread Row} {task : DBTask Row} {rest : List (DBTask Row)}
      (first : queue = task :: rest) (free : thread.holds = none)
      (holds : next.holds = some task) : Worked thread queue next rest []
  | yielded {next : Thread Row} {task done : DBTask Row} (held : thread.holds = some task)
      (same : done.parms = task.parms) (free : next.holds = none) :
      Worked thread queue next queue [done]

theorem attempt_parms (task : DBTask Row) (outcome : Outcome Row) :
    (attempt task outcome).1.parms = task.parms := by
  unfold attempt
  split
  · exact pass_parms
  · exact pass_parms

theorem works_data (task : DBTask Row) : (thread.works task outcome).1.data = thread.data := by
  unfold Thread.works
  split
  · simp only
    split <;> rfl
  · rfl

theorem step_data : (thread.step queue outcome).1.data = thread.data := by
  unfold Thread.step
  split
  · rfl
  · split <;> rfl
  · split <;> rfl
  · rfl
  · split
    · rfl
    · exact works_data _
  · rfl
  · rfl
  · rfl

/-- getTask takes the first task of the queue, if there is one. -/
theorem fetch_worked (free : thread.holds = none) :
    Worked thread queue (thread.goes (.fetched queue.head?)) queue.tail [] := by
  cases queue with
  | nil => exact .kept (by rw [free]; rfl)
  | cons task rest => exact .fetched rfl free rfl

theorem works_worked {task : DBTask Row} (place : thread.place = .working)
    (held : thread.task = some task) :
    Worked thread queue (thread.works task outcome).1 queue (thread.works task outcome).2 := by
  have holds : thread.holds = some task := by simp [Thread.holds, place, held]
  unfold Thread.works
  split
  · simp only
    split
    · refine .yielded holds (attempt_parms task outcome) ?_
      split <;> rfl
    · refine .kept ?_
      rw [holds]
      simp [Thread.holds, Thread.goes, attempt_parms]
  · refine .kept ?_
    rw [holds]
    simp [Thread.holds, Thread.goes, held]

theorem step_worked : Worked thread queue (thread.step queue outcome).1
    (thread.step queue outcome).2.1 (thread.step queue outcome).2.2 := by
  unfold Thread.step
  split
  · rename_i place
    refine .kept ?_
    cases stop : thread.stop <;> simp [Thread.holds, Thread.goes, place]
  · rename_i place
    split
    · exact .kept (by simp [Thread.holds, Thread.goes, place])
    · exact .kept (by simp [Thread.holds, place])
  · rename_i place
    split
    · rename_i free
      exact fetch_worked (by simp [Thread.holds, place, free])
    · exact .kept (by simp [Thread.holds, Thread.goes, place])
  · rename_i task place
    exact .kept (by simp [Thread.holds, Thread.goes, place])
  · rename_i place
    split
    · exact .kept (by simp [Thread.holds, Thread.goes, place])
    · rename_i task held
      exact works_worked place held
  · rename_i place
    exact fetch_worked (by simp [Thread.holds, place])
  · rename_i place
    exact .kept (by simp [Thread.holds, Thread.goes, place])
  · exact .kept rfl

theorem step_ended (place : thread.place = .ended) :
    thread.step queue outcome = (thread, queue, []) := by
  simp [Thread.step, place]

/-- The tasks of a type. -/
def ofType (ntype : Nat) (tasks : List (DBTask Row)) : List Submission :=
  (tasks.map (·.parms)).filter (·.ntype = ntype)

@[simp] theorem ofType_nil : ofType ntype ([] : List (DBTask Row)) = [] := rfl

@[simp] theorem ofType_append (front back : List (DBTask Row)) :
    ofType ntype (front ++ back) = ofType ntype front ++ ofType ntype back := by
  simp [ofType]

/-- The tasks held by the threads of a type. -/
def heldParms (ntype : Nat) (threads : List (Thread Row)) : List Submission :=
  (threads.filter (·.data = ntype)).filterMap fun thread => thread.holds.map (·.parms)

@[simp] theorem heldParms_append (front back : List (Thread Row)) :
    heldParms ntype (front ++ back) = heldParms ntype front ++ heldParms ntype back := by
  simp [heldParms]

theorem heldParms_cons : heldParms ntype (thread :: back) =
    (if thread.data = ntype then (thread.holds.map (·.parms)).toList else []) ++
      heldParms ntype back := by
  unfold heldParms
  by_cases here : thread.data = ntype
  · cases held : thread.holds <;> simp [here, held]
  · simp [here]

namespace Database

/-- The results taken with the batch whose callbacks are running. -/
def batch (s : Database Row) : List (DBTask Row) :=
  match s.main with
  | .delivering tem => tem
  | _ => []

/-- The tasks of a type as a line of jobs. -/
def line (s : Database Row) (ntype : Nat) : Line Submission where
  accepted := s.accepted.filter (·.ntype = ntype)
  queued := (s.queue ntype).map (·.parms)
  held := heldParms ntype s.threads
  results := ofType ntype s.results
  batch := ofType ntype s.batch
  finished := ofType ntype s.executed

/-- The threads checkStop has not joined yet. -/
def unasked (s : Database Row) : Option (List Nat) :=
  match s.main with
  | .checking rest => some rest
  | .joining i rest => some (i :: rest)
  | _ => none

end Database

/-- The invariant of every run. -/
structure Kept (s : Database Row) : Prop where
  queueType : ∀ ntype, ∀ task ∈ s.queue ntype, task.parms.ntype = ntype
  heldType : ∀ thread ∈ s.threads, ∀ task, thread.holds = some task →
    task.parms.ntype = thread.data
  served : ∀ thread ∈ s.threads, getData s.tasks thread.data ≠ none
  single : ∀ ntype, ntype ≠ normalThread → (s.threads.filter (·.data = ntype)).length ≤ 1
  ids : s.accepted.map (·.id) = List.range s.accepted.length
  quiet : ∀ rest, s.unasked = some rest → (∀ ntype, s.queue ntype = []) ∧
    ∀ (j : Nat) (thread : Thread Row), s.threads[j]? = some thread →
      thread.place = .ended ∨ j ∈ rest

theorem split_threads {threads : List (Thread Row)} {i : Nat} (found : threads[i]? = some thread) :
    ∃ front back, threads = front ++ thread :: back ∧
      ∀ next, threads.set i next = front ++ next :: back := by
  obtain ⟨bound, here⟩ := List.getElem?_eq_some_iff.mp found
  refine ⟨threads.take i, threads.drop (i + 1), ?_, ?_⟩
  · rw [← here, List.getElem_cons_drop, List.take_append_drop]
  · intro next
    exact List.set_eq_take_append_cons_drop.trans (if_pos bound)

/-- The database once a thread has taken a step. -/
def worked (s : Database Row) (front back : List (Thread Row)) (next : Thread Row)
    (queue added : List (DBTask Row)) : Database Row :=
  { s with
    threads := front ++ next :: back
    tasks := s.tasks.insert next.data queue
    results := s.results ++ added }

theorem threadStep_cases (s : Database Row) (i : Nat) (outcome : Outcome Row) :
    s.threadStep i outcome = s ∨ ∃ front thread back, s.threads[i]? = some thread ∧
      s.threads = front ++ thread :: back ∧
        (∀ next, s.threads.set i next = front ++ next :: back) ∧
          let after := thread.step (s.queue thread.data) outcome
          s.threadStep i outcome = worked s front back after.1 after.2.1 after.2.2 := by
  unfold Database.threadStep
  split
  · exact .inl rfl
  · rename_i thread found
    obtain ⟨front, back, threads, replaced⟩ := split_threads found
    refine .inr ⟨front, thread, back, found, threads, replaced, ?_⟩
    simp only [worked, replaced, step_data]

theorem queue_worked {front back : List (Thread Row)} :
    (worked s front back next rest added).queue ntype =
    if next.data = ntype then rest else s.queue ntype := by
  unfold worked Database.queue
  by_cases here : next.data = ntype
  · simp [getData, here]
  · simp [getData, here]

theorem move_worked {front back : List (Thread Row)} (threads : s.threads = front ++ thread :: back)
    (data : next.data = thread.data)
    (heldType : ∀ task, thread.holds = some task → task.parms.ntype = thread.data)
    (turn : Worked thread (s.queue thread.data) next rest added) (ntype : Nat) :
    Move (s.line ntype) ((worked s front back next rest added).line ntype) := by
  have held : (s.line ntype).held = heldParms ntype front ++
      ((if thread.data = ntype then (thread.holds.map (·.parms)).toList else []) ++
        heldParms ntype back) := by
    simp only [Database.line, threads, heldParms_append, heldParms_cons]
  have after : (worked s front back next rest added).line ntype = { s.line ntype with
      queued := (if thread.data = ntype then rest else s.queue ntype).map (·.parms)
      held := heldParms ntype front ++
        ((if thread.data = ntype then (next.holds.map (·.parms)).toList else []) ++
          heldParms ntype back)
      results := (s.line ntype).results ++ ofType ntype added } := by
    simp only [Database.line, queue_worked, data]
    simp [worked, heldParms_cons, data, Database.batch]
  rw [after]
  by_cases here : thread.data = ntype
  · subst here
    simp only [if_true] at held ⊢
    cases turn with
    | kept same =>
      rw [same, ← held, ofType_nil, List.append_nil]
      exact .stay (s.line thread.data)
    | fetched first free holds =>
      rename_i task
      have queued : (s.line thread.data).queued = task.parms :: rest.map (·.parms) := by
        simp [Database.line, first]
      simp only [ofType_nil, List.append_nil]
      refine .fetch queued ?_
      rw [held, free, holds]
      simp
    | yielded holds same free =>
      rename_i task done
      have added : ofType thread.data [done] = [task.parms] := by
        simp [ofType, same, heldType task holds]
      rw [added]
      refine .yield ?_
      rw [held, free, holds]
      simp
  · simp only [here, if_false] at held ⊢
    have none : ofType ntype added = [] := by
      cases turn with
      | kept => rfl
      | fetched => rfl
      | yielded holds same free =>
        rename_i task done
        simp [ofType, same, heldType task holds, here]
    rw [← held, none, List.append_nil]
    exact .stay (s.line ntype)

theorem line_of_same (accepted : s'.accepted = s.accepted)
    (queues : ∀ ntype, s'.queue ntype = s.queue ntype)
    (held : heldParms ntype s'.threads = heldParms ntype s.threads)
    (results : s'.results = s.results)
    (batch : s'.batch = s.batch) (executed : s'.executed = s.executed) :
    s'.line ntype = s.line ntype := by
  simp only [Database.line, accepted, queues, held, results, batch, executed]

theorem heldParms_modify (i : Nat) (threads : List (Thread Row)) (change : Thread Row → Thread Row)
    (data : ∀ thread, (change thread).data = thread.data)
    (holds : ∀ thread, (change thread).holds = thread.holds) :
    heldParms ntype (threads.modify i change) = heldParms ntype threads := by
  induction threads generalizing i with
  | nil => simp
  | cons thread rest ih =>
    cases i with
    | zero => simp [heldParms_cons, data, holds]
    | succ i => simp [heldParms_cons, ih]

theorem mainStep_move (s : Database Row) (ntype : Nat) :
    Move (s.line ntype) (s.mainStep.line ntype) := by
  have stay : ∀ {s' : Database Row}, s'.line ntype = s.line ntype →
      Move (s.line ntype) (s'.line ntype) := by
    intro s' same
    rw [same]
    exact .stay _
  unfold Database.mainStep
  split
  · rename_i main
    split <;> exact stay (line_of_same rfl (fun _ => rfl) rfl rfl
      (by simp [Database.batch, Database.goes, main]) rfl)
  · rename_i main
    exact stay (line_of_same rfl (fun _ => rfl) rfl rfl
      (by simp [Database.batch, Database.goes, main]) rfl)
  · rename_i i rest main
    split
    · refine stay (line_of_same rfl (fun _ => rfl) ?_ rfl
        (by simp [Database.batch, Database.goes, main]) rfl)
      exact heldParms_modify i s.threads _ (fun _ => rfl) (fun _ => rfl)
    · exact stay (line_of_same rfl (fun _ => rfl) rfl rfl
        (by simp [Database.batch, Database.goes, main]) rfl)
  · rename_i i rest main
    split
    · exact stay (line_of_same rfl (fun _ => rfl) rfl rfl
        (by simp [Database.batch, Database.goes, main]) rfl)
    · exact stay rfl
  · rename_i main
    split
    · exact stay (line_of_same rfl (fun _ => rfl) rfl rfl
        (by simp [Database.batch, Database.goes, main]) rfl)
    · exact .take (by simp [Database.line, Database.batch, main])
  · rename_i main
    exact stay (line_of_same rfl (fun _ => rfl) rfl rfl
      (by simp [Database.batch, Database.goes, main]) rfl)
  · rename_i task tem main
    by_cases here : task.parms.ntype = ntype
    · have first : (s.line ntype).batch = task.parms :: ofType ntype tem := by
        simp [Database.line, Database.batch, main, ofType, here]
      have moved := Move.finish first
      simpa [Database.line, Database.batch, Database.goes, Database.queue, ofType, here] using moved
    · refine stay ?_
      simp [Database.line, Database.batch, Database.goes, Database.queue, main, ofType, here]

theorem queue_addRealTask {task : DBTask Row} {other : Nat} :
    (s.addRealTask ntype task).queue other =
      if ntype = other then s.queue other ++ [task] else s.queue other := by
  unfold Database.addRealTask
  split
  · by_cases here : ntype = other
    · simp [Database.addTask, Database.queue, getData, here]
    · simp [Database.addTask, Database.queue, getData, here]
  · rename_i absent
    by_cases here : ntype = other
    · subst here
      simp [Database.addTask, Database.addThread, Database.queue, absent]
      simp [getData]
    · simp [Database.addTask, Database.addThread, Database.queue, getData, here]

/-- A task of an unknown type starts one thread. -/
theorem addRealTask_threads (s : Database Row) (ntype : Nat) (task : DBTask Row) :
    (s.addRealTask ntype task).threads = s.threads ∧ getData s.tasks ntype ≠ none ∨
      (s.addRealTask ntype task).threads = s.threads ++ [Thread.new ntype] ∧
        getData s.tasks ntype = none := by
  unfold Database.addRealTask
  split
  · rename_i present
    exact .inl ⟨rfl, by simp [present]⟩
  · rename_i absent
    refine .inr ⟨?_, absent⟩
    simp [Database.addThread, Database.addTask]

theorem addRealTask_same (s : Database Row) (ntype : Nat) (task : DBTask Row) :
    (s.addRealTask ntype task).results = s.results ∧ (s.addRealTask ntype task).main = s.main ∧
      (s.addRealTask ntype task).executed = s.executed ∧
      (s.addRealTask ntype task).objState = s.objState := by
  unfold Database.addRealTask
  split <;> exact ⟨rfl, rfl, rfl, rfl⟩

theorem heldParms_addRealTask (s : Database Row) (ntype other : Nat) (task : DBTask Row) :
    heldParms other (s.addRealTask ntype task).threads = heldParms other s.threads := by
  rcases addRealTask_threads s ntype task with ⟨same, _⟩ | ⟨more, _⟩
  · rw [same]
  · rw [more, heldParms_append, heldParms_cons]
    by_cases here : ntype = other <;> simp [heldParms, Thread.new, Thread.holds, here]

theorem accept_move {parms : Submission} (accepted : s'.accepted = s.accepted ++ [parms])
    (queues : s'.queue ntype =
      if parms.ntype = ntype then s.queue ntype ++ [.new parms] else s.queue ntype)
    (held : heldParms ntype s'.threads = heldParms ntype s.threads)
    (results : s'.results = s.results)
    (batch : s'.batch = s.batch) (executed : s'.executed = s.executed) :
    Move (s.line ntype) (s'.line ntype) := by
  by_cases here : parms.ntype = ntype
  · have after : s'.line ntype = { s.line ntype with
        accepted := (s.line ntype).accepted ++ [parms]
        queued := (s.line ntype).queued ++ [parms] } := by
      simp only [Database.line, accepted, queues, held, results, batch, executed, here]
      simp [here, Task.new]
    rw [after]
    exact .accept _ _
  · have after : s'.line ntype = s.line ntype := by
      simp only [Database.line, accepted, queues, held, results, batch, executed, here]
      simp [here]
    rw [after]
    exact .stay _

theorem addQueryTask_move (s : Database Row) (added : Nat) (store : Store) (ntype : Nat) :
    Move (s.line ntype) ((s.addQueryTask added store).line ntype) := by
  unfold Database.addQueryTask
  split
  · obtain ⟨results, main, executed, _⟩ :=
      addRealTask_same s added (.new ⟨s.accepted.length, added, store⟩)
    apply accept_move
      (?_ : _ = s.accepted ++ [(⟨s.accepted.length, added, store⟩ : Submission)])
    · exact queue_addRealTask
    · exact heldParms_addRealTask s added ntype _
    · exact results
    · simp only [Database.batch, main]
    · exact executed
    · rfl
  · exact .stay _

theorem accepted_addQueryTask (s : Database Row) (ntype : Nat) (store : Store) :
    (s.addQueryTask ntype store).accepted = s.accepted ++
      if s.objState = .run then [⟨s.accepted.length, ntype, store⟩] else [] := by
  unfold Database.addQueryTask
  split <;> simp

theorem step_move (kept : Kept s) (event : Event Row) (ntype : Nat) :
    Move (s.line ntype) ((step s event).line ntype) := by
  cases event with
  | addQueryTask added store =>
    simp only [step]
    split
    · exact addQueryTask_move s added store ntype
    · exact .stay _
  | setWaitStop =>
    simp only [step]
    split <;> exact .stay _
  | main => exact mainStep_move s ntype
  | thread i outcome =>
    rcases threadStep_cases s i outcome with same | ⟨front, thread, back, found, threads, _, after⟩
    · simp only [step, same]
      exact .stay _
    · simp only [step, after]
      exact move_worked threads step_data
        (kept.heldType thread (List.mem_of_getElem? found)) step_worked ntype

/-- Only addSQueryTask and addBatchTask accept tasks. -/
theorem accepted_step (s : Database Row) (event : Event Row) :
    (step s event).accepted = s.accepted ∨ ∃ ntype store, event = .addQueryTask ntype store ∧
      (step s event).accepted = s.accepted ++ [⟨s.accepted.length, ntype, store⟩] := by
  cases event with
  | addQueryTask ntype store =>
    simp only [step]
    split
    · rw [accepted_addQueryTask]
      split
      · exact .inr ⟨ntype, store, rfl, rfl⟩
      · exact .inl (List.append_nil _)
    · exact .inl rfl
  | setWaitStop =>
    simp only [step]
    split <;> exact .inl rfl
  | main =>
    simp only [step, Database.mainStep]
    repeat' split
    all_goals exact .inl rfl
  | thread i outcome =>
    rcases threadStep_cases s i outcome with same | ⟨front, thread, back, _, _, _, after⟩
    · exact .inl (by simp only [step, same])
    · exact .inl (by simp only [step, after, worked])

theorem unasked_of_calls (calls : s.calls = true) : s.unasked = none := by
  unfold Database.calls at calls
  unfold Database.unasked
  split at calls
  · rename_i main
    simp [main]
  · rename_i tem main
    simp [main]
  · cases calls

theorem addRealTask_served (s : Database Row) (ntype other : Nat) (task : DBTask Row)
    (present : other = ntype ∨ getData s.tasks other ≠ none) :
    getData (s.addRealTask ntype task).tasks other ≠ none := by
  unfold Database.addRealTask
  split <;> by_cases here : ntype = other
  · simp [Database.addTask, getData, here]
  · rcases present with same | present
    · exact absurd same.symm here
    · simpa [Database.addTask, getData, here] using present
  · simp [Database.addTask, getData, here]
  · rcases present with same | present
    · exact absurd same.symm here
    · simpa [Database.addTask, Database.addThread, getData, here] using present

theorem kept_addQueryTask {store : Store} (kept : Kept s) (calls : s.calls = true) :
    Kept (s.addQueryTask ntype store) := by
  unfold Database.addQueryTask
  split
  · obtain ⟨_, main, _, _⟩ := addRealTask_same s ntype (.new ⟨s.accepted.length, ntype, store⟩)
    have threads := addRealTask_threads s ntype (.new ⟨s.accepted.length, ntype, store⟩)
    have member_threads : ∀ thread,
        thread ∈ (s.addRealTask ntype (.new ⟨s.accepted.length, ntype, store⟩)).threads →
          thread ∈ s.threads ∨ thread = Thread.new ntype := by
      intro thread member
      rcases threads with ⟨same, _⟩ | ⟨more, _⟩
      · exact .inl (same ▸ member)
      · rw [more] at member
        simpa using member
    constructor
    · intro other task member
      replace member : task ∈ (s.addRealTask ntype
        (.new ⟨s.accepted.length, ntype, store⟩)).queue other := member
      rw [queue_addRealTask] at member
      split at member
      · rename_i same
        rcases List.mem_append.mp member with old | new
        · exact kept.queueType other task old
        · rw [List.mem_singleton.mp new]
          exact same
      · exact kept.queueType other task member
    · intro thread member task holds
      rcases member_threads thread member with old | rfl
      · exact kept.heldType thread old task holds
      · cases holds
    · intro thread member
      rcases member_threads thread member with old | rfl
      · exact addRealTask_served s ntype _ _ (.inr (kept.served thread old))
      · exact addRealTask_served s ntype _ _ (.inl rfl)
    · intro other special
      rcases threads with ⟨same, _⟩ | ⟨more, absent⟩
      · simp only [same]
        exact kept.single other special
      · simp only [more, List.filter_append, List.length_append]
        have before := kept.single other special
        by_cases here : ntype = other
        · have none : s.threads.filter (·.data = other) = [] := by
            refine List.filter_eq_nil_iff.mpr ?_
            intro thread member
            simp only [decide_eq_true_eq]
            intro data
            exact kept.served thread member (by rw [data, ← here, absent])
          simp [none, Thread.new, here]
        · simpa [Thread.new, here] using before
    · simp [kept.ids, List.range_succ]
    · intro rest asked
      have none := unasked_of_calls calls
      simp only [Database.unasked, main] at asked
      rw [Database.unasked, asked] at none
      cases none
  · exact kept

theorem kept_threadStep {i : Nat} (kept : Kept s) : Kept (s.threadStep i outcome) := by
  rcases threadStep_cases s i outcome with same | ⟨front, thread, back, found, threads, set, after⟩
  · rw [same]
    exact kept
  · rw [after]
    have turn : Worked thread (s.queue thread.data)
      (thread.step (s.queue thread.data) outcome).1 _ _ := step_worked
    have data : (thread.step (s.queue thread.data) outcome).1.data = thread.data := step_data
    have ended : thread.place = .ended → thread.step (s.queue thread.data) outcome =
      (thread, s.queue thread.data, []) := step_ended
    generalize thread.step (s.queue thread.data) outcome = result at turn data ended
    obtain ⟨next, queue, added⟩ := result
    simp only at turn data ended ⊢
    have here : thread ∈ s.threads := List.mem_of_getElem? found
    have shorter : ∀ task ∈ queue, task ∈ s.queue thread.data := by
      cases turn with
      | kept => exact fun task member => member
      | fetched first => exact fun task member => first ▸ List.mem_cons_of_mem _ member
      | yielded => exact fun task member => member
    have others : ∀ other ∈ front ++ next :: back, other ∈ s.threads ∨ other = next := by
      intro other member
      rw [threads]
      simp only [List.mem_append, List.mem_cons] at member ⊢
      rcases member with before | same | behind
      · exact .inl (.inl before)
      · exact .inr same
      · exact .inl (.inr (.inr behind))
    constructor
    · intro other task member
      rw [queue_worked] at member
      split at member
      · rename_i same
        rw [← same, data]
        exact kept.queueType _ task (shorter task member)
      · exact kept.queueType other task member
    · intro other member task holds
      rcases others other member with old | rfl
      · exact kept.heldType other old task holds
      · rw [data]
        cases turn with
        | kept same =>
          have mapped : thread.holds.map (·.parms) = some task.parms := by
            rw [← same, holds]
            rfl
          obtain ⟨before, held, parms⟩ := Option.map_eq_some_iff.mp mapped
          rw [← parms]
          exact kept.heldType thread here before held
        | fetched first _ taken =>
          rename_i fetched
          rw [taken] at holds
          cases holds
          exact kept.queueType _ task (first ▸ List.mem_cons_self)
        | yielded _ _ free =>
          rw [free] at holds
          cases holds
    · intro other member
      have present : ∀ ntype, getData s.tasks ntype ≠ none →
          getData (s.tasks.insert next.data queue) ntype ≠ none := by
        intro ntype old
        by_cases same : next.data = ntype
        · simp [getData, same]
        · simpa [getData, same] using old
      rcases others other member with old | rfl
      · exact present _ (kept.served other old)
      · exact present _ (data ▸ kept.served thread here)
    · intro ntype special
      have before := kept.single ntype special
      simp only [worked, threads, List.filter_append, List.filter_cons, data] at before ⊢
      split at before <;> simp_all
    · exact kept.ids
    · intro rest asked
      obtain ⟨empty, stopped⟩ := kept.quiet rest asked
      refine ⟨?_, ?_⟩
      · intro ntype
        rw [queue_worked]
        split
        · exact List.eq_nil_iff_forall_not_mem.mpr fun task member => by
            simpa [empty] using shorter task member
        · exact empty ntype
      · intro j other at_j
        simp only [worked, ← set] at at_j
        by_cases same : i = j
        · subst same
          rcases stopped i thread found with place | member
          · have kept_thread : next = thread := congrArg Prod.fst (ended place)
            rw [List.getElem?_set_self (List.getElem?_eq_some_iff.mp found).1] at at_j
            cases at_j
            exact .inl (kept_thread ▸ place)
          · exact .inr member
        · rw [List.getElem?_set_ne same] at at_j
          exact stopped j other at_j

/-- The main thread goes on to a place where every thread is still to be asked, or none. -/
theorem kept_goes {main : Main Row} (kept : Kept s) (unasked : (s.goes main).unasked = none) :
    Kept (s.goes main) where
  queueType := kept.queueType
  heldType := kept.heldType
  served := kept.served
  single := kept.single
  ids := kept.ids
  quiet := by
    intro rest asked
    rw [unasked] at asked
    cases asked

theorem queue_empty (none : ∀ entry ∈ s.tasks.entries, entry.2 = []) (ntype : Nat) :
    s.queue ntype = [] := by
  unfold Database.queue getData
  cases found : s.tasks.find? ntype with
  | none => rfl
  | some queue => exact none _ (OrderedMap.find?_eq_some.mp found)

theorem mem_modify {threads : List (Thread Row)} {i : Nat} {change : Thread Row → Thread Row}
    (member : thread ∈ threads.modify i change) :
    thread ∈ threads ∨ ∃ old ∈ threads, thread = change old := by
  obtain ⟨j, found⟩ := List.mem_iff_getElem?.mp member
  rw [List.getElem?_modify] at found
  obtain ⟨old, at_j, same⟩ := Option.map_eq_some_iff.mp found
  have here := List.mem_of_getElem? at_j
  split at same
  · exact .inr ⟨old, here, same.symm⟩
  · exact .inl (same ▸ here)

/-- Asking a thread to stop changes nothing the invariant looks at. -/
theorem kept_setStop {i : Nat} (kept : Kept s) : Kept (s.setStop i) where
  queueType := kept.queueType
  heldType := by
    intro thread member task holds
    rcases mem_modify member with old | ⟨old, here, rfl⟩
    · exact kept.heldType thread old task holds
    · exact kept.heldType old here task holds
  served := by
    intro thread member
    rcases mem_modify member with old | ⟨old, here, rfl⟩
    · exact kept.served thread old
    · exact kept.served old here
  single := by
    intro ntype special
    have same : ∀ (threads : List (Thread Row)) (i : Nat),
        ((threads.modify i fun thread => { thread with stop := true }).filter
          (·.data = ntype)).length = (threads.filter (·.data = ntype)).length := by
      intro threads
      induction threads with
      | nil => simp
      | cons thread rest ih =>
        intro i
        cases i with
        | zero => by_cases here : thread.data = ntype <;> simp [here]
        | succ i => by_cases here : thread.data = ntype <;> simp [here, ih]
    simp only [Database.setStop, same]
    exact kept.single ntype special
  ids := kept.ids
  quiet := by
    intro rest asked
    obtain ⟨empty, stopped⟩ := kept.quiet rest asked
    refine ⟨empty, ?_⟩
    intro j thread found
    simp only [Database.setStop, List.getElem?_modify] at found
    obtain ⟨old, at_j, same⟩ := Option.map_eq_some_iff.mp found
    rcases stopped j old at_j with place | member
    · refine .inl ?_
      rw [← same]
      split <;> exact place
    · exact .inr member

theorem kept_mainStep (kept : Kept s) : Kept s.mainStep := by
  unfold Database.mainStep
  split
  · split
    · rename_i ready
      refine ⟨kept.queueType, kept.heldType, kept.served, kept.single, kept.ids, ?_⟩
      intro rest asked
      cases asked
      refine ⟨queue_empty ready.2, ?_⟩
      intro j thread found
      exact .inr (List.mem_range.mpr (List.getElem?_eq_some_iff.mp found).1)
    · exact kept_goes kept rfl
  · have later : Kept (s.goes .checked) := kept_goes kept rfl
    exact ⟨later.queueType, later.heldType, later.served, later.single, later.ids, later.quiet⟩
  · rename_i i rest main
    split
    · have stopped := kept_setStop (i := i) kept
      refine ⟨stopped.queueType, stopped.heldType, stopped.served, stopped.single, stopped.ids, ?_⟩
      intro later asked
      cases asked
      exact stopped.quiet (i :: rest) (by simp [Database.unasked, Database.setStop, main])
    · exact kept_goes kept rfl
  · rename_i i rest main
    split
    · rename_i ended
      refine ⟨kept.queueType, kept.heldType, kept.served, kept.single, kept.ids, ?_⟩
      intro later asked
      cases asked
      obtain ⟨empty, stopped⟩ := kept.quiet (i :: rest) (by simp [Database.unasked, main])
      refine ⟨empty, ?_⟩
      intro j thread found
      rcases stopped j thread found with place | member
      · exact .inl place
      · rcases List.mem_cons.mp member with same | later
        · refine .inl ?_
          subst same
          have present : s.threads[j]? = some thread := found
          simp only [Database.threadEnded, present, Option.all_some] at ended
          split at ended
          · assumption
          · cases ended
        · exact .inr later
    · exact kept
  · split
    · exact kept_goes kept rfl
    · have later : Kept (s.goes (.delivering s.results)) := kept_goes kept rfl
      exact ⟨later.queueType, later.heldType, later.served, later.single, later.ids, later.quiet⟩
  · exact kept_goes kept rfl
  · rename_i task tem main
    have later : Kept (s.goes (.delivering tem)) := kept_goes kept rfl
    exact ⟨later.queueType, later.heldType, later.served, later.single, later.ids, later.quiet⟩

theorem kept_step (kept : Kept s) (event : Event Row) : Kept (step s event) := by
  cases event with
  | addQueryTask ntype store =>
    simp only [step]
    split
    · rename_i calls
      exact kept_addQueryTask kept calls
    · exact kept
  | setWaitStop =>
    simp only [step]
    split
    · exact ⟨kept.queueType, kept.heldType, kept.served, kept.single, kept.ids, kept.quiet⟩
    · exact kept
  | main => exact kept_mainStep kept
  | thread i outcome => exact kept_threadStep kept

theorem kept_initDatabase (threadCount : Nat) : Kept (initDatabase threadCount : Database Row) where
  queueType := by
    intro ntype task member
    have none : (initDatabase threadCount : Database Row).queue ntype = [] := by
      apply queue_empty
      simp [initDatabase, OrderedMap.insert, OrderedMap.empty, insertEntry]
    simp [none] at member
  heldType := by
    intro thread member task holds
    rw [(List.mem_replicate.mp member).2] at holds
    cases holds
  served := by
    intro thread member
    rw [(List.mem_replicate.mp member).2]
    simp [initDatabase, Thread.new, getData]
  single := by
    intro ntype special
    have none : (List.replicate threadCount (Thread.new normalThread : Thread Row)).filter
        (·.data = ntype) = [] := by
      refine List.filter_eq_nil_iff.mpr ?_
      intro thread member
      rw [(List.mem_replicate.mp member).2, decide_eq_true_eq]
      exact fun same => special same.symm
    simp [initDatabase, none]
  ids := rfl
  quiet := by
    intro rest asked
    cases asked

structure Inv (s : Database Row) : Prop where
  kept : Kept s
  conserved : ∀ ntype, Conserved (s.line ntype)
  inOrder : ∀ ntype, ntype ≠ normalThread → InOrder (s.line ntype)
  stopped : s.objState = .stop → ∀ ntype, (s.line ntype).pending = []

/-- A type other than _NORMAL_THREAD has one thread, which holds one task at most. -/
theorem held_single (kept : Kept s) (special : ntype ≠ normalThread) :
    (s.line ntype).held.length ≤ 1 :=
  (List.length_filterMap_le _ _).trans (kept.single ntype special)

theorem accepted_nodup (kept : Kept s) : s.accepted.Nodup :=
  List.Nodup.of_map (·.id) (kept.ids ▸ List.nodup_range)

/-- Every task is with its callbacks when nothing is pending. -/
theorem delivered_of_inv (inv : Inv s) : Delivered s where
  once := by
    intro stop parms member
    have accepted : parms ∈ (s.line parms.ntype).accepted := by
      simpa [Database.line] using member
    have distinct : (s.line parms.ntype).accepted.Nodup := (accepted_nodup inv.kept).filter _
    have conserved := inv.conserved parms.ntype
    rw [Conserved, inv.stopped stop, List.append_nil] at conserved
    have finished : parms ∈ (s.line parms.ntype).finished := conserved.mem_iff.mp accepted
    have once := List.count_eq_one_of_mem (conserved.nodup_iff.mp distinct) finished
    rw [← once]
    exact (List.count_filter (by simp)).symm
  ordered := fun ntype special => finished_prefix (inv.inOrder ntype special)

/-- When checkStop is through with the threads they have ended, with what _task points to. -/
theorem checked_holds (kept : Kept s) (main : s.main = .checking [])
    (member : thread ∈ s.threads) : thread.holds = thread.task := by
  obtain ⟨_, ended⟩ := kept.quiet [] (by simp [Database.unasked, main])
  obtain ⟨j, found⟩ := List.mem_iff_getElem?.mp member
  rcases ended j thread found with place | member
  · simp [Thread.holds, place]
  · cases member

theorem held_checked (kept : Kept s) (main : s.main = .checking []) :
    heldParms ntype s.threads = [] ↔
      ∀ thread ∈ s.threads, thread.data = ntype → thread.task = none := by
  unfold heldParms
  rw [List.filterMap_eq_nil_iff]
  constructor
  · intro none thread member data
    have free := none thread (List.mem_filter.mpr ⟨member, decide_eq_true data⟩)
    rw [checked_holds kept main member] at free
    exact Option.map_eq_none_iff.mp free
  · intro none thread member
    obtain ⟨here, data⟩ := List.mem_filter.mp member
    rw [checked_holds kept main here, none thread here (of_decide_eq_true data)]
    rfl

theorem ofType_eq_nil {tasks : List (DBTask Row)} :
    (∀ ntype, ofType ntype tasks = []) ↔ tasks = [] := by
  constructor
  · intro none
    refine List.eq_nil_iff_forall_not_mem.mpr ?_
    intro task member
    have listed : task.parms ∈ ofType task.parms.ntype tasks := by
      simp only [ofType, List.mem_filter, List.mem_map, decide_true, and_true]
      exact ⟨task, member, rfl⟩
    simp [none task.parms.ntype] at listed
  · rintro rfl ntype
    rfl

/-- What is left when checkStop is through with the threads. -/
theorem pending_checked (kept : Kept s) (main : s.main = .checking []) :
    (∀ ntype, (s.line ntype).pending = []) ↔
      s.results = [] ∧ ∀ thread ∈ s.threads, thread.task = none := by
  obtain ⟨empty, _⟩ := kept.quiet [] (by simp [Database.unasked, main])
  have pending : ∀ ntype, (s.line ntype).pending = [] ↔
      ofType ntype s.results = [] ∧ heldParms ntype s.threads = [] := by
    intro ntype
    simp [Line.pending, Database.line, empty, Database.batch, main]
  simp only [pending, forall_and, ofType_eq_nil, held_checked kept main]
  constructor
  · rintro ⟨results, tasks⟩
    exact ⟨results, fun thread member => tasks thread.data thread member rfl⟩
  · rintro ⟨results, tasks⟩
    exact ⟨results, fun ntype thread member _ => tasks thread member⟩

/-- The state becomes stop at the end of checkStop only, and no task is accepted after that. -/
theorem stop_cases (stop : (step s event).objState = .stop) :
    s.objState = .stop ∧ (step s event).accepted = s.accepted ∨
      event = .main ∧ s.main = .checking [] := by
  cases event with
  | addQueryTask ntype store =>
    simp only [step] at stop ⊢
    split at stop
    · rename_i calls
      rw [if_pos calls]
      unfold Database.addQueryTask at stop ⊢
      split at stop
      · rename_i running
        have same := (addRealTask_same s ntype (.new ⟨s.accepted.length, ntype, store⟩)).2.2.2
        simp only [same, running] at stop
        cases stop
      · rename_i refused
        rw [if_neg refused]
        exact .inl ⟨stop, rfl⟩
    · rename_i busy
      rw [if_neg busy]
      exact .inl ⟨stop, rfl⟩
  | setWaitStop =>
    simp only [step] at stop ⊢
    split at stop
    · cases stop
    · rename_i busy
      rw [if_neg busy]
      exact .inl ⟨stop, rfl⟩
  | main =>
    simp only [step, Database.mainStep] at stop ⊢
    split at stop
    · split at stop
      · rename_i ready
        exact .inl ⟨stop, by rw [if_pos ready]; rfl⟩
      · rename_i busy
        exact .inl ⟨stop, by rw [if_neg busy]; rfl⟩
    · rename_i main
      exact .inr ⟨trivial, main⟩
    · split at stop <;> rename_i asked
      · exact .inl ⟨stop, by rw [if_pos asked]; rfl⟩
      · exact .inl ⟨stop, by rw [if_neg asked]; rfl⟩
    · split at stop <;> rename_i ended
      · exact .inl ⟨stop, by rw [if_pos ended]; rfl⟩
      · exact .inl ⟨stop, by rw [if_neg ended]⟩
    · split at stop <;> rename_i idle
      · exact .inl ⟨stop, by rw [if_pos idle]; rfl⟩
      · exact .inl ⟨stop, by rw [if_neg idle]; rfl⟩
    · exact .inl ⟨stop, rfl⟩
    · exact .inl ⟨stop, rfl⟩
  | thread i outcome =>
    rcases threadStep_cases s i outcome with same | ⟨front, thread, back, _, _, _, after⟩
    · simp only [step, same] at stop ⊢
      exact .inl ⟨stop, trivial⟩
    · simp only [step, after] at stop ⊢
      exact .inl ⟨stop, rfl⟩

/-- Everything the lines hold is unchanged when checkStop sets the state to stop. -/
theorem line_stop (main : s.main = .checking []) (ntype : Nat) :
    (step s .main).line ntype = s.line ntype := by
  apply line_of_same
  all_goals simp [step, Database.mainStep, main, Database.goes, Database.batch, Database.queue]

theorem inv_step (inv : Inv s) (clean : StopsClean s event) : Inv (step s event) where
  kept := kept_step inv.kept event
  conserved := fun ntype => conserved_move (step_move inv.kept event ntype) (inv.conserved ntype)
  inOrder := fun ntype special =>
    inOrder_move (step_move inv.kept event ntype) (held_single inv.kept special)
      (held_single (kept_step inv.kept event) special) (inv.inOrder ntype special)
  stopped := by
    intro stop ntype
    rcases stop_cases stop with ⟨before, accepted⟩ | ⟨rfl, main⟩
    · apply pending_nil_move (step_move inv.kept event ntype) (inv.stopped before ntype)
      simp only [Database.line, accepted]
    · rw [line_stop main]
      exact (pending_checked inv.kept main).mpr (clean main) ntype

theorem line_initDatabase (threadCount ntype : Nat) :
    (initDatabase threadCount : Database Row).line ntype = ⟨[], [], [], [], [], []⟩ := by
  have empty : (initDatabase threadCount : Database Row).queue ntype = [] := by
    apply queue_empty
    simp [initDatabase, OrderedMap.insert, OrderedMap.empty, insertEntry]
  have held : heldParms ntype (initDatabase threadCount : Database Row).threads = [] := by
    refine List.filterMap_eq_nil_iff.mpr ?_
    intro thread member
    rw [(List.mem_replicate.mp (List.mem_filter.mp member).1).2]
    rfl
  simp only [Database.line, empty, held]
  rfl

theorem inv_initDatabase (threadCount : Nat) : Inv (initDatabase threadCount : Database Row) where
  kept := kept_initDatabase threadCount
  conserved := by
    intro ntype
    rw [line_initDatabase]
    exact List.Perm.refl _
  inOrder := by
    intro ntype _
    rw [line_initDatabase]
    rfl
  stopped := by
    intro stop
    cases stop

/-- Callbacks are missing from a database that stopped with results or tasks left. -/
theorem stopsClean_of_delivered (inv : Inv s) (delivered : Delivered (step s event)) :
    StopsClean s event := by
  cases event with
  | main =>
    intro main
    refine (pending_checked inv.kept main).mp ?_
    intro ntype
    have conserved := inv.conserved ntype
    refine (conserved_pending_iff conserved ((accepted_nodup inv.kept).filter _)).mpr ?_
    intro parms member
    have stop : (step s .main).objState = .stop := by
      simp [step, Database.mainStep, main]
    have kept : (step s .main).accepted = s.accepted ∧ (step s .main).executed = s.executed := by
      simp [step, Database.mainStep, main, Database.goes]
    have listed := List.mem_filter.mp member
    have once := delivered.once stop parms (kept.1 ▸ listed.1)
    rw [kept.2] at once
    refine List.mem_filter.mpr ⟨?_, listed.2⟩
    exact List.count_pos_iff.mp (by omega)
  | addQueryTask ntype store => trivial
  | setWaitStop => trivial
  | thread i outcome => trivial

/-- Every accepted task has had its callback when the database stops, and every type but
_NORMAL_THREAD has them in order, in exactly the runs that stop with nothing left. -/
theorem callbacks_before_stop_iff (threadCount : Nat) (events : List (Event Row)) :
    EveryState step Delivered (initDatabase threadCount) events ↔
      EveryStep step StopsClean (initDatabase threadCount) events := by
  apply everyState_iff_everyStep Inv fun _ => True
  · exact fun s inv => delivered_of_inv inv
  · exact fun s event _ inv clean => inv_step inv clean
  · exact fun s event _ inv delivered => stopsClean_of_delivered inv delivered
  · exact inv_initDatabase threadCount
  · exact fun _ _ => trivial

def goesWell : Outcome Unit := ⟨true, [], ⟨true, none, none⟩⟩

/-- A task is done between the last run and setObjState(_wait_stop_): run stops the database
before it looks at the result. -/
theorem callback_lost_at_stop : ¬ EveryState step Delivered (initDatabase 1)
    ([.addQueryTask 3 .storeQuery] ++ List.replicate 9 (.thread 1 goesWell) ++ [.setWaitStop] ++
      [.main, .main, .thread 0 goesWell, .main, .main, .thread 1 goesWell, .main, .main]) := by
  intro all
  have once := (everyState_last all).once (by decide) ⟨0, 3, .storeQuery⟩ (by decide)
  exact absurd once (by decide)

end DatabaseThreads
