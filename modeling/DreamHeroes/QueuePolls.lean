import DreamHeroes.LabelledRuns
import DreamHeroes.SwapQueues

/- The polls of tcp_server, tcp_client, call_back_mgr and task_thread. Each of them has a pair
   of queues that other threads push to under a mutex, and empties one of the pair outside of
   the mutex, where what it handles pushes as well. -/
namespace QueuePolls

open LabelledRuns SwapQueues

variable {World Item Message Call Task : Type}

/- The world is all that is not the pair of queues. goesOn is the condition the poll is made
   under. handle is what happens to an item between front and pop, with what it pushes. -/
structure Owner (World Item : Type) where
  goesOn : World → Bool
  handle : World → Item → World × List Item

/- The virtual functions are parameters. -/

/-- tcp_server::_real_run -/
def realRun (isValid isConnected : World → Message → Bool)
    (procMessage : World → Message → World × List Message) : Owner World Message where
  goesOn := fun _ => true
  handle := fun world msg =>
    if isValid world msg && isConnected world msg then procMessage world msg else (world, [])

/-- tcp_client::run and run_no_wait -/
def clientRun (procMessage : World → Message → World × List Message) : Owner World Message where
  goesOn := fun _ => true
  handle := procMessage

/-- call_back_mgr::poll -/
def callBackPoll (call : World → Call → World × List Call) : Owner World Call where
  goesOn := fun _ => true
  handle := call

/-- task_thread::run -/
def taskRun (exit : World → Bool) (execute finish : World → Task → World × List Task) :
    Owner World Task where
  goesOn := fun world => !exit world
  handle := fun world task =>
    let executed := execute world task
    let finished := finish executed.1 task
    (finished.1, executed.2 ++ finished.2)

/- own is what the handler of the item in hand has still to push. -/
structure State (World Item : Type) where
  queues : Queues Item
  world : World
  own : List Item

/- push is a push of another thread, and other is anything else that another thread does. -/
inductive Event (World Item : Type) where
  | push (item : Item)
  | other (change : World → World)
  | poll
  | take
  | pushOwn
  | pop

namespace State

def take (owner : Owner World Item) (s : State World Item) : State World Item :=
  match s.queues.place, s.queues.take.place with
  | .draining _, .holding _ item =>
      let handled := owner.handle s.world item
      { queues := s.queues.take, world := handled.1, own := handled.2 }
  | _, _ => { s with queues := s.queues.take }

def pushOwn (s : State World Item) : State World Item :=
  match s.own with
  | [] => s
  | item :: rest => { s with queues := s.queues.push item, own := rest }

def pop (s : State World Item) : State World Item :=
  match s.own with
  | [] => { s with queues := s.queues.pop }
  | _ :: _ => s

end State

def step (owner : Owner World Item) (s : State World Item) : Event World Item → State World Item
  | .push item => { s with queues := s.queues.push item }
  | .other change => { s with world := change s.world }
  | .poll => if owner.goesOn s.world then { s with queues := s.queues.poll } else s
  | .take => s.take owner
  | .pushOwn => s.pushOwn
  | .pop => s.pop

def start (world : World) : State World Item := ⟨.empty, world, []⟩

def State.Idle (s : State World Item) : Prop := s.queues.place = .idle

def Event.isConsumers : Event World Item → Bool
  | .push _ => false
  | .other _ => false
  | _ => true

/-- However the pushes come between the steps of the polls, every item is taken at most once and
in the order of the pushes, a poll takes all that was pushed before it and comes to its end, and
outside of a poll the queue that is not filled is empty. -/
structure Served (owner : Owner World Item) (s : State World Item) : Prop where
  order : s.queues.pushed = s.queues.taken ++ s.queues.waiting
  empty : s.Idle → s.queues.queue (!s.queues.current) = []
  all : s.Idle → owner.goesOn s.world = true → ∀ events,
    (run (step owner) s (.poll :: events)).Idle →
      s.queues.pushed <+: (run (step owner) s (.poll :: events)).queues.taken
  ends : ∃ events : List (Event World Item), (∀ event ∈ events, event.isConsumers = true) ∧
    (run (step owner) s events).Idle

variable {owner : Owner World Item} {s : State World Item} {old : List Item}

theorem take_queues (owner : Owner World Item) (s : State World Item) :
    (s.take owner).queues = s.queues.take := by
  unfold State.take
  split <;> rfl

/-- Every step does to the queues one of the things that can be done to them, or nothing. -/
theorem step_queues (property : Queues Item → Prop)
    (push : ∀ q item, property q → property (q.push item))
    (poll : ∀ q, property q → property q.poll) (take : ∀ q, property q → property q.take)
    (pop : ∀ q, property q → property q.pop) (event : Event World Item)
    (before : property s.queues) : property (step owner s event).queues := by
  cases event with
  | push item => exact push s.queues item before
  | other change => exact before
  | poll =>
    simp only [step]
    split
    · exact poll s.queues before
    · exact before
  | take =>
    simp only [step, take_queues]
    exact take s.queues before
  | pushOwn =>
    simp only [step, State.pushOwn]
    split
    · exact before
    · exact push s.queues _ before
  | pop =>
    simp only [step, State.pop]
    split
    · exact pop s.queues before
    · exact before

theorem accounted_step (event : Event World Item) (accounted : Accounted s.queues) :
    Accounted (step owner s event).queues :=
  step_queues Accounted (fun _ item fine => accounted_push fine item)
    (fun _ fine => accounted_poll fine) (fun _ fine => accounted_take fine)
    (fun _ fine => accounted_pop fine) event accounted

theorem accounted_run (events : List (Event World Item)) (accounted : Accounted s.queues) :
    Accounted (run (step owner) s events).queues :=
  @run_of_every _ _ _ (fun s : State World Item => Accounted s.queues) _
    (fun _ event fine => accounted_step event fine) accounted events

/-- What a poll has claimed stays claimed. -/
theorem claimed_run (events : List (Event World Item)) (accounted : Accounted s.queues)
    (claimed : Claimed old s.queues) : Claimed old (run (step owner) s events).queues := by
  have both : Accounted (run (step owner) s events).queues ∧
      Claimed old (run (step owner) s events).queues := by
    refine @run_of_every _ _ _
      (fun s : State World Item => Accounted s.queues ∧ Claimed old s.queues) _ ?_
      ⟨accounted, claimed⟩ events
    intro s event fine
    exact step_queues (fun q => Accounted q ∧ Claimed old q)
      (fun _ item fine => ⟨accounted_push fine.1 item, claimed_push fine.1 fine.2⟩)
      (fun _ fine => ⟨accounted_poll fine.1, claimed_poll fine.2⟩)
      (fun _ fine => ⟨accounted_take fine.1, claimed_take fine.2⟩)
      (fun _ fine => ⟨accounted_pop fine.1, claimed_pop fine.2⟩) event fine
  exact both.2

/- The end of a poll. -/

/-- The consumer gets from one state to another by itself. -/
def Goes (owner : Owner World Item) (s s' : State World Item) : Prop :=
  ∃ events : List (Event World Item), (∀ event ∈ events, event.isConsumers = true) ∧
    run (step owner) s events = s'

theorem goes_refl (s : State World Item) : Goes owner s s := ⟨[], by simp, rfl⟩

theorem goes_next {s' : State World Item} {event : Event World Item}
    (own : event.isConsumers = true) (goes : Goes owner (step owner s event) s') :
    Goes owner s s' := by
  obtain ⟨events, all, same⟩ := goes
  refine ⟨event :: events, ?_, same⟩
  intro later member
  rcases List.mem_cons.mp member with rfl | member
  · exact own
  · exact all later member

theorem goes_trans {s' s'' : State World Item} (first : Goes owner s s')
    (second : Goes owner s' s'') : Goes owner s s'' := by
  obtain ⟨events, all, rfl⟩ := first
  induction events generalizing s with
  | nil => exact second
  | cons event rest ih =>
    refine goes_next (all event List.mem_cons_self) (ih ?_ second)
    exact fun later member => all later (List.mem_cons_of_mem event member)

/-- The handler pushes what it has to, which leaves the drained queue alone, and the item is
popped. -/
theorem holding_ends {proc : Bool} {item : Item} {rest own : List Item}
    (accounted : Accounted s.queues) (holding : s.queues.place = .holding proc item)
    (front : s.queues.queue proc = item :: rest) (pushes : s.own = own) :
    ∃ s', Goes owner s s' ∧ Accounted s'.queues ∧ s'.queues.place = .draining proc ∧
      s'.queues.queue proc = rest := by
  induction own generalizing s with
  | nil =>
    refine ⟨step owner s .pop, goes_next rfl (goes_refl _), accounted_step .pop accounted, ?_⟩
    simp [step, State.pop, pushes, Queues.pop, holding, front]
  | cons next later ih =>
    have pushed : step owner s .pushOwn =
        { s with queues := s.queues.push next, own := later } := by
      simp [step, State.pushOwn, pushes]
    have drained := accounted.apart proc (by rw [holding]; rfl)
    have kept : (s.queues.push next).queue proc = item :: rest := by
      rw [drained, push_other, ← drained, front]
    obtain ⟨s', goes, ended⟩ := ih (s := step owner s .pushOwn)
      (accounted_step .pushOwn accounted) (by rw [pushed]; exact holding)
      (by rw [pushed]; exact kept) (by rw [pushed])
    exact ⟨s', goes_next rfl goes, ended⟩

theorem draining_ends {proc : Bool} {items : List Item} (accounted : Accounted s.queues)
    (draining : s.queues.place = .draining proc) (left : s.queues.queue proc = items) :
    ∃ s', Goes owner s s' ∧ s'.Idle := by
  induction items generalizing s with
  | nil =>
    refine ⟨step owner s .take, goes_next rfl (goes_refl _), ?_⟩
    simp [State.Idle, step, take_queues, Queues.take, draining, left]
  | cons item rest ih =>
    have held : (step owner s .take).queues.place = .holding proc item ∧
        (step owner s .take).queues.queue proc = item :: rest := by
      simp [step, take_queues, Queues.take, draining, left]
    obtain ⟨popped, goes, fine, drainsOn, less⟩ := holding_ends
      (accounted_step .take accounted) held.1 held.2 rfl
    obtain ⟨s', ends, idle⟩ := ih fine drainsOn less
    exact ⟨s', goes_next rfl (goes_trans goes ends), idle⟩

theorem poll_ends (accounted : Accounted s.queues) : ∃ s', Goes owner s s' ∧ s'.Idle := by
  cases place : s.queues.place with
  | idle => exact ⟨s, goes_refl s, place⟩
  | draining proc => exact draining_ends accounted place rfl
  | holding proc item =>
    obtain ⟨rest, front⟩ := accounted.front proc item place
    obtain ⟨popped, goes, fine, draining, _⟩ := holding_ends accounted place front rfl
    obtain ⟨s', ends, idle⟩ := draining_ends fine draining rfl
    exact ⟨s', goes_trans goes ends, idle⟩

theorem served_run (owner : Owner World Item) (world : World)
    (events : List (Event World Item)) : Served owner (run (step owner) (start world) events) := by
  have accounted : Accounted (run (step owner) (start world) events).queues :=
    accounted_run events accounted_empty
  refine ⟨accounted.order, accounted.idle, ?_, ?_⟩
  · intro idle goesOn later ended
    have begun : step owner (run (step owner) (start world) events) .poll =
        { run (step owner) (start world) events with
          queues := (run (step owner) (start world) events).queues.poll } := by
      simp [step, goesOn]
    apply claimed_idle _ ended
    apply claimed_run later (accounted_step .poll accounted)
    rw [begun]
    exact claimed_begin accounted idle
  · obtain ⟨s', ⟨steps, own, rfl⟩, idle⟩ := @poll_ends _ _ owner _ accounted
    exact ⟨steps, own, idle⟩

/-- Each of the four owners serves what is pushed to it, in every run. -/
theorem queues_served (world : World) :
    (∀ (isValid isConnected : World → Message → Bool)
      (procMessage : World → Message → World × List Message) events,
      Served (realRun isValid isConnected procMessage)
        (run (step (realRun isValid isConnected procMessage)) (start world) events)) ∧
    (∀ (procMessage : World → Message → World × List Message) events,
      Served (clientRun procMessage)
        (run (step (clientRun procMessage)) (start world) events)) ∧
    (∀ (call : World → Call → World × List Call) events,
      Served (callBackPoll call) (run (step (callBackPoll call)) (start world) events)) ∧
    (∀ (exit : World → Bool) (execute finish : World → Task → World × List Task) events,
      Served (taskRun exit execute finish)
        (run (step (taskRun exit execute finish)) (start world) events)) := by
  refine ⟨?_, ?_, ?_, ?_⟩
  · intro isValid isConnected procMessage events
    exact served_run _ world events
  · intro procMessage events
    exact served_run _ world events
  · intro call events
    exact served_run _ world events
  · intro exit execute finish events
    exact served_run _ world events

end QueuePolls
