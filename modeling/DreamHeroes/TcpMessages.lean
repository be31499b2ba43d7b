import DreamHeroes.SessionPool
import DreamHeroes.SwapQueues

/- The messages of a tcp_server on their way from a read to proc_message. A session object
   serves one connection after another, and a queued message knows only the object. -/
namespace TcpMessages

open TcpServer LabelledRuns SwapQueues
open SessionPool
open TcpSession (maxMessageLen)
open MessageInterface (Fresh)
open ClientSending (ReadOutcome)

/- connection is a history value: how often the session object was freed before the read that
   brought the message began, which tells apart the sockets and so the connections. -/
structure Message where
  session : SessionPtr
  connection : Nat
  deriving DecidableEq, Repr

/- A handle_read_some that is under way: the frames it has still to hand to push_message and how
   it ends then. pushing says that it is between the test of m_father and the push. -/
structure Handler where
  connection : Nat
  frames : Nat
  outcome : ReadOutcome
  pushing : Bool
  deriving DecidableEq, Repr

/- Where the main loop is in _real_run. -/
inductive Spot where
  | top
  | armed
  | polling
  | draining
  deriving DecidableEq, Repr

/- reads holds the connections of the async_read_some that have not completed. processed is a
   history value: the messages that came to proc_message, and how often their session had been
   freed by then. -/
structure Traffic where
  server : Server
  reads : SessionPtr → List Nat
  handler : SessionPtr → Option Handler
  messages : Queues Message
  spot : Spot
  processed : List (Message × Nat)

/-- The read that completes. -/
def beginRead (s : Server) (p : SessionPtr) : Server :=
  s.setSession p { s.session p with reads := (s.session p).reads - 1 }

/-- What is behind the loop of handle_read_some over the frames. -/
def endRead (s : Server) (p : SessionPtr) : ReadOutcome → Server
  | .more => s.setSession p { s.session p with reads := (s.session p).reads + 1 }
  | .badLength => s.setSession p (s.session p).close
  | .uncompressFailed => (s.setSession p (s.session p).close).lost p
  | .error => s.lost p

namespace Traffic

def frees (t : Traffic) (p : SessionPtr) : Nat := (t.server.session p).frees

def setHandler (t : Traffic) (p : SessionPtr) (handler : Option Handler) : Traffic :=
  { t with handler := Function.update t.handler p handler }

/- The main loop. -/

def arm (t : Traffic) : Traffic :=
  if t.spot = .top then { t with server := t.server.arm, spot := .armed } else t

def poll (t : Traffic) : Traffic :=
  if t.spot = .armed then { t with server := t.server.poll, spot := .polling } else t

def callBack (t : Traffic) : Traffic :=
  if t.spot = .polling then { t with server := t.server.callBack } else t

def swap (t : Traffic) : Traffic :=
  if t.spot = .polling ∧ t.server.polling = [] then
    { t with
      messages := t.messages.poll
      spot := if t.messages.queue t.messages.current = [] then .top else .draining }
  else t

def take (t : Traffic) : Traffic :=
  match t.messages.place, t.messages.take.place with
  | .draining _, .holding _ msg =>
      let session := t.server.session msg.session
      { t with
        messages := t.messages.take
        processed := if session.valid && session.sender.connected
          then t.processed ++ [(msg, t.frees msg.session)] else t.processed }
  | .draining _, _ => { t with messages := t.messages.take, spot := .top }
  | _, _ => t

def pop (t : Traffic) : Traffic := { t with messages := t.messages.pop }

/- The io thread of a session does nothing else while a handler of the session runs. -/

/-- A read completes; with an error it brings no frames. -/
def read (t : Traffic) (p : SessionPtr) (connection frames : Nat) (outcome : ReadOutcome) :
    Traffic :=
  if t.handler p = none ∧ connection ∈ t.reads p then
    let begun := { t with
      server := beginRead t.server p
      reads := Function.update t.reads p ((t.reads p).erase connection) }
    if (t.server.session p).valid then
      begun.setHandler p
        (some ⟨connection, if outcome = .error then 0 else frames, outcome, false⟩)
    else begun
  else t

/-- tcp_session::push_message looks at m_father. -/
def deliver (t : Traffic) (p : SessionPtr) : Traffic :=
  match t.handler p with
  | some ⟨connection, frames + 1, outcome, false⟩ =>
      t.setHandler p (some ⟨connection, frames, outcome, (t.server.session p).father⟩)
  | _ => t

/-- tcp_server::push_message -/
def push (t : Traffic) (p : SessionPtr) : Traffic :=
  match t.handler p with
  | some ⟨connection, frames, outcome, true⟩ =>
      { t.setHandler p (some ⟨connection, frames, outcome, false⟩) with
        messages := t.messages.push ⟨p, connection⟩ }
  | _ => t

/-- The next read is one of the socket that the session has by then. -/
def finish (t : Traffic) (p : SessionPtr) : Traffic :=
  match t.handler p with
  | some ⟨_, 0, outcome, false⟩ =>
      { t.setHandler p none with
        server := endRead t.server p outcome
        reads := if outcome = .more
          then Function.update t.reads p (t.reads p ++ [t.frees p]) else t.reads }
  | _ => t

def begin (t : Traffic) (p : SessionPtr) : Traffic :=
  if t.handler p = none ∧ (t.server.session p).begins ≠ 0 then
    { t with
      server := t.server.runBegin p
      reads := Function.update t.reads p (t.reads p ++ [t.frees p]) }
  else t

/-- Another handler of the session, on the same io thread. -/
def handle (t : Traffic) (p : SessionPtr) (server : Server) : Traffic :=
  if t.handler p = none then { t with server := server } else t

end Traffic

inductive Event where
  | arm
  | poll
  | callBack
  | swap
  | take
  | pop
  | read (p : SessionPtr) (connection frames : Nat) (outcome : ReadOutcome)
  | deliver (p : SessionPtr)
  | push (p : SessionPtr)
  | finish (p : SessionPtr)
  | begin (p : SessionPtr)
  | handleWrite (p : SessionPtr) (ok : Bool)
  | runClose (p : SessionPtr)
  | runPosted (p : SessionPtr)
  | handleAccept (p : SessionPtr) (outcome : AcceptOutcome)
  | close (p : SessionPtr)
  | send (p : SessionPtr) (fresh : Fresh) (data : ByteWords.Bytes)

def step (t : Traffic) : Event → Traffic
  | .arm => t.arm
  | .poll => t.poll
  | .callBack => t.callBack
  | .swap => t.swap
  | .take => t.take
  | .pop => t.pop
  | .read p connection frames outcome => t.read p connection frames outcome
  | .deliver p => t.deliver p
  | .push p => t.push p
  | .finish p => t.finish p
  | .begin p => t.begin p
  | .handleWrite p ok => t.handle p (t.server.handleWrite p ok)
  | .runClose p => t.handle p (t.server.runClose p)
  | .runPosted p => t.handle p (t.server.runPosted p)
  | .handleAccept p outcome => { t with server := t.server.handleAccept p outcome }
  | .close p => { t with server := t.server.setSession p (t.server.session p).close }
  | .send p fresh data => { t with server := t.server.sendMessage p fresh data }

def start (poolCount onceListenCount : Nat) (limitMode : Bool)
    (buffer : ByteWords.Block maxMessageLen) : Traffic where
  server := TcpServer.start poolCount onceListenCount limitMode buffer
  reads := fun _ => []
  handler := fun _ => none
  messages := .empty
  spot := .top
  processed := []

/-- Every message came to proc_message while its connection was the current one of its
session. -/
def Uncrossed (t : Traffic) : Prop := ∀ entry ∈ t.processed, entry.1.connection = entry.2

/-- What a posted handle_accept finds: the reads of a closed socket complete before it. -/
def Ordered (t : Traffic) : Event → Prop
  | .begin p => ∀ connection ∈ t.reads p, connection = t.frees p
  | _ => True

/-- No session is freed while its handler is about to push a message. -/
def Settled (t : Traffic) : Event → Prop
  | .callBack => ∀ p ∈ t.server.polling.head?, ∀ handler ∈ t.handler p, handler.pushing = false
  | _ => True

variable {poolCount : Nat} {s s' : Server} {t : Traffic} {p : SessionPtr} {event : Event}

/-- A read in one piece is its two ends put together. -/
theorem handleReadSome_pieces (s : Server) (p : SessionPtr) (outcome : ReadOutcome)
    (reads : (s.session p).reads ≠ 0) :
    s.handleReadSome p outcome =
      if (s.session p).valid then endRead (beginRead s p) p outcome else beginRead s p := by
  simp only [Server.handleReadSome, reads, if_false]
  split
  · cases outcome with
    | more => simp [endRead, beginRead, Server.setSession]
    | badLength => simp [endRead, beginRead, Server.setSession]
    | uncompressFailed => simp [endRead, beginRead, Server.setSession]
    | error => rfl
  · rfl

theorem handled_beginRead : Handled s (beginRead s p) p := handled_set (alike_with id)

theorem handled_endRead {outcome : ReadOutcome} : Handled s (endRead s p outcome) p := by
  cases outcome with
  | more => exact handled_set (alike_with id)
  | badLength => exact handled_set (alike_with id)
  | uncompressFailed => exact handled_lost (alike_with id)
  | error =>
    have same : s.setSession p (s.session p) = s := by simp [Server.setSession]
    have lost := @handled_lost s p (s.session p) (alike_with id)
    rwa [same] at lost

/- Where a queued message and its session can be. -/

/-- The connection that the message came by is the current one. -/
def Current (s : Server) (message : Message) : Prop :=
  (s.session message.session).father = true ∧
    message.connection = (s.session message.session).frees

/-- The session was freed in this turn of the main loop, which has not come to its messages. -/
def Stale (t : Traffic) (index : Bool) (message : Message) : Prop :=
  message.session ∈ t.server.sessions ∧
    (t.spot = .polling ∨ t.spot = .draining ∧ t.messages.place.proc = some index)

structure Sound (poolCount : Nat) (t : Traffic) : Prop where
  staged : Staged poolCount t.server
  accounted : Accounted t.messages
  reads : ∀ p, (t.server.session p).father = true →
    ∀ connection ∈ t.reads p, connection = t.frees p
  handlers : ∀ (p : SessionPtr) (handler : Handler), t.handler p = some handler →
    (t.server.session p).father = true → handler.connection = t.frees p
  pushing : ∀ (p : SessionPtr) (handler : Handler), t.handler p = some handler →
    handler.pushing = true → (t.server.session p).father = true
  queued : ∀ index, ∀ message ∈ t.messages.queue index,
    Current t.server message ∨ Stale t index message
  idle : t.spot ≠ .draining → t.messages.place = .idle
  uncrossed : Uncrossed t

theorem sound_start (poolCount onceListenCount : Nat) (limitMode : Bool)
    (buffer : ByteWords.Block maxMessageLen) :
    Sound poolCount (start poolCount onceListenCount limitMode buffer) where
  staged := staged_start poolCount onceListenCount limitMode buffer
  accounted := accounted_empty
  reads := by
    intro p father
    cases father
  handlers := by
    intro p handler none
    cases none
  pushing := by
    intro p handler none
    cases none
  queued := by
    intro index message none
    cases none
  idle := fun _ => rfl
  uncrossed := by
    intro entry none
    cases none

/-- What changes neither the fathers nor the frees changes nothing for the messages, as long as
freed sessions stay where they are until the end of the turn. -/
theorem sound_marked (sound : Sound poolCount t) (staged : Staged poolCount s')
    (marks : ∀ p, (s'.session p).father = (t.server.session p).father ∧
      (s'.session p).frees = (t.server.session p).frees)
    (stay : t.spot ≠ .top → ∀ p ∈ t.server.sessions, p ∈ s'.sessions) :
    Sound poolCount { t with server := s' } where
  staged := staged
  accounted := sound.accounted
  reads := by
    intro p father connection member
    refine (sound.reads p ?_ connection member).trans (marks p).2.symm
    exact (marks p).1.symm.trans father
  handlers := by
    intro p handler running father
    refine (sound.handlers p handler running ?_).trans (marks p).2.symm
    exact (marks p).1.symm.trans father
  pushing := by
    intro p handler running pushing
    exact (marks p).1.trans (sound.pushing p handler running pushing)
  queued := by
    intro index message member
    rcases sound.queued index message member with ⟨father, connection⟩ | ⟨free, turn⟩
    · left
      exact ⟨(marks _).1.trans father, connection.trans (marks _).2.symm⟩
    · right
      refine ⟨stay ?_ _ free, turn⟩
      rintro top
      rcases turn with polling | draining
      · cases top.symm.trans polling
      · cases top.symm.trans draining.1
  idle := sound.idle
  uncrossed := sound.uncrossed

theorem handled_marks (handled : Handled s s' p) (q : SessionPtr) :
    (s'.session q).father = (s.session q).father ∧
      (s'.session q).frees = (s.session q).frees := by
  by_cases same : q = p
  · subst same
    exact ⟨handled.alike.father, handled.alike.frees⟩
  · rw [handled.others q same]
    exact ⟨rfl, rfl⟩

theorem sound_handled (sound : Sound poolCount t) (handled : Handled t.server s' p) :
    Sound poolCount { t with server := s' } := by
  apply sound_marked sound (staged_handled sound.staged handled) (handled_marks handled)
  intro _ q free
  rw [handled.sessions]
  exact free

/- The main loop. -/

theorem armSessions_marks (list : List SessionPtr) (s : Server) (q : SessionPtr) :
    ((Server.armSessions list s).session q).father = (s.session q).father ∧
      ((Server.armSessions list s).session q).frees = (s.session q).frees := by
  induction list generalizing s with
  | nil => exact ⟨rfl, rfl⟩
  | cons p rest ih =>
    unfold Server.armSessions
    split
    · obtain ⟨father, frees⟩ := ih _
      rw [father, frees]
      by_cases same : q = p
      · simp [Server.setSession, same]
      · simp [Server.setSession, same]
    · exact ⟨rfl, rfl⟩

/-- At the top of the loop and behind the arming no message is stale. -/
theorem sound_spot (sound : Sound poolCount t) (early : t.spot = .top ∨ t.spot = .armed)
    (spot : Spot) : Sound poolCount { t with spot := spot } where
  staged := sound.staged
  accounted := sound.accounted
  reads := sound.reads
  handlers := sound.handlers
  pushing := sound.pushing
  queued := by
    intro index message member
    rcases sound.queued index message member with current | ⟨_, polling | draining⟩
    · exact .inl current
    · simp [polling] at early
    · simp [draining.1] at early
  idle := by
    intro _
    apply sound.idle
    rcases early with top | armed
    · simp [top]
    · simp [armed]
  uncrossed := sound.uncrossed

theorem sound_arm (sound : Sound poolCount t) : Sound poolCount t.arm := by
  unfold Traffic.arm
  split
  · rename_i top
    have marks : ∀ q, (t.server.arm.session q).father = (t.server.session q).father ∧
        (t.server.arm.session q).frees = (t.server.session q).frees := by
      intro q
      unfold Server.arm
      split
      · exact armSessions_marks _ _ q
      · exact ⟨rfl, rfl⟩
    have armed := sound_marked sound (staged_step .arm sound.staged) marks
      (fun other => absurd top other)
    exact sound_spot armed (.inl top) _
  · exact sound

theorem sound_poll (sound : Sound poolCount t) : Sound poolCount t.poll := by
  unfold Traffic.poll
  split
  · rename_i armed
    have same : t.server.poll.session = t.server.session ∧
        t.server.poll.sessions = t.server.sessions := by
      unfold Server.poll
      split <;> exact ⟨rfl, rfl⟩
    have polled : Sound poolCount { t with server := t.server.poll } := by
      have staged : Staged poolCount t.server.poll := staged_step .poll sound.staged
      apply sound_marked sound staged
      · intro q
        rw [same.1]
        exact ⟨rfl, rfl⟩
      · intro _ q free
        rw [same.2]
        exact free
    exact sound_spot polled (.inr armed) _
  · exact sound

/-- A session without a father that is freed takes no message with it into a later connection,
and one with a father none that the main loop will not come to in this turn. -/
theorem sound_freed (sound : Sound poolCount t)
    (staged : Staged poolCount s') (others : ∀ q, q ≠ p → s'.session q = t.server.session q)
    (freed : (s'.session p).father = false) (members : ∀ q, q ∈ t.server.sessions → q ∈ s'.sessions)
    (quiet : ∀ handler ∈ t.handler p, handler.pushing = false)
    (turn : (t.server.session p).father = true → t.spot = .polling ∧ p ∈ s'.sessions) :
    Sound poolCount { t with server := s' } := by
  have elsewhere : ∀ q, (s'.session q).father = true → q ≠ p := by
    rintro q father rfl
    rw [freed] at father
    cases father
  refine ⟨staged, sound.accounted, ?_, ?_, ?_, ?_, sound.idle, sound.uncrossed⟩
  · intro q father connection member
    have same := others q (elsewhere q father)
    have before := sound.reads q (same ▸ father) connection member
    rw [before]
    exact congrArg Session.frees same.symm
  · intro q handler running father
    have same := others q (elsewhere q father)
    have before := sound.handlers q handler running (same ▸ father)
    rw [before]
    exact congrArg Session.frees same.symm
  · intro q handler running pushing
    by_cases here : q = p
    · subst here
      cases (quiet handler running).symm.trans pushing
    · simp only [others q here]
      exact sound.pushing q handler running pushing
  · intro index message member
    rcases sound.queued index message member with ⟨father, connection⟩ | ⟨free, stale⟩
    · by_cases here : message.session = p
      · rw [here] at father
        obtain ⟨polling, free⟩ := turn father
        exact .inr ⟨here ▸ free, .inl polling⟩
      · refine .inl ⟨?_, ?_⟩
        · rw [others _ here]
          exact father
        · rw [others _ here]
          exact connection
    · exact .inr ⟨members _ free, stale⟩

theorem sound_callBack (sound : Sound poolCount t) (settled : Settled t .callBack) :
    Sound poolCount t.callBack := by
  unfold Traffic.callBack
  split
  · rename_i polling
    have staged : Staged poolCount t.server.callBack := staged_step .callBack sound.staged
    cases taken : t.server.polling with
    | nil => simpa [Server.callBack, taken] using sound
    | cons p rest =>
      have quiet : ∀ handler ∈ t.handler p, handler.pushing = false := by
        simpa [Settled, taken] using settled
      by_cases father : (t.server.session p).father = true
      · have called : t.server.callBack = { t.server with polling := rest }.freeSession p := by
          simp [Server.callBack, Server.onClose, taken, father]
        rw [called] at staged ⊢
        refine sound_freed sound staged ?_ ?_ ?_ quiet ?_
        · intro q other
          simp [Server.freeSession, Server.setSession, other]
        · simp [Server.freeSession, Server.setSession, Session.reset]
        · intro q free
          simp [Server.freeSession, free]
        · intro _
          exact ⟨polling, by simp [Server.freeSession]⟩
      · have called : t.server.callBack = { t.server with polling := rest } := by
          simp [Server.callBack, Server.onClose, taken, father]
        rw [called] at staged ⊢
        apply sound_marked sound staged
        · intro q
          exact ⟨rfl, rfl⟩
        · intro _ q free
          exact free
  · exact sound

theorem sound_swap (sound : Sound poolCount t) : Sound poolCount t.swap := by
  unfold Traffic.swap
  split
  · rename_i ready
    have idle := sound.idle (by simp [ready.1])
    have accounted := accounted_poll sound.accounted
    have other := sound.accounted.idle idle
    by_cases empty : t.messages.queue t.messages.current = []
    · have same : t.messages.poll = t.messages := by simp [Queues.poll, idle, empty]
      have none : ∀ index, t.messages.queue index = [] := by
        intro index
        by_cases current : index = t.messages.current
        · exact current ▸ empty
        · exact (Bool.eq_not.mpr current) ▸ other
      rw [if_pos empty, same]
      refine ⟨sound.staged, sound.accounted, sound.reads, sound.handlers, sound.pushing, ?_,
        fun _ => idle, sound.uncrossed⟩
      intro index message member
      simp [none index] at member
    · have swapped : t.messages.poll = { t.messages with
          place := .draining t.messages.current
          current := !t.messages.current } := by
        simp [Queues.poll, idle, empty]
      rw [if_neg empty]
      refine ⟨sound.staged, accounted, sound.reads, sound.handlers, sound.pushing, ?_, ?_,
        sound.uncrossed⟩
      · rw [swapped]
        intro index message member
        rcases sound.queued index message member with current | ⟨free, _⟩
        · exact .inl current
        · right
          refine ⟨free, .inr ⟨rfl, ?_⟩⟩
          by_cases current : index = t.messages.current
          · simp [Place.proc, current]
          · simp only [Bool.eq_not.mpr current, other] at member
            cases member
      · intro impossible
        exact absurd rfl impossible
  · exact sound

/-- A drain that ends leaves no message behind in the queue it has emptied. -/
theorem sound_drained {proc : Bool} (sound : Sound poolCount t)
    (draining : t.messages.place = .draining proc) (none : t.messages.queue proc = [])
    (took : t.messages.take = { t.messages with place := .idle }) :
    Sound poolCount { t with messages := t.messages.take, spot := .top } := by
  refine ⟨sound.staged, accounted_take sound.accounted, sound.reads, sound.handlers,
    sound.pushing, ?_, ?_, sound.uncrossed⟩
  · rw [took]
    intro index message member
    rcases sound.queued index message member with current | ⟨_, polling | ⟨_, proc'⟩⟩
    · exact .inl current
    · have idle := sound.idle (by simp [polling])
      cases idle.symm.trans draining
    · rw [draining] at proc'
      cases proc'
      simp only [none] at member
      cases member
  · intro _
    rw [took]

/-- A message of a session that is connected is one of its connection. -/
theorem current_of_connected {index : Bool} {message : Message} (sound : Sound poolCount t)
    (member : message ∈ t.messages.queue index)
    (connected : (t.server.session message.session).sender.connected = true) :
    message.connection = t.frees message.session := by
  rcases sound.queued index message member with current | ⟨free, _⟩
  · exact current.2
  · cases ((staged_kept sound.staged).unused _ free).1.symm.trans connected

/-- The main loop hands a message to its session only if it is one of the current connection. -/
theorem sound_taken {proc : Bool} {message : Message} {rest : List Message}
    (sound : Sound poolCount t) (draining : t.messages.place = .draining proc)
    (front : t.messages.queue proc = message :: rest)
    (took : t.messages.take = { t.messages with
      place := .holding proc message
      taken := t.messages.taken ++ [message] }) :
    Sound poolCount { t with
      messages := t.messages.take
      processed := if (t.server.session message.session).valid &&
          (t.server.session message.session).sender.connected
        then t.processed ++ [(message, t.frees message.session)] else t.processed } := by
  have spot : t.spot = .draining := by
    by_contra early
    cases (sound.idle early).symm.trans draining
  refine ⟨sound.staged, accounted_take sound.accounted, sound.reads, sound.handlers,
    sound.pushing, ?_, ?_, ?_⟩
  · rw [took]
    intro index other member
    rcases sound.queued index other member with current | ⟨free, polling | ⟨_, proc'⟩⟩
    · exact .inl current
    · cases spot.symm.trans polling
    · rw [draining] at proc'
      exact .inr ⟨free, .inr ⟨spot, proc'⟩⟩
  · intro early
    exact absurd spot early
  · intro entry
    simp only
    split
    · rename_i usable
      simp only [Bool.and_eq_true] at usable
      intro new
      rcases List.mem_append.mp new with old | last
      · exact sound.uncrossed entry old
      · rw [List.mem_singleton.mp last]
        exact current_of_connected sound (front ▸ List.mem_cons_self) usable.2
    · exact sound.uncrossed entry

theorem sound_take (sound : Sound poolCount t) : Sound poolCount t.take := by
  rcases take_cases t.messages with ⟨proc, draining, none, took⟩ |
    ⟨proc, message, rest, draining, front, took⟩ | ⟨otherwise, _⟩
  · have taken : t.take = { t with messages := t.messages.take, spot := .top } := by
      simp [Traffic.take, took, draining]
    rw [taken]
    exact sound_drained sound draining none took
  · have taken : t.take = { t with
        messages := t.messages.take
        processed := if (t.server.session message.session).valid &&
            (t.server.session message.session).sender.connected
          then t.processed ++ [(message, t.frees message.session)] else t.processed } := by
      simp [Traffic.take, took, draining]
    rw [taken]
    exact sound_taken sound draining front took
  · have stays : t.take = t := by
      unfold Traffic.take
      split
      · rename_i draining _
        exact absurd draining (otherwise _)
      · rename_i draining _
        exact absurd draining (otherwise _)
      · rfl
    rw [stays]
    exact sound

theorem sound_pop (sound : Sound poolCount t) : Sound poolCount t.pop := by
  have less : ∀ index, ∀ message ∈ t.messages.pop.queue index,
      message ∈ t.messages.queue index := by
    intro index message member
    unfold Queues.pop at member
    split at member
    · rename_i proc _ _
      by_cases here : index = proc
      · subst here
        simp only [Function.update_self] at member
        exact List.mem_of_mem_tail member
      · simpa [here] using member
    · exact member
  have proc : t.messages.pop.place.proc = t.messages.place.proc := by
    unfold Queues.pop
    split
    · rename_i holding
      rw [holding]
      rfl
    · rfl
  refine ⟨sound.staged, accounted_pop sound.accounted, sound.reads, sound.handlers,
    sound.pushing, ?_, ?_, sound.uncrossed⟩
  · intro index message member
    rcases sound.queued index message (less index message member) with current | ⟨free, turn⟩
    · exact .inl current
    · refine .inr ⟨free, ?_⟩
      simpa [Traffic.pop, proc] using turn
  · intro early
    simp [Traffic.pop, Queues.pop, sound.idle early]

/- The io thread. -/

/-- A handler of the session that begins or goes on. -/
theorem sound_setHandler (sound : Sound poolCount t) (handler : Option Handler)
    (connection : ∀ h ∈ handler, (t.server.session p).father = true → h.connection = t.frees p)
    (pushing : ∀ h ∈ handler, h.pushing = true → (t.server.session p).father = true) :
    Sound poolCount (t.setHandler p handler) where
  staged := sound.staged
  accounted := sound.accounted
  reads := sound.reads
  handlers := by
    intro q h running father
    by_cases here : q = p
    · subst here
      exact connection h (by simpa [Traffic.setHandler] using running) father
    · exact sound.handlers q h (by simpa [Traffic.setHandler, here] using running) father
  pushing := by
    intro q h running pushes
    by_cases here : q = p
    · subst here
      exact pushing h (by simpa [Traffic.setHandler] using running) pushes
    · exact sound.pushing q h (by simpa [Traffic.setHandler, here] using running) pushes
  queued := sound.queued
  idle := sound.idle
  uncrossed := sound.uncrossed

/-- Reads that complete or begin on the socket of the connection. -/
theorem sound_reads (sound : Sound poolCount t) (reads : List Nat)
    (same : (t.server.session p).father = true → ∀ connection ∈ reads, connection = t.frees p) :
    Sound poolCount { t with reads := Function.update t.reads p reads } where
  staged := sound.staged
  accounted := sound.accounted
  reads := by
    intro q father connection member
    by_cases here : q = p
    · subst here
      exact same father connection (by simpa using member)
    · exact sound.reads q father connection (by simpa [here] using member)
  handlers := sound.handlers
  pushing := sound.pushing
  queued := sound.queued
  idle := sound.idle
  uncrossed := sound.uncrossed

theorem sound_read {connection frames : Nat} {outcome : ReadOutcome}
    (sound : Sound poolCount t) : Sound poolCount (t.read p connection frames outcome) := by
  unfold Traffic.read
  split
  · rename_i ready
    have marks := handled_marks (@handled_beginRead t.server p) p
    have current : ∀ other ∈ t.reads p, ((beginRead t.server p).session p).father = true →
        other = ((beginRead t.server p).session p).frees := by
      intro other member father
      rw [marks.1] at father
      exact (sound.reads p father other member).trans marks.2.symm
    have begun : Sound poolCount { t with
        server := beginRead t.server p
        reads := Function.update t.reads p ((t.reads p).erase connection) } :=
      sound_reads (sound_handled sound handled_beginRead) _
        fun father other member => current other (List.mem_of_mem_erase member) father
    simp only
    split
    · apply sound_setHandler begun
      · rintro h ⟨⟩ father
        exact current connection ready.2 father
      · rintro h ⟨⟩ pushes
        cases pushes
    · exact begun
  · exact sound

theorem sound_deliver (sound : Sound poolCount t) : Sound poolCount (t.deliver p) := by
  unfold Traffic.deliver
  split
  · rename_i running
    apply sound_setHandler sound
    · rintro h ⟨⟩ father
      have before := sound.handlers p _ running father
      exact before
    · rintro h ⟨⟩ pushes
      exact pushes
  · exact sound

/-- A message is queued while its connection is the current one. -/
theorem sound_push (sound : Sound poolCount t) : Sound poolCount (t.push p) := by
  unfold Traffic.push
  split
  · rename_i connection frames outcome running
    have father := sound.pushing p _ running rfl
    have current : Current t.server ⟨p, connection⟩ :=
      ⟨father, sound.handlers p _ running father⟩
    have ended : Sound poolCount (t.setHandler p (some ⟨connection, frames, outcome, false⟩)) := by
      apply sound_setHandler sound
      · rintro h ⟨⟩ father
        exact current.2
      · rintro h ⟨⟩ pushes
        cases pushes
    refine ⟨ended.staged, accounted_push ended.accounted _, ended.reads, ended.handlers,
      ended.pushing, ?_, ended.idle, ended.uncrossed⟩
    intro index message member
    by_cases filled : index = t.messages.current
    · subst filled
      simp only [Queues.push, Function.update_self] at member
      rcases List.mem_append.mp member with old | new
      · exact ended.queued _ message old
      · rw [List.mem_singleton.mp new]
        exact .inl current
    · simp only [Queues.push, ne_eq, filled, not_false_eq_true, Function.update_of_ne] at member
      exact ended.queued index message member
  · exact sound

theorem sound_finish (sound : Sound poolCount t) : Sound poolCount (t.finish p) := by
  unfold Traffic.finish
  split
  · rename_i connection outcome running
    have marks := handled_marks (@handled_endRead t.server p outcome) p
    have ended : Sound poolCount
        { t.setHandler p none with server := endRead t.server p outcome } := by
      have cleared : Sound poolCount (t.setHandler p none) := by
        apply sound_setHandler sound
        · rintro h ⟨⟩
        · rintro h ⟨⟩
      exact sound_handled cleared handled_endRead
    by_cases more : outcome = .more
    · rw [if_pos more]
      apply sound_reads ended
      intro father other member
      refine Eq.trans ?_ marks.2.symm
      rcases List.mem_append.mp member with old | new
      · exact sound.reads p (marks.1.symm.trans father) other old
      · exact List.mem_singleton.mp new
    · rw [if_neg more]
      exact ended
  · exact sound

/-- The handle_accept that a session's io thread was posted finds nothing of an earlier
connection. -/
theorem sound_begin (sound : Sound poolCount t) (ordered : Ordered t (.begin p)) :
    Sound poolCount (t.begin p) := by
  unfold Traffic.begin
  split
  · rename_i ready
    obtain ⟨stage, at', _⟩ := sound.staged.stages p
    have accepted : stage = .accepted := by
      by_contra other
      have begins := at'.begins
      rw [if_neg other] at begins
      exact ready.2 begins
    have away : p ∉ t.server.sessions := at_away at' (by simp [accepted])
    have unfathered := at_unfathered at' (by simp [accepted])
    have begun : t.server.runBegin p = t.server.setSession p
        { (t.server.session p).begin with begins := (t.server.session p).begins - 1 } := by
      simp [Server.runBegin, ready.2]
    have others : ∀ q, q ≠ p → (t.server.runBegin p).session q = t.server.session q := by
      intro q other
      simp [begun, Server.setSession, other]
    have frees : ∀ q, ((t.server.runBegin p).session q).frees = t.frees q := by
      intro q
      by_cases here : q = p
      · subst here
        simp [begun, Server.setSession, Session.begin, Traffic.frees]
      · rw [others q here]
        rfl
    have noMessages : ∀ index, ∀ message ∈ t.messages.queue index, message.session ≠ p := by
      rintro index message member rfl
      rcases sound.queued index message member with current | stale
      · exact unfathered current.1
      · exact away stale.1
    refine ⟨staged_step (.begin p) sound.staged, sound.accounted, ?_, ?_, ?_, ?_, sound.idle,
      sound.uncrossed⟩
    · intro q father connection member
      simp only [Traffic.frees, frees]
      by_cases here : q = p
      · subst here
        simp only [Function.update_self] at member
        rcases List.mem_append.mp member with old | new
        · exact ordered connection old
        · exact List.mem_singleton.mp new
      · simp only [ne_eq, here, not_false_eq_true, Function.update_of_ne] at member
        rw [others q here] at father
        exact sound.reads q father connection member
    · intro q handler running father
      simp only [Traffic.frees, frees]
      by_cases here : q = p
      · subst here
        cases ready.1.symm.trans running
      · rw [others q here] at father
        exact sound.handlers q handler running father
    · intro q handler running pushing
      by_cases here : q = p
      · subst here
        cases ready.1.symm.trans running
      · simp only [others q here]
        exact sound.pushing q handler running pushing
    · intro index message member
      have other := others _ (noMessages index message member)
      rcases sound.queued index message member with ⟨father, connection⟩ | ⟨free, turn⟩
      · refine .inl ⟨?_, ?_⟩
        · rw [other]
          exact father
        · rw [other]
          exact connection
      · refine .inr ⟨?_, turn⟩
        rw [begun]
        exact free
  · exact sound

theorem sound_handle (sound : Sound poolCount t) (handled : Handled t.server s' p) :
    Sound poolCount (t.handle p s') := by
  unfold Traffic.handle
  split
  · exact sound_handled sound handled
  · exact sound

theorem sound_handleAccept {outcome : AcceptOutcome} (sound : Sound poolCount t) :
    Sound poolCount { t with server := t.server.handleAccept p outcome } := by
  have staged : Staged poolCount (t.server.handleAccept p outcome) :=
    staged_step (.handleAccept p outcome) sound.staged
  by_cases accepting : (t.server.session p).accepting = true
  · obtain ⟨stage, at', _⟩ := sound.staged.stages p
    have unfathered := at_unfathered at' (by simp [at'.accepting.mp accepting])
    have quiet : ∀ handler ∈ t.handler p, handler.pushing = false := by
      intro handler running
      by_contra pushing
      exact unfathered (sound.pushing p handler running (by simpa using pushing))
    cases outcome with
    | ok =>
      apply sound_marked sound staged
      · intro q
        by_cases here : q = p
        · simp [Server.handleAccept, accepting, Server.setSession, here]
        · simp [Server.handleAccept, accepting, Server.setSession, here]
      · intro _ q free
        simpa [Server.handleAccept, accepting, Server.setSession] using free
    | banned =>
      refine sound_freed sound staged ?_ ?_ ?_ quiet (fun father => absurd father unfathered)
      · intro q other
        simp [Server.handleAccept, accepting, Server.freeSession, Server.setSession, other]
      · simp [Server.handleAccept, accepting, Server.freeSession, Server.setSession, Session.reset]
      · intro q free
        simp [Server.handleAccept, accepting, Server.freeSession, Server.setSession, free]
    | error =>
      refine sound_freed sound staged ?_ ?_ ?_ quiet (fun father => absurd father unfathered)
      · intro q other
        simp [Server.handleAccept, accepting, Server.freeSession, Server.setSession, other]
      · simp [Server.handleAccept, accepting, Server.freeSession, Server.setSession, Session.reset]
      · intro q free
        simp [Server.handleAccept, accepting, Server.freeSession, Server.setSession, free]
  · simpa [Server.handleAccept, accepting] using sound

theorem sound_step (sound : Sound poolCount t) (ordered : Ordered t event)
    (settled : Settled t event) : Sound poolCount (step t event) := by
  cases event with
  | arm => exact sound_arm sound
  | poll => exact sound_poll sound
  | callBack => exact sound_callBack sound settled
  | swap => exact sound_swap sound
  | take => exact sound_take sound
  | pop => exact sound_pop sound
  | read p connection frames outcome => exact sound_read sound
  | deliver p => exact sound_deliver sound
  | push p => exact sound_push sound
  | finish p => exact sound_finish sound
  | begin p => exact sound_begin sound ordered
  | handleWrite p ok => exact sound_handle sound sent_write.1
  | runClose p => exact sound_handle sound sent_runClose.1
  | runPosted p => exact sound_handle sound sent_runPosted.1
  | handleAccept p outcome => exact sound_handleAccept sound
  | close p => exact sound_handled sound sent_close.1
  | send p fresh data => exact sound_handled sound sent_message.1

/-- In every run in which no session is freed between the test of m_father and the push, no
message comes to a connection it was not received on. -/
theorem messages_uncrossed (poolCount onceListenCount : Nat) (limitMode : Bool)
    (buffer : ByteWords.Block maxMessageLen) (events : List Event)
    (ordered : EveryStep step Ordered (start poolCount onceListenCount limitMode buffer) events)
    (settled : EveryStep step Settled (start poolCount onceListenCount limitMode buffer)
      events) :
    EveryState step Uncrossed (start poolCount onceListenCount limitMode buffer) events := by
  have sound : EveryState step (Sound poolCount)
      (start poolCount onceListenCount limitMode buffer) events := by
    apply everyState_of_everyStep _ (sound_start poolCount onceListenCount limitMode buffer)
      (everyStep_and.mpr ⟨ordered, settled⟩)
    intro t event sound both
    exact sound_step sound both.1 both.2
  exact everyState_imp (fun _ sound => sound.uncrossed) sound

/-- A session accepts a connection in a turn that finds no messages. -/
def visit : List Event := [.arm, .poll, .swap, .handleAccept 0 .ok, .begin 0]

/-- A message is read and queued. -/
def received : List Event := [.read 0 0 1 .more, .deliver 0, .push 0, .finish 0]

/-- A message that is queued when the connection is lost is not handed over. -/
theorem messages_uncrossed_visit :
    EveryState step Uncrossed (start 1 40 false (ByteWords.Block.zeroed _))
      (visit ++ received ++ [.read 0 0 0 .error, .finish 0, .arm, .poll, .callBack, .swap, .take,
        .pop, .take]) := by
  apply messages_uncrossed
  · refine ⟨trivial, trivial, trivial, trivial, ?_, trivial, trivial, trivial, trivial, trivial,
      trivial, trivial, trivial, trivial, trivial, trivial, trivial, trivial, trivial⟩
    rintro connection ⟨⟩
  · refine ⟨trivial, trivial, trivial, trivial, trivial, trivial, trivial, trivial, trivial,
      trivial, trivial, trivial, trivial, ?_, trivial, trivial, trivial, trivial, trivial⟩
    rintro p ⟨⟩ handler ⟨⟩

/-- A write error and a read that has come as far as the push: the close callback runs between,
the turn ends without messages, and the next connection of the session gets the message. -/
def crossing : List Event :=
  visit ++ [.send 0 (fun _ => 0) [7], .runPosted 0, .handleWrite 0 false,
    .read 0 0 1 .more, .deliver 0, .arm, .poll, .callBack, .swap, .push 0, .finish 0,
    .read 0 1 0 .error] ++ visit.take 2 ++ [.handleAccept 0 .ok, .begin 0, .swap, .take]

theorem message_crosses :
    EveryStep step Ordered (start 1 40 false (ByteWords.Block.zeroed _)) crossing ∧
      ¬ EveryState step Uncrossed (start 1 40 false (ByteWords.Block.zeroed _)) crossing := by
  constructor
  · refine ⟨trivial, trivial, trivial, trivial, ?_, trivial, trivial, trivial, trivial, trivial,
      trivial, trivial, trivial, trivial, trivial, trivial, trivial, trivial, trivial, trivial, ?_,
      trivial, trivial, trivial⟩
    · rintro connection ⟨⟩
    · rintro connection ⟨⟩
  · intro all
    have crossed := everyState_last all (⟨0, 0⟩, 1) (by decide +kernel)
    cases crossed

end TcpMessages
