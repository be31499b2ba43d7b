import DreamHeroes.TcpServer

/- Whether a session object that was accepted comes back into m_sessions, and only once. -/
namespace SessionPool

open TcpServer LabelledRuns
open TcpSession (maxMessageLen)
open MessageInterface (Fresh)
open SendQueue (Sender)
open ClientSending (ReadOutcome)

/-- The socket is closed, and every handler and callback of the session has run. -/
structure Quiet (s : Server) (p : SessionPtr) : Prop where
  closed : (s.session p).isOpen = false
  accepting : (s.session p).accepting = false
  begins : (s.session p).begins = 0
  reads : (s.session p).reads = 0
  writes : (s.session p).sender.outstanding = []
  posted : (s.session p).sender.posted = 0
  closes : (s.session p).sender.closes = 0
  callbacks : p ∉ s.callbacks
  polling : p ∉ s.polling

/-- Each accept is followed by at most one free before the next, and m_sessions holds only
sessions that are not in use, each once. -/
structure Kept (s : Server) : Prop where
  single : s.sessions.Nodup
  unused : ∀ p ∈ s.sessions, (s.session p).sender.connected = false ∧
    (s.session p).accepting = false ∧ (s.session p).begins = 0
  once : ∀ p, (s.session p).frees ≤ (s.session p).accepts ∧
    (s.session p).accepts ≤ (s.session p).frees + 1

/-- And no session of the pool stays away. -/
structure Returned (poolCount : Nat) (s : Server) : Prop extends Kept s where
  back : ∀ p, p < poolCount → Quiet s p →
    p ∈ s.sessions ∧ (s.session p).frees = (s.session p).accepts

/-- A frame of a bad length is read only while another read or a close callback is still to come. -/
def Reported (s : Server) : Event → Prop
  | .handleReadSome p .badLength => (s.session p).father = true →
      1 < (s.session p).reads ∨ p ∈ s.callbacks ∨ p ∈ s.polling
  | _ => True

/- Where a session object is between two frees. -/

inductive Stage where
  | outside
  | free
  | accepting
  | accepted
  | running
  deriving DecidableEq

/-- The flags and counts of a session at a stage. -/
structure At (s : Server) (p : SessionPtr) (stage : Stage) : Prop where
  free : p ∈ s.sessions ↔ stage = .free
  accepting : (s.session p).accepting = true ↔ stage = .accepting
  begins : (s.session p).begins = if stage = .accepted then 1 else 0
  father : (s.session p).father = true ↔ stage = .running
  connected : (s.session p).sender.connected = true → stage = .running
  valid : stage = .running → (s.session p).valid = true
  counted : (s.session p).accepts = (s.session p).frees +
    if stage = .accepted ∨ stage = .running then 1 else 0

structure Staged (poolCount : Nat) (s : Server) : Prop where
  single : s.sessions.Nodup
  stages : ∀ p, ∃ stage, At s p stage ∧ (p < poolCount → stage ≠ .outside)

/-- A running session has a read or a close callback to come. -/
def Awaited (s : Server) : Prop :=
  ∀ p, (s.session p).father = true → 0 < (s.session p).reads ∨ p ∈ s.callbacks ∨ p ∈ s.polling

variable {poolCount : Nat} {s s' : Server} {p q : SessionPtr} {stage : Stage} {event : Event}

theorem staged_kept (staged : Staged poolCount s) : Kept s where
  single := staged.single
  unused := by
    intro p member
    obtain ⟨stage, at', _⟩ := staged.stages p
    have free := at'.free.mp member
    subst free
    refine ⟨?_, ?_, at'.begins⟩
    · rw [← Bool.not_eq_true]
      intro connected
      cases at'.connected connected
    · rw [← Bool.not_eq_true]
      intro accepting
      cases at'.accepting.mp accepting
  once := by
    intro p
    obtain ⟨stage, at', _⟩ := staged.stages p
    rw [at'.counted]
    split <;> omega

theorem staged_returned (staged : Staged poolCount s) (awaited : Awaited s) :
    Returned poolCount s where
  toKept := staged_kept staged
  back := by
    intro p pooled quiet
    obtain ⟨stage, at', inside⟩ := staged.stages p
    have counted := at'.counted
    cases stage with
    | outside => exact absurd rfl (inside pooled)
    | free => exact ⟨at'.free.mpr rfl, counted.symm⟩
    | accepting =>
      have accepting := at'.accepting.mpr rfl
      rw [quiet.accepting] at accepting
      cases accepting
    | accepted =>
      have begins := at'.begins
      rw [quiet.begins] at begins
      cases begins
    | running =>
      rcases awaited p (at'.father.mpr rfl) with reads | waiting | taken
      · rw [quiet.reads] at reads
        cases reads
      · exact absurd waiting quiet.callbacks
      · exact absurd taken quiet.polling

/-- Two states of a session that are at the same stage. -/
structure Alike (a b : Session) : Prop where
  accepting : b.accepting = a.accepting
  begins : b.begins = a.begins
  father : b.father = a.father
  valid : b.valid = a.valid
  accepts : b.accepts = a.accepts
  frees : b.frees = a.frees
  connected : b.sender.connected = true → a.sender.connected = true

/-- The sender, the reads and the socket say nothing about the stage, as long as the session
does not become connected. -/
theorem alike_with {a : Session} {sender : Sender} {reads : Nat} {isOpen : Bool}
    (connected : sender.connected = true → a.sender.connected = true) :
    Alike a { a with sender := sender, reads := reads, isOpen := isOpen } :=
  ⟨rfl, rfl, rfl, rfl, rfl, rfl, connected⟩

theorem at_alike (at' : At s p stage) (sessions : s'.sessions = s.sessions)
    (alike : Alike (s.session p) (s'.session p)) : At s' p stage where
  free := by
    rw [sessions]
    exact at'.free
  accepting := by
    rw [alike.accepting]
    exact at'.accepting
  begins := by
    rw [alike.begins]
    exact at'.begins
  father := by
    rw [alike.father]
    exact at'.father
  connected := fun connected => at'.connected (alike.connected connected)
  valid := by
    rw [alike.valid]
    exact at'.valid
  counted := by
    rw [alike.accepts, alike.frees]
    exact at'.counted

theorem at_away (at' : At s p stage) (used : stage ≠ .free) : p ∉ s.sessions := by
  intro member
  exact used (at'.free.mp member)

theorem at_unfathered (at' : At s p stage) (idle : stage ≠ .running) :
    (s.session p).father ≠ true := by
  intro father
  exact idle (at'.father.mp father)

/-- What a handler that leaves the stages alone does: another session is untouched, and
callbacks are only added. -/
structure Handled (s s' : Server) (p : SessionPtr) : Prop where
  sessions : s'.sessions = s.sessions
  others : ∀ q, q ≠ p → s'.session q = s.session q
  alike : Alike (s.session p) (s'.session p)
  polling : s'.polling = s.polling
  callbacks : s.callbacks ⊆ s'.callbacks

/-- And it leaves something to come for a running session. -/
def Awaits (s s' : Server) (p : SessionPtr) : Prop :=
  (s.session p).father = true → (s.session p).valid = true →
    (s'.session p).reads = (s.session p).reads ∨ 0 < (s'.session p).reads ∨
      p ∈ s'.callbacks ∨ p ∈ s'.polling

theorem staged_handled (staged : Staged poolCount s) (handled : Handled s s' p) :
    Staged poolCount s' where
  single := by
    rw [handled.sessions]
    exact staged.single
  stages := by
    intro q
    obtain ⟨stage, at', inside⟩ := staged.stages q
    refine ⟨stage, at_alike at' handled.sessions ?_, inside⟩
    by_cases here : q = p
    · subst here
      exact handled.alike
    · rw [handled.others q here]
      exact alike_with id

theorem awaited_handled (staged : Staged poolCount s) (awaited : Awaited s)
    (handled : Handled s s' p) (awaits : Awaits s s' p) : Awaited s' := by
  intro q father
  by_cases here : q = p
  · subst here
    rw [handled.alike.father] at father
    obtain ⟨stage, at', _⟩ := staged.stages q
    have valid := at'.valid (at'.father.mp father)
    rcases awaits father valid with same | coming
    · rw [same, handled.polling]
      exact (awaited q father).imp_right (Or.imp_left fun old => handled.callbacks old)
    · exact coming
  · rw [handled.others q here] at father ⊢
    rw [handled.polling]
    exact (awaited q father).imp_right (Or.imp_left fun old => handled.callbacks old)

theorem handled_refl (s : Server) (p : SessionPtr) : Handled s s p :=
  ⟨rfl, fun _ _ => rfl, alike_with id, rfl, List.Subset.refl _⟩

theorem handled_set {session : Session} (alike : Alike (s.session p) session) :
    Handled s (s.setSession p session) p where
  sessions := rfl
  others := fun q other => Function.update_of_ne other _ _
  alike := by simpa [Server.setSession] using alike
  polling := rfl
  callbacks := List.Subset.refl _

/-- A lost connection of a running session queues its close callback. -/
theorem handled_lost {session : Session} (alike : Alike (s.session p) session) :
    Handled s ((s.setSession p session).lost p) p where
  sessions := rfl
  others := by
    intro q other
    simp [Server.lost, Server.setSession, other]
  alike := by
    have same : (((s.setSession p session).lost p).session p) = session.shut := by
      simp [Server.lost, Server.setSession]
    rw [same]
    exact ⟨alike.accepting, alike.begins, alike.father, alike.valid, alike.accepts, alike.frees,
      fun connected => absurd connected Bool.false_ne_true⟩
  polling := rfl
  callbacks := by
    simp only [Server.lost]
    split
    · exact List.subset_append_left _ _
    · exact List.Subset.refl _

theorem awaits_lost {session : Session} (alike : Alike (s.session p) session) :
    Awaits s ((s.setSession p session).lost p) p := by
  intro father _
  refine .inr (.inr (.inl ?_))
  simp [Server.lost, Server.setSession, alike.father, father]

theorem handled_read {outcome : ReadOutcome} : Handled s (s.handleReadSome p outcome) p := by
  unfold Server.handleReadSome
  split
  · exact handled_refl s p
  · simp only
    split
    · split
      · exact handled_set (alike_with id)
      · exact handled_set (alike_with id)
      · exact handled_lost (alike_with id)
      · exact handled_lost (alike_with id)
    · exact handled_set (alike_with id)

theorem awaits_read {outcome : ReadOutcome}
    (reported : Reported s (.handleReadSome p outcome)) :
    Awaits s (s.handleReadSome p outcome) p := by
  by_cases none : (s.session p).reads = 0
  · rw [Server.handleReadSome, if_pos none]
    intro _ _
    exact .inl rfl
  · intro father valid
    cases outcome with
    | more =>
      simp only [Server.handleReadSome, if_neg none, if_pos valid, Server.setSession,
        Function.update_self]
      exact .inr (.inl (Nat.succ_pos _))
    | badLength =>
      simp only [Server.handleReadSome, if_neg none, if_pos valid, Server.setSession,
        Function.update_self]
      exact .inr ((reported father).imp_left Nat.sub_pos_of_lt)
    | uncompressFailed =>
      simp only [Server.handleReadSome, if_neg none, if_pos valid]
      exact awaits_lost (alike_with id) father valid
    | error =>
      simp only [Server.handleReadSome, if_neg none, if_pos valid]
      exact awaits_lost (alike_with id) father valid

theorem writeMessage_connected (sender : Sender) (sentSize : Nat) :
    (sender.writeMessage sentSize).connected = sender.connected := by
  rcases sender.writeMessage_cases sentSize with ⟨same, _⟩ | ⟨_, _, _, _, _, _, _, _, _, wrote⟩
  · rw [same]
  · rw [wrote]

theorem sendMessage_connected (sender : Sender) (fresh : Fresh) (data : ByteWords.Bytes) :
    (sender.sendMessage fresh data).connected = sender.connected := by
  simp only [Sender.sendMessage, Sender.sendFrame]
  split
  · split <;> rfl
  · rfl

/-- What only the sender and the socket know of. -/
theorem sent_set {sender : Sender} {isOpen : Bool}
    (connected : sender.connected = true → (s.session p).sender.connected = true) :
    Handled s (s.setSession p { s.session p with sender := sender, isOpen := isOpen }) p ∧
      Awaits s (s.setSession p { s.session p with sender := sender, isOpen := isOpen }) p := by
  refine ⟨handled_set (alike_with connected), ?_⟩
  intro _ _
  simp [Server.setSession]

theorem sent_refl (s : Server) (p : SessionPtr) : Handled s s p ∧ Awaits s s p :=
  ⟨handled_refl s p, fun _ _ => .inl rfl⟩

theorem sent_write {ok : Bool} :
    Handled s (s.handleWrite p ok) p ∧ Awaits s (s.handleWrite p ok) p := by
  unfold Server.handleWrite
  split
  · exact sent_refl s p
  · rename_i writing rest outstanding
    have kept : (s.session p).sender.writeDone.connected = (s.session p).sender.connected := by
      simp only [Sender.writeDone, outstanding]
      exact writeMessage_connected _ writing.size
    split
    · split
      · exact sent_set fun connected => kept ▸ connected
      · exact ⟨handled_lost (alike_with id), awaits_lost (alike_with id)⟩
    · exact sent_set id

theorem sent_close : Handled s (s.setSession p (s.session p).close) p ∧
    Awaits s (s.setSession p (s.session p).close) p :=
  sent_set id

theorem sent_runClose : Handled s (s.runClose p) p ∧ Awaits s (s.runClose p) p := by
  unfold Server.runClose
  split
  · exact sent_refl s p
  · exact sent_set fun connected => absurd connected Bool.false_ne_true

theorem sent_message {fresh : Fresh} {data : ByteWords.Bytes} :
    Handled s (s.sendMessage p fresh data) p ∧ Awaits s (s.sendMessage p fresh data) p := by
  unfold Server.sendMessage
  split
  · exact sent_set fun connected => sendMessage_connected _ fresh data ▸ connected
  · exact sent_refl s p

theorem sent_runPosted : Handled s (s.runPosted p) p ∧ Awaits s (s.runPosted p) p := by
  have kept : (s.session p).sender.runPosted.connected = (s.session p).sender.connected := by
    unfold Sender.runPosted
    split
    · rfl
    · exact writeMessage_connected _ 0
  exact sent_set fun connected => kept ▸ connected

/- The steps that change a stage. -/

/-- One session goes to another stage. -/
theorem staged_move (staged : Staged poolCount s)
    (single : s'.sessions.Nodup) (others : ∀ q, q ≠ p → s'.session q = s.session q)
    (members : ∀ q, q ≠ p → (q ∈ s'.sessions ↔ q ∈ s.sessions)) (at' : At s' p stage)
    (inside : p < poolCount → stage ≠ .outside) : Staged poolCount s' where
  single := single
  stages := by
    intro q
    by_cases same : q = p
    · subst same
      exact ⟨stage, at', inside⟩
    · obtain ⟨old, before, pooled⟩ := staged.stages q
      refine ⟨old, ?_, pooled⟩
      obtain ⟨free, accepting, begins, father, connected, valid, counted⟩ := before
      rw [← members q same] at free
      rw [← others q same] at accepting begins father connected valid counted
      exact ⟨free, accepting, begins, father, connected, valid, counted⟩

theorem at_freed {session : Session} (accepting : session.accepting = false)
    (begins : session.begins = 0) (counted : session.accepts = session.frees + 1) :
    At ((s.setSession p session).freeSession p) p .free := by
  constructor
  all_goals simp [Server.freeSession, Server.setSession, Session.reset, accepting, begins, counted]

theorem nodup_freed (staged : Staged poolCount s) (away : p ∉ s.sessions) :
    (s.sessions ++ [p]).Nodup := by
  refine List.nodup_append.mpr ⟨staged.single, List.nodup_cons.mpr ⟨List.not_mem_nil, .nil⟩, ?_⟩
  intro q member r last same
  rw [List.mem_singleton.mp last] at same
  exact away (same ▸ member)

theorem freed_others (s : Server) (session : Session) :
    ∀ q, q ≠ p → ((s.setSession p session).freeSession p).session q = s.session q := by
  intro q other
  simp [Server.freeSession, Server.setSession, other]

theorem staged_freed {session : Session} (staged : Staged poolCount s) (away : p ∉ s.sessions)
    (accepting : session.accepting = false) (begins : session.begins = 0)
    (counted : session.accepts = session.frees + 1) :
    Staged poolCount ((s.setSession p session).freeSession p) := by
  apply staged_move staged (nodup_freed staged away) (freed_others s session) _
    (at_freed accepting begins counted)
  · intro _ impossible
    cases impossible
  · intro q other
    simp [Server.freeSession, Server.setSession, other]

theorem staged_armSessions (list : List SessionPtr) (staged : Staged poolCount s)
    (all : s.sessions = list) : Staged poolCount (Server.armSessions list s) := by
  induction list generalizing s with
  | nil => exact staged
  | cons p rest ih =>
    unfold Server.armSessions
    split
    · have single := staged.single
      rw [all] at single
      obtain ⟨away, tail⟩ := List.nodup_cons.mp single
      obtain ⟨stage, at', _⟩ := staged.stages p
      have free : stage = .free := at'.free.mp (by simp [all])
      subst free
      have unfathered := at_unfathered at' (by decide)
      have begins := at'.begins
      have counted := at'.counted
      apply ih _ rfl
      refine staged_move (p := p) staged tail ?_ ?_ (?_ : At _ p .accepting) ?_
      · intro q other
        simp [Server.setSession, other]
      · intro q other
        simp [all, other]
      · constructor
        · simp [away]
        · simp [Server.setSession]
        · simpa [Server.setSession] using begins
        · simpa [Server.setSession] using unfathered
        · intro connected
          simp only [Server.setSession, Function.update_self] at connected
          cases at'.connected connected
        · intro impossible
          cases impossible
        · simpa [Server.setSession] using counted
      · intro _ impossible
        cases impossible
    · exact staged

theorem staged_same (staged : Staged poolCount s) (sessions : s'.sessions = s.sessions)
    (session : s'.session = s.session) : Staged poolCount s' where
  single := by
    rw [sessions]
    exact staged.single
  stages := by
    intro q
    obtain ⟨stage, at', inside⟩ := staged.stages q
    refine ⟨stage, at_alike at' sessions ?_, inside⟩
    rw [session]
    exact alike_with id

theorem staged_handleAccept {outcome : AcceptOutcome} (staged : Staged poolCount s) :
    Staged poolCount (s.handleAccept p outcome) := by
  unfold Server.handleAccept
  split
  · rename_i accepting
    obtain ⟨stage, at', inside⟩ := staged.stages p
    have now : stage = .accepting := at'.accepting.mp accepting
    subst now
    have away := at_away at' (by decide)
    have begins : (s.session p).begins = 0 := at'.begins
    have counted : (s.session p).accepts = (s.session p).frees := at'.counted
    have counting : Staged poolCount { s with acceptingCount := s.acceptingCount - 1 } :=
      staged_same staged rfl rfl
    cases outcome with
    | ok =>
      simp only
      refine staged_move (p := p) (s := { s with acceptingCount := s.acceptingCount - 1 })
        counting staged.single ?_ ?_ (?_ : At _ p .accepted) (fun _ => by decide)
      · intro q other
        simp [Server.setSession, other]
      · intro q other
        rfl
      · have unfathered := at_unfathered at' (by decide)
        constructor
        · simpa [Server.setSession] using away
        · simp [Server.setSession]
        · simp [Server.setSession, begins]
        · simpa [Server.setSession] using unfathered
        · intro connected
          simp only [Server.setSession, Function.update_self] at connected
          cases at'.connected connected
        · intro impossible
          cases impossible
        · simp [Server.setSession, counted]
    | banned => exact staged_freed counting away rfl begins (congrArg (· + 1) counted)
    | error => exact staged_freed counting away rfl begins (congrArg (· + 1) counted)
  · exact staged

theorem staged_runBegin (staged : Staged poolCount s) : Staged poolCount (s.runBegin p) := by
  unfold Server.runBegin
  split
  · exact staged
  · rename_i posted
    obtain ⟨stage, at', inside⟩ := staged.stages p
    have begins := at'.begins
    split at begins
    · rename_i accepted
      subst accepted
      have away := at_away at' (by decide)
      have notAccepting : (s.session p).accepting ≠ true := by
        intro accepting
        cases at'.accepting.mp accepting
      have counted : (s.session p).accepts = (s.session p).frees + 1 := at'.counted
      refine staged_move (p := p) staged staged.single ?_ ?_ (?_ : At _ p .running)
        (fun _ => by decide)
      · intro q other
        simp [Server.setSession, other]
      · intro q other
        rfl
      · constructor
        · simpa [Server.setSession] using away
        · simpa [Server.setSession, Session.begin] using notAccepting
        · simp [Server.setSession, begins]
        · simp [Server.setSession, Session.begin]
        · intro _
          rfl
        · intro _
          simp [Server.setSession, Session.begin]
        · simp [Server.setSession, Session.begin, counted]
    · exact absurd begins posted

/-- The close callback frees the session that is running, and leaves one that is not. -/
theorem staged_onClose (staged : Staged poolCount s) : Staged poolCount (s.onClose p) := by
  unfold Server.onClose
  split
  · rename_i father
    obtain ⟨stage, at', inside⟩ := staged.stages p
    have running : stage = .running := at'.father.mp father
    subst running
    have accepting : (s.session p).accepting = false := by
      rw [← Bool.not_eq_true, at'.accepting]
      decide
    have freed := staged_freed staged (at_away at' (by decide)) accepting at'.begins at'.counted
    have same : s.setSession p (s.session p) = s := by simp [Server.setSession]
    rwa [same] at freed
  · exact staged

theorem staged_callBack (staged : Staged poolCount s) : Staged poolCount s.callBack := by
  unfold Server.callBack
  split
  · apply staged_onClose
    exact staged_same staged rfl rfl
  · exact staged

theorem staged_start (poolCount onceListenCount : Nat) (limitMode : Bool)
    (buffer : ByteWords.Block maxMessageLen) :
    Staged poolCount (start poolCount onceListenCount limitMode buffer) := by
  refine ⟨List.nodup_range, ?_⟩
  intro p
  by_cases pooled : p < poolCount
  · refine ⟨.free, ?_, fun _ => by decide⟩
    constructor
    all_goals simp [start, pooled]
  · refine ⟨.outside, ?_, fun inside => absurd inside pooled⟩
    constructor
    all_goals simp [start, Nat.not_lt.mp pooled]

theorem staged_step (event : Event) (staged : Staged poolCount s) :
    Staged poolCount (step s event) := by
  cases event with
  | arm =>
    simp only [step, Server.arm]
    split
    · exact staged_armSessions s.sessions staged rfl
    · exact staged
  | poll =>
    simp only [step, Server.poll]
    split
    · exact staged_same staged rfl rfl
    · exact staged
  | callBack => exact staged_callBack staged
  | handleAccept p outcome => exact staged_handleAccept staged
  | begin p => exact staged_runBegin staged
  | handleReadSome p outcome => exact staged_handled staged handled_read
  | handleWrite p ok => exact staged_handled staged sent_write.1
  | close p => exact staged_handled staged sent_close.1
  | runClose p => exact staged_handled staged sent_runClose.1
  | send p fresh data => exact staged_handled staged sent_message.1
  | runPosted p => exact staged_handled staged sent_runPosted.1

/-- In every run at all no session is freed twice or while it is accepting. -/
theorem sessions_kept (poolCount onceListenCount : Nat) (limitMode : Bool)
    (buffer : ByteWords.Block maxMessageLen) (events : List Event) :
    Kept (run step (start poolCount onceListenCount limitMode buffer) events) :=
  staged_kept (run_of_every (fun _ event staged => staged_step event staged)
    (staged_start poolCount onceListenCount limitMode buffer) events)

/- What is still to come for a running session. -/

theorem awaited_same (awaited : Awaited s) (callbacks : s'.callbacks = s.callbacks)
    (polling : s'.polling = s.polling)
    (same : ∀ q, (s'.session q).father = (s.session q).father ∧
      (s'.session q).reads = (s.session q).reads) : Awaited s' := by
  intro q father
  rw [(same q).1] at father
  rw [(same q).2, callbacks, polling]
  exact awaited q father

/-- Only the session itself needs its callback, as long as it has a father. -/
theorem awaited_freed (less : ∀ q, q ≠ p → (s.session q).father = true →
    0 < (s.session q).reads ∨ q ∈ s.callbacks ∨ q ∈ s.polling) : Awaited (s.freeSession p) := by
  intro q father
  by_cases here : q = p
  · simp [here, Server.freeSession, Server.setSession, Session.reset] at father
  · have same : (s.freeSession p).session q = s.session q := by
      simp [Server.freeSession, Server.setSession, here]
    rw [same] at father ⊢
    exact less q here father

theorem awaited_armSessions (list : List SessionPtr) (awaited : Awaited s) :
    Awaited (Server.armSessions list s) := by
  induction list generalizing s with
  | nil => exact awaited
  | cons p rest ih =>
    unfold Server.armSessions
    split
    · apply ih
      refine awaited_same awaited rfl rfl ?_
      intro q
      by_cases here : q = p
      · simp [Server.setSession, here]
      · simp [Server.setSession, here]
    · exact awaited

theorem awaited_handleAccept {outcome : AcceptOutcome} (awaited : Awaited s) :
    Awaited (s.handleAccept p outcome) := by
  unfold Server.handleAccept
  split
  · have others : ∀ session q, q ≠ p →
        (({ s with acceptingCount := s.acceptingCount - 1 } : Server).setSession p
          session).session q = s.session q := by
      intro session q other
      simp [Server.setSession, other]
    cases outcome with
    | ok =>
      refine awaited_same awaited rfl rfl ?_
      intro q
      by_cases here : q = p
      · simp [Server.setSession, here]
      · simp [Server.setSession, here]
    | banned =>
      apply awaited_freed
      intro q other father
      rw [others _ q other] at father ⊢
      exact awaited q father
    | error =>
      apply awaited_freed
      intro q other father
      rw [others _ q other] at father ⊢
      exact awaited q father
  · exact awaited

theorem awaited_runBegin (awaited : Awaited s) : Awaited (s.runBegin p) := by
  unfold Server.runBegin
  split
  · exact awaited
  · intro q father
    by_cases here : q = p
    · refine .inl ?_
      simp [here, Server.setSession, Session.begin]
    · simp only [Server.setSession, ne_eq, here, not_false_eq_true, Function.update_of_ne] at father ⊢
      exact awaited q father

theorem awaited_poll (awaited : Awaited s) : Awaited s.poll := by
  unfold Server.poll
  split
  · rename_i done
    intro q father
    rcases awaited q father with reads | waiting | taken
    · exact .inl reads
    · exact .inr (.inr waiting)
    · rw [done] at taken
      cases taken
  · exact awaited

theorem awaited_callBack (awaited : Awaited s) : Awaited s.callBack := by
  unfold Server.callBack
  split
  · rename_i p rest taken
    have less : ∀ q, q ≠ p → (s.session q).father = true →
        0 < (s.session q).reads ∨ q ∈ s.callbacks ∨ q ∈ rest := by
      intro q other father
      have before := awaited q father
      rw [taken, List.mem_cons, or_iff_right other] at before
      exact before
    unfold Server.onClose
    split
    · exact awaited_freed less
    · rename_i idle
      intro q father
      apply less q _ father
      rintro rfl
      exact idle father
  · exact awaited

theorem awaited_step {event : Event} (staged : Staged poolCount s) (awaited : Awaited s)
    (reported : Reported s event) : Awaited (step s event) := by
  have sent : ∀ {s' p}, Handled s s' p ∧ Awaits s s' p → Awaited s' := by
    intro s' p both
    exact awaited_handled staged awaited both.1 both.2
  cases event with
  | arm =>
    simp only [step, Server.arm]
    split
    · exact awaited_armSessions s.sessions awaited
    · exact awaited
  | poll => exact awaited_poll awaited
  | callBack => exact awaited_callBack awaited
  | handleAccept p outcome => exact awaited_handleAccept awaited
  | begin p => exact awaited_runBegin awaited
  | handleReadSome p outcome => exact sent ⟨handled_read, awaits_read reported⟩
  | handleWrite p ok => exact sent sent_write
  | close p => exact sent sent_close
  | runClose p => exact sent sent_runClose
  | send p fresh data => exact sent sent_message
  | runPosted p => exact sent sent_runPosted

/-- In every run in which a bad length is reported by something else, every session of the pool
comes back. -/
theorem sessions_return (poolCount onceListenCount : Nat) (limitMode : Bool)
    (buffer : ByteWords.Block maxMessageLen) (events : List Event)
    (reported : EveryStep step Reported (start poolCount onceListenCount limitMode buffer)
      events) :
    EveryState step (Returned poolCount) (start poolCount onceListenCount limitMode buffer)
      events := by
  have sound : EveryState step (fun s => Staged poolCount s ∧ Awaited s)
      (start poolCount onceListenCount limitMode buffer) events := by
    apply everyState_of_everyStep _ _ reported
    · intro s event ⟨staged, awaited⟩ reported
      exact ⟨staged_step event staged, awaited_step staged awaited reported⟩
    · refine ⟨staged_start poolCount onceListenCount limitMode buffer, ?_⟩
      intro p father
      cases father
  exact everyState_imp (fun _ sound => staged_returned sound.1 sound.2) sound

/-- A client that connects and is lost. -/
def visit : List Event := [.arm, .handleAccept 0 .ok, .begin 0]

theorem sessions_return_visit :
    EveryState step (Returned 1) (start 1 40 false (ByteWords.Block.zeroed _))
      (visit ++ [.handleReadSome 0 .error, .poll, .callBack]) :=
  sessions_return 1 40 false (ByteWords.Block.zeroed _) _
    ⟨trivial, trivial, trivial, trivial, trivial, trivial, trivial⟩

/-- A client that sends a bad length and is closed and banned takes its session with it. -/
theorem bad_length_keeps_session :
    ¬ EveryState step (Returned 1) (start 1 40 false (ByteWords.Block.zeroed _))
      (visit ++ [.handleReadSome 0 .badLength, .runClose 0]) := by
  intro all
  have back := (everyState_last all).back 0 Nat.one_pos
    ⟨rfl, rfl, rfl, rfl, rfl, rfl, rfl, List.not_mem_nil, List.not_mem_nil⟩
  cases back.1

end SessionPool
