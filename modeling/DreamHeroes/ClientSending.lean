import DreamHeroes.SendQueue

/- A tcp_client over all its connections: the object and its sending side are used again after
   a connection is lost. Handlers run on the io thread, callbacks and reconnects on the main
   loop. -/
namespace ClientSending

open TcpSession MessageInterface SendQueue LabelledRuns

inductive Callback where
  | onConnect
  | onConnectFailed
  | onClose
  deriving DecidableEq, Repr

/- reads counts the async_read_some that have not completed. -/
structure Client where
  sender : Sender
  isReconnect : Bool
  isConnecting : Bool
  isInitConnected : Bool
  reads : Nat
  callbacks : List Callback

/- What handle_read_some comes to: it reads on, it calls close_and_ban, the uncompress of a
   frame fails, or the read ended with an error. -/
inductive ReadOutcome where
  | more
  | badLength
  | uncompressFailed
  | error
  deriving DecidableEq, Repr

namespace Client

def reconnect (c : Client) : Client :=
  if c.sender.connected ∨ c.isConnecting then c else { c with isConnecting := true }

/- _connect -/
def connect (c : Client) : Client := { c.reconnect with isInitConnected := true }

def handleConnect (c : Client) (ok : Bool) : Client :=
  if c.isConnecting then
    let c := { c with isConnecting := false }
    if c.sender.connected then c
    else if ok then
      { c with
        sender := { c.sender with connected := true, connection := c.sender.connection + 1 }
        callbacks := c.callbacks ++ [.onConnect] }
    else { c with callbacks := c.callbacks ++ [.onConnectFailed] }
  else c

/- on_connect begins to read; the others do nothing for a client. -/
def callBack (c : Client) : Callback → Client
  | .onConnect => { c with reads := c.reads + 1 }
  | .onConnectFailed => c
  | .onClose => c

/- late says that m_reconnect_time is over. Messages are handled as events of their own. -/
def runNoWait (c : Client) (late : Bool) : Client :=
  let c :=
    if !c.sender.connected ∧ c.isReconnect ∧ !c.isConnecting ∧ c.isInitConnected ∧ late then
      c.reconnect
    else c
  c.callbacks.foldl callBack { c with callbacks := [] }

/- _on_close empties the queue but changes neither m_is_sending_data nor m_not_sent_size. -/
def onClose (c : Client) : Client :=
  { c with
    sender := { c.sender with queue := [], connected := false }
    callbacks := c.callbacks ++ [.onClose] }

def close (c : Client) : Client :=
  { c with sender := { c.sender with closes := c.sender.closes + 1 } }

def runClose (c : Client) : Client :=
  if c.sender.closes = 0 then c
  else { c with sender := { c.sender with closes := c.sender.closes - 1, connected := false } }

def handleReadSome (c : Client) (outcome : ReadOutcome) : Client :=
  if c.reads = 0 then c
  else
    let c := { c with reads := c.reads - 1 }
    match outcome with
    | .more => { c with reads := c.reads + 1 }
    | .badLength => c.close
    | .uncompressFailed => c.close.onClose
    | .error => c.onClose

/- handle_write for the write that began first. -/
def handleWrite (c : Client) (ok : Bool) : Client :=
  match c.sender.outstanding with
  | [] => c
  | _ :: rest =>
      if ok then { c with sender := c.sender.writeDone }
      else { c with sender := { c.sender with outstanding := rest } }.onClose

end Client

inductive Event where
  | connect
  | runNoWait (late : Bool)
  | handleConnect (ok : Bool)
  | send (fresh : Fresh) (data : ByteWords.Bytes)
  | runPosted
  | handleWrite (ok : Bool)
  | handleReadSome (outcome : ReadOutcome)
  | close
  | runClose

def step (c : Client) : Event → Client
  | .connect => c.connect
  | .runNoWait late => c.runNoWait late
  | .handleConnect ok => c.handleConnect ok
  | .send fresh data => { c with sender := c.sender.sendMessage fresh data }
  | .runPosted => { c with sender := c.sender.runPosted }
  | .handleWrite ok => c.handleWrite ok
  | .handleReadSome outcome => c.handleReadSome outcome
  | .close => c.close
  | .runClose => c.runClose

def start (strategy : Option Strategy) (buffer : ByteWords.Block maxMessageLen) : Client where
  sender := { opened (.client strategy) buffer with connected := false }
  isReconnect := true
  isConnecting := false
  isInitConnected := false
  reads := 0
  callbacks := []

/-- The writes on the current connection that have not completed. -/
def writingNow (s : Sender) : List Writing :=
  s.outstanding.filter fun writing => writing.connection = s.connection

structure Sending (c : Client) : Prop where
  busy : c.sender.isSending = true → writingNow c.sender ≠ []
  counted : c.sender.notSentSize =
    c.sender.queue.flatten.length + ((writingNow c.sender).map (·.size)).sum
  resumes : c.sender.connected = true → ∀ fresh data, Admitted data →
    writingNow (c.sender.sendMessage fresh data).runPosted ≠ []

/-- No write fails, a connection is only lost while nothing is queued, and the next one is made
only when no write is left of the one before. -/
def CleanLoss (c : Client) : Event → Prop
  | .handleWrite ok => ok = true ∨ c.sender.outstanding = []
  | .handleReadSome outcome => outcome = .uncompressFailed ∨ outcome = .error →
      c.reads ≠ 0 → c.sender.queue = []
  | .handleConnect ok => ok = true → c.isConnecting = true → c.sender.connected = false →
      c.sender.outstanding = []
  | _ => True

variable {c : Client} {s : Sender} {event : Event}

/-- The invariant of the sending side in clean runs. -/
structure Coherent (s : Sender) : Prop where
  role : ∃ strategy, s.role = .client strategy
  writing : (s.isSending = false ∧ s.outstanding = []) ∨
    s.isSending = true ∧ ∃ writing, s.outstanding = [writing] ∧ writing.connection = s.connection
  counted : s.notSentSize = s.queue.flatten.length + (s.outstanding.map (·.size)).sum
  nonempty : ∀ frame ∈ s.queue, frame ≠ []

theorem writingNow_eq (coherent : Coherent s) : writingNow s = s.outstanding := by
  rcases coherent.writing with ⟨_, none⟩ | ⟨_, writing, one, here⟩
  · simp [writingNow, none]
  · simp [writingNow, one, here]

theorem coherent_busy (coherent : Coherent s) (busy : s.isSending = true) :
    s.outstanding ≠ [] := by
  rcases coherent.writing with ⟨free, _⟩ | ⟨_, writing, one, _⟩
  · rw [busy] at free
    cases free
  · simp [one]

theorem coherent_write {sentSize : Nat}
    (coherent : Coherent { s with notSentSize := s.notSentSize - sentSize }) :
    Coherent (s.writeMessage sentSize) := by
  rcases s.writeMessage_cases sentSize with ⟨same, _⟩ | ⟨connected, free, waiting, wrote⟩
  · rw [same]
    exact coherent
  · obtain ⟨taken, rest, buffer, split, data, full, result⟩ := wrote
    have none : s.outstanding = [] := by
      rcases coherent.writing with ⟨_, none⟩ | ⟨busy, _⟩
      · exact none
      · simp [free] at busy
    have counted := coherent.counted
    have nonempty := coherent.nonempty
    simp only [split, none] at counted nonempty
    rw [result]
    refine ⟨coherent.role, .inr ⟨rfl, _, by rw [none]; rfl, rfl⟩, ?_, ?_⟩
    · simp [none] at counted ⊢
      omega
    · intro frame member
      exact nonempty frame (List.mem_append_right taken member)

theorem sendFrame_client {strategy : Option Strategy} (role : s.role = .client strategy)
    (frame : ByteWords.Bytes) : s.sendFrame frame = { s with
      queue := s.queue ++ [frame]
      notSentSize := s.notSentSize + frame.length
      accepted := s.accepted ++ [frame]
      posted := s.posted + 1 } := by
  simp [Sender.sendFrame, Sender.limitReached, role]

theorem coherent_sendFrame (coherent : Coherent s) {frame : ByteWords.Bytes}
    (some : frame ≠ []) : Coherent (s.sendFrame frame) := by
  obtain ⟨strategy, role⟩ := coherent.role
  rw [sendFrame_client role]
  refine ⟨coherent.role, coherent.writing, ?_, ?_⟩
  · have counted := coherent.counted
    simp at counted ⊢
    omega
  · intro other member
    rcases List.mem_append.mp member with old | new
    · exact coherent.nonempty other old
    · rw [List.mem_singleton.mp new]
      exact some

theorem frame_ne_nil (role : Role) (fresh : Fresh) (data : ByteWords.Bytes) :
    role.frame fresh data ≠ [] := by
  have some := frame_nonempty role fresh data
  intro none
  simp [none] at some

theorem coherent_send (coherent : Coherent s) (fresh : Fresh) (data : ByteWords.Bytes) :
    Coherent (s.sendMessage fresh data) := by
  unfold Sender.sendMessage
  split
  · exact coherent_sendFrame coherent (frame_ne_nil s.role fresh data)
  · exact coherent

theorem coherent_runPosted (coherent : Coherent s) : Coherent s.runPosted := by
  unfold Sender.runPosted
  split
  · exact coherent
  · apply coherent_write
    have counted := coherent.counted
    exact ⟨coherent.role, coherent.writing, by simpa using counted, coherent.nonempty⟩

theorem coherent_writeDone (coherent : Coherent s) : Coherent s.writeDone := by
  unfold Sender.writeDone
  split
  · exact coherent
  · rename_i writing rest out
    apply coherent_write
    have counted := coherent.counted
    have last : rest = [] := by
      rcases coherent.writing with ⟨_, none⟩ | ⟨_, only, one, _⟩
      · rw [none] at out
        cases out
      · rw [one] at out
        cases out
        rfl
    refine ⟨coherent.role, .inl ⟨rfl, last⟩, ?_, coherent.nonempty⟩
    simp [out, last] at counted ⊢
    omega

/-- After a send on an open connection a write on it is under way. -/
theorem coherent_resumes (coherent : Coherent s) (connected : s.connected = true) {fresh : Fresh}
    {data : ByteWords.Bytes} (admitted : Admitted data) :
    writingNow (s.sendMessage fresh data).runPosted ≠ [] := by
  obtain ⟨strategy, role⟩ := coherent.role
  rw [writingNow_eq (coherent_runPosted (coherent_send coherent fresh data))]
  rw [Sender.sendMessage, if_pos ⟨connected, admitted⟩, sendFrame_client role]
  unfold Sender.runPosted
  rw [if_neg (Nat.succ_ne_zero s.posted)]
  rcases Sender.writeMessage_cases _ 0 with ⟨same, idle⟩ | ⟨_, _, _, _, _, _, _, _, _, result⟩
  · rw [same]
    by_cases busy : s.isSending = true
    · change s.outstanding ≠ []
      exact coherent_busy coherent busy
    · have wrong := idle connected (by simpa using busy)
      simp at wrong
  · rw [result]
    simp

theorem coherent_sending (coherent : Coherent c.sender) : Sending c where
  busy := by
    rw [writingNow_eq coherent]
    exact coherent_busy coherent
  counted := by
    rw [writingNow_eq coherent]
    exact coherent.counted
  resumes := fun connected _ _ admitted => coherent_resumes coherent connected admitted

theorem runNoWait_sender (c : Client) (late : Bool) : (c.runNoWait late).sender = c.sender := by
  have polled : ∀ (callbacks : List Callback) (c : Client),
      (callbacks.foldl Client.callBack c).sender = c.sender := by
    intro callbacks
    induction callbacks with
    | nil => exact fun _ => rfl
    | cons callback rest ih =>
      intro c
      rw [List.foldl_cons, ih]
      cases callback <;> rfl
  unfold Client.runNoWait
  rw [polled]
  simp only [Client.reconnect]
  split
  · split <;> rfl
  · rfl

theorem coherent_closed (coherent : Coherent s) (empty : s.queue = []) (closes : Nat) :
    Coherent { s with queue := [], connected := false, closes := closes } := by
  have counted := coherent.counted
  rw [empty] at counted
  exact ⟨coherent.role, coherent.writing, counted, by simp⟩

theorem coherent_handleReadSome (coherent : Coherent c.sender) (outcome : ReadOutcome)
    (clean : CleanLoss c (.handleReadSome outcome)) :
    Coherent (c.handleReadSome outcome).sender := by
  unfold Client.handleReadSome
  split
  · exact coherent
  · rename_i reading
    cases outcome with
    | more => exact coherent
    | badLength => exact ⟨coherent.role, coherent.writing, coherent.counted, coherent.nonempty⟩
    | uncompressFailed => exact coherent_closed coherent (clean (.inl rfl) reading) _
    | error => exact coherent_closed coherent (clean (.inr rfl) reading) c.sender.closes

theorem coherent_step (coherent : Coherent c.sender) (clean : CleanLoss c event) :
    Coherent (step c event).sender := by
  cases event with
  | connect =>
    simp only [step, Client.connect, Client.reconnect]
    split <;> exact coherent
  | runNoWait late =>
    rw [step, runNoWait_sender]
    exact coherent
  | handleConnect ok =>
    simp only [step, Client.handleConnect]
    split
    · rename_i connecting
      split
      · exact coherent
      · rename_i lost
        split
        · rename_i made
          have none := clean made connecting (by simpa using lost)
          have free : c.sender.isSending = false := by
            by_contra busy
            exact coherent_busy coherent (by simpa using busy) none
          exact ⟨coherent.role, .inl ⟨free, none⟩, coherent.counted, coherent.nonempty⟩
        · exact coherent
    · exact coherent
  | send fresh data => exact coherent_send coherent fresh data
  | runPosted => exact coherent_runPosted coherent
  | handleWrite ok =>
    simp only [step, Client.handleWrite]
    split
    · exact coherent
    · rename_i writing rest out
      rcases clean with done | none
      · rw [if_pos done]
        exact coherent_writeDone coherent
      · rw [none] at out
        cases out
  | handleReadSome outcome => exact coherent_handleReadSome coherent outcome clean
  | close => exact ⟨coherent.role, coherent.writing, coherent.counted, coherent.nonempty⟩
  | runClose =>
    simp only [step, Client.runClose]
    split
    · exact coherent
    · exact ⟨coherent.role, coherent.writing, coherent.counted, coherent.nonempty⟩

/-- A queue that is dropped stays in the count. -/
theorem empty_of_counted (coherent : Coherent s)
    (counted : s.notSentSize = (s.outstanding.map (·.size)).sum) : s.queue = [] := by
  rw [coherent.counted] at counted
  by_contra waiting
  obtain ⟨frame, member⟩ := List.exists_mem_of_ne_nil _ waiting
  have some := List.length_pos_iff.mpr (coherent.nonempty frame member)
  have inside := (List.sublist_flatten_of_mem member).length_le
  omega

theorem sending_cleanLoss (coherent : Coherent c.sender) (sending : Sending (step c event)) :
    CleanLoss c event := by
  cases event with
  | handleWrite ok =>
    cases ok with
    | true => exact .inl rfl
    | false =>
      refine .inr ?_
      by_contra out
      rcases coherent.writing with ⟨_, none⟩ | ⟨busy, writing, one, _⟩
      · exact out none
      · have left := sending.busy
        simp [step, Client.handleWrite, one, Client.onClose, busy, writingNow] at left
  | handleReadSome outcome =>
    intro lost reading
    have counted := sending.counted
    have now : (c.sender.outstanding.filter fun writing =>
        writing.connection = c.sender.connection) = c.sender.outstanding := writingNow_eq coherent
    apply empty_of_counted coherent
    rcases lost with rfl | rfl
    · simpa [step, Client.handleReadSome, reading, Client.close, Client.onClose, writingNow, now]
        using counted
    · simpa [step, Client.handleReadSome, reading, Client.onClose, writingNow, now] using counted
  | handleConnect ok =>
    intro made connecting lost
    by_contra out
    rcases coherent.writing with ⟨_, none⟩ | ⟨busy, writing, one, old⟩
    · exact out none
    · have left := sending.busy
      simp [step, Client.handleConnect, made, connecting, lost, busy, writingNow, one, old] at left
  | _ => trivial

/-- Exactly the runs with clean losses keep the sending side in order. -/
theorem sending_iff_cleanLoss (strategy : Option Strategy)
    (buffer : ByteWords.Block maxMessageLen) (events : List Event) :
    EveryState step Sending (start strategy buffer) events ↔
      EveryStep step CleanLoss (start strategy buffer) events := by
  apply everyState_iff_everyStep (fun c => Coherent c.sender) fun _ => True
  · intro c
    exact coherent_sending
  · intro c event _
    exact coherent_step
  · intro c event _
    exact sending_cleanLoss
  · exact ⟨⟨strategy, rfl⟩, .inl ⟨rfl, rfl⟩, rfl, by simp [start, opened]⟩
  · intro event _
    trivial

/-- The write that is under way when the connection breaks leaves the client busy for ever. -/
theorem broken_write_stays_busy :
    ¬ EveryState step Sending (start none (ByteWords.Block.zeroed _)) [.connect,
      .handleConnect true, .runNoWait false, .send (fun _ => 0) [7, 9], .runPosted,
      .handleWrite false] := by
  intro all
  have busy := (everyState_last all).busy rfl
  exact busy rfl

end ClientSending
