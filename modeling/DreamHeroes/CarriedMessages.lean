import DreamHeroes.OwnSteps
import DreamHeroes.QueuePolls
import DreamHeroes.SendQueue
import DreamHeroes.ThreadBuffers
import Mathlib.Data.List.Forall2

/- An open connection from end to end. A message goes through the send buffer of a thread, a
   frame, the send queue and the stream; the other side finds the frames in what it reads,
   pushes their payloads to its pair of queues and parses them in the polls of its main loop.
   All five programs hand NULL to init_net_service and none sets the limit mode. -/
namespace CarriedMessages

open ByteWords LabelledRuns MessageInterface OwnSteps ProtocBuffer SwapQueues TcpSession
  ThreadBuffers

variable {Descriptor Prototype Message : Type}

/- The queues of a server hold the messages of all its sessions. -/
inductive Pushed where
  | own (payload : Bytes)
  | others (connected : Bool) (payload : Bytes)

namespace Pushed

def ownPayload : Pushed → Option Bytes
  | own payload => some payload
  | others _ _ => none

theorem payload_own (items : List Pushed) (payload : Bytes) :
    (items ++ [own payload]).filterMap ownPayload = items.filterMap ownPayload ++ [payload] := by
  rw [List.filterMap_append]
  rfl

theorem payload_others (items : List Pushed) (connected : Bool) (payload : Bytes) :
    (items ++ [others connected payload]).filterMap ownPayload = items.filterMap ownPayload := by
  rw [List.filterMap_append]
  exact List.append_nil _

/-- is_valid and is_connected of the session a message came from. -/
def connected : Pushed → Bool
  | own _ => true
  | others connected _ => connected

end Pushed

/- The thread of the main loop. handled is a history value: the messages of the connection
   that the handler was called with, and their flags. -/
structure Handling (Message : Type) where
  buffers : ThreadPacketBuffer
  handled : List (Message × Nat)

/-- The calls made to the handler by one parse. -/
def calls : Option (Except ProtocBuffer.Fault (Returned Message)) → List (Message × Nat)
  | some (.ok returned) => returned.handled
  | _ => []

/- The receive buffer belongs to the thread, so the messages of other sessions use it too. -/
def procMessage (lib : Protobuf Descriptor Prototype Message) (world : Handling Message) :
    Pushed → Handling Message × List Pushed
  | .own payload =>
      let received := receive lib world.buffers payload
      (⟨received.1, world.handled ++ calls received.2⟩, [])
  | .others _ payload => (⟨(receive lib world.buffers payload).1, world.handled⟩, [])

/-- tcp_server::_real_run; the polls of a tcp_client are the same without other sessions. -/
def mainLoop (lib : Protobuf Descriptor Prototype Message) :
    QueuePolls.Owner (Handling Message) Pushed :=
  QueuePolls.realRun (fun _ pushed => pushed.connected) (fun _ pushed => pushed.connected)
    (procMessage lib)

/- buffers are those of the thread that sends. arrived counts the bytes of the stream that the
   reads have taken, and toPush holds the payloads that handle_read_some has still to push.
   sent is a history value: the messages given to sendPBMessage. -/
structure Connection (Message : Type) where
  buffers : ThreadPacketBuffer
  sender : SendQueue.Sender
  arrived : Nat
  session : TcpSession.Session
  toPush : List Bytes
  polls : QueuePolls.State (Handling Message) Pushed
  sent : List (Message × Nat)

namespace Connection

def handled (s : Connection Message) : List (Message × Nat) := s.polls.world.handled

def sendPBMessage (serializer : Serializer Message) (s : Connection Message) (fresh : Fresh)
    (msg : Message) (flag : Nat) : Connection Message :=
  let pushed := pushProtocMessage serializer s.buffers msg flag
  { s with
    buffers := pushed.1
    sender :=
      match pushed.2 with
      | .ok (some payload) => SendQueue.step s.sender (.send fresh payload)
      | _ => s.sender
    sent := s.sent ++ [(msg, flag)] }

/-- The bytes a read is given: some that were written and have not been read. -/
def incoming (s : Connection Message) (count : Nat) : Bytes :=
  (s.sender.handedOver.drop s.arrived).take (min count maxMessageLen)

/- The next read is posted behind the last push of the one before. -/
def read (s : Connection Message) (count : Nat) : Connection Message :=
  if s.session.reading = .armed ∧ s.toPush = [] ∧ s.incoming count ≠ [] then
    match handleReadSome none s.session (s.incoming count) with
    | .ok next =>
        { s with
          arrived := s.arrived + (s.incoming count).length
          session := next
          toPush := next.pushed.drop s.session.pushed.length }
    | .error _ => s
  else s

/-- push_message, under m_msg_mutex. -/
def push (s : Connection Message) : Connection Message :=
  match s.toPush with
  | [] => s
  | payload :: rest =>
      { s with
        toPush := rest
        polls := { s.polls with queues := s.polls.queues.push (.own payload) } }

end Connection

/- sendElsewhere is a message that the sending thread sends on another connection, and
   pushElsewhere a push of another session of the receiving server. -/
inductive Event (Message : Type) where
  | send (fresh : Fresh) (msg : Message) (flag : Nat)
  | sendElsewhere (msg : Message) (flag : Nat)
  | runPosted
  | writeDone
  | read (count : Nat)
  | push
  | pushElsewhere (connected : Bool) (payload : Bytes)
  | consume (event : QueuePolls.Event (Handling Message) Pushed)

variable (serializer : Serializer Message) (lib : Protobuf Descriptor Prototype Message)

def step (s : Connection Message) : Event Message → Connection Message
  | .send fresh msg flag => s.sendPBMessage serializer fresh msg flag
  | .sendElsewhere msg flag =>
      { s with buffers := s.buffers.use serializer lib (.push msg flag) }
  | .runPosted => { s with sender := SendQueue.step s.sender .runPosted }
  | .writeDone => { s with sender := SendQueue.step s.sender .writeDone }
  | .read count => s.read count
  | .push => s.push
  | .pushElsewhere connected payload =>
      { s with polls :=
          { s.polls with queues := s.polls.queues.push (.others connected payload) } }
  | .consume event =>
      if event.isConsumers then { s with polls := QueuePolls.step (mainLoop lib) s.polls event }
      else s

/-- What the connection does by itself, when nobody sends. -/
def Own : Event Message → Prop
  | .send _ _ _ => False
  | .sendElsewhere _ _ => False
  | .pushElsewhere _ _ => False
  | _ => True

/-- A message that a connection can carry: the library knows it, and its frame fits. -/
structure Fits (item : Message × Nat) : Prop where
  registered : Registered serializer lib item.1
  word : item.2 < 2 ^ 32
  small : (envelope serializer item.1 item.2).length + messageHeadLen ≤ maxMessageLen

def Allowed : Event Message → Prop
  | .send _ msg flag => Fits serializer lib (msg, flag)
  | .sendElsewhere msg flag => Modest serializer (.push msg flag)
  | _ => True

/- A side that accepted the connection, and a client. -/
def role (accepted : Bool) : SendQueue.Role :=
  if accepted then .accepted false else .client none

/-- A connection that has just been opened; the buffers may hold bytes of an earlier one. -/
def opened (accepted : Bool) (sendingData : Block maxMessageLen)
    (recvBuffer : Block (2 * maxMessageLen)) : Connection Message where
  buffers := .new
  sender := SendQueue.opened (role accepted) sendingData
  arrived := 0
  session := handleAccept recvBuffer
  toPush := []
  polls := QueuePolls.start ⟨.new, []⟩
  sent := []

/-- Nothing is left on the way. -/
structure AtRest (s : Connection Message) : Prop where
  packed : s.sender.queue = []
  arrived : s.arrived = s.sender.handedOver.length
  pushed : s.toPush = []
  polled : s.polls.queues.waiting = []

/-- The handler has been called with the first of the messages that were sent, in the order
they were sent in; with all of them, when nothing is left on the way; and that comes about
without another event from outside. -/
structure Carried (s : Connection Message) : Prop where
  order : s.handled <+: s.sent
  settled : AtRest s → s.handled = s.sent
  ends : ∃ events, (∀ event ∈ events, Own event) ∧
    (run (step serializer lib) s events).handled = s.sent

/- The frames of the messages that were sent, in a stream. -/

variable {serializer lib} {s : Connection Message} {front back : Bytes}

def Framed (serializer : Serializer Message) (frame : Bytes) (item : Message × Nat) : Prop :=
  ∃ fresh, frame = makeMessage fresh (envelope serializer item.1 item.2) false

def enveloped (serializer : Serializer Message) (items : List (Message × Nat)) : List Bytes :=
  items.map fun item => envelope serializer item.1 item.2

theorem envelope_long (serializer : Serializer Message) (msg : Message) (flag : Nat) :
    2 ≤ (envelope serializer msg flag).length := by
  have length := envelope_length serializer msg flag
  simp only [pbFlagTypeSize, pbNameTypeSize] at length
  omega

theorem parse_framed {frame : Bytes} {item : Message × Nat} (fits : Fits serializer lib item)
    (framed : Framed serializer frame item) (rest : Bytes) :
    parse none (frame ++ rest) =
      ⟨envelope serializer item.1 item.2 :: (parse none rest).delivered,
        (parse none rest).verdict⟩ := by
  obtain ⟨fresh, same⟩ := framed
  have long := envelope_long serializer item.1 item.2
  have good := makeMessage_good fresh false long fits.small
  have header := makeMessage_header fresh false long fits.small
  have size := makeMessage_length fresh (envelope serializer item.1 item.2) false
  have unpacked := uncompress_makeMessage none fresh false long fits.small
  rw [uncompress_frame good (by omega)] at unpacked
  simp only [Except.ok.injEq] at unpacked
  have whole : word32 (makeMessage fresh (envelope serializer item.1 item.2) false) =
      (makeMessage fresh (envelope serializer item.1 item.2) false).length := by omega
  rw [same, parse_frame_append good (by omega), unpacked, whole, List.drop_length,
    List.nil_append]

/-- The reference parser finds in the frames what was sent, and waits for more. -/
theorem parse_frames {frames : List Bytes} {items : List (Message × Nat)}
    (fit : ∀ item ∈ items, Fits serializer lib item)
    (framed : List.Forall₂ (Framed serializer) frames items) :
    parse none frames.flatten = ⟨enveloped serializer items, .waiting []⟩ := by
  induction framed with
  | nil => exact parse_short (by decide)
  | @cons frame item frames items first rest ih =>
    have later := ih fun other member => fit other (List.mem_cons_of_mem item member)
    rw [List.flatten_cons, parse_framed (fit item List.mem_cons_self) first, later]
    rfl

/-- What a part of a stream delivers is the beginning of what the whole delivers. -/
theorem parse_delivered (front back : Bytes) :
    (parse none front).delivered <+: (parse none (front ++ back)).delivered := by
  rw [parse_append]
  cases (parse none front).verdict with
  | waiting left => exact List.prefix_append _ _
  | badLength => exact List.prefix_refl _
  | uncompressFailed => exact List.prefix_refl _

/-- If the whole waits for more, so does its beginning. -/
theorem parse_waits {tail : Bytes} (good : (parse none (front ++ back)).verdict = .waiting tail) :
    ∃ left, (parse none front).verdict = .waiting left := by
  rw [parse_append] at good
  cases verdict : (parse none front).verdict with
  | waiting left => exact ⟨left, rfl⟩
  | badLength => simp [verdict] at good
  | uncompressFailed => simp [verdict] at good

/-- What holds between any two steps. -/
structure Flows (serializer : Serializer Message) (lib : Protobuf Descriptor Prototype Message)
    (s : Connection Message) : Prop where
  steady : SendQueue.Steady s.sender
  plain : ∀ fresh data, s.sender.role.frame fresh data = makeMessage fresh data false
  grown : Grown s.buffers
  fit : ∀ item ∈ s.sent, Fits serializer lib item
  framed : List.Forall₂ (Framed serializer) s.sender.accepted s.sent
  inside : s.arrived ≤ s.sender.handedOver.length
  seen : s.session.observed = parse none (s.sender.handedOver.take s.arrived)
  passed : s.session.pushed = s.polls.queues.pushed.filterMap Pushed.ownPayload ++ s.toPush
  accounted : Accounted s.polls.queues
  nothingOwn : s.polls.own = []
  parsed : s.polls.queues.taken.filterMap Pushed.ownPayload = enveloped serializer s.handled
  order : s.handled <+: s.sent

theorem plain_role (accepted : Bool) (fresh : Fresh) (data : Bytes) :
    (role accepted).frame fresh data = makeMessage fresh data false := by
  cases accepted with
  | true => rfl
  | false => rfl

theorem flows_opened (accepted : Bool) (sendingData : Block maxMessageLen)
    (recvBuffer : Block (2 * maxMessageLen)) :
    Flows serializer lib (opened accepted sendingData recvBuffer) where
  steady := SendQueue.steady_opened (role accepted) sendingData
  plain := plain_role accepted
  grown := .inl rfl
  fit := by
    intro item member
    cases member
  framed := .nil
  inside := Nat.le_refl 0
  seen := handleAccept_observed recvBuffer
  passed := rfl
  accounted := accounted_empty
  nothingOwn := rfl
  parsed := rfl
  order := List.prefix_refl []

/-- The stream that the sender will have handed over is the frames of what was sent. -/
theorem parse_stream (flows : Flows serializer lib s) :
    parse none (s.sender.handedOver ++ s.sender.queue.flatten) =
      ⟨enveloped serializer s.sent, .waiting []⟩ := by
  rw [flows.steady.complete]
  exact parse_frames flows.fit flows.framed

/-- The reads so far found the first of the messages that were sent, and the reading goes on. -/
theorem read_ahead (flows : Flows serializer lib s) :
    s.session.reading = .armed ∧ s.session.pushed <+: enveloped serializer s.sent := by
  have stream := parse_stream flows
  have split : s.sender.handedOver ++ s.sender.queue.flatten =
      s.sender.handedOver.take s.arrived ++
        (s.sender.handedOver.drop s.arrived ++ s.sender.queue.flatten) := by
    rw [← List.append_assoc, List.take_append_drop]
  rw [split] at stream
  obtain ⟨left, verdict⟩ := parse_waits (congrArg Parsed.verdict stream)
  have delivered := parse_delivered (s.sender.handedOver.take s.arrived)
    (s.sender.handedOver.drop s.arrived ++ s.sender.queue.flatten)
  rw [stream, ← flows.seen] at delivered
  rw [← flows.seen] at verdict
  refine ⟨?_, delivered⟩
  cases reading : s.session.reading with
  | armed => rfl
  | bannedHackPacket => simp [Session.observed, reading, Reading.verdict] at verdict
  | bannedWrongCheckSum => simp [Session.observed, reading, Reading.verdict] at verdict

/- The sending side. -/

/-- A write that is begun hands over what waits in the queue; nothing else changes. -/
theorem writeMessage_kept (sender : SendQueue.Sender) (size : Nat) :
    (sender.writeMessage size).role = sender.role ∧
      (sender.writeMessage size).accepted = sender.accepted ∧
      sender.handedOver <+: (sender.writeMessage size).handedOver := by
  rcases sender.writeMessage_cases size with ⟨same, _⟩ | ⟨_, _, _, taken, rest, buffer, wrote⟩
  · rw [same]
    exact ⟨rfl, rfl, List.prefix_refl _⟩
  · rw [wrote.2.2.2]
    exact ⟨rfl, rfl, List.prefix_append _ _⟩

theorem runPosted_kept (sender : SendQueue.Sender) :
    (SendQueue.step sender .runPosted).role = sender.role ∧
      (SendQueue.step sender .runPosted).accepted = sender.accepted ∧
      sender.handedOver <+: (SendQueue.step sender .runPosted).handedOver := by
  simp only [SendQueue.step, SendQueue.Sender.runPosted]
  split
  · exact ⟨rfl, rfl, List.prefix_refl _⟩
  · exact writeMessage_kept { sender with posted := sender.posted - 1 } 0

theorem writeDone_kept (sender : SendQueue.Sender) :
    (SendQueue.step sender .writeDone).role = sender.role ∧
      (SendQueue.step sender .writeDone).accepted = sender.accepted ∧
      sender.handedOver <+: (SendQueue.step sender .writeDone).handedOver := by
  simp only [SendQueue.step, SendQueue.Sender.writeDone]
  split
  · exact ⟨rfl, rfl, List.prefix_refl _⟩
  · rename_i writing rest _
    exact writeMessage_kept { sender with outstanding := rest, isSending := false } writing.size

/-- A change of the sender that only hands over more keeps all. -/
theorem flows_written {sender : SendQueue.Sender} (flows : Flows serializer lib s)
    (steady : SendQueue.Steady sender)
    (kept : sender.role = s.sender.role ∧ sender.accepted = s.sender.accepted ∧
      s.sender.handedOver <+: sender.handedOver) :
    Flows serializer lib { s with sender := sender } := by
  obtain ⟨sameRole, sameAccepted, more⟩ := kept
  obtain ⟨added, longer⟩ := more
  have inside := flows.inside
  have unread : sender.handedOver.take s.arrived = s.sender.handedOver.take s.arrived := by
    rw [← longer, List.take_append_of_le_length inside]
  exact { flows with
    steady := steady
    plain := sameRole ▸ flows.plain
    framed := sameAccepted ▸ flows.framed
    inside := by
      change s.arrived ≤ sender.handedOver.length
      rw [← longer, List.length_append]
      omega
    seen := unread ▸ flows.seen }

/-- A message that fits is put into a frame, and the frame into the queue. -/
theorem sendPBMessage_queued (flows : Flows serializer lib s) (fresh : Fresh) {msg : Message}
    {flag : Nat} (fits : Fits serializer lib (msg, flag)) :
    (pushProtocMessage serializer s.buffers msg flag).2 =
        .ok (some (envelope serializer msg flag)) ∧
      SendQueue.step s.sender (.send fresh (envelope serializer msg flag)) =
        s.sender.sendFrame (makeMessage fresh (envelope serializer msg flag) false) := by
  have long := envelope_long serializer msg flag
  have length := envelope_length serializer msg flag
  have small := fits.small
  simp only [messageHeadLen, maxMessageLen, pbFlagTypeSize, pbNameTypeSize] at small length
  have less : (envelope serializer msg flag).length < bufferDefaultLength := by
    rw [bufferDefaultLength]
    omega
  constructor
  · apply (push_sent_iff serializer s.buffers msg flag _).mpr
    refine ⟨(room_iff less s.buffers.send).mpr ?_, rfl⟩
    apply roomy_grown flows.grown _ less
    rw [pbFlagTypeSize]
    omega
  · have admitted : Admitted (envelope serializer msg flag) := by
      rw [Admitted, maxMessageLen]
      omega
    rw [SendQueue.step, SendQueue.Sender.sendMessage, if_pos ⟨flows.steady.connected, admitted⟩,
      flows.plain]

theorem sendFrame_kept (sender : SendQueue.Sender) (frame : Bytes) :
    (sender.sendFrame frame).role = sender.role ∧
      (sender.sendFrame frame).accepted = sender.accepted ++ [frame] ∧
      (sender.sendFrame frame).handedOver = sender.handedOver := by
  unfold SendQueue.Sender.sendFrame
  simp only
  split
  · exact ⟨rfl, rfl, rfl⟩
  · exact ⟨rfl, rfl, rfl⟩

theorem flows_send (flows : Flows serializer lib s) (fresh : Fresh) {msg : Message} {flag : Nat}
    (fits : Fits serializer lib (msg, flag)) :
    Flows serializer lib (s.sendPBMessage serializer fresh msg flag) := by
  obtain ⟨pushed, queued⟩ := sendPBMessage_queued flows fresh fits
  have long := envelope_long serializer msg flag
  have small : (envelope serializer msg flag).length + messageHeadLen ≤ maxMessageLen := fits.small
  have size := makeMessage_length fresh (envelope serializer msg flag) false
  obtain ⟨sameRole, accepted, handedOver⟩ :=
    sendFrame_kept s.sender (makeMessage fresh (envelope serializer msg flag) false)
  have after : s.sendPBMessage serializer fresh msg flag =
      { s with
        buffers := s.buffers.use serializer lib (.push msg flag)
        sender := s.sender.sendFrame (makeMessage fresh (envelope serializer msg flag) false)
        sent := s.sent ++ [(msg, flag)] } := by
    simp only [Connection.sendPBMessage, pushed, queued]
    rfl
  have modest : Modest serializer (.push msg flag) := by
    have length := envelope_length serializer msg flag
    simp only [messageHeadLen, maxMessageLen, pbFlagTypeSize, pbNameTypeSize] at small length
    simp only [Modest, Use.asks, maxLen, pbNameTypeSize]
    omega
  rw [after]
  exact { flows with
    steady := SendQueue.steady_send flows.steady (by omega)
    plain := sameRole ▸ flows.plain
    grown := grown_use flows.grown modest
    fit := by
      intro item member
      rcases List.mem_append.mp member with old | new
      · exact flows.fit item old
      · rw [List.mem_singleton.mp new]
        exact fits
    framed := by
      rw [accepted]
      exact List.rel_append flows.framed (.cons ⟨fresh, rfl⟩ .nil)
    inside := by
      rw [handedOver]
      exact flows.inside
    seen := by
      rw [handedOver]
      exact flows.seen
    order := flows.order.trans (List.prefix_append _ _) }

/- The receiving side. -/

/-- A read that is made takes some bytes of the stream and finds what the parser finds. -/
theorem read_some (flows : Flows serializer lib s) {count : Nat} (idle : s.toPush = [])
    (some : s.incoming count ≠ []) :
    ∃ next, s.read count =
        { s with
          arrived := s.arrived + (s.incoming count).length
          session := next
          toPush := next.pushed.drop s.session.pushed.length } ∧
      next.observed = parse none (s.sender.handedOver.take s.arrived ++ s.incoming count) := by
  have armed := (read_ahead flows).1
  have sized : ∀ buffer ∈ [s.incoming count], buffer.length ≤ maxMessageLen := by
    intro buffer member
    rw [List.mem_singleton.mp member, Connection.incoming, List.length_take]
    omega
  obtain ⟨next, read, seen⟩ := handleReads_eq_parse none sized flows.seen
  refine ⟨next, ?_, by simpa using seen⟩
  simp only [handleReads, if_pos armed] at read
  cases result : handleReadSome none s.session (s.incoming count) with
  | error fault => simp [result] at read
  | ok session =>
    simp only [result, Except.ok.injEq] at read
    rw [Connection.read, if_pos ⟨armed, idle, some⟩, result, read]

theorem incoming_take (s : Connection Message) (count : Nat) :
    s.sender.handedOver.take s.arrived ++ s.incoming count =
      s.sender.handedOver.take (s.arrived + (s.incoming count).length) := by
  rw [Connection.incoming, List.take_add, List.length_take, ← List.take_eq_take_min]

theorem flows_read (flows : Flows serializer lib s) (count : Nat) :
    Flows serializer lib (s.read count) := by
  by_cases made : s.toPush = [] ∧ s.incoming count ≠ []
  · obtain ⟨next, result, seen⟩ := read_some flows made.1 made.2
    have inside : s.arrived + (s.incoming count).length ≤ s.sender.handedOver.length := by
      have inside := flows.inside
      rw [Connection.incoming, List.length_take, List.length_drop]
      omega
    have longer : s.session.pushed <+: next.pushed := by
      have before : s.session.pushed = _ := congrArg Parsed.delivered flows.seen
      have after : next.pushed = _ := congrArg Parsed.delivered seen
      rw [before, after]
      exact parse_delivered _ _
    rw [result]
    exact { flows with
      inside := inside
      seen := by
        rw [seen, incoming_take]
      passed := by
        have before := flows.passed
        rw [made.1, List.append_nil] at before
        change next.pushed = _ ++ next.pushed.drop s.session.pushed.length
        rw [← before]
        exact (List.prefix_iff_eq_append.mp longer).symm }
  · have same : s.read count = s := by
      rw [Connection.read, if_neg]
      intro all
      exact made all.2
    rw [same]
    exact flows

theorem flows_push (flows : Flows serializer lib s) : Flows serializer lib s.push := by
  unfold Connection.push
  split
  · exact flows
  · rename_i payload rest waiting
    have passed := flows.passed
    rw [waiting] at passed
    exact { flows with
      passed := by
        simp only [passed, Queues.push, Pushed.payload_own, List.append_assoc,
          List.singleton_append]
      accounted := accounted_push flows.accounted _ }

theorem flows_pushElsewhere (flows : Flows serializer lib s) (connected : Bool)
    (payload : Bytes) :
    Flows serializer lib (step serializer lib s (.pushElsewhere connected payload)) :=
  { flows with
    passed := by
      rw [step]
      simp only [Queues.push, Pushed.payload_others]
      exact flows.passed
    accounted := accounted_push flows.accounted _ }

/- The polls. -/

theorem poll_kept (q : Queues Pushed) :
    q.poll.pushed = q.pushed ∧ q.poll.taken = q.taken := by
  unfold Queues.poll
  split
  · split
    · exact ⟨rfl, rfl⟩
    · exact ⟨rfl, rfl⟩
  · exact ⟨rfl, rfl⟩

theorem pop_kept (q : Queues Pushed) : q.pop.pushed = q.pushed ∧ q.pop.taken = q.taken := by
  unfold Queues.pop
  split
  · exact ⟨rfl, rfl⟩
  · exact ⟨rfl, rfl⟩

theorem handle_own (world : Handling Message) (item : Pushed) :
    ((mainLoop lib).handle world item).2 = [] := by
  simp only [mainLoop, QueuePolls.realRun]
  cases item with
  | own payload => rfl
  | others connected payload =>
    cases connected with
    | true => rfl
    | false => rfl

variable {polls : QueuePolls.State (Handling Message) Pushed}

/-- The consumer gets hold of one more item and handles it, or takes nothing. -/
def Consumes (lib : Protobuf Descriptor Prototype Message)
    (before after : QueuePolls.State (Handling Message) Pushed) : Prop :=
  after.own = [] ∧ after.queues.pushed = before.queues.pushed ∧
    ((after.queues.taken = before.queues.taken ∧ after.world = before.world) ∨
      ∃ item, after.queues.taken = before.queues.taken ++ [item] ∧
        after.world = ((mainLoop lib).handle before.world item).1)

theorem take_consumes (none : polls.own = []) :
    Consumes lib polls (polls.take (mainLoop lib)) := by
  rcases take_cases polls.queues with ⟨proc, draining, _, took⟩ |
    ⟨proc, item, rest, draining, _, took⟩ | ⟨other, same⟩
  · simp [Consumes, QueuePolls.State.take, draining, took, none]
  · simp [Consumes, QueuePolls.State.take, draining, took, handle_own]
  · have nothing : polls.take (mainLoop lib) = { polls with queues := polls.queues.take } := by
      unfold QueuePolls.State.take
      split
      · rename_i drained _
        exact absurd drained (other _)
      · rfl
    rw [nothing, same]
    exact ⟨none, rfl, .inl ⟨rfl, rfl⟩⟩

theorem consumer_consumes {event : QueuePolls.Event (Handling Message) Pushed}
    (consumers : event.isConsumers = true) (none : polls.own = []) :
    Consumes lib polls (QueuePolls.step (mainLoop lib) polls event) := by
  cases event with
  | push item => cases consumers
  | other change => cases consumers
  | poll =>
    obtain ⟨pushed, taken⟩ := poll_kept polls.queues
    exact ⟨none, pushed, .inl ⟨taken, rfl⟩⟩
  | take => exact take_consumes none
  | pushOwn =>
    have same : QueuePolls.step (mainLoop lib) polls .pushOwn = polls := by
      simp [QueuePolls.step, QueuePolls.State.pushOwn, none]
    rw [same]
    exact ⟨none, rfl, .inl ⟨rfl, rfl⟩⟩
  | pop =>
    have popped : QueuePolls.step (mainLoop lib) polls .pop =
        { polls with queues := polls.queues.pop } := by
      simp [QueuePolls.step, QueuePolls.State.pop, none]
    obtain ⟨pushed, taken⟩ := pop_kept polls.queues
    rw [popped]
    exact ⟨none, pushed, .inl ⟨taken, rfl⟩⟩

theorem next_item {items all : List (Message × Nat)} {payload : Bytes} (order : items <+: all)
    (more : enveloped serializer items ++ [payload] <+: enveloped serializer all) :
    ∃ item, items ++ [item] <+: all ∧ payload = envelope serializer item.1 item.2 := by
  obtain ⟨later, whole⟩ := order
  rw [← whole, enveloped, enveloped, List.map_append] at more
  have next := (List.prefix_append_right_inj _).mp more
  cases later with
  | nil => simp at next
  | cons item rest =>
    rw [List.map_cons, List.cons_prefix_cons] at next
    exact ⟨item, ⟨rest, by rw [← whole]; simp⟩, next.1⟩

/-- The message that a poll takes is the first that was not handled, and now it is. -/
theorem handle_next (flows : Flows serializer lib s) {payload : Bytes}
    (more : enveloped serializer s.handled ++ [payload] <+: enveloped serializer s.sent) :
    ∃ item, s.handled ++ [item] <+: s.sent ∧ payload = envelope serializer item.1 item.2 ∧
      ((mainLoop lib).handle s.polls.world (.own payload)).1.handled = s.handled ++ [item] := by
  obtain ⟨item, first, same⟩ := next_item flows.order more
  have fits := flows.fit item (first.subset (by simp))
  have small := fits.small
  have less : (envelope serializer item.1 item.2).length < bufferDefaultLength := by
    simp only [messageHeadLen, maxMessageLen] at small
    rw [bufferDefaultLength]
    omega
  refine ⟨item, first, same, ?_⟩
  rw [same]
  change s.handled ++ calls (receive lib s.polls.world.buffers _).2 = _
  rw [receive_envelope fits.registered fits.word less]
  rfl

/-- The handled messages account for what was taken, also behind the next item. -/
theorem taken_accounted (flows : Flows serializer lib s) {item : Pushed}
    (early : s.polls.queues.taken ++ [item] <+: s.polls.queues.pushed) :
    let handled := ((mainLoop lib).handle s.polls.world item).1.handled
    (s.polls.queues.taken ++ [item]).filterMap Pushed.ownPayload = enveloped serializer handled ∧
      handled <+: s.sent := by
  have listed : (s.polls.queues.taken ++ [item]).filterMap Pushed.ownPayload <+:
      enveloped serializer s.sent := by
    apply (early.filterMap Pushed.ownPayload).trans
    apply List.IsPrefix.trans _ (read_ahead flows).2
    rw [flows.passed]
    exact List.prefix_append _ _
  cases item with
  | own payload =>
    rw [Pushed.payload_own, flows.parsed] at listed ⊢
    obtain ⟨item, order, same, handled⟩ := handle_next flows listed
    rw [handled, same]
    exact ⟨by simp [enveloped], order⟩
  | others connected payload =>
    have handled : ((mainLoop lib).handle s.polls.world (.others connected payload)).1.handled =
        s.handled := by
      cases connected with
      | true => rfl
      | false => rfl
    rw [Pushed.payload_others, flows.parsed, handled]
    exact ⟨rfl, flows.order⟩

theorem flows_consume (flows : Flows serializer lib s)
    (event : QueuePolls.Event (Handling Message) Pushed) :
    Flows serializer lib (step serializer lib s (.consume event)) := by
  by_cases consumers : event.isConsumers = true
  · have after : step serializer lib s (.consume event) =
        { s with polls := QueuePolls.step (mainLoop lib) s.polls event } := if_pos consumers
    obtain ⟨none, pushed, kept⟩ := @consumer_consumes _ _ _ lib _ _ consumers flows.nothingOwn
    have accounted := @QueuePolls.accounted_step _ _ (mainLoop lib) _ event flows.accounted
    have handled : (QueuePolls.step (mainLoop lib) s.polls event).queues.taken.filterMap
          Pushed.ownPayload =
        enveloped serializer (QueuePolls.step (mainLoop lib) s.polls event).world.handled ∧
        (QueuePolls.step (mainLoop lib) s.polls event).world.handled <+: s.sent := by
      rcases kept with ⟨taken, world⟩ | ⟨item, taken, world⟩
      · rw [taken, world]
        exact ⟨flows.parsed, flows.order⟩
      · rw [taken, world]
        apply taken_accounted flows
        rw [← pushed, ← taken]
        exact ⟨_, accounted.order.symm⟩
    rw [after]
    exact { flows with
      passed := by
        rw [pushed]
        exact flows.passed
      accounted := accounted
      nothingOwn := none
      parsed := handled.1
      order := handled.2 }
  · have same : step serializer lib s (.consume event) = s := if_neg consumers
    rw [same]
    exact flows

theorem flows_step {event : Event Message} (flows : Flows serializer lib s)
    (allowed : Allowed serializer lib event) : Flows serializer lib (step serializer lib s event) := by
  cases event with
  | send fresh msg flag => exact flows_send flows fresh allowed
  | sendElsewhere msg flag => exact { flows with grown := grown_use flows.grown allowed }
  | runPosted =>
    exact flows_written flows (SendQueue.steady_step flows.steady trivial)
      (runPosted_kept s.sender)
  | writeDone =>
    exact flows_written flows (SendQueue.steady_step flows.steady trivial)
      (writeDone_kept s.sender)
  | read count => exact flows_read flows count
  | push => exact flows_push flows
  | pushElsewhere connected payload => exact flows_pushElsewhere flows connected payload
  | consume event => exact flows_consume flows event

/- Where the connection comes to by itself. -/

theorem handled_at_rest (flows : Flows serializer lib s) (rest : AtRest s) :
    s.handled = s.sent := by
  have stream := parse_stream flows
  rw [rest.packed, List.flatten_nil, List.append_nil] at stream
  have seen := congrArg Parsed.delivered flows.seen
  rw [rest.arrived, List.take_length, stream] at seen
  have passed := flows.passed
  rw [rest.pushed, List.append_nil] at passed
  have order := flows.accounted.order
  rw [rest.polled, List.append_nil] at order
  have all : enveloped serializer s.handled = enveloped serializer s.sent := by
    rw [← flows.parsed, ← order, ← passed]
    exact seen
  have size := congrArg List.length all
  simp only [enveloped, List.length_map] at size
  exact flows.order.eq_of_length size

theorem sent_own {event : Event Message} (mine : Own event) :
    (step serializer lib s event).sent = s.sent := by
  cases event with
  | send fresh msg flag => cases mine
  | sendElsewhere msg flag => cases mine
  | runPosted => rfl
  | writeDone => rfl
  | read count =>
    simp only [step, Connection.read]
    split
    · split
      · rfl
      · rfl
    · rfl
  | push =>
    simp only [step, Connection.push]
    split
    · rfl
    · rfl
  | pushElsewhere connected payload => cases mine
  | consume event =>
    simp only [step]
    split
    · rfl
    · rfl

/-- What holds while nobody sends. -/
def Goes (serializer : Serializer Message) (lib : Protobuf Descriptor Prototype Message)
    (sent : List (Message × Nat)) (s : Connection Message) : Prop :=
  Flows serializer lib s ∧ s.sent = sent

variable {sent : List (Message × Nat)}

theorem goes_step (event : Event Message) (mine : Own event) (goes : Goes serializer lib sent s) :
    Goes serializer lib sent (step serializer lib s event) := by
  have allowed : Allowed serializer lib event := by
    cases event with
    | send fresh msg flag => cases mine
    | sendElsewhere msg flag => cases mine
    | _ => trivial
  exact ⟨flows_step goes.1 allowed, (sent_own mine).trans goes.2⟩

/-- While frames wait, a write ends and the next begins, or the write that was posted does. -/
theorem writes_some {sender : SendQueue.Sender} (steady : SendQueue.Steady sender)
    (waiting : sender.queue ≠ []) :
    ∃ event, (event = .runPosted ∨ event = .writeDone) ∧
      (SendQueue.step sender event).queue.length < sender.queue.length := by
  have packs : ∀ free : SendQueue.Sender, free.connected = true → free.isSending = false →
      free.queue = sender.queue → ∀ size,
      (free.writeMessage size).queue.length < sender.queue.length := by
    intro free connected idle same size
    rcases free.writeMessage_cases size with ⟨_, stuck⟩ |
      ⟨_, _, _, taken, rest, buffer, split, _, full, wrote⟩
    · exact absurd (same ▸ stuck connected idle) waiting
    · rw [wrote, ← same, split]
      have fits := steady.fits
      rw [← same, split] at fits waiting
      have some := SendQueue.taken_some fits waiting full
      cases taken with
      | nil => simp at some
      | cons frame taken =>
        simp only [List.cons_append, List.length_cons, List.length_append]
        omega
  rcases steady.writing with ⟨idle, none⟩ | ⟨busy, writing, one, _⟩
  · have posted : sender.posted ≠ 0 := by
      intro nothing
      have busy := steady.pending waiting nothing
      rw [idle] at busy
      cases busy
    refine ⟨.runPosted, .inl rfl, ?_⟩
    rw [SendQueue.step, SendQueue.Sender.runPosted, if_neg posted]
    exact packs { sender with posted := sender.posted - 1 } steady.connected idle rfl 0
  · refine ⟨.writeDone, .inr rfl, ?_⟩
    rw [SendQueue.step, SendQueue.Sender.writeDone, one]
    exact packs { sender with outstanding := [], isSending := false } steady.connected rfl rfl
      writing.size

/-- All frames are handed over. -/
theorem packs_all (goes : Goes serializer lib sent s) :
    ∃ s', Leads (step serializer lib) Own s s' ∧ Goes serializer lib sent s' ∧
      s'.sender.queue = [] := by
  apply leads_until (Goes serializer lib sent) (fun s => s.sender.queue = [])
    (fun s => s.sender.queue.length) _ goes
  intro s goes waiting
  obtain ⟨event, kind, less⟩ := writes_some goes.1.steady waiting
  rcases kind with same | same
  · rw [same] at less
    exact ⟨_, leads_step Event.runPosted trivial, goes_step Event.runPosted trivial goes, less⟩
  · rw [same] at less
    exact ⟨_, leads_step Event.writeDone trivial, goes_step Event.writeDone trivial goes, less⟩

/-- A push leaves the sender and the reads alone. -/
theorem push_kept (s : Connection Message) :
    s.push.sender = s.sender ∧ s.push.arrived = s.arrived ∧ s.push.toPush = s.toPush.tail := by
  unfold Connection.push
  split
  · rename_i none
    rw [none]
    exact ⟨rfl, rfl, rfl⟩
  · rename_i payload rest some
    rw [some]
    exact ⟨rfl, rfl, rfl⟩

/-- All that the reads found is pushed. -/
theorem pushes_all (goes : Goes serializer lib sent s) :
    ∃ s', Leads (step serializer lib) Own s s' ∧
      (Goes serializer lib sent s' ∧ s'.sender = s.sender ∧ s'.arrived = s.arrived) ∧
      s'.toPush = [] := by
  apply leads_until
    (fun now => Goes serializer lib sent now ∧ now.sender = s.sender ∧ now.arrived = s.arrived)
    (fun now => now.toPush = []) (fun now => now.toPush.length) _ ⟨goes, rfl, rfl⟩
  intro now kept waiting
  obtain ⟨goes, sender, arrived⟩ := kept
  obtain ⟨sameSender, sameArrived, tail⟩ := push_kept now
  refine ⟨_, leads_step Event.push trivial, ⟨goes_step Event.push trivial goes, ?_, ?_⟩, ?_⟩
  · exact sameSender.trans sender
  · exact sameArrived.trans arrived
  · have some := List.length_pos_iff.mpr waiting
    change now.push.toPush.length < _
    rw [tail, List.length_tail]
    omega

/-- A read takes some of the bytes that are left. -/
theorem read_more (flows : Flows serializer lib s) (idle : s.toPush = [])
    (left : s.arrived < s.sender.handedOver.length) :
    (s.read maxMessageLen).sender = s.sender ∧ s.arrived < (s.read maxMessageLen).arrived := by
  have size : 0 < (s.incoming maxMessageLen).length := by
    rw [Connection.incoming, List.length_take, List.length_drop, maxMessageLen]
    omega
  obtain ⟨next, result, _⟩ := read_some flows idle (List.length_pos_iff.mp size)
  rw [result]
  constructor
  · rfl
  · change s.arrived < s.arrived + _
    omega

/-- Nothing is left to be written or pushed. -/
def Written (serializer : Serializer Message) (lib : Protobuf Descriptor Prototype Message)
    (sent : List (Message × Nat)) (s : Connection Message) : Prop :=
  Goes serializer lib sent s ∧ s.sender.queue = [] ∧ s.toPush = []

theorem read_lowers (written : Written serializer lib sent s)
    (missing : s.arrived ≠ s.sender.handedOver.length) :
    ∃ s', Leads (step serializer lib) Own s s' ∧ Written serializer lib sent s' ∧
      s'.sender.handedOver.length - s'.arrived < s.sender.handedOver.length - s.arrived := by
  obtain ⟨goes, packed, idle⟩ := written
  have inside := goes.1.inside
  obtain ⟨sameSender, more⟩ := read_more goes.1 idle (by omega)
  obtain ⟨next, pushes, kept, pushed⟩ :=
    pushes_all (goes_step (Event.read maxMessageLen) trivial goes)
  obtain ⟨goes', sender, arrived⟩ := kept
  have same : next.sender = s.sender := sender.trans sameSender
  have further : next.arrived = (s.read maxMessageLen).arrived := arrived
  refine ⟨next, leads_next (Event.read maxMessageLen) trivial pushes,
    ⟨goes', same ▸ packed, pushed⟩, ?_⟩
  rw [same]
  omega

/-- All that was handed over is read, and what the reads found is pushed. -/
theorem reads_all (goes : Goes serializer lib sent s) (packed : s.sender.queue = []) :
    ∃ s', Leads (step serializer lib) Own s s' ∧ Written serializer lib sent s' ∧
      s'.arrived = s'.sender.handedOver.length := by
  obtain ⟨first, leads, ⟨start, sender, _⟩, pushed⟩ := pushes_all goes
  have ready : Written serializer lib sent first := ⟨start, sender ▸ packed, pushed⟩
  obtain ⟨last, later, good⟩ := leads_until (Written serializer lib sent)
    (fun s => s.arrived = s.sender.handedOver.length)
    (fun s => s.sender.handedOver.length - s.arrived) (fun _ => read_lowers) ready
  exact ⟨last, leads_trans leads later, good⟩

/-- The steps of the consumer are steps of the connection. -/
theorem leads_polls {polls : QueuePolls.State (Handling Message) Pushed}
    (goes : QueuePolls.Goes (mainLoop lib) s.polls polls) :
    Leads (step serializer lib) Own s { s with polls := polls } := by
  obtain ⟨events, all, same⟩ := goes
  induction events generalizing s with
  | nil =>
    rw [run] at same
    rw [← same]
    exact leads_refl s
  | cons event rest ih =>
    have consumers := all event List.mem_cons_self
    have after : step serializer lib s (.consume event) =
        { s with polls := QueuePolls.step (mainLoop lib) s.polls event } := if_pos consumers
    apply leads_next (Event.consume event) trivial
    rw [after]
    exact @ih { s with polls := QueuePolls.step (mainLoop lib) s.polls event }
      (fun other member => all other (List.mem_cons_of_mem event member)) same

/-- The consumer pushes nothing. -/
theorem goes_pushed {polls' : QueuePolls.State (Handling Message) Pushed}
    (goes : QueuePolls.Goes (mainLoop lib) polls polls') (none : polls.own = []) :
    polls'.own = [] ∧ polls'.queues.pushed = polls.queues.pushed := by
  obtain ⟨events, all, same⟩ := goes
  induction events generalizing polls with
  | nil =>
    rw [run] at same
    rw [← same]
    exact ⟨none, rfl⟩
  | cons event rest ih =>
    obtain ⟨still, pushed, _⟩ :=
      @consumer_consumes _ _ _ lib _ _ (all event List.mem_cons_self) none
    rw [← pushed]
    exact ih still (fun other member => all other (List.mem_cons_of_mem event member)) same

theorem goes_claimed {polls' : QueuePolls.State (Handling Message) Pushed} {old : List Pushed}
    (goes : QueuePolls.Goes (mainLoop lib) polls polls') (accounted : Accounted polls.queues)
    (claimed : Claimed old polls.queues) :
    Accounted polls'.queues ∧ Claimed old polls'.queues := by
  obtain ⟨events, _, same⟩ := goes
  rw [← same]
  exact ⟨QueuePolls.accounted_run events accounted, QueuePolls.claimed_run events accounted claimed⟩

/-- The poll that is going on comes to its end, and the next takes all that waits. -/
theorem polls_all (accounted : Accounted polls.queues) (none : polls.own = []) :
    ∃ polls', QueuePolls.Goes (mainLoop lib) polls polls' ∧ polls'.queues.waiting = [] := by
  obtain ⟨first, goes, idle⟩ := @QueuePolls.poll_ends _ _ (mainLoop lib) _ accounted
  have accountedFirst := (goes_claimed goes accounted List.nil_prefix).1
  have noneFirst := (goes_pushed goes none).1
  obtain ⟨last, ends, idleLast⟩ := @QueuePolls.poll_ends _ _ (mainLoop lib) _
    (@QueuePolls.accounted_step _ _ (mainLoop lib) _ .poll accountedFirst)
  obtain ⟨accountedLast, claimed⟩ := goes_claimed ends
    (@QueuePolls.accounted_step _ _ (mainLoop lib) _ .poll accountedFirst)
    (claimed_begin accountedFirst idle)
  have pushed : last.queues.pushed = first.queues.pushed :=
    (goes_pushed ends noneFirst).2.trans (poll_kept first.queues).1
  refine ⟨last, QueuePolls.goes_trans goes (QueuePolls.goes_next rfl ends), ?_⟩
  have taken := (claimed_idle claimed idleLast).length_le
  have order := congrArg List.length accountedLast.order
  rw [pushed, List.length_append] at order
  exact List.eq_nil_of_length_eq_zero (by omega)

/-- All messages that were sent can still be handled, without another one. -/
theorem ends_at_rest (flows : Flows serializer lib s) :
    ∃ s', Leads (step serializer lib) Own s s' ∧ Goes serializer lib s.sent s' ∧ AtRest s' := by
  have goes : Goes serializer lib s.sent s := ⟨flows, rfl⟩
  obtain ⟨packed, first, goes, none⟩ := packs_all goes
  obtain ⟨read, second, ⟨goes, none, pushed⟩, arrived⟩ := reads_all goes none
  obtain ⟨polls, third, empty⟩ := @polls_all _ _ _ lib _ goes.1.accounted goes.1.nothingOwn
  have last := @leads_polls _ _ _ serializer lib _ _ third
  refine ⟨_, leads_trans first (leads_trans second last),
    leads_keep (fun _ => goes_step) goes last, ?_⟩
  exact ⟨none, arrived, pushed, empty⟩

theorem carried_of_flows (flows : Flows serializer lib s) : Carried serializer lib s where
  order := flows.order
  settled := handled_at_rest flows
  ends := by
    obtain ⟨last, ⟨events, mine, same⟩, goes, rest⟩ := ends_at_rest flows
    refine ⟨events, mine, ?_⟩
    rw [same, handled_at_rest goes.1 rest]
    exact goes.2

/-- However the steps of both sides come between each other and however the stream is cut into
reads, a connection carries the messages that fit a frame: none is lost, reordered or handled
twice. -/
theorem messages_carried (serializer : Serializer Message)
    (lib : Protobuf Descriptor Prototype Message) (accepted : Bool)
    (sendingData : Block maxMessageLen) (recvBuffer : Block (2 * maxMessageLen))
    (events : List (Event Message)) (allowed : ∀ event ∈ events, Allowed serializer lib event) :
    EveryState (step serializer lib) (Carried serializer lib)
      (opened accepted sendingData recvBuffer) events := by
  have fine : EveryStep (step serializer lib) (fun _ event => Allowed serializer lib event)
      (opened accepted sendingData recvBuffer) events :=
    everyStep_of_forall fun _ event member => allowed event member
  apply everyState_imp (fun _ => carried_of_flows)
  exact everyState_of_everyStep (fun _ _ => flows_step)
    (flows_opened accepted sendingData recvBuffer) fine

theorem small_message_fits : Fits oneType oneParser (false, 7) where
  registered := oneType_registered false
  word := by decide
  small := by
    rw [envelope_length]
    decide

theorem small_message_carried :
    EveryState (step oneType oneParser) (Carried oneType oneParser)
      (opened true (Block.zeroed _) (Block.zeroed _))
      [.send (fun _ => 0) false 7, .runPosted, .read 65000, .push, .consume .poll,
        .consume .take] := by
  apply messages_carried
  intro event member
  simp only [List.mem_cons, List.not_mem_nil, or_false] at member
  rcases member with same | same | same | same | same | same
  · rw [same]
    exact small_message_fits
  all_goals
    rw [same]
    trivial

end CarriedMessages
