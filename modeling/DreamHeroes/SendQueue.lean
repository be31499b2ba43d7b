import DreamHeroes.LabelledRuns
import DreamHeroes.MessageInterface

/- The sending side of tcp_session: frames wait in a queue, as many as fit are packed into one
   buffer and handed to async_write, and its completion packs the next ones. All of it runs
   under a mutex or on the io thread. m_iscompress is never set, so a session of a server does
   not compress. -/
namespace SendQueue

open ByteWords TcpSession MessageInterface LabelledRuns

def queueMessageLimitSize : Nat := maxMessageLen * 30

/- Whether the session has a father decides how send_message builds its frame. -/
inductive Role where
  | accepted (limitMode : Bool)
  | client (strategy : Option Strategy)

def Role.frame (fresh : Fresh) (data : Bytes) : Role → Bytes
  | .accepted _ => makeMessage fresh data false
  | .client strategy => compress strategy fresh data

/- An async_write that has not completed. data is a history value: what the buffer held when
   the write began. -/
structure Writing where
  connection : Nat
  size : Nat
  data : Bytes
  deriving DecidableEq, Repr

/- connection counts the connections of the session. handedOver and accepted are history
   values: the bytes given to async_write and the frames taken into the queue. -/
structure Sender where
  role : Role
  connected : Bool
  connection : Nat
  queue : List Bytes
  sendingData : Block maxMessageLen
  isSending : Bool
  notSentSize : Int
  posted : Nat
  closes : Nat
  outstanding : List Writing
  handedOver : Bytes
  accepted : List Bytes

def pack : Block maxMessageLen → Nat → List Bytes → Block maxMessageLen × Nat × List Bytes
  | buffer, len, [] => (buffer, len, [])
  | buffer, len, msg :: rest =>
      if fits : len + msg.length ≤ maxMessageLen then
        pack (buffer.memcpy len msg fits) (len + msg.length) rest
      else (buffer, len, msg :: rest)

namespace Sender

def limitReached (s : Sender) : Bool :=
  match s.role with
  | .accepted limitMode => limitMode && (queueMessageLimitSize : Int) ≤ s.notSentSize
  | .client _ => false

/- _send_message -/
def sendFrame (s : Sender) (frame : Bytes) : Sender :=
  let s := { s with
    queue := s.queue ++ [frame]
    notSentSize := s.notSentSize + frame.length
    accepted := s.accepted ++ [frame] }
  if s.limitReached then { s with closes := s.closes + 1 }
  else { s with posted := s.posted + 1 }

def sendMessage (s : Sender) (fresh : Fresh) (data : Bytes) : Sender :=
  if s.connected ∧ Admitted data then s.sendFrame (s.role.frame fresh data) else s

def writeMessage (s : Sender) (sentSize : Nat) : Sender :=
  let s := { s with notSentSize := s.notSentSize - sentSize }
  if s.connected = false then s
  else if s.isSending then s
  else if s.queue = [] then s
  else
    let packed := pack s.sendingData 0 s.queue
    let data := packed.1.used packed.2.1
    { s with
      queue := packed.2.2
      sendingData := packed.1
      isSending := true
      outstanding := s.outstanding ++ [⟨s.connection, packed.2.1, data⟩]
      handedOver := s.handedOver ++ data }

/- A _write_message posted by a send runs. -/
def runPosted (s : Sender) : Sender :=
  if s.posted = 0 then s else { s with posted := s.posted - 1 }.writeMessage 0

/- handle_write without an error, for the write that began first. -/
def writeDone (s : Sender) : Sender :=
  match s.outstanding with
  | [] => s
  | writing :: rest =>
      { s with outstanding := rest, isSending := false }.writeMessage writing.size

end Sender

inductive Event where
  | send (fresh : Fresh) (data : Bytes)
  | runPosted
  | writeDone

def step (s : Sender) : Event → Sender
  | .send fresh data => s.sendMessage fresh data
  | .runPosted => s.runPosted
  | .writeDone => s.writeDone

/-- A connection that has just been opened; the buffer may hold bytes of an earlier one. -/
def opened (role : Role) (buffer : Block maxMessageLen) : Sender where
  role := role
  connected := true
  connection := 0
  queue := []
  sendingData := buffer
  isSending := false
  notSentSize := 0
  posted := 0
  closes := 0
  outstanding := []
  handedOver := []
  accepted := []

structure Flowing (s : Sender) : Prop where
  single : s.outstanding.length ≤ 1
  unchanged : ∀ writing ∈ s.outstanding, s.sendingData.used writing.size = writing.data
  complete : s.handedOver ++ s.queue.flatten = s.accepted.flatten
  progress : s.queue ≠ [] → s.posted = 0 → ∃ writing ∈ s.outstanding, 1 ≤ writing.size

/-- The frame of a sent message fits the buffer. -/
def FitsBuffer (s : Sender) : Event → Prop
  | .send fresh data => (s.role.frame fresh data).length ≤ maxMessageLen
  | _ => True

variable {s : Sender} {event : Event}

/-- What the packing loop takes from the queue and what the buffer then holds. -/
theorem pack_spec (buffer : Block maxMessageLen) {len : Nat} (queue : List Bytes)
    (inside : len ≤ maxMessageLen) :
    ∃ taken rest, queue = taken ++ rest ∧
      (pack buffer len queue).2 = (len + taken.flatten.length, rest) ∧
      len + taken.flatten.length ≤ maxMessageLen ∧
      (pack buffer len queue).1.used (len + taken.flatten.length) =
        buffer.used len ++ taken.flatten ∧
      ∀ next ∈ rest.head?, maxMessageLen < len + taken.flatten.length + next.length := by
  induction queue generalizing buffer len with
  | nil => exact ⟨[], [], rfl, rfl, inside, by simp [pack], by simp⟩
  | cons msg queue ih =>
    by_cases fits : len + msg.length ≤ maxMessageLen
    · obtain ⟨taken, rest, split, result, within, filled, full⟩ :=
        ih (buffer.memcpy len msg fits) fits
      have size : len + (msg :: taken).flatten.length = len + msg.length + taken.flatten.length := by
        rw [List.flatten_cons, List.length_append, Nat.add_assoc]
      refine ⟨msg :: taken, rest, by rw [split]; rfl, ?_⟩
      simp only [pack, dif_pos fits, size]
      refine ⟨result, within, ?_, full⟩
      rw [filled, Block.used_memcpy fits rfl, List.flatten_cons, List.append_assoc]
    · refine ⟨[], msg :: queue, rfl, ?_⟩
      simp only [pack, dif_neg fits]
      exact ⟨rfl, inside, by simp, by simpa using fits⟩

namespace Sender

/-- _write_message takes the sent bytes off the count and then leaves all as it is, or starts
one write with the first frames of the queue. -/
theorem writeMessage_cases (s : Sender) (sentSize : Nat) :
    (s.writeMessage sentSize = { s with notSentSize := s.notSentSize - sentSize } ∧
      (s.connected = true → s.isSending = false → s.queue = [])) ∨
    s.connected = true ∧ s.isSending = false ∧ s.queue ≠ [] ∧
      ∃ taken rest buffer, s.queue = taken ++ rest ∧
        buffer.used taken.flatten.length = taken.flatten ∧
        (∀ next ∈ rest.head?, maxMessageLen < taken.flatten.length + next.length) ∧
        s.writeMessage sentSize = { s with
          notSentSize := s.notSentSize - sentSize
          queue := rest
          sendingData := buffer
          isSending := true
          outstanding := s.outstanding ++
            [⟨s.connection, taken.flatten.length, taken.flatten⟩]
          handedOver := s.handedOver ++ taken.flatten } := by
  unfold writeMessage
  by_cases closed : s.connected = false
  · simp [closed]
  · by_cases busy : s.isSending = true
    · simp [closed, busy]
    · by_cases empty : s.queue = []
      · simp [closed, busy, empty]
      · obtain ⟨taken, rest, split, result, within, filled, full⟩ :=
          pack_spec s.sendingData s.queue (Nat.zero_le maxMessageLen)
        rw [Nat.zero_add] at result within filled full
        have data : (pack s.sendingData 0 s.queue).1.used taken.flatten.length =
            taken.flatten := by
          simpa [Block.used] using filled
        refine .inr ⟨by simpa using closed, by simpa using busy, empty, taken, rest,
          (pack s.sendingData 0 s.queue).1, split, data, full, ?_⟩
        simp only [if_neg closed, if_neg busy, if_neg empty, result, data]

end Sender

/-- What holds between a send, a posted write and a completion. -/
structure Intact (s : Sender) : Prop where
  connected : s.connected = true
  writing : (s.isSending = false ∧ s.outstanding = []) ∨
    s.isSending = true ∧ ∃ writing, s.outstanding = [writing] ∧ 1 ≤ writing.size ∧
      s.sendingData.used writing.size = writing.data
  complete : s.handedOver ++ s.queue.flatten = s.accepted.flatten
  fits : ∀ frame ∈ s.queue, 1 ≤ frame.length ∧ frame.length ≤ maxMessageLen
  counted : s.notSentSize = s.queue.flatten.length + (s.outstanding.map (·.size)).sum

structure Steady (s : Sender) : Prop extends Intact s where
  pending : s.queue ≠ [] → s.posted = 0 → s.isSending = true

theorem steady_flowing (steady : Steady s) : Flowing s where
  single := by
    rcases steady.writing with ⟨_, none⟩ | ⟨_, writing, one, _⟩
    · simp [none]
    · simp [one]
  unchanged := by
    intro writing member
    rcases steady.writing with ⟨_, none⟩ | ⟨_, only, one, _, data⟩
    · rw [none] at member
      cases member
    · rw [one] at member
      rw [List.mem_singleton.mp member]
      exact data
  complete := steady.complete
  progress := by
    intro waiting idle
    have busy := steady.pending waiting idle
    rcases steady.writing with ⟨free, _⟩ | ⟨_, writing, one, some, _⟩
    · rw [busy] at free
      cases free
    · exact ⟨writing, by simp [one], some⟩

theorem steady_opened (role : Role) (buffer : Block maxMessageLen) :
    Steady (opened role buffer) where
  connected := rfl
  writing := .inl ⟨rfl, rfl⟩
  complete := rfl
  fits := by
    intro frame member
    cases member
  counted := rfl
  pending := by
    intro waiting
    exact absurd rfl waiting

/-- The first frame of a queue fits the empty buffer, so something is taken. -/
theorem taken_some {taken rest : List Bytes}
    (fits : ∀ frame ∈ taken ++ rest, 1 ≤ frame.length ∧ frame.length ≤ maxMessageLen)
    (waiting : taken ++ rest ≠ [])
    (full : ∀ next ∈ rest.head?, maxMessageLen < taken.flatten.length + next.length) :
    1 ≤ taken.flatten.length := by
  cases taken with
  | nil =>
    cases rest with
    | nil => exact absurd rfl waiting
    | cons next rest =>
      have small := (fits next (by simp)).2
      have large := full next rfl
      simp at large
      omega
  | cons frame taken =>
    have some := (fits frame (by simp)).1
    rw [List.flatten_cons, List.length_append]
    omega

theorem steady_write {sentSize : Nat}
    (intact : Intact { s with notSentSize := s.notSentSize - sentSize }) :
    Steady (s.writeMessage sentSize) := by
  rcases s.writeMessage_cases sentSize with ⟨same, idle⟩ | ⟨connected, free, waiting, wrote⟩
  · rw [same]
    refine ⟨intact, ?_⟩
    intro waiting _
    by_contra free
    exact waiting (idle intact.connected (by simpa using free))
  · obtain ⟨taken, rest, buffer, split, data, full, result⟩ := wrote
    have fits := intact.fits
    have complete := intact.complete
    have counted := intact.counted
    have none : s.outstanding = [] := by
      rcases intact.writing with ⟨_, none⟩ | ⟨busy, _⟩
      · exact none
      · simp [free] at busy
    simp only [split, none] at fits complete counted
    rw [split] at waiting
    rw [result]
    refine ⟨⟨connected, ?_, ?_, ?_, ?_⟩, fun _ _ => rfl⟩
    · exact .inr ⟨rfl, _, by rw [none]; rfl, taken_some fits waiting full, data⟩
    · simpa using complete
    · intro frame member
      exact fits frame (List.mem_append_right taken member)
    · simp [none] at counted ⊢
      omega

theorem steady_send (steady : Steady s) {frame : Bytes}
    (fits : 1 ≤ frame.length ∧ frame.length ≤ maxMessageLen) : Steady (s.sendFrame frame) := by
  have intact : Intact { s with
      queue := s.queue ++ [frame]
      notSentSize := s.notSentSize + frame.length
      accepted := s.accepted ++ [frame] } := by
    refine ⟨steady.connected, steady.writing, ?_, ?_, ?_⟩
    · simp [← steady.complete]
    · intro other member
      rcases List.mem_append.mp member with old | new
      · exact steady.fits other old
      · rw [List.mem_singleton.mp new]
        exact fits
    · have counted := steady.counted
      simp at counted ⊢
      omega
  unfold Sender.sendFrame
  simp only
  split
  · rename_i limited
    refine ⟨⟨intact.connected, intact.writing, intact.complete, intact.fits, intact.counted⟩, ?_⟩
    -- Over the limit nothing is posted, but then more than one frame is on its way.
    intro _ idle
    by_contra free
    have empty : s.queue = [] := by
      by_contra waiting
      exact free (steady.pending waiting idle)
    have none : s.outstanding = [] := by
      rcases steady.writing with ⟨_, none⟩ | ⟨busy, _⟩
      · exact none
      · exact absurd busy free
    have counted := intact.counted
    simp [empty, none] at counted
    simp only [Sender.limitReached] at limited
    split at limited
    · simp [counted, queueMessageLimitSize, maxMessageLen] at limited
      simp only [maxMessageLen] at fits
      omega
    · cases limited
  · refine ⟨⟨intact.connected, intact.writing, intact.complete, intact.fits, intact.counted⟩, ?_⟩
    intro _ idle
    simp at idle

theorem frame_nonempty (role : Role) (fresh : Fresh) (data : Bytes) :
    1 ≤ (role.frame fresh data).length := by
  cases role with
  | accepted limitMode =>
    rw [Role.frame, makeMessage_length, messageHeadLen]
    omega
  | client strategy =>
    rw [Role.frame, compress, makeMessage_length, messageHeadLen]
    omega

theorem steady_step (steady : Steady s) (fits : FitsBuffer s event) : Steady (step s event) := by
  cases event with
  | send fresh data =>
    simp only [step, Sender.sendMessage]
    split
    · exact steady_send steady ⟨frame_nonempty s.role fresh data, fits⟩
    · exact steady
  | runPosted =>
    simp only [step, Sender.runPosted]
    split
    · exact steady
    · apply steady_write
      have counted := steady.counted
      exact ⟨steady.connected, steady.writing, steady.complete, steady.fits, by simpa using counted⟩
  | writeDone =>
    simp only [step, Sender.writeDone]
    split
    · exact steady
    · rename_i writing rest out
      apply steady_write
      have counted := steady.counted
      have last : rest = [] := by
        rcases steady.writing with ⟨_, none⟩ | ⟨_, only, one, _⟩
        · rw [none] at out
          cases out
        · rw [one] at out
          cases out
          rfl
      refine ⟨steady.connected, .inl ⟨rfl, last⟩, steady.complete, steady.fits, ?_⟩
      simp [out, last] at counted ⊢
      omega

/-- In every run in which each frame fits the buffer nothing is lost, reordered or stuck. -/
theorem queue_flows_when_frames_fit (role : Role) (buffer : Block maxMessageLen)
    (events : List Event) (fits : EveryStep step FitsBuffer (opened role buffer) events) :
    EveryState step Flowing (opened role buffer) events :=
  everyState_imp (fun _ => steady_flowing)
    (everyState_of_everyStep (fun _ _ => steady_step) (steady_opened role buffer) fits)

theorem queue_flows_when_frames_fit_two_sends :
    EveryState step Flowing (opened (.accepted false) (Block.zeroed _))
      [.send (fun _ => 0) [7, 9], .runPosted, .send (fun _ => 0) [8], .writeDone] := by
  apply queue_flows_when_frames_fit
  refine ⟨?_, trivial, ?_, trivial, trivial⟩
  · change (makeMessage (fun _ => 0) [7, 9] false).length ≤ maxMessageLen
    decide
  · change (makeMessage (fun _ => 0) [8] false).length ≤ maxMessageLen
    decide

/-- An admitted message whose frame is larger than the buffer is never packed: the write that
its own task starts has no bytes. -/
theorem large_frame_stalls {fresh : Fresh} {data : Bytes} (buffer : Block maxMessageLen)
    (admitted : Admitted data) (large : maxMessageLen < data.length + messageHeadLen) :
    ¬ EveryState step Flowing (opened (.accepted false) buffer) [.send fresh data, .runPosted] := by
  intro all
  have size := makeMessage_length fresh data false
  have progress := (everyState_last all).progress
  have sent : step (opened (.accepted false) buffer) (.send fresh data) =
      { opened (.accepted false) buffer with
        queue := [makeMessage fresh data false]
        notSentSize := (makeMessage fresh data false).length
        accepted := [makeMessage fresh data false]
        posted := 1 } := by
    simp [step, Sender.sendMessage, opened, admitted, Sender.sendFrame, Sender.limitReached,
      Role.frame]
  have packed : pack buffer 0 [makeMessage fresh data false] =
      (buffer, 0, [makeMessage fresh data false]) := by
    rw [pack, dif_neg (by omega)]
  simp only [run, sent] at progress
  simp [step, Sender.runPosted, Sender.writeMessage, opened, packed] at progress

theorem large_message_stalls :
    Admitted (List.replicate 64991 7) ∧
      ¬ EveryState step Flowing (opened (.accepted false) (Block.zeroed _))
        [.send (fun _ => 0) (List.replicate 64991 7), .runPosted] := by
  have size : (List.replicate 64991 (7 : UInt8)).length = 64991 := List.length_replicate
  have admitted : Admitted (List.replicate 64991 7) := by
    rw [Admitted, size]
    decide
  refine ⟨admitted, large_frame_stalls _ admitted ?_⟩
  rw [size]
  decide

end SendQueue
