import DreamHeroes.ByteWords

/- Reassembly of framed messages from a socket. A frame is a length word, a mask word and
   a checksum, ten bytes in all, followed by the payload. The checksum is not verified. -/
namespace TcpSession

open ByteWords

def maxMessageLen : Nat := 65000
def messageHeadMaskBegin : Nat := 4
def messageHeadLen : Nat := 10
def compressMask : Nat := 1 <<< 15

abbrev CompressStrategy := Bytes → Option Bytes

inductive Fault where
  | copyOverrun
  | positionPassed
  | frameOutside
  | lengthUnderflow
  | endlessDrain
  deriving DecidableEq, Repr

/- armed: the next async_read_some is posted. The other two never read again. -/
inductive Reading where
  | armed
  | bannedHackPacket
  | bannedWrongCheckSum
  deriving DecidableEq, Repr

structure Session where
  recvBuffer : Block (2 * maxMessageLen)
  reciveBufferPos : Nat
  inBuffer : reciveBufferPos ≤ 2 * maxMessageLen
  reading : Reading
  pushed : List Bytes

inductive Drained where
  | leftover (nowPos : Nat) (pushed : List Bytes)
  | stopped (reading : Reading) (pushed : List Bytes)

abbrev BadLength (len : Nat) : Prop := len < messageHeadLen ∨ maxMessageLen < len

def uncompress (strategy : Option CompressStrategy) (data : Bytes) :
    Except Fault (Option Bytes) :=
  let datalen := word32 data
  if datalen ≤ messageHeadMaskBegin then .ok none
  else
    let type := word32 (data.drop messageHeadMaskBegin) % 2 ^ 16
    if datalen < messageHeadLen then .error .lengthUnderflow
    else
      let body := (data.drop messageHeadLen).take (datalen - messageHeadLen)
      if type &&& compressMask ≠ 0 then
        match strategy with
        | some compressInterface => .ok (compressInterface body)
        | none => .ok (some body)
      else .ok (some body)

/- The inner loop of handle_read_some. len is the header read last, and uncompress reads
   the length of its frame again from the buffer. -/
def drain (strategy : Option CompressStrategy) (recvBuffer : Block (2 * maxMessageLen))
    (pos : Nat) : Nat → Nat → Nat → List Bytes → Except Fault Drained
  | 0, _, _, _ => .error .endlessDrain
  | fuel + 1, nowPos, len, pushed =>
      if pos < nowPos then .error .positionPassed
      else if len ≤ pos - nowPos then
        if pos < nowPos + word32 (recvBuffer.pointer nowPos) then .error .frameOutside
        else
          match uncompress strategy (recvBuffer.pointer nowPos) with
          | .error fault => .error fault
          | .ok none => .ok (.stopped .bannedWrongCheckSum pushed)
          | .ok (some message) =>
              if pos < nowPos + len then .error .positionPassed
              else if messageHeadLen ≤ pos - (nowPos + len) then
                if BadLength (word32 (recvBuffer.pointer (nowPos + len))) then
                  .ok (.stopped .bannedHackPacket (pushed ++ [message]))
                else
                  drain strategy recvBuffer pos fuel (nowPos + len)
                    (word32 (recvBuffer.pointer (nowPos + len))) (pushed ++ [message])
              else .ok (.leftover (nowPos + len) (pushed ++ [message]))
      else .ok (.leftover nowPos pushed)

/- The leftover bytes move to the front only when something was consumed and something is left. -/
def dropConsumed (recvBuffer : Block (2 * maxMessageLen)) {pos nowPos : Nat}
    (fits : pos ≤ 2 * maxMessageLen) (inside : nowPos ≤ pos) (pushed : List Bytes) : Session where
  recvBuffer :=
    if 0 < nowPos ∧ nowPos < pos then recvBuffer.memmove nowPos (pos - nowPos) (by omega)
    else recvBuffer
  reciveBufferPos := pos - nowPos
  inBuffer := by omega
  reading := .armed
  pushed := pushed

/- handle_read_some after its memcpy. -/
def readReceived (strategy : Option CompressStrategy) (recvBuffer : Block (2 * maxMessageLen))
    {pos : Nat} (fits : pos ≤ 2 * maxMessageLen) (pushed : List Bytes) : Except Fault Session :=
  if messageHeadLen ≤ pos then
    if BadLength (word32 (recvBuffer.pointer 0)) then
      .ok ⟨recvBuffer, pos, fits, .bannedHackPacket, pushed⟩
    else
      match drain strategy recvBuffer pos (pos + 1) 0 (word32 (recvBuffer.pointer 0)) pushed with
      | .error fault => .error fault
      | .ok (.stopped reading pushed) => .ok ⟨recvBuffer, pos, fits, reading, pushed⟩
      | .ok (.leftover nowPos pushed) =>
          if inside : nowPos ≤ pos then .ok (dropConsumed recvBuffer fits inside pushed)
          else .error .positionPassed
  else .ok ⟨recvBuffer, pos, fits, .armed, pushed⟩

def handleReadSome (strategy : Option CompressStrategy) (s : Session) (buffer : Bytes) :
    Except Fault Session :=
  if fits : s.reciveBufferPos + buffer.length ≤ 2 * maxMessageLen then
    readReceived strategy (s.recvBuffer.memcpy s.reciveBufferPos buffer fits) fits s.pushed
  else .error .copyOverrun

def handleReads (strategy : Option CompressStrategy) :
    Session → List Bytes → Except Fault Session
  | s, [] => .ok s
  | s, buffer :: rest =>
      if s.reading = .armed then
        match handleReadSome strategy s buffer with
        | .error fault => .error fault
        | .ok next => handleReads strategy next rest
      else .ok s

/-- A session after handle_accept. The buffer may hold bytes of an earlier connection. -/
def handleAccept (recvBuffer : Block (2 * maxMessageLen)) : Session :=
  ⟨recvBuffer, 0, Nat.zero_le _, .armed, []⟩

/- The reference parser works on the whole stream and has no buffer. -/
inductive Verdict where
  | waiting (tail : Bytes)
  | badLength
  | uncompressFailed
  deriving DecidableEq, Repr

structure Parsed where
  delivered : List Bytes
  verdict : Verdict
  deriving DecidableEq, Repr

def Compressed (frame : Bytes) : Prop := ∃ high ∈ frame[5]?, 128 ≤ high

instance (frame : Bytes) : Decidable (Compressed frame) :=
  inferInstanceAs (Decidable (∃ high ∈ frame[5]?, 128 ≤ high))

def payload (strategy : Option CompressStrategy) (frame : Bytes) : Option Bytes :=
  match strategy with
  | some compressInterface =>
      if Compressed frame then compressInterface (frame.drop messageHeadLen)
      else some (frame.drop messageHeadLen)
  | none => some (frame.drop messageHeadLen)

def parse (strategy : Option CompressStrategy) (stream : Bytes) : Parsed :=
  if stream.length < messageHeadLen then ⟨[], .waiting stream⟩
  else if BadLength (word32 stream) then ⟨[], .badLength⟩
  else if stream.length < word32 stream then ⟨[], .waiting stream⟩
  else
    match payload strategy (stream.take (word32 stream)) with
    | none => ⟨[], .uncompressFailed⟩
    | some message =>
        let rest := parse strategy (stream.drop (word32 stream))
        ⟨message :: rest.delivered, rest.verdict⟩
termination_by stream.length
decreasing_by
  simp only [List.length_drop, BadLength, messageHeadLen] at *
  omega

def Reading.verdict (tail : Bytes) : Reading → Verdict
  | .armed => .waiting tail
  | .bannedHackPacket => .badLength
  | .bannedWrongCheckSum => .uncompressFailed

/-- What can be seen of a session: the messages it pushed and why it reads no more. -/
def Session.observed (s : Session) : Parsed :=
  ⟨s.pushed, s.reading.verdict (s.recvBuffer.used s.reciveBufferPos)⟩

def Drained.observed (received : Bytes) : Drained → Parsed
  | .leftover nowPos pushed => ⟨pushed, .waiting (received.drop nowPos)⟩
  | .stopped reading pushed => ⟨pushed, reading.verdict received⟩

def Drained.Inside (pos : Nat) : Drained → Prop
  | .leftover nowPos _ => nowPos ≤ pos
  | .stopped _ _ => True

variable {strategy : Option CompressStrategy}

theorem parse_short {stream : Bytes} (short : stream.length < messageHeadLen) :
    parse strategy stream = ⟨[], .waiting stream⟩ := by
  rw [parse, if_pos short]

theorem parse_bad {stream : Bytes} (head : messageHeadLen ≤ stream.length)
    (bad : BadLength (word32 stream)) : parse strategy stream = ⟨[], .badLength⟩ := by
  rw [parse, if_neg (Nat.not_lt.mpr head), if_pos bad]

theorem parse_cut {stream : Bytes} (head : messageHeadLen ≤ stream.length)
    (good : ¬ BadLength (word32 stream)) (part : stream.length < word32 stream) :
    parse strategy stream = ⟨[], .waiting stream⟩ := by
  rw [parse, if_neg (Nat.not_lt.mpr head), if_neg good, if_pos part]

theorem parse_frame (strategy : Option CompressStrategy) {stream : Bytes}
    (good : ¬ BadLength (word32 stream))
    (whole : word32 stream ≤ stream.length) :
    parse strategy stream =
      match payload strategy (stream.take (word32 stream)) with
      | none => ⟨[], .uncompressFailed⟩
      | some message =>
          ⟨message :: (parse strategy (stream.drop (word32 stream))).delivered,
            (parse strategy (stream.drop (word32 stream))).verdict⟩ := by
  have head : ¬ stream.length < messageHeadLen := by
    simp only [BadLength] at good
    omega
  rw [parse, if_neg head, if_neg good, if_neg (Nat.not_lt.mpr whole)]

theorem parse_frame_append {stream : Bytes} (good : ¬ BadLength (word32 stream))
    (whole : word32 stream ≤ stream.length) (back : Bytes) :
    parse strategy (stream ++ back) =
      match payload strategy (stream.take (word32 stream)) with
      | none => ⟨[], .uncompressFailed⟩
      | some message =>
          ⟨message :: (parse strategy (stream.drop (word32 stream) ++ back)).delivered,
            (parse strategy (stream.drop (word32 stream) ++ back)).verdict⟩ := by
  have word : word32 (stream ++ back) = word32 stream := by
    apply word32_append back
    simp only [BadLength, messageHeadLen] at good
    omega
  have longer : word32 stream ≤ (stream ++ back).length := by
    rw [List.length_append]
    omega
  rw [parse_frame _ (word ▸ good) (word ▸ longer), word, List.take_append_of_le_length whole,
    List.drop_append_of_le_length whole]

/-- The parser can stop at any byte and go on from the tail it was left with. -/
theorem parse_append (front back : Bytes) :
    parse strategy (front ++ back) =
      match (parse strategy front).verdict with
      | .waiting tail =>
          ⟨(parse strategy front).delivered ++ (parse strategy (tail ++ back)).delivered,
            (parse strategy (tail ++ back)).verdict⟩
      | _ => parse strategy front := by
  induction front using parse.induct strategy with
  | case1 stream short => simp [parse_short short]
  | case2 stream short bad =>
    have head : messageHeadLen ≤ stream.length := by omega
    have word := word32_append back (Nat.le_trans (by decide) head)
    have longer : messageHeadLen ≤ (stream ++ back).length := by
      rw [List.length_append]
      omega
    rw [parse_bad head bad, parse_bad longer (word ▸ bad)]
  | case3 stream short good part =>
    simp [parse_cut (Nat.not_lt.mp short) good part]
  | case4 stream short good whole failed =>
    rw [parse_frame_append good (Nat.not_lt.mp whole), parse_frame _ good (Nat.not_lt.mp whole),
      failed]
  | case5 stream short good whole message frame ih =>
    rw [parse_frame_append good (Nat.not_lt.mp whole), parse_frame _ good (Nat.not_lt.mp whole),
      frame]
    simp only [ih]
    cases verdict : (parse strategy (stream.drop (word32 stream))).verdict <;> simp [verdict]

/-- What is left of a stream is shorter than one frame. -/
theorem parse_tail {stream tail : Bytes}
    (waiting : (parse strategy stream).verdict = .waiting tail) :
    tail.length < maxMessageLen := by
  induction stream using parse.induct strategy with
  | case1 stream short =>
    simp only [parse_short short, Verdict.waiting.injEq] at waiting
    subst waiting
    exact Nat.lt_trans short (by decide)
  | case2 stream short bad =>
    simp [parse_bad (Nat.not_lt.mp short) bad] at waiting
  | case3 stream short good part =>
    simp only [parse_cut (Nat.not_lt.mp short) good part, Verdict.waiting.injEq] at waiting
    simp only [BadLength] at good
    subst waiting
    omega
  | case4 stream short good whole failed =>
    simp [parse_frame _ good (Nat.not_lt.mp whole), failed] at waiting
  | case5 stream short good whole message frame ih =>
    simp only [parse_frame _ good (Nat.not_lt.mp whole), frame] at waiting
    exact ih waiting

theorem compressed_iff_mask {data : Bytes} (head : messageHeadLen ≤ word32 data)
    (whole : word32 data ≤ data.length) :
    Compressed (data.take (word32 data)) ↔
      word32 (data.drop messageHeadMaskBegin) % 2 ^ 16 &&& compressMask ≠ 0 := by
  simp only [messageHeadLen] at head
  have mask : data.drop messageHeadMaskBegin =
      data[4] :: data[5] :: data.drop 6 := by
    simp only [messageHeadMaskBegin]
    rw [List.drop_eq_getElem_cons (by omega), List.drop_eq_getElem_cons (by omega)]
  have high : (data.take (word32 data))[5]? = some data[5] := by
    rw [List.getElem?_take, if_pos (by omega), List.getElem?_eq_getElem]
  rw [mask, compressMask, word32_bit_fifteen, Compressed, high]
  simp

/-- uncompress reads nothing but the frame its length word announces. -/
theorem uncompress_frame {data : Bytes} (good : ¬ BadLength (word32 data))
    (whole : word32 data ≤ data.length) :
    uncompress strategy data = .ok (payload strategy (data.take (word32 data))) := by
  simp only [BadLength, not_or, Nat.not_lt] at good
  have compressed := compressed_iff_mask good.1 whole
  have nonNull : ¬ word32 data ≤ messageHeadMaskBegin :=
    Nat.not_le.mpr (Nat.lt_of_lt_of_le (by decide) good.1)
  rw [uncompress, if_neg nonNull, if_neg (Nat.not_lt.mpr good.1)]
  simp only [← compressed, payload, List.drop_take]
  cases strategy with
  | none => simp
  | some compressInterface => split <;> rfl

theorem drain_eq_parse (strategy : Option CompressStrategy)
    {recvBuffer : Block (2 * maxMessageLen)} {pos : Nat} (fits : pos ≤ 2 * maxMessageLen)
    (fuel : Nat) {nowPos : Nat} (pushed : List Bytes)
    (head : nowPos + messageHeadLen ≤ pos)
    (good : ¬ BadLength (word32 (recvBuffer.pointer nowPos))) (budget : pos < nowPos + fuel) :
    ∃ drained,
      drain strategy recvBuffer pos fuel nowPos (word32 (recvBuffer.pointer nowPos)) pushed =
        .ok drained ∧
      drained.Inside pos ∧
      drained.observed (recvBuffer.used pos) =
        ⟨pushed ++ (parse strategy ((recvBuffer.used pos).drop nowPos)).delivered,
          (parse strategy ((recvBuffer.used pos).drop nowPos)).verdict⟩ := by
  induction fuel generalizing nowPos pushed with
  | zero => omega
  | succ fuel ih =>
    have size : ((recvBuffer.used pos).drop nowPos).length = pos - nowPos := by
      rw [List.length_drop, Block.used_length _ fits]
    have word : word32 (recvBuffer.pointer nowPos) = word32 ((recvBuffer.used pos).drop nowPos) :=
      Block.word32_pointer _ (Nat.le_trans (Nat.add_le_add_left (by decide) nowPos) head)
    have long : 0 < word32 (recvBuffer.pointer nowPos) := by
      simp only [BadLength, messageHeadLen] at good
      omega
    unfold drain
    rw [if_neg (by omega)]
    by_cases whole : word32 (recvBuffer.pointer nowPos) ≤ pos - nowPos
    · have inside : nowPos + word32 (recvBuffer.pointer nowPos) ≤ pos := by omega
      have framed := parse_frame strategy (word ▸ good) (by omega)
      rw [if_pos whole, if_neg (Nat.not_lt.mpr inside), uncompress_frame good
        (by rw [Block.pointer_length]; omega), Block.pointer_take inside, framed, ← word,
        List.drop_drop]
      generalize word32 (recvBuffer.pointer nowPos) = len at *
      cases payload strategy (((recvBuffer.used pos).drop nowPos).take len) with
      | none => exact ⟨_, rfl, trivial, by simp [Drained.observed, Reading.verdict]⟩
      | some message =>
        simp only [if_neg (Nat.not_lt.mpr inside)]
        by_cases next : messageHeadLen ≤ pos - (nowPos + len)
        · rw [if_pos next]
          have nextHead : nowPos + len + messageHeadLen ≤ pos := by omega
          by_cases bad : BadLength (word32 (recvBuffer.pointer (nowPos + len)))
          · have nextWord : word32 (recvBuffer.pointer (nowPos + len)) =
                word32 ((recvBuffer.used pos).drop (nowPos + len)) :=
              Block.word32_pointer _ (Nat.le_trans (Nat.add_le_add_left (by decide) _) nextHead)
            have nextSize : messageHeadLen ≤ ((recvBuffer.used pos).drop (nowPos + len)).length := by
              rw [List.length_drop, Block.used_length _ fits]
              omega
            rw [if_pos bad, parse_bad nextSize (nextWord ▸ bad)]
            exact ⟨_, rfl, trivial, by simp [Drained.observed, Reading.verdict]⟩
          · rw [if_neg bad]
            obtain ⟨drained, run, inside, seen⟩ :=
              ih (pushed ++ [message]) nextHead bad (by omega)
            exact ⟨drained, run, inside, by simp [seen]⟩
        · rw [if_neg next, parse_short (by rw [List.length_drop, Block.used_length _ fits]; omega)]
          exact ⟨_, rfl, inside, by simp [Drained.observed]⟩
    · rw [if_neg whole]
      refine ⟨_, rfl, ?_, ?_⟩
      · simp only [Drained.Inside]
        omega
      · rw [parse_cut (by omega) (word ▸ good) (by omega)]
        simp [Drained.observed]

theorem dropConsumed_observed {recvBuffer : Block (2 * maxMessageLen)} {pos nowPos : Nat}
    (fits : pos ≤ 2 * maxMessageLen) (inside : nowPos ≤ pos) (pushed : List Bytes) :
    (dropConsumed recvBuffer fits inside pushed).observed =
      ⟨pushed, .waiting ((recvBuffer.used pos).drop nowPos)⟩ := by
  have kept : nowPos + (pos - nowPos) = pos := Nat.add_sub_cancel' inside
  have moved := Block.used_memmove recvBuffer (by omega) kept
  simp only [Session.observed, dropConsumed, Reading.verdict, Parsed.mk.injEq, true_and,
    Verdict.waiting.injEq]
  by_cases shift : 0 < nowPos ∧ nowPos < pos
  · simp only [if_pos shift, moved]
  · rw [if_neg shift]
    by_cases start : nowPos = 0
    · simp [start]
    · have all : nowPos = pos := by omega
      simp [all, Block.used]

theorem readReceived_eq_parse (strategy : Option CompressStrategy)
    {recvBuffer : Block (2 * maxMessageLen)} {pos : Nat}
    (fits : pos ≤ 2 * maxMessageLen) (pushed : List Bytes) :
    ∃ next, readReceived strategy recvBuffer fits pushed = .ok next ∧
      next.observed =
        ⟨pushed ++ (parse strategy (recvBuffer.used pos)).delivered,
          (parse strategy (recvBuffer.used pos)).verdict⟩ := by
  have size := Block.used_length recvBuffer fits
  by_cases head : messageHeadLen ≤ pos
  · have word : word32 (recvBuffer.pointer 0) = word32 (recvBuffer.used pos) := by
      rw [Block.word32_pointer _ (Nat.le_trans (by decide) head : 0 + 4 ≤ pos), List.drop_zero]
    rw [readReceived, if_pos head]
    by_cases bad : BadLength (word32 (recvBuffer.pointer 0))
    · rw [if_pos bad, parse_bad (by omega) (word ▸ bad)]
      exact ⟨_, rfl, by simp [Session.observed, Reading.verdict]⟩
    · obtain ⟨drained, run, inside, seen⟩ := drain_eq_parse strategy fits (pos + 1) pushed
        (by omega) bad (by omega)
      rw [List.drop_zero] at seen
      rw [if_neg bad, run, ← seen]
      cases drained with
      | stopped reading out =>
        refine ⟨_, rfl, ?_⟩
        simp only [Session.observed, Drained.observed]
      | leftover nowPos out =>
        simp only [Drained.Inside] at inside
        simp only [dif_pos inside]
        exact ⟨_, rfl, dropConsumed_observed fits inside out⟩
  · rw [readReceived, if_neg head, parse_short (by omega)]
    exact ⟨_, rfl, by simp [Session.observed, Reading.verdict]⟩

/-- One read: the session sees what the parser sees in the bytes it held and the new ones. -/
theorem handleReadSome_eq_parse (strategy : Option CompressStrategy) {s : Session} {buffer : Bytes}
    (short : s.reciveBufferPos < maxMessageLen) (sized : buffer.length ≤ maxMessageLen) :
    ∃ next, handleReadSome strategy s buffer = .ok next ∧
      next.observed =
        ⟨s.pushed ++ (parse strategy (s.recvBuffer.used s.reciveBufferPos ++ buffer)).delivered,
          (parse strategy (s.recvBuffer.used s.reciveBufferPos ++ buffer)).verdict⟩ := by
  have fits : s.reciveBufferPos + buffer.length ≤ 2 * maxMessageLen := by omega
  rw [handleReadSome, dif_pos fits, ← Block.used_memcpy fits rfl]
  exact readReceived_eq_parse strategy fits s.pushed

theorem observed_leftover {s : Session} {stream : Bytes} (armed : s.reading = .armed)
    (seen : s.observed = parse strategy stream) : s.reciveBufferPos < maxMessageLen := by
  have tail := congrArg Parsed.verdict seen
  simp only [Session.observed, armed, Reading.verdict] at tail
  rw [← Block.used_length s.recvBuffer s.inBuffer]
  exact parse_tail tail.symm

theorem handleReads_eq_parse (strategy : Option CompressStrategy) {s : Session}
    {stream : Bytes} {buffers : List Bytes}
    (sized : ∀ buffer ∈ buffers, buffer.length ≤ maxMessageLen)
    (seen : s.observed = parse strategy stream) :
    ∃ final, handleReads strategy s buffers = .ok final ∧
      final.observed = parse strategy (stream ++ buffers.flatten) := by
  induction buffers generalizing s stream with
  | nil => exact ⟨s, rfl, by simpa using seen⟩
  | cons buffer rest ih =>
    have restSized : ∀ b ∈ rest, b.length ≤ maxMessageLen :=
      fun b member => sized b (List.mem_cons_of_mem buffer member)
    by_cases armed : s.reading = .armed
    · obtain ⟨next, read, nextSeen⟩ := handleReadSome_eq_parse strategy
        (observed_leftover armed seen) (sized buffer List.mem_cons_self)
      have now : next.observed = parse strategy (stream ++ buffer) := by
        rw [nextSeen, parse_append stream buffer, ← seen]
        simp [Session.observed, armed, Reading.verdict]
      obtain ⟨final, run, finalSeen⟩ := ih restSized now
      refine ⟨final, ?_, by rw [finalSeen, List.flatten_cons, List.append_assoc]⟩
      simp only [handleReads, if_pos armed, read, run]
    · refine ⟨s, by simp only [handleReads, if_neg armed], ?_⟩
      rw [parse_append, ← seen]
      cases stopped : s.reading with
      | armed => exact absurd stopped armed
      | bannedHackPacket => simp only [Session.observed, stopped, Reading.verdict]
      | bannedWrongCheckSum => simp only [Session.observed, stopped, Reading.verdict]

theorem handleAccept_observed (recvBuffer : Block (2 * maxMessageLen)) :
    (handleAccept recvBuffer).observed = parse strategy [] := by
  rw [parse_short (by decide)]
  simp [handleAccept, Session.observed, Reading.verdict, Block.used]

/-- However a stream is cut into reads, the session shows what the parser says of the whole. -/
theorem reads_match_reference (strategy : Option CompressStrategy)
    (recvBuffer : Block (2 * maxMessageLen)) (buffers : List Bytes)
    (sized : ∀ buffer ∈ buffers, 1 ≤ buffer.length ∧ buffer.length ≤ maxMessageLen) :
    ∃ final, handleReads strategy (handleAccept recvBuffer) buffers = .ok final ∧
      final.observed = parse strategy buffers.flatten := by
  obtain ⟨final, run, seen⟩ := handleReads_eq_parse strategy
    (fun buffer member => (sized buffer member).2) (handleAccept_observed recvBuffer)
  exact ⟨final, run, by simpa using seen⟩

theorem reads_match_reference_split_header :
    ∃ final, handleReads none (handleAccept (Block.zeroed _))
        [[11, 0], [0, 0, 0, 0, 0, 0, 0, 0, 7, 9]] = .ok final ∧
      final.observed = parse none [11, 0, 0, 0, 0, 0, 0, 0, 0, 0, 7, 9] :=
  reads_match_reference none (Block.zeroed _) [[11, 0], [0, 0, 0, 0, 0, 0, 0, 0, 7, 9]] (by decide)

/-- No fault is reached, and a session that reads on holds less than one frame. -/
theorem reads_stay_in_bounds (strategy : Option CompressStrategy)
    (recvBuffer : Block (2 * maxMessageLen)) (buffers : List Bytes)
    (sized : ∀ buffer ∈ buffers, buffer.length ≤ maxMessageLen) :
    ∃ final, handleReads strategy (handleAccept recvBuffer) buffers = .ok final ∧
      (final.reading = .armed → final.reciveBufferPos < maxMessageLen) := by
  obtain ⟨final, run, seen⟩ := handleReads_eq_parse strategy sized
    (handleAccept_observed recvBuffer)
  exact ⟨final, run, fun armed => observed_leftover armed seen⟩

theorem reads_stay_in_bounds_bad_length :
    ∃ final, handleReads none (handleAccept (Block.zeroed _))
        [[255, 255, 255, 255], [], [0, 0, 0, 0, 0, 0]] = .ok final ∧
      (final.reading = .armed → final.reciveBufferPos < maxMessageLen) :=
  reads_stay_in_bounds none (Block.zeroed _) [[255, 255, 255, 255], [], [0, 0, 0, 0, 0, 0]]
    (by decide)

end TcpSession
