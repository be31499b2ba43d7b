import DreamHeroes.ProtocBuffer

/- Sending a protobuf message through the buffers of a thread: pushProtocMessage writes an
   envelope into the send buffer, and parseProtocmessage copies one into the receive buffer. -/
namespace ThreadBuffers

open ByteWords ProtocBuffer

def bufferDefaultLength : Nat := 65000

/- An entry of _buffer_array with its _buffer_length; no buffer has the length 0. -/
structure ThreadBuffer where
  size : Nat
  block : Block size

namespace ThreadBuffer

def none : ThreadBuffer := ⟨0, .zeroed 0⟩

/-- The product is one of unsigned ints. -/
def grownLength (maxlen : Nat) : Nat :=
  if maxlen < bufferDefaultLength then bufferDefaultLength else maxlen * 150 % 2 ^ 32 / 100

def getThreadBuffer (buffer : ThreadBuffer) (maxlen : Nat) : ThreadBuffer :=
  if buffer.size < maxlen then ⟨grownLength maxlen, .zeroed (grownLength maxlen)⟩ else buffer

end ThreadBuffer

/- thread_packet_buffer without the compress buffer, which the two functions leave alone. -/
structure ThreadPacketBuffer where
  send : ThreadBuffer
  recv : ThreadBuffer

/-- The buffers of a thread that has not sent or received. -/
def ThreadPacketBuffer.new : ThreadPacketBuffer := ⟨.none, .none⟩

/- thread_send_buffer. fault is what a write threw or an assert found; nothing is done to the
   buffer behind it. -/
structure SendBuffer (maxLength : Nat) where
  buff : Block maxLength
  buffPos : Nat
  inside : buffPos ≤ maxLength
  fault : Option Fault

namespace SendBuffer

variable {maxLength : Nat}

def ofBuffer (buffer : ThreadBuffer) : SendBuffer buffer.size :=
  ⟨buffer.block, 0, Nat.zero_le _, none⟩

@[simp] theorem ofBuffer_buffPos (buffer : ThreadBuffer) : (ofBuffer buffer).buffPos = 0 := rfl

def getLastLen (packet : SendBuffer maxLength) : Nat := maxLength - packet.buffPos

def getBuff (packet : SendBuffer maxLength) : Bytes := packet.buff.used packet.buffPos

def write (packet : SendBuffer maxLength) (item : Bytes) : SendBuffer maxLength :=
  if packet.fault = none then
    if fits : packet.buffPos + item.length < maxLength then
      { buff := packet.buff.memcpy packet.buffPos item (Nat.le_of_lt fits)
        buffPos := packet.buffPos + item.length
        inside := Nat.le_of_lt fits
        fault := none }
    else { packet with fault := some .buffException }
  else packet

/-- What SerializeToArray does with getBegin and getLastLen. -/
def serialize (packet : SendBuffer maxLength) (body : Bytes) : Option (SendBuffer maxLength) :=
  if fits : body.length ≤ packet.getLastLen then
    some { packet with
      buff := packet.buff.memcpy packet.buffPos body (by
        have inside := packet.inside
        rw [getLastLen] at fits
        omega) }
  else none

def addWriteLen (packet : SendBuffer maxLength) (add : Nat) : SendBuffer maxLength :=
  if fits : packet.buffPos + add < maxLength then
    { packet with buffPos := packet.buffPos + add, inside := Nat.le_of_lt fits }
  else { packet with fault := some .assertFailed }

end SendBuffer

/-- The sending side of the protobuf library, for messages with all required fields set. -/
structure Serializer (Message : Type) where
  getTypeName : Message → Bytes
  serialize : Message → Bytes

variable {Descriptor Prototype Message : Type}

/-- The length that is asked for, in which the flag is not counted. -/
def maxLen (serializer : Serializer Message) (msg : Message) : Nat :=
  (pbNameTypeSize + (serializer.getTypeName msg).length + (serializer.serialize msg).length) % 2 ^ 32

/-- The writes in front of the body. -/
def writeHeader (serializer : Serializer Message) (buffer : ThreadBuffer) (msg : Message)
    (flag : Nat) : SendBuffer buffer.size :=
  (((SendBuffer.ofBuffer buffer).write (littleEndian pbFlagTypeSize flag)).write
    (littleEndian pbNameTypeSize (serializer.getTypeName msg).length)).write
      (serializer.getTypeName msg)

/-- What the sender is given, or nothing if false is returned, and the buffer behind it. -/
def writeBody {maxLength : Nat} (packet : SendBuffer maxLength) (body : Bytes) :
    Block maxLength × Except Fault (Option Bytes) :=
  match packet.fault with
  | some fault => (packet.buff, .error fault)
  | none =>
      match packet.serialize body with
      | none => (packet.buff, .ok none)
      | some packet =>
          match (packet.addWriteLen body.length).fault with
          | some fault => (packet.buff, .error fault)
          | none => (packet.buff, .ok (some (packet.addWriteLen body.length).getBuff))

/-- The copy of the body in temp is not used. -/
def pushProtocMessage (serializer : Serializer Message) (buffers : ThreadPacketBuffer)
    (msg : Message) (flag : Nat) : ThreadPacketBuffer × Except Fault (Option Bytes) :=
  let buffer := buffers.send.getThreadBuffer (maxLen serializer msg)
  let written := writeBody (writeHeader serializer buffer msg flag) (serializer.serialize msg)
  ({ buffers with send := ⟨buffer.size, written.1⟩ }, written.2)

/- parseProtocmessage with the buffer it copies to. No result stands for a copy that runs over
   the end of the buffer. -/
def receive (lib : Protobuf Descriptor Prototype Message) (buffers : ThreadPacketBuffer)
    (payload : Bytes) : ThreadPacketBuffer × Option (Except Fault (Returned Message)) :=
  if payload.length = 0 then (buffers, some (.ok ⟨false, []⟩))
  else
    let buffer := buffers.recv.getThreadBuffer ((payload.length + 1) % 2 ^ 32)
    if fits : 0 + payload.length ≤ buffer.size then
      ({ buffers with recv := ⟨buffer.size, buffer.block.memcpy 0 payload fits⟩ },
        some (parseProtocmessage lib payload))
    else ({ buffers with recv := buffer }, none)

/-- The flag, the length of the name, the name and the body. -/
def envelope (serializer : Serializer Message) (msg : Message) (flag : Nat) : Bytes :=
  littleEndian pbFlagTypeSize flag ++
    littleEndian pbNameTypeSize (serializer.getTypeName msg).length ++
    serializer.getTypeName msg ++ serializer.serialize msg

/-- One envelope goes to the sender, and the handler is called with the message and the flag,
once. -/
def RoundTrip (serializer : Serializer Message) (lib : Protobuf Descriptor Prototype Message)
    (sender receiver : ThreadPacketBuffer) (msg : Message) (flag : Nat) : Prop :=
  ∃ payload, (pushProtocMessage serializer sender msg flag).2 = .ok (some payload) ∧
    (receive lib receiver payload).2 = some (.ok ⟨true, [(msg, flag)]⟩)

/-- The library knows the type of the message and parses what it serialised. -/
structure Registered (serializer : Serializer Message)
    (lib : Protobuf Descriptor Prototype Message) (msg : Message) : Prop where
  named : serializer.getTypeName msg ≠ []
  parsed : ∃ descriptor aPrototype,
    lib.findMessageTypeByName (serializer.getTypeName msg) = some descriptor ∧
    lib.getPrototype descriptor = some aPrototype ∧
    lib.parseFromArray aPrototype (serializer.serialize msg) = some msg

/-- The send buffer is long enough for an envelope, or so short that it is replaced. -/
def Roomy (size length : Nat) : Prop := size + pbFlagTypeSize < length ∨ length < size

variable {maxLength : Nat} {packet : SendBuffer maxLength} {item body : Bytes}
  {serializer : Serializer Message} {lib : Protobuf Descriptor Prototype Message}
  {sender receiver : ThreadPacketBuffer} {msg : Message} {flag : Nat}

theorem write_fits (fine : packet.fault = none)
    (fits : packet.buffPos + item.length < maxLength) :
    (packet.write item).fault = none ∧
      (packet.write item).buffPos = packet.buffPos + item.length ∧
      (packet.write item).getBuff = packet.getBuff ++ item := by
  simp only [SendBuffer.write, if_pos fine, dif_pos fits, true_and]
  exact Block.used_memcpy (Nat.le_of_lt fits) rfl

/-- A write that throws nothing was not behind one that did, and had room. -/
theorem write_fine (fine : (packet.write item).fault = none) :
    packet.fault = none ∧ packet.buffPos + item.length < maxLength ∧
      (packet.write item).buffPos = packet.buffPos + item.length := by
  unfold SendBuffer.write at fine ⊢
  by_cases before : packet.fault = none
  · by_cases fits : packet.buffPos + item.length < maxLength
    · simp [before, fits]
    · simp [before, fits] at fine
  · simp [before] at fine

theorem writeBody_fits (fine : packet.fault = none)
    (fits : packet.buffPos + body.length < maxLength) :
    (writeBody packet body).2 = .ok (some (packet.getBuff ++ body)) := by
  have last : body.length ≤ packet.getLastLen := by
    rw [SendBuffer.getLastLen]
    omega
  simp only [writeBody, fine, SendBuffer.serialize, dif_pos last, SendBuffer.addWriteLen,
    dif_pos fits, SendBuffer.getBuff]
  rw [Block.used_memcpy (Nat.le_of_lt fits) rfl]

/-- What is handed over fitted with a byte to spare. -/
theorem writeBody_fine {payload : Bytes} (sent : (writeBody packet body).2 = .ok (some payload)) :
    packet.fault = none ∧ packet.buffPos + body.length < maxLength := by
  unfold writeBody at sent
  split at sent
  · cases sent
  · rename_i fine
    refine ⟨fine, ?_⟩
    by_contra short
    unfold SendBuffer.serialize at sent
    by_cases last : body.length ≤ packet.getLastLen
    · simp [last, SendBuffer.addWriteLen, short] at sent
    · simp [last] at sent

theorem envelope_length (serializer : Serializer Message) (msg : Message) (flag : Nat) :
    (envelope serializer msg flag).length =
      pbFlagTypeSize + pbNameTypeSize + (serializer.getTypeName msg).length +
        (serializer.serialize msg).length := by
  simp [envelope, Nat.add_assoc]

theorem writeHeader_fits {buffer : ThreadBuffer}
    (fits : pbFlagTypeSize + pbNameTypeSize + (serializer.getTypeName msg).length < buffer.size) :
    (writeHeader serializer buffer msg flag).fault = none ∧
      (writeHeader serializer buffer msg flag).buffPos =
        pbFlagTypeSize + pbNameTypeSize + (serializer.getTypeName msg).length ∧
      (writeHeader serializer buffer msg flag).getBuff = littleEndian pbFlagTypeSize flag ++
        littleEndian pbNameTypeSize (serializer.getTypeName msg).length ++
          serializer.getTypeName msg := by
  obtain ⟨flagged, flagEnd, flagBytes⟩ := @write_fits _ (SendBuffer.ofBuffer buffer)
    (littleEndian pbFlagTypeSize flag) rfl (by simp; omega)
  simp only [SendBuffer.ofBuffer_buffPos, littleEndian_length, Nat.zero_add] at flagEnd
  obtain ⟨counted, countEnd, countBytes⟩ := @write_fits _ _
    (littleEndian pbNameTypeSize (serializer.getTypeName msg).length) flagged
    (by rw [flagEnd, littleEndian_length]; omega)
  rw [flagEnd, littleEndian_length] at countEnd
  obtain ⟨named, nameEnd, nameBytes⟩ := @write_fits _ _ (serializer.getTypeName msg) counted
    (by rw [countEnd]; exact fits)
  rw [countEnd] at nameEnd
  refine ⟨named, nameEnd, ?_⟩
  rw [writeHeader, nameBytes, countBytes, flagBytes]
  simp [SendBuffer.getBuff, SendBuffer.ofBuffer, Block.used]

/-- The envelope is handed over if it is shorter than the buffer. -/
theorem written_fits {buffer : ThreadBuffer}
    (fits : (envelope serializer msg flag).length < buffer.size) :
    (writeBody (writeHeader serializer buffer msg flag) (serializer.serialize msg)).2 =
      .ok (some (envelope serializer msg flag)) := by
  rw [envelope_length] at fits
  obtain ⟨fine, last, bytes⟩ := @writeHeader_fits _ serializer msg flag buffer (by omega)
  rw [writeBody_fits fine (by rw [last]; exact fits), bytes, envelope]

/-- A body that does not fit behind its header is not sent, without a fault. -/
theorem written_refused {buffer : ThreadBuffer}
    (header : pbFlagTypeSize + pbNameTypeSize + (serializer.getTypeName msg).length < buffer.size)
    (large : buffer.size < (envelope serializer msg flag).length) :
    (writeBody (writeHeader serializer buffer msg flag) (serializer.serialize msg)).2 =
      .ok none := by
  rw [envelope_length] at large
  obtain ⟨fine, last, _⟩ := @writeHeader_fits _ serializer msg flag buffer header
  have short : ¬ (serializer.serialize msg).length ≤
      (writeHeader serializer buffer msg flag).getLastLen := by
    rw [SendBuffer.getLastLen, last]
    omega
  simp [writeBody, fine, SendBuffer.serialize, short]

theorem written_fine {buffer : ThreadBuffer} {payload : Bytes}
    (sent : (writeBody (writeHeader serializer buffer msg flag) (serializer.serialize msg)).2 =
      .ok (some payload)) : (envelope serializer msg flag).length < buffer.size := by
  obtain ⟨named, fits⟩ := writeBody_fine sent
  obtain ⟨counted, _, nameEnd⟩ := write_fine named
  obtain ⟨flagged, _, countEnd⟩ := write_fine counted
  obtain ⟨_, _, flagEnd⟩ := write_fine flagged
  have last : (writeHeader serializer buffer msg flag).buffPos =
      pbFlagTypeSize + pbNameTypeSize + (serializer.getTypeName msg).length := by
    rw [writeHeader, nameEnd, countEnd, flagEnd]
    simp
  rw [last] at fits
  rw [envelope_length]
  exact fits

theorem push_result (serializer : Serializer Message) (sender : ThreadPacketBuffer)
    (msg : Message) (flag : Nat) :
    (pushProtocMessage serializer sender msg flag).2 =
      (writeBody (writeHeader serializer (sender.send.getThreadBuffer (maxLen serializer msg)) msg
        flag) (serializer.serialize msg)).2 := rfl

/-- What pushProtocMessage hands over, it hands over whole. -/
theorem push_sent_iff (serializer : Serializer Message) (sender : ThreadPacketBuffer)
    (msg : Message) (flag : Nat) (payload : Bytes) :
    (pushProtocMessage serializer sender msg flag).2 = .ok (some payload) ↔
      (envelope serializer msg flag).length <
        (sender.send.getThreadBuffer (maxLen serializer msg)).size ∧
      payload = envelope serializer msg flag := by
  rw [push_result]
  constructor
  · intro sent
    have fits := written_fine sent
    refine ⟨fits, ?_⟩
    have whole := (written_fits fits).symm.trans sent
    simpa using whole.symm
  · rintro ⟨fits, rfl⟩
    exact written_fits fits

/- The receiving side. -/

theorem parse_envelope (registered : Registered serializer lib msg) (word : flag < 2 ^ 32)
    (short : (serializer.getTypeName msg).length < 2 ^ 32) :
    parseProtocmessage lib (envelope serializer msg flag) = .ok ⟨true, [(msg, flag)]⟩ := by
  obtain ⟨descriptor, aPrototype, found, generated, parsed⟩ := registered.parsed
  have named := List.length_pos_iff.mpr registered.named
  have length := envelope_length serializer msg flag
  simp only [pbFlagTypeSize, pbNameTypeSize] at length
  have flagWord : word32 (envelope serializer msg flag) = flag := by
    rw [envelope, List.append_assoc, List.append_assoc]
    exact word32_littleEndian word _
  have behind : (envelope serializer msg flag).drop 4 =
      littleEndian pbNameTypeSize (serializer.getTypeName msg).length ++
        (serializer.getTypeName msg ++ serializer.serialize msg) := by
    rw [envelope, List.append_assoc, List.append_assoc]
    exact List.drop_left' (littleEndian_length 4 flag)
  have countWord : word32 ((envelope serializer msg flag).drop 4) =
      (serializer.getTypeName msg).length := by
    rw [behind]
    exact word32_littleEndian short _
  have rest : (envelope serializer msg flag).drop 8 =
      serializer.getTypeName msg ++ serializer.serialize msg := by
    rw [← List.drop_drop (i := 4) (j := 4), behind]
    exact List.drop_left' (littleEndian_length 4 _)
  have known : ¬ ((envelope serializer msg flag).length < (serializer.getTypeName msg).length ∨
      (serializer.getTypeName msg).length = 0) := by omega
  have last : ¬ (envelope serializer msg flag).length - 8 <
      (serializer.getTypeName msg).length := by omega
  have inside : 8 + (serializer.getTypeName msg).length ≤
      (envelope serializer msg flag).length := by
    omega
  have body : ((envelope serializer msg flag).drop (8 + (serializer.getTypeName msg).length)).take
      ((envelope serializer msg flag).length - (8 + (serializer.getTypeName msg).length)) =
      serializer.serialize msg := by
    rw [← List.drop_drop, rest, List.drop_left' rfl]
    exact List.take_of_length_le (by omega)
  rw [header_inner lib (by omega), flagWord, countWord, parseName]
  simp only [RecvBuffer.getLen, RecvBuffer.getLastLen, RecvBuffer.getBegin,
    RecvBuffer.addReadLen, if_neg known, if_neg last, dif_pos inside, rest, List.take_left' rfl,
    parseBody, found, generated, body, parsed]

theorem grownLength_default {maxlen : Nat} (small : maxlen < bufferDefaultLength) :
    ThreadBuffer.grownLength maxlen = bufferDefaultLength := if_pos small

/-- As long as the product does not wrap around, a buffer has the default length at least, and
what was asked for. -/
theorem grownLength_enough {maxlen : Nat} (modest : maxlen * 150 < 2 ^ 32) :
    bufferDefaultLength ≤ ThreadBuffer.grownLength maxlen ∧
      maxlen ≤ ThreadBuffer.grownLength maxlen := by
  by_cases small : maxlen < bufferDefaultLength
  · rw [grownLength_default small]
    exact ⟨Nat.le_refl _, Nat.le_of_lt small⟩
  · rw [ThreadBuffer.grownLength, if_neg small, Nat.mod_eq_of_lt modest]
    omega

/-- The copy fits, whatever the receive buffer was used for. -/
theorem receive_envelope (registered : Registered serializer lib msg) (word : flag < 2 ^ 32)
    (small : (envelope serializer msg flag).length < bufferDefaultLength)
    (receiver : ThreadPacketBuffer) :
    (receive lib receiver (envelope serializer msg flag)).2 =
      some (.ok ⟨true, [(msg, flag)]⟩) := by
  have length := envelope_length serializer msg flag
  simp only [pbFlagTypeSize, pbNameTypeSize] at length
  have default : bufferDefaultLength = 65000 := rfl
  have some : (envelope serializer msg flag).length ≠ 0 := by omega
  have enough := (@grownLength_enough ((envelope serializer msg flag).length + 1) (by omega)).2
  have fits : 0 + (envelope serializer msg flag).length ≤
      (receiver.recv.getThreadBuffer (((envelope serializer msg flag).length + 1) % 2 ^ 32)).size := by
    rw [Nat.mod_eq_of_lt (by omega)]
    unfold ThreadBuffer.getThreadBuffer
    split
    · exact Nat.le_trans (by omega) enough
    · omega
  rw [receive, if_neg some]
  simp only [dif_pos fits]
  rw [parse_envelope registered word (by omega)]

/-- The envelope that is asked for without its flag finds room exactly in a roomy buffer. -/
theorem room_iff (small : (envelope serializer msg flag).length < bufferDefaultLength)
    (buffer : ThreadBuffer) :
    (envelope serializer msg flag).length < (buffer.getThreadBuffer (maxLen serializer msg)).size ↔
      Roomy buffer.size (envelope serializer msg flag).length := by
  have length := envelope_length serializer msg flag
  have default : bufferDefaultLength = 65000 := rfl
  simp only [Roomy, pbFlagTypeSize, pbNameTypeSize] at length ⊢
  have asked : maxLen serializer msg + 4 = (envelope serializer msg flag).length := by
    simp only [maxLen, pbNameTypeSize]
    rw [Nat.mod_eq_of_lt (by omega)]
    omega
  unfold ThreadBuffer.getThreadBuffer
  split
  · simp only [grownLength_default (show maxLen serializer msg < _ by omega)]
    omega
  · omega

theorem round_trip_roomy (registered : Registered serializer lib msg) (word : flag < 2 ^ 32)
    (small : (envelope serializer msg flag).length < bufferDefaultLength)
    (roomy : Roomy sender.send.size (envelope serializer msg flag).length) :
    RoundTrip serializer lib sender receiver msg flag := by
  have fits := (room_iff small sender.send).mpr roomy
  refine ⟨envelope serializer msg flag, ?_, receive_envelope registered word small receiver⟩
  exact (push_sent_iff serializer sender msg flag _).mpr ⟨fits, rfl⟩

/- The earlier traffic of a thread. -/

inductive Use (Message : Type) where
  | push (msg : Message) (flag : Nat)
  | receive (payload : Bytes)

def ThreadPacketBuffer.use (serializer : Serializer Message)
    (lib : Protobuf Descriptor Prototype Message) (buffers : ThreadPacketBuffer) :
    Use Message → ThreadPacketBuffer
  | .push msg flag => (pushProtocMessage serializer buffers msg flag).1
  | .receive payload => (ThreadBuffers.receive lib buffers payload).1

/-- The buffers that earlier traffic leaves behind. -/
def ThreadPacketBuffer.after (serializer : Serializer Message)
    (lib : Protobuf Descriptor Prototype Message) (earlier : List (Use Message)) :
    ThreadPacketBuffer :=
  earlier.foldl (ThreadPacketBuffer.use serializer lib) .new

variable {buffers : ThreadPacketBuffer} {use : Use Message}

/-- What a use asks of the send buffer. -/
def Use.asks (serializer : Serializer Message) : Use Message → Nat
  | .push msg _ => maxLen serializer msg
  | .receive _ => 0

/-- No message was so large that the product of its length and 150 wraps around. -/
def Modest (serializer : Serializer Message) (use : Use Message) : Prop :=
  use.asks serializer * 150 < 2 ^ 32

/-- The send buffer does not exist or has the default length at least. -/
def Grown (buffers : ThreadPacketBuffer) : Prop :=
  buffers.send.size = 0 ∨ bufferDefaultLength ≤ buffers.send.size

theorem use_send (serializer : Serializer Message) (lib : Protobuf Descriptor Prototype Message)
    (buffers : ThreadPacketBuffer) (use : Use Message) :
    (buffers.use serializer lib use).send.size =
      (buffers.send.getThreadBuffer (use.asks serializer)).size := by
  cases use with
  | push msg flag => rfl
  | receive payload =>
    have same : (ThreadBuffers.receive lib buffers payload).1.send = buffers.send := by
      simp only [ThreadBuffers.receive]
      split
      · rfl
      · split <;> rfl
    simp only [ThreadPacketBuffer.use, same, Use.asks, ThreadBuffer.getThreadBuffer,
      Nat.not_lt_zero, if_false]

theorem grown_use (grown : Grown buffers) (modest : Modest serializer use) :
    Grown (buffers.use serializer lib use) := by
  unfold Grown at grown ⊢
  rw [use_send]
  unfold ThreadBuffer.getThreadBuffer
  split
  · exact .inr (grownLength_enough modest).1
  · exact grown

theorem grown_after (earlier : List (Use Message))
    (modest : ∀ use ∈ earlier, Modest serializer use) :
    Grown (.after serializer lib earlier) := by
  have uses : ∀ buffers, Grown buffers →
      Grown (earlier.foldl (ThreadPacketBuffer.use serializer lib) buffers) := by
    induction earlier with
    | nil => exact fun _ grown => grown
    | cons use rest ih =>
      intro buffers grown
      have first := modest use List.mem_cons_self
      have later := ih fun other member => modest other (List.mem_cons_of_mem use member)
      exact later _ (grown_use grown first)
  exact uses _ (.inl rfl)

theorem roomy_grown {length : Nat} (grown : Grown buffers) (some : pbFlagTypeSize < length)
    (small : length < bufferDefaultLength) : Roomy buffers.send.size length := by
  rcases grown with none | grown
  · left
    rw [none, Nat.zero_add]
    exact some
  · exact .inr (Nat.lt_of_lt_of_le small grown)

/-- Behind messages of modest size every envelope makes its way. -/
theorem modest_traffic_round_trip (earlier : List (Use Message)) (receiver : ThreadPacketBuffer)
    (modest : ∀ use ∈ earlier, Modest serializer use) (registered : Registered serializer lib msg)
    (word : flag < 2 ^ 32) (small : (envelope serializer msg flag).length ≤ 64999) :
    RoundTrip serializer lib (.after serializer lib earlier) receiver msg flag := by
  apply round_trip_roomy registered word (Nat.lt_succ_of_le small)
  apply roomy_grown (grown_after earlier modest) _ (Nat.lt_succ_of_le small)
  have length := envelope_length serializer msg flag
  have named := List.length_pos_iff.mpr registered.named
  simp only [pbFlagTypeSize, pbNameTypeSize] at length ⊢
  omega

/-- Exactly a roomy send buffer carries an envelope of at most 64999 bytes to the handler. -/
theorem round_trip_iff (serializer : Serializer Message)
    (lib : Protobuf Descriptor Prototype Message) (sender receiver : ThreadPacketBuffer)
    (msg : Message) (flag : Nat) (registered : Registered serializer lib msg)
    (word : flag < 2 ^ 32) (small : (envelope serializer msg flag).length ≤ 64999) :
    RoundTrip serializer lib sender receiver msg flag ↔
      Roomy sender.send.size (envelope serializer msg flag).length := by
  have less : (envelope serializer msg flag).length < bufferDefaultLength := Nat.lt_succ_of_le small
  constructor
  · rintro ⟨payload, sent, _⟩
    apply (room_iff less sender.send).mp
    exact ((push_sent_iff serializer sender msg flag payload).mp sent).1
  · exact round_trip_roomy registered word less

/- A library with one type and two messages, one of them as large as it takes for the product
   to wrap around and leave a buffer of 115 bytes. -/

def bodyLength (large : Bool) : Nat := if large then 28633187 else 107

def oneType : Serializer Bool where
  getTypeName := fun _ => [77]
  serialize := fun large => List.replicate (bodyLength large) 0

def oneParser : Protobuf Unit Unit Bool where
  findMessageTypeByName := fun _ => some ()
  getPrototype := fun _ => some ()
  parseFromArray := fun _ body => some (body.length != 107)

theorem oneType_registered (large : Bool) : Registered oneType oneParser large where
  named := List.cons_ne_nil 77 []
  parsed := by
    refine ⟨(), (), rfl, rfl, ?_⟩
    simp only [oneParser, oneType, List.length_replicate]
    cases large with
    | false => rfl
    | true => rfl

theorem oneType_envelope (large : Bool) (flag : Nat) :
    (envelope oneType large flag).length = 9 + bodyLength large := by
  rw [envelope_length]
  simp only [oneType, List.length_replicate]
  rfl

theorem oneType_maxLen (large : Bool) : maxLen oneType large = (5 + bodyLength large) % 2 ^ 32 := by
  simp only [maxLen, oneType, List.length_replicate]
  rfl

theorem round_trip_iff_first :
    RoundTrip oneType oneParser .new .new false 7 ↔ Roomy 0 116 := by
  have length := oneType_envelope false 7
  have trip := round_trip_iff oneType oneParser .new .new false 7 (oneType_registered false)
    (by decide) (by rw [length]; decide)
  rw [length] at trip
  exact trip

theorem grown_large :
    (ThreadPacketBuffer.new.send.getThreadBuffer (maxLen oneType true)).size = 115 := by
  have asked : maxLen oneType true = 28633192 := oneType_maxLen true
  rw [asked]
  decide

/-- Behind the large message, which is only refused, a message of 116 bytes is not sent. -/
theorem envelope_not_sent :
    (pushProtocMessage oneType .new true 0).2 = .ok none ∧
      ¬ RoundTrip oneType oneParser (.after oneType oneParser [.push true 0]) .new false 7 := by
  constructor
  · have header : pbFlagTypeSize + pbNameTypeSize + (oneType.getTypeName true).length <
        (ThreadPacketBuffer.new.send.getThreadBuffer (maxLen oneType true)).size := by
      rw [grown_large]
      decide
    have large : (ThreadPacketBuffer.new.send.getThreadBuffer (maxLen oneType true)).size <
        (envelope oneType true 0).length := by
      rw [grown_large, oneType_envelope]
      decide
    rw [push_result]
    exact written_refused header large
  · rintro ⟨payload, sent, _⟩
    have fits := ((push_sent_iff oneType _ false 7 payload).mp sent).1
    have size : (ThreadPacketBuffer.after oneType oneParser [.push true 0]).send.size = 115 := by
      rw [ThreadPacketBuffer.after, List.foldl_cons, List.foldl_nil, use_send, Use.asks]
      exact grown_large
    rw [oneType_envelope, oneType_maxLen, ThreadBuffer.getThreadBuffer, size] at fits
    exact absurd fits (by rw [if_neg (by decide), size]; decide)

end ThreadBuffers
