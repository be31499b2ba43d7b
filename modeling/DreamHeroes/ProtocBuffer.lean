import DreamHeroes.ByteWords

/- Parsing a frame payload: a flag word, a name length word, the type name and the body.
   A payload is shorter than a frame, so positions never wrap around 2 ^ 32. -/
namespace ProtocBuffer

open ByteWords

def pbFlagTypeSize : Nat := 4
def pbNameTypeSize : Nat := 4

inductive Fault where
  | buffException
  | assertFailed
  | readOutside
  deriving DecidableEq, Repr

/-- thread_recv_buffer over the bytes it was given; the allocation behind them is larger. -/
structure RecvBuffer where
  buff : Bytes
  buffPos : Nat
  inside : buffPos ≤ buff.length

namespace RecvBuffer

def ofPayload (payload : Bytes) : RecvBuffer := ⟨payload, 0, Nat.zero_le _⟩

@[simp] theorem ofPayload_buff (payload : Bytes) : (ofPayload payload).buff = payload := rfl
@[simp] theorem ofPayload_buffPos (payload : Bytes) : (ofPayload payload).buffPos = 0 := rfl

def getLen (packet : RecvBuffer) : Nat := packet.buff.length
def getBegin (packet : RecvBuffer) : Bytes := packet.buff.drop packet.buffPos
def getLastLen (packet : RecvBuffer) : Nat := packet.buff.length - packet.buffPos
def resetReadPos (packet : RecvBuffer) : RecvBuffer := ofPayload packet.buff

def addReadLen (packet : RecvBuffer) (add : Nat) : Except Fault RecvBuffer :=
  if inside : packet.buffPos + add ≤ packet.buff.length then
    .ok ⟨packet.buff, packet.buffPos + add, inside⟩
  else .error .assertFailed

/- A read that reaches the end of the buffer rewinds it to the beginning. -/
def read (packet : RecvBuffer) (len : Nat) : Except Fault (Bytes × RecvBuffer) :=
  if inside : packet.buffPos + len ≤ packet.buff.length then
    let next : RecvBuffer := ⟨packet.buff, packet.buffPos + len, inside⟩
    .ok (packet.getBegin.take len,
      if next.buffPos = next.buff.length then next.resetReadPos else next)
  else .error .buffException

end RecvBuffer

/-- The protobuf library: the generated pool, the generated factory and the message parser. -/
structure Protobuf (Descriptor Prototype Message : Type) where
  findMessageTypeByName : Bytes → Option Descriptor
  getPrototype : Descriptor → Option Prototype
  parseFromArray : Prototype → Bytes → Option Message

/-- The value returned and the calls made to the handler. -/
structure Returned (Message : Type) where
  value : Bool
  handled : List (Message × Nat)

variable {Descriptor Prototype Message : Type}

def parseBody (lib : Protobuf Descriptor Prototype Message) (flag : Nat) (name : Bytes)
    (packet : RecvBuffer) : Returned Message :=
  match lib.findMessageTypeByName name with
  | none => ⟨false, []⟩
  | some descriptor =>
      match lib.getPrototype descriptor with
      | none => ⟨false, []⟩
      | some aPrototype =>
          match lib.parseFromArray aPrototype (packet.getBegin.take packet.getLastLen) with
          | none => ⟨false, []⟩
          | some message => ⟨true, [(message, flag)]⟩

/- parseProtocmessage behind its two header reads. The std::string is built from memory
   before addReadLen asserts that the name was inside. -/
def parseName (lib : Protobuf Descriptor Prototype Message) (flag nameLen : Nat)
    (packet : RecvBuffer) : Except Fault (Returned Message) :=
  if packet.getLen < nameLen ∨ nameLen = 0 then .ok ⟨false, []⟩
  else if packet.getLastLen < nameLen then .error .readOutside
  else
    match packet.addReadLen nameLen with
    | .error fault => .error fault
    | .ok rest => .ok (parseBody lib flag (packet.getBegin.take nameLen) rest)

def parseProtocmessage (lib : Protobuf Descriptor Prototype Message) (payload : Bytes) :
    Except Fault (Returned Message) :=
  if payload.length = 0 then .ok ⟨false, []⟩
  else
    match (RecvBuffer.ofPayload payload).read pbFlagTypeSize with
    | .error fault => .error fault
    | .ok (flag, packet) =>
        match packet.read pbNameTypeSize with
        | .error fault => .error fault
        | .ok (nameLen, packet) => parseName lib (word32 flag) (word32 nameLen) packet

/-- The handler is called once, or false is returned; no fault on the way. -/
def HandledOrRefused (result : Except Fault (Returned Message)) : Prop :=
  ∃ returned, result = .ok returned ∧
    ((returned.value = true ∧ returned.handled.length = 1) ∨
      (returned.value = false ∧ returned.handled = []))

/- Payloads of four and of eight bytes end with a header read, which rewinds the buffer:
   their name is then read from the beginning and fits. -/
def Readable (payload : Bytes) : Prop :=
  payload.length = 0 ∨ payload.length = 4 ∨ payload.length = 8 ∨
    (8 < payload.length ∧
      (word32 (payload.drop 4) = 0 ∨ payload.length < word32 (payload.drop 4) ∨
        8 + word32 (payload.drop 4) ≤ payload.length))

theorem parseBody_handled (lib : Protobuf Descriptor Prototype Message) (flag : Nat)
    (name : Bytes) (packet : RecvBuffer) :
    HandledOrRefused (.ok (parseBody lib flag name packet)) := by
  refine ⟨_, rfl, ?_⟩
  unfold parseBody
  split
  · exact .inr ⟨rfl, rfl⟩
  · split
    · exact .inr ⟨rfl, rfl⟩
    · split
      · exact .inr ⟨rfl, rfl⟩
      · exact .inl ⟨rfl, rfl⟩

theorem fault_not_handled (fault : Fault) :
    ¬ HandledOrRefused (.error fault : Except Fault (Returned Message)) := by
  rintro ⟨returned, ended, _⟩
  cases ended

theorem read_short {packet : RecvBuffer} {len : Nat}
    (short : packet.buff.length < packet.buffPos + len) :
    packet.read len = .error .buffException := by
  rw [RecvBuffer.read, dif_neg (Nat.not_le.mpr short)]

theorem read_end {packet : RecvBuffer} {len : Nat}
    (reach : packet.buffPos + len = packet.buff.length) :
    packet.read len = .ok (packet.getBegin.take len, RecvBuffer.ofPayload packet.buff) := by
  simp [RecvBuffer.read, RecvBuffer.resetReadPos, reach]

theorem read_inner {packet : RecvBuffer} {len : Nat}
    (inner : packet.buffPos + len < packet.buff.length) :
    packet.read len = .ok (packet.getBegin.take len,
      ⟨packet.buff, packet.buffPos + len, Nat.le_of_lt inner⟩) := by
  simp [RecvBuffer.read, Nat.le_of_lt inner, Nat.ne_of_lt inner]

theorem parseName_handled_iff (lib : Protobuf Descriptor Prototype Message)
    (flag nameLen : Nat) (packet : RecvBuffer) :
    HandledOrRefused (parseName lib flag nameLen packet) ↔
      nameLen = 0 ∨ packet.buff.length < nameLen ∨
        packet.buffPos + nameLen ≤ packet.buff.length := by
  have inside := packet.inside
  have size : packet.getLen = packet.buff.length := rfl
  by_cases refused : packet.getLen < nameLen ∨ nameLen = 0
  · have early : parseName lib flag nameLen packet = .ok ⟨false, []⟩ := by
      rw [parseName, if_pos refused]
    constructor
    · intro _
      omega
    · intro _
      exact early ▸ ⟨_, rfl, .inr ⟨rfl, rfl⟩⟩
  · by_cases fits : packet.buffPos + nameLen ≤ packet.buff.length
    · have last : ¬ packet.getLastLen < nameLen := by
        simp only [RecvBuffer.getLastLen]
        omega
      rw [parseName, if_neg refused, if_neg last, RecvBuffer.addReadLen, dif_pos fits]
      exact iff_of_true (parseBody_handled _ _ _ _) (.inr (.inr fits))
    · have last : packet.getLastLen < nameLen := by
        simp only [RecvBuffer.getLastLen]
        omega
      rw [parseName, if_neg refused, if_pos last]
      exact iff_of_false (fault_not_handled _) (by omega)

theorem header_cut (lib : Protobuf Descriptor Prototype Message) {payload : Bytes}
    (some : 0 < payload.length)
    (cut : payload.length < 4 ∨ 4 < payload.length ∧ payload.length < 8) :
    parseProtocmessage lib payload = .error .buffException := by
  rw [parseProtocmessage, if_neg (by omega)]
  rcases cut with flag | ⟨whole, name⟩
  · rw [read_short (by simpa [pbFlagTypeSize] using flag)]
  · rw [read_inner (by simpa [pbFlagTypeSize] using whole)]
    simp only
    rw [read_short (by simpa [pbFlagTypeSize, pbNameTypeSize] using name)]

/-- A header read that ends the payload leaves the name to be read from its beginning. -/
theorem header_rewinds (lib : Protobuf Descriptor Prototype Message) {payload : Bytes}
    (ends : payload.length = 4 ∨ payload.length = 8) :
    ∃ flag nameLen, parseProtocmessage lib payload =
      parseName lib flag nameLen (RecvBuffer.ofPayload payload) := by
  rw [parseProtocmessage, if_neg (by omega)]
  rcases ends with flag | name
  · rw [read_end (by simp [pbFlagTypeSize, flag])]
    simp only [RecvBuffer.ofPayload_buff]
    rw [read_end (by simp [pbNameTypeSize, flag])]
    exact ⟨_, _, rfl⟩
  · rw [read_inner (by simp [pbFlagTypeSize, name])]
    simp only
    rw [read_end (by simp [pbFlagTypeSize, pbNameTypeSize, name])]
    exact ⟨_, _, rfl⟩

theorem header_inner (lib : Protobuf Descriptor Prototype Message) {payload : Bytes}
    (long : 8 < payload.length) :
    parseProtocmessage lib payload = parseName lib (word32 payload) (word32 (payload.drop 4))
      ⟨payload, 8, Nat.le_of_lt long⟩ := by
  rw [parseProtocmessage, if_neg (by omega),
    read_inner (by simp [pbFlagTypeSize]; omega)]
  simp only
  rw [read_inner (by simp [pbFlagTypeSize, pbNameTypeSize]; omega)]
  simp [RecvBuffer.getBegin, RecvBuffer.ofPayload, pbFlagTypeSize, pbNameTypeSize, word32_take]

/-- Which payloads are handled or refused without a fault. -/
theorem parseProtocmessage_handled_iff (lib : Protobuf Descriptor Prototype Message)
    (payload : Bytes) : HandledOrRefused (parseProtocmessage lib payload) ↔ Readable payload := by
  by_cases none : payload.length = 0
  · rw [parseProtocmessage, if_pos none]
    exact iff_of_true ⟨_, rfl, .inr ⟨rfl, rfl⟩⟩ (.inl none)
  by_cases ends : payload.length = 4 ∨ payload.length = 8
  · obtain ⟨flag, nameLen, run⟩ := header_rewinds lib ends
    rw [run, parseName_handled_iff]
    simp only [RecvBuffer.ofPayload_buff, RecvBuffer.ofPayload_buffPos, Readable]
    omega
  by_cases long : 8 < payload.length
  · rw [header_inner lib long, parseName_handled_iff, Readable]
    simp only
    omega
  · rw [header_cut lib (by omega) (by omega)]
    refine iff_of_false (fault_not_handled _) ?_
    simp only [Readable]
    omega

/-- A payload of one byte throws out of the first read. -/
theorem parseProtocmessage_one_byte :
    ¬ HandledOrRefused (parseProtocmessage
      (⟨fun _ => none, fun _ => none, fun _ _ => none⟩ : Protobuf Unit Unit Unit) [7]) :=
  fault_not_handled .buffException

end ProtocBuffer
