import Mathlib.Algebra.Group.Nat.Defs
import DreamHeroes.BufferManager
import DreamHeroes.WrappedGrowth

/- The lengths that a thread_packet_buffer reports, the sizes of its blocks, and what
   thread_send_buffer and thread_recv_buffer copy to them. Numbers are unsigned ints, which wrap
   around; malloc always returns a block. -/
namespace BufferBounds

open LabelledRuns WrappedGrowth
open BufferManager (BufferType forall_mem_concat)

def bufferDefaultLength : UInt32 := 65000

/- The size of the block at _buffer_array, where none is NULL, and _buffer_length. -/
structure Buffer where
  block : Option Nat
  length : UInt32
  deriving DecidableEq, Repr

/- buff has the size of the block; the block may have been freed since. -/
structure SendBuffer where
  buff : Option Nat
  buffPos : UInt32
  maxLength : UInt32
  deriving DecidableEq, Repr

/- What was asked for, and what the request left in maxlen and returned. -/
structure Returned where
  asked : UInt32
  maxlen : UInt32
  block : Option Nat
  deriving DecidableEq, Repr

/- A memcpy of len bytes to the place start of a block. -/
structure Copy where
  block : Option Nat
  start : Nat
  len : Nat
  deriving DecidableEq, Repr

/- returned and copies are history. -/
structure State where
  buffers : BufferType → Buffer
  sends : List SendBuffer
  returned : List Returned
  copies : List Copy

def start : State := ⟨fun _ => ⟨none, 0⟩, [], [], []⟩

def grownLength (maxlen : UInt32) : UInt32 :=
  if maxlen < bufferDefaultLength then bufferDefaultLength else maxlen * 150 / 100

/- The entry behind a request, whose block and length are returned. -/
def Buffer.getThreadBuffer (buffer : Buffer) (maxlen : UInt32) : Buffer :=
  if maxlen > buffer.length then ⟨some (grownLength maxlen).toNat, grownLength maxlen⟩ else buffer

namespace State

def getThreadBuffer (s : State) (ntype : BufferType) (maxlen : UInt32) : State :=
  let buffer := (s.buffers ntype).getThreadBuffer maxlen
  { s with
    buffers := Function.update s.buffers ntype buffer
    returned := s.returned ++ [⟨maxlen, buffer.length, buffer.block⟩] }

/- The constructor of thread_send_buffer. -/
def threadSendBuffer (s : State) (maxlen : UInt32) : State :=
  let s := s.getThreadBuffer .send maxlen
  { s with sends := s.sends ++ [⟨(s.buffers .send).block, 0, (s.buffers .send).length⟩] }

/- The test fails with an exception. -/
def write (s : State) (packet : Nat) (len : UInt32) : State :=
  match s.sends[packet]? with
  | none => s
  | some p =>
      if p.buffPos + len ≥ p.maxLength then s
      else { s with
        sends := s.sends.set packet { p with buffPos := p.buffPos + len }
        copies := s.copies ++ [⟨p.buff, p.buffPos.toNat, len.toNat⟩] }

/- Without asserts; with them a call that fails one is the last. -/
def addWriteLen (s : State) (packet : Nat) (add : UInt32) : State :=
  match s.sends[packet]? with
  | none => s
  | some p => { s with sends := s.sends.set packet { p with buffPos := p.buffPos + add } }

/- The constructor of thread_recv_buffer. Its other functions copy from the block only. -/
def threadRecvBuffer (s : State) (len : UInt32) : State :=
  let s := s.getThreadBuffer .recv (len + 1)
  { s with copies := s.copies ++ [⟨(s.buffers .recv).block, 0, len.toNat⟩] }

end State

inductive Call where
  | getThreadBuffer (ntype : BufferType) (maxlen : UInt32)
  | threadSendBuffer (maxlen : UInt32)
  | write (packet : Nat) (len : UInt32)
  | addWriteLen (packet : Nat) (add : UInt32)
  | threadRecvBuffer (len : UInt32)
  deriving DecidableEq, Repr

def step (s : State) : Call → State
  | .getThreadBuffer ntype maxlen => s.getThreadBuffer ntype maxlen
  | .threadSendBuffer maxlen => s.threadSendBuffer maxlen
  | .write packet len => s.write packet len
  | .addWriteLen packet add => s.addWriteLen packet add
  | .threadRecvBuffer len => s.threadRecvBuffer len

/-- The bytes at a pointer, of which NULL has none. -/
def size (block : Option Nat) : Nat := block.getD 0

/-- Every length that was reported is the size of the block. -/
def Reported (s : State) : Prop := ∀ r ∈ s.returned, r.maxlen.toNat = size r.block

/-- Every length that was reported is the size of the block and enough, and every copy stayed
within its block. -/
structure Right (s : State) : Prop where
  reported : Reported s
  enough : ∀ r ∈ s.returned, r.asked ≤ r.maxlen
  inside : ∀ c ∈ s.copies, c.start + c.len ≤ size c.block

/-- The buffer is long enough, or the product it grows by does not wrap around. -/
def Modest (buffer : Buffer) (maxlen : UInt32) : Prop :=
  maxlen ≤ buffer.length ∨ maxlen.toNat * 150 < 2 ^ 32

def Fine (s : State) : Call → Prop
  | .getThreadBuffer ntype maxlen => Modest (s.buffers ntype) maxlen
  | .threadSendBuffer maxlen => Modest (s.buffers .send) maxlen
  | .write packet len => ∀ p, s.sends[packet]? = some p →
      p.buffPos.toNat + len.toNat < 2 ^ 32 ∨ p.maxLength ≤ p.buffPos + len
  | .addWriteLen _ _ => True
  | .threadRecvBuffer len => len.toNat + 1 < 2 ^ 32 ∧ Modest (s.buffers .recv) (len + 1)

/-- What no call changes: lengths are the sizes of blocks, and far below the largest number. -/
structure Sized (s : State) : Prop where
  buffers : ∀ ntype, (s.buffers ntype).length.toNat = size (s.buffers ntype).block
  sends : ∀ p ∈ s.sends, p.maxLength.toNat = size p.buff
  bounded : ∀ ntype, (s.buffers ntype).length.toNat * 100 < 2 ^ 32

section Lengths

variable {maxlen : UInt32} {buffer : Buffer}

theorem grownLength_toNat : (grownLength maxlen).toNat =
    if maxlen < bufferDefaultLength then 65000 else grown (2 ^ 32) 150 100 maxlen.toNat := by
  unfold grownLength
  split
  · rfl
  · rw [UInt32.toNat_div, UInt32.toNat_mul]
    rfl

theorem le_grownLength_iff : maxlen ≤ grownLength maxlen ↔ maxlen.toNat * 150 < 2 ^ 32 := by
  rw [UInt32.le_iff_toNat_le, grownLength_toNat]
  split
  · rename_i small
    have below : maxlen.toNat < 65000 := UInt32.lt_iff_toNat_lt.mp small
    omega
  · exact le_grown_iff (by decide) (by decide) (by decide) (by decide)

theorem grownLength_bounded : (grownLength maxlen).toNat * 100 < 2 ^ 32 := by
  rw [grownLength_toNat]
  split
  · decide
  · exact grown_mul_lt (by decide)

/-- The length is the one the model of one message at a time has. -/
theorem getThreadBuffer_length (block : ThreadBuffers.ThreadBuffer)
    (same : block.size = buffer.length.toNat) :
    (buffer.getThreadBuffer maxlen).length.toNat = (block.getThreadBuffer maxlen.toNat).size := by
  unfold Buffer.getThreadBuffer ThreadBuffers.ThreadBuffer.getThreadBuffer
  rw [same]
  by_cases grows : maxlen > buffer.length
  · rw [if_pos grows, if_pos (UInt32.lt_iff_toNat_lt.mp grows), grownLength_toNat]
    simp only [ThreadBuffers.ThreadBuffer.grownLength, ThreadBuffers.bufferDefaultLength,
      UInt32.lt_iff_toNat_lt, bufferDefaultLength, grown]
    rfl
  · rw [if_neg grows, if_neg (mt UInt32.lt_iff_toNat_lt.mpr grows), same]

/-- A request is met by a long enough buffer, which stays, or by one that grows enough. -/
theorem enough_iff : maxlen ≤ (buffer.getThreadBuffer maxlen).length ↔ Modest buffer maxlen := by
  unfold Buffer.getThreadBuffer Modest
  split
  · rename_i grows
    rw [le_grownLength_iff, or_iff_right (UInt32.not_le.mpr grows)]
  · rename_i stays
    exact iff_of_true (UInt32.not_lt.mp stays) (.inl (UInt32.not_lt.mp stays))

theorem getThreadBuffer_size (same : buffer.length.toNat = size buffer.block) :
    (buffer.getThreadBuffer maxlen).length.toNat = size (buffer.getThreadBuffer maxlen).block := by
  unfold Buffer.getThreadBuffer
  split
  · rfl
  · exact same

theorem getThreadBuffer_bounded (bounded : buffer.length.toNat * 100 < 2 ^ 32) :
    (buffer.getThreadBuffer maxlen).length.toNat * 100 < 2 ^ 32 := by
  unfold Buffer.getThreadBuffer
  split
  · exact grownLength_bounded
  · exact bounded

end Lengths

section Turns

variable {s : State} {ntype : BufferType} {maxlen len : UInt32} {packet : Nat} {p : SendBuffer}
  {buffers : BufferType → Buffer} {sends : List SendBuffer}

theorem asked_buffer : (s.getThreadBuffer ntype maxlen).buffers ntype =
    (s.buffers ntype).getThreadBuffer maxlen :=
  Function.update_self ntype _ s.buffers

theorem sized_getThreadBuffer (sized : Sized s) : Sized (s.getThreadBuffer ntype maxlen) := by
  refine ⟨?_, sized.sends, ?_⟩
  · intro other
    simp only [State.getThreadBuffer, Function.update_apply]
    split
    · exact getThreadBuffer_size (sized.buffers ntype)
    · exact sized.buffers other
  · intro other
    simp only [State.getThreadBuffer, Function.update_apply]
    split
    · exact getThreadBuffer_bounded (sized.bounded ntype)
    · exact sized.bounded other

/-- A new position in a send buffer leaves its block and its length. -/
theorem sends_moved (sized : Sized s) (here : s.sends[packet]? = some p) (pos : UInt32) :
    ∀ q ∈ s.sends.set packet { p with buffPos := pos }, q.maxLength.toNat = size q.buff := by
  intro q member
  rcases List.mem_or_eq_of_mem_set member with old | rfl
  · exact sized.sends q old
  · exact sized.sends p (List.mem_of_getElem? here)

theorem sized_step (sized : Sized s) (call : Call) : Sized (step s call) := by
  cases call with
  | getThreadBuffer ntype maxlen => exact sized_getThreadBuffer sized
  | threadSendBuffer maxlen =>
    have asked := @sized_getThreadBuffer s .send maxlen sized
    exact ⟨asked.buffers, forall_mem_concat.mpr ⟨asked.sends, asked.buffers .send⟩, asked.bounded⟩
  | write packet len =>
    simp only [step, State.write]
    split
    · exact sized
    · rename_i p here
      split
      · exact sized
      · exact ⟨sized.buffers, sends_moved sized here _, sized.bounded⟩
  | addWriteLen packet add =>
    simp only [step, State.addWriteLen]
    split
    · exact sized
    · rename_i p here
      exact ⟨sized.buffers, sends_moved sized here _, sized.bounded⟩
  | threadRecvBuffer len =>
    have asked := @sized_getThreadBuffer s .recv (len + 1) sized
    exact ⟨asked.buffers, asked.sends, asked.bounded⟩

theorem reported_getThreadBuffer (sized : Sized s) (reported : Reported s) :
    Reported (s.getThreadBuffer ntype maxlen) :=
  forall_mem_concat.mpr ⟨reported, getThreadBuffer_size (sized.buffers ntype)⟩

theorem reported_step (sized : Sized s) (reported : Reported s) (call : Call) :
    Reported (step s call) := by
  cases call with
  | getThreadBuffer ntype maxlen => exact reported_getThreadBuffer sized reported
  | threadSendBuffer maxlen => exact @reported_getThreadBuffer s .send maxlen sized reported
  | write packet len =>
    simp only [step, State.write]
    split
    · exact reported
    · split
      · exact reported
      · exact reported
  | addWriteLen packet add =>
    simp only [step, State.addWriteLen]
    split
    · exact reported
    · exact reported
  | threadRecvBuffer len => exact @reported_getThreadBuffer s .recv (len + 1) sized reported

theorem right_unread : Right ⟨buffers, sends, s.returned, s.copies⟩ ↔ Right s :=
  ⟨fun right => ⟨right.reported, right.enough, right.inside⟩,
    fun right => ⟨right.reported, right.enough, right.inside⟩⟩

theorem right_copied {c : Copy} : Right ⟨buffers, sends, s.returned, s.copies ++ [c]⟩ ↔
    Right s ∧ c.start + c.len ≤ size c.block := by
  constructor
  · intro right
    obtain ⟨old, new⟩ := forall_mem_concat.mp right.inside
    exact ⟨⟨right.reported, right.enough, old⟩, new⟩
  · intro ⟨right, new⟩
    exact ⟨right.reported, right.enough, forall_mem_concat.mpr ⟨right.inside, new⟩⟩

theorem right_getThreadBuffer (sized : Sized s) :
    Right (s.getThreadBuffer ntype maxlen) ↔ Right s ∧ Modest (s.buffers ntype) maxlen := by
  constructor
  · intro right
    obtain ⟨reported, _⟩ := forall_mem_concat.mp right.reported
    obtain ⟨enough, grows⟩ := forall_mem_concat.mp right.enough
    exact ⟨⟨reported, enough, right.inside⟩, enough_iff.mp grows⟩
  · intro ⟨right, modest⟩
    exact ⟨reported_getThreadBuffer sized right.reported,
      forall_mem_concat.mpr ⟨right.enough, enough_iff.mpr modest⟩, right.inside⟩

theorem right_threadSendBuffer (sized : Sized s) :
    Right (s.threadSendBuffer maxlen) ↔ Right s ∧ Modest (s.buffers .send) maxlen := by
  rw [State.threadSendBuffer, ← right_getThreadBuffer sized]
  exact right_unread

/-- The position behind a copy that the test lets through is in the block unless it wrapped. -/
theorem right_write (sized : Sized s) :
    Right (s.write packet len) ↔ Right s ∧ Fine s (.write packet len) := by
  unfold State.write Fine
  cases here : s.sends[packet]? with
  | none => simp [here]
  | some p =>
    have whole := sized.sends p (List.mem_of_getElem? here)
    simp only [here, Option.some.injEq, forall_eq']
    by_cases throws : p.buffPos + len ≥ p.maxLength
    · rw [if_pos throws]
      exact (and_iff_left (.inr throws)).symm
    · have before : (p.buffPos + len).toNat < p.maxLength.toNat :=
        UInt32.lt_iff_toNat_lt.mp (UInt32.not_le.mp throws)
      have word := p.maxLength.toNat_lt
      rw [UInt32.toNat_add] at before
      rw [if_neg throws, right_copied, or_iff_left throws]
      refine and_congr_right fun _ => ?_
      simp only
      omega

theorem right_threadRecvBuffer (sized : Sized s) :
    Right (s.threadRecvBuffer len) ↔ Right s ∧ Fine s (.threadRecvBuffer len) := by
  have asked := @sized_getThreadBuffer s .recv (len + 1) sized
  have whole := asked.buffers .recv
  have bounded := asked.bounded .recv
  rw [State.threadRecvBuffer, right_copied, right_getThreadBuffer sized, and_assoc]
  refine and_congr_right fun _ => ?_
  constructor
  · intro ⟨modest, inside⟩
    refine ⟨?_, modest⟩
    simp only at inside
    omega
  · intro ⟨word, modest⟩
    refine ⟨modest, ?_⟩
    have enough := UInt32.le_iff_toNat_le.mp (enough_iff.mpr modest)
    have reached : (len + 1).toNat = len.toNat + 1 := by
      rw [UInt32.toNat_add]
      exact Nat.mod_eq_of_lt word
    rw [asked_buffer] at whole ⊢
    simp only
    omega

theorem right_step (sized : Sized s) (call : Call) :
    Right (step s call) ↔ Right s ∧ Fine s call := by
  cases call with
  | getThreadBuffer ntype maxlen => exact right_getThreadBuffer sized
  | threadSendBuffer maxlen => exact right_threadSendBuffer sized
  | write packet len => exact right_write sized
  | addWriteLen packet add =>
    simp only [step, State.addWriteLen, Fine, and_true]
    split
    · exact Iff.rfl
    · exact right_unread
  | threadRecvBuffer len => exact right_threadRecvBuffer sized

end Turns

theorem sized_start : Sized start :=
  ⟨fun _ => rfl, by simp [start], fun _ => (by decide : (0 : UInt32).toNat * 100 < 2 ^ 32)⟩

theorem right_start : Right start :=
  ⟨by simp [Reported, start], by simp [start], by simp [start]⟩

/-- Whatever is asked for, the length that is reported is the size of the block. -/
theorem always_reported (calls : List Call) : EveryState step Reported start calls := by
  have kinds : EveryStep step (fun _ _ => True) start calls := everyStep_of_forall fun _ _ _ => trivial
  have both : EveryState step (fun s => Sized s ∧ Reported s) start calls :=
    everyState_of_everyStep (fun s call inv _ =>
      ⟨sized_step inv.1 call, reported_step inv.1 inv.2 call⟩) ⟨sized_start, right_start.reported⟩
      kinds
  exact everyState_imp (fun _ inv => inv.2) both

/-- The buffers are as long as was asked for, and what is copied to them stays within them, in
the runs in which no product, sum or position that matters wraps around. -/
theorem buffers_enough_iff (calls : List Call) :
    EveryState step Right start calls ↔ EveryStep step Fine start calls :=
  everyState_iff_everyStep (fun s => Sized s ∧ Right s) (fun _ => True) (fun _ inv => inv.2)
    (fun _ call _ inv fine => ⟨sized_step inv.1 call, (right_step inv.1 call).mpr ⟨inv.2, fine⟩⟩)
    (fun _ call _ inv right => ((right_step inv.1 call).mp right).2)
    ⟨sized_start, right_start⟩ fun _ _ => trivial

/-- A block of 115 bytes for 28633192, and a copy of 2^32 - 1 bytes behind the first byte. -/
theorem copied_beyond_block :
    (run step start [.threadRecvBuffer 28633191]).returned = [⟨28633192, 115, some 115⟩] ∧
      (run step start [.threadRecvBuffer 28633191]).copies = [⟨some 115, 0, 28633191⟩] ∧
      ¬ EveryState step Right start [.threadRecvBuffer 28633191] ∧
      ¬ EveryState step Right start
        [.threadSendBuffer 100, .write 0 1, .write 0 4294967295] := by
  refine ⟨by decide, by decide, ?_, ?_⟩
  · intro all
    have beyond := (everyState_last all).inside ⟨some 115, 0, 28633191⟩ (by decide)
    exact absurd beyond (by decide)
  · intro all
    have beyond := (everyState_last all).inside ⟨some 65000, 1, 4294967295⟩ (by decide)
    exact absurd beyond (by decide)

end BufferBounds
