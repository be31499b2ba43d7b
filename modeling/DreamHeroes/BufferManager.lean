import DreamHeroes.LabelledRuns
import DreamHeroes.ThreadBuffers

/- thread_buffer_manager: one vector of packet buffers for all threads, and calls that are
   atomic. The contents of the buffers play no part. -/
namespace BufferManager

open LabelledRuns ThreadBuffers

abbrev Memory := Nat

inductive BufferType where
  | send
  | recv
  | compress
  deriving DecidableEq, Repr

/- An entry of _buffer_array, where none is NULL, with its _buffer_length. -/
structure Buffer where
  memory : Option Memory
  length : Nat
  deriving DecidableEq, Repr

structure ThreadPacketBuffer where
  threadId : UInt32
  buffers : BufferType → Buffer

def ThreadPacketBuffer.new (id : UInt32) : ThreadPacketBuffer := ⟨id, fun _ => ⟨none, 0⟩⟩

variable {Thread : Type}

/- A buffer that was returned, and the id its packet buffer was created for. -/
structure Served (Thread : Type) where
  thread : Thread
  createdFor : UInt32
  memory : Option Memory
  deriving DecidableEq, Repr

/- Memory that was freed, and the threads it had been returned to. -/
structure Freed (Thread : Type) where
  thread : Thread
  createdFor : UInt32
  holders : List Thread
  deriving DecidableEq, Repr

/- served and freed are history. -/
structure Manager (Thread : Type) where
  vector : List ThreadPacketBuffer
  nextMemory : Memory
  served : List (Served Thread)
  freed : List (Freed Thread)

namespace Manager

def start : Manager Thread := ⟨[], 0, [], []⟩

/-- The threads that the memory of a buffer was returned to. -/
def holders (s : Manager Thread) (buffer : Buffer) : List Thread :=
  match buffer.memory with
  | none => []
  | some m => (s.served.filter fun a => a.memory = some m).map (·.thread)

def packetHolders (s : Manager Thread) (p : ThreadPacketBuffer) : List Thread :=
  [BufferType.send, .recv, .compress].flatMap fun ntype => s.holders (p.buffers ntype)

end Manager

/- The loop over the vector. Its test is the assignment `thread_id = pit->_thread_id`, so it
   stops at the first id that is not 0, and thread_id is the id it read last. -/
def scan (threadId : UInt32) : List ThreadPacketBuffer →
    UInt32 × Option (List ThreadPacketBuffer × ThreadPacketBuffer × List ThreadPacketBuffer)
  | [] => (threadId, none)
  | pit :: rest =>
      if pit.threadId ≠ 0 then (pit.threadId, some ([], pit, rest))
      else
        match scan pit.threadId rest with
        | (last, some (before, p, after)) => (last, some (pit :: before, p, after))
        | (last, none) => (last, none)

section Calls

/- GetCurrentThreadId, or what pthread_self is cut to. -/
variable (id : Thread → UInt32)

/-- getThreadBuffer of the packet buffer p, which stands between before and after. -/
def serve (s : Manager Thread) (thread : Thread) (before : List ThreadPacketBuffer)
    (p : ThreadPacketBuffer) (after : List ThreadPacketBuffer) (ntype : BufferType)
    (maxlen : UInt32) : Manager Thread :=
  let buffer := p.buffers ntype
  if buffer.length < maxlen.toNat then
    let grown : Buffer := ⟨some s.nextMemory, ThreadBuffer.grownLength maxlen.toNat⟩
    { vector := before ++ { p with buffers := Function.update p.buffers ntype grown } :: after
      nextMemory := s.nextMemory + 1
      served := s.served ++ [⟨thread, p.threadId, grown.memory⟩]
      freed :=
        match buffer.memory with
        | none => s.freed
        | some _ => s.freed ++ [⟨thread, p.threadId, s.holders buffer⟩] }
  else
    { s with
      vector := before ++ p :: after
      served := s.served ++ [⟨thread, p.threadId, buffer.memory⟩] }

def getThreadBuffer (s : Manager Thread) (thread : Thread) (ntype : BufferType)
    (maxlen : UInt32) : Manager Thread :=
  match scan (id thread) s.vector with
  | (_, some (before, p, after)) => serve s thread before p after ntype maxlen
  | (threadId, none) => serve s thread s.vector (.new threadId) [] ntype maxlen

def getThreadSendBuffer (s : Manager Thread) (thread : Thread) (maxlen : UInt32) :
    Manager Thread :=
  getThreadBuffer id s thread .send maxlen

def getThreadRecvBuffer (s : Manager Thread) (thread : Thread) (maxlen : UInt32) :
    Manager Thread :=
  getThreadBuffer id s thread .recv maxlen

def getThreadCompressBuffer (s : Manager Thread) (thread : Thread) (maxlen : UInt32) :
    Manager Thread :=
  getThreadBuffer id s thread .compress maxlen

def releaseThreadBuffer (s : Manager Thread) (thread : Thread) : Manager Thread :=
  match scan (id thread) s.vector with
  | (_, some (before, p, after)) =>
      { s with
        vector := before ++ after
        freed := s.freed ++ [⟨thread, p.threadId, s.packetHolders p⟩] }
  | (_, none) => s

inductive Call (Thread : Type) where
  | getThreadSendBuffer (thread : Thread) (maxlen : UInt32)
  | getThreadRecvBuffer (thread : Thread) (maxlen : UInt32)
  | getThreadCompressBuffer (thread : Thread) (maxlen : UInt32)
  | releaseThreadBuffer (thread : Thread)

def step (s : Manager Thread) : Call Thread → Manager Thread
  | .getThreadSendBuffer thread maxlen => getThreadSendBuffer id s thread maxlen
  | .getThreadRecvBuffer thread maxlen => getThreadRecvBuffer id s thread maxlen
  | .getThreadCompressBuffer thread maxlen => getThreadCompressBuffer id s thread maxlen
  | .releaseThreadBuffer thread => releaseThreadBuffer id s thread

/-- Every call was served from a packet buffer of its thread and freed no other, no memory
was returned to two threads, and what was freed had been returned to nobody else. -/
structure Right (s : Manager Thread) : Prop where
  served : ∀ a ∈ s.served, a.createdFor = id a.thread
  freed : ∀ f ∈ s.freed, f.createdFor = id f.thread
  apart : ∀ a ∈ s.served, ∀ b ∈ s.served, ∀ m, a.memory = some m → b.memory = some m →
    a.thread = b.thread
  spared : ∀ f ∈ s.freed, ∀ holder ∈ f.holders, holder = f.thread

end Calls

/-- The packet buffer that the scan stops at. -/
def selected (vector : List ThreadPacketBuffer) : Option ThreadPacketBuffer :=
  vector.find? fun p => p.threadId ≠ 0

section Conditions

variable (id : Thread → UInt32)

/-- The first packet buffer whose id is not 0 was created for the thread, and the buffer was
returned to nobody else. -/
def GetFine (s : Manager Thread) (thread : Thread) (ntype : BufferType) : Prop :=
  match selected s.vector with
  | some p => p.threadId = id thread ∧ ∀ holder ∈ s.holders (p.buffers ntype), holder = thread
  | none => s.vector = [] ∨ id thread = 0

def ReleaseFine (s : Manager Thread) (thread : Thread) : Prop :=
  match selected s.vector with
  | some p => p.threadId = id thread ∧ ∀ holder ∈ s.packetHolders p, holder = thread
  | none => True

def Fine (s : Manager Thread) : Call Thread → Prop
  | .getThreadSendBuffer thread _ => GetFine id s thread .send
  | .getThreadRecvBuffer thread _ => GetFine id s thread .recv
  | .getThreadCompressBuffer thread _ => GetFine id s thread .compress
  | .releaseThreadBuffer thread => ReleaseFine id s thread

end Conditions

/-- Memory that is in use or was returned is older than what the next malloc returns. -/
structure Fresh (s : Manager Thread) : Prop where
  buffers : ∀ p ∈ s.vector, ∀ ntype m, (p.buffers ntype).memory = some m → m < s.nextMemory
  served : ∀ a ∈ s.served, ∀ m, a.memory = some m → m < s.nextMemory

section Scan

variable {threadId last : UInt32} {vector before after : List ThreadPacketBuffer}
  {p : ThreadPacketBuffer}

theorem scan_selected (threadId : UInt32) (vector : List ThreadPacketBuffer) :
    (scan threadId vector).2.map (fun found => found.2.1) = selected vector := by
  induction vector generalizing threadId with
  | nil => rfl
  | cons pit rest ih =>
    unfold scan
    by_cases zero : pit.threadId = 0
    · have later := ih pit.threadId
      simp only [zero, ne_eq, not_true_eq_false, if_false, selected, List.find?_cons,
        decide_false] at later ⊢
      rw [← later]
      split <;> simp_all
    · simp [selected, zero]

theorem scan_split (found : scan threadId vector = (last, some (before, p, after))) :
    vector = before ++ p :: after := by
  induction vector generalizing threadId before with
  | nil => cases found
  | cons pit rest ih =>
    unfold scan at found
    split at found
    · cases found
      rfl
    · split at found
      · rename_i again
        cases found
        rw [ih again, List.cons_append]
      · cases found

theorem scan_none (none' : scan threadId vector = (last, none)) :
    last = if vector = [] then threadId else 0 := by
  induction vector generalizing threadId with
  | nil =>
    cases none'
    rfl
  | cons pit rest ih =>
    unfold scan at none'
    split at none'
    · cases none'
    · rename_i zero
      split at none'
      · cases none'
      · rename_i again
        cases none'
        have zero : pit.threadId = 0 := by simpa using zero
        rw [ih again, zero]
        simp

end Scan

section Turns

variable {id : Thread → UInt32} {s : Manager Thread} {thread : Thread} {ntype : BufferType}
  {maxlen : UInt32} {p : ThreadPacketBuffer} {before after vector : List ThreadPacketBuffer}
  {next : Memory} {buffer : Buffer} {x : UInt32}

theorem forall_mem_concat {α : Type} {l : List α} {a : α} {good : α → Prop} :
    (∀ b ∈ l ++ [a], good b) ↔ (∀ b ∈ l, good b) ∧ good a := by
  rw [List.forall_mem_append, List.forall_mem_singleton]

theorem mem_holders {holder : Thread} : holder ∈ s.holders buffer ↔
    ∃ a ∈ s.served, ∃ m, buffer.memory = some m ∧ a.memory = some m ∧ a.thread = holder := by
  unfold Manager.holders
  split
  · rename_i null
    simp [null]
  · rename_i m here
    constructor
    · intro member
      obtain ⟨a, among, same⟩ := List.mem_map.mp member
      obtain ⟨served, memory⟩ := List.mem_filter.mp among
      exact ⟨a, served, m, here, by simpa using memory, same⟩
    · intro ⟨a, served, m', here', memory, same⟩
      rw [here] at here'
      cases here'
      exact List.mem_map.mpr ⟨a, List.mem_filter.mpr ⟨served, by simpa using memory⟩, same⟩

theorem holders_grown (fresh : Fresh s) (length : Nat) :
    s.holders ⟨some s.nextMemory, length⟩ = [] := by
  rw [List.eq_nil_iff_forall_not_mem]
  intro holder member
  obtain ⟨a, served, m, here, memory, _⟩ := mem_holders.mp member
  cases here
  exact absurd (fresh.served a served _ memory) (Nat.lt_irrefl _)

theorem right_served (buffer : Buffer) :
    Right id ⟨vector, next, s.served ++ [⟨thread, x, buffer.memory⟩], s.freed⟩ ↔
      Right id s ∧ x = id thread ∧ ∀ holder ∈ s.holders buffer, holder = thread := by
  constructor
  · intro right
    obtain ⟨old, own⟩ := forall_mem_concat.mp right.served
    obtain ⟨apart, new⟩ := forall_mem_concat.mp right.apart
    refine ⟨⟨old, right.freed, fun a first b second => ?_, right.spared⟩, own, ?_⟩
    · exact apart a first b (List.mem_append_left _ second)
    · intro holder member
      obtain ⟨a, served, m, here, memory, same⟩ := mem_holders.mp member
      exact same ▸ (new a (List.mem_append_left _ served) m here memory).symm
  · intro ⟨right, own, alone⟩
    have held : ∀ a ∈ s.served, ∀ m, a.memory = some m → buffer.memory = some m →
        a.thread = thread := by
      intro a served m memory here
      exact alone a.thread (mem_holders.mpr ⟨a, served, m, here, memory, rfl⟩)
    refine ⟨forall_mem_concat.mpr ⟨right.served, own⟩, right.freed,
      forall_mem_concat.mpr ⟨fun a old => ?_, ?_⟩, right.spared⟩
    · exact forall_mem_concat.mpr ⟨right.apart a old, held a old⟩
    · refine forall_mem_concat.mpr ⟨fun b old m same memory => ?_, fun _ _ _ => rfl⟩
      exact (held b old m memory same).symm

theorem right_freed {freed : Freed Thread} :
    Right id ⟨vector, next, s.served, s.freed ++ [freed]⟩ ↔
      Right id s ∧ freed.createdFor = id freed.thread ∧
        ∀ holder ∈ freed.holders, holder = freed.thread := by
  constructor
  · intro right
    obtain ⟨old, own⟩ := forall_mem_concat.mp right.freed
    obtain ⟨spared, alone⟩ := forall_mem_concat.mp right.spared
    exact ⟨⟨right.served, old, right.apart, spared⟩, own, alone⟩
  · intro ⟨right, own, alone⟩
    exact ⟨right.served, forall_mem_concat.mpr ⟨right.freed, own⟩, right.apart,
      forall_mem_concat.mpr ⟨right.spared, alone⟩⟩

theorem right_serve (fresh : Fresh s) :
    Right id (serve s thread before p after ntype maxlen) ↔
      Right id s ∧ p.threadId = id thread ∧
        ∀ holder ∈ s.holders (p.buffers ntype), holder = thread := by
  by_cases small : (p.buffers ntype).length < maxlen.toNat
  · have grown := holders_grown fresh (ThreadBuffer.grownLength maxlen.toNat)
    cases memory : (p.buffers ntype).memory with
    | none =>
      have none : s.holders (p.buffers ntype) = [] := by simp [Manager.holders, memory]
      simp only [serve, small, if_true, memory]
      rw [right_served ⟨some s.nextMemory, _⟩, grown, none]
    | some m =>
      simp only [serve, small, if_true, memory]
      let returned : Manager Thread :=
        ⟨s.vector, s.nextMemory, s.served ++ [⟨thread, p.threadId, some s.nextMemory⟩], s.freed⟩
      rw [@right_freed _ _ returned, right_served ⟨some s.nextMemory, _⟩, grown]
      constructor
      · intro ⟨⟨right, own, _⟩, _, alone⟩
        exact ⟨right, own, alone⟩
      · intro ⟨right, own, alone⟩
        exact ⟨⟨right, own, by simp⟩, own, alone⟩
  · simp only [serve, small, if_false]
    exact right_served (p.buffers ntype)

theorem right_getThreadBuffer (fresh : Fresh s) :
    Right id (getThreadBuffer id s thread ntype maxlen) ↔
      Right id s ∧ GetFine id s thread ntype := by
  unfold getThreadBuffer GetFine
  have stops := scan_selected (id thread) s.vector
  cases result : scan (id thread) s.vector with
  | mk last found =>
    rw [result] at stops
    cases found with
    | none =>
      simp only [Option.map_none] at stops
      have empty : s.holders ⟨none, 0⟩ = [] := rfl
      rw [right_serve fresh, ← stops, scan_none result]
      simp only [ThreadPacketBuffer.new, empty]
      by_cases none : s.vector = []
      · simp [none]
      · simp [none, eq_comm]
    | some split =>
      obtain ⟨before, p, after⟩ := split
      simp only [Option.map_some] at stops
      rw [right_serve fresh, ← stops]

theorem right_releaseThreadBuffer :
    Right id (releaseThreadBuffer id s thread) ↔ Right id s ∧ ReleaseFine id s thread := by
  unfold releaseThreadBuffer ReleaseFine
  have stops := scan_selected (id thread) s.vector
  cases result : scan (id thread) s.vector with
  | mk last found =>
    rw [result] at stops
    cases found with
    | none =>
      simp only [Option.map_none] at stops
      simp [← stops]
    | some split =>
      obtain ⟨before, p, after⟩ := split
      simp only [Option.map_some] at stops
      rw [right_freed, ← stops]

theorem right_step (fresh : Fresh s) (call : Call Thread) :
    Right id (step id s call) ↔ Right id s ∧ Fine id s call := by
  cases call with
  | getThreadSendBuffer thread maxlen => exact right_getThreadBuffer fresh
  | getThreadRecvBuffer thread maxlen => exact right_getThreadBuffer fresh
  | getThreadCompressBuffer thread maxlen => exact right_getThreadBuffer fresh
  | releaseThreadBuffer thread => exact right_releaseThreadBuffer

/-- What is in use around p and in p is older than the next memory. -/
theorem fresh_serve (fresh : Fresh s) (old : ∀ q ∈ before ++ p :: after, ∀ ntype m,
      (q.buffers ntype).memory = some m → m < s.nextMemory) :
    Fresh (serve s thread before p after ntype maxlen) := by
  by_cases small : (p.buffers ntype).length < maxlen.toNat
  · simp only [serve, small, if_true]
    constructor
    · intro q member type m here
      rcases List.mem_append.mp member with front | back
      · exact Nat.lt_succ_of_lt (old q (List.mem_append_left _ front) type m here)
      · rcases List.mem_cons.mp back with rfl | rest
        · simp only [Function.update_apply] at here
          split at here
          · cases here
            exact Nat.lt_succ_self _
          · exact Nat.lt_succ_of_lt (old p (by simp) type m here)
        · exact Nat.lt_succ_of_lt (old q (by simp [rest]) type m here)
    · intro a member m here
      rcases List.mem_append.mp member with before | new
      · exact Nat.lt_succ_of_lt (fresh.served a before m here)
      · cases List.mem_singleton.mp new
        cases here
        exact Nat.lt_succ_self _
  · simp only [serve, small, if_false]
    refine ⟨old, ?_⟩
    intro a member m here
    rcases List.mem_append.mp member with before | new
    · exact fresh.served a before m here
    · cases List.mem_singleton.mp new
      exact old p (by simp) ntype m here

theorem fresh_getThreadBuffer (fresh : Fresh s) :
    Fresh (getThreadBuffer id s thread ntype maxlen) := by
  unfold getThreadBuffer
  split
  · rename_i result
    exact fresh_serve fresh (scan_split result ▸ fresh.buffers)
  · refine fresh_serve fresh ?_
    intro q member type m here
    rcases List.mem_append.mp member with old | new
    · exact fresh.buffers q old type m here
    · cases List.mem_singleton.mp new
      cases here

theorem fresh_step (fresh : Fresh s) (call : Call Thread) : Fresh (step id s call) := by
  cases call with
  | getThreadSendBuffer thread maxlen => exact fresh_getThreadBuffer fresh
  | getThreadRecvBuffer thread maxlen => exact fresh_getThreadBuffer fresh
  | getThreadCompressBuffer thread maxlen => exact fresh_getThreadBuffer fresh
  | releaseThreadBuffer thread =>
    simp only [step, releaseThreadBuffer]
    split
    · rename_i result
      refine ⟨?_, fresh.served⟩
      intro q member
      refine fresh.buffers q ?_
      rw [scan_split result]
      rcases List.mem_append.mp member with front | back
      · exact List.mem_append_left _ front
      · exact List.mem_append_right _ (List.mem_cons_of_mem _ back)
    · exact fresh

end Turns

theorem right_start (id : Thread → UInt32) : Right id (Manager.start : Manager Thread) :=
  ⟨by simp [Manager.start], by simp [Manager.start], by simp [Manager.start],
    by simp [Manager.start]⟩

theorem fresh_start : Fresh (Manager.start : Manager Thread) :=
  ⟨by simp [Manager.start], by simp [Manager.start]⟩

/-- The scan compares no ids, so every call has to come from the thread it stops for. -/
theorem served_apart_iff (id : Thread → UInt32) (calls : List (Call Thread)) :
    EveryState (step id) (Right id) .start calls ↔ EveryStep (step id) (Fine id) .start calls :=
  everyState_iff_everyStep (fun s => Fresh s ∧ Right id s) (fun _ => True) (fun _ inv => inv.2)
    (fun _ call _ inv fine => ⟨fresh_step inv.1 call, (right_step inv.1 call).mpr ⟨inv.2, fine⟩⟩)
    (fun _ call _ inv right => ((right_step inv.1 call).mp right).2)
    ⟨fresh_start, right_start id⟩ fun _ _ => trivial

/-- The second thread is served from the packet buffer of the first. -/
theorem buffer_shared :
    (run (step fun x : UInt32 => x) .start
        [.getThreadSendBuffer 1 100, .getThreadSendBuffer 2 100]).served =
      [⟨1, 1, some 0⟩, ⟨2, 1, some 0⟩] ∧
    ¬ EveryState (step fun x : UInt32 => x) (Right fun x => x) .start
        [.getThreadSendBuffer 1 100, .getThreadSendBuffer 2 100] := by
  refine ⟨by decide, ?_⟩
  intro all
  have last := everyState_last all
  have same := last.served ⟨2, 1, some 0⟩ (by decide)
  exact absurd same (by decide)

end BufferManager
