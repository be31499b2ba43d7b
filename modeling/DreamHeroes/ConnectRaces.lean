import DreamHeroes.LabelledRuns
import Mathlib.Algebra.Group.Nat.Defs

/- The connecting of a tcp_client, one access to a shared member at a time: _connect on the io
   thread and run on the main loop both call reconnect, only the latter under m_mutex. -/
namespace ConnectRaces

open LabelledRuns

/- Where the io thread stands in _connect. -/
inductive IoPoint where
  | idle
  | testConnected
  | testConnecting
  | setConnecting
  | asyncConnect
  | setInitConnected
  deriving DecidableEq, Repr

/- Where the main loop stands in run. It holds m_mutex at every point but idle. -/
inductive RunPoint where
  | idle
  | readConnected
  | readReconnect
  | readConnecting
  | readInitConnected
  | readTime
  | testConnected
  | testConnecting
  | setConnecting
  | asyncConnect
  deriving DecidableEq, Repr

def reconnectTime : Nat := 5

/- posted counts the _connect that wait on the io thread, outstanding the async_connect that
   have not completed. -/
structure Client where
  isConnected : Bool
  isReconnect : Bool
  isConnecting : Bool
  isInitConnected : Bool
  lastReconnectTime : Nat
  posted : Nat
  outstanding : Nat
  io : IoPoint
  main : RunPoint
  deriving DecidableEq, Repr

/- now is what time() returns, if the step reads it. handleConnect needs m_mutex and, like the
   close of the socket, the io thread. -/
inductive Event where
  | connect
  | io
  | run (now : Nat)
  | handleConnect (ok : Bool) (now : Nat)
  | onClose
  deriving DecidableEq, Repr

def ioStep (c : Client) : Client :=
  match c.io with
  | .idle => if c.posted = 0 then c else { c with posted := c.posted - 1, io := .testConnected }
  | .testConnected => { c with io := if c.isConnected then .setInitConnected else .testConnecting }
  | .testConnecting => { c with io := if c.isConnecting then .setInitConnected else .setConnecting }
  | .setConnecting => { c with isConnecting := true, io := .asyncConnect }
  | .asyncConnect => { c with outstanding := c.outstanding + 1, io := .setInitConnected }
  | .setInitConnected => { c with isInitConnected := true, io := .idle }

def runStep (c : Client) (now : Nat) : Client :=
  match c.main with
  | .idle => { c with main := .readConnected }
  | .readConnected => { c with main := if c.isConnected then .idle else .readReconnect }
  | .readReconnect => { c with main := if c.isReconnect then .readConnecting else .idle }
  | .readConnecting => { c with main := if c.isConnecting then .idle else .readInitConnected }
  | .readInitConnected => { c with main := if c.isInitConnected then .readTime else .idle }
  | .readTime => { c with
      main := if reconnectTime < (now + 2 ^ 32 - c.lastReconnectTime) % 2 ^ 32 then .testConnected
        else .idle }
  | .testConnected => { c with main := if c.isConnected then .idle else .testConnecting }
  | .testConnecting => { c with main := if c.isConnecting then .idle else .setConnecting }
  | .setConnecting => { c with isConnecting := true, main := .asyncConnect }
  | .asyncConnect => { c with outstanding := c.outstanding + 1, main := .idle }

def handleConnect (c : Client) (ok : Bool) (now : Nat) : Client :=
  if c.outstanding = 0 ∨ c.io ≠ .idle ∨ c.main ≠ .idle then c
  else
    let c := { c with outstanding := c.outstanding - 1, isConnecting := false }
    if c.isConnected then c
    else { c with lastReconnectTime := now % 2 ^ 32, isConnected := ok }

def step (c : Client) : Event → Client
  | .connect => { c with posted := c.posted + 1 }
  | .io => ioStep c
  | .run now => runStep c now
  | .handleConnect ok now => handleConnect c ok now
  | .onClose => if c.io = .idle then { c with isConnected := false } else c

def start (isReconnect : Bool) : Client where
  isConnected := false
  isReconnect := isReconnect
  isConnecting := false
  isInitConnected := false
  lastReconnectTime := 0
  posted := 0
  outstanding := 0
  io := .idle
  main := .idle

/-- One attempt to connect at a time, and none while there is a connection. -/
structure Orderly (c : Client) : Prop where
  single : c.outstanding ≤ 1
  unconnected : 0 < c.outstanding → c.isConnected = false

/-- The io thread is inside _connect. -/
def Connects : IoPoint → Bool
  | .idle => false
  | _ => true

/-- The main loop has seen that _connect has run. -/
def Reconnects : RunPoint → Bool
  | .readTime => true
  | .testConnected => true
  | .testConnecting => true
  | .setConnecting => true
  | .asyncConnect => true
  | _ => false

/-- The _connect that have been posted: waiting, running or done. -/
def used (c : Client) : Nat :=
  c.posted + (Connects c.io).toNat + c.isInitConnected.toNat

/-- The io thread has tested the flags and not yet left reconnect. -/
def Commits : IoPoint → Bool
  | .testConnecting => true
  | .setConnecting => true
  | .asyncConnect => true
  | _ => false

def RunCommits : RunPoint → Bool
  | .testConnecting => true
  | .setConnecting => true
  | .asyncConnect => true
  | _ => false

/-- m_isconnecting stands for the one attempt that is under way or about to be made. -/
structure Exclusive (c : Client) : Prop where
  once : used c ≤ 1
  seen : Reconnects c.main = true → c.isInitConnected = true
  counted : c.outstanding + (decide (c.io = .asyncConnect)).toNat +
    (decide (c.main = .asyncConnect)).toNat = c.isConnecting.toNat
  free : c.io = .setConnecting ∨ c.main = .setConnecting → c.isConnecting = false
  unconnected : Commits c.io = true ∨ RunCommits c.main = true ∨ 0 < c.outstanding →
    c.isConnected = false

variable {c : Client} {event : Event}

theorem exclusive_start (isReconnect : Bool) : Exclusive (start isReconnect) := by
  constructor <;> simp [start, used, Connects, Reconnects, Commits, RunCommits]

theorem exclusive_orderly (exclusive : Exclusive c) : Orderly c where
  single := by
    have counted := exclusive.counted
    have most := Bool.toNat_le c.isConnecting
    omega
  unconnected := fun some => exclusive.unconnected (.inr (.inr some))

/-- The main loop has not come past m_isinitconncted while the io thread is in _connect. -/
theorem exclusive_apart (exclusive : Exclusive c) (connects : Connects c.io = true) :
    Reconnects c.main = false := by
  have once := exclusive.once
  rw [← Bool.not_eq_true]
  intro reconnects
  simp only [used, connects, exclusive.seen reconnects] at once
  simp at once

theorem exclusive_io (exclusive : Exclusive c) : Exclusive (ioStep c) := by
  have apart := exclusive_apart exclusive
  obtain ⟨once, seen, counted, free, unconnected⟩ := exclusive
  unfold ioStep
  split
  · rename_i here
    split
    · exact ⟨once, seen, counted, free, unconnected⟩
    · constructor
      · simp [used, here, Connects] at once ⊢
        omega
      · exact seen
      · simpa [here] using counted
      · simpa [here] using free
      · simpa [here, Commits] using unconnected
  · rename_i here
    constructor
    · simp only [used, here] at once ⊢
      split <;> simpa [Connects] using once
    · exact seen
    · split <;> simpa [here] using counted
    · split <;> simpa [here] using free
    · split
      · simpa [here, Commits] using unconnected
      · rename_i off
        intro _
        simpa using off
  · rename_i here
    constructor
    · simp only [used, here] at once ⊢
      split <;> simpa [Connects] using once
    · exact seen
    · split <;> simpa [here] using counted
    · split
      · simpa [here] using free
      · rename_i off
        intro _
        simpa using off
    · intro _
      exact unconnected (.inl (by simp [here, Commits]))
  · rename_i here
    have off : c.isConnecting = false := free (.inl here)
    have notRun : c.main ≠ .setConnecting ∧ c.main ≠ .asyncConnect := by
      have := apart (by simp [here, Connects])
      constructor <;> intro there <;> simp [there, Reconnects] at this
    constructor
    · simpa [used, here, Connects] using once
    · exact seen
    · simp [here, off, notRun] at counted ⊢
      exact counted
    · simp [notRun]
    · intro _
      exact unconnected (.inl (by simp [here, Commits]))
  · rename_i here
    constructor
    · simpa [used, here, Connects] using once
    · exact seen
    · simp [here] at counted ⊢
      omega
    · simpa [here] using free
    · intro _
      exact unconnected (.inl (by simp [here, Commits]))
  · rename_i here
    constructor
    · simp [used, here, Connects] at once ⊢
      omega
    · intro _
      rfl
    · simpa [here] using counted
    · simpa [here] using free
    · simpa [here, Commits] using unconnected

/-- What the main loop has to know where it goes to, as long as it only reads. -/
theorem exclusive_move {main : RunPoint} (exclusive : Exclusive c)
    (before : c.main ≠ .asyncConnect) (after : main ≠ .asyncConnect)
    (seen : Reconnects main = true → c.isInitConnected = true)
    (free : main = .setConnecting → c.isConnecting = false)
    (unconnected : RunCommits main = true → c.isConnected = false) :
    Exclusive { c with main := main } where
  once := exclusive.once
  seen := seen
  counted := by
    have counted := exclusive.counted
    simp [before, after] at counted ⊢
    exact counted
  free := by
    intro either
    cases either with
    | inl io => exact exclusive.free (.inl io)
    | inr run => exact free run
  unconnected := by
    intro any
    rcases any with io | run | some
    · exact exclusive.unconnected (.inl io)
    · exact unconnected run
    · exact exclusive.unconnected (.inr (.inr some))

theorem exclusive_stop (exclusive : Exclusive c) (before : c.main ≠ .asyncConnect) :
    Exclusive { c with main := .idle } := by
  apply exclusive_move exclusive before <;> simp [Reconnects, RunCommits]

theorem exclusive_run (exclusive : Exclusive c) (now : Nat) : Exclusive (runStep c now) := by
  unfold runStep
  split
  · rename_i here
    apply exclusive_move exclusive <;> simp [here, Reconnects, RunCommits]
  · rename_i here
    split
    · exact exclusive_stop exclusive (by simp [here])
    · apply exclusive_move exclusive <;> simp [here, Reconnects, RunCommits]
  · rename_i here
    split
    · apply exclusive_move exclusive <;> simp [here, Reconnects, RunCommits]
    · exact exclusive_stop exclusive (by simp [here])
  · rename_i here
    split
    · exact exclusive_stop exclusive (by simp [here])
    · apply exclusive_move exclusive <;> simp [here, Reconnects, RunCommits]
  · rename_i here
    split
    · rename_i done
      apply exclusive_move exclusive <;> simp [here, done, Reconnects, RunCommits]
    · exact exclusive_stop exclusive (by simp [here])
  · rename_i here
    have done := exclusive.seen (by simp [here, Reconnects])
    split
    · apply exclusive_move exclusive <;> simp [here, done, Reconnects, RunCommits]
    · exact exclusive_stop exclusive (by simp [here])
  · rename_i here
    have done := exclusive.seen (by simp [here, Reconnects])
    split
    · exact exclusive_stop exclusive (by simp [here])
    · rename_i off
      apply exclusive_move exclusive <;> simp [here, done, off, Reconnects, RunCommits]
  · rename_i here
    have done := exclusive.seen (by simp [here, Reconnects])
    have off := exclusive.unconnected (.inr (.inl (by simp [here, RunCommits])))
    split
    · exact exclusive_stop exclusive (by simp [here])
    · rename_i free
      apply exclusive_move exclusive <;> simp [here, done, off, free, Reconnects, RunCommits]
  · rename_i here
    have apart := exclusive_apart exclusive
    obtain ⟨once, seen, counted, free, unconnected⟩ := exclusive
    have off : c.isConnecting = false := free (.inr here)
    have notIo : c.io ≠ .setConnecting ∧ c.io ≠ .asyncConnect := by
      constructor <;> intro there <;> simp [there, here, Connects, Reconnects] at apart
    constructor
    · exact once
    · intro _
      exact seen (by simp [here, Reconnects])
    · simp [here, off, notIo] at counted ⊢
      exact counted
    · simp [notIo]
    · intro _
      exact unconnected (.inr (.inl (by simp [here, RunCommits])))
  · rename_i here
    obtain ⟨once, seen, counted, free, unconnected⟩ := exclusive
    constructor
    · exact once
    · simp [Reconnects]
    · simp [here] at counted ⊢
      omega
    · simpa [here] using free
    · intro _
      exact unconnected (.inr (.inl (by simp [here, RunCommits])))

theorem exclusive_handleConnect (exclusive : Exclusive c) (ok : Bool) (now : Nat) :
    Exclusive (handleConnect c ok now) := by
  unfold handleConnect
  split
  · exact exclusive
  · rename_i ready
    simp only [not_or, Decidable.not_not] at ready
    obtain ⟨some, io, main⟩ := ready
    obtain ⟨once, seen, counted, free, unconnected⟩ := exclusive
    have off : c.isConnected = false := unconnected (.inr (.inr (by omega)))
    have single : c.outstanding = 1 := by
      have most := Bool.toNat_le c.isConnecting
      omega
    simp only [off, Bool.false_eq_true, if_false]
    constructor
    · exact once
    · exact seen
    · simp [single, io, main]
    · simp
    · simp [single, io, main, Commits, RunCommits]

theorem exclusive_onClose (exclusive : Exclusive c) :
    Exclusive { c with isConnected := false } where
  once := exclusive.once
  seen := exclusive.seen
  counted := exclusive.counted
  free := exclusive.free
  unconnected := fun _ => rfl

theorem exclusive_connect (exclusive : Exclusive c) (first : used c = 0) :
    Exclusive { c with posted := c.posted + 1 } where
  once := by
    simp only [used] at first ⊢
    omega
  seen := exclusive.seen
  counted := exclusive.counted
  free := exclusive.free
  unconnected := exclusive.unconnected

theorem used_io : used (ioStep c) ≤ used c := by
  unfold ioStep
  split <;> rename_i here
  · split
    · exact Nat.le_refl _
    · simp [used, here, Connects]
      omega
  · simp only [used, here]
    split <;> simp [Connects]
  · simp only [used, here]
    split <;> simp [Connects]
  · simp [used, here, Connects]
  · simp [used, here, Connects]
  · simp [used, here, Connects]

theorem used_congr {next : Client} (posted : next.posted = c.posted) (io : next.io = c.io)
    (init : next.isInitConnected = c.isInitConnected) : used next = used c := by
  simp only [used, posted, io, init]

theorem used_run (now : Nat) : used (runStep c now) = used c := by
  apply used_congr <;> unfold runStep <;> split <;> rfl

theorem used_handleConnect (ok : Bool) (now : Nat) : used (handleConnect c ok now) = used c := by
  unfold handleConnect
  dsimp only
  split
  · rfl
  · split <;> exact used_congr rfl rfl rfl

/-- What a step does to a client whose connects have not come to more than one. -/
theorem exclusive_step (exclusive : Exclusive c) {rest : List Event}
    (few : used c + (event :: rest).count .connect ≤ 1) :
    Exclusive (step c event) ∧ used (step c event) + rest.count .connect ≤ 1 := by
  cases event with
  | connect =>
    simp only [List.count_cons_self] at few
    constructor
    · exact exclusive_connect exclusive (by omega)
    · simp only [step, used] at few ⊢
      omega
  | io =>
    have less := used_io (c := c)
    simp only [List.count_cons, step] at few ⊢
    exact ⟨exclusive_io exclusive, by omega⟩
  | run now =>
    have same := used_run (c := c) now
    simp only [List.count_cons, step] at few ⊢
    exact ⟨exclusive_run exclusive now, by omega⟩
  | handleConnect ok now =>
    have same := used_handleConnect (c := c) ok now
    simp only [List.count_cons, step] at few ⊢
    exact ⟨exclusive_handleConnect exclusive ok now, by omega⟩
  | onClose =>
    simp only [List.count_cons, step] at few ⊢
    split
    · exact ⟨exclusive_onClose exclusive, by simp only [used] at few ⊢; omega⟩
    · exact ⟨exclusive, by omega⟩

theorem everyState_exclusive (exclusive : Exclusive c) {events : List Event}
    (few : used c + events.count .connect ≤ 1) : EveryState step Exclusive c events := by
  induction events generalizing c with
  | nil => exact exclusive
  | cons event rest ih =>
    have next := exclusive_step exclusive few
    exact ⟨exclusive, ih next.1 next.2⟩

/-- A client that is told to connect once never has two attempts under way, although reconnect
is called on two threads and only one of them holds m_mutex. -/
theorem connected_once (isReconnect : Bool) (events : List Event)
    (once : events.count .connect ≤ 1) : EveryState step Orderly (start isReconnect) events := by
  apply everyState_imp (fun _ => exclusive_orderly)
  apply everyState_exclusive (exclusive_start isReconnect)
  simpa [used, start, Connects] using once

/-- One connect, whose attempt fails. -/
def failed : List Event :=
  .connect :: List.replicate 6 .io ++ [.handleConnect false 100]

theorem connected_once_fails :
    EveryState step Orderly (start true) (failed ++ List.replicate 10 (.run 106)) :=
  connected_once true _ (by decide)

/- With a second connect both threads can pass the test of m_isconnecting. -/
example :
    (run step (start true) (failed ++ [.connect] ++ List.replicate 3 .io ++
      List.replicate 8 (.run 106) ++ List.replicate 2 .io ++
      List.replicate 2 (.run 106))).outstanding = 2 := by
  decide +kernel

end ConnectRaces
