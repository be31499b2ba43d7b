import DreamHeroes.SessionPool
import Mathlib.Data.Finset.Card

/- How many accepts a tcp_server has under way: m_accepting_count counts them, no run exceeds the
limit of a round, and a round leaves no free session idle below it. -/
namespace AcceptLimits

open TcpServer SessionPool LabelledRuns Finset
open TcpSession (maxMessageLen)

variable {s s' : Server} {p : SessionPtr} {event : Event}

/-- m_accepting_count is the number of sessions whose async_accept has not completed, and those
are no more than a round allows. -/
structure Limited (s : Server) : Prop where
  counted : ∃ pending : Finset SessionPtr,
    (∀ p, p ∈ pending ↔ (s.session p).accepting = true) ∧ s.acceptingCount = (#pending)
  limited : s.acceptingCount ≤ s.onceListenCount

/-- The round let as many sessions accept as there are, or as it may. -/
def Filled (s : Server) : Prop := s.sessions = [] ∨ s.acceptingCount = s.onceListenCount

/-- The accepts are left alone. -/
structure Same (s s' : Server) : Prop where
  accepting : ∀ p, (s'.session p).accepting = (s.session p).accepting
  acceptingCount : s'.acceptingCount = s.acceptingCount
  onceListenCount : s'.onceListenCount = s.onceListenCount

theorem Same.refl (s : Server) : Same s s := ⟨fun _ => rfl, rfl, rfl⟩

theorem limited_same (same : Same s s') (limited : Limited s) : Limited s' where
  counted := by
    obtain ⟨pending, listed, counted⟩ := limited.counted
    refine ⟨pending, ?_, same.acceptingCount.trans counted⟩
    intro p
    rw [listed, same.accepting]
  limited := by
    rw [same.acceptingCount, same.onceListenCount]
    exact limited.limited

theorem same_setSession {session : Session}
    (accepting : session.accepting = (s.session p).accepting) :
    Same s (s.setSession p session) where
  accepting := by
    intro q
    by_cases here : q = p
    · subst here
      simpa [Server.setSession] using accepting
    · simp [Server.setSession, here]
  acceptingCount := rfl
  onceListenCount := rfl

theorem Same.trans {s'' : Server} (first : Same s s') (later : Same s' s'') : Same s s'' where
  accepting p := (later.accepting p).trans (first.accepting p)
  acceptingCount := later.acceptingCount.trans first.acceptingCount
  onceListenCount := later.onceListenCount.trans first.onceListenCount

theorem same_freeSession (same : Same s s') : Same s (s'.freeSession p) := by
  have reset : Same s' (s'.setSession p { (s'.session p).reset with
      frees := (s'.session p).frees + 1 }) := same_setSession rfl
  exact same.trans ⟨reset.accepting, rfl, rfl⟩

theorem same_lost (same : Same s s') : Same s (s'.lost p) := by
  have shut : Same s' (s'.setSession p (s'.session p).shut) := same_setSession rfl
  exact same.trans ⟨shut.accepting, rfl, rfl⟩

theorem same_callBack (s : Server) : Same s s.callBack := by
  unfold Server.callBack
  split
  · unfold Server.onClose
    split
    · exact same_freeSession ⟨fun _ => rfl, rfl, rfl⟩
    · exact ⟨fun _ => rfl, rfl, rfl⟩
  · exact Same.refl s

theorem same_handleReadSome (s : Server) (p : SessionPtr)
    (outcome : ClientSending.ReadOutcome) : Same s (s.handleReadSome p outcome) := by
  unfold Server.handleReadSome
  split
  · exact Same.refl s
  · simp only
    split
    · cases outcome with
      | more => exact same_setSession rfl
      | badLength => exact same_setSession rfl
      | uncompressFailed => exact same_lost (same_setSession rfl)
      | error => exact same_lost (same_setSession rfl)
    · exact same_setSession rfl

theorem same_handleWrite (s : Server) (p : SessionPtr) (ok : Bool) :
    Same s (s.handleWrite p ok) := by
  unfold Server.handleWrite
  split
  · exact Same.refl s
  · simp only
    split
    · split
      · exact same_setSession rfl
      · exact same_lost (same_setSession rfl)
    · exact same_setSession rfl

/-- Only arming sessions and the completion of an accept touch the accepts. -/
theorem same_step (arming : event ≠ .arm) (accepted : ∀ p outcome, event ≠ .handleAccept p outcome) :
    Same s (step s event) := by
  cases event with
  | arm => exact absurd rfl arming
  | poll =>
    simp only [step, Server.poll]
    split
    · exact ⟨fun _ => rfl, rfl, rfl⟩
    · exact Same.refl s
  | callBack => exact same_callBack s
  | handleAccept p outcome => exact absurd rfl (accepted p outcome)
  | begin p =>
    simp only [step, Server.runBegin]
    split
    · exact Same.refl s
    · exact same_setSession rfl
  | handleReadSome p outcome => exact same_handleReadSome s p outcome
  | handleWrite p ok => exact same_handleWrite s p ok
  | close p => exact same_setSession rfl
  | runClose p =>
    simp only [step, Server.runClose]
    split
    · exact Same.refl s
    · exact same_setSession rfl
  | send p fresh data =>
    simp only [step, Server.sendMessage]
    split
    · exact same_setSession rfl
    · exact Same.refl s
  | runPosted p => exact same_setSession rfl

/-- A free session is taken once, and not while its accept is under way. -/
theorem limited_armed {rest : List SessionPtr} (limited : Limited s)
    (free : (s.session p).accepting = false) (room : s.acceptingCount < s.onceListenCount) :
    Limited { s.setSession p { s.session p with valid := true, accepting := true } with
      sessions := rest
      acceptingCount := s.acceptingCount + 1 } where
  counted := by
    obtain ⟨pending, listed, counted⟩ := limited.counted
    have fresh : p ∉ pending := by
      rw [listed, free]
      exact Bool.false_ne_true
    refine ⟨insert p pending, ?_, ?_⟩
    · intro q
      by_cases here : q = p
      · subst here
        simp [Server.setSession]
      · simp [Server.setSession, here, listed]
    · rw [card_insert_of_notMem fresh, counted]
  limited := room

theorem limited_armSessions (list : List SessionPtr) (limited : Limited s)
    (all : s.sessions = list) (single : list.Nodup)
    (free : ∀ p ∈ list, (s.session p).accepting = false) :
    Limited (Server.armSessions list s) ∧ Filled (Server.armSessions list s) := by
  induction list generalizing s with
  | nil => exact ⟨limited, .inl all⟩
  | cons p rest ih =>
    obtain ⟨apart, later⟩ := List.nodup_cons.mp single
    unfold Server.armSessions
    split
    · rename_i room
      apply ih (limited_armed limited (free p List.mem_cons_self) room) rfl later
      intro q member
      have other : q ≠ p := by
        intro same
        exact apart (same ▸ member)
      simp only [Server.setSession, Function.update_of_ne other]
      exact free q (List.mem_cons_of_mem p member)
    · rename_i full
      exact ⟨limited, .inr (Nat.le_antisymm limited.limited (Nat.le_of_not_lt full))⟩

theorem limited_handleAccept (outcome : AcceptOutcome) (limited : Limited s) :
    Limited (s.handleAccept p outcome) := by
  unfold Server.handleAccept
  split
  · rename_i accepting
    obtain ⟨pending, listed, counted⟩ := limited.counted
    have there : p ∈ pending := (listed p).mpr accepting
    have completed : ∀ session : Session, session.accepting = false →
        Limited ({ s with acceptingCount := s.acceptingCount - 1 }.setSession p session) := by
      intro session done
      refine ⟨⟨pending.erase p, ?_, ?_⟩, ?_⟩
      · intro q
        by_cases here : q = p
        · subst here
          simp [Server.setSession, done]
        · simp [Server.setSession, here, listed]
      · rw [card_erase_of_mem there, ← counted]
        rfl
      · have before := limited.limited
        simp only [Server.setSession]
        omega
    cases outcome with
    | ok => exact completed _ rfl
    | banned => exact limited_same (same_freeSession (Same.refl _)) (completed _ rfl)
    | error => exact limited_same (same_freeSession (Same.refl _)) (completed _ rfl)
  · exact limited

theorem limited_arm {poolCount : Nat} (staged : Staged poolCount s) (limited : Limited s) :
    Limited s.arm ∧ (s.polling = [] → Filled s.arm) := by
  unfold Server.arm
  split
  · have free : ∀ p ∈ s.sessions, (s.session p).accepting = false :=
      fun p member => ((staged_kept staged).unused p member).2.1
    obtain ⟨still, filled⟩ := limited_armSessions s.sessions limited rfl staged.single free
    exact ⟨still, fun _ => filled⟩
  · rename_i busy
    exact ⟨limited, fun idle => absurd idle busy⟩

theorem limited_step {poolCount : Nat} (staged : Staged poolCount s) (limited : Limited s) :
    Limited (step s event) := by
  by_cases arming : event = .arm
  · subst arming
    exact (limited_arm staged limited).1
  · by_cases accepted : ∃ p outcome, event = .handleAccept p outcome
    · obtain ⟨p, outcome, rfl⟩ := accepted
      exact limited_handleAccept outcome limited
    · apply limited_same (same_step arming _) limited
      intro p outcome same
      exact accepted ⟨p, outcome, same⟩

/-- In every run m_accepting_count is the number of accepts under way and within the limit of a
round, and a round that lets sessions accept leaves as many under way as it may or no session
free. -/
theorem accepts_limited (poolCount onceListenCount : Nat) (limitMode : Bool)
    (buffer : ByteWords.Block maxMessageLen) (events : List Event) :
    EveryState step Limited (start poolCount onceListenCount limitMode buffer) events ∧
      EveryStep step (fun s event => event = .arm → s.polling = [] → Filled (step s event))
        (start poolCount onceListenCount limitMode buffer) events := by
  have keep : ∀ s event, Staged poolCount s ∧ Limited s → True →
      Staged poolCount (step s event) ∧ Limited (step s event) := by
    intro s event held _
    exact ⟨staged_step event held.1, limited_step held.1 held.2⟩
  have first : Staged poolCount (start poolCount onceListenCount limitMode buffer) ∧
      Limited (start poolCount onceListenCount limitMode buffer) :=
    ⟨staged_start poolCount onceListenCount limitMode buffer,
      ⟨∅, by simp [start], rfl⟩, Nat.zero_le _⟩
  have free : EveryStep step (fun _ _ => True) (start poolCount onceListenCount limitMode buffer)
      events := everyStep_of_forall fun _ _ _ => trivial
  constructor
  · exact everyState_imp (fun _ held => held.2) (everyState_of_everyStep keep first free)
  · apply everyStep_of_invariant keep _ first free
    intro s event held _ same idle
    subst same
    exact (limited_arm held.1 held.2).2 idle

end AcceptLimits
