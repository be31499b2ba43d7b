import Mathlib.Algebra.Group.Nat.Defs
import Mathlib.Logic.Function.Basic
import DreamHeroes.LabelledRuns
import DreamHeroes.OrderedMaps

/- The banned addresses of a tcp_server. A ban is asked for in seconds and kept as the second it
   ends at; an entry that has expired stays until its address is asked for. -/
namespace BannedIps

open OrderedMaps LabelledRuns

inductive BanReason where
  | wrongCheckSum
  | tooManyAuthFail
  | uncompressFail
  | hackPacket
  | tooManyPacket
  | tooManyIdleConnection
  | shiftingGear
  deriving DecidableEq, Repr

/- granted is a history value: the seconds at which the bans of an address were to end, of those
   that no removal has followed. -/
structure Server where
  banip : OrderedMap Nat (Nat × BanReason)
  unixTime : Nat
  granted : Nat → List Nat

namespace Server

def isBanIp (s : Server) (addr : Nat) : Bool × Server :=
  match s.banip.find? addr with
  | none => (false, s)
  | some entry =>
      if entry.1 < s.unixTime then (false, { s with banip := s.banip.erase addr }) else (true, s)

/- An entry that is there keeps the greater of a second and of a number of seconds. -/
def banned (s : Server) (addr sec : Nat) (br : BanReason) : OrderedMap Nat (Nat × BanReason) :=
  match s.banip.find? addr with
  | some entry => if entry.1 < sec then s.banip.insert addr (sec, br) else s.banip
  | none => s.banip.insert addr ((s.unixTime + sec) % 2 ^ 32, br)

def addBanIp (s : Server) (addr sec : Nat) (br : BanReason) : Server :=
  { s with
    banip := s.banned addr sec br
    granted := Function.update s.granted addr ((s.unixTime + sec) :: s.granted addr) }

def removeBanIp (s : Server) (addr : Nat) : Server :=
  { s with banip := s.banip.erase addr, granted := Function.update s.granted addr [] }

end Server

/- tick is the clock that _real_run reads. -/
inductive Event where
  | tick (now : Nat)
  | addBanIp (addr sec : Nat) (br : BanReason)
  | removeBanIp (addr : Nat)
  | isBanIp (addr : Nat)
  deriving DecidableEq, Repr

def step (s : Server) : Event → Server
  | .tick now => { s with unixTime := now }
  | .addBanIp addr sec br => s.addBanIp addr sec br
  | .removeBanIp addr => s.removeBanIp addr
  | .isBanIp addr => (s.isBanIp addr).2

def start (now : Nat) : Server := ⟨.empty, now, fun _ => []⟩

/-- The clock is not set back, and no ban ends behind the last second of an unsigned int. -/
def Regular (s : Server) : Event → Prop
  | .tick now => s.unixTime ≤ now
  | .addBanIp _ sec _ => s.unixTime + sec < 2 ^ 32
  | _ => True

instance (s : Server) : (event : Event) → Decidable (Regular s event)
  | .tick now => inferInstanceAs (Decidable (s.unixTime ≤ now))
  | .addBanIp _ sec _ => inferInstanceAs (Decidable (s.unixTime + sec < 2 ^ 32))
  | .removeBanIp _ => .isTrue trivial
  | .isBanIp _ => .isTrue trivial

/-- From now on an address is taken for banned exactly until its last ban ends. -/
def Right (s : Server) : Prop :=
  ∀ addr now, s.unixTime ≤ now →
    (({ s with unixTime := now }.isBanIp addr).1 = true ↔
      ∃ expiry ∈ s.granted addr, now ≤ expiry)

/-- An address that is banned has no entry, or one that lasts as long as the new ban. -/
def Covered (s : Server) : Event → Prop
  | .addBanIp addr sec _ => s.unixTime = 0 ∨
      ∀ entry, s.banip.find? addr = some entry → s.unixTime + sec ≤ entry.1
  | _ => True

variable {s s' : Server} {addr sec now : Nat} {br : BanReason}

/-- The address has an entry that is not past. -/
def Lasts (s : Server) (addr now : Nat) : Prop :=
  ∃ entry, s.banip.find? addr = some entry ∧ now ≤ entry.1

theorem isBanIp_iff : ({ s with unixTime := now }.isBanIp addr).1 = true ↔ Lasts s addr now := by
  unfold Server.isBanIp Lasts
  split
  · rename_i absent
    simp only [absent]
    simp
  · rename_i entry found
    simp only [found, Option.some.injEq, exists_eq_left']
    split
    · rename_i past
      simpa using past
    · rename_i lasts
      simpa using lasts

/-- The answers of every later second, in terms of the entries. -/
theorem right_iff : Right s ↔ ∀ addr now, s.unixTime ≤ now →
    (Lasts s addr now ↔ ∃ expiry ∈ s.granted addr, now ≤ expiry) := by
  simp only [Right, isBanIp_iff]

/-- What asking for an address erases was past already. -/
theorem lasts_isBanIp (other : Nat) (after : s.unixTime ≤ now) :
    Lasts (s.isBanIp addr).2 other now ↔ Lasts s other now := by
  unfold Server.isBanIp
  split
  · exact Iff.rfl
  · rename_i entry found
    split
    · rename_i past
      by_cases same : addr = other
      · subst same
        simp only [Lasts, OrderedMap.find?_erase, if_true, found, Option.some.injEq,
          exists_eq_left']
        simp
        omega
      · simp [Lasts, same]
    · exact Iff.rfl

theorem right_isBanIp (right : Right s) : Right (s.isBanIp addr).2 := by
  have kept : (s.isBanIp addr).2.unixTime = s.unixTime ∧
      (s.isBanIp addr).2.granted = s.granted := by
    unfold Server.isBanIp
    split
    · exact ⟨rfl, rfl⟩
    · split
      · exact ⟨rfl, rfl⟩
      · exact ⟨rfl, rfl⟩
  rw [right_iff] at right ⊢
  intro other now after
  rw [kept.1] at after
  rw [lasts_isBanIp other after, kept.2]
  exact right other now after

theorem right_removeBanIp (right : Right s) : Right (s.removeBanIp addr) := by
  rw [right_iff] at right ⊢
  intro other now after
  by_cases same : addr = other
  · simp [Lasts, Server.removeBanIp, same]
  · simpa [Lasts, Server.removeBanIp, same, Ne.symm same] using right other now after

/-- A ban leaves the entry its address should have: the greater of the two ends. -/
theorem lasts_banned (covered : Covered s (.addBanIp addr sec br))
    (word : s.unixTime + sec < 2 ^ 32) :
    Lasts (s.addBanIp addr sec br) addr now ↔ now ≤ s.unixTime + sec ∨ Lasts s addr now := by
  simp only [Lasts, Server.addBanIp, Server.banned]
  cases found : s.banip.find? addr with
  | none =>
    rw [Nat.mod_eq_of_lt word]
    simp
  | some entry =>
    simp only [Option.some.injEq, exists_eq_left']
    split
    · rename_i less
      simp only [OrderedMap.find?_insert, if_true, Option.some.injEq, exists_eq_left']
      rcases covered with early | enough
      · omega
      · have lasts := enough entry found
        omega
    · rename_i enough
      simp only [found, Option.some.injEq, exists_eq_left']
      rcases covered with early | enough
      · omega
      · have lasts := enough entry found
        omega

theorem lasts_other {other : Nat} (apart : addr ≠ other) :
    Lasts (s.addBanIp addr sec br) other now ↔ Lasts s other now := by
  simp only [Lasts, Server.addBanIp, Server.banned]
  split
  · split
    · simp [apart]
    · exact Iff.rfl
  · simp [apart]

theorem right_addBanIp (right : Right s) (word : s.unixTime + sec < 2 ^ 32)
    (covered : Covered s (.addBanIp addr sec br)) : Right (s.addBanIp addr sec br) := by
  rw [right_iff] at right ⊢
  intro other now after
  by_cases same : addr = other
  · subst same
    rw [lasts_banned covered word, right addr now after]
    simp [Server.addBanIp]
  · rw [lasts_other same, right other now after]
    simp [Server.addBanIp, Ne.symm same]

/-- A ban that is cut short is missed in its last second. -/
theorem covered_of_right (right : Right (s.addBanIp addr sec br)) :
    Covered s (.addBanIp addr sec br) := by
  by_cases first : s.unixTime = 0
  · exact .inl first
  · refine .inr fun entry found => ?_
    by_contra short
    have lasts := (right_iff.mp right addr (s.unixTime + sec) (Nat.le_add_right _ _)).mpr
      ⟨s.unixTime + sec, by simp [Server.addBanIp], le_rfl⟩
    simp only [Lasts, Server.addBanIp, Server.banned, found] at lasts
    split at lasts
    · simp only [OrderedMap.find?_insert, if_true, Option.some.injEq, exists_eq_left'] at lasts
      omega
    · simp only [found, Option.some.injEq, exists_eq_left'] at lasts
      omega

/-- Addresses are banned as long as they should be in exactly the runs whose bans are covered. -/
theorem bans_right_iff (now : Nat) (events : List Event)
    (regular : EveryStep step Regular (start now) events) :
    EveryState step Right (start now) events ↔ EveryStep step Covered (start now) events := by
  refine everyState_iff_of_allowed Right (fun _ => id) ?_ ?_ ?_ regular
  · intro s event fine right covered
    cases event with
    | tick now => exact fun addr later after => right addr later (Nat.le_trans fine after)
    | addBanIp addr sec br => exact right_addBanIp right fine covered
    | removeBanIp addr => exact right_removeBanIp right
    | isBanIp addr => exact right_isBanIp right
  · intro s event fine _ right
    cases event with
    | addBanIp addr sec br => exact covered_of_right right
    | tick now => trivial
    | removeBanIp addr => trivial
    | isBanIp addr => trivial
  · rw [right_iff]
    intro addr later _
    simp [start, Lasts, OrderedMap.find?, OrderedMap.empty, lookup]

/-- A second ban that the first one covers. -/
theorem covered_ban_lasts :
    EveryState step Right (start 1700000000) [.addBanIp 7 120 .wrongCheckSum, .tick 1700000100,
      .addBanIp 7 5 .hackPacket, .isBanIp 7, .tick 1700000121, .isBanIp 7] := by
  refine (bans_right_iff 1700000000 _ ?_).mpr ?_
  · decide
  · refine ⟨.inr ?_, trivial, .inr ?_, trivial, trivial, trivial, trivial⟩
    · intro entry found
      cases found
    · intro entry found
      cases found
      decide

/-- A wrong check sum within the five seconds a hack packet was banned for. -/
theorem second_ban_lost :
    EveryStep step Regular (start 1700000000)
        [.addBanIp 7 5 .hackPacket, .addBanIp 7 120 .wrongCheckSum, .tick 1700000006] ∧
      ¬ EveryState step Right (start 1700000000)
        [.addBanIp 7 5 .hackPacket, .addBanIp 7 120 .wrongCheckSum, .tick 1700000006] := by
  constructor
  · decide
  · intro right
    have answers := everyState_last right 7 1700000006 le_rfl
    have banned := answers.mpr ⟨1700000120, by decide, by decide⟩
    revert banned
    decide

end BannedIps
