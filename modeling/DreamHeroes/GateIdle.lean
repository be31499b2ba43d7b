import DreamHeroes.GateServer
import DreamHeroes.LeastLoaded

/- Which game server a new player is sent to. -/
namespace GateIdle

open GateServer LeastLoaded

/-- A game server that is in a slot of the table. -/
def Active (g : Gate) (i : GameId) (c : ClientPtr) : Prop :=
  i < maxGameId ∧ g.activeGames i = some c

/-- It has fewer players than the limit. -/
def Idle (g : Gate) (c : ClientPtr) : Prop := (g.clients c).onlines < g.gsIdleMax

variable {g : Gate} {i j : GameId} {c d : ClientPtr}

def games (g : Gate) : List ClientPtr := (List.range maxGameId).filterMap g.activeGames

theorem mem_games : c ∈ games g ↔ ∃ i, Active g i c := by
  simp [games, Active]

theorem idleSearch_eq (slots : List GameId) (best : Option ClientPtr) :
    g.idleSearch slots best = search (fun c => (g.clients c).onlines) g.gsIdleMax
      (slots.filterMap g.activeGames) best := by
  induction slots generalizing best with
  | nil => rfl
  | cons i rest ih =>
    cases slot : g.activeGames i with
    | none => simp only [Gate.idleSearch, slot, List.filterMap_cons, ih]
    | some c =>
      cases best with
      | none => simp only [Gate.idleSearch, slot, List.filterMap_cons, search, ih]
      | some k => simp only [Gate.idleSearch, slot, List.filterMap_cons, search, ih]

theorem getIdleGameClient_eq :
    g.getIdleGameClient = search (fun c => (g.clients c).onlines) g.gsIdleMax (games g) none :=
  idleSearch_eq (List.range maxGameId) none

/-- The first game server of the list that is idle is the one in the least slot. -/
theorem first_idle (active : Active g i c) (idle : Idle g c) :
    ∃ j d, Active g j d ∧ Idle g d ∧ (∀ k e, Active g k e → Idle g e → j ≤ k) ∧
      (games g).find? (fun e => (g.clients e).onlines < g.gsIdleMax) = some d := by
  have listed : ((List.range maxGameId).find? fun k =>
      (g.activeGames k).any fun e => (g.clients e).onlines < g.gsIdleMax).isSome = true := by
    rw [List.find?_isSome]
    exact ⟨i, List.mem_range.mpr active.1, by simpa [active.2, Idle] using idle⟩
  obtain ⟨j, first⟩ := Option.isSome_iff_exists.mp listed
  obtain ⟨here, inRange, before⟩ := List.find?_range_eq_some.mp first
  obtain ⟨d, slot, below⟩ := (Option.any_eq_true _ _).mp here
  refine ⟨j, d, ⟨List.mem_range.mp inRange, slot⟩, by simpa [Idle] using below, ?_, ?_⟩
  · intro k e other idle
    by_contra earlier
    have skipped := before k (not_le.mp earlier)
    simp only [other.2, Option.any_some, Bool.not_eq_true', decide_eq_false_iff_not] at skipped
    exact skipped idle
  · rw [games, List.find?_filterMap, first]
    exact slot

/-- A new player is sent to the game server with the least id of those below the limit, and
where all are full to one that has the fewest players. -/
theorem getIdleGameClient_right (g : Gate) :
    (g.getIdleGameClient = none ↔ ¬ ∃ i c, Active g i c) ∧
    ((∃ i c, Active g i c ∧ Idle g c) →
      ∃ i c, g.getIdleGameClient = some c ∧ Active g i c ∧ Idle g c ∧
        ∀ j d, Active g j d → Idle g d → i ≤ j) ∧
    ((∃ i c, Active g i c) → (∀ i c, Active g i c → ¬ Idle g c) →
      ∃ i c, g.getIdleGameClient = some c ∧ Active g i c ∧
        ∀ j d, Active g j d → (g.clients c).onlines ≤ (g.clients d).onlines) := by
  have nobody : g.getIdleGameClient = none ↔ ¬ ∃ i c, Active g i c := by
    rw [getIdleGameClient_eq, search_none, List.eq_nil_iff_forall_not_mem]
    simp only [mem_games, and_true]
    constructor
    · rintro empty ⟨i, c, active⟩
      exact empty c ⟨i, active⟩
    · rintro empty c ⟨i, active⟩
      exact empty ⟨i, c, active⟩
  refine ⟨nobody, ?_, ?_⟩
  · rintro ⟨i, c, active, idle⟩
    obtain ⟨j, d, here, below, least, first⟩ := first_idle active idle
    refine ⟨j, d, ?_, here, below, least⟩
    rw [getIdleGameClient_eq]
    exact search_below (by simp) first
  · intro some full
    have found := mt nobody.mp (not_not.mpr some)
    obtain ⟨c, found⟩ := Option.ne_none_iff_exists'.mp found
    have least := getIdleGameClient_eq ▸ found
    have above : ∀ d ∈ games g, g.gsIdleMax ≤ (g.clients d).onlines := by
      intro d listed
      obtain ⟨i, active⟩ := mem_games.mp listed
      exact not_lt.mp (full i d active)
    obtain ⟨listed | held, least, _⟩ := search_least above least
    · obtain ⟨i, active⟩ := mem_games.mp listed
      exact ⟨i, c, found, active, fun j d other => least d (mem_games.mpr ⟨j, other⟩)⟩
    · cases held

end GateIdle
