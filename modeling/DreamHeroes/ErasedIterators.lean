import DreamHeroes.GateServer
import DreamHeroes.MapIterators

/- The loops of eraseValue and removeUsers with the iterators they use. Each is written twice,
   and WIN32 selects the one. -/
namespace ErasedIterators

open LoopOutcomes OrderedMaps MapIterators GateServer

variable {K V : Type} [LinearOrder K] [DecidableEq V]

inductive Platform where
  | win32
  | other
  deriving DecidableEq, Repr

/-- `it = erase(it)`, or `erase(it)` and then `++it`. -/
def Platform.afterErase : Platform → AfterErase
  | .win32 => .takeReturned
  | .other => .advanceErased

def eraseValue (platform : Platform) (turns : Nat) (m : OrderedMap K V) (v : V) :
    Outcome (OrderedMap K V) :=
  (eraseLoop platform.afterErase (fun _ a => a = v) (fun s _ => s) turns () m
    (OrderedMap.begin m)).bind fun ended => .done ended.2

/- The loop erases from a copy of m_onlines, which holds no null pointer. -/
def removeUsers (platform : Platform) (turns : Nat) (g : Gate) (gs : GameId) : Outcome Gate :=
  (eraseLoop platform.afterErase (fun (g : Gate) p => (g.sessions p).gsId = gs)
    (fun g p => g.setState p .waitClose) turns g g.onlines (OrderedMap.begin g.onlines)).bind
      fun ended =>
        (eraseValue platform turns ended.1.reconMap gs).bind fun reconMap =>
          .done { ended.1 with reconMap := reconMap }

def ErasesValue (platform : Platform) (m : OrderedMap K V) (v : V) : Prop :=
  ∃ turns left, eraseValue platform turns m v = .done left ∧
    left.entries = m.entries.filter fun entry => entry.2 ≠ v

/-- Only sessions and reconnect entries change. -/
def RemovesUsers (platform : Platform) (g : Gate) (gs : GameId) : Prop :=
  ∃ turns reconMap, removeUsers platform turns g gs =
      .done { g with sessions := g.closeBound gs, reconMap := reconMap } ∧
    reconMap.entries = g.reconMap.entries.filter fun entry => entry.2 ≠ gs

/-- No entry is erased. -/
def Without (m : OrderedMap K V) (v : V) : Prop := ∀ entry ∈ m.entries, entry.2 ≠ v

def Unbound (g : Gate) (gs : GameId) : Prop :=
  (∀ entry ∈ g.onlines.entries, (g.sessions entry.2).gsId ≠ gs) ∧ Without g.reconMap gs

section Values

variable {platform : Platform} {turns : Nat} {m : OrderedMap K V} {v : V}

theorem eraseValue_done (enough : m.entries.length ≤ turns)
    (fine : platform = .win32 ∨ Without m v) :
    eraseValue platform turns m v = .done (ObjMap.eraseValue m v) := by
  have way : platform.afterErase = .takeReturned ∨
      ∀ entry ∈ m.entries, decide (entry.2 = v) = false := by
    rcases fine with rfl | without
    · exact .inl rfl
    · exact .inr fun entry member => by simpa using without entry member
  rw [eraseValue, eraseLoop_whole (fun _ _ _ => rfl) enough way]
  simp [whole, ObjMap.eraseValue]

theorem without_of_done {left : OrderedMap K V} (done : eraseValue .other turns m v = .done left) :
    Without m v := by
  rw [eraseValue, Outcome.bind_eq_done] at done
  obtain ⟨ended, loop, _⟩ := done
  intro entry member
  simpa using misses_of_done loop entry member

theorem erasesValue_iff : ErasesValue platform m v ↔ platform = .win32 ∨ Without m v := by
  constructor
  · intro ⟨turns, left, done, _⟩
    cases platform with
    | win32 => exact .inl rfl
    | other => exact .inr (without_of_done done)
  · intro fine
    exact ⟨m.entries.length, ObjMap.eraseValue m v, eraseValue_done (Nat.le_refl _) fine, rfl⟩

theorem agree_eraseValue : Agree (fun platform turns => eraseValue platform turns m v) ↔
    Without m v := by
  constructor
  · intro ⟨left, done⟩
    obtain ⟨turns, done⟩ := done .other
    exact without_of_done done
  · intro without
    exact ⟨ObjMap.eraseValue m v, fun platform =>
      ⟨m.entries.length, eraseValue_done (Nat.le_refl _) (.inr without)⟩⟩

end Values

section Users

variable {platform : Platform} {turns : Nat} {g : Gate} {gs : GameId}

theorem setState_gsId {p q : SessionPtr} :
    ((g.setState p .waitClose).sessions q).gsId = (g.sessions q).gsId := by
  simp only [Gate.setState, Gate.setSession, Function.update_apply]
  split
  · rename_i same
    rw [same]
  · rfl

theorem foldl_setState (users : List SessionPtr) :
    (users.filter fun p => (g.sessions p).gsId = gs).foldl (fun g p => g.setState p .waitClose) g =
      users.foldl (Gate.closeIfBound gs) g := by
  induction users generalizing g with
  | nil => rfl
  | cons p rest ih =>
    by_cases bound : (g.sessions p).gsId = gs
    · have later := ih (g := g.setState p .waitClose)
      simp only [setState_gsId] at later
      simp only [List.filter_cons, bound, decide_true, if_true, List.foldl_cons, later,
        Gate.closeIfBound]
    · simp only [List.filter_cons, bound, decide_false, Bool.false_eq_true, if_false,
        List.foldl_cons, ih, Gate.closeIfBound]

theorem removeUsers_done (online : g.onlines.entries.length ≤ turns)
    (recon : g.reconMap.entries.length ≤ turns) (fine : platform = .win32 ∨ Unbound g gs) :
    removeUsers platform turns g gs = .done (g.removeUsers gs) := by
  have way : platform.afterErase = .takeReturned ∨
      ∀ entry ∈ g.onlines.entries, decide ((g.sessions entry.2).gsId = gs) = false := by
    rcases fine with rfl | unbound
    · exact .inl rfl
    · exact .inr fun entry member => by simpa using unbound.1 entry member
  have stays : ∀ (g : Gate) (p q : SessionPtr),
      decide (((g.setState p .waitClose).sessions q).gsId = gs) =
        decide ((g.sessions q).gsId = gs) := by
    intro g p q
    rw [setState_gsId]
  rw [removeUsers, eraseLoop_whole stays online way, Outcome.done_bind, whole, foldl_setState,
    Gate.foldl_closeIfBound, eraseValue_done recon (fine.imp_right And.right), Outcome.done_bind,
    Gate.removeUsers_eq]
  rfl

theorem unbound_of_done {left : Gate} (done : removeUsers .other turns g gs = .done left) :
    Unbound g gs := by
  rw [removeUsers, Outcome.bind_eq_done] at done
  obtain ⟨ended, loop, rest⟩ := done
  have misses := misses_of_done loop
  have online : ∀ entry ∈ g.onlines.entries, (g.sessions entry.2).gsId ≠ gs := by
    intro entry member
    simpa using misses entry member
  obtain ⟨reconMap, erased, _⟩ := Outcome.bind_eq_done.mp rest
  have same : ended.1.reconMap = g.reconMap :=
    eraseLoop_keeps Gate.reconMap (fun g p => (rfl : (g.setState p .waitClose).reconMap = _)) loop
  exact ⟨online, same ▸ without_of_done erased⟩

theorem removesUsers_iff : RemovesUsers platform g gs ↔ platform = .win32 ∨ Unbound g gs := by
  constructor
  · intro ⟨turns, reconMap, done, _⟩
    cases platform with
    | win32 => exact .inl rfl
    | other => exact .inr (unbound_of_done done)
  · intro fine
    refine ⟨max g.onlines.entries.length g.reconMap.entries.length,
      ObjMap.eraseValue g.reconMap gs, ?_, rfl⟩
    rw [removeUsers_done (Nat.le_max_left _ _) (Nat.le_max_right _ _) fine, Gate.removeUsers_eq]

theorem agree_removeUsers : Agree (fun platform turns => removeUsers platform turns g gs) ↔
    Unbound g gs := by
  constructor
  · intro ⟨left, done⟩
    obtain ⟨turns, done⟩ := done .other
    exact unbound_of_done done
  · intro unbound
    exact ⟨g.removeUsers gs, fun platform =>
      ⟨max g.onlines.entries.length g.reconMap.entries.length,
        removeUsers_done (Nat.le_max_left _ _) (Nat.le_max_right _ _) (.inr unbound)⟩⟩

end Users

/-- Under WIN32 both loops are right. In the other branch an erased iterator is advanced as
soon as there is something to erase. -/
theorem erases_iff (m : OrderedMap K V) (v : V) (g : Gate) (gs : GameId) :
    (∀ platform, ErasesValue platform m v ↔ platform = .win32 ∨ Without m v) ∧
      (Agree (fun platform turns => eraseValue platform turns m v) ↔ Without m v) ∧
      (∀ platform, RemovesUsers platform g gs ↔ platform = .win32 ∨ Unbound g gs) ∧
      (Agree (fun platform turns => removeUsers platform turns g gs) ↔ Unbound g gs) :=
  ⟨fun _ => erasesValue_iff, agree_eraseValue, fun _ => removesUsers_iff, agree_removeUsers⟩

/-- One user waits to come back to game server 1. -/
def oneWaits : OrderedMap TranId GameId := ⟨[(7, 1)], List.pairwise_singleton _ _⟩

theorem erased_iterator_advanced :
    eraseValue .other 1 oneWaits 1 = .fault ∧ ¬ ErasesValue .other oneWaits 1 ∧
      removeUsers .other 1 { GateServer.start 100 with reconMap := oneWaits } 1 = .fault ∧
      ¬ RemovesUsers .other { GateServer.start 100 with reconMap := oneWaits } 1 := by
  have held : ¬ Without oneWaits 1 := fun without => without (7, 1) List.mem_cons_self rfl
  refine ⟨rfl, ?_, rfl, ?_⟩
  · rw [erasesValue_iff]
    exact fun right => right.elim Platform.noConfusion held
  · rw [removesUsers_iff]
    exact fun right => right.elim Platform.noConfusion fun unbound => held unbound.2

end ErasedIterators
