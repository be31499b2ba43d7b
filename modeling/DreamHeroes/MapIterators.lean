import DreamHeroes.LoopOutcomes
import DreamHeroes.OrderedMaps

/- Iterators of a std::map: the node of a key, or end(). Erasing a node makes the iterators to
   it invalid and no others; dereferencing or advancing an invalid one is undefined. -/
namespace MapIterators

open LoopOutcomes OrderedMaps

variable {K V S : Type} [LinearOrder K]

/-- No key stands for end(). -/
abbrev Iterator (K : Type) := Option K

namespace OrderedMap

def begin (m : OrderedMap K V) : Iterator K := m.entries.head?.map (·.1)

/-- The node behind the one of k, which erase returns too. -/
def next (m : OrderedMap K V) (k : K) : Iterator K :=
  (m.entries.find? fun entry => k < entry.1).map (·.1)

end OrderedMap

/-- How a loop goes on after an erase. -/
inductive AfterErase where
  | takeReturned
  | advanceErased
  deriving DecidableEq, Repr

/-- `++it` on the node of k. -/
def advance (m : OrderedMap K V) (k : K) : Outcome (Iterator K) :=
  match m.find? k with
  | none => .fault
  | some _ => .done (OrderedMap.next m k)

/-- The iterator after the node of k is erased. -/
def onward (after : AfterErase) (m : OrderedMap K V) (k : K) : Outcome (Iterator K) :=
  match after with
  | .takeReturned => .done (OrderedMap.next m k)
  | .advanceErased => advance (m.erase k) k

/- A loop from it to end() that acts on the values that hit and erases their nodes. -/
def eraseLoop (after : AfterErase) (hit : S → V → Bool) (act : S → V → S) :
    Nat → S → OrderedMap K V → Iterator K → Outcome (S × OrderedMap K V)
  | _, s, m, none => .done (s, m)
  | 0, _, _, some _ => .running
  | turns + 1, s, m, some k =>
      match m.find? k with
      | none => .fault
      | some value =>
          if hit s value then
            (onward after m k).bind (eraseLoop after hit act turns (act s value) (m.erase k))
          else (advance m k).bind (eraseLoop after hit act turns s m)

variable {m : OrderedMap K V} {k : K} {value : V} {before rest : List (K × V)}

section Position

/-- The keys in front of a node are lower and those behind it are higher. -/
theorem around (here : m.entries = before ++ (k, value) :: rest) :
    (∀ entry ∈ before, entry.1 < k) ∧ ∀ entry ∈ rest, k < entry.1 := by
  have sorted := m.sorted
  rw [here, List.pairwise_append] at sorted
  obtain ⟨_, tail, across⟩ := sorted
  constructor
  · intro entry member
    exact across entry member (k, value) List.mem_cons_self
  · intro entry member
    exact (List.pairwise_cons.mp tail).1 entry member

theorem find_here (here : m.entries = before ++ (k, value) :: rest) :
    m.find? k = some value := by
  rw [OrderedMap.find?_eq_some, here]
  simp

theorem next_here (here : m.entries = before ++ (k, value) :: rest) :
    OrderedMap.next m k = rest.head?.map (·.1) := by
  obtain ⟨lower, higher⟩ := around here
  have skipped : before.find? (fun entry => decide (k < entry.1)) = none := by
    rw [List.find?_eq_none]
    intro entry member
    simpa using (lower entry member).le
  rw [OrderedMap.next, here, List.find?_append, skipped, Option.none_or]
  cases rest with
  | nil => simp
  | cons first later => simp [higher first List.mem_cons_self]

theorem erase_here (here : m.entries = before ++ (k, value) :: rest) :
    (m.erase k).entries = before ++ rest := by
  obtain ⟨lower, higher⟩ := around here
  have front : before.filter (fun entry => decide (entry.1 ≠ k)) = before := by
    rw [List.filter_eq_self]
    intro entry member
    simpa using (lower entry member).ne
  have back : rest.filter (fun entry => decide (entry.1 ≠ k)) = rest := by
    rw [List.filter_eq_self]
    intro entry member
    simpa using (higher entry member).ne'
  simp only [OrderedMap.erase, OrderedMap.filter, here, List.filter_append, List.filter_cons,
    front, back, ne_eq, not_true_eq_false, decide_false, Bool.false_eq_true, if_false]

theorem advance_here (here : m.entries = before ++ (k, value) :: rest) :
    advance m k = .done (rest.head?.map (·.1)) := by
  rw [advance, find_here here, next_here here]

theorem advance_erased : advance (m.erase k) k = .fault := by
  simp [advance]

end Position

section Turns

variable {after : AfterErase} {hit : S → V → Bool} {act : S → V → S} {s : S} {turns : Nat}
  {result : S × OrderedMap K V}

@[simp] theorem eraseLoop_end : eraseLoop after hit act turns s m none = .done (s, m) := by
  cases turns <;> rfl

theorem eraseLoop_miss (here : m.entries = before ++ (k, value) :: rest)
    (miss : hit s value = false) :
    eraseLoop after hit act (turns + 1) s m (some k) =
      eraseLoop after hit act turns s m (rest.head?.map (·.1)) := by
  simp [eraseLoop, find_here here, advance_here here, miss]

theorem eraseLoop_taken (here : m.entries = before ++ (k, value) :: rest)
    (found : hit s value = true) :
    eraseLoop .takeReturned hit act (turns + 1) s m (some k) =
      eraseLoop .takeReturned hit act turns (act s value) (m.erase k)
        (rest.head?.map (·.1)) := by
  simp [eraseLoop, find_here here, onward, next_here here, found]

theorem eraseLoop_fault (here : m.entries = before ++ (k, value) :: rest)
    (found : hit s value = true) :
    eraseLoop .advanceErased hit act (turns + 1) s m (some k) = .fault := by
  simp [eraseLoop, find_here here, onward, advance_erased, found, Outcome.bind]

/-- What no act changes, the loop leaves as it was. -/
theorem eraseLoop_keeps {α : Type} (view : S → α) {it : Iterator K}
    (same : ∀ s value, view (act s value) = view s)
    (done : eraseLoop after hit act turns s m it = .done result) : view result.1 = view s := by
  induction turns generalizing s m it with
  | zero =>
    cases it with
    | none =>
      cases done
      rfl
    | some k => cases done
  | succ turns ih =>
    cases it with
    | none =>
      cases done
      rfl
    | some k =>
      rw [eraseLoop] at done
      cases found : m.find? k with
      | none => simp [found] at done
      | some value =>
        simp only [found] at done
        split at done
        · obtain ⟨it, _, later⟩ := Outcome.bind_eq_done.mp done
          exact (ih later).trans (same s value)
        · obtain ⟨it, _, later⟩ := Outcome.bind_eq_done.mp done
          exact ih later

end Turns

section Runs

variable {after : AfterErase} {hit : S → V → Bool} {act : S → V → S} {s : S} {turns : Nat}

theorem eraseLoop_misses (split : m.entries = before ++ rest) (enough : rest.length ≤ turns)
    (misses : ∀ entry ∈ rest, hit s entry.2 = false) :
    eraseLoop after hit act turns s m (rest.head?.map (·.1)) = .done (s, m) := by
  induction rest generalizing before turns with
  | nil => simp
  | cons first later ih =>
    obtain ⟨k, value⟩ := first
    cases turns with
    | zero => cases enough
    | succ turns =>
      have onto : m.entries = (before ++ [(k, value)]) ++ later := by simp [split]
      rw [List.head?_cons, Option.map_some,
        eraseLoop_miss split (misses (k, value) List.mem_cons_self)]
      exact ih onto (Nat.le_of_succ_le_succ enough) fun entry member =>
        misses entry (List.mem_cons_of_mem _ member)

/-- Whatever the number of turns, the loop that advances erased nodes does not get past one. -/
theorem eraseLoop_not_done (split : m.entries = before ++ rest)
    (hits : ∃ entry ∈ rest, hit s entry.2 = true) (result : S × OrderedMap K V) :
    eraseLoop .advanceErased hit act turns s m (rest.head?.map (·.1)) ≠ .done result := by
  induction rest generalizing before turns with
  | nil =>
    obtain ⟨entry, member, _⟩ := hits
    cases member
  | cons first later ih =>
    obtain ⟨k, value⟩ := first
    rw [List.head?_cons, Option.map_some]
    cases turns with
    | zero => simp [eraseLoop]
    | succ turns =>
      by_cases found : hit s value = true
      · rw [eraseLoop_fault split found]
        simp
      · have miss : hit s value = false := by simpa using found
        have onto : m.entries = (before ++ [(k, value)]) ++ later := by simp [split]
        rw [eraseLoop_miss split miss]
        refine ih onto ?_
        obtain ⟨entry, member, hits⟩ := hits
        rcases List.mem_cons.mp member with rfl | later
        · exact absurd hits found
        · exact ⟨entry, later, hits⟩

theorem misses_of_done {result : S × OrderedMap K V}
    (done : eraseLoop .advanceErased hit act turns s m (OrderedMap.begin m) = .done result) :
    ∀ entry ∈ m.entries, hit s entry.2 = false := by
  have start : m.entries = [] ++ m.entries := rfl
  intro entry member
  by_contra found
  exact eraseLoop_not_done start ⟨entry, member, by simpa using found⟩ result done

/- An act does not change what hits. -/
variable (stays : ∀ s value other, hit (act s value) other = hit s other)

include stays

theorem eraseLoop_taken_done (split : m.entries = before ++ rest)
    (enough : rest.length ≤ turns) :
    ∃ left : OrderedMap K V,
      left.entries = before ++ rest.filter (fun entry => !hit s entry.2) ∧
      eraseLoop .takeReturned hit act turns s m (rest.head?.map (·.1)) =
        .done (((rest.map (·.2)).filter (hit s)).foldl act s, left) := by
  induction rest generalizing before turns s m with
  | nil => exact ⟨m, by simpa using split, by simp⟩
  | cons first later ih =>
    obtain ⟨k, value⟩ := first
    cases turns with
    | zero => cases enough
    | succ turns =>
      have fewer : later.length ≤ turns := Nat.le_of_succ_le_succ enough
      rw [List.head?_cons, Option.map_some]
      by_cases found : hit s value = true
      · obtain ⟨left, entries, done⟩ := ih (s := act s value) (erase_here split) fewer
        have same : hit (act s value) = hit s := funext (stays s value)
        rw [same] at entries done
        refine ⟨left, ?_, ?_⟩
        · simpa [found] using entries
        · rw [eraseLoop_taken split found, done]
          simp [found]
      · have miss : hit s value = false := by simpa using found
        have onto : m.entries = (before ++ [(k, value)]) ++ later := by simp [split]
        obtain ⟨left, entries, done⟩ := ih (s := s) onto fewer
        refine ⟨left, ?_, ?_⟩
        · simpa [miss] using entries
        · rw [eraseLoop_miss split miss, done]
          simp [miss]

/-- What a loop that uses no erased iterator comes to. -/
abbrev whole (hit : S → V → Bool) (act : S → V → S) (s : S) (m : OrderedMap K V) :
    S × OrderedMap K V :=
  (((m.entries.map (·.2)).filter (hit s)).foldl act s, m.filter fun _ value => !hit s value)

theorem eraseLoop_whole (enough : m.entries.length ≤ turns)
    (fine : after = .takeReturned ∨ ∀ entry ∈ m.entries, hit s entry.2 = false) :
    eraseLoop after hit act turns s m (OrderedMap.begin m) = .done (whole hit act s m) := by
  have start : m.entries = [] ++ m.entries := rfl
  rcases fine with rfl | misses
  · obtain ⟨left, entries, done⟩ :=
      @eraseLoop_taken_done _ _ _ _ _ _ _ hit act s turns stays start enough
    have same : left = m.filter fun _ value => !hit s value := by
      cases left
      simp only [List.nil_append] at entries
      simp only [OrderedMap.filter, entries]
    rw [OrderedMap.begin, done, same]
  · have kept : (m.filter fun _ value => !hit s value) = m := by
      have all : m.entries.filter (fun entry => !hit s entry.2) = m.entries := by
        rw [List.filter_eq_self]
        intro entry member
        simp [misses entry member]
      simp only [OrderedMap.filter, all]
    have none : (m.entries.map (·.2)).filter (hit s) = [] := by
      rw [List.filter_eq_nil_iff]
      intro value member
      obtain ⟨entry, among, rfl⟩ := List.mem_map.mp member
      simp [misses entry among]
    rw [OrderedMap.begin, eraseLoop_misses start enough misses, whole, none, kept]
    rfl

end Runs

end MapIterators
