import Mathlib.Data.List.Basic

/- Cutting a list at the occurrences of another, from the left and without overlaps. -/
namespace CutLists

variable {α : Type} {d s : List α} {n m : Nat}

structure First (d s : List α) (n : Nat) : Prop where
  here : d <+: s.drop n
  leftmost : ∀ m < n, ¬ d <+: s.drop m

def Absent (d s : List α) : Prop := ∀ n, ¬ d <+: s.drop n

/-- What is left of a list when its leftmost occurrences of d are cut out. -/
inductive Cuts (d : List α) : List α → List (List α) → Prop
  | whole {s : List α} (absent : Absent d s) : Cuts d s [s]
  | first {s : List α} {n : Nat} {pieces : List (List α)} (first : First d s n)
      (rest : Cuts d (s.drop (n + d.length)) pieces) : Cuts d s (s.take n :: pieces)

theorem first_unique (a : First d s n) (b : First d s m) : n = m := by
  rcases Nat.lt_trichotomy n m with less | same | more
  · exact absurd a.here (b.leftmost n less)
  · exact same
  · exact absurd b.here (a.leftmost m more)

theorem cuts_unique {pieces other : List (List α)} (one : Cuts d s pieces)
    (two : Cuts d s other) : pieces = other := by
  induction one generalizing other with
  | whole absent =>
    cases two with
    | whole _ => rfl
    | first first _ => exact absurd first.here (absent _)
  | first first _ ih =>
    cases two with
    | whole absent => exact absurd first.here (absent _)
    | first first' rest =>
      cases first_unique first first'
      rw [ih rest]

/-- An occurrence ends within the list. -/
theorem first_inside (nonempty : d ≠ []) (first : First d s n) : n + d.length ≤ s.length := by
  have size := first.here.length_le
  have some := List.length_pos_of_ne_nil nonempty
  rw [List.length_drop] at size
  omega

theorem absent_nil (nonempty : d ≠ []) : Absent d [] := by
  intro n here
  simp [nonempty] at here

theorem first_cons {a : α} (here : ¬ d <+: a :: s) (later : First d s n) :
    First d (a :: s) (n + 1) := by
  refine ⟨by simpa using later.here, ?_⟩
  intro m before
  cases m with
  | zero => exact here
  | succ m => simpa using later.leftmost m (Nat.lt_of_succ_lt_succ before)

theorem absent_cons {a : α} (here : ¬ d <+: a :: s) (later : Absent d s) :
    Absent d (a :: s) := by
  intro n
  cases n with
  | zero => exact here
  | succ n => simpa using later n

end CutLists
