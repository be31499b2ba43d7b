import Mathlib.Data.List.Basic

/- Functions that take a text block by block: what does not fill a block waits for more. -/
namespace BlockFolds

variable {State α : Type} {size : Nat} {f : State → List α → State} {s : State × List α}
  {text front back : List α}

/-- One more item, which may fill the block that waits. -/
def take (size : Nat) (f : State → List α → State) (s : State × List α) (a : α) :
    State × List α :=
  if s.2.length + 1 < size then (s.1, s.2 ++ [a]) else (f s.1 (s.2 ++ [a]), [])

def absorb (size : Nat) (f : State → List α → State) (s : State × List α) (text : List α) :
    State × List α :=
  text.foldl (take size f) s

theorem absorb_append : absorb size f s (front ++ back) = absorb size f (absorb size f s front) back :=
  List.foldl_append

/-- A text that does not fill the block waits with the rest. -/
theorem absorb_part (part : s.2.length + text.length < size) :
    absorb size f s text = (s.1, s.2 ++ text) := by
  induction text generalizing s with
  | nil => simp [absorb]
  | cons a text ih =>
    rw [List.length_cons] at part
    have first : take size f s a = (s.1, s.2 ++ [a]) := by
      rw [take, if_pos (by omega)]
    have later := @ih (s.1, s.2 ++ [a]) (by
      rw [List.length_append, List.length_singleton]
      omega)
    rw [absorb, List.foldl_cons, first]
    rw [absorb] at later
    rw [later, List.append_assoc, List.singleton_append]

/-- A text that fills the block completes it. -/
theorem absorb_block (whole : s.2.length + text.length = size) (some : s.2.length < size) :
    absorb size f s text = (f s.1 (s.2 ++ text), []) := by
  obtain ⟨front, last, split⟩ : ∃ front last, text = front ++ [last] := by
    rcases List.eq_nil_or_concat text with none | ⟨front, last, split⟩
    · rw [none, List.length_nil] at whole
      omega
    · exact ⟨front, last, by rw [split, List.concat_eq_append]⟩
  rw [split, List.length_append, List.length_singleton] at whole
  have waits : absorb size f s front = (s.1, s.2 ++ front) := absorb_part (by omega)
  have last : absorb size f (s.1, s.2 ++ front) [last] = (f s.1 (s.2 ++ front ++ [last]), []) := by
    rw [absorb, List.foldl_cons, List.foldl_nil, take, if_neg]
    rw [List.length_append]
    omega
  rw [split, absorb_append, waits, last, List.append_assoc]

theorem absorb_rest (waits : s.2.length < size) :
    (absorb size f s text).2.length = (s.2.length + text.length) % size := by
  induction text generalizing s with
  | nil => rw [absorb, List.foldl_nil, List.length_nil, Nat.add_zero, Nat.mod_eq_of_lt waits]
  | cons a text ih =>
    rw [absorb, List.foldl_cons, List.length_cons]
    by_cases room : s.2.length + 1 < size
    · have first : take size f s a = (s.1, s.2 ++ [a]) := if_pos room
      have later := @ih (s.1, s.2 ++ [a]) (by
        rw [List.length_append, List.length_singleton]
        exact room)
      rw [first]
      rw [absorb, List.length_append, List.length_singleton] at later
      rw [later]
      congr 1
      omega
    · have first : take size f s a = (f s.1 (s.2 ++ [a]), []) := if_neg room
      have later := @ih (f s.1 (s.2 ++ [a]), []) (by
        rw [List.length_nil]
        omega)
      rw [first]
      rw [absorb, List.length_nil, Nat.zero_add] at later
      have full : s.2.length + (text.length + 1) = text.length + size := by omega
      rw [later, full, Nat.add_mod_right]

/-- Nothing waits behind whole blocks. -/
theorem absorb_whole {state : State} (positive : 0 < size) (whole : text.length % size = 0) :
    (absorb size f (state, []) text).2 = [] := by
  have rest := @absorb_rest _ _ size f (state, []) text positive
  rw [List.length_nil, Nat.zero_add, whole] at rest
  exact List.eq_nil_of_length_eq_zero rest

/-- What waits is the end of the text, and what is behind the last whole block may be changed
without the blocks. -/
theorem absorb_tail {state : State} {tail : List α} (short : tail.length < size) :
    absorb size f (state, []) (text.take (text.length - text.length % size) ++ tail) =
      ((absorb size f (state, []) text).1, tail) := by
  have whole : (text.take (text.length - text.length % size)).length % size = 0 := by
    rw [List.length_take, Nat.min_eq_left (Nat.sub_le _ _)]
    exact Nat.sub_mod_eq_zero_of_mod_eq (Nat.mod_mod _ _).symm
  have positive : 0 < size := by omega
  have empty := @absorb_whole _ _ size f (text.take (text.length - text.length % size)) state
    positive whole
  have behind : ∀ tail : List α, tail.length < size →
      absorb size f (state, []) (text.take (text.length - text.length % size) ++ tail) =
        ((absorb size f (state, []) (text.take (text.length - text.length % size))).1, tail) := by
    intro tail short
    rw [absorb_append, absorb_part (by rw [empty]; simpa using short), empty, List.nil_append]
  have own := behind (text.drop (text.length - text.length % size)) (by
    rw [List.length_drop]
    have small := Nat.mod_lt text.length positive
    omega)
  rw [List.take_append_drop] at own
  rw [behind tail short, own]

theorem absorb_waits {state : State} (positive : 0 < size) :
    (absorb size f (state, []) text).2 = text.drop (text.length - text.length % size) := by
  have own := @absorb_tail _ _ size f text state (text.drop (text.length - text.length % size)) (by
    rw [List.length_drop]
    have small := Nat.mod_lt text.length positive
    omega)
  rw [List.take_append_drop] at own
  rw [own]

end BlockFolds
