import Mathlib.Data.FinEnum
import Mathlib.Data.Fintype.BigOperators
import Mathlib.Data.Fintype.Vector

/- Hashes that take one byte at a time from a table: the low byte of the state and the byte
   read pick an entry, and the entry is added to the rest of the state. The word is `w` bits. -/
namespace TableHashes

variable {w : Nat}

abbrev Table (w : Nat) := BitVec 8 → BitVec w

def index (state : BitVec w) (b : BitVec 8) : BitVec 8 := state.setWidth 8 ^^^ b

def step (table : Table w) (state : BitVec w) (b : BitVec 8) : BitVec w :=
  table (index state b) ^^^ (state >>> 8)

def hash (table : Table w) (state : BitVec w) (bytes : List (BitVec 8)) : BitVec w :=
  bytes.foldl (step table) state

/-- The entries that the bytes pick, in order. -/
def indices (table : Table w) : BitVec w → List (BitVec 8) → List (BitVec 8)
  | _, [] => []
  | state, b :: bytes => index state b :: indices table (step table state b) bytes

/-- The top byte of an entry tells which entry it is. -/
def TopByte (table : Table w) : Prop :=
  Function.Injective fun i => table i >>> (w - 8)

variable {table : Table w} {s t : BitVec w} {a b : BitVec 8} {front back bytes others : List (BitVec 8)}

@[simp] theorem hash_nil : hash table s [] = s := rfl

@[simp] theorem hash_cons : hash table s (b :: bytes) = hash table (step table s b) bytes := rfl

theorem hash_append : hash table s (front ++ back) = hash table (hash table s front) back :=
  List.foldl_append

theorem indices_append : indices table s (front ++ back) =
    indices table s front ++ indices table (hash table s front) back := by
  induction front generalizing s with
  | nil => simp [indices]
  | cons b front ih => simp [indices, ih]

/-- The entry is all there is in the top byte of the new state. -/
theorem step_top (wide : 8 ≤ w) :
    step table s b >>> (w - 8) = table (index s b) >>> (w - 8) := by
  have gone : s >>> 8 >>> (w - 8) = 0#w := by
    rw [← BitVec.shiftRight_add]
    exact BitVec.ushiftRight_eq_zero (by omega)
  rw [step, BitVec.ushiftRight_xor_distrib, gone, BitVec.xor_zero]

theorem top_of_shift {n : Nat} (small : n ≤ w - 8) (same : s >>> n = t >>> n) :
    s >>> (w - 8) = t >>> (w - 8) := by
  have split : w - 8 = n + (w - 8 - n) := by omega
  rw [split, BitVec.shiftRight_add, BitVec.shiftRight_add, same]

/-- Equal high parts after a step mean that the same entry was picked, and that the states
    before it were equal one byte further up. -/
theorem step_high {n : Nat} (top : TopByte table) (wide : 8 ≤ w) (small : n ≤ w - 8)
    (same : step table s a >>> n = step table t b >>> n) :
    index s a = index t b ∧ s >>> (n + 8) = t >>> (n + 8) := by
  have entry : index s a = index t b := by
    apply top
    have high := top_of_shift small same
    rw [step_top wide, step_top wide] at high
    exact high
  refine ⟨entry, ?_⟩
  rw [step, step, entry, BitVec.ushiftRight_xor_distrib, BitVec.ushiftRight_xor_distrib,
    BitVec.xor_right_inj, ← BitVec.shiftRight_add, ← BitVec.shiftRight_add] at same
  rw [Nat.add_comm n 8]
  exact same

theorem last_byte {k : Nat} (length : bytes.length = k + 1) :
    ∃ front b, bytes = front ++ [b] ∧ front.length = k := by
  rcases List.eq_nil_or_concat' bytes with none | ⟨front, b, last⟩
  · simp [none] at length
  · exact ⟨front, b, last, by simpa [last] using length⟩

/-- The last `k` entries can be read off the top `k` bytes of the state. -/
theorem indices_of_high (top : TopByte table) (wide : 8 ≤ w) {k n : Nat}
    (length : bytes.length = k) (lengths : others.length = k) (fits : n + 8 * k ≤ w)
    (same : hash table s bytes >>> n = hash table t others >>> n) :
    indices table s bytes = indices table t others := by
  induction k generalizing bytes others n with
  | zero =>
    rw [List.eq_nil_of_length_eq_zero length, List.eq_nil_of_length_eq_zero lengths]
    rfl
  | succ k ih =>
    obtain ⟨bytes, a, rfl, short⟩ := last_byte length
    obtain ⟨others, b, rfl, shorter⟩ := last_byte lengths
    rw [hash_append, hash_append] at same
    obtain ⟨entry, before⟩ := step_high top wide (by omega) same
    have earlier := ih short shorter (by omega) before
    rw [indices_append, indices_append, earlier]
    simp [indices, entry]

/-- Every byte can be read off the entry it picks. -/
theorem bytes_of_indices (same : indices table s bytes = indices table s others) :
    bytes = others := by
  induction bytes generalizing s others with
  | nil => cases others <;> simp_all [indices]
  | cons a bytes ih =>
    cases others with
    | nil => simp [indices] at same
    | cons b others =>
      obtain ⟨first, rest⟩ := List.cons.inj same
      have equal : a = b := (BitVec.xor_right_inj _).mp first
      subst equal
      rw [ih rest]

/-- A byte read in two states leaves them different. -/
theorem step_injective (top : TopByte table) (wide : 8 ≤ w) (same : step table s b = step table t b) :
    s = t := by
  have shifted : step table s b >>> 0 = step table t b >>> 0 := by rw [same]
  obtain ⟨entry, high⟩ := step_high top wide (Nat.zero_le _) shifted
  have low : s.setWidth 8 = t.setWidth 8 := (BitVec.xor_left_inj _).mp entry
  apply BitVec.eq_of_getLsbD_eq
  intro i inside
  by_cases first : i < 8
  · have bit := congrArg (fun x : BitVec 8 => x.getLsbD i) low
    simpa [first] using bit
  · have bit := congrArg (fun x : BitVec w => x.getLsbD (i - 8)) high
    simp only [BitVec.getLsbD_ushiftRight] at bit
    rwa [show 0 + 8 + (i - 8) = i by omega] at bit

theorem hash_injective (top : TopByte table) (wide : 8 ≤ w)
    (same : hash table s bytes = hash table t bytes) : s = t := by
  induction bytes generalizing s t with
  | nil => exact same
  | cons b bytes ih => exact step_injective top wide (ih same)

/-- Texts that differ inside one window of at most a word have different hashes. -/
theorem window (top : TopByte table) (wide : 8 ≤ w) (length : bytes.length = others.length)
    (fits : 8 * bytes.length ≤ w)
    (same : hash table s (front ++ bytes ++ back) = hash table s (front ++ others ++ back)) :
    bytes = others := by
  rw [hash_append, hash_append, hash_append, hash_append] at same
  have inner := hash_injective top wide same
  have shifted : hash table (hash table s front) bytes >>> 0 =
      hash table (hash table s front) others >>> 0 := by rw [inner]
  exact bytes_of_indices (indices_of_high top wide rfl length.symm (by omega) shifted)

/-- One word of bytes inside a text leads to every state, each word to a state of its own. -/
theorem one_word {k : Nat} (top : TopByte table) (wide : 8 ≤ w) (word : w = 8 * k)
    (s : BitVec w) (front back : List (BitVec 8)) (target : BitVec w) :
    ∃ bytes, (bytes.length = k ∧ hash table s (front ++ bytes ++ back) = target) ∧
      ∀ others, others.length = k ∧ hash table s (front ++ others ++ back) = target →
        others = bytes := by
  have injective : Function.Injective
      fun bytes : List.Vector (BitVec 8) k => hash table s (front ++ bytes.toList ++ back) := by
    intro a b same
    apply Subtype.ext
    exact window top wide (a.2.trans b.2.symm) (by rw [a.2, word]) same
  have cards : Fintype.card (List.Vector (BitVec 8) k) = Fintype.card (BitVec w) := by
    rw [card_vector, ← FinEnum.card_eq_fintypeCard, ← FinEnum.card_eq_fintypeCard]
    simp [word, pow_mul]
  have onto := ((Fintype.bijective_iff_injective_and_card _).mpr ⟨injective, cards⟩).surjective
  obtain ⟨bytes, reached⟩ := onto target
  refine ⟨bytes.toList, ⟨bytes.2, reached⟩, ?_⟩
  intro others both
  obtain ⟨length, also⟩ := both
  exact window top wide (length.trans bytes.2.symm) (by rw [length, word]) (also.trans reached.symm)

end TableHashes
