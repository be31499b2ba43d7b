import Mathlib.Data.Nat.Bitwise
import Mathlib.Order.Defs.LinearOrder

/- Byte strings, little-endian 32-bit words and blocks of a fixed number of bytes.
   Positions and lengths are unbounded Nat; callers bound them where it matters. -/
namespace ByteWords

abbrev Bytes := List UInt8

/- Bytes compare without sign, as the characters of a std::string do. -/
instance linearOrderByte : LinearOrder UInt8 where
  le_refl := UInt8.le_refl
  le_trans := fun _ _ _ => UInt8.le_trans
  le_antisymm := fun _ _ => UInt8.le_antisymm
  le_total := UInt8.le_total
  lt_iff_le_not_ge := fun a b => by simp [UInt8.lt_iff_toNat_lt, UInt8.le_iff_toNat_le]; omega
  toDecidableLE := inferInstance
  toDecidableEq := inferInstance
  toDecidableLT := inferInstance
  min_def := fun _ _ => rfl
  max_def := fun _ _ => rfl

/-- The first four bytes as a little-endian word; missing bytes count as zero. -/
def word32 (bytes : Bytes) : Nat :=
  (bytes.take 4).foldr (fun b acc => b.toNat + 256 * acc) 0

theorem word32_take (bytes : Bytes) {n : Nat} (enough : 4 ≤ n) :
    word32 (bytes.take n) = word32 bytes := by
  simp only [word32, List.take_take, Nat.min_eq_left enough]

theorem word32_append {front : Bytes} (back : Bytes) (enough : 4 ≤ front.length) :
    word32 (front ++ back) = word32 front := by
  simp only [word32, List.take_append_of_le_length enough]

theorem masked_bit_fifteen (x : Nat) : x &&& 1 <<< 15 ≠ 0 ↔ 128 ≤ x / 256 % 256 := by
  rw [Nat.one_shiftLeft, Nat.and_two_pow, Nat.testBit_eq_decide_div_mod_eq]
  rcases Nat.mod_two_eq_zero_or_one (x / 2 ^ 15) with even | odd
  · simp; omega
  · simp; omega

/-- Bit 15 of the word at a position is the top bit of its second byte. -/
theorem word32_bit_fifteen {a b : UInt8} {rest : Bytes} :
    word32 (a :: b :: rest) % 2 ^ 16 &&& 1 <<< 15 ≠ 0 ↔ 128 ≤ b := by
  have first := a.toNat_lt
  have second := b.toNat_lt
  rw [masked_bit_fifteen, UInt8.le_iff_toNat_le]
  simp only [word32, List.take_succ_cons, List.foldr_cons, UInt8.reduceToNat]
  generalize (rest.take 2).foldr _ 0 = high
  omega

/-- The `n` low bytes of a number, the lowest first. -/
def littleEndian : Nat → Nat → Bytes
  | 0, _ => []
  | n + 1, v => UInt8.ofNat v :: littleEndian n (v / 256)

@[simp] theorem littleEndian_length (n v : Nat) : (littleEndian n v).length = n := by
  induction n generalizing v with
  | zero => rfl
  | succ n ih => simp [littleEndian, ih]

theorem littleEndian_value {n v : Nat} (fits : v < 256 ^ n) :
    (littleEndian n v).foldr (fun b acc => b.toNat + 256 * acc) 0 = v := by
  induction n generalizing v with
  | zero =>
    simp at fits
    simp [littleEndian, fits]
  | succ n ih =>
    have small : v / 256 < 256 ^ n := by
      apply Nat.div_lt_of_lt_mul
      rw [Nat.mul_comm]
      exact fits
    simp only [littleEndian, List.foldr_cons, ih small, UInt8.toNat_ofNat']
    omega

theorem word32_littleEndian {v : Nat} (fits : v < 2 ^ 32) (rest : Bytes) :
    word32 (littleEndian 4 v ++ rest) = v := by
  rw [word32, List.take_left' (littleEndian_length 4 v), littleEndian_value (by omega)]

/-- A block of a fixed number of bytes, such as a `char[n]` member. -/
structure Block (size : Nat) where
  bytes : Bytes
  full : bytes.length = size

namespace Block

variable {size : Nat}

def zeroed (size : Nat) : Block size := ⟨List.replicate size 0, List.length_replicate⟩

/-- What a pointer to offset `start` of the block sees. -/
def pointer (block : Block size) (start : Nat) : Bytes := block.bytes.drop start

/-- The first `n` bytes, the part of a receive buffer that is in use. -/
def used (block : Block size) (n : Nat) : Bytes := block.bytes.take n

theorem used_length (block : Block size) {n : Nat} (fits : n ≤ size) :
    (block.used n).length = n := by
  simp only [used, List.length_take, block.full]
  omega

theorem pointer_length (block : Block size) (start : Nat) :
    (block.pointer start).length = size - start := by
  simp only [pointer, List.length_drop, block.full]

/-- A read inside the part in use does not depend on what lies behind it. -/
theorem pointer_take {block : Block size} {start n pos : Nat} (inside : start + n ≤ pos) :
    (block.pointer start).take n = ((block.used pos).drop start).take n := by
  simp only [pointer, used, List.drop_take, List.take_take]
  congr 1
  omega

theorem word32_pointer (block : Block size) {start pos : Nat} (inside : start + 4 ≤ pos) :
    word32 (block.pointer start) = word32 ((block.used pos).drop start) := by
  rw [← word32_take (block.pointer start) (Nat.le_refl 4), pointer_take inside,
    word32_take _ (Nat.le_refl 4)]

def memcpy (block : Block size) (start : Nat) (src : Bytes)
    (fits : start + src.length ≤ size) : Block size where
  bytes := block.bytes.take start ++ src ++ block.bytes.drop (start + src.length)
  full := by
    have full := block.full
    simp only [List.length_append, List.length_take, List.length_drop]
    omega

theorem used_memcpy {block : Block size} {start stop : Nat} {src : Bytes}
    (fits : start + src.length ≤ size) (reach : start + src.length = stop) :
    (block.memcpy start src fits).used stop = block.used start ++ src := by
  have front : (block.bytes.take start ++ src).length = stop := by
    have full := block.full
    simp only [List.length_append, List.length_take]
    omega
  simp only [used, memcpy]
  rw [← front, List.take_left']
  rfl

/-- The bytes `start .. start + n` moved to the beginning of the block. -/
def memmove (block : Block size) (start n : Nat) (fits : start + n ≤ size) : Block size :=
  block.memcpy 0 ((block.pointer start).take n) (by
    rw [List.length_take, pointer_length]
    omega)

theorem used_memmove (block : Block size) {start n stop : Nat} (fits : start + n ≤ size)
    (reach : start + n = stop) :
    (block.memmove start n fits).used n = (block.used stop).drop start := by
  have moved : 0 + ((block.pointer start).take n).length = n := by
    rw [List.length_take, pointer_length]
    omega
  have short : ((block.used stop).drop start).length ≤ n := by
    rw [List.length_drop, used_length block (by omega)]
    omega
  rw [memmove, used_memcpy _ moved, pointer_take (Nat.le_of_eq reach), List.take_of_length_le short]
  simp only [used, List.take_zero, List.nil_append]

end Block

end ByteWords
