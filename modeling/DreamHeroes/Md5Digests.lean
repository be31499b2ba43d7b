import DreamHeroes.BlockFolds
import DreamHeroes.ByteWords
import Mathlib.Algebra.Group.Nat.Defs

/- The md5 class of md5.cpp: a text is fed in pieces, and a digest can be taken between them. -/
namespace Md5Digests

open ByteWords BlockFolds

/- ABCD, or the four registers in the order the next step names them. -/
abbrev Words := UInt32 × UInt32 × UInt32 × UInt32

def rotateLeft (x n : UInt32) : UInt32 := (x <<< n) ||| (x >>> (32 - n))

def f (x y z : UInt32) : UInt32 := (x &&& y) ||| (~~~x &&& z)
def g (x y z : UInt32) : UInt32 := (x &&& z) ||| (y &&& ~~~z)
def h (x y z : UInt32) : UInt32 := x ^^^ y ^^^ z
def i (x y z : UInt32) : UInt32 := y ^^^ (x ||| ~~~z)

/- FF, GG, HH and II, which differ in their function. The next step calls d what this one calls
   c, and a what this one calls d. -/
def step (function : UInt32 → UInt32 → UInt32 → UInt32) (x : Nat → UInt32) (words : Words)
    (line : Nat × UInt32 × UInt32) : Words :=
  let (a, b, c, d) := words
  let (k, s, ac) := line
  (d, rotateLeft (a + (function b c d + x k + ac)) s + b, b, c)

/- The word of the block, the rotation and the constant of each step. -/

def round1 : List (Nat × UInt32 × UInt32) := [
  (0, 7, 0xd76aa478), (1, 12, 0xe8c7b756), (2, 17, 0x242070db), (3, 22, 0xc1bdceee),
  (4, 7, 0xf57c0faf), (5, 12, 0x4787c62a), (6, 17, 0xa8304613), (7, 22, 0xfd469501),
  (8, 7, 0x698098d8), (9, 12, 0x8b44f7af), (10, 17, 0xffff5bb1), (11, 22, 0x895cd7be),
  (12, 7, 0x6b901122), (13, 12, 0xfd987193), (14, 17, 0xa679438e), (15, 22, 0x49b40821)]

def round2 : List (Nat × UInt32 × UInt32) := [
  (1, 5, 0xf61e2562), (6, 9, 0xc040b340), (11, 14, 0x265e5a51), (0, 20, 0xe9b6c7aa),
  (5, 5, 0xd62f105d), (10, 9, 0x2441453), (15, 14, 0xd8a1e681), (4, 20, 0xe7d3fbc8),
  (9, 5, 0x21e1cde6), (14, 9, 0xc33707d6), (3, 14, 0xf4d50d87), (8, 20, 0x455a14ed),
  (13, 5, 0xa9e3e905), (2, 9, 0xfcefa3f8), (7, 14, 0x676f02d9), (12, 20, 0x8d2a4c8a)]

def round3 : List (Nat × UInt32 × UInt32) := [
  (5, 4, 0xfffa3942), (8, 11, 0x8771f681), (11, 16, 0x6d9d6122), (14, 23, 0xfde5380c),
  (1, 4, 0xa4beea44), (4, 11, 0x4bdecfa9), (7, 16, 0xf6bb4b60), (10, 23, 0xbebfbc70),
  (13, 4, 0x289b7ec6), (0, 11, 0xeaa127fa), (3, 16, 0xd4ef3085), (6, 23, 0x4881d05),
  (9, 4, 0xd9d4d039), (12, 11, 0xe6db99e5), (15, 16, 0x1fa27cf8), (2, 23, 0xc4ac5665)]

def round4 : List (Nat × UInt32 × UInt32) := [
  (0, 6, 0xf4292244), (7, 10, 0x432aff97), (14, 15, 0xab9423a7), (5, 21, 0xfc93a039),
  (12, 6, 0x655b59c3), (3, 10, 0x8f0ccc92), (10, 15, 0xffeff47d), (1, 21, 0x85845dd1),
  (8, 6, 0x6fa87e4f), (15, 10, 0xfe2ce6e0), (6, 15, 0xa3014314), (13, 21, 0x4e0811a1),
  (4, 6, 0xf7537e82), (11, 10, 0xbd3af235), (2, 15, 0x2ad7d2bb), (9, 21, 0xeb86d391)]

/-- One word of a decoded block. -/
def decode (block : Bytes) (k : Nat) : UInt32 := UInt32.ofNat (word32 (block.drop (4 * k)))

def transform (state : Words) (block : Bytes) : Words :=
  let x := decode block
  let words := round1.foldl (step f x) state
  let words := round2.foldl (step g x) words
  let words := round3.foldl (step h x) words
  let words := round4.foldl (step i x) words
  (state.1 + words.1, state.2.1 + words.2.1, state.2.2.1 + words.2.2.1,
    state.2.2.2 + words.2.2.2)

def encode (words : Words) : Bytes :=
  littleEndian 4 words.1.toNat ++ littleEndian 4 words.2.1.toNat ++
    littleEndian 4 words.2.2.1.toNat ++ littleEndian 4 words.2.2.2.toNat

def initial : Words := (0x67452301, 0xefcdab89, 0x98badcfe, 0x10325476)

def bufferSize : Nat := 64

/- count is the number of bits, the low word first. -/
structure Md5 where
  state : Words
  count : UInt32 × UInt32
  buffer : Block bufferSize
  digest : Bytes
  finished : Bool

/-- How many bytes final puts in front of the number of bits. -/
def padLen (index : Nat) : Nat := if index < 56 then 56 - index else 120 - index

def padding : Bytes := 0x80 :: List.replicate 63 0

inductive Fault where
  | readOutside
  | copyOverrun
  | endless
  deriving DecidableEq, Repr

/- The loop over the blocks of the input that lie behind position i, which is an unsigned int. -/
def transformBlocks (input : Bytes) : Nat → Nat → Words → Except Fault (Words × Nat)
  | 0, _, _ => .error .endless
  | fuel + 1, i, state =>
      if (i + 63) % 2 ^ 32 < input.length then
        if input.length < i + 64 then .error .readOutside
        else transformBlocks input fuel ((i + 64) % 2 ^ 32)
          (transform state ((input.drop i).take 64))
      else .ok (state, i)

namespace Md5

def reset (m : Md5) : Md5 := { m with finished := false, count := (0, 0), state := initial }

/-- The number of bytes that wait in the buffer. -/
def index (m : Md5) : Nat := ((m.count.1 >>> 3) &&& 0x3f).toNat

/- The lengths are cut to 32 bits. -/
def countUp (count : UInt32 × UInt32) (length : Nat) : UInt32 × UInt32 :=
  let low := count.1 + (UInt32.ofNat length <<< 3)
  let high := if low < UInt32.ofNat length <<< 3 then count.2 + 1 else count.2
  (low, high + (UInt32.ofNat length >>> 29))

/-- The copy of the input that is left, at the end of update. -/
def keepRest (m : Md5) (index : Nat) (rest : Bytes) : Except Fault Md5 :=
  if fits : index + rest.length ≤ bufferSize then
    .ok { m with buffer := m.buffer.memcpy index rest fits }
  else .error .copyOverrun

def update (m : Md5) (input : Bytes) : Except Fault Md5 :=
  let index := m.index
  let partLen := 64 - index
  let m := { m with finished := false, count := countUp m.count input.length }
  if partLen ≤ input.length then
    if fits : index + (input.take partLen).length ≤ bufferSize then
      let buffer := m.buffer.memcpy index (input.take partLen) fits
      match transformBlocks input (input.length + 1) partLen (transform m.state buffer.bytes) with
      | .error fault => .error fault
      | .ok (state, i) => { m with buffer := buffer, state := state }.keepRest 0 (input.drop i)
    else .error .copyOverrun
  else m.keepRest index input

/- The state and the count are restored, the buffer is not. -/
def final (m : Md5) : Except Fault Md5 :=
  let bits := littleEndian 4 m.count.1.toNat ++ littleEndian 4 m.count.2.toNat
  match m.update (padding.take (padLen m.index)) with
  | .error fault => .error fault
  | .ok padded =>
      match padded.update bits with
      | .error fault => .error fault
      | .ok done => .ok { done with
          digest := encode done.state
          state := m.state
          count := m.count }

/-- digest, which returns the member digest. -/
def takeDigest (m : Md5) : Except Fault Md5 :=
  if m.finished then .ok m else { m with finished := true }.final

end Md5

inductive Call where
  | reset
  | update (input : Bytes)
  | digest
  deriving DecidableEq, Repr

/-- The digests that the calls return. -/
def returned : Md5 → List Call → Except Fault (List Bytes)
  | _, [] => .ok []
  | m, .reset :: rest => returned m.reset rest
  | m, .update input :: rest =>
      match m.update input with
      | .error fault => .error fault
      | .ok next => returned next rest
  | m, .digest :: rest =>
      match m.takeDigest with
      | .error fault => .error fault
      | .ok next =>
          match returned next rest with
          | .error fault => .error fault
          | .ok digests => .ok (next.digest :: digests)

/-- The object that the constructors reset; its memory may hold anything. -/
def constructed (memory : Md5) : Md5 := memory.reset

/- What a digest is of: the text, a one bit, zeros up to eight bytes before the end of a block
   and the number of bits, taken block by block. -/

def bits (length : Nat) : Bytes := littleEndian 8 (8 * length)

def pad (text : Bytes) : Bytes :=
  text ++ padding.take (padLen (text.length % 64)) ++ bits text.length

def digested (text : Bytes) : Words × Bytes := absorb bufferSize transform (initial, []) text

def md5 (text : Bytes) : Bytes := encode (digested (pad text)).1

/-- What is left of the text behind a digest: 56 bytes or more that wait for their block are
overwritten by the padding and the number of bits. -/
def kept (text : Bytes) : Bytes :=
  if text.length % 64 < 56 then text
  else text.take (text.length - text.length % 64) ++
    (List.replicate 56 0 ++ (bits text.length).take (text.length % 64 - 56))

/-- The digests of what was fed since the last reset, as far as it is kept. -/
def expected : Bytes → List Call → List Bytes
  | _, [] => []
  | _, .reset :: rest => expected [] rest
  | text, .update input :: rest => expected (text ++ input) rest
  | text, .digest :: rest => md5 text :: expected (kept text) rest

variable {m : Md5} {text input : Bytes}

/-- The object has been fed the text since it was reset. -/
structure Holds (m : Md5) (text : Bytes) : Prop where
  chained : digested text = (m.state, m.buffer.used (text.length % 64))
  counted : m.count.1.toNat + 2 ^ 32 * m.count.2.toNat = 8 * text.length % 2 ^ 64
  unfinished : m.finished = false

/-- The positions in a text that is not longer fit an unsigned int. -/
def Fits (input : Bytes) : Prop := input.length + 63 < 2 ^ 32

theorem digested_rest (text : Bytes) : (digested text).2.length = text.length % 64 := by
  have rest := @absorb_rest _ _ bufferSize transform (initial, []) text (by decide)
  rw [List.length_nil, Nat.zero_add] at rest
  exact rest

theorem digested_append (text input : Bytes) :
    digested (text ++ input) = absorb bufferSize transform (digested text) input := absorb_append

theorem toNat_shiftRight_three (x : UInt32) : (x >>> 3).toNat = x.toNat / 8 := by
  rw [UInt32.toNat_shiftRight]
  exact Nat.shiftRight_eq_div_pow x.toNat 3

theorem toNat_shiftRight_high (x : UInt32) : (x >>> 29).toNat = x.toNat / 2 ^ 29 := by
  rw [UInt32.toNat_shiftRight]
  exact Nat.shiftRight_eq_div_pow x.toNat 29

theorem toNat_shiftLeft_three (x : UInt32) : (x <<< 3).toNat = x.toNat * 8 % 2 ^ 32 := by
  rw [UInt32.toNat_shiftLeft]
  exact congrArg (· % 2 ^ 32) (Nat.shiftLeft_eq x.toNat 3)

theorem index_holds (holds : Holds m text) : m.index = text.length % 64 := by
  have counted := holds.counted
  have masked : m.index = m.count.1.toNat / 8 % 64 := by
    rw [Md5.index, UInt32.toNat_and, toNat_shiftRight_three]
    exact Nat.and_two_pow_sub_one_eq_mod _ 6
  omega

/-- The carry into the high word is noticed. -/
theorem counted_up (holds : Holds m text) (fits : Fits input) :
    (Md5.countUp m.count input.length).1.toNat +
        2 ^ 32 * (Md5.countUp m.count input.length).2.toNat =
      8 * (text ++ input).length % 2 ^ 64 := by
  have counted := holds.counted
  have low := m.count.1.toNat_lt
  have high := m.count.2.toNat_lt
  have length : (UInt32.ofNat input.length).toNat = input.length := by
    rw [Fits] at fits
    rw [UInt32.toNat_ofNat']
    omega
  rw [Fits] at fits
  have shifted := toNat_shiftLeft_three (UInt32.ofNat input.length)
  have top := toNat_shiftRight_high (UInt32.ofNat input.length)
  rw [length] at shifted top
  rw [List.length_append]
  unfold Md5.countUp
  by_cases carry : m.count.1 + (UInt32.ofNat input.length <<< 3) < UInt32.ofNat input.length <<< 3
  · simp only [if_pos carry, UInt32.toNat_add, top]
    rw [UInt32.lt_iff_toNat_lt, UInt32.toNat_add] at carry
    rw [shifted] at carry ⊢
    have one : UInt32.toNat 1 = 1 := rfl
    rw [one]
    omega
  · simp only [if_neg carry, UInt32.toNat_add, top]
    rw [UInt32.lt_iff_toNat_lt, UInt32.toNat_add] at carry
    rw [shifted] at carry ⊢
    omega

/-- The loop takes the blocks that are whole and leaves the rest. -/
theorem transformBlocks_absorb (fits : Fits input) {fuel i : Nat} {state : Words}
    (inside : i ≤ input.length) (enough : input.length < i + fuel) :
    ∃ j final, transformBlocks input fuel i state = .ok (final, j) ∧ j ≤ input.length ∧
      input.length < j + 64 ∧
      absorb bufferSize transform (state, []) (input.drop i) = (final, input.drop j) := by
  induction fuel generalizing i state with
  | zero => omega
  | succ fuel ih =>
    rw [Fits] at fits
    have near : (i + 63) % 2 ^ 32 = i + 63 := Nat.mod_eq_of_lt (by omega)
    rw [transformBlocks, near]
    by_cases more : i + 63 < input.length
    · have next : (i + 64) % 2 ^ 32 = i + 64 := Nat.mod_eq_of_lt (by omega)
      obtain ⟨j, final, result, within, last, rest⟩ :=
        @ih (i + 64) (transform state ((input.drop i).take 64)) (by omega) (by omega)
      rw [if_pos more, if_neg (by omega), next]
      refine ⟨j, final, result, within, last, ?_⟩
      have size : ((input.drop i).take 64).length = 64 := by
        rw [List.length_take, List.length_drop]
        omega
      have split : input.drop i = (input.drop i).take 64 ++ input.drop (i + 64) := by
        rw [← List.drop_drop, List.take_append_drop]
      have block : absorb bufferSize transform (state, []) ((input.drop i).take 64) =
          (transform state ((input.drop i).take 64), []) := by
        apply absorb_block
        · rw [List.length_nil, size, bufferSize]
        · exact Nat.succ_pos 63
      rw [split, absorb_append, block, rest]
    · rw [if_neg more]
      refine ⟨i, state, rfl, inside, by omega, ?_⟩
      apply absorb_part
      rw [List.length_nil, List.length_drop, bufferSize]
      omega

/-- A copy to the end of a block. -/
theorem bytes_filled {size start : Nat} (block : Block size) {src : Bytes}
    (fits : start + src.length ≤ size) (fills : start + src.length = size) :
    (block.memcpy start src fits).bytes = block.used start ++ src := by
  rw [← Block.used_memcpy fits fills, Block.used, List.take_of_length_le]
  exact Nat.le_of_eq (Block.full _)

/-- A copy to the beginning of a block. -/
theorem used_front {size : Nat} (block : Block size) {src : Bytes}
    (fits : 0 + src.length ≤ size) : (block.memcpy 0 src fits).used (0 + src.length) = src := by
  rw [Block.used_memcpy fits rfl, Block.used, List.take_zero, List.nil_append]

/-- The bytes that wait in the buffer. -/
theorem used_waits (m : Md5) (text : Bytes) :
    (m.buffer.used (text.length % 64)).length = text.length % 64 := by
  apply Block.used_length
  rw [bufferSize]
  omega

theorem digested_fed (holds : Holds m text) (input : Bytes) : digested (text ++ input) =
    absorb bufferSize transform (m.state, m.buffer.used (text.length % 64)) input := by
  rw [digested_append, holds.chained]

/-- An input that does not fill the buffer waits in it. -/
theorem update_part (holds : Holds m text) (fits : Fits input)
    (part : input.length < 64 - text.length % 64) :
    ∃ m', m.update input = .ok m' ∧ Holds m' (text ++ input) := by
  have counted := counted_up holds fits
  have rest := digested_rest (text ++ input)
  have waits := used_waits m text
  have room : text.length % 64 + input.length ≤ bufferSize := by
    rw [bufferSize]
    omega
  have fed : digested (text ++ input) =
      (m.state, m.buffer.used (text.length % 64) ++ input) := by
    rw [digested_fed holds]
    apply absorb_part
    rw [waits, bufferSize]
    omega
  have length : text.length % 64 + input.length = (text ++ input).length % 64 := by
    rw [← rest, fed, List.length_append, waits]
  rw [Md5.update, index_holds holds, if_neg (Nat.not_le_of_lt part), Md5.keepRest, dif_pos room]
  refine ⟨_, rfl, ?_, counted, rfl⟩
  rw [fed, ← length]
  simp only [Block.used_memcpy room rfl]

/-- An input that fills the buffer is taken block by block. -/
theorem update_blocks (holds : Holds m text) (fits : Fits input)
    (full : 64 - text.length % 64 ≤ input.length) :
    ∃ m', m.update input = .ok m' ∧ Holds m' (text ++ input) := by
  have counted := counted_up holds fits
  have rest := digested_rest (text ++ input)
  have waits := used_waits m text
  have taken : (input.take (64 - text.length % 64)).length = 64 - text.length % 64 := by
    rw [List.length_take]
    omega
  have room : text.length % 64 + (input.take (64 - text.length % 64)).length ≤ bufferSize := by
    rw [taken, bufferSize]
    omega
  obtain ⟨j, final, result, within, last, blocks⟩ := @transformBlocks_absorb input fits
    (input.length + 1) (64 - text.length % 64) (transform m.state
      (m.buffer.memcpy (text.length % 64) (input.take (64 - text.length % 64)) room).bytes)
    full (by omega)
  have small : 0 + (input.drop j).length ≤ bufferSize := by
    rw [List.length_drop, bufferSize]
    omega
  have first : absorb bufferSize transform (m.state, m.buffer.used (text.length % 64))
        (input.take (64 - text.length % 64)) =
      (transform m.state (m.buffer.memcpy (text.length % 64)
        (input.take (64 - text.length % 64)) room).bytes, []) := by
    rw [bytes_filled _ room (by rw [taken, bufferSize]; omega)]
    apply absorb_block
    · rw [waits, taken, bufferSize]
      omega
    · rw [waits, bufferSize]
      omega
  have fed : digested (text ++ input) = (final, input.drop j) := by
    rw [digested_fed holds, ← List.take_append_drop (64 - text.length % 64) input, absorb_append,
      List.take_append_drop, first, blocks]
  have length : 0 + (input.drop j).length = (text ++ input).length % 64 := by
    rw [← rest, fed, Nat.zero_add]
  rw [Md5.update, index_holds holds, if_pos full, dif_pos room]
  simp only [result, Md5.keepRest, dif_pos small]
  refine ⟨_, rfl, ?_, counted, rfl⟩
  rw [fed, ← length]
  exact congrArg (Prod.mk final) (used_front _ small).symm

/-- What is fed to an object is fed to the text it holds. -/
theorem update_holds (holds : Holds m text) (fits : Fits input) :
    ∃ m', m.update input = .ok m' ∧ Holds m' (text ++ input) := by
  rcases Nat.lt_or_ge input.length (64 - text.length % 64) with part | full
  · exact update_part holds fits part
  · exact update_blocks holds fits full

/- A digest: the padding, the number of bits, and what the buffer holds behind them. -/

theorem littleEndian_append (a b v : Nat) :
    littleEndian (a + b) v = littleEndian a v ++ littleEndian b (v / 256 ^ a) := by
  induction a generalizing v with
  | zero => simp [littleEndian]
  | succ a ih =>
    rw [Nat.succ_add, littleEndian, littleEndian, ih, List.cons_append, Nat.div_div_eq_div_mul,
      ← Nat.pow_succ']

theorem littleEndian_mod (n v : Nat) : littleEndian n (v % 256 ^ n) = littleEndian n v := by
  induction n generalizing v with
  | zero => rfl
  | succ n ih =>
    have low : UInt8.ofNat (v % 256 ^ (n + 1)) = UInt8.ofNat v := by
      apply UInt8.toNat_inj.mp
      rw [UInt8.toNat_ofNat', UInt8.toNat_ofNat', Nat.pow_succ]
      exact Nat.mod_mul_left_mod v (256 ^ n) 256
    have high : v % 256 ^ (n + 1) / 256 = v / 256 % 256 ^ n := by
      rw [Nat.pow_succ', Nat.mod_mul_right_div_self]
    rw [littleEndian, littleEndian, low, high, ih]

theorem bits_holds (holds : Holds m text) :
    littleEndian 4 m.count.1.toNat ++ littleEndian 4 m.count.2.toNat = bits text.length := by
  have counted := holds.counted
  have low : m.count.1.toNat = 8 * text.length % 256 ^ 4 := by
    have first := m.count.1.toNat_lt
    omega
  have high : m.count.2.toNat = 8 * text.length / 256 ^ 4 % 256 ^ 4 := by
    have first := m.count.1.toNat_lt
    have second := m.count.2.toNat_lt
    omega
  rw [bits, littleEndian_append 4 4, low, high, littleEndian_mod, littleEndian_mod]

/-- An update that fills the buffer to its end. -/
theorem update_fills (holds : Holds m text) (fits : Fits input)
    (fills : text.length % 64 + input.length = 64) :
    ∃ m', m.update input = .ok m' ∧ Holds m' (text ++ input) ∧
      m'.buffer.bytes = m.buffer.used (text.length % 64) ++ input := by
  obtain ⟨m', updated, fed⟩ := update_holds holds fits
  refine ⟨m', updated, fed, ?_⟩
  have index := index_holds holds
  have whole : input.take (64 - text.length % 64) = input := List.take_of_length_le (by omega)
  have room : text.length % 64 + (input.take (64 - text.length % 64)).length ≤ bufferSize := by
    rw [whole, bufferSize]
    omega
  have ended : ∀ state, transformBlocks input (input.length + 1) (64 - text.length % 64) state =
      .ok (state, 64 - text.length % 64) := by
    intro state
    rw [Fits] at fits
    rw [transformBlocks, Nat.mod_eq_of_lt (by omega), if_neg (by omega)]
  have none : input.drop (64 - text.length % 64) = [] := List.drop_eq_nil_of_le (by omega)
  have small : 0 + ([] : Bytes).length ≤ bufferSize := Nat.zero_le _
  rw [Md5.update, index, if_pos (by omega), dif_pos room] at updated
  simp only [ended, none, Md5.keepRest, dif_pos small, Except.ok.injEq] at updated
  rw [← updated]
  change ((m.buffer.memcpy _ _ room).bytes.take 0 ++ [] ++ (m.buffer.memcpy _ _ room).bytes.drop 0) = _
  rw [List.take_zero, List.nil_append, List.nil_append, List.drop_zero,
    bytes_filled _ room (by rw [whole, bufferSize]; exact fills), whole]

theorem padding_length {n : Nat} (small : n ≤ 64) : (padding.take n).length = n := by
  rw [List.length_take, padding, List.length_cons, List.length_replicate]
  omega

/-- The last 56 bytes of a padding that is longer are zero. -/
theorem padding_zeros {n : Nat} (long : 57 ≤ n) (small : n ≤ 64) :
    (padding.take n).drop (n - 56) = List.replicate 56 0 := by
  obtain ⟨k, same⟩ : ∃ k, n = k + 57 := ⟨n - 57, by omega⟩
  subst same
  have first : k + 57 - 56 = k + 1 := by omega
  rw [first, padding, List.take_succ_cons, List.drop_succ_cons, List.take_replicate,
    List.drop_replicate]
  congr 1
  omega

theorem digested_waits (text : Bytes) :
    (digested text).2 = text.drop (text.length - text.length % 64) :=
  absorb_waits (Nat.succ_pos 63)

/-- The bytes that wait behind the padding are the last 56. -/
theorem padded_waits (text : Bytes) :
    (text ++ padding.take (padLen (text.length % 64))).length % 64 = 56 ∧
      (digested (text ++ padding.take (padLen (text.length % 64)))).2 =
        if text.length % 64 < 56 then
          (digested text).2 ++ padding.take (56 - text.length % 64)
        else List.replicate 56 0 := by
  have small := Nat.mod_lt text.length (Nat.succ_pos 63)
  have size : (padding.take (padLen (text.length % 64))).length = padLen (text.length % 64) := by
    apply padding_length
    rw [padLen]
    split <;> omega
  have aligned : (text ++ padding.take (padLen (text.length % 64))).length % 64 = 56 := by
    rw [List.length_append, size, padLen]
    split <;> omega
  refine ⟨aligned, ?_⟩
  rw [digested_waits, digested_waits, aligned, List.length_append, size]
  by_cases near : text.length % 64 < 56
  · have start : text.length + padLen (text.length % 64) - 56 =
        text.length - text.length % 64 := by
      rw [padLen, if_pos near]
      omega
    rw [start, if_pos near, padLen, if_pos near, List.drop_append_of_le_length (Nat.sub_le _ _)]
  · have start : text.length + padLen (text.length % 64) - 56 =
        text.length + (padLen (text.length % 64) - 56) := by
      rw [padLen, if_neg near]
      omega
    rw [start, if_neg near, List.drop_append, List.drop_eq_nil_of_le (Nat.le_add_right _ _),
      Nat.add_sub_cancel_left, List.nil_append, padLen, if_neg near]
    exact padding_zeros (by omega) (by omega)

theorem kept_length (text : Bytes) : (kept text).length = text.length := by
  have small := Nat.mod_lt text.length (Nat.succ_pos 63)
  have inside := Nat.mod_le text.length 64
  rw [kept]
  split
  · rfl
  · rw [List.length_append, List.length_append, List.length_take, List.length_take,
      List.length_replicate, bits, littleEndian_length]
    omega

/-- The bytes in the buffer behind a digest are those that wait behind the kept text. -/
theorem digested_kept (text : Bytes) :
    digested (kept text) = ((digested text).1,
      ((digested (text ++ padding.take (padLen (text.length % 64)))).2 ++
        bits text.length).take (text.length % 64)) := by
  have rest := digested_rest text
  have small := Nat.mod_lt text.length (Nat.succ_pos 63)
  rw [(padded_waits text).2]
  by_cases near : text.length % 64 < 56
  · rw [kept, if_pos near, if_pos near, List.append_assoc,
      List.take_append_of_le_length (Nat.le_of_eq rest.symm),
      List.take_of_length_le (Nat.le_of_eq rest)]
  · have zeros : (List.replicate 56 (0 : UInt8) ++ bits text.length).take (text.length % 64) =
        List.replicate 56 0 ++ (bits text.length).take (text.length % 64 - 56) := by
      rw [List.take_append, List.length_replicate, List.take_of_length_le]
      rw [List.length_replicate]
      omega
    rw [kept, if_neg near, if_neg near, zeros]
    apply absorb_tail
    rw [List.length_append, List.length_take, List.length_replicate, bits, littleEndian_length,
      bufferSize]
    omega

/-- The digest is that of the text, and the object goes on with what is kept of it. -/
theorem digest_holds (holds : Holds m text) :
    ∃ m', m.takeDigest = .ok m' ∧ m'.digest = md5 text ∧ Holds m' (kept text) := by
  have index := index_holds holds
  have small := Nat.mod_lt text.length (Nat.succ_pos 63)
  have aligned := (padded_waits text).1
  have padFits : Fits (padding.take (padLen (text.length % 64))) := by
    rw [Fits, List.length_take, padding, List.length_cons, List.length_replicate]
    omega
  have bitsFit : Fits (bits text.length) := by
    rw [Fits, bits, littleEndian_length]
    decide
  obtain ⟨padded, first, holdsPadded⟩ := update_holds holds padFits
  obtain ⟨done, second, holdsDone, filled⟩ := update_fills holdsPadded bitsFit (by
    rw [aligned, bits, littleEndian_length])
  have result : m.takeDigest = .ok { done with
      digest := encode done.state
      state := m.state
      count := m.count } := by
    have begun : m.takeDigest = m.final := by
      rw [Md5.takeDigest, holds.unfinished]
      rfl
    rw [begun, Md5.final, index, first]
    simp only [bits_holds holds, second]
  have fed : digested (pad text) = (done.state, _) := holdsDone.chained
  have chained := congrArg Prod.fst holds.chained
  have waits := congrArg Prod.snd holdsPadded.chained
  refine ⟨_, result, ?_, ?_, ?_, holdsDone.unfinished⟩
  · rw [md5, fed]
  · rw [digested_kept, kept_length, chained, waits, ← filled]
    rfl
  · rw [kept_length]
    exact holds.counted

theorem constructed_holds (memory : Md5) : Holds (constructed memory) [] where
  chained := rfl
  counted := rfl
  unfinished := rfl

/-- Every call keeps the text that the object holds in step with the one that is expected. -/
theorem returned_expected {calls : List Call} (holds : Holds m text)
    (fit : ∀ input, .update input ∈ calls → Fits input) :
    returned m calls = .ok (expected text calls) := by
  induction calls generalizing m text with
  | nil => rfl
  | cons call rest ih =>
    have later : ∀ input, .update input ∈ rest → Fits input := by
      intro input member
      exact fit input (List.mem_cons_of_mem call member)
    cases call with
    | reset => exact ih (constructed_holds m) later
    | update input =>
      obtain ⟨next, updated, fed⟩ := update_holds holds (fit input List.mem_cons_self)
      rw [returned, updated]
      exact ih fed later
    | digest =>
      obtain ⟨next, taken, value, fed⟩ := digest_holds holds
      rw [returned, taken]
      simp only [ih fed later, value, expected]

/-- Whatever the memory held before, a digest is the one of what was fed since the last reset,
as far as the digests since then have kept it. -/
theorem digests_expected (memory : Md5) (calls : List Call)
    (fit : ∀ input, .update input ∈ calls → Fits input) :
    returned (constructed memory) calls = .ok (expected [] calls) :=
  returned_expected (constructed_holds memory) fit

/- Memory that was zero, and a digest between two updates. -/
theorem abc_digested :
    returned (constructed ⟨initial, (0, 0), Block.zeroed bufferSize, [], true⟩)
        [.update [97], .digest, .update [98, 99], .digest] =
      .ok (expected [] [.update [97], .digest, .update [98, 99], .digest]) := by
  apply digests_expected
  intro input member
  simp only [List.mem_cons, Call.update.injEq, List.not_mem_nil, reduceCtorEq, false_or,
    or_false] at member
  obtain same | same := member
  · rw [same, Fits]
    decide
  · rw [same, Fits]
    decide

example : md5 [97, 98, 99] = [0x90, 0x01, 0x50, 0x98, 0x3c, 0xd2, 0x4f, 0xb0, 0xd6, 0x96, 0x3f,
    0x7d, 0x28, 0xe1, 0x7f, 0x72] := by decide +kernel

/- A digest with 56 bytes in the buffer changes the next one. -/
example : expected [] [.update (List.replicate 56 97), .digest, .update [98], .digest] ≠
    [md5 (List.replicate 56 97), md5 (List.replicate 56 97 ++ [98])] := by decide +kernel

end Md5Digests
