import DreamHeroes.LoginServer
import DreamHeroes.TableHashes

/- What the checksum tells apart: texts that differ inside four bytes in a row, and so the
   transids that one login text gets at different times. -/
namespace ChecksumWindows

open ByteWords Checksum TableHashes DecimalText

/-- The table of crypt.cpp as words of 32 bits. -/
def crcWord : Table 32 := fun i => (crcTable.getD i.toNat 0).toBitVec

def bits (data : Bytes) : List (BitVec 8) := data.map UInt8.toBitVec

theorem bits_append (front back : Bytes) : bits (front ++ back) = bits front ++ bits back :=
  List.map_append

theorem bits_injective {a b : Bytes} (same : bits a = bits b) : a = b :=
  List.map_injective_iff.mpr (fun _ _ => UInt8.toBitVec_inj.mp) same

/-- The top byte of an entry. -/
def topByte (entry : UInt32) : UInt32 := entry >>> 24

theorem crcTable_top : (crcTable.map topByte).Nodup := by decide +kernel

theorem crcTable_length : crcTable.length = 256 := by decide +kernel

theorem crcWord_getElem (i : BitVec 8) (inside : i.toNat < (crcTable.map topByte).length) :
    crcWord i >>> 24 = ((crcTable.map topByte)[i.toNat]).toBitVec := by
  rw [List.length_map] at inside
  simp [crcWord, topByte, inside]

theorem crcWord_topByte : TopByte crcWord := by
  intro i j same
  have inside : ∀ k : BitVec 8, k.toNat < (crcTable.map topByte).length := by
    intro k
    rw [List.length_map, crcTable_length]
    exact k.isLt
  have entries : crcWord i >>> 24 = crcWord j >>> 24 := same
  rw [crcWord_getElem i (inside i), crcWord_getElem j (inside j), UInt32.toBitVec_inj] at entries
  exact BitVec.eq_of_toNat_eq (crcTable_top.getElem_inj_iff.mp entries)

/-- The index taken modulo 256 is the low byte of the state added to the byte. -/
theorem crcStep_toBitVec (crc : UInt32) (b : UInt8) :
    (crcStep crc b).toBitVec = step crcWord crc.toBitVec b.toBitVec := by
  have low : ((crc ^^^ b.toUInt32) &&& 0xff).toNat =
      (index crc.toBitVec b.toBitVec).toNat := by
    have masked := Nat.and_two_pow_sub_one_eq_mod (crc.toNat ^^^ b.toNat) 8
    have small := Nat.mod_eq_of_lt b.toNat_lt
    rw [Nat.xor_mod_two_pow, small] at masked
    simpa [index] using masked
  simp only [crcStep, low, step, crcWord]
  simp

theorem crc32_toBitVec (crc : UInt32) (data : Bytes) :
    (data.foldl crcStep crc).toBitVec = hash crcWord crc.toBitVec (bits data) := by
  induction data generalizing crc with
  | nil => rfl
  | cons b data ih =>
    rw [List.foldl_cons, ih, crcStep_toBitVec]
    rfl

theorem sslCrc32_toBitVec (data : Bytes) : (sslCrc32 data).toBitVec =
    hash crcWord (BitVec.allOnes 32) (bits data) ^^^ BitVec.allOnes 32 := by
  simp only [sslCrc32, crc32, UInt32.toBitVec_xor, crc32_toBitVec]
  rfl

theorem sslCrc32_eq_iff {a b : Bytes} : sslCrc32 a = sslCrc32 b ↔
    hash crcWord (BitVec.allOnes 32) (bits a) = hash crcWord (BitVec.allOnes 32) (bits b) := by
  rw [← UInt32.toBitVec_inj, sslCrc32_toBitVec, sslCrc32_toBitVec, BitVec.xor_left_inj]

/-- Texts that differ inside four bytes in a row have different checksums. -/
theorem four_bytes_told_apart {front a b back : Bytes} (length : a.length = b.length)
    (short : a.length ≤ 4) :
    sslCrc32 (front ++ a ++ back) = sslCrc32 (front ++ b ++ back) ↔ a = b := by
  constructor
  · intro same
    rw [sslCrc32_eq_iff] at same
    simp only [bits_append] at same
    apply bits_injective
    exact window crcWord_topByte (by decide) (by simpa [bits] using length)
      (by simp only [bits, List.length_map]; omega) same
  · intro equal
    rw [equal]

theorem one_letter_told_apart : sslCrc32 ([97, 98] ++ [99] ++ [100]) =
    sslCrc32 ([97, 98] ++ [101] ++ [100]) ↔ ([99] : Bytes) = [101] :=
  four_bytes_told_apart rfl (by decide)

/-- Whatever stands around them, exactly one choice of four bytes gives a chosen checksum. -/
theorem four_bytes_reach (front back : Bytes) (crc : UInt32) :
    ∃! middle : Bytes, middle.length = 4 ∧ sslCrc32 (front ++ middle ++ back) = crc := by
  obtain ⟨words, found, only⟩ := one_word crcWord_topByte (by decide) (k := 4) rfl
    (BitVec.allOnes 32) (bits front) (bits back) (crc.toBitVec ^^^ BitVec.allOnes 32)
  have hits : ∀ middle : Bytes, middle.length = 4 ∧ sslCrc32 (front ++ middle ++ back) = crc ↔
      (bits middle).length = 4 ∧ hash crcWord (BitVec.allOnes 32)
        (bits front ++ bits middle ++ bits back) = crc.toBitVec ^^^ BitVec.allOnes 32 := by
    intro middle
    rw [← UInt32.toBitVec_inj, sslCrc32_toBitVec, bits_append, bits_append, bits, bits, bits,
      List.length_map]
    constructor
    · intro both
      rw [← both.2, BitVec.xor_assoc, BitVec.xor_self, BitVec.xor_zero]
      exact ⟨both.1, rfl⟩
    · intro both
      rw [both.2, BitVec.xor_assoc, BitVec.xor_self, BitVec.xor_zero]
      exact ⟨both.1, rfl⟩
  have back_again : bits (words.map UInt8.ofBitVec) = words := by
    simp [bits, Function.comp_def]
  refine ⟨words.map UInt8.ofBitVec, ?_, ?_⟩
  · apply (hits _).mpr
    rw [back_again]
    exact found
  · intro other both
    apply bits_injective
    rw [back_again]
    exact only _ ((hits other).mp both)

/-- The last `k` decimal digits of a number, the zeros in front of them included. -/
def lastDigits : Nat → Nat → Bytes
  | 0, _ => []
  | k + 1, n => lastDigits k (n / 10) ++ [digit (n % 10)]

@[simp] theorem lastDigits_length (k n : Nat) : (lastDigits k n).length = k := by
  induction k generalizing n with
  | zero => rfl
  | succ k ih => simp [lastDigits, ih]

theorem decimal_split {k n : Nat} (large : 10 ^ k ≤ n) :
    decimal n = decimal (n / 10 ^ k) ++ lastDigits k n := by
  induction k generalizing n with
  | zero => simp [lastDigits]
  | succ k ih =>
    have rest : 10 ^ k ≤ n / 10 := by
      apply (Nat.le_div_iff_mul_le (by decide)).mpr
      rwa [← Nat.pow_succ]
    have more : ¬ n < 10 := by
      have one := Nat.one_le_pow k 10 (by decide)
      omega
    rw [decimal_eq, if_neg more, ih rest, lastDigits, Nat.div_div_eq_div_mul, Nat.pow_succ,
      Nat.mul_comm 10, List.append_assoc]

theorem decimal_injective {m n : Nat} (same : decimal m = decimal n) : m = n := by
  rw [← digitsValue_decimal m, same, digitsValue_decimal n]

end ChecksumWindows

namespace LoginServer.Login

open ByteWords Checksum DecimalText ChecksumWindows

variable {s s' : Login} {data data' : CheckAcct} {time time' : Nat}

/-- Inside one block of ten thousand seconds a login text gets a transid of its own each time. -/
theorem newTransId_told_apart (text : s.loginText data = s'.loginText data')
    (late : 10000 ≤ time) (block : time / 10000 = time' / 10000) :
    s.newTransId data time = s'.newTransId data' time' ↔ time = time' := by
  have first : 10 ^ 4 ≤ time := late
  have second : 10 ^ 4 ≤ time' := by omega
  have front : time / 10 ^ 4 = time' / 10 ^ 4 := block
  constructor
  · intro same
    simp only [newTransId, makeTransId, UInt32.toNat_inj] at same
    rw [text, decimal_split first, decimal_split second, front, ← List.append_assoc,
      ← List.append_assoc, ← List.append_nil (_ ++ lastDigits 4 time),
      ← List.append_nil (_ ++ lastDigits 4 time')] at same
    have digits := (four_bytes_told_apart (by simp) (by simp)).mp same
    apply decimal_injective
    rw [decimal_split first, decimal_split second, front, digits]
  · intro equal
    rw [newTransId, newTransId, text, equal]

/-- One client logs in twice, a second apart. -/
theorem newTransId_second_apart : start.newTransId ⟨[97], [98], 7, .loginCheck, 0⟩ 1600000000 =
    start.newTransId ⟨[97], [98], 7, .loginCheck, 1⟩ 1600000001 ↔ (1600000000 : Nat) = 1600000001 :=
  newTransId_told_apart rfl (by decide) (by decide)

/-- For every name and moment one password of four bytes, and only one, gives a chosen transid. -/
theorem newTransId_chosen (s : Login) (name : Bytes) (p : SessionPtr) (kind : CheckType)
    (asked : Connection) (time : Nat) (t : UInt32) : ∃! pwd : Bytes, pwd.length = 4 ∧
      s.newTransId ⟨name, pwd, p, kind, asked⟩ time = t.toNat := by
  have reach := four_bytes_reach name ((s.sessions p).address ++ decimal time) t
  simpa [newTransId, loginText, makeTransId, UInt32.toNat_inj, List.append_assoc] using reach

end LoginServer.Login
