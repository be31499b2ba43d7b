import Mathlib.Data.List.TakeWhile
import DreamHeroes.ByteWords

/- Decimal integers as bytes, as printf writes them and as strtol reads them. -/
namespace DecimalText

open ByteWords

def digit (d : Nat) : UInt8 := UInt8.ofNat (48 + d)

def isDigit (b : UInt8) : Bool := 48 ≤ b && b ≤ 57

/- The characters isspace accepts in the C locale. -/
def isSpace (b : UInt8) : Bool := b = 32 || (9 ≤ b && b ≤ 13)

def decimal (n : Nat) : Bytes := (Nat.toDigits 10 n).map fun c => UInt8.ofNat c.toNat

def decimalInt (v : Int) : Bytes :=
  if v < 0 then 45 :: decimal v.natAbs else decimal v.natAbs

def digitsValue (bytes : Bytes) : Nat :=
  bytes.foldl (fun value b => 10 * value + (b.toNat - 48)) 0

def leadingNat (bytes : Bytes) : Option Nat :=
  if bytes.takeWhile isDigit = [] then none else some (digitsValue (bytes.takeWhile isDigit))

/-- Blanks, an optional sign, then the longest run of digits; none when there is no digit. -/
def leadingInt (bytes : Bytes) : Option Int :=
  match bytes.dropWhile isSpace with
  | [] => none
  | b :: rest =>
      if b = 45 then (leadingNat rest).map fun n => -(n : Int)
      else if b = 43 then (leadingNat rest).map fun n => (n : Int)
      else (leadingNat (b :: rest)).map fun n => (n : Int)

theorem digit_toNat {d : Nat} (small : d < 10) : (digit d).toNat = 48 + d := by
  simp only [digit, UInt8.toNat_ofNat']
  omega

theorem isDigit_digit {d : Nat} (small : d < 10) : isDigit (digit d) = true := by
  have value := digit_toNat small
  simp only [isDigit, Bool.and_eq_true, decide_eq_true_eq, UInt8.le_iff_toNat_le, value]
  simp
  omega

theorem digitChar_byte {d : Nat} (small : d < 10) :
    UInt8.ofNat (Nat.digitChar d).toNat = digit d := by
  revert small
  revert d
  decide

theorem decimal_eq (n : Nat) :
    decimal n = if n < 10 then [digit n] else decimal (n / 10) ++ [digit (n % 10)] := by
  rw [decimal, Nat.toDigits_eq_if (by decide)]
  split
  · rename_i small
    simp [digitChar_byte small]
  · simp [decimal, digitChar_byte (Nat.mod_lt n (by decide))]

theorem decimal_ne_nil (n : Nat) : decimal n ≠ [] := by
  rw [decimal_eq]
  split <;> simp

theorem decimal_isDigit (n : Nat) : ∀ b ∈ decimal n, isDigit b = true := by
  induction n using Nat.strong_induction_on with
  | _ n ih =>
    intro b member
    rw [decimal_eq] at member
    split at member
    · rename_i small
      rw [List.mem_singleton.mp member]
      exact isDigit_digit small
    · rcases List.mem_append.mp member with front | last
      · exact ih (n / 10) (by omega) b front
      · rw [List.mem_singleton.mp last]
        exact isDigit_digit (Nat.mod_lt n (by decide))

theorem digitsValue_decimal (n : Nat) : digitsValue (decimal n) = n := by
  induction n using Nat.strong_induction_on with
  | _ n ih =>
    rw [decimal_eq]
    split
    · rename_i small
      simp [digitsValue, digit_toNat small]
    · have front := ih (n / 10) (by omega)
      rw [digitsValue] at front
      rw [digitsValue, List.foldl_append, front]
      simp only [List.foldl_cons, List.foldl_nil, digit_toNat (Nat.mod_lt n (by decide))]
      omega

theorem leadingNat_decimal (n : Nat) : leadingNat (decimal n) = some n := by
  have whole : (decimal n).takeWhile isDigit = decimal n := by
    rw [List.takeWhile_eq_self_iff]
    exact decimal_isDigit n
  rw [leadingNat, whole, if_neg (decimal_ne_nil n), digitsValue_decimal]

theorem digit_not_sign {b : UInt8} (digits : isDigit b = true) :
    isSpace b = false ∧ b ≠ 45 ∧ b ≠ 43 := by
  simp only [isDigit, Bool.and_eq_true, decide_eq_true_eq, UInt8.le_iff_toNat_le] at digits
  refine ⟨?_, ?_, ?_⟩
  · simp [isSpace, UInt8.le_iff_toNat_le, ← UInt8.toNat_inj]
    simp at digits
    omega
  · rintro rfl
    simp at digits
  · rintro rfl
    simp at digits

theorem leadingInt_decimalInt (v : Int) : leadingInt (decimalInt v) = some v := by
  by_cases negative : v < 0
  · have sign : (decimalInt v).dropWhile isSpace = 45 :: decimal v.natAbs := by
      rw [decimalInt, if_pos negative]
      rfl
    have restored : -(v.natAbs : Int) = v := by omega
    simp only [leadingInt, sign, leadingNat_decimal]
    exact congrArg some restored
  · obtain ⟨b, rest, split⟩ := List.exists_cons_of_ne_nil (decimal_ne_nil v.natAbs)
    obtain ⟨noSpace, noMinus, noPlus⟩ :=
      digit_not_sign (decimal_isDigit v.natAbs b (split ▸ List.mem_cons_self))
    have body : (decimalInt v).dropWhile isSpace = b :: rest := by
      rw [decimalInt, if_neg negative, split, List.dropWhile_cons, if_neg (by simp [noSpace])]
    rw [leadingInt, body]
    simp [noMinus, noPlus, ← split, leadingNat_decimal]
    omega

theorem decimalInt_injective {v w : Int} (same : decimalInt v = decimalInt w) : v = w := by
  have read := leadingInt_decimalInt v
  rw [same, leadingInt_decimalInt] at read
  exact (Option.some.inj read).symm

theorem decimalInt_ne_nil (v : Int) : decimalInt v ≠ [] := by
  unfold decimalInt
  split
  · exact List.cons_ne_nil _ _
  · exact decimal_ne_nil _

end DecimalText
