import DreamHeroes.DecimalText
import DreamHeroes.SqlLiterals

/- A row of values in a SQL statement, as text and as what it is read as: numbers, and texts in
   literals. -/
namespace SqlRows

open ByteWords DecimalText SqlLiterals

def comma : UInt8 := 44
def blank : UInt8 := 32
def opening : UInt8 := 40
def closing : UInt8 := 41
def minus : UInt8 := 45

inductive Value where
  | number (value : Int)
  | text (bytes : Bytes)
  deriving DecidableEq, Repr

def valueText : Value → Bytes
  | .number value => decimalInt value
  | .text bytes => quote :: (bytes ++ [quote])

def rowText (values : List Value) : Bytes :=
  opening :: ([comma, blank].intercalate (values.map valueText) ++ [closing])

def numeral (b : UInt8) : Bool := isDigit b || b = minus

/-- The value a text begins with, and what follows it. -/
def readValue : Bytes → Option (Value × Bytes)
  | [] => none
  | b :: rest =>
      if b = quote then (literal rest).map fun read => (.text read.1, read.2)
      else (leadingInt ((b :: rest).takeWhile numeral)).map fun value =>
        (.number value, (b :: rest).dropWhile numeral)

/-- The values up to the closing bracket, which ends the text. -/
def readValues : Nat → Bytes → Option (List Value)
  | 0, _ => none
  | fuel + 1, sql =>
      match readValue sql with
      | some (value, b :: rest) =>
          if b = comma then (readValues fuel (rest.dropWhile (· = blank))).map (value :: ·)
          else if b = closing ∧ rest = [] then some [value]
          else none
      | _ => none

def readRow : Bytes → Option (List Value)
  | [] => none
  | b :: rest => if b = opening then readValues rest.length rest else none

/-- A literal gives the text back. -/
def Literal : Value → Prop
  | .number _ => True
  | .text bytes => clean bytes = true

variable {value : Value} {values : List Value} {later : Bytes} {fuel : Nat} {b : UInt8}

theorem numeral_decimalInt (v : Int) : ∀ b ∈ decimalInt v, numeral b = true := by
  have digits : ∀ b ∈ decimal v.natAbs, numeral b = true := by
    intro b member
    simp [numeral, decimal_isDigit _ b member]
  unfold decimalInt
  split
  · exact List.forall_mem_cons.mpr ⟨by decide, digits⟩
  · exact digits

/-- A number ends where a byte comes that no number has. -/
theorem readValue_number (v : Int) (ends : ∀ b, later.head? = some b → numeral b = false) :
    readValue (decimalInt v ++ later) = some (.number v, later) := by
  have token : (decimalInt v ++ later).takeWhile numeral = decimalInt v := by
    rw [List.takeWhile_append_of_pos (numeral_decimalInt v)]
    cases later with
    | nil => simp
    | cons b rest => simp [ends b rfl]
  have behind : (decimalInt v ++ later).dropWhile numeral = later := by
    rw [List.dropWhile_append_of_pos (numeral_decimalInt v)]
    cases later with
    | nil => rfl
    | cons b rest => simp [ends b rfl]
  obtain ⟨b, rest, parts⟩ := List.exists_cons_of_ne_nil (decimalInt_ne_nil v)
  have first : numeral b = true := numeral_decimalInt v b (parts ▸ List.mem_cons_self)
  have noQuote : b ≠ quote := by
    rintro rfl
    exact absurd first (by decide)
  rw [parts, List.cons_append] at token behind
  rw [parts, List.cons_append, readValue, if_neg noQuote, token, behind, ← parts,
    leadingInt_decimalInt]
  rfl

theorem readValue_valueText (whole : Literal value)
    (ends : later.head? = some comma ∨ later.head? = some closing) :
    readValue (valueText value ++ later) = some (value, later) := by
  cases value with
  | number v =>
    apply readValue_number
    intro b head
    rcases ends with same | same <;> rw [same] at head <;> cases head <;> decide
  | text bytes =>
    have separate : later.head? ≠ some quote := by
      rcases ends with same | same <;> rw [same] <;> decide
    simp [valueText, readValue, literal_clean whole separate]

theorem valueText_blank (value : Value) (later : Bytes) :
    (valueText value ++ later).dropWhile (· = blank) = valueText value ++ later := by
  cases value with
  | number v =>
    obtain ⟨b, rest, parts⟩ := List.exists_cons_of_ne_nil (decimalInt_ne_nil v)
    have first : numeral b = true := numeral_decimalInt v b (parts ▸ List.mem_cons_self)
    have noBlank : b ≠ blank := by
      rintro rfl
      exact absurd first (by decide)
    simp [valueText, parts, noBlank]
  | text bytes => simp [valueText, quote, blank]

theorem joined_blank (value : Value) (rest : List Value) (later : Bytes) :
    ([comma, blank].intercalate ((value :: rest).map valueText) ++ later).dropWhile (· = blank) =
      [comma, blank].intercalate ((value :: rest).map valueText) ++ later := by
  cases rest with
  | nil => simpa using valueText_blank value later
  | cons next rest =>
    rw [List.map_cons, List.map_cons, List.intercalate_cons_cons]
    simp only [List.append_assoc]
    exact valueText_blank value _

theorem readValues_joined (whole : ∀ value ∈ values, Literal value) (filled : values ≠ [])
    (enough : values.length ≤ fuel) :
    readValues fuel ([comma, blank].intercalate (values.map valueText) ++ [closing]) =
      some values := by
  induction values generalizing fuel with
  | nil => exact absurd rfl filled
  | cons value rest ih =>
    obtain ⟨first, others⟩ := List.forall_mem_cons.mp whole
    cases fuel with
    | zero => simp at enough
    | succ fuel =>
      cases rest with
      | nil =>
        have read : readValue (valueText value ++ [closing]) = some (value, [closing]) :=
          readValue_valueText first (.inr rfl)
        have other : closing ≠ comma := by decide
        rw [List.map_singleton, List.intercalate_singleton, readValues, read]
        simp [other]
      | cons next rest =>
        have inner := ih others (List.cons_ne_nil _ _) (Nat.le_of_succ_le_succ enough)
        have skipped := joined_blank next rest [closing]
        have read : ∀ later, readValue (valueText value ++ comma :: blank :: later) =
            some (value, comma :: blank :: later) :=
          fun later => readValue_valueText first (.inl rfl)
        rw [List.map_cons] at inner skipped
        rw [List.map_cons, List.map_cons, List.intercalate_cons_cons]
        simp only [List.append_assoc, List.cons_append, List.nil_append]
        rw [readValues, read]
        simp [skipped, inner]

theorem valueText_length (value : Value) : 0 < (valueText value).length := by
  cases value with
  | number v => exact List.length_pos_of_ne_nil (decimalInt_ne_nil v)
  | text bytes => simp [valueText]

theorem joined_length (values : List Value) :
    values.length ≤ ([comma, blank].intercalate (values.map valueText)).length := by
  induction values with
  | nil => simp
  | cons value rest ih =>
    have first := valueText_length value
    cases rest with
    | nil =>
      rw [List.map_singleton, List.intercalate_singleton]
      exact first
    | cons next rest =>
      simp only [List.map_cons, List.intercalate_cons_cons, List.length_append, List.length_cons,
        List.length_nil] at ih ⊢
      omega

/-- A row whose texts are clean is read back. -/
theorem readRow_rowText (whole : ∀ value ∈ values, Literal value) (filled : values ≠ []) :
    readRow (rowText values) = some values := by
  have longer := joined_length values
  rw [rowText, readRow, if_pos rfl]
  apply readValues_joined whole filled
  rw [List.length_append]
  omega

end SqlRows
