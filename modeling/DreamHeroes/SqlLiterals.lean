import Mathlib.Data.List.Basic

/- String literals of SQL statements, by MySQL's rules for text between single quotes, and what
   is read back from a statement whose texts were put between quotes as they are. -/
namespace SqlLiterals

def quote : UInt8 := 39
def backslash : UInt8 := 92
def percent : UInt8 := 37
def underscore : UInt8 := 95
def semicolon : UInt8 := 59

/- What a backslash and the byte behind it stand for: a control character, both of them before
   one of the two wildcards, and the byte alone otherwise. -/
def escaped (b : UInt8) : List UInt8 :=
  if b = 48 then [0]
  else if b = 98 then [8]
  else if b = 110 then [10]
  else if b = 114 then [13]
  else if b = 116 then [9]
  else if b = 90 then [26]
  else if b = percent ∨ b = underscore then [backslash, b]
  else [b]

def prepend (front : List UInt8) (read : Option (List UInt8 × List UInt8)) :
    Option (List UInt8 × List UInt8) :=
  read.map fun later => (front ++ later.1, later.2)

/-- The text of the literal behind an opening quote, and what follows its closing quote. -/
def literal : List UInt8 → Option (List UInt8 × List UInt8)
  | [] => none
  | [b] => if b = quote then some ([], []) else none
  | b :: c :: rest =>
      if b = quote then
        if c = quote then prepend [quote] (literal rest) else some ([], c :: rest)
      else if b = backslash then prepend (escaped c) (literal rest)
      else prepend [b] (literal (c :: rest))

/-- A statement: code, and texts that are to stand in literals. -/
inductive Slot where
  | code (bytes : List UInt8)
  | text (bytes : List UInt8)
  deriving DecidableEq, Repr

/-- The statement with each text between quotes as it is. -/
def write : List Slot → List UInt8
  | [] => []
  | .code bytes :: rest => bytes ++ write rest
  | .text bytes :: rest => quote :: (bytes ++ quote :: write rest)

/-- The bytes are read as this statement: the same code, and literals that hold the texts. -/
def Reads : List Slot → List UInt8 → Prop
  | [], sql => sql = []
  | .code bytes :: rest, sql => ∃ later, sql = bytes ++ later ∧ Reads rest later
  | .text bytes :: rest, sql =>
      ∃ body later, sql = quote :: body ∧ literal body = some (bytes, later) ∧ Reads rest later

def texts (slots : List Slot) : List (List UInt8) :=
  slots.filterMap fun
    | .code _ => none
    | .text bytes => some bytes

def codes (slots : List Slot) : List UInt8 :=
  slots.flatMap fun
    | .code bytes => bytes
    | .text _ => []

/-- No code opens a literal or ends the statement before its last byte. -/
def OneStatement (slots : List Slot) : Prop :=
  quote ∉ codes slots ∧ semicolon ∉ (codes slots).dropLast

/-- What follows a text does not begin with a quote. -/
def Separate : List Slot → Prop
  | [] => True
  | .code _ :: rest => Separate rest
  | .text _ :: rest => (write rest).head? ≠ some quote ∧ Separate rest

/-- The text has no quote, and no backslash but before a wildcard. -/
def clean : List UInt8 → Bool
  | [] => true
  | [b] => b ≠ quote && b ≠ backslash
  | b :: c :: rest =>
      if b = quote then false
      else if b = backslash then (c = percent || c = underscore) && clean rest
      else clean (c :: rest)

variable {slots : List Slot} {sql text later rest : List UInt8} {b : UInt8}

theorem escaped_wildcard (wildcard : b = percent ∨ b = underscore) :
    escaped b = [backslash, b] := by
  rcases wildcard with rfl | rfl <;> rfl

theorem escaped_length (b : UInt8) : (escaped b).length ≤ 2 := by
  unfold escaped
  repeat' split
  all_goals simp

/-- Any other escaped byte stands for one byte, which is a backslash only for a backslash. -/
theorem escaped_single (plain : ¬ (b = percent ∨ b = underscore)) :
    ∃ c, escaped b = [c] ∧ (c = backslash → b = backslash) := by
  unfold escaped
  rw [if_neg plain]
  repeat' split
  · exact ⟨0, rfl, fun same => absurd same (by decide)⟩
  · exact ⟨8, rfl, fun same => absurd same (by decide)⟩
  · exact ⟨10, rfl, fun same => absurd same (by decide)⟩
  · exact ⟨13, rfl, fun same => absurd same (by decide)⟩
  · exact ⟨9, rfl, fun same => absurd same (by decide)⟩
  · exact ⟨26, rfl, fun same => absurd same (by decide)⟩
  · exact ⟨b, rfl, id⟩

theorem prepend_eq_some {front : List UInt8} {read : Option (List UInt8 × List UInt8)}
    (found : prepend front read = some (text, later)) :
    ∃ back, read = some (back, later) ∧ text = front ++ back := by
  obtain ⟨⟨back, behind⟩, same, parts⟩ := Option.map_eq_some_iff.mp found
  cases parts
  exact ⟨back, same, rfl⟩

/-- A literal is at least as long as its text, and has a closing quote. -/
theorem literal_length (found : literal sql = some (text, later)) :
    text.length + later.length + 1 ≤ sql.length := by
  induction sql using literal.induct generalizing text later with
  | case1 => cases found
  | case2 =>
    simp only [literal, if_true] at found
    cases found
    simp
  | case3 b other => simp [literal, other] at found
  | case4 rest ih =>
    simp only [literal, if_true] at found
    obtain ⟨back, inside, rfl⟩ := prepend_eq_some found
    have shorter := ih inside
    simp only [List.length_append, List.length_cons, List.length_nil]
    omega
  | case5 c rest other =>
    simp only [literal, if_true, if_neg other] at found
    cases found
    simp
  | case6 c rest other ih =>
    simp only [literal, if_neg other, if_true] at found
    obtain ⟨back, inside, rfl⟩ := prepend_eq_some found
    have shorter := ih inside
    have two := escaped_length c
    simp only [List.length_append, List.length_cons]
    omega
  | case7 b c rest noQuote noEscape ih =>
    simp only [literal, if_neg noQuote, if_neg noEscape] at found
    obtain ⟨back, inside, rfl⟩ := prepend_eq_some found
    have shorter := ih inside
    simp only [List.length_append, List.length_cons, List.length_nil] at shorter ⊢
    omega

/-- A clean text is read back up to the quote behind it. -/
theorem literal_clean (plain : clean text = true) (ends : rest.head? ≠ some quote) :
    literal (text ++ quote :: rest) = some (text, rest) := by
  induction text using clean.induct with
  | case1 =>
    cases rest with
    | nil => rfl
    | cons c rest =>
      have other : c ≠ quote := fun same => ends (by rw [same]; rfl)
      simp [literal, other]
  | case2 b =>
    simp only [clean, Bool.and_eq_true, decide_eq_true_eq] at plain
    cases rest with
    | nil => simp [literal, plain, prepend]
    | cons c rest =>
      have other : c ≠ quote := fun same => ends (by rw [same]; rfl)
      simp [literal, plain, prepend, other]
  | case3 c rest => simp [clean] at plain
  | case4 c rest other ih =>
    simp only [clean, if_neg other, if_true, Bool.and_eq_true, Bool.or_eq_true,
      decide_eq_true_eq] at plain
    simp only [List.cons_append, literal, if_neg other, if_true, ih plain.2]
    simp [prepend, escaped_wildcard plain.1]
  | case5 b c rest noQuote noEscape ih =>
    simp only [clean, if_neg noQuote, if_neg noEscape] at plain
    have inside := ih plain
    simp only [List.cons_append] at inside ⊢
    simp [literal, noQuote, noEscape, inside, prepend]

/-- A text that is read back from a literal ending where it was to end is clean. -/
theorem clean_of_literal (found : literal (text ++ quote :: rest) = some (text, later))
    (long : rest.length ≤ later.length) : clean text = true := by
  induction text using clean.induct with
  | case1 => rfl
  | case2 b =>
    simp only [List.cons_append, List.nil_append, literal] at found
    split at found
    · obtain ⟨back, inside, same⟩ := prepend_eq_some found
      have shorter := literal_length inside
      omega
    · rename_i noQuote
      split at found
      · rename_i escape
        obtain ⟨back, _, same⟩ := prepend_eq_some found
        rw [escape] at same
        simp [escaped, quote, backslash, percent, underscore] at same
      · rename_i noEscape
        simp [clean, noQuote, noEscape]
  | case3 c text =>
    simp only [List.cons_append, literal, if_true] at found
    split at found
    · obtain ⟨back, inside, same⟩ := prepend_eq_some found
      have shorter := literal_length inside
      simp only [List.cons_append, List.nil_append, List.cons.injEq, true_and] at same
      rw [← same] at shorter
      simp only [List.length_append, List.length_cons] at shorter
      omega
    · simp at found
  | case4 c text other ih =>
    simp only [List.cons_append, literal, if_neg other, if_true] at found
    obtain ⟨back, inside, same⟩ := prepend_eq_some found
    simp only [clean, if_neg other, if_true, Bool.and_eq_true, Bool.or_eq_true,
      decide_eq_true_eq]
    by_cases wildcard : c = percent ∨ c = underscore
    · rw [escaped_wildcard wildcard] at same
      simp only [List.cons_append, List.nil_append, List.cons.injEq, true_and] at same
      exact ⟨wildcard, ih (same ▸ inside)⟩
    · obtain ⟨d, single, escape⟩ := escaped_single wildcard
      rw [single] at same
      simp only [List.cons_append, List.nil_append, List.cons.injEq] at same
      have shorter := literal_length inside
      rw [← same.2] at shorter
      simp only [List.length_append, List.length_cons] at shorter
      omega
  | case5 b c text noQuote noEscape ih =>
    simp only [List.cons_append, literal, if_neg noQuote, if_neg noEscape] at found
    obtain ⟨back, inside, same⟩ := prepend_eq_some found
    simp only [List.cons_append, List.nil_append, List.cons.injEq, true_and] at same
    subst same
    simp only [clean, if_neg noQuote, if_neg noEscape]
    exact ih inside

theorem reads_length (reads : Reads slots sql) : (write slots).length ≤ sql.length := by
  induction slots generalizing sql with
  | nil => simp [write]
  | cons slot rest ih =>
    cases slot with
    | code bytes =>
      obtain ⟨later, rfl, reads⟩ := reads
      simpa [write] using ih reads
    | text bytes =>
      obtain ⟨body, later, rfl, found, reads⟩ := reads
      have longer := literal_length found
      have shorter := ih reads
      simp only [write, List.length_cons, List.length_append]
      omega

/-- Texts between quotes as they are read back exactly if they are all clean. -/
theorem reads_write_iff (separate : Separate slots) :
    Reads slots (write slots) ↔ ∀ text ∈ texts slots, clean text = true := by
  induction slots with
  | nil => simp [Reads, write, texts]
  | cons slot rest ih =>
    cases slot with
    | code bytes =>
      have same : texts (.code bytes :: rest) = texts rest := rfl
      rw [same, ← ih separate]
      constructor
      · rintro ⟨later, same, reads⟩
        rw [List.append_cancel_left same]
        exact reads
      · exact fun reads => ⟨write rest, rfl, reads⟩
    | text bytes =>
      have same : texts (.text bytes :: rest) = bytes :: texts rest := rfl
      rw [same, List.forall_mem_cons, ← ih separate.2]
      constructor
      · rintro ⟨body, later, same, found, reads⟩
        cases same
        have plain := clean_of_literal found (reads_length reads)
        rw [literal_clean plain separate.1] at found
        cases found
        exact ⟨plain, reads⟩
      · rintro ⟨plain, reads⟩
        exact ⟨_, write rest, rfl, literal_clean plain separate.1, reads⟩

/-- One text is the other or shorter. -/
def Shrinks (short long : List UInt8) : Prop :=
  short.length ≤ long.length ∧ (short.length = long.length → short = long)

variable {short long short' long' : List UInt8}

theorem Shrinks.refl (text : List UInt8) : Shrinks text text := ⟨Nat.le_refl _, fun _ => rfl⟩

theorem Shrinks.append_eq (front : Shrinks short long) (back : Shrinks short' long')
    (same : (short ++ short').length = (long ++ long').length) : short = long ∧ short' = long' := by
  have first := front.1
  have second := back.1
  simp only [List.length_append] at same
  exact ⟨front.2 (by omega), back.2 (by omega)⟩

theorem Shrinks.append (front : Shrinks short long) (back : Shrinks short' long') :
    Shrinks (short ++ short') (long ++ long') := by
  constructor
  · simp only [List.length_append]
    exact Nat.add_le_add front.1 back.1
  · intro same
    obtain ⟨first, second⟩ := front.append_eq back same
    rw [first, second]

/-- The same statement with some of its texts cut short. -/
inductive Cut : List Slot → List Slot → Prop
  | nil : Cut [] []
  | code {written slots : List Slot} (bytes : List UInt8) (rest : Cut written slots) :
      Cut (.code bytes :: written) (.code bytes :: slots)
  | text {written slots : List Slot} {short long : List UInt8} (first : Shrinks short long)
      (rest : Cut written slots) : Cut (.text short :: written) (.text long :: slots)

variable {written written' slots' : List Slot}

theorem Cut.refl (slots : List Slot) : Cut slots slots := by
  induction slots with
  | nil => exact .nil
  | cons slot rest ih =>
    cases slot with
    | code bytes => exact .code bytes ih
    | text bytes => exact .text (.refl bytes) ih

theorem Cut.append (front : Cut written slots) (back : Cut written' slots') :
    Cut (written ++ written') (slots ++ slots') := by
  induction front with
  | nil => exact back
  | code bytes _ ih => exact .code bytes ih
  | text first _ ih => exact .text first ih

theorem Cut.shrinks (cut : Cut written slots) : Shrinks (write written) (write slots) := by
  induction cut with
  | nil => exact .refl []
  | code bytes _ ih => exact (Shrinks.refl bytes).append ih
  | text first _ ih =>
    have closed := first.append ((Shrinks.refl [quote]).append ih)
    exact (Shrinks.refl [quote]).append closed

theorem Cut.eq_of_texts (cut : Cut written slots) (same : texts written = texts slots) :
    written = slots := by
  induction cut with
  | nil => rfl
  | code bytes _ ih => rw [ih same]
  | text first _ ih =>
    obtain ⟨head, tail⟩ := List.cons.inj same
    rw [head, ih tail]

theorem Cut.eq_of_write (cut : Cut written slots) (same : write written = write slots) :
    written = slots := by
  induction cut with
  | nil => rfl
  | code bytes _ ih => rw [ih (List.append_cancel_left same)]
  | text first rest ih =>
    have lengths := congrArg List.length (List.cons.inj same).2
    have split := first.append_eq ((Shrinks.refl [quote]).append rest.shrinks) lengths
    rw [split.1, ih (List.cons.inj split.2).2]

/-- Texts cut short are not read as the whole texts. -/
theorem reads_cut_iff (separate : Separate slots) (cut : Cut written slots) :
    Reads slots (write written) ↔
      texts written = texts slots ∧ ∀ text ∈ texts slots, clean text = true := by
  constructor
  · intro reads
    have same := cut.eq_of_write
      (cut.shrinks.2 (Nat.le_antisymm cut.shrinks.1 (reads_length reads)))
    rw [same, reads_write_iff separate] at reads
    exact ⟨by rw [same], reads⟩
  · rintro ⟨same, plain⟩
    rw [cut.eq_of_texts same]
    exact (reads_write_iff separate).mpr plain

theorem clean_cons (noQuote : b ≠ quote) (noEscape : b ≠ backslash) :
    clean (b :: text) = clean text := by
  cases text with
  | nil => simp [clean, noQuote, noEscape]
  | cons c rest => simp [clean, noQuote, noEscape]

/-- Text without quotes and backslashes before or behind others does no harm. -/
theorem clean_append (noQuote : quote ∉ text) (noEscape : backslash ∉ text) :
    clean (text ++ rest) = clean rest := by
  induction text with
  | nil => rfl
  | cons b text ih =>
    simp only [List.mem_cons, not_or] at noQuote noEscape
    rw [List.cons_append, clean_cons (Ne.symm noQuote.1) (Ne.symm noEscape.1),
      ih noQuote.2 noEscape.2]

theorem clean_of_absent (noQuote : quote ∉ text) (noEscape : backslash ∉ text) :
    clean text = true := by
  rw [← List.append_nil text, clean_append noQuote noEscape]
  rfl

theorem clean_append_of_head
    (noWildcard : ∀ c, rest.head? = some c → c ≠ percent ∧ c ≠ underscore) :
    clean (text ++ rest) = (clean text && clean rest) := by
  induction text using clean.induct with
  | case1 => simp [clean]
  | case2 b =>
    cases rest with
    | nil => simp [clean]
    | cons c rest =>
      obtain ⟨noPercent, noUnderscore⟩ := noWildcard c rfl
      by_cases quotes : b = quote
      · simp [clean, quotes]
      · by_cases escapes : b = backslash
        · simp [clean, escapes, noPercent, noUnderscore]
        · simp [clean, quotes, escapes]
  | case3 c text => simp [clean]
  | case4 c text other ih => simp [clean, other, ih, Bool.and_assoc]
  | case5 b c text noQuote noEscape ih =>
    simp only [List.cons_append] at ih ⊢
    simp [clean, noQuote, noEscape, ih]

end SqlLiterals
