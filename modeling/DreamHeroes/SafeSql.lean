import Mathlib.Data.List.Forall2
import DreamHeroes.SaveText

/- The SQL text with the names and cd keys of clients in it: when it is one statement that holds
   them as they were sent. -/
namespace SafeSql

open ByteWords DecimalText SuitText GameHero OrderedMaps SqlLiterals SaveText

/-- The bytes are one statement that is read back with these texts. -/
def Faithful (slots : List Slot) (sql : Bytes) : Prop := Reads slots sql ∧ OneStatement slots

def fullEntry (suit : MsgSuitData) : Bytes :=
  decimalInt suit.suitId.toInt ++ [comma] ++ suit.suitName ++
    suit.equipIds.flatMap fun equipId => comma :: decimal equipId.toNat

/-- The suits with their whole names. -/
def fullText (suits : List MsgSuitData) : Bytes := [colon].intercalate (suits.map fullEntry)

/-- The row of the character with whole texts. -/
def fullRow (hero : DreamHero) : CharacterRow :=
  { characterRow hero with name := hero.info.name, suitsName := fullText hero.info.suits }

def rowStatements (hero : DreamHero) : List SaveStatement :=
  DreamHero.equipStatements hero.info.account (hero.heroEquips.entries.map (·.2)) 0 [] ++
    DreamHero.toyStatements hero.account (hero.heroToys.entries.map (·.2)) 0 []

/-- The statements that SaveHero is to send. -/
def wantedStatements (hero : DreamHero) : List SaveStatement :=
  .character (fullRow hero) :: rowStatements hero

/-- The equips hold no text of a client. -/
def holdsText : SaveStatement → Bool
  | .character _ => true
  | .equips _ => false
  | .toys _ _ => true

/-- Each statement of SaveHero with text in it is sent as that statement, with the texts the hero
    holds. -/
def SaveFaithful (clock : Clock) (hero : DreamHero) : Prop :=
  ∃ sqls, saveSql clock hero = some sqls ∧
    List.Forall₂ (fun statement sql => holdsText statement = true →
      Faithful (statementSlots clock statement) sql) (wantedStatements hero) sqls

def VerifyFaithful (cdkey : CdKey) : Prop :=
  ∃ sql, verifySql cdkey = some sql ∧ Faithful (verifySlots cdkey) sql

/-- The text comes through c_str and between quotes unchanged. -/
def Plain (text : Bytes) : Prop := cStr text = text ∧ clean text = true

instance (text : Bytes) : Decidable (Plain text) :=
  inferInstanceAs (Decidable (_ ∧ _))

/-- None of the bytes that mean something to c_str or to a statement. -/
def Inert (bytes : Bytes) : Prop :=
  ∀ b ∈ bytes, b ≠ quote ∧ b ≠ backslash ∧ b ≠ semicolon ∧ b ≠ 0

instance (bytes : Bytes) : Decidable (Inert bytes) := List.decidableBAll _ bytes

variable {clock : Clock} {hero : DreamHero} {front back bytes text : Bytes} {slots : List Slot}
  {suits : List MsgSuitData} {suit : MsgSuitData} {toys chunk : List MsgToyData} {toy : MsgToyData}
  {account : Account}

theorem inert_append : Inert (front ++ back) ↔ Inert front ∧ Inert back :=
  List.forall_mem_append

theorem inert_decimal (n : Nat) : Inert (decimal n) := by
  intro b member
  have digits := decimal_isDigit n b member
  refine ⟨?_, ?_, ?_, ?_⟩ <;> rintro rfl <;> simp [isDigit, quote, backslash, semicolon] at digits

theorem inert_decimalInt (v : Int) : Inert (decimalInt v) := by
  have digits := inert_decimal v.natAbs
  unfold decimalInt
  split
  · exact List.forall_mem_cons.mpr ⟨by decide, digits⟩
  · exact digits

/-- Taken from the characters, as the bytes of a literal are slow to decide. -/
theorem inert_ofList (chars : List Char) (inert : Inert (chars.map fun c => c.toNat.toUInt8)) :
    Inert (ascii (String.ofList chars)) := by
  rwa [ascii, String.toList_ofList]

theorem Inert.clean (inert : Inert text) : clean text = true :=
  clean_of_absent (fun member => (inert _ member).1 rfl) fun member => (inert _ member).2.1 rfl

theorem Inert.cStr (inert : Inert text) : cStr text = text :=
  cStr_eq_self fun member => (inert _ member).2.2.2 rfl

theorem Inert.oneStatement (inert : Inert (codes slots)) : OneStatement slots := by
  constructor
  · exact fun member => (inert _ member).1 rfl
  · exact fun member => (inert _ (List.dropLast_subset _ member)).2.2.1 rfl

theorem inert_getTime (clock : Clock) (curTime : UInt64) : Inert (getTime clock curTime) := by
  have dash : Inert (ascii "-") := by decide
  have blank : Inert (ascii " ") := by decide
  have stop : Inert (ascii ":") := by decide
  simp only [getTime, timeText, inert_append, inert_decimalInt, dash, blank, stop, and_self]

theorem cStr_shrinks (text : Bytes) : Shrinks (cStr text) text := by
  have front : cStr text <+: text := List.takeWhile_prefix _
  exact ⟨front.length_le, front.eq_of_length⟩

/-- A statement without separators in its code is read back if its texts are whole and clean. -/
theorem faithful_cut_iff {written : List Slot} (inert : Inert (codes slots))
    (separate : Separate slots) (cut : Cut written slots) :
    Faithful slots (write written) ↔
      texts written = texts slots ∧ ∀ text ∈ texts slots, clean text = true := by
  rw [Faithful, reads_cut_iff separate cut]
  exact and_iff_left inert.oneStatement

theorem sign_bytes : ascii ", " = [44, 32] ∧ ascii ")" = [41] ∧ ascii ";" = [59] := by decide

theorem inert_gap : Inert (ascii ", ") ∧ Inert (ascii ")") ∧ Inert (ascii "(") := by decide

theorem inert_character (row : CharacterRow) : Inert (codes (characterSlots row)) := by
  have table : Inert
      (ascii "replace into `character`(`account_id`, `level`, `name`,`action_point`, ") := by
    apply inert_ofList
    decide +kernel
  have columns : Inert (ascii "`diamand`, `gold`, `suits_name`) values(") := by
    apply inert_ofList
    decide +kernel
  have empty : Inert [] := by decide
  simp only [codes, characterSlots, List.flatMap_cons, List.flatMap_nil, inert_append,
    inert_decimal, inert_decimalInt, inert_gap, table, columns, empty, and_self]

theorem separate_character (row : CharacterRow) : Separate (characterSlots row) := by
  simp [characterSlots, Separate, write, sign_bytes, quote]

/-- A printed entry is the entry with the whole name, or shorter. -/
theorem suitEntry_shrinks (suit : MsgSuitData) : Shrinks (suitEntry suit) (fullEntry suit) := by
  have head : Shrinks (nameEntry suit)
      (decimalInt suit.suitId.toInt ++ [comma] ++ suit.suitName) :=
    (Shrinks.refl _).append (cStr_shrinks suit.suitName)
  exact head.append (.refl _)

theorem suitEntry_eq_iff (suit : MsgSuitData) :
    suitEntry suit = fullEntry suit ↔ cStr suit.suitName = suit.suitName := by
  simp [suitEntry, fullEntry, nameEntry]

theorem suitsText_shrinks (suits : List MsgSuitData) :
    Shrinks (suitsText suits) (fullText suits) := by
  induction suits with
  | nil => exact .refl []
  | cons suit rest ih =>
    cases rest with
    | nil => simpa [suitsText, fullText] using suitEntry_shrinks suit
    | cons next rest =>
      simp only [suitsText, fullText, List.map_cons, List.intercalate_cons_cons] at ih ⊢
      exact ((suitEntry_shrinks suit).append (.refl [colon])).append ih

theorem suitsText_eq_iff (suits : List MsgSuitData) :
    suitsText suits = fullText suits ↔ ∀ suit ∈ suits, cStr suit.suitName = suit.suitName := by
  induction suits with
  | nil => simp [suitsText, fullText]
  | cons suit rest ih =>
    rw [List.forall_mem_cons, ← ih, ← suitEntry_eq_iff]
    cases rest with
    | nil => simp [suitsText, fullText]
    | cons next rest =>
      have shrinks := suitsText_shrinks (next :: rest)
      simp only [suitsText, fullText, List.map_cons, List.intercalate_cons_cons] at shrinks ⊢
      constructor
      · intro same
        have split := ((suitEntry_shrinks suit).append (.refl [colon])).append_eq shrinks
          (congrArg List.length same)
        exact ⟨List.append_cancel_right split.1, split.2⟩
      · rintro ⟨first, later⟩
        rw [first, later]

theorem clean_inert_append (inert : Inert front) : clean (front ++ back) = clean back :=
  clean_append (fun member => (inert _ member).1 rfl) fun member => (inert _ member).2.1 rfl

theorem inert_ids (equipIds : List UInt64) :
    Inert (equipIds.flatMap fun equipId => comma :: decimal equipId.toNat) := by
  induction equipIds with
  | nil => simp [Inert]
  | cons equipId rest ih =>
    have sign : comma ≠ quote ∧ comma ≠ backslash ∧ comma ≠ semicolon ∧ comma ≠ 0 := by decide
    have first : Inert (comma :: decimal equipId.toNat) :=
      List.forall_mem_cons.mpr ⟨sign, inert_decimal equipId.toNat⟩
    rw [List.flatMap_cons, inert_append]
    exact ⟨first, ih⟩

/-- What follows the name is a comma, a colon or nothing, so the name does no harm beyond its own
    bytes. -/
theorem clean_fullEntry (suit : MsgSuitData) (back : Bytes)
    (noWildcard : ∀ c, back.head? = some c → c ≠ percent ∧ c ≠ underscore) :
    clean (fullEntry suit ++ back) = (clean suit.suitName && clean back) := by
  have front : Inert (decimalInt suit.suitId.toInt ++ [comma]) := by
    rw [inert_append]
    exact ⟨inert_decimalInt _, by decide⟩
  have ids := inert_ids suit.equipIds
  rw [fullEntry, List.append_assoc, List.append_assoc, clean_inert_append front,
    clean_append_of_head, clean_inert_append ids]
  intro c head
  cases equips : suit.equipIds with
  | nil =>
    rw [equips] at head
    exact noWildcard c head
  | cons equipId rest =>
    rw [equips] at head
    cases head
    decide

theorem clean_fullText (suits : List MsgSuitData) :
    clean (fullText suits) = true ↔ ∀ suit ∈ suits, clean suit.suitName = true := by
  induction suits with
  | nil => simp [fullText, clean]
  | cons suit rest ih =>
    rw [List.forall_mem_cons, ← ih]
    cases rest with
    | nil =>
      have whole := clean_fullEntry suit [] (by simp)
      simpa [fullText, clean] using whole
    | cons next rest =>
      have whole := clean_fullEntry suit (colon :: fullText (next :: rest))
        (by simp [colon, percent, underscore])
      rw [clean_cons (by decide) (by decide)] at whole
      simp only [fullText, List.map_cons, List.intercalate_cons_cons, List.append_assoc,
        List.cons_append, List.nil_append] at whole ⊢
      rw [whole, Bool.and_eq_true]

/-- The statement of the character holds its texts if the name and the names of the suits pass. -/
theorem faithful_character_iff (hero : DreamHero) :
    Faithful (characterSlots (fullRow hero)) (write (characterSlots (characterRow hero))) ↔
      Plain hero.info.name ∧ ∀ suit ∈ hero.info.suits, Plain suit.suitName := by
  have cut : Cut (characterSlots (characterRow hero)) (characterSlots (fullRow hero)) :=
    .code _ (.text (cStr_shrinks _) (.code _ (.text (suitsText_shrinks _) (.code _ .nil))))
  have written : texts (characterSlots (characterRow hero)) =
    [cStr hero.info.name, suitsText hero.info.suits] := rfl
  have wanted : texts (characterSlots (fullRow hero)) =
    [hero.info.name, fullText hero.info.suits] := rfl
  rw [faithful_cut_iff (inert_character _) (separate_character _) cut, written, wanted,
    List.forall_mem_cons, List.forall_mem_singleton, clean_fullText]
  simp only [List.cons.injEq, and_true, suitsText_eq_iff, Plain, forall_and]
  exact and_and_and_comm

theorem separate_toyRow {rest : List Slot} (separate : Separate rest) (clock : Clock)
    (account : Account) (toy : MsgToyData) : Separate (toyRow clock account toy ++ rest) := by
  simp [toyRow, Separate, write, sign_bytes, quote, separate]

theorem inert_toyRow {rest : List Slot} (inert : Inert (codes rest)) (clock : Clock)
    (account : Account) (toy : MsgToyData) : Inert (codes (toyRow clock account toy ++ rest)) := by
  simp only [codes, toyRow, List.cons_append, List.nil_append, List.flatMap_cons, inert_append,
    inert_decimalInt, inert_gap, true_and]
  exact inert

theorem cut_toyRow {written : List Slot} (cut : Cut written slots) (clock : Clock)
    (account : Account) (toy : MsgToyData) :
    Cut (toyRow clock account (cutToy toy) ++ written) (toyRow clock account toy ++ slots) := by
  have first : Cut (toyRow clock account (cutToy toy)) (toyRow clock account toy) :=
    .code _ (.text (cStr_shrinks _) (.refl _))
  exact first.append cut

/- The rows behind the first one of a statement. -/
def laterRows (clock : Clock) (account : Account) (toys : List MsgToyData) : List Slot :=
  toys.flatMap fun toy => .code (ascii ",") :: toyRow clock account toy

theorem laterRows_cons (clock : Clock) (account : Account) (toy : MsgToyData)
    (toys : List MsgToyData) :
    laterRows clock account (toy :: toys) =
      .code (ascii ",") :: (toyRow clock account toy ++ laterRows clock account toys) :=
  rfl

theorem laterRows_shape (clock : Clock) (account : Account) (toys : List MsgToyData) :
    Separate (laterRows clock account toys) ∧ Inert (codes (laterRows clock account toys)) ∧
      Cut (laterRows clock account (toys.map cutToy)) (laterRows clock account toys) := by
  induction toys with
  | nil => exact ⟨trivial, List.forall_mem_nil _, .nil⟩
  | cons toy rest ih =>
    obtain ⟨separate, inert, cut⟩ := ih
    have sign : Inert (ascii ",") := by decide
    have code : Inert (codes (laterRows clock account (toy :: rest))) := by
      rw [laterRows_cons]
      exact inert_append.mpr ⟨sign, inert_toyRow inert clock account toy⟩
    rw [List.map_cons, laterRows_cons, laterRows_cons]
    exact ⟨separate_toyRow separate clock account toy, code,
      .code _ (cut_toyRow cut clock account toy)⟩

theorem texts_laterRows_iff (clock : Clock) (account : Account) (toys : List MsgToyData) :
    (texts (laterRows clock account (toys.map cutToy)) = texts (laterRows clock account toys) ∧
        ∀ text ∈ texts (laterRows clock account toys), clean text = true) ↔
      ∀ toy ∈ toys, Plain toy.toyCdKey := by
  induction toys with
  | nil => simp [laterRows, texts]
  | cons toy rest ih =>
    have first (toy : MsgToyData) (rest : List MsgToyData) :
        texts (laterRows clock account (toy :: rest)) = toy.toyCdKey :: decimal account ::
          getTime clock toy.timeStamp :: texts (laterRows clock account rest) := rfl
    have number := (inert_decimal account).clean
    have time := (inert_getTime clock toy.timeStamp).clean
    rw [List.forall_mem_cons, ← ih, List.map_cons, first, first]
    simp only [List.forall_mem_cons, number, time, cutToy, Plain, List.cons.injEq, true_and]
    exact and_and_and_comm

theorem inert_toysHead : Inert toysHead := by
  rw [toysHead, inert_append]
  constructor
  · apply inert_ofList
    decide +kernel
  · apply inert_ofList
    decide +kernel

theorem statementSlots_toys (clock : Clock) (account : Account) (toy : MsgToyData)
    (toys : List MsgToyData) :
    statementSlots clock (.toys account (toy :: toys)) =
      .code toysHead :: (toyRow clock account toy ++ laterRows clock account toys) :=
  rfl

/-- What is printed for a statement with text is that statement. -/
def PrintedFaithful (clock : Clock) (statement : SaveStatement) : Prop :=
  holdsText statement = true →
    Faithful (statementSlots clock statement) (write (statementSlots clock (printed statement)))

/-- A statement of toys holds its texts if all the keys pass. -/
theorem faithful_toys_iff (clock : Clock) (account : Account) (toys : List MsgToyData) :
    PrintedFaithful clock (.toys account toys) ↔ ∀ toy ∈ toys, Plain toy.toyCdKey := by
  have text : holdsText (.toys account toys) = true := rfl
  rw [PrintedFaithful, forall_prop_of_true text]
  cases toys with
  | nil =>
    simp [Faithful, statementSlots, printed, Reads, write, OneStatement, codes]
  | cons toy rest =>
    obtain ⟨separate, inert, cut⟩ := laterRows_shape clock account rest
    have short : printed (.toys account (toy :: rest)) =
        .toys account (cutToy toy :: rest.map cutToy) := rfl
    have textless (head : Bytes) (slots : List Slot) : texts (.code head :: slots) = texts slots :=
      rfl
    have code : Inert (codes
        (.code toysHead :: (toyRow clock account toy ++ laterRows clock account rest))) :=
      inert_append.mpr ⟨inert_toysHead, inert_toyRow inert clock account toy⟩
    rw [short, statementSlots_toys, statementSlots_toys, ← texts_laterRows_iff clock account,
      List.map_cons, laterRows_cons, laterRows_cons, textless, textless,
      faithful_cut_iff code (separate_toyRow separate clock account toy)
        (.code _ (cut_toyRow cut clock account toy)), textless, textless]

/-- The chunks of the toys' statements together hold all toys. -/
theorem toyStatements_iff (good : SaveStatement → Prop) (holds : MsgToyData → Prop)
    (each : ∀ chunk, good (.toys account chunk) ↔ ∀ toy ∈ chunk, holds toy)
    (toys : List MsgToyData) (count : Nat) (chunk : List MsgToyData) :
    (∀ statement ∈ DreamHero.toyStatements account toys count chunk, good statement) ↔
      ∀ toy ∈ chunk ++ toys, holds toy := by
  induction toys generalizing count chunk with
  | nil =>
    rw [DreamHero.toyStatements, List.append_nil, ← each]
    split
    · rename_i empty
      simp [each, empty]
    · rw [List.forall_mem_singleton]
  | cons toy rest ih =>
    rw [DreamHero.toyStatements, List.forall_mem_append]
    split
    · rw [List.forall_mem_cons, ih, each]
      rfl
    · rw [ih, List.append_assoc, List.forall_mem_append]
      rfl

theorem equipStatements_kind {equips : List MsgEquipData} {count : Nat} {sqlTemp : List EquipPiece}
    {statement : SaveStatement}
    (member : statement ∈ DreamHero.equipStatements account equips count sqlTemp) :
    holdsText statement = false := by
  induction equips generalizing count sqlTemp with
  | nil =>
    rw [DreamHero.equipStatements] at member
    split at member
    · cases member
    · rw [List.mem_singleton.mp member]
      rfl
  | cons equip rest ih =>
    rw [DreamHero.equipStatements] at member
    split at member
    · rcases List.mem_cons.mp member with rfl | later
      · rfl
      · exact ih later
    · exact ih member

theorem saveSql_eq (fits : SaveFits clock hero) :
    saveSql clock hero = some (write (characterSlots (characterRow hero)) ::
      (rowStatements hero).map fun statement =>
        write (statementSlots clock (printed statement))) := by
  have names : ∀ suit ∈ hero.info.suits, (nameEntry suit).length < suitTempSize := by
    intro suit listed
    rw [nameEntry_length]
    exact fits.names suit listed
  rw [saveSql, if_pos ((save_fits_iff clock hero).mpr fits), DreamHero.saveStatements, suitsSql,
    if_pos names]
  rfl

/-- Of the rows, only those of the toys hold text. -/
theorem rowStatements_iff (clock : Clock) (hero : DreamHero) :
    (∀ statement ∈ rowStatements hero, PrintedFaithful clock statement) ↔
      ∀ entry ∈ hero.heroToys.entries, Plain entry.2.toyCdKey := by
  have toys := toyStatements_iff (PrintedFaithful clock) (fun toy => Plain toy.toyCdKey)
    (faithful_toys_iff clock hero.account) (hero.heroToys.entries.map (·.2)) 0 []
  rw [List.nil_append, List.forall_mem_map] at toys
  rw [rowStatements, List.forall_mem_append, ← toys]
  apply and_iff_right
  intro statement member text
  rw [equipStatements_kind member] at text
  cases text

/-- SaveHero keeps every text it is given if and only if none of them overruns a buffer, holds a
    zero byte, a quote, or a backslash but before a wildcard. -/
theorem save_faithful_iff (clock : Clock) (hero : DreamHero) :
    SaveFaithful clock hero ↔ SaveFits clock hero ∧
      (Plain hero.info.name ∧ ∀ suit ∈ hero.info.suits, Plain suit.suitName) ∧
      ∀ entry ∈ hero.heroToys.entries, Plain entry.2.toyCdKey := by
  rw [← rowStatements_iff clock hero, ← faithful_character_iff, SaveFaithful]
  by_cases fits : SaveFits clock hero
  · have character : holdsText (.character (fullRow hero)) = true := rfl
    simp only [saveSql_eq fits, Option.some.injEq, exists_eq_left', wantedStatements,
      List.forall₂_cons, List.forall₂_map_right_iff, List.forall₂_same, fits, true_and,
      forall_prop_of_true character]
    rfl
  · have overrun : saveSql clock hero = none := by
      rw [saveSql, if_neg ((save_fits_iff clock hero).not.mpr fits)]
    simp [overrun, fits]

/-- verifyToyCDKey does the same with its one key. -/
theorem verify_faithful_iff (cdkey : CdKey) :
    VerifyFaithful cdkey ↔ verifyWidth cdkey < verifySqlSize ∧ Plain cdkey := by
  have cut : Cut (verifySlots (cStr cdkey)) (verifySlots cdkey) :=
    .code _ (.text (cStr_shrinks cdkey) (.code _ .nil))
  have code : codes (verifySlots cdkey) =
    ascii "select * from `character_toy` where `toy_cd_key`=" ++ ascii ";" := rfl
  have one : OneStatement (verifySlots cdkey) := by
    rw [OneStatement, code]
    decide
  have separate : Separate (verifySlots cdkey) := by
    simp [verifySlots, Separate, write, sign_bytes, quote]
  have reads := reads_cut_iff separate cut
  simp only [texts, verifySlots, List.filterMap_cons, List.filterMap_nil, List.cons.injEq, and_true,
    List.forall_mem_singleton] at reads
  rw [← verify_fits_iff, VerifyFaithful, verifySql]
  by_cases fits : (verifySprintf cdkey).fits
  · rw [if_pos fits]
    simp only [Option.some.injEq, exists_eq_left', fits, true_and, Faithful, and_iff_left one]
    exact reads
  · simp [fits]

/-- The text of a client comes through both servers whole, in statements of their own, exactly if
    it is short and plain. -/
theorem client_text_faithful_iff (clock : Clock) (hero : DreamHero) (cdkey : CdKey) :
    (SaveFaithful clock hero ∧ VerifyFaithful cdkey) ↔
      (SaveFits clock hero ∧
        (Plain hero.info.name ∧ ∀ suit ∈ hero.info.suits, Plain suit.suitName) ∧
        ∀ entry ∈ hero.heroToys.entries, Plain entry.2.toyCdKey) ∧
      verifyWidth cdkey < verifySqlSize ∧ Plain cdkey := by
  rw [save_faithful_iff, verify_faithful_iff]

/-- A key with quotes in it selects every toy. -/
theorem quoted_key_selects_all :
    verifySql (ascii "' or '1'='1") =
      some (ascii "select * from `character_toy` where `toy_cd_key`='' or '1'='1';") ∧
    ¬ ∀ (clock : Clock) (hero : DreamHero) (cdkey : CdKey),
      SaveFaithful clock hero ∧ VerifyFaithful cdkey := by
  refine ⟨by decide, fun all => ?_⟩
  have faithful := (all ⟨0, fun _ => ⟨0, 0, 0, 0, 0, 0⟩⟩ (.new 0 0 .config) (ascii "' or '1'='1")).2
  have plain := ((verify_faithful_iff _).mp faithful).2
  exact absurd plain (by decide)

end SafeSql
