import DreamHeroes.DecimalText

/- The text of a hero's suits in the `suits_name` column. The game server writes it and the
   database server reads it back. -/
namespace SuitText

open ByteWords DecimalText

def comma : UInt8 := 44
def colon : UInt8 := 58

structure MsgSuitData where
  suitId : Int32
  suitName : Bytes
  equipIds : List UInt64
  deriving DecidableEq, Repr

def cStr (bytes : Bytes) : Bytes := bytes.takeWhile (· ≠ 0)

/- SaveHero. suit_temp holds 256 bytes and sprintf does not check them. -/
def suitTempSize : Nat := 256

def nameEntry (suit : MsgSuitData) : Bytes :=
  decimalInt suit.suitId.toInt ++ [comma] ++ cStr suit.suitName

def suitEntry (suit : MsgSuitData) : Bytes :=
  nameEntry suit ++ suit.equipIds.flatMap fun equipId => comma :: decimal equipId.toNat

def suitsSql (suits : List MsgSuitData) : Option Bytes :=
  if ∀ suit ∈ suits, (nameEntry suit).length < suitTempSize then
    some ([colon].intercalate (suits.map suitEntry))
  else none

/- std::string::find from the beginning of `bytes`. -/
def find (delimiter : Bytes) : Bytes → Option Nat
  | [] => if delimiter = [] then some 0 else none
  | b :: rest =>
      if delimiter.isPrefixOf (b :: rest) then some 0
      else (find delimiter rest).map (· + 1)

/- The positions SplitStringA collects; every round moves past one delimiter. -/
def positions (strIn delimiter : Bytes) : Nat → Nat → List Nat
  | 0, _ => []
  | fuel + 1, start =>
      match find delimiter (strIn.drop start) with
      | none => []
      | some newPos =>
          (start + newPos) ::
            positions strIn delimiter fuel (start + newPos + delimiter.length)

/- The substrings between the positions, the last one up to the end. -/
def pieces (strIn : Bytes) (delimiterLength : Nat) : Nat → List Nat → List Bytes
  | offset, [] => [strIn.drop offset]
  | offset, position :: rest =>
      (strIn.drop offset).take (position - offset) ::
        pieces strIn delimiterLength (position + delimiterLength) rest

def splitStringA (strIn delimiter : Bytes) : List Bytes :=
  if delimiter = [] ∨ strIn = [] then []
  else (pieces strIn delimiter.length 0 (positions strIn delimiter strIn.length 0)).filter (· ≠ [])

def isIntger (str : Bytes) : Bool :=
  match leadingInt str with
  | some number => -2 ^ 31 ≤ number && number < 2 ^ 31
  | none => false

/- atoi and strtol are only called on text isIntger accepts, so neither saturates. -/
def atoi (str : Bytes) : Int32 := Int32.ofInt ((leadingInt str).getD 0)
def strtol (str : Bytes) : Int64 := Int64.ofInt ((leadingInt str).getD 0)

/- dbDoQueryHeroInfo. Every equip id is read from field 0, not from its own field. -/
def parseSuit (info : List Bytes) : Option MsgSuitData :=
  match info with
  | idText :: nameText :: equipTexts =>
      if isIntger (cStr idText) then
        some ⟨atoi (cStr idText), cStr nameText,
          equipTexts.map fun _ => (strtol (cStr idText)).toUInt64⟩
      else none
  | _ => none

def parseSuits (text : Bytes) : List MsgSuitData :=
  (splitStringA (cStr text) [colon]).filterMap fun str => parseSuit (splitStringA str [comma])

theorem find_none_iff {d : UInt8} {bytes : Bytes} : find [d] bytes = none ↔ d ∉ bytes := by
  induction bytes with
  | nil => simp [find]
  | cons b rest ih =>
    by_cases here : d = b
    · simp [find, here]
    · simp [find, here, ih]

theorem find_some {d : UInt8} {bytes : Bytes} {p : Nat} (found : find [d] bytes = some p) :
    bytes = bytes.take p ++ d :: bytes.drop (p + 1) ∧ d ∉ bytes.take p := by
  induction bytes generalizing p with
  | nil => simp [find] at found
  | cons b rest ih =>
    by_cases here : d = b
    · simp [find, here] at found
      simp [← found, here]
    · simp [find, here] at found
      obtain ⟨q, later, rfl⟩ := found
      obtain ⟨parts, before⟩ := ih later
      refine ⟨?_, by simp [here, before]⟩
      simpa using parts

/-- The collected positions cut a string where the reference splitter does. -/
theorem pieces_eq_splitOn (strIn : Bytes) (d : UInt8) (fuel offset : Nat)
    (inside : offset ≤ strIn.length) (budget : strIn.length ≤ offset + fuel) :
    pieces strIn 1 offset (positions strIn [d] fuel offset) = (strIn.drop offset).splitOn d := by
  induction fuel generalizing offset with
  | zero =>
    have stop : strIn.length ≤ offset := by omega
    simp [positions, pieces, List.drop_eq_nil_of_le stop]
  | succ fuel ih =>
    cases found : find [d] (strIn.drop offset) with
    | none =>
      have absent := find_none_iff.mp found
      simp [positions, found, pieces, List.splitOn_eq_singleton absent]
    | some p =>
      obtain ⟨parts, before⟩ := find_some found
      have reach : p + 1 ≤ (strIn.drop offset).length := by
        have size := congrArg List.length parts
        simp at size ⊢
        omega
      rw [List.length_drop] at reach
      have rest : (strIn.drop offset).drop (p + 1) = strIn.drop (offset + p + 1) := by
        rw [List.drop_drop, Nat.add_assoc]
      have tail := ih (offset + p + 1) (by omega) (by omega)
      rw [parts, List.splitOn_append_cons_self_of_not_mem before, rest, ← tail]
      simp [positions, found, pieces]

theorem splitStringA_eq (strIn : Bytes) (d : UInt8) :
    splitStringA strIn [d] = (strIn.splitOn d).filter (· ≠ []) := by
  by_cases empty : strIn = []
  · simp [splitStringA, empty]
  · have cut := pieces_eq_splitOn strIn d strIn.length 0 (Nat.zero_le _) (by omega)
    rw [splitStringA, if_neg (by simp [empty]), List.length_singleton, cut, List.drop_zero]

theorem splitOn_fields {d : UInt8} {bytes field : Bytes} (member : field ∈ bytes.splitOn d) :
    d ∉ field ∧ ∀ b ∈ field, b ∈ bytes := by
  induction bytes generalizing field with
  | nil => simp_all
  | cons b rest ih =>
    rw [List.splitOn_cons_eq_if_modifyHead] at member
    split at member
    · rcases List.mem_cons.mp member with rfl | later
      · simp
      · exact ⟨(ih later).1, fun x inside => List.mem_cons_of_mem b ((ih later).2 x inside)⟩
    · rename_i other
      obtain ⟨head, tail, parts⟩ := List.exists_cons_of_ne_nil (List.splitOn_ne_nil d rest)
      rw [parts, List.modifyHead_cons] at member
      rcases List.mem_cons.mp member with rfl | later
      · have first := ih (parts ▸ List.mem_cons_self)
        simp only [beq_iff_eq] at other
        exact ⟨by simp [first.1, Ne.symm other], by simp; tauto⟩
      · have old := ih (parts ▸ List.mem_cons_of_mem head later)
        exact ⟨old.1, fun x inside => List.mem_cons_of_mem b (old.2 x inside)⟩

theorem splitStringA_fields {d : UInt8} {strIn field : Bytes}
    (member : field ∈ splitStringA strIn [d]) :
    field ≠ [] ∧ d ∉ field ∧ ∀ b ∈ field, b ∈ strIn := by
  rw [splitStringA_eq, List.mem_filter] at member
  exact ⟨by simpa using member.2, splitOn_fields member.1⟩

theorem splitStringA_intercalate {d : UInt8} {fields : List Bytes}
    (clean : ∀ field ∈ fields, field ≠ [] ∧ d ∉ field) :
    splitStringA ([d].intercalate fields) [d] = fields := by
  by_cases empty : fields = []
  · simp [empty, splitStringA]
  · rw [splitStringA_eq, List.splitOn_intercalate d (fun field member => (clean field member).2)
      empty, List.filter_eq_self]
    intro field member
    simpa using (clean field member).1

theorem cStr_eq_self {bytes : Bytes} (noNul : 0 ∉ bytes) : cStr bytes = bytes := by
  rw [cStr, List.takeWhile_eq_self_iff]
  intro b member
  simp only [decide_eq_true_eq, ne_eq]
  rintro rfl
  exact noNul member

theorem cStr_no_nul (bytes : Bytes) : 0 ∉ cStr bytes := by
  intro member
  simpa using List.mem_takeWhile_imp member

/-- What the reader can give back: a name without separators, every equip id the suit's own. -/
structure Kept (suit : MsgSuitData) : Prop where
  named : suit.suitName ≠ []
  noComma : comma ∉ suit.suitName
  noColon : colon ∉ suit.suitName
  noNul : 0 ∉ suit.suitName
  equips : ∀ equipId ∈ suit.equipIds, equipId = suit.suitId.toInt64.toUInt64

theorem toInt_ofInt {v : Int} (lower : -2 ^ 31 ≤ v) (upper : v < 2 ^ 31) :
    (Int32.ofInt v).toInt = v := by
  rw [Int32.toInt_ofInt]
  apply Int.bmod_eq_of_le <;> simp [Int32.size] <;> omega

theorem strtol_of_atoi {str : Bytes} (number : isIntger str = true) :
    strtol str = (atoi str).toInt64 := by
  unfold isIntger at number
  cases value : leadingInt str with
  | none => simp [value] at number
  | some v =>
    simp only [value, Bool.and_eq_true, decide_eq_true_eq] at number
    rw [strtol, atoi, value, Option.getD_some, ← Int64.ofInt_int32ToInt,
      toInt_ofInt number.1 number.2]

theorem parseSuit_kept {str : Bytes} {suit : MsgSuitData} (noColon : colon ∉ str)
    (noNul : 0 ∉ str) (parsed : parseSuit (splitStringA str [comma]) = some suit) :
    Kept suit := by
  unfold parseSuit at parsed
  split at parsed
  · rename_i idText nameText equipTexts fields
    split at parsed
    · rename_i number
      obtain ⟨named, noComma, inside⟩ := splitStringA_fields
        (fields ▸ List.mem_cons_of_mem _ List.mem_cons_self : nameText ∈ _)
      have name : cStr nameText = nameText := cStr_eq_self fun nul => noNul (inside 0 nul)
      cases parsed
      constructor
      · simpa [name] using named
      · simpa [name] using noComma
      · simpa [name] using fun member => noColon (inside colon member)
      · exact cStr_no_nul nameText
      · intro equipId member
        obtain ⟨_, _, rfl⟩ := List.mem_map.mp member
        rw [strtol_of_atoi number]
    · cases parsed
  · cases parsed

theorem parseSuits_kept {text : Bytes} {suit : MsgSuitData} (member : suit ∈ parseSuits text) :
    Kept suit := by
  obtain ⟨str, chunk, parsed⟩ := List.mem_filterMap.mp member
  obtain ⟨_, noColon, inside⟩ := splitStringA_fields chunk
  exact parseSuit_kept noColon (fun nul => cStr_no_nul text (inside 0 nul)) parsed

theorem isDigit_clean {b : UInt8} (digits : isDigit b = true) : b ≠ 0 ∧ b ≠ comma ∧ b ≠ colon := by
  refine ⟨?_, ?_, ?_⟩ <;> rintro rfl <;> simp [isDigit, comma, colon] at digits

theorem decimal_clean (n : Nat) :
    0 ∉ decimal n ∧ comma ∉ decimal n ∧ colon ∉ decimal n :=
  ⟨fun b => (isDigit_clean (decimal_isDigit n _ b)).1 rfl,
    fun b => (isDigit_clean (decimal_isDigit n _ b)).2.1 rfl,
    fun b => (isDigit_clean (decimal_isDigit n _ b)).2.2 rfl⟩

theorem decimalInt_clean (v : Int) :
    decimalInt v ≠ [] ∧ 0 ∉ decimalInt v ∧ comma ∉ decimalInt v ∧ colon ∉ decimalInt v := by
  have digits := decimal_clean v.natAbs
  rw [decimalInt]
  split
  · simp [digits, comma, colon] at *
    exact digits
  · exact ⟨decimal_ne_nil _, digits⟩

def suitFields (suit : MsgSuitData) : List Bytes :=
  decimalInt suit.suitId.toInt :: suit.suitName :: suit.equipIds.map fun e => decimal e.toNat

theorem suitEntry_eq_intercalate {suit : MsgSuitData} (noNul : 0 ∉ suit.suitName) :
    suitEntry suit = [comma].intercalate (suitFields suit) := by
  have ids : ∀ (first : Bytes) (equipIds : List UInt64),
      [comma].intercalate (first :: equipIds.map fun e => decimal e.toNat) =
        first ++ equipIds.flatMap fun e => comma :: decimal e.toNat := by
    intro first equipIds
    induction equipIds generalizing first with
    | nil => simp
    | cons e rest ih => simp [List.intercalate_cons_cons, ih]
  rw [suitFields, List.intercalate_cons_cons, ids, suitEntry, nameEntry, cStr_eq_self noNul]
  simp

theorem suitFields_clean {suit : MsgSuitData} (kept : Kept suit) :
    ∀ field ∈ suitFields suit, field ≠ [] ∧ 0 ∉ field ∧ comma ∉ field ∧ colon ∉ field := by
  intro field member
  simp only [suitFields, List.mem_cons, List.mem_map] at member
  rcases member with rfl | rfl | ⟨e, _, rfl⟩
  · exact decimalInt_clean _
  · exact ⟨kept.named, kept.noNul, kept.noComma, kept.noColon⟩
  · exact ⟨decimal_ne_nil _, decimal_clean _⟩

theorem mem_intercalate {d b : UInt8} {fields : List Bytes}
    (member : b ∈ [d].intercalate fields) : b = d ∨ ∃ field ∈ fields, b ∈ field := by
  induction fields with
  | nil => simp at member
  | cons first rest ih =>
    cases rest with
    | nil => exact .inr ⟨first, by simp, by simpa using member⟩
    | cons second rest =>
      simp only [List.intercalate_cons_cons, List.append_assoc, List.mem_append,
        List.mem_singleton] at member
      rcases member with front | rfl | later
      · exact .inr ⟨first, by simp, front⟩
      · exact .inl rfl
      · rcases ih later with same | ⟨field, inside, found⟩
        · exact .inl same
        · exact .inr ⟨field, List.mem_cons_of_mem first inside, found⟩

theorem suitEntry_clean {suit : MsgSuitData} (kept : Kept suit) :
    suitEntry suit ≠ [] ∧ 0 ∉ suitEntry suit ∧ colon ∉ suitEntry suit := by
  refine ⟨by simp [suitEntry, nameEntry], ?_, ?_⟩ <;>
    rw [suitEntry_eq_intercalate kept.noNul] <;> intro member <;>
    rcases mem_intercalate member with same | ⟨field, inside, found⟩
  · cases same
  · exact (suitFields_clean kept field inside).2.1 found
  · cases same
  · exact (suitFields_clean kept field inside).2.2.2 found

theorem isIntger_suitId (id : Int32) : isIntger (decimalInt id.toInt) = true := by
  have lower := id.le_toInt
  have upper := id.toInt_lt
  simp only [isIntger, leadingInt_decimalInt, Bool.and_eq_true, decide_eq_true_eq]
  exact ⟨lower, upper⟩

theorem parseSuit_suitEntry {suit : MsgSuitData} (kept : Kept suit) :
    parseSuit (splitStringA (suitEntry suit) [comma]) = some suit := by
  have fields : splitStringA (suitEntry suit) [comma] = suitFields suit := by
    rw [suitEntry_eq_intercalate kept.noNul]
    apply splitStringA_intercalate
    intro field member
    have clean := suitFields_clean kept field member
    exact ⟨clean.1, clean.2.2.1⟩
  have idText : cStr (decimalInt suit.suitId.toInt) = decimalInt suit.suitId.toInt :=
    cStr_eq_self (decimalInt_clean _).2.1
  have id : atoi (decimalInt suit.suitId.toInt) = suit.suitId := by
    simp [atoi, leadingInt_decimalInt]
  rw [fields, suitFields, parseSuit, idText, if_pos (isIntger_suitId _),
    strtol_of_atoi (isIntger_suitId _), id, cStr_eq_self kept.noNul]
  obtain ⟨suitId, suitName, equipIds⟩ := suit
  simp only [List.map_map, Option.some.injEq, MsgSuitData.mk.injEq, true_and]
  rw [← List.map_id equipIds, List.map_map]
  apply List.map_congr_left
  intro e member
  exact (kept.equips e member).symm

theorem filterMap_suitEntry {suits : List MsgSuitData} (kept : ∀ suit ∈ suits, Kept suit) :
    (suits.map suitEntry).filterMap (fun str => parseSuit (splitStringA str [comma])) = suits := by
  induction suits with
  | nil => rfl
  | cons suit rest ih =>
    have later := ih fun other listed => kept other (List.mem_cons_of_mem suit listed)
    simp only [List.map_cons, List.filterMap_cons, later,
      parseSuit_suitEntry (kept suit List.mem_cons_self)]

theorem parseSuits_suitsSql {suits : List MsgSuitData} (kept : ∀ suit ∈ suits, Kept suit) :
    parseSuits ([colon].intercalate (suits.map suitEntry)) = suits := by
  have noNul : 0 ∉ [colon].intercalate (suits.map suitEntry) := by
    intro member
    rcases mem_intercalate member with same | ⟨entry, inside, found⟩
    · cases same
    · obtain ⟨suit, listed, rfl⟩ := List.mem_map.mp inside
      exact (suitEntry_clean (kept suit listed)).2.1 found
  have chunks : splitStringA ([colon].intercalate (suits.map suitEntry)) [colon] =
      suits.map suitEntry := by
    apply splitStringA_intercalate
    intro entry inside
    obtain ⟨suit, listed, rfl⟩ := List.mem_map.mp inside
    have clean := suitEntry_clean (kept suit listed)
    exact ⟨clean.1, clean.2.2⟩
  rw [parseSuits, cStr_eq_self noNul, chunks, filterMap_suitEntry kept]

/-- Which suit lists survive a save and a load. -/
theorem suits_round_trip_iff (suits : List MsgSuitData) :
    (∃ text, suitsSql suits = some text ∧ parseSuits text = suits) ↔
      ∀ suit ∈ suits, Kept suit ∧ (nameEntry suit).length < suitTempSize := by
  constructor
  · rintro ⟨text, written, read⟩ suit listed
    unfold suitsSql at written
    split at written
    · rename_i fits
      exact ⟨parseSuits_kept (read.symm ▸ listed), fits suit listed⟩
    · cases written
  · intro all
    refine ⟨_, if_pos fun suit listed => (all suit listed).2, ?_⟩
    exact parseSuits_suitsSql fun suit listed => (all suit listed).1

/-- The equip id of a suit comes back as the suit's own id. -/
theorem suits_round_trip_equip_id :
    ¬ ∃ text, suitsSql [⟨1, [97], [5]⟩] = some text ∧ parseSuits text = [⟨1, [97], [5]⟩] := by
  decide

end SuitText
