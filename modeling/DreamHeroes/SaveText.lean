import DreamHeroes.GameHero
import DreamHeroes.SqlLiterals

/- The SQL text the servers print into fixed buffers: SaveHero on the game server, the lookup and
   the update of a toy on the database server. -/
namespace SaveText

open ByteWords DecimalText SuitText GameHero OrderedMaps SqlLiterals

def ascii (s : String) : Bytes := s.toList.map fun c => c.toNat.toUInt8

/- struct tm -/
structure Tm where
  year : Int32
  mon : Int32
  mday : Int32
  hour : Int32
  min : Int32
  sec : Int32
  deriving DecidableEq, Repr

/- time and localtime of the machine. -/
structure Clock where
  time : Int
  localtime : Int → Tm

/- The text of get_time. It prints tm_mday + 1, although tm_mday counts from 1. -/
def timeText (cur : Tm) : Bytes :=
  decimalInt (cur.year.toInt + 1900) ++ ascii "-" ++ decimalInt (cur.mon.toInt + 1) ++
    ascii "-" ++ decimalInt (cur.mday.toInt + 1) ++ ascii " " ++ decimalInt cur.hour.toInt ++
    ascii ":" ++ decimalInt cur.min.toInt ++ ascii ":" ++ decimalInt cur.sec.toInt

def getTime (clock : Clock) (curTime : UInt64) : Bytes :=
  timeText (clock.localtime (if curTime = 0 then clock.time else curTime.toInt64.toInt))

def characterSlots (row : CharacterRow) : List Slot :=
  [.code (ascii "replace into `character`(`account_id`, `level`, `name`,`action_point`, " ++
      ascii "`diamand`, `gold`, `suits_name`) values(" ++ decimal row.accountId ++ ascii ", " ++
      decimalInt row.level.toInt32.toInt ++ ascii ", "),
    .text row.name,
    .code (ascii ", " ++ decimalInt row.actionPoint.toInt ++ ascii ", " ++
      decimalInt row.diamand.toInt ++ ascii ", " ++ decimalInt row.gold.toInt ++ ascii ", "),
    .text row.suitsName,
    .code (ascii ")")]

def equipRow (equip : MsgEquipData) (account : Account) : Bytes :=
  ascii "(" ++ decimal equip.id ++ ascii ", " ++ decimal account ++ ascii ", " ++
    decimalInt equip.equipId.toInt ++ ascii ", " ++ decimalInt equip.level.toInt ++ ascii ", " ++
    decimal equip.equipped.toNat ++ ascii ", " ++ decimalInt equip.clientSaveFlag.toInt ++
    ascii ", " ++ decimalInt equip.count.toInt ++ ascii ")"

def equipPiece : EquipPiece → Bytes
  | .head => ascii "replace into `character_equip`(`equip_id`, `account_id`, `equip_config_id`, " ++
      ascii "`level`, `equipped`, `client_save_flag`,`equip_count`) values"
  | .comma => ascii ","
  | .row equip account => equipRow equip account

def toyRow (clock : Clock) (account : Account) (toy : MsgToyData) : List Slot :=
  [.code (ascii "("), .text toy.toyCdKey, .code (ascii ", "), .text (decimal account),
    .code (ascii ", " ++ decimalInt toy.toy.toyConfigId.toInt ++ ascii ", " ++
      decimalInt toy.toy.toyConfigType.toInt ++ ascii ", " ++ decimalInt toy.toy.toyLevel.toInt ++
      ascii ", "),
    .text (getTime clock toy.timeStamp), .code (ascii ")")]

def toysHead : Bytes :=
  ascii "replace into `character_toy`(`toy_cd_key`, `account`, `toy_config_id`, " ++
    ascii "`toy_config_type`, `toy_level`, `verify_time`) values"

def statementSlots (clock : Clock) : SaveStatement → List Slot
  | .character row => characterSlots row
  | .equips pieces => [.code (pieces.flatMap equipPiece)]
  | .toys _ [] => []
  | .toys account (toy :: rest) =>
      .code toysHead :: toyRow clock account toy ++
        rest.flatMap fun toy => .code (ascii ",") :: toyRow clock account toy

/-- What c_str leaves of a toy's cd key. -/
def cutToy (toy : MsgToyData) : MsgToyData := { toy with toyCdKey := cStr toy.toyCdKey }

/-- The statement as it is printed. The row of the character is made of printed texts already. -/
def printed : SaveStatement → SaveStatement
  | .character row => .character row
  | .equips pieces => .equips pieces
  | .toys account toys => .toys account (toys.map cutToy)

/- A sprintf: the size of its buffer and the text it prints, which a zero byte follows. -/
structure Sprintf where
  size : Nat
  text : Bytes

def Sprintf.fits (sprintf : Sprintf) : Prop := sprintf.text.length < sprintf.size

instance (sprintf : Sprintf) : Decidable sprintf.fits := Nat.decLt _ _

def tempSize : Nat := 2048
def toyTempSize : Nat := 512
def verifySqlSize : Nat := 256
def updateSqlSize : Nat := 512

def suitsText (suits : List MsgSuitData) : Bytes := [colon].intercalate (suits.map suitEntry)

def characterRow (hero : DreamHero) : CharacterRow :=
  let info := hero.info
  ⟨info.account, info.level, cStr info.name, info.actionPoint, info.diamand, info.gold,
    suitsText info.suits⟩

def suitSprintfs (suit : MsgSuitData) : List Sprintf :=
  ⟨suitTempSize, nameEntry suit⟩ ::
    suit.equipIds.map fun equipId => ⟨suitTempSize, decimal equipId.toNat⟩

/- Every sprintf of SaveHero. -/
def saveSprintfs (clock : Clock) (hero : DreamHero) : List Sprintf :=
  hero.info.suits.flatMap suitSprintfs ++
    ⟨tempSize, write (characterSlots (characterRow hero))⟩ ::
      ((hero.heroEquips.entries.map fun entry =>
          (⟨tempSize, equipRow entry.2 hero.info.account⟩ : Sprintf)) ++
        hero.heroToys.entries.map fun entry =>
          ⟨toyTempSize, write (toyRow clock hero.account (cutToy entry.2))⟩)

/- The statements SaveHero sends, none when a sprintf runs over its buffer. -/
def saveSql (clock : Clock) (hero : DreamHero) : Option (List Bytes) :=
  if ∀ sprintf ∈ saveSprintfs clock hero, sprintf.fits then
    hero.saveStatements.map fun statements =>
      statements.map fun statement => write (statementSlots clock (printed statement))
  else none

def verifySlots (cdkey : CdKey) : List Slot :=
  [.code (ascii "select * from `character_toy` where `toy_cd_key`="), .text cdkey,
    .code (ascii ";")]

def updateSlots (clock : Clock) (serverTime : UInt64) (account : Account) (cdkey : CdKey) :
    List Slot :=
  [.code (ascii "update set `account`=" ++ decimal account ++ ascii ", `verify_time`="),
    .text (getTime clock serverTime), .code (ascii " where `toy_cd_key`="), .text cdkey]

/- verifyToyCDKey. -/
def verifySprintf (cdkey : CdKey) : Sprintf := ⟨verifySqlSize, write (verifySlots (cStr cdkey))⟩

/- dbDoQuerryToyVerify. -/
def updateSprintf (clock : Clock) (serverTime : UInt64) (account : Account) (cdkey : CdKey) :
    Sprintf :=
  ⟨updateSqlSize, write (updateSlots clock serverTime account (cStr cdkey))⟩

def verifySql (cdkey : CdKey) : Option Bytes :=
  if (verifySprintf cdkey).fits then some (verifySprintf cdkey).text else none

/-- How many bytes a number takes. -/
def digits (v : Int) : Nat := (decimalInt v).length

def nameWidth (suit : MsgSuitData) : Nat :=
  digits suit.suitId.toInt + 1 + (cStr suit.suitName).length

def entryWidth (suit : MsgSuitData) : Nat :=
  nameWidth suit + (suit.equipIds.map fun equipId => 1 + digits equipId.toNat).sum

def suitsWidth (suits : List MsgSuitData) : Nat := (suits.map entryWidth).sum + (suits.length - 1)

/-- The row of the character without its suits. -/
def baseWidth (info : MsgHeroData) : Nat :=
  128 + digits info.account + digits info.level.toInt32.toInt + (cStr info.name).length +
    digits info.actionPoint.toInt + digits info.diamand.toInt + digits info.gold.toInt

def characterWidth (info : MsgHeroData) : Nat := baseWidth info + suitsWidth info.suits

def equipWidth (account : Account) (equip : MsgEquipData) : Nat :=
  14 + digits equip.id + digits account + digits equip.equipId.toInt + digits equip.level.toInt +
    digits equip.equipped.toNat + digits equip.clientSaveFlag.toInt + digits equip.count.toInt

def toyWidth (clock : Clock) (account : Account) (toy : MsgToyData) : Nat :=
  18 + (cStr toy.toyCdKey).length + digits account + digits toy.toy.toyConfigId.toInt +
    digits toy.toy.toyConfigType.toInt + digits toy.toy.toyLevel.toInt +
    (getTime clock toy.timeStamp).length

/-- What the hero holds is short enough for the buffers of SaveHero. -/
structure SaveFits (clock : Clock) (hero : DreamHero) : Prop where
  names : ∀ suit ∈ hero.info.suits, nameWidth suit < suitTempSize
  character : characterWidth hero.info < tempSize
  equips : ∀ entry ∈ hero.heroEquips.entries, equipWidth hero.info.account entry.2 < tempSize
  toys : ∀ entry ∈ hero.heroToys.entries, toyWidth clock hero.account entry.2 < toyTempSize

def verifyWidth (cdkey : CdKey) : Nat := 52 + (cStr cdkey).length

def updateWidth (clock : Clock) (serverTime : UInt64) (account : Account) (cdkey : CdKey) : Nat :=
  61 + digits account + (getTime clock serverTime).length + (cStr cdkey).length

variable {clock : Clock} {hero : DreamHero} {suits : List MsgSuitData} {account : Account}

theorem decimal_length (n : Nat) : (decimal n).length = digits n := by
  have positive : ¬ (n : Int) < 0 := by omega
  rw [digits, decimalInt, if_neg positive, Int.natAbs_natCast]

theorem decimal_length_le {n k : Nat} (positive : 0 < k) (small : n < 10 ^ k) :
    (decimal n).length ≤ k := by
  rw [decimal, List.length_map, Nat.length_toDigits_le_iff (by decide) positive]
  exact small

theorem digits_le {v : Int} {k : Nat} (positive : 0 < k) (small : v.natAbs < 10 ^ k) :
    digits v ≤ k + 1 := by
  have short := decimal_length_le positive small
  rw [digits, decimalInt]
  split
  · exact Nat.succ_le_succ short
  · omega

theorem digits_uint64 (v : UInt64) : digits v.toNat ≤ 20 := by
  have bound := v.toNat_lt
  rw [← decimal_length]
  exact decimal_length_le (by decide) (by omega)

theorem digits_int32 (v : Int32) (offset : Nat) (small : offset ≤ 1900) :
    digits (v.toInt + offset) ≤ 11 := by
  have lower := v.le_toInt
  have upper := v.toInt_lt
  exact digits_le (k := 10) (by decide) (by omega)

/-- A printed time takes 71 bytes at most. -/
theorem getTime_length (clock : Clock) (curTime : UInt64) :
    (getTime clock curTime).length ≤ 71 := by
  let cur := clock.localtime (if curTime = 0 then clock.time else curTime.toInt64.toInt)
  have year := digits_int32 cur.year 1900 (by decide)
  have mon := digits_int32 cur.mon 1 (by decide)
  have mday := digits_int32 cur.mday 1 (by decide)
  have hour := digits_int32 cur.hour 0 (by decide)
  have minute := digits_int32 cur.min 0 (by decide)
  have sec := digits_int32 cur.sec 0 (by decide)
  have dash : (ascii "-").length = 1 := by decide
  have blank : (ascii " ").length = 1 := by decide
  have stop : (ascii ":").length = 1 := by decide
  have text : getTime clock curTime = timeText cur := rfl
  simp only [digits, Nat.cast_zero, Int.add_zero, Nat.cast_ofNat, Nat.cast_one]
    at year mon mday hour minute sec
  simp only [text, timeText, List.length_append, dash, blank, stop]
  omega

theorem nameEntry_length (suit : MsgSuitData) : (nameEntry suit).length = nameWidth suit := by
  simp only [nameEntry, nameWidth, digits, List.length_append, List.length_cons, List.length_nil]

theorem suitEntry_length (suit : MsgSuitData) : (suitEntry suit).length = entryWidth suit := by
  simp only [suitEntry, entryWidth, List.length_append, nameEntry_length, List.length_flatMap,
    List.length_cons, decimal_length, Nat.add_comm]

theorem suitsText_length (suits : List MsgSuitData) :
    (suitsText suits).length = suitsWidth suits := by
  induction suits with
  | nil => rfl
  | cons suit rest ih =>
    cases rest with
    | nil => simp [suitsText, suitsWidth, suitEntry_length]
    | cons next rest =>
      simp only [suitsText, suitsWidth, List.map_cons, List.intercalate_cons_cons,
        List.length_append, List.length_cons, List.length_nil, List.sum_cons, suitEntry_length]
        at ih ⊢
      omega

theorem ascii_length (chars : List Char) : (ascii (String.ofList chars)).length = chars.length := by
  rw [ascii, String.toList_ofList, List.length_map]

theorem signs_length : (ascii "(").length = 1 ∧ (ascii ", ").length = 2 ∧ (ascii ")").length = 1 :=
  ⟨ascii_length ['('], ascii_length [',', ' '], ascii_length [')']⟩

theorem character_length (hero : DreamHero) :
    (write (characterSlots (characterRow hero))).length = characterWidth hero.info := by
  have head : (ascii "replace into `character`(`account_id`, `level`, `name`,`action_point`, ").length
      = 71 := ascii_length _
  have columns : (ascii "`diamand`, `gold`, `suits_name`) values(").length = 40 := ascii_length _
  simp only [write, characterSlots, characterRow, characterWidth, baseWidth, List.length_append, head,
    columns, signs_length, List.length_cons, List.length_nil, decimal_length, suitsText_length,
    digits]
  omega

theorem equipRow_length (equip : MsgEquipData) (account : Account) :
    (equipRow equip account).length = equipWidth account equip := by
  simp only [equipRow, equipWidth, List.length_append, signs_length, decimal_length, digits]
  omega

theorem toyRow_length (clock : Clock) (account : Account) (toy : MsgToyData) :
    (write (toyRow clock account (cutToy toy))).length = toyWidth clock account toy := by
  simp only [write, toyRow, cutToy, toyWidth, List.length_append, List.length_cons,
    List.length_nil, signs_length, decimal_length, digits]
  omega

theorem verify_fits_iff (cdkey : CdKey) :
    (verifySprintf cdkey).fits ↔ verifyWidth cdkey < verifySqlSize := by
  have head : (ascii "select * from `character_toy` where `toy_cd_key`=").length = 49 :=
    ascii_length _
  have close : (ascii ";").length = 1 := ascii_length _
  simp only [Sprintf.fits, verifySprintf, write, verifySlots, verifyWidth, List.length_append,
    List.length_cons, List.length_nil, head, close]
  omega

theorem update_fits_iff (clock : Clock) (serverTime : UInt64) (account : Account)
    (cdkey : CdKey) : (updateSprintf clock serverTime account cdkey).fits ↔
      updateWidth clock serverTime account cdkey < updateSqlSize := by
  have head : (ascii "update set `account`=").length = 21 := ascii_length _
  have column : (ascii ", `verify_time`=").length = 16 := ascii_length _
  have key : (ascii " where `toy_cd_key`=").length = 20 := ascii_length _
  simp only [Sprintf.fits, updateSprintf, write, updateSlots, updateWidth, List.length_append,
    List.length_cons, List.length_nil, head, column, key, decimal_length]
  omega

theorem suitSprintfs_fit_iff (suit : MsgSuitData) :
    (∀ sprintf ∈ suitSprintfs suit, sprintf.fits) ↔ nameWidth suit < suitTempSize := by
  rw [suitSprintfs, List.forall_mem_cons, Sprintf.fits, nameEntry_length]
  apply and_iff_left
  intro sprintf member
  obtain ⟨equipId, _, rfl⟩ := List.mem_map.mp member
  have short := digits_uint64 equipId
  simp only [Sprintf.fits, decimal_length, suitTempSize]
  omega

theorem save_fits_iff (clock : Clock) (hero : DreamHero) :
    (∀ sprintf ∈ saveSprintfs clock hero, sprintf.fits) ↔ SaveFits clock hero := by
  rw [saveSprintfs, List.forall_mem_append, List.forall_mem_flatMap, List.forall_mem_cons,
    List.forall_mem_append, List.forall_mem_map, List.forall_mem_map]
  simp only [suitSprintfs_fit_iff]
  simp only [Sprintf.fits, character_length, equipRow_length, toyRow_length]
  constructor
  · rintro ⟨names, character, equips, toys⟩
    exact ⟨names, character, equips, toys⟩
  · intro fits
    exact ⟨fits.names, fits.character, fits.equips, fits.toys⟩

end SaveText
