import DreamHeroes.SavedRows
import DreamHeroes.SqlTuples
import DreamHeroes.StoredToys

/- The tables of the character database, and what the statements of SaveHero make of them when
   MySQL executes them in order. -/
namespace StoredHeroes

open ByteWords DecimalText GameHero OrderedMaps SqlLiterals SqlRows SqlTuples SaveText
open SuitText hiding comma
open SavedRows (saveRows equipTexts toyTexts statement tuples Piece)
open StoredToys (MySql intColumn)

/- A row of `character_equip`. -/
structure EquipRow where
  equipId : EquipId
  accountId : Account
  equipConfigId : Int32
  level : Int32
  equipped : Int32
  clientSaveFlag : Int32
  equipCount : Int32
  deriving DecidableEq, Repr

variable {DateTime : Type}

/- The keys by which a row is replaced are account_id, equip_id and toy_cd_key. -/
structure Tables (DateTime : Type) where
  character : Account → Option CharacterRow
  equip : EquipId → Option EquipRow
  toy : CdKey → Option (StoredToys.TableRow DateTime)

/- A BIGINT UNSIGNED column. -/
def idColumn (v : Int) : Option Nat := if 0 ≤ v ∧ v < 2 ^ 64 then some v.toNat else none

def characterHead : Bytes :=
  ascii "replace into `character`(`account_id`, `level`, `name`,`action_point`, " ++
    ascii "`diamand`, `gold`, `suits_name`) values"

def equipHead : Bytes := SaveText.equipPiece .head

/- level is an INT column that the database server reads as an unsigned number. -/
def characterOf : List Value → Option CharacterRow
  | [.number accountId, .number level, .text name, .number actionPoint, .number diamand,
      .number gold, .text suitsName] => do
        let accountId ← idColumn accountId
        let level ← intColumn level
        let actionPoint ← intColumn actionPoint
        let diamand ← intColumn diamand
        let gold ← intColumn gold
        return ⟨accountId, level.toUInt32, name, actionPoint, diamand, gold, suitsName⟩
  | _ => none

def equipOf : List Value → Option EquipRow
  | [.number equipId, .number accountId, .number equipConfigId, .number level, .number equipped,
      .number clientSaveFlag, .number equipCount] => do
        let equipId ← idColumn equipId
        let accountId ← idColumn accountId
        let equipConfigId ← intColumn equipConfigId
        let level ← intColumn level
        let equipped ← intColumn equipped
        let clientSaveFlag ← intColumn clientSaveFlag
        let equipCount ← intColumn equipCount
        return ⟨equipId, accountId, equipConfigId, level, equipped, clientSaveFlag, equipCount⟩
  | _ => none

def toyOf (mysql : MySql DateTime) : List Value → Option (StoredToys.TableRow DateTime)
  | [.text toyCdKey, .text account, .number toyConfigId, .number toyConfigType,
      .number toyLevel, .text verifyTime] => do
        let toyConfigId ← intColumn toyConfigId
        let toyConfigType ← intColumn toyConfigType
        let toyLevel ← intColumn toyLevel
        let verifyTime ← mysql.dateTime verifyTime
        return ⟨toyCdKey, account, toyConfigId, toyConfigType, toyLevel, verifyTime⟩
  | _ => none

/-- The rows of a statement with this head, none when it is refused. -/
def rowsBehind {Row : Type} (head : Bytes) (rowOf : List Value → Option Row) (sql : Bytes) :
    Option (List Row) :=
  if head.isPrefixOf sql then
    let rest := sql.drop head.length
    (readTuples rest.length rest).bind (·.mapM rowOf)
  else none

def replaceRows {Key Row : Type} [DecidableEq Key] (key : Row → Key) (table : Key → Option Row) :
    List Row → Key → Option Row
  | [] => table
  | row :: rest => replaceRows key (Function.update table (key row) (some row)) rest

/- A statement that is refused leaves the tables as they are. -/
def execute (mysql : MySql DateTime) (tables : Tables DateTime) (sql : Bytes) : Tables DateTime :=
  match rowsBehind characterHead characterOf sql with
  | some rows => { tables with character := replaceRows (·.accountId) tables.character rows }
  | none =>
      match rowsBehind equipHead equipOf sql with
      | some rows => { tables with equip := replaceRows (·.equipId) tables.equip rows }
      | none =>
          match rowsBehind toysHead (toyOf mysql) sql with
          | some rows => { tables with toy := replaceRows (·.toyCdKey) tables.toy rows }
          | none => tables

variable {mysql : MySql DateTime} {tables : Tables DateTime} {clock : Clock} {hero : DreamHero}
  {account : Account} {equip : MsgEquipData} {equips : List MsgEquipData}

theorem sign_bytes : ascii "(" = [opening] ∧ ascii ", " = [comma, blank] ∧
    ascii ")" = [closing] ∧ ascii "," = [comma] := by
  decide

variable {Row : Type} {head other : Bytes} {rowOf : List Value → Option Row}
  {rows : List (List Value)} {later : Bytes} {b : UInt8}

variable {Key : Type} [DecidableEq Key] {keyOf : Row → Key} {table : Key → Option Row}
  {stored : List Row} {row : Row} {key : Key}

/-- Rows stay under their keys. -/
theorem replaceRows_keyed (filed : ∀ key row, table key = some row → keyOf row = key)
    (found : replaceRows keyOf table stored key = some row) : keyOf row = key := by
  induction stored generalizing table with
  | nil => exact filed key row found
  | cons first rest ih =>
    refine ih ?_ found
    intro other row here
    rw [Function.update_apply] at here
    split at here
    · rename_i same
      cases here
      exact same.symm
    · exact filed other row here

end StoredHeroes
