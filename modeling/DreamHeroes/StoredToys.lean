import DreamHeroes.SafeSql
import DreamHeroes.SqlRows

/- The toys of a hero in the table `character_toy`: what SaveHero writes of a toy and what
   dbDoQuerryHeroToys reads of it. -/
namespace StoredToys

open ByteWords DecimalText SuitText GameHero OrderedMaps SqlLiterals SqlRows SaveText
open SafeSql (inert_decimal inert_getTime)

/- What MySQL makes of a text for a column of date and time, none when it refuses the statement,
   and UNIX_TIMESTAMP. -/
structure MySql (DateTime : Type) where
  dateTime : Bytes → Option DateTime
  unixTimestamp : DateTime → UInt64

/- A row of `character_toy`. -/
structure TableRow (DateTime : Type) where
  toyCdKey : Bytes
  account : Bytes
  toyConfigId : Int32
  toyConfigType : Int32
  toyLevel : Int32
  verifyTime : DateTime
  deriving DecidableEq, Repr

/- The names of the columns of a result. unixTimestamp is "UNIX_TIMESTAMP(`verify_time`)". -/
inductive Column where
  | toyCdKey
  | account
  | toyConfigId
  | toyConfigType
  | toyLevel
  | verifyTime
  | unixTimestamp
  deriving DecidableEq, Repr

inductive Cell (DateTime : Type) where
  | text (bytes : Bytes)
  | int (value : Int32)
  | dateTime (value : DateTime)
  | stamp (value : UInt64)
  deriving DecidableEq, Repr

/- `select *`, which dbDoQueryHeroEquips asks, and a select of the columns by the names
   dbDoQuerryHeroToys reads them by. -/
inductive Query where
  | all
  | named
  deriving DecidableEq, Repr

variable {DateTime : Type}

/- An INT column. -/
def intColumn (v : Int) : Option Int32 :=
  if -2 ^ 31 ≤ v ∧ v < 2 ^ 31 then some (Int32.ofInt v) else none

namespace MySql

/- replace into `character_toy`(`toy_cd_key`, `account`, `toy_config_id`, `toy_config_type`,
   `toy_level`, `verify_time`) values with this row. -/
def replaceRow (mysql : MySql DateTime) (sql : Bytes) : Option (TableRow DateTime) :=
  match readRow sql with
  | some [.text toyCdKey, .text account, .number toyConfigId, .number toyConfigType,
      .number toyLevel, .text verifyTime] => do
        let toyConfigId ← intColumn toyConfigId
        let toyConfigType ← intColumn toyConfigType
        let toyLevel ← intColumn toyLevel
        let verifyTime ← mysql.dateTime verifyTime
        return ⟨toyCdKey, account, toyConfigId, toyConfigType, toyLevel, verifyTime⟩
  | _ => none

/- A row of the result. -/
def selectRow (mysql : MySql DateTime) (query : Query) (row : TableRow DateTime) :
    Column → Option (Cell DateTime)
  | .toyCdKey => some (.text row.toyCdKey)
  | .account => some (.text row.account)
  | .toyConfigId => some (.int row.toyConfigId)
  | .toyConfigType => some (.int row.toyConfigType)
  | .toyLevel => some (.int row.toyLevel)
  | .verifyTime => some (.dateTime row.verifyTime)
  | .unixTimestamp =>
      match query with
      | .all => none
      | .named => some (.stamp (mysql.unixTimestamp row.verifyTime))

end MySql

/- row["..."] throws BadFieldName when the result has no such column, and its conversions throw
   BadConversion. Nothing is sent then. -/
def numberAt (row : Column → Option (Cell DateTime)) (column : Column) : Option Int32 :=
  match row column with
  | some (.int value) => some value
  | _ => none

def textAt (row : Column → Option (Cell DateTime)) (column : Column) : Option Bytes :=
  match row column with
  | some (.text bytes) => some (cStr bytes)
  | _ => none

def stampAt (row : Column → Option (Cell DateTime)) (column : Column) : Option UInt64 :=
  match row column with
  | some (.stamp value) => some value
  | _ => none

/- The toys dbDoQuerryHeroToys puts into the MsgHeroDataDB2GS it sends. -/
def toyOf (row : Column → Option (Cell DateTime)) : Option MsgToyData := do
  let timeStamp ← stampAt row .unixTimestamp
  let toyCdKey ← textAt row .toyCdKey
  let toyConfigId ← numberAt row .toyConfigId
  let toyConfigType ← numberAt row .toyConfigType
  let toyLevel ← numberAt row .toyLevel
  return ⟨toyCdKey, timeStamp, ⟨toyConfigId, toyConfigType, toyLevel⟩⟩

def dbDoQuerryHeroToys (result : List (Column → Option (Cell DateTime))) :
    Option (List MsgToyData) :=
  result.mapM toyOf

/-- What is loaded of a toy that SaveHero has written. -/
def savedAndLoaded (mysql : MySql DateTime) (clock : Clock) (query : Query) (account : Account)
    (toy : MsgToyData) : Option (List MsgToyData) :=
  (mysql.replaceRow (write (toyRow clock account (cutToy toy)))).bind fun row =>
    dbDoQuerryHeroToys [mysql.selectRow query row]

/-- The text of a local time. -/
def dateText (year mon mday hour min sec : Int) : Bytes :=
  decimalInt year ++ ascii "-" ++ decimalInt mon ++ ascii "-" ++ decimalInt mday ++ ascii " " ++
    decimalInt hour ++ ascii ":" ++ decimalInt min ++ ascii ":" ++ decimalInt sec

def localText (cur : Tm) : Bytes :=
  dateText (cur.year.toInt + 1900) (cur.mon.toInt + 1) cur.mday.toInt cur.hour.toInt
    cur.min.toInt cur.sec.toInt

/-- The time UNIX_TIMESTAMP gives of a stored text. -/
def MySql.stored (mysql : MySql DateTime) (text : Bytes) : Option UInt64 :=
  (mysql.dateTime text).map mysql.unixTimestamp

/-- UNIX_TIMESTAMP inverts localtime: it gives a time only for the text of its own local time,
    and zero for a date that does not exist. -/
def InvertsLocaltime (mysql : MySql DateTime) (clock : Clock) : Prop :=
  ∀ (year mon mday hour min sec : Int) (t : UInt64), t ≠ 0 →
    mysql.stored (dateText year mon mday hour min sec) = some t →
      dateText year mon mday hour min sec = localText (clock.localtime t.toInt64.toInt)

variable {mysql : MySql DateTime} {clock : Clock} {account : Account} {toy : MsgToyData}

def toyValues (clock : Clock) (account : Account) (toy : MsgToyData) : List Value :=
  [.text toy.toyCdKey, .text (decimal account), .number toy.toy.toyConfigId.toInt,
    .number toy.toy.toyConfigType.toInt, .number toy.toy.toyLevel.toInt,
    .text (getTime clock toy.timeStamp)]

/-- The text of a toy is that of a row with its six values. -/
theorem write_toyRow (clock : Clock) (account : Account) (toy : MsgToyData) :
    write (toyRow clock account toy) = rowText (toyValues clock account toy) := by
  have opening : ascii "(" = [SqlRows.opening] := by decide
  have gap : ascii ", " = [SqlRows.comma, blank] := by decide
  have close : ascii ")" = [closing] := by decide
  simp [toyRow, write, rowText, toyValues, valueText, opening, gap, close,
    List.intercalate_cons_cons]

theorem intColumn_toInt (v : Int32) : intColumn v.toInt = some v := by
  have lower := v.le_toInt
  have upper := v.toInt_lt
  rw [intColumn, if_pos ⟨lower, upper⟩, Int32.ofInt_toInt]

theorem toyValues_literal (clock : Clock) (account : Account) (noQuote : quote ∉ toy.toyCdKey)
    (noEscape : backslash ∉ toy.toyCdKey) :
    ∀ value ∈ toyValues clock account (cutToy toy), Literal value := by
  have front : cStr toy.toyCdKey ⊆ toy.toyCdKey := (List.takeWhile_prefix _).subset
  have key : clean (cStr toy.toyCdKey) = true :=
    clean_of_absent (fun member => noQuote (front member)) fun member => noEscape (front member)
  simp only [toyValues, List.forall_mem_cons, Literal]
  exact ⟨key, (inert_decimal account).clean, trivial, trivial, trivial,
    (inert_getTime clock toy.timeStamp).clean, List.forall_mem_nil _⟩

/-- The row that is stored holds the toy, with the text of its time as MySQL takes it. -/
theorem replaceRow_toy (noQuote : quote ∉ toy.toyCdKey) (noEscape : backslash ∉ toy.toyCdKey) :
    mysql.replaceRow (write (toyRow clock account (cutToy toy))) =
      (mysql.dateTime (getTime clock toy.timeStamp)).map fun verifyTime =>
        ⟨cStr toy.toyCdKey, decimal account, toy.toy.toyConfigId, toy.toy.toyConfigType,
          toy.toy.toyLevel, verifyTime⟩ := by
  have values := readRow_rowText (toyValues_literal clock account noQuote noEscape)
    (List.cons_ne_nil _ _)
  rw [write_toyRow, MySql.replaceRow, values]
  simp only [toyValues, cutToy, intColumn_toInt]
  cases mysql.dateTime (getTime clock toy.timeStamp) <;> rfl

/-- Of `select *` nothing is loaded: its result has no column UNIX_TIMESTAMP(`verify_time`). -/
theorem savedAndLoaded_all : savedAndLoaded mysql clock .all account toy = none := by
  rw [savedAndLoaded]
  cases mysql.replaceRow (write (toyRow clock account (cutToy toy))) with
  | none => rfl
  | some row => rfl

/-- Of a select with that column everything comes back but the time, which is that of the text. -/
theorem savedAndLoaded_named (noQuote : quote ∉ toy.toyCdKey)
    (noEscape : backslash ∉ toy.toyCdKey) :
    savedAndLoaded mysql clock .named account toy =
      (mysql.stored (getTime clock toy.timeStamp)).map fun timeStamp =>
        [{ cutToy toy with timeStamp := timeStamp }] := by
  rw [savedAndLoaded, replaceRow_toy noQuote noEscape, MySql.stored]
  cases mysql.dateTime (getTime clock toy.timeStamp) with
  | none => rfl
  | some verifyTime =>
    have cut : cStr (cStr toy.toyCdKey) = cStr toy.toyCdKey := cStr_eq_self (cStr_no_nul _)
    simp [dbDoQuerryHeroToys, toyOf, MySql.selectRow, stampAt, textAt, numberAt, cut, cutToy]

/-- get_time prints the day after the local time, and not a date when a month ends. -/
theorem timeText_next_day (cur : Tm) :
    timeText cur = dateText (cur.year.toInt + 1900) (cur.mon.toInt + 1) (cur.mday.toInt + 1)
      cur.hour.toInt cur.min.toInt cur.sec.toInt := rfl

example : timeText ⟨124, 0, 31, 10, 0, 0⟩ = ascii "2024-1-32 10:0:0" := by decide +kernel

theorem dateText_mday {year mon mday mday' hour min sec : Int}
    (same : dateText year mon mday hour min sec = dateText year mon mday' hour min sec) :
    mday = mday' := by
  simp only [dateText, List.append_assoc, List.append_cancel_left_eq,
    List.append_cancel_right_eq] at same
  exact decimalInt_injective same

/-- No toy comes back as it was saved. With the select the code has nothing comes back, and with
    the one it is written for another time does. -/
theorem toy_never_back (query : Query) (inverts : InvertsLocaltime mysql clock)
    (timed : toy.timeStamp ≠ 0) (noQuote : quote ∉ toy.toyCdKey)
    (noEscape : backslash ∉ toy.toyCdKey) :
    savedAndLoaded mysql clock query account toy ≠ some [toy] := by
  cases query with
  | all =>
    rw [savedAndLoaded_all]
    exact (Option.some_ne_none _).symm
  | named =>
    rw [savedAndLoaded_named noQuote noEscape]
    intro back
    obtain ⟨timeStamp, stored, same⟩ := Option.map_eq_some_iff.mp back
    have stamp : timeStamp = toy.timeStamp :=
      congrArg MsgToyData.timeStamp (List.cons.inj same).1
    rw [stamp, getTime, if_neg timed, timeText_next_day] at stored
    have day := dateText_mday (inverts _ _ _ _ _ _ _ timed stored)
    omega

/-- A machine and a MySQL on two days of a November. -/
def novemberClock : Clock where
  time := 0
  localtime := fun t => ⟨123, 10, if t = 1700000000 then 14 else 15, 22, 13, 20⟩

def november : MySql UInt64 where
  dateTime := fun text =>
    if text = ascii "2023-11-14 22:13:20" then some 1700000000
    else if text = ascii "2023-11-15 22:13:20" then some 1700086400
    else none
  unixTimestamp := id

theorem november_inverts : InvertsLocaltime november novemberClock := by
  intro year mon mday hour min sec t _ stored
  simp only [MySql.stored, november] at stored
  split at stored
  · rename_i same
    cases stored
    rw [same]
    decide +kernel
  · split at stored
    · rename_i same
      cases stored
      rw [same]
      decide +kernel
    · cases stored

theorem november_toy_never_back :
    savedAndLoaded november novemberClock .named 7 ⟨[107], 1700000000, ⟨1, 2, 3⟩⟩ ≠
      some [⟨[107], 1700000000, ⟨1, 2, 3⟩⟩] :=
  toy_never_back .named november_inverts (by decide) (by decide) (by decide)

/-- The code's own select loads nothing, and one with the time loads the toy of the next day. -/
theorem november_toy_lost :
    savedAndLoaded november novemberClock .all 7 ⟨[107], 1700000000, ⟨1, 2, 3⟩⟩ = none ∧
      savedAndLoaded november novemberClock .named 7 ⟨[107], 1700000000, ⟨1, 2, 3⟩⟩ =
        some [⟨[107], 1700086400, ⟨1, 2, 3⟩⟩] := by
  decide +kernel

end StoredToys
