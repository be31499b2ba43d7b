import Mathlib.Data.List.Lex
import Mathlib.Algebra.Order.Ring.Int
import DreamHeroes.ObjMap
import DreamHeroes.SuitText

/- A hero in the memory of the game server: what it holds, how requests change it, what it
   tells its client and the statements that save it. -/
namespace GameHero

open ByteWords OrderedMaps ObjMap SuitText

abbrev Account := Nat
abbrev EquipId := Nat
abbrev CdKey := Bytes
abbrev SessionPtr := Nat
abbrev HeroPtr := Nat

inductive HeroErrorCode where
  | noError
  | serverErrorNoSuitId
  | toyCdKeyAlreadyVerify
  | toyCdKeyHaveBeenInUsed
  | equipLevelUpNotEnoughGold
  | equipLevelUpNotEnoughDiamand
  | equipLevelUpNotFoundEquip
  | equipLevelUpNotFoundConfig
  | equipLevelUpNotEnoughEquip
  deriving DecidableEq, Repr

structure MsgHeroData where
  account : Account
  level : UInt32
  name : Bytes
  actionPoint : Int32
  diamand : Int32
  gold : Int32
  suits : List MsgSuitData
  deriving DecidableEq, Repr

structure MsgEquipData where
  id : EquipId
  equipId : Int32
  level : Int32
  equipped : Bool
  clientSaveFlag : Int32
  count : Int32
  deriving DecidableEq, Repr

structure MsgToyBaseData where
  toyConfigId : Int32
  toyConfigType : Int32
  toyLevel : Int32
  deriving DecidableEq, Repr

structure MsgToyData where
  toyCdKey : CdKey
  timeStamp : UInt64
  toy : MsgToyBaseData
  deriving DecidableEq, Repr

structure MsgHeroDataDB2GS where
  account : Account
  data : MsgHeroData
  equips : List MsgEquipData
  toys : List MsgToyData
  deriving DecidableEq, Repr

structure HeroEquipConfig where
  equipConfigId : Int32
  equipLevel : Int32
  equipCount : Int32
  deriving DecidableEq, Repr

structure HeroConfig where
  gold : Int32
  diamond : Int32
  level : Int32
  equips : List HeroEquipConfig
  suitsName : OrderedMap Int Bytes

/- A history variable: CreateHero fills a new hero from the config or from the database. -/
inductive FilledBy where
  | config
  | database
  deriving DecidableEq, Repr

/- CreateHero hands every hero a session at once and nothing sets the pointer to null, so
   session is a plain pointer. saving says that the save timer is armed. -/
structure DreamHero where
  info : MsgHeroData
  heroEquips : OrderedMap EquipId MsgEquipData
  heroToys : OrderedMap CdKey MsgToyData
  account : Account
  session : SessionPtr
  online : Bool
  saving : Bool
  filledBy : FilledBy

structure S2CMsgHeroEquip where
  equips : List MsgEquipData
  atEnd : Bool
  atBegin : Bool
  deriving DecidableEq, Repr

/- equipInit carries what the receiver sees: nothing when the has-bit of equip is not set. -/
inductive ClientMessage where
  | heroInit (hero : MsgHeroData)
  | equipInit (equip : Option S2CMsgHeroEquip)
  | toyInit (toys : List MsgToyBaseData)
  | modifySuitNameACK (suitId : Int32) (suitName : Bytes)
  | modifySuitErrorACK (suitId : Int32) (error : HeroErrorCode)
  | modifySuitACK (suitId : Int32) (error : HeroErrorCode)
  | delSuitACK (suitId : Int32) (error : HeroErrorCode)
  | verifyToyCDKeyACK (toyData : MsgToyData)
  | verifyToyCDKeyErrorACK (cdKey : CdKey) (error : HeroErrorCode)
  deriving DecidableEq, Repr

namespace DreamHero

def testName : Bytes := [116, 101, 115, 116]

def new (session : SessionPtr) (account : Account) (filledBy : FilledBy) : DreamHero where
  info := ⟨account, 1, testName, 0, 0, 0, []⟩
  heroEquips := .empty
  heroToys := .empty
  account := account
  session := session
  online := false
  saving := false
  filledBy := filledBy

def setAccount (hero : DreamHero) (account : Account) : DreamHero :=
  { hero with account := account, info := { hero.info with account := account } }

/- std::map::insert keeps the entry that is there. -/
def setInfo (hero : DreamHero) (info : MsgHeroDataDB2GS) : DreamHero :=
  { hero with
    info := info.data
    heroToys := info.toys.foldl (fun m toy => addData m toy.toyCdKey toy) hero.heroToys
    heroEquips := info.equips.foldl (fun m equip => addData m equip.id equip) hero.heroEquips }

/-- The equips of a new hero with the ids drawn for them, and the last id drawn. -/
def configEquips : List HeroEquipConfig → Nat → OrderedMap EquipId MsgEquipData →
    OrderedMap EquipId MsgEquipData × Nat
  | [], generateId, m => (m, generateId)
  | entry :: rest, generateId, m =>
      let id := (generateId + 1) % 2 ^ 64
      configEquips rest id
        (m.insert id ⟨id, entry.equipConfigId, entry.equipLevel, true, 0, entry.equipCount⟩)

def loadFromConfig (hero : DreamHero) (config : HeroConfig) (generateId : Nat) :
    DreamHero × Nat :=
  let filled := configEquips config.equips generateId hero.heroEquips
  let suits := config.suitsName.entries.map fun entry =>
    (⟨Int32.ofInt entry.1, cStr entry.2, []⟩ : MsgSuitData)
  ({ hero with
    info := { hero.info with
      diamand := config.diamond
      level := config.level.toUInt32
      gold := config.gold
      suits := hero.info.suits ++ suits }
    heroEquips := filled.1 }, filled.2)

def modifySuit (hero : DreamHero) (suitData : MsgSuitData) : DreamHero × ClientMessage :=
  let suits := hero.info.suits
  let modified :=
    if suits.any (·.suitId = suitData.suitId) then
      suits.map fun suit => if suit.suitId = suitData.suitId then suitData else suit
    else suits ++ [suitData]
  ({ hero with info := { hero.info with suits := modified } },
    .modifySuitACK suitData.suitId .noError)

/-- The suits with the first one of the id renamed. -/
def renameSuit (suitConfig : Int32) (name : Bytes) : List MsgSuitData → Option (List MsgSuitData)
  | [] => none
  | suit :: rest =>
      if suit.suitId = suitConfig then some ({ suit with suitName := name } :: rest)
      else (renameSuit suitConfig name rest).map (suit :: ·)

def modifySuitName (hero : DreamHero) (suitConfig : Int32) (name : Bytes) :
    DreamHero × ClientMessage :=
  match renameSuit suitConfig (cStr name) hero.info.suits with
  | some suits =>
      ({ hero with info := { hero.info with suits := suits } },
        .modifySuitNameACK suitConfig (cStr name))
  | none => (hero, .modifySuitErrorACK suitConfig .serverErrorNoSuitId)

/- The loop of DelSuit goes on behind the suit that moved into the erased place, and runs past
   the end (none) when it erased the last suit. The flag says that a suit was erased. -/
def eraseSuits (suitId : Int32) : List MsgSuitData → Option (List MsgSuitData × Bool)
  | [] => some ([], false)
  | [suit] => if suit.suitId = suitId then none else some ([suit], false)
  | suit :: next :: rest =>
      if suit.suitId = suitId then
        (eraseSuits suitId rest).map fun later => (next :: later.1, true)
      else (eraseSuits suitId (next :: rest)).map fun later => (suit :: later.1, later.2)

def delSuit (hero : DreamHero) (suitId : Int32) : Option (DreamHero × ClientMessage) :=
  (eraseSuits suitId hero.info.suits).map fun erased =>
    ({ hero with info := { hero.info with suits := erased.1 } },
      .delSuitACK suitId (if erased.2 then .noError else .serverErrorNoSuitId))

def hasToy (hero : DreamHero) (cdKey : CdKey) : Bool := hasData hero.heroToys (cStr cdKey)

def removeToyByCDKey (hero : DreamHero) (cdKey : CdKey) : DreamHero :=
  { hero with heroToys := eraseData hero.heroToys (cStr cdKey) }

def insertToy (hero : DreamHero) (toy : MsgToyData) : DreamHero :=
  { hero with heroToys := addData hero.heroToys toy.toyCdKey toy }

/- The equip message under construction; has is the has-bit of its equip. -/
structure EquipInit where
  has : Bool
  equip : S2CMsgHeroEquip

def EquipInit.sent (message : EquipInit) : ClientMessage :=
  .equipInit (if message.has then some message.equip else none)

def maxCount : Nat := 40

/- current_count is not reset after a message is sent, so it stays at max_count or above, and
   equip_temp is only fetched again, which sets the has-bit, while it is 0. -/
def equipLoop (maxCountEquip : Nat) : List MsgEquipData → Nat → EquipInit →
    List ClientMessage × EquipInit
  | [], _, message => ([], message)
  | data :: rest, currentCount, message =>
      let equip := message.equip
      let message : EquipInit :=
        ⟨message.has || currentCount = 0, ⟨equip.equips ++ [data],
          equip.atEnd || currentCount + 1 = maxCountEquip,
          equip.atBegin || currentCount + 1 = 1⟩⟩
      if maxCount ≤ currentCount then
        let later := equipLoop maxCountEquip rest (currentCount + 1) ⟨false, ⟨[], false, false⟩⟩
        (message.sent :: later.1, later.2)
      else equipLoop maxCountEquip rest (currentCount + 1) message

def equipMessages (hero : DreamHero) : List ClientMessage :=
  let entries := hero.heroEquips.entries.map (·.2)
  let built := equipLoop entries.length entries 0 ⟨true, ⟨[], false, false⟩⟩
  if built.2.equip.equips ≠ [] then built.1 ++ [.equipInit (some built.2.equip)] else built.1

/- What SendClientInit sends, in order. -/
def clientInit (hero : DreamHero) : List ClientMessage :=
  hero.equipMessages ++
    [.toyInit (hero.heroToys.entries.map (·.2.toy)), .heroInit hero.info]

end DreamHero

structure CharacterRow where
  accountId : Account
  level : UInt32
  name : Bytes
  actionPoint : Int32
  diamand : Int32
  gold : Int32
  suitsName : Bytes
  deriving DecidableEq, Repr

inductive EquipPiece where
  | head
  | comma
  | row (equip : MsgEquipData) (account : Account)
  deriving DecidableEq, Repr

/- The text of a save, with its values in place of their decimal form. -/
inductive SaveStatement where
  | character (row : CharacterRow)
  | equips (text : List EquipPiece)
  | toys (account : Account) (toys : List MsgToyData)
  deriving DecidableEq, Repr

namespace DreamHero

/- sql_temp is not cleared after a statement of twenty rows is sent. -/
def equipStatements (account : Account) : List MsgEquipData → Nat → List EquipPiece →
    List SaveStatement
  | [], _, sqlTemp => if sqlTemp = [] then [] else [.equips sqlTemp]
  | equip :: rest, itemCount, sqlTemp =>
      let count := if 20 ≤ itemCount then 0 else itemCount
      let text := sqlTemp ++ [if count = 0 then .head else .comma, .row equip account]
      let later := equipStatements account rest (count + 1) text
      if 20 ≤ itemCount then .equips sqlTemp :: later else later

def toyStatements (account : Account) : List MsgToyData → Nat → List MsgToyData →
    List SaveStatement
  | [], _, sqlExcute => if sqlExcute = [] then [] else [.toys account sqlExcute]
  | toy :: rest, toySaveCount, sqlExcute =>
      if 20 < toySaveCount then
        .toys account sqlExcute :: toyStatements account rest 1 [toy]
      else toyStatements account rest (toySaveCount + 1) (sqlExcute ++ [toy])

/- The statements SaveHero sends, none when an entry does not fit suit_temp. -/
def saveStatements (hero : DreamHero) : Option (List SaveStatement) :=
  (suitsSql hero.info.suits).map fun suits =>
    let info := hero.info
    .character ⟨info.account, info.level, cStr info.name, info.actionPoint, info.diamand,
        info.gold, suits⟩ ::
      (equipStatements info.account (hero.heroEquips.entries.map (·.2)) 0 [] ++
        toyStatements hero.account (hero.heroToys.entries.map (·.2)) 0 [])

end DreamHero

end GameHero
