import DreamHeroes.SaveText

/- The messages a hero's handlers give to sendPBMessage, with the fields that are set in them.
   The receiver refuses a message that lacks a required field. -/
namespace RequiredFields

open ByteWords OrderedMaps ObjMap SuitText GameHero SaveText

structure HeroEquipFields where
  equips : List MsgEquipData
  atEnd : Option Bool
  atBegin : Option Bool
  deriving DecidableEq, Repr

/- Fields that were not set are none. -/
inductive SentMessage where
  | s2cMsgHeroInit (hero : Option MsgHeroData)
  | s2cMsgEquipInit (equip : Option HeroEquipFields)
  | s2cMsgToyInit (toys : List MsgToyBaseData)
  | s2cModifySuitNameACK (suitId : Option Int32) (suitName : Option Bytes)
  | s2cModifySuitErrorACK (suitId : Option Int32) (error : Option HeroErrorCode)
  | s2cModifySuitACK (suitId : Option Int32) (error : Option HeroErrorCode)
  | s2cDelSuitACK (suitId : Option Int32) (error : Option HeroErrorCode)
  | s2cVerifyToyCDKeyACK (toyData : Option MsgToyData)
  | s2cVerifyToyCDKeyErrorACK (cdKey : Option CdKey) (error : Option HeroErrorCode)
  | s2cEquipLevelUpACK (equipId : Option EquipId) (level gold count diamand : Option Int32)
  | s2cEquipLevelUpErrorACK (equipId : Option EquipId) (error : Option HeroErrorCode)
  | msgVerifyToyGS2DB (cdkey : Option CdKey) (account : Option Account)
  | msgSaveDataGS2DB (sql : Option Bytes)
  deriving DecidableEq, Repr

/- IsInitialized by the required fields of the .proto files. What is copied into a message as a
   whole came from such a message or was set field by field in a constructor. -/
def isInitialized : SentMessage → Bool
  | .s2cMsgHeroInit hero => hero.isSome
  | .s2cMsgEquipInit equip => equip.any fun equip => equip.atEnd.isSome && equip.atBegin.isSome
  | .s2cMsgToyInit _ => true
  | .s2cModifySuitNameACK suitId suitName => suitId.isSome && suitName.isSome
  | .s2cModifySuitErrorACK suitId error => suitId.isSome && error.isSome
  | .s2cModifySuitACK suitId error => suitId.isSome && error.isSome
  | .s2cDelSuitACK suitId error => suitId.isSome && error.isSome
  | .s2cVerifyToyCDKeyACK toyData => toyData.isSome
  | .s2cVerifyToyCDKeyErrorACK cdKey error => cdKey.isSome && error.isSome
  | .s2cEquipLevelUpACK equipId level gold count diamand =>
      equipId.isSome && level.isSome && gold.isSome && count.isSome && diamand.isSome
  | .s2cEquipLevelUpErrorACK equipId error => equipId.isSome && error.isSome
  | .msgVerifyToyGS2DB cdkey account => cdkey.isSome && account.isSome
  | .msgSaveDataGS2DB sql => sql.isSome

/- set_end and set_begin are called with true alone. -/
def equipFields (equip : S2CMsgHeroEquip) : HeroEquipFields :=
  ⟨equip.equips, if equip.atEnd then some true else none,
    if equip.atBegin then some true else none⟩

/- What is set in each message to the client when it is sent. -/
def fields : ClientMessage → SentMessage
  | .heroInit hero => .s2cMsgHeroInit (some hero)
  | .equipInit equip => .s2cMsgEquipInit (equip.map equipFields)
  | .toyInit toys => .s2cMsgToyInit toys
  | .modifySuitNameACK suitId suitName => .s2cModifySuitNameACK (some suitId) (some suitName)
  | .modifySuitErrorACK suitId error => .s2cModifySuitErrorACK (some suitId) (some error)
  | .modifySuitACK suitId error => .s2cModifySuitACK (some suitId) (some error)
  | .delSuitACK suitId error => .s2cDelSuitACK (some suitId) (some error)
  | .verifyToyCDKeyACK toyData => .s2cVerifyToyCDKeyACK (some toyData)
  | .verifyToyCDKeyErrorACK cdKey error => .s2cVerifyToyCDKeyErrorACK (some cdKey) (some error)

structure HeroEquipLevelUpConfig where
  toyConfigCount : Int32
  toyConfigDiamand : Int32
  toyConfigGold : Int32
  deriving DecidableEq, Repr

abbrev EquipsLevelUpConfigs := OrderedMap Int (OrderedMap Int HeroEquipLevelUpConfig)

def getEquipLevelUpConfig (configs : EquipsLevelUpConfigs) (configId configLevel : Int32) :
    Option HeroEquipLevelUpConfig :=
  (getData configs configId.toInt).bind fun levels => getData levels configLevel.toInt

def levelUp (hero : DreamHero) (equipId : EquipId) (equip : MsgEquipData)
    (config : HeroEquipLevelUpConfig) : DreamHero × SentMessage :=
  let level := equip.level + 1
  let gold := hero.info.gold - config.toyConfigGold
  let diamand := hero.info.diamand - config.toyConfigDiamand
  let count := equip.count - config.toyConfigCount
  ({ hero with
      info := { hero.info with gold := gold, diamand := diamand }
      heroEquips := hero.heroEquips.insert equipId { equip with count := count, level := level } },
    .s2cEquipLevelUpACK none (some level) (some gold) (some count) (some diamand))

/- EquipLevelUp. Without a config for the next level nothing is sent. -/
def equipLevelUp (configs : EquipsLevelUpConfigs) (hero : DreamHero) (equipId : EquipId) :
    DreamHero × Option SentMessage :=
  let refused error := (hero, some (.s2cEquipLevelUpErrorACK (some equipId) (some error)))
  match getData hero.heroEquips equipId with
  | none => refused .equipLevelUpNotFoundEquip
  | some equip =>
      match getEquipLevelUpConfig configs equip.equipId (equip.level + 1) with
      | none => (hero, none)
      | some config =>
          if equip.count < config.toyConfigCount then refused .equipLevelUpNotEnoughEquip
          else if hero.info.gold < config.toyConfigGold then refused .equipLevelUpNotEnoughGold
          else if hero.info.diamand < config.toyConfigDiamand then
            refused .equipLevelUpNotEnoughDiamand
          else
            let raised := levelUp hero equipId equip config
            (raised.1, some raised.2)

def verifyToyCDKey (hero : DreamHero) (cdKey : CdKey) : SentMessage :=
  if hero.hasToy cdKey then
    fields (.verifyToyCDKeyErrorACK (cStr cdKey) .toyCdKeyHaveBeenInUsed)
  else .msgVerifyToyGS2DB (some (cStr cdKey)) none

/- VerifyToy of a hero whose account may be that of the reply. -/
def verifyToy (hero : DreamHero) (toy : MsgToyData) (account : Account) : List SentMessage :=
  let hero := if account = hero.account then hero.removeToyByCDKey toy.toyCdKey else hero
  if hero.hasToy toy.toyCdKey then [] else [fields (.verifyToyCDKeyACK toy)]

/- What a handler of the hero is called for. -/
inductive Handled where
  | modifySuit (suit : MsgSuitData)
  | delSuit (suitId : Int32)
  | modifySuitName (suitId : Int32) (suitName : Bytes)
  | verifyToyCDKey (cdKey : CdKey)
  | verifyToy (toy : MsgToyData) (account : Account)
  | verifyToyError (cdKey : CdKey) (error : HeroErrorCode)
  | equipLevelUp (equipId : EquipId)
  | sendClientInit
  | saveHero
  deriving DecidableEq, Repr

/- Nothing is sent when a handler leaves defined behaviour. -/
def messages (configs : EquipsLevelUpConfigs) (clock : Clock) (hero : DreamHero) :
    Handled → List SentMessage
  | .modifySuit suit => [fields (hero.modifySuit suit).2]
  | .delSuit suitId => (hero.delSuit suitId).toList.map fun result => fields result.2
  | .modifySuitName suitId suitName => [fields (hero.modifySuitName suitId suitName).2]
  | .verifyToyCDKey cdKey => [verifyToyCDKey hero cdKey]
  | .verifyToy toy account => verifyToy hero toy account
  | .verifyToyError cdKey error => [fields (.verifyToyCDKeyErrorACK (cStr cdKey) error)]
  | .equipLevelUp equipId => (equipLevelUp configs hero equipId).2.toList
  | .sendClientInit => hero.clientInit.map fields
  | .saveHero => ((saveSql clock hero).getD []).map fun sql => .msgSaveDataGS2DB (some sql)

/-- The equip is there, has a next level, and the hero can pay for it. -/
def CanLevelUp (configs : EquipsLevelUpConfigs) (hero : DreamHero) (equipId : EquipId) : Prop :=
  ∃ equip, getData hero.heroEquips equipId = some equip ∧
    ∃ config, getEquipLevelUpConfig configs equip.equipId (equip.level + 1) = some config ∧
      config.toyConfigCount ≤ equip.count ∧ config.toyConfigGold ≤ hero.info.gold ∧
      config.toyConfigDiamand ≤ hero.info.diamand

/-- The handler does not come to one of the messages it leaves incomplete. -/
def Spared (configs : EquipsLevelUpConfigs) (hero : DreamHero) : Handled → Prop
  | .verifyToyCDKey cdKey => hero.hasToy cdKey = true
  | .equipLevelUp equipId => ¬ CanLevelUp configs hero equipId
  | .sendClientInit => hero.heroEquips.entries.length ≤ 41
  | _ => True

variable {configs : EquipsLevelUpConfigs} {clock : Clock} {hero : DreamHero}
  {maxCountEquip currentCount : Nat} {equips : List MsgEquipData} {message : DreamHero.EquipInit}

/- Both flags of the equip message are set. -/
def Flagged (equip : S2CMsgHeroEquip) : Prop := equip.atEnd = true ∧ equip.atBegin = true

theorem isInitialized_equip_iff (equip : Option S2CMsgHeroEquip) :
    isInitialized (fields (.equipInit equip)) = true ↔ ∃ e, equip = some e ∧ Flagged e := by
  cases equip with
  | none => simp [fields, isInitialized]
  | some e =>
    cases atEnd : e.atEnd <;> cases atBegin : e.atBegin <;>
      simp [fields, equipFields, isInitialized, Flagged, atEnd, atBegin]

theorem sent_flagged (message : DreamHero.EquipInit) :
    isInitialized (fields message.sent) = true ↔ message.has = true ∧ Flagged message.equip := by
  rw [DreamHero.EquipInit.sent, isInitialized_equip_iff]
  cases message.has <;> simp

/-- With no more than 41 equips the loop sends only whole messages, and so does the end of
    SendClientInit. While the loop runs, begin is set from the first equip on, and end is set by
    the last one. -/
theorem equipLoop_whole (few : maxCountEquip ≤ 41)
    (total : currentCount + equips.length = maxCountEquip) (has : message.has = true)
    (opened : 0 < currentCount → message.equip.atBegin = true)
    (closed : equips = [] → message.equip.equips ≠ [] → Flagged message.equip) :
    (∀ m ∈ (DreamHero.equipLoop maxCountEquip equips currentCount message).1,
        isInitialized (fields m) = true) ∧
      ((DreamHero.equipLoop maxCountEquip equips currentCount message).2.equip.equips ≠ [] →
        Flagged (DreamHero.equipLoop maxCountEquip equips currentCount message).2.equip) := by
  induction equips generalizing currentCount message with
  | nil => exact ⟨List.forall_mem_nil _, closed rfl⟩
  | cons equip rest ih =>
    simp only [List.length_cons] at total
    have begun : (message.equip.atBegin || decide (currentCount + 1 = 1)) = true := by
      by_cases first : currentCount = 0
      · simp [first]
      · simp [opened (by omega)]
    have ended (last : rest = []) :
        (message.equip.atEnd || decide (currentCount + 1 = maxCountEquip)) = true := by
      rw [last, List.length_nil] at total
      simp [total]
    rw [DreamHero.equipLoop]
    split
    · rename_i full
      have last : rest = [] := by
        apply List.eq_nil_of_length_eq_zero
        simp only [DreamHero.maxCount] at full
        omega
      rw [last, DreamHero.equipLoop]
      refine ⟨?_, fun more => absurd rfl more⟩
      rw [List.forall_mem_singleton, sent_flagged]
      exact ⟨by simp [has], ended last, begun⟩
    · apply ih
      · omega
      · simp [has]
      · exact fun _ => begun
      · exact fun last _ => ⟨ended last, begun⟩

/-- With more than 41 equips the 41st goes out without end. -/
theorem equipLoop_open (many : 41 < maxCountEquip)
    (total : currentCount + equips.length = maxCountEquip) (low : currentCount ≤ 40)
    (unfinished : message.equip.atEnd = false) :
    ∃ m ∈ (DreamHero.equipLoop maxCountEquip equips currentCount message).1,
      isInitialized (fields m) = false := by
  induction equips generalizing currentCount message with
  | nil =>
    simp only [List.length_nil] at total
    omega
  | cons equip rest ih =>
    simp only [List.length_cons] at total
    have later : (message.equip.atEnd || decide (currentCount + 1 = maxCountEquip)) = false := by
      simp only [unfinished, Bool.false_or, decide_eq_false_iff_not]
      omega
    rw [DreamHero.equipLoop]
    split
    · refine ⟨_, List.mem_cons_self, ?_⟩
      rw [Bool.eq_false_iff, ne_eq, sent_flagged]
      rintro ⟨_, ended, _⟩
      rw [later] at ended
      cases ended
    · rename_i notFull
      simp only [DreamHero.maxCount] at notFull
      exact ih (by omega) (by omega) later

theorem equipMessages_iff (hero : DreamHero) :
    (∀ m ∈ hero.equipMessages, isInitialized (fields m) = true) ↔
      hero.heroEquips.entries.length ≤ 41 := by
  have total : 0 + (hero.heroEquips.entries.map (·.2)).length =
    (hero.heroEquips.entries.map (·.2)).length := Nat.zero_add _
  rw [← List.length_map (·.2), DreamHero.equipMessages]
  constructor
  · intro all
    by_contra many
    obtain ⟨m, sent, missing⟩ := equipLoop_open (Nat.lt_of_not_le many) total (by decide)
      (rfl : (⟨true, ⟨[], false, false⟩⟩ : DreamHero.EquipInit).equip.atEnd = false)
    have listed : isInitialized (fields m) = true := by
      apply all m
      split
      · exact List.mem_append_left _ sent
      · exact sent
    rw [missing] at listed
    cases listed
  · intro few
    obtain ⟨whole, last⟩ := equipLoop_whole few total
      (rfl : (⟨true, ⟨[], false, false⟩⟩ : DreamHero.EquipInit).has = true)
      (fun positive => absurd positive (by decide)) fun _ more => absurd rfl more
    split
    · rename_i more
      rw [List.forall_mem_append, List.forall_mem_singleton, isInitialized_equip_iff]
      exact ⟨whole, _, rfl, last more⟩
    · exact whole

theorem clientInit_iff (hero : DreamHero) :
    (∀ m ∈ hero.clientInit, isInitialized (fields m) = true) ↔
      hero.heroEquips.entries.length ≤ 41 := by
  rw [DreamHero.clientInit, List.forall_mem_append, equipMessages_iff]
  apply and_iff_left
  intro m member
  simp only [List.mem_cons, List.not_mem_nil, or_false] at member
  rcases member with rfl | rfl <;> rfl

/-- EquipLevelUp tells the client of a level without saying of which equip. -/
theorem equipLevelUp_iff (configs : EquipsLevelUpConfigs) (hero : DreamHero)
    (equipId : EquipId) :
    (∀ m ∈ (equipLevelUp configs hero equipId).2.toList, isInitialized m = true) ↔
      ¬ CanLevelUp configs hero equipId := by
  unfold equipLevelUp
  simp only
  split
  · rename_i absent
    simp [CanLevelUp, absent, isInitialized]
  · rename_i equip found
    split
    · rename_i noConfig
      simp [CanLevelUp, found, noConfig]
    · rename_i config next
      split
      · rename_i few
        simp [CanLevelUp, found, next, isInitialized, few]
      · split
        · rename_i poor
          simp [CanLevelUp, found, next, isInitialized, poor]
        · split
          · rename_i poor
            simp [CanLevelUp, found, next, isInitialized, poor]
          · rename_i enough gold diamand
            simp_all [CanLevelUp, isInitialized, levelUp]

/-- A handler sets every required field of what it sends exactly if it is spared the three
    messages that are left incomplete. -/
theorem messages_initialized_iff (configs : EquipsLevelUpConfigs) (clock : Clock)
    (hero : DreamHero) (handled : Handled) :
    (∀ message ∈ messages configs clock hero handled, isInitialized message = true) ↔
      Spared configs hero handled := by
  cases handled with
  | modifySuit suit => simp [messages, Spared, DreamHero.modifySuit, fields, isInitialized]
  | delSuit suitId =>
    rw [messages, DreamHero.delSuit]
    cases DreamHero.eraseSuits suitId hero.info.suits <;>
      simp [Spared, fields, isInitialized]
  | modifySuitName suitId suitName =>
    rw [messages, DreamHero.modifySuitName]
    cases DreamHero.renameSuit suitId (cStr suitName) hero.info.suits <;>
      simp [Spared, fields, isInitialized]
  | verifyToyCDKey cdKey =>
    rw [messages, Spared, List.forall_mem_singleton, verifyToyCDKey]
    cases hero.hasToy cdKey <;> simp [fields, isInitialized]
  | verifyToy toy account =>
    simp only [messages, Spared, verifyToy, iff_true]
    generalize (if account = hero.account then _ else hero) = left
    split
    · exact List.forall_mem_nil _
    · simp [fields, isInitialized]
  | verifyToyError cdKey error => simp [messages, Spared, fields, isInitialized]
  | equipLevelUp equipId => exact equipLevelUp_iff configs hero equipId
  | sendClientInit =>
    rw [messages, List.forall_mem_map]
    exact clientInit_iff hero
  | saveHero => simp [messages, Spared, isInitialized]

/-- The message that asks the database server about a key has no account. -/
theorem verify_without_account :
    ¬ ∀ (configs : EquipsLevelUpConfigs) (clock : Clock) (hero : DreamHero) (handled : Handled),
      ∀ message ∈ messages configs clock hero handled, isInitialized message = true := by
  intro all
  have asked := all .empty ⟨0, fun _ => ⟨0, 0, 0, 0, 0, 0⟩⟩ (.new 0 1 .config)
    (.verifyToyCDKey [97]) (.msgVerifyToyGS2DB (some [97]) none) (by decide)
  exact absurd asked (by decide)

end RequiredFields
