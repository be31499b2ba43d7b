import DreamHeroes.RequiredFields

/- EquipLevelUp as a transaction: each request gets one reply, and the hero pays for the level it
   is told of or keeps everything. -/
namespace EquipLevels

open GameHero OrderedMaps ObjMap RequiredFields

structure Priced (config : HeroEquipLevelUpConfig) : Prop where
  count : 0 ≤ config.toyConfigCount
  diamand : 0 ≤ config.toyConfigDiamand
  gold : 0 ≤ config.toyConfigGold

def AllPriced (configs : EquipsLevelUpConfigs) : Prop :=
  ∀ levels ∈ configs.entries, ∀ level ∈ levels.2.entries, Priced level.2

/-- What is left of an amount once the price is paid. -/
def Paid (amount price left : Int32) : Prop :=
  left.toInt = amount.toInt - price.toInt ∧ 0 ≤ left.toInt

/-- From the hero to the one after it, one equip has come a level further for the price of that
level. -/
structure Raised (configs : EquipsLevelUpConfigs) (hero after : DreamHero) (equipId : EquipId)
    (equip raised : MsgEquipData) : Prop where
  found : getData hero.heroEquips equipId = some equip
  level : raised.level.toInt = equip.level.toInt + 1
  paid : ∃ config, getEquipLevelUpConfig configs equip.equipId raised.level = some config ∧
    Paid equip.count config.toyConfigCount raised.count ∧
    Paid hero.info.gold config.toyConfigGold after.info.gold ∧
    Paid hero.info.diamand config.toyConfigDiamand after.info.diamand
  same : raised = { equip with level := raised.level, count := raised.count }
  rest : after = { hero with
    info := { hero.info with gold := after.info.gold, diamand := after.info.diamand }
    heroEquips := hero.heroEquips.insert equipId raised }

/-- There is one reply, and the hero is as the reply says. -/
def Answered (configs : EquipsLevelUpConfigs) (hero : DreamHero) (equipId : EquipId) : Prop :=
  match equipLevelUp configs hero equipId with
  | (after, some (.s2cEquipLevelUpErrorACK _ _)) => after = hero
  | (after, some (.s2cEquipLevelUpACK _ level gold count diamand)) =>
      ∃ equip raised, Raised configs hero after equipId equip raised ∧
        level = some raised.level ∧ gold = some after.info.gold ∧
        count = some raised.count ∧ diamand = some after.info.diamand
  | _ => False

/-- An equip that is there has a config for its next level, and where it is raised there is an
int for that level. -/
def HasNextLevel (configs : EquipsLevelUpConfigs) (hero : DreamHero) (equipId : EquipId) : Prop :=
  ∀ equip, getData hero.heroEquips equipId = some equip →
    (getEquipLevelUpConfig configs equip.equipId (equip.level + 1)).isSome = true ∧
      (CanLevelUp configs hero equipId → equip.level ≠ Int32.maxValue)

variable {configs : EquipsLevelUpConfigs} {hero : DreamHero} {equipId : EquipId}
  {equip : MsgEquipData} {config : HeroEquipLevelUpConfig} {amount price level : Int32}

theorem paid_sub (positive : 0 ≤ price) (enough : price ≤ amount) :
    Paid amount price (amount - price) := by
  have left := Int32.toInt_sub_of_le amount price positive enough
  refine ⟨left, ?_⟩
  rw [left]
  have more := Int32.le_iff_toInt_le.mp enough
  omega

theorem next_level_iff : (level + 1).toInt = level.toInt + 1 ↔ level ≠ Int32.maxValue := by
  rw [Int32.toInt_add, ne_eq, ← Int32.toInt_inj]
  have low := Int32.le_toInt level
  have high := Int32.toInt_le level
  have one : (1 : Int32).toInt = 1 := rfl
  have top : Int32.maxValue.toInt = 2147483647 := rfl
  have size : ((2 ^ 32 : Nat) : Int) = 4294967296 := rfl
  rw [one, top, Int.bmod_def, size]
  omega

theorem priced_of_found {configId : Int32} (all : AllPriced configs)
    (found : getEquipLevelUpConfig configs configId level = some config) : Priced config := by
  obtain ⟨levels, listed, here⟩ := Option.bind_eq_some_iff.mp found
  exact all _ (OrderedMap.find?_eq_some.mp listed) _ (OrderedMap.find?_eq_some.mp here)

/-- A level that is paid for is the next one unless the int overflows. -/
theorem raised_iff (all : AllPriced configs)
    (found : getData hero.heroEquips equipId = some equip)
    (next : getEquipLevelUpConfig configs equip.equipId (equip.level + 1) = some config)
    (count : config.toyConfigCount ≤ equip.count) (gold : config.toyConfigGold ≤ hero.info.gold)
    (diamand : config.toyConfigDiamand ≤ hero.info.diamand) :
    (∃ equip' raised, Raised configs hero (levelUp hero equipId equip config).1 equipId
        equip' raised ∧ some (equip.level + 1) = some raised.level ∧
        some (hero.info.gold - config.toyConfigGold) =
          some (levelUp hero equipId equip config).1.info.gold ∧
        some (equip.count - config.toyConfigCount) = some raised.count ∧
        some (hero.info.diamand - config.toyConfigDiamand) =
          some (levelUp hero equipId equip config).1.info.diamand) ↔
      equip.level ≠ Int32.maxValue := by
  have priced := priced_of_found all next
  constructor
  · rintro ⟨equip', raised, update, told, _, _, _⟩
    have same : equip' = equip := Option.some.inj (update.found.symm.trans found)
    rw [← next_level_iff, Option.some.inj told, update.level, same]
  · intro inside
    refine ⟨equip, { equip with
      level := equip.level + 1
      count := equip.count - config.toyConfigCount }, ?_, rfl, rfl, rfl, rfl⟩
    exact {
      found := found
      level := next_level_iff.mpr inside
      paid := ⟨config, next, paid_sub priced.count count, paid_sub priced.gold gold,
        paid_sub priced.diamand diamand⟩
      same := rfl
      rest := rfl }

theorem equipLevelUp_paid (found : getData hero.heroEquips equipId = some equip)
    (next : getEquipLevelUpConfig configs equip.equipId (equip.level + 1) = some config)
    (count : config.toyConfigCount ≤ equip.count) (gold : config.toyConfigGold ≤ hero.info.gold)
    (diamand : config.toyConfigDiamand ≤ hero.info.diamand) :
    equipLevelUp configs hero equipId =
      ((levelUp hero equipId equip config).1, some (levelUp hero equipId equip config).2) := by
  simp only [equipLevelUp, found, next, if_neg (Int32.not_lt.mpr count),
    if_neg (Int32.not_lt.mpr gold), if_neg (Int32.not_lt.mpr diamand)]

/-- A hero that cannot pay is told so and keeps everything. -/
theorem equipLevelUp_refused (found : getData hero.heroEquips equipId = some equip)
    (next : getEquipLevelUpConfig configs equip.equipId (equip.level + 1) = some config)
    (poor : ¬ CanLevelUp configs hero equipId) :
    ∃ error, equipLevelUp configs hero equipId =
      (hero, some (.s2cEquipLevelUpErrorACK (some equipId) (some error))) := by
  simp only [equipLevelUp, found, next]
  split
  · exact ⟨_, rfl⟩
  · rename_i count
    split
    · exact ⟨_, rfl⟩
    · rename_i gold
      split
      · exact ⟨_, rfl⟩
      · rename_i diamand
        exact absurd ⟨equip, found, config, next, Int32.not_lt.mp count, Int32.not_lt.mp gold,
          Int32.not_lt.mp diamand⟩ poor

/-- EquipLevelUp answers a request as it should exactly if the equip is not there or has a next
level. -/
theorem answered_iff (configs : EquipsLevelUpConfigs) (hero : DreamHero) (equipId : EquipId)
    (all : AllPriced configs) :
    Answered configs hero equipId ↔ HasNextLevel configs hero equipId := by
  cases found : getData hero.heroEquips equipId with
  | none => simp [Answered, HasNextLevel, equipLevelUp, found]
  | some equip =>
    cases next : getEquipLevelUpConfig configs equip.equipId (equip.level + 1) with
    | none => simp [Answered, HasNextLevel, equipLevelUp, found, next]
    | some config =>
      by_cases pays : CanLevelUp configs hero equipId
      · have next' : HasNextLevel configs hero equipId ↔ equip.level ≠ Int32.maxValue := by
          simp [HasNextLevel, found, next, pays]
        obtain ⟨equip', found', config', config'', count, gold, diamand⟩ := pays
        cases found.symm.trans found'
        cases next.symm.trans config''
        rw [next', Answered, equipLevelUp_paid found next count gold diamand]
        exact raised_iff all found next count gold diamand
      · obtain ⟨error, refused⟩ := equipLevelUp_refused found next pays
        simp [Answered, HasNextLevel, refused, found, next, pays]

/-- A hero with one equip, and a config that takes it from level 1 to level 2. -/
def wearer : DreamHero :=
  { DreamHero.new 0 0 .config with
    info := { (DreamHero.new 0 0 .config).info with gold := 10, diamand := 3 }
    heroEquips := OrderedMap.empty.insert 5 ⟨5, 7, 1, true, 0, 2⟩ }

def secondLevel : EquipsLevelUpConfigs :=
  OrderedMap.empty.insert 7 (OrderedMap.empty.insert 2 ⟨2, 3, 4⟩)

theorem answered_at_the_price : Answered secondLevel wearer 5 := by
  have priced : AllPriced secondLevel := by
    intro levels listed level member
    cases List.mem_singleton.mp listed
    cases List.mem_singleton.mp member
    exact ⟨by decide, by decide, by decide⟩
  apply (answered_iff secondLevel wearer 5 priced).mpr
  rintro equip ⟨⟩
  exact ⟨rfl, fun _ => by decide⟩

/-- Without a config for the next level nothing is sent. -/
theorem level_unanswered :
    (0 ≤ wearer.info.gold ∧ 0 ≤ wearer.info.diamand ∧
      ∀ entry ∈ wearer.heroEquips.entries, 0 ≤ entry.2.count) ∧
    ¬ Answered .empty wearer 5 := by
  constructor
  · decide
  · intro answered
    exact answered

end EquipLevels
