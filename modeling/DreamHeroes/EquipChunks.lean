import DreamHeroes.RequiredFields

/- The chunks of equips that SendClientInit sends to a client, as the client sees them. -/
namespace EquipChunks

open GameHero OrderedMaps RequiredFields

/-- The equip messages among what is sent. -/
def equipInits (messages : List ClientMessage) : List (Option S2CMsgHeroEquip) :=
  messages.filterMap fun message =>
    match message with
    | .equipInit equip => some equip
    | _ => none

/-- The messages carry the equips, each once and in order, in chunks of at most 40, of which the
first and no other begins and the last and no other ends. -/
def Carried (equips : List MsgEquipData) (messages : List ClientMessage) : Prop :=
  ∃ chunks : List S2CMsgHeroEquip, equipInits messages = chunks.map some ∧
    chunks.flatMap (·.equips) = equips ∧ (∀ chunk ∈ chunks, chunk.equips.length ≤ 40) ∧
    ∀ i, (inside : i < chunks.length) →
      (chunks[i].atBegin = true ↔ i = 0) ∧ (chunks[i].atEnd = true ↔ i + 1 = chunks.length)

variable {hero : DreamHero} {maxCountEquip currentCount : Nat} {equips : List MsgEquipData}
  {message : DreamHero.EquipInit}

/-- A loop over at most 40 equips sends nothing and gathers them all. -/
theorem equipLoop_quiet (few : currentCount + equips.length ≤ 40) :
    (DreamHero.equipLoop maxCountEquip equips currentCount message).1 = [] ∧
      (DreamHero.equipLoop maxCountEquip equips currentCount message).2.equip.equips =
        message.equip.equips ++ equips := by
  induction equips generalizing currentCount message with
  | nil => simp [DreamHero.equipLoop]
  | cons equip rest ih =>
    simp only [List.length_cons] at few
    have room : ¬ DreamHero.maxCount ≤ currentCount := by
      simp only [DreamHero.maxCount]
      omega
    rw [DreamHero.equipLoop, if_neg room]
    obtain ⟨none, gathered⟩ := @ih (currentCount + 1) ⟨message.has || currentCount = 0,
      ⟨message.equip.equips ++ [equip], message.equip.atEnd || currentCount + 1 = maxCountEquip,
        message.equip.atBegin || currentCount + 1 = 1⟩⟩ (by omega)
    refine ⟨none, ?_⟩
    rw [gathered]
    simp

/-- A loop over more equips first sends 41 of them. -/
theorem equipLoop_first (counted : currentCount = message.equip.equips.length)
    (low : currentCount ≤ 40) (many : 40 < currentCount + equips.length)
    (has : message.has = true) :
    ∃ chunk later, (DreamHero.equipLoop maxCountEquip equips currentCount message).1 =
      .equipInit (some chunk) :: later ∧ chunk.equips.length = 41 := by
  induction equips generalizing currentCount message with
  | nil =>
    simp only [List.length_nil] at many
    omega
  | cons equip rest ih =>
    simp only [List.length_cons] at many
    rw [DreamHero.equipLoop]
    by_cases full : DreamHero.maxCount ≤ currentCount
    · rw [if_pos full]
      simp only [DreamHero.maxCount] at full
      refine ⟨⟨message.equip.equips ++ [equip],
        message.equip.atEnd || currentCount + 1 = maxCountEquip,
        message.equip.atBegin || currentCount + 1 = 1⟩,
        (DreamHero.equipLoop maxCountEquip rest (currentCount + 1)
          ⟨false, ⟨[], false, false⟩⟩).1, ?_, ?_⟩
      · simp [DreamHero.EquipInit.sent, has]
      · simp only [List.length_append, List.length_singleton]
        omega
    · rw [if_neg full]
      simp only [DreamHero.maxCount] at full
      exact ih (by simp [counted]) (by omega) (by omega) (by simp [has])

theorem equipInits_clientInit (hero : DreamHero) :
    equipInits hero.clientInit = equipInits hero.equipMessages := by
  simp [equipInits, DreamHero.clientInit, List.filterMap_append]

/-- A hero with at most 40 equips has them carried in one chunk, or in none. -/
theorem carried_few (few : hero.heroEquips.entries.length ≤ 40) :
    Carried (hero.heroEquips.entries.map (·.2)) hero.clientInit := by
  rw [Carried, equipInits_clientInit, DreamHero.equipMessages]
  generalize rows : hero.heroEquips.entries.map (·.2) = equips
  have length : equips.length ≤ 40 := by
    rw [← rows, List.length_map]
    exact few
  obtain ⟨none, gathered⟩ := @equipLoop_quiet equips.length 0 equips ⟨true, ⟨[], false, false⟩⟩
    (by omega)
  obtain ⟨_, flagged⟩ := @equipLoop_whole equips.length 0 equips ⟨true, ⟨[], false, false⟩⟩
    (by omega) (Nat.zero_add _) rfl (fun positive => absurd positive (by decide))
    fun _ more => absurd rfl more
  rw [List.nil_append] at gathered
  rw [gathered, none, List.nil_append]
  by_cases empty : equips = []
  · rw [if_neg (by simp [empty])]
    refine ⟨[], rfl, ?_, ?_, ?_⟩
    · rw [empty]
      rfl
    · intro chunk impossible
      cases impossible
    · intro i inside
      cases inside
  · rw [if_pos empty]
    obtain ⟨atEnd, atBegin⟩ := flagged (by rw [gathered]; exact empty)
    refine ⟨[(DreamHero.equipLoop equips.length equips 0 ⟨true, ⟨[], false, false⟩⟩).2.equip],
      rfl, ?_, ?_, ?_⟩
    · simp [gathered]
    · intro chunk member
      rw [List.mem_singleton.mp member, gathered]
      exact length
    · intro i inside
      obtain rfl : i = 0 := by simpa using inside
      simp [atEnd, atBegin]

/-- The first chunk of a hero with more equips is too large. -/
theorem not_carried_many (many : 40 < hero.heroEquips.entries.length)
    (equips : List MsgEquipData) : ¬ Carried equips hero.clientInit := by
  have total : 40 < 0 + (hero.heroEquips.entries.map (·.2)).length := by
    rw [List.length_map, Nat.zero_add]
    exact many
  obtain ⟨first, later, sent, large⟩ := @equipLoop_first
    (hero.heroEquips.entries.map (·.2)).length 0 (hero.heroEquips.entries.map (·.2))
    ⟨true, ⟨[], false, false⟩⟩ rfl (by decide) total rfl
  rintro ⟨chunks, carried, _, small, _⟩
  rw [equipInits_clientInit, DreamHero.equipMessages, sent] at carried
  have member : some first ∈ chunks.map some := by
    rw [← carried]
    split <;> simp [equipInits]
  have short := small first (by simpa using member)
  omega

/-- SendClientInit carries all equips as it was meant exactly for heroes with at most 40. -/
theorem carried_iff (hero : DreamHero) :
    Carried (hero.heroEquips.entries.map (·.2)) hero.clientInit ↔
      hero.heroEquips.entries.length ≤ 40 := by
  constructor
  · intro carried
    by_contra many
    exact not_carried_many (Nat.lt_of_not_le many) _ carried
  · exact carried_few

/-- A hero that was loaded with that many equips. -/
def loaded (n : Nat) : DreamHero :=
  (DreamHero.new 0 1 .database).setInfo ⟨1, ⟨1, 1, DreamHero.testName, 0, 0, 0, []⟩,
    (List.range n).map fun id => ⟨id, 0, 0, false, 0, 1⟩, []⟩

/-- Of 42 equips 41 go out in one chunk, and the last in a message without its equip. -/
theorem last_equip_lost :
    equipInits (loaded 42).clientInit =
        [some ⟨(List.range 41).map fun id => ⟨id, 0, 0, false, 0, 1⟩, false, true⟩, none] ∧
      ¬ Carried ((loaded 42).heroEquips.entries.map (·.2)) (loaded 42).clientInit :=
  ⟨by decide +kernel, not_carried_many (by decide +kernel) _⟩

end EquipChunks
