import DreamHeroes.GameTurns

/- Whose the equips of a game server are: those its heroes hold and those its statements save,
   by what the table or the draw of an id says of their owner. -/
namespace HeroEquips

open GameHero GameServer GameTalks GameTurns OrderedMaps ObjMap

def generateEquipID (generateId : Nat) : EquipId := (generateId + 1) % 2 ^ 64

/-- The ids that so many calls of generateEquipID return. -/
def drawIds : Nat → Nat → List EquipId
  | 0, _ => []
  | count + 1, generateId =>
      generateEquipID generateId :: drawIds count (generateEquipID generateId)

/-- Every row of the statement belongs to the account it names. -/
def OwnRows (owner : EquipId → Option Account) : SaveStatement → Prop
  | .equips text => ∀ equip a, .row equip a ∈ text → owner equip.id = some a
  | _ => True

/-- The equips a server holds and saves belong to the accounts it holds and saves them for. -/
structure Dressed (owner : EquipId → Option Account) (s : Server) : Prop where
  valid : Valid s
  worn : ∀ a h, getData s.heros a = some h → ∀ equip, Worn (s.heroAt h) equip →
    owner equip.id = some a
  sent : ∀ flag h statement, (flag, .saveData h statement) ∈ s.toDatabase →
    OwnRows owner statement

variable {owner : EquipId → Option Account} {s s' : Server} {a : Account} {h : HeroPtr}
  {hero : DreamHero} {event : Event} {t : TranId} {p : SessionPtr}

theorem generateEquipID_next {generateId : Nat} (room : generateId + 1 < 2 ^ 64) :
    generateEquipID generateId = generateId + 1 := Nat.mod_eq_of_lt room

/-- Without an overflow the ids are the next ones behind the counter. -/
theorem mem_drawIds {count generateId id : Nat} (room : generateId + count < 2 ^ 64) :
    id ∈ drawIds count generateId ↔ generateId < id ∧ id ≤ generateId + count := by
  induction count generalizing generateId with
  | zero =>
    simp only [drawIds, List.not_mem_nil, false_iff]
    omega
  | succ count ih =>
    rw [drawIds, generateEquipID_next (by omega), List.mem_cons, ih (by omega)]
    omega

theorem drawIds_nodup {count generateId : Nat} (room : generateId + count < 2 ^ 64) :
    (drawIds count generateId).Nodup := by
  induction count generalizing generateId with
  | zero => exact List.nodup_nil
  | succ count ih =>
    rw [drawIds, generateEquipID_next (by omega)]
    refine List.nodup_cons.mpr ⟨?_, ih (by omega)⟩
    rw [mem_drawIds (by omega)]
    omega

theorem worn_insert {equips : OrderedMap EquipId MsgEquipData} {id key : EquipId}
    {new equip : MsgEquipData} (member : (key, equip) ∈ (equips.insert id new).entries) :
    equip = new ∨ (key, equip) ∈ equips.entries := by
  rcases mem_insertEntry member with same | old
  · cases same
    exact .inl rfl
  · exact .inr old

/-- The equips of a default hero have the ids drawn for them. -/
theorem configEquips_drawn {configs : List HeroEquipConfig} {generateId : Nat}
    {m : OrderedMap EquipId MsgEquipData} {key : EquipId} {equip : MsgEquipData}
    (member : (key, equip) ∈ (DreamHero.configEquips configs generateId m).1.entries) :
    equip.id ∈ drawIds configs.length generateId ∨ (key, equip) ∈ m.entries := by
  induction configs generalizing generateId m with
  | nil => exact .inr member
  | cons config rest ih =>
    rcases ih member with later | here
    · exact .inl (List.mem_cons_of_mem _ later)
    · rcases worn_insert here with rfl | old
      · exact .inl List.mem_cons_self
      · exact .inr old

theorem configEquips_last {configs : List HeroEquipConfig} {generateId : Nat}
    {m : OrderedMap EquipId MsgEquipData} (room : generateId + configs.length < 2 ^ 64) :
    (DreamHero.configEquips configs generateId m).2 = generateId + configs.length := by
  induction configs generalizing generateId m with
  | nil => rfl
  | cons config rest ih =>
    simp only [List.length_cons] at room ⊢
    have next : (generateId + 1) % 2 ^ 64 = generateId + 1 := generateEquipID_next (by omega)
    rw [DreamHero.configEquips, next, ih (by omega)]
    omega

theorem defaultHero_worn {equip : MsgEquipData} (worn : Worn (defaultHero s p).1 equip) :
    equip.id ∈ drawIds s.config.equips.length s.generateId := by
  obtain ⟨key, member⟩ := worn
  rcases configEquips_drawn member with drawn | before
  · exact drawn
  · cases before

theorem addEquips_mem {equips : List MsgEquipData} {m : OrderedMap EquipId MsgEquipData}
    {key : EquipId} {equip : MsgEquipData}
    (member : (key, equip) ∈ (equips.foldl (fun m equip => addData m equip.id equip) m).entries) :
    equip ∈ equips ∨ (key, equip) ∈ m.entries := by
  induction equips generalizing m with
  | nil => exact .inr member
  | cons first rest ih =>
    rcases ih member with later | here
    · exact .inl (List.mem_cons_of_mem first later)
    · simp only [addData] at here
      split at here
      · rcases worn_insert here with rfl | old
        · exact .inl List.mem_cons_self
        · exact .inr old
      · exact .inr here

theorem loadedHero_worn {msg : MsgHeroDataDB2GS} {equip : MsgEquipData}
    (worn : Worn (loadedHero s p msg) equip) : equip ∈ msg.equips := by
  obtain ⟨key, member⟩ := worn
  rcases addEquips_mem member with given | before
  · exact given
  · cases before

theorem dressed_start (config : HeroConfig) (generateId : Nat) :
    Dressed owner (start config generateId) where
  valid := valid_start config generateId
  worn := by
    intro a h hero
    cases hero
  sent := by
    intro flag h statement member
    cases member

/-- A change that leaves the equips of the heroes and the queue as they are. -/
theorem dressed_same (dressed : Dressed owner s) (valid : Valid s') (heros : s'.heros = s.heros)
    (equips : ∀ h, (s'.heroAt h).heroEquips = (s.heroAt h).heroEquips)
    (queue : ∀ flag h statement, (flag, .saveData h statement) ∈ s'.toDatabase →
      (flag, .saveData h statement) ∈ s.toDatabase) : Dressed owner s' where
  valid := valid
  worn := by
    intro a h listed equip ⟨id, member⟩
    rw [heros] at listed
    rw [equips] at member
    exact dressed.worn a h listed equip ⟨id, member⟩
  sent := fun flag h statement member => dressed.sent flag h statement (queue flag h statement member)

theorem setHero_equips (equips : hero.heroEquips = (s.heroAt h).heroEquips) (k : HeroPtr) :
    ((s.setHero h hero).heroAt k).heroEquips = (s.heroAt k).heroEquips := by
  by_cases here : k = h
  · subst here
    simpa [Server.setHero] using equips
  · simp [Server.setHero, here]

theorem dressed_acts (acts : Acts s s') (dressed : Dressed owner s) : Dressed owner s' := by
  induction acts with
  | stay s => exact dressed
  | next _ _ first later => exact later (first dressed)
  | hero same equips =>
    exact dressed_same dressed (valid_talks (talks_setHero same) dressed.valid) rfl
      (setHero_equips equips) fun _ _ _ => id
  | use listed =>
    exact dressed_same dressed (valid_talks (talks_useSession listed) dressed.valid) rfl
      (fun _ => rfl) fun _ _ _ => id
  | tell toGates =>
    exact dressed_same dressed (valid_talks (talks_acts (.tell toGates)) dressed.valid) rfl
      (fun _ => rfl) fun _ _ _ => id
  | toys toyCdkeyAccount =>
    exact dressed_same dressed (valid_talks (talks_acts (.toys toyCdkeyAccount)) dressed.valid) rfl
      (fun _ => rfl) fun _ _ _ => id
  | crash s =>
    exact dressed_same dressed (valid_talks (talks_crash s) dressed.valid) rfl
      (fun _ => rfl) fun _ _ _ => id
  | @save s flag message plain own =>
    refine ⟨valid_talks (talks_sendDatabase flag plain) dressed.valid, dressed.worn, ?_⟩
    intro other h statement member
    rcases List.mem_append.mp member with old | added
    · exact dressed.sent other h statement old
    · rw [List.mem_singleton] at added
      cases added
      cases statement with
      | equips text =>
        obtain ⟨⟨a, listed⟩, rows⟩ := own
        intro equip account row
        obtain ⟨account, worn⟩ := rows equip account row
        rw [account, (dressed.valid.owned a h listed).2.1]
        exact dressed.worn a h listed equip worn
      | _ => trivial

theorem dressed_setSession (session : Session)
    (same : session.tranid = (s.sessions p).tranid ∧ session.account = (s.sessions p).account ∧
      session.dreamHero = (s.sessions p).dreamHero) (dressed : Dressed owner s) :
    Dressed owner (s.setSession p session) :=
  dressed_same dressed (valid_talks (talks_setSession same) dressed.valid) rfl (fun _ => rfl)
    fun _ _ _ => id

theorem dressed_setReconnet (p : SessionPtr) (dressed : Dressed owner s) :
    Dressed owner (s.setReconnet p) := by
  have online := dressed_setSession { s.sessions p with online := true } ⟨rfl, rfl, rfl⟩ dressed
  simp only [Server.setReconnet]
  split
  · exact dressed_acts (.hero (sameOwner_refl _) rfl) online
  · exact online

theorem dressed_setWaitReconnet (p : SessionPtr) (dressed : Dressed owner s) :
    Dressed owner (s.setWaitReconnet p) := by
  have offline := dressed_setSession { s.sessions p with online := false } ⟨rfl, rfl, rfl⟩ dressed
  simp only [Server.setWaitReconnet]
  split
  · exact dressed_acts (.hero (sameOwner_refl _) rfl) offline
  · exact dressed_acts (.crash _) offline

/-- A new hero brings its equips. -/
theorem dressed_withHero (generateId : Nat) (dressed : Dressed owner s)
    (unknown : getData s.heros (s.sessions p).account = none)
    (account : hero.account = (s.sessions p).account)
    (info : hero.info.account = (s.sessions p).account)
    (worn : ∀ equip, Worn hero equip → owner equip.id = some (s.sessions p).account) :
    Dressed owner (withHero s p hero generateId) where
  valid := valid_created generateId dressed.valid unknown account info
  worn := by
    intro a h listed equip wornHere
    simp only [withHero, getData_heros_insert] at listed wornHere
    split at listed
    · rename_i same
      cases listed
      rw [Function.update_self] at wornHere
      rw [← same]
      exact worn equip wornHere
    · have old : h ≠ s.nextHero := Nat.ne_of_lt (dressed.valid.owned a h listed).2.2
      rw [Function.update_of_ne old] at wornHere
      exact dressed.worn a h listed equip wornHere
  sent := dressed.sent

/-- The equips that a step brings to a server belong to the account it gets them for. -/
def Brings (owner : EquipId → Option Account) (s : Server) (event : Event) : Prop :=
  ∀ t p, getData s.onlines t = some p → getData s.heros (s.sessions p).account = none →
    match event with
    | .heroData k msg => k = t → ∀ equip ∈ msg.equips,
        owner equip.id = some (s.sessions p).account
    | .needCreateHero k => k = t → ∀ id ∈ drawIds s.config.equips.length s.generateId,
        owner id = some (s.sessions p).account
    | _ => True

theorem dressed_deed (deed : Deed s event s') (dressed : Dressed owner s)
    (brings : Brings owner s event) : Dressed owner s' := by
  have valid := valid_turn (turn_of_deed deed) dressed.valid
  cases deed with
  | acts acts => exact dressed_acts acts dressed
  | @registered link serverid =>
    obtain ⟨gates, registered⟩ := parseGateRegister_eq s link serverid
    rw [registered] at valid ⊢
    exact dressed_same dressed valid rfl (fun _ => rfl) fun _ _ _ => id
  | paused online => exact dressed_setWaitReconnet _ dressed
  | resumed online gate account => exact dressed_setReconnet _ dressed
  | joined free new unknown =>
    refine dressed_same dressed valid rfl (fun _ => rfl) ?_
    intro flag h statement member
    rcases List.mem_append.mp member with old | added
    · exact old
    · rw [List.mem_singleton] at added
      cases added
  | returned free new hero acts =>
    apply dressed_acts acts
    exact dressed_same dressed (valid_returns dressed.valid free new hero) rfl
      (setHero_equips rfl) fun _ _ _ => id
  | removed online => exact dressed_same dressed valid rfl (fun _ => rfl) fun _ _ _ => id
  | gateLost gates frees => exact dressed_same dressed valid rfl (fun _ => rfl) fun _ _ _ => id
  | attached answers online hero acts =>
    apply dressed_acts acts
    exact dressed_same dressed (valid_attached dressed.valid hero) rfl (setHero_equips rfl)
      fun _ _ _ => id
  | @loaded t msg p s' online unknown acts =>
    apply dressed_acts acts
    apply dressed_withHero _ dressed unknown rfl rfl
    intro equip worn
    exact brings t p online unknown rfl equip (loadedHero_worn worn)
  | @made t p s' online unknown acts =>
    apply dressed_acts acts
    apply dressed_withHero _ dressed unknown rfl rfl
    intro equip worn
    exact brings t p online unknown rfl _ (defaultHero_worn worn)

theorem dressed_step (event : Event) (dressed : Dressed owner s) (brings : Brings owner s event) :
    Dressed owner (step s event) :=
  dressed_deed (step_deed dressed.valid event) dressed brings

/-- An owner that is known stays. -/
theorem dressed_mono {later : EquipId → Option Account}
    (grows : ∀ id a, owner id = some a → later id = some a) (dressed : Dressed owner s) :
    Dressed later s where
  valid := dressed.valid
  worn := fun a h listed equip worn => grows _ _ (dressed.worn a h listed equip worn)
  sent := by
    intro flag h statement member
    have rows := dressed.sent flag h statement member
    cases statement with
    | equips text => exact fun equip a row => grows _ _ (rows equip a row)
    | _ => trivial

theorem acts_counter (acts : Acts s s') : s'.generateId = s.generateId := by
  induction acts with
  | next _ _ first later => exact later.trans first
  | _ => rfl

theorem setReconnet_counter (p : SessionPtr) : (s.setReconnet p).generateId = s.generateId := by
  simp only [Server.setReconnet]
  split <;> rfl

theorem setWaitReconnet_counter (p : SessionPtr) :
    (s.setWaitReconnet p).generateId = s.generateId := by
  simp only [Server.setWaitReconnet]
  split <;> rfl

/-- Only a default hero moves the counter. -/
theorem deed_counter (deed : Deed s event s') : s'.generateId = s.generateId ∨
    ∃ t p, event = .needCreateHero t ∧ getData s.onlines t = some p ∧
      getData s.heros (s.sessions p).account = none ∧
        s'.generateId = (defaultHero s p).2 := by
  cases deed with
  | acts acts => exact .inl (acts_counter acts)
  | @registered link serverid =>
    obtain ⟨gates, registered⟩ := parseGateRegister_eq s link serverid
    exact .inl (by rw [registered])
  | paused online => exact .inl (setWaitReconnet_counter _)
  | resumed online gate account => exact .inl (setReconnet_counter _)
  | joined free new unknown => exact .inl rfl
  | returned free new hero acts =>
    have same := acts_counter acts
    exact .inl same
  | removed online => exact .inl rfl
  | gateLost gates frees => exact .inl rfl
  | attached answers online hero acts =>
    have same := acts_counter acts
    exact .inl same
  | loaded online unknown acts =>
    have same := acts_counter acts
    exact .inl same
  | made online unknown acts =>
    have moved := acts_counter acts
    exact .inr ⟨_, _, rfl, online, unknown, moved⟩

end HeroEquips
