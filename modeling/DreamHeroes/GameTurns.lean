import DreamHeroes.GameTalks

/- What one step of the game server can do to the sessions, the heroes and the queue to the
   database server, and what holds between them in every reachable state. -/
namespace GameTurns

open GameHero GameServer GameTalks OrderedMaps ObjMap LabelledRuns

variable {s s' : Server} {h : HeroPtr} {event : Event}

/-- What holds between sessions and heroes in every reachable state. -/
structure Valid (s : Server) : Prop where
  online : ∀ t p, getData s.onlines t = some p → s.live p = true ∧ (s.sessions p).tranid = t
  attached : ∀ p h, s.live p = true → (s.sessions p).dreamHero = some h →
    getData s.heros (s.sessions p).account = some h
  owned : ∀ a h, getData s.heros a = some h →
    (s.heroAt h).account = a ∧ (s.heroAt h).info.account = a ∧ h < s.nextHero
  made : ∀ h, h < s.nextHero → Listed s h

/-- A reply to MsgReqHeroDataGS2DB for the transid. -/
def Answers (event : Event) (t : TranId) : Prop :=
  (∃ msg, event = .heroData t msg) ∨ event = .needCreateHero t

/-- Everything one step can do, with what the heroes say and answer left open. -/
inductive Turn (s : Server) : Event → Server → Prop where
  | talked {event : Event} {s' : Server} (talks : Talks s s') : Turn s event s'
  | joined {link : LinkPtr} {t : TranId} {a : Account} {p : SessionPtr} (free : s.live p = false)
      (new : getData s.onlines t = none) (unknown : getData s.heros a = none) :
      Turn s (.addUser link t a p) { s with
        sessions := Function.update s.sessions p ⟨t, a, s.gateId link, true, none⟩
        live := Function.update s.live p true
        onlines := addData s.onlines t p
        toDatabase := s.toDatabase ++ [(t, .reqHeroData a)] }
  | returned {link : LinkPtr} {t : TranId} {a : Account} {p : SessionPtr} {h : HeroPtr}
      {s' : Server} (free : s.live p = false) (new : getData s.onlines t = none)
      (hero : getData s.heros a = some h)
      (talks : Talks { s with
        sessions := Function.update s.sessions p ⟨t, a, s.gateId link, true, some h⟩
        live := Function.update s.live p true
        onlines := addData s.onlines t p
        heroAt := Function.update s.heroAt h { s.heroAt h with session := p } } s') :
      Turn s (.addUser link t a p) s'
  | removed {t : TranId} {p : SessionPtr} (online : getData s.onlines t = some p) :
      Turn s (.removeUser t) { s with
        onlines := eraseData s.onlines t
        live := Function.update s.live p false }
  | gateLost {link : LinkPtr} {gate : GateId} (gates : GateId → Option LinkPtr)
      (frees : s.FreesGate link gate) :
      Turn s (.gateClose link) { s.removeUserByGate gate with gates := gates }
  | attached {event : Event} {t : TranId} {p : SessionPtr} {h : HeroPtr} {s' : Server}
      (answers : Answers event t) (online : getData s.onlines t = some p)
      (hero : getData s.heros (s.sessions p).account = some h)
      (talks : Talks { s with
        sessions := Function.update s.sessions p { s.sessions p with dreamHero := some h }
        heroAt := Function.update s.heroAt h
          ({ s.heroAt h with session := p }.setAccount (s.sessions p).account) } s') :
      Turn s event s'
  | created {event : Event} {t : TranId} {p : SessionPtr} {hero : DreamHero} {s' : Server}
      (generateId : Nat) (answers : Answers event t)
      (online : getData s.onlines t = some p)
      (unknown : getData s.heros (s.sessions p).account = none)
      (session : hero.session = p) (account : hero.account = (s.sessions p).account)
      (info : hero.info.account = (s.sessions p).account)
      (filledBy : hero.filledBy = .config → event = .needCreateHero t)
      (talks : Talks { s with
        sessions := Function.update s.sessions p
          { s.sessions p with dreamHero := some s.nextHero }
        heroAt := Function.update s.heroAt s.nextHero hero
        nextHero := s.nextHero + 1
        heros := s.heros.insert (s.sessions p).account s.nextHero
        generateId := generateId } s') :
      Turn s event s'

/-- The server once a new hero is in the manager and in its session. -/
def withHero (s : Server) (p : SessionPtr) (hero : DreamHero) (generateId : Nat) : Server :=
  { s with
    sessions := Function.update s.sessions p { s.sessions p with dreamHero := some s.nextHero }
    heroAt := Function.update s.heroAt s.nextHero hero
    nextHero := s.nextHero + 1
    heros := s.heros.insert (s.sessions p).account s.nextHero
    generateId := generateId }

/-- The default hero of an account and the last equip id drawn for it. -/
def defaultHero (s : Server) (p : SessionPtr) : DreamHero × Nat :=
  let filled := (DreamHero.new p (s.sessions p).account .config).loadFromConfig s.config
    s.generateId
  (filled.1.setAccount (s.sessions p).account, filled.2)

def loadedHero (s : Server) (p : SessionPtr) (msg : MsgHeroDataDB2GS) : DreamHero :=
  ((DreamHero.new p (s.sessions p).account .database).setInfo msg).setAccount
    (s.sessions p).account

/-- Everything one step can do. Only what the heroes say and answer is left open. -/
inductive Deed (s : Server) : Event → Server → Prop where
  | acts {event : Event} {s' : Server} (acts : Acts s s') : Deed s event s'
  | registered {link : LinkPtr} {serverid : Nat} :
      Deed s (.gateRegister link serverid) (s.parseGateRegister link serverid)
  | paused {t : TranId} {p : SessionPtr} (online : getData s.onlines t = some p) :
      Deed s (.offlineUser t) (s.setWaitReconnet p)
  | resumed {link : LinkPtr} {t : TranId} {a : Account} {p q : SessionPtr}
      (online : getData s.onlines t = some q) (gate : (s.sessions q).gate = s.gateId link)
      (account : (s.sessions q).account = a) : Deed s (.addUser link t a p) (s.setReconnet q)
  | joined {link : LinkPtr} {t : TranId} {a : Account} {p : SessionPtr} (free : s.live p = false)
      (new : getData s.onlines t = none) (unknown : getData s.heros a = none) :
      Deed s (.addUser link t a p) { s with
        sessions := Function.update s.sessions p ⟨t, a, s.gateId link, true, none⟩
        live := Function.update s.live p true
        onlines := addData s.onlines t p
        toDatabase := s.toDatabase ++ [(t, .reqHeroData a)] }
  | returned {link : LinkPtr} {t : TranId} {a : Account} {p : SessionPtr} {h : HeroPtr}
      {s' : Server} (free : s.live p = false) (new : getData s.onlines t = none)
      (hero : getData s.heros a = some h)
      (acts : Acts { s with
        sessions := Function.update s.sessions p ⟨t, a, s.gateId link, true, some h⟩
        live := Function.update s.live p true
        onlines := addData s.onlines t p
        heroAt := Function.update s.heroAt h { s.heroAt h with session := p } } s') :
      Deed s (.addUser link t a p) s'
  | removed {t : TranId} {p : SessionPtr} (online : getData s.onlines t = some p) :
      Deed s (.removeUser t) { s with
        onlines := eraseData s.onlines t
        live := Function.update s.live p false }
  | gateLost {link : LinkPtr} {gate : GateId} (gates : GateId → Option LinkPtr)
      (frees : s.FreesGate link gate) :
      Deed s (.gateClose link) { s.removeUserByGate gate with gates := gates }
  | attached {event : Event} {t : TranId} {p : SessionPtr} {h : HeroPtr} {s' : Server}
      (answers : Answers event t) (online : getData s.onlines t = some p)
      (hero : getData s.heros (s.sessions p).account = some h)
      (acts : Acts { s with
        sessions := Function.update s.sessions p { s.sessions p with dreamHero := some h }
        heroAt := Function.update s.heroAt h
          ({ s.heroAt h with session := p }.setAccount (s.sessions p).account) } s') :
      Deed s event s'
  | loaded {t : TranId} {msg : MsgHeroDataDB2GS} {p : SessionPtr} {s' : Server}
      (online : getData s.onlines t = some p)
      (unknown : getData s.heros (s.sessions p).account = none)
      (acts : Acts (withHero s p (loadedHero s p msg) s.generateId) s') :
      Deed s (.heroData t msg) s'
  | made {t : TranId} {p : SessionPtr} {s' : Server} (online : getData s.onlines t = some p)
      (unknown : getData s.heros (s.sessions p).account = none)
      (acts : Acts (withHero s p (defaultHero s p).1 (defaultHero s p).2) s') :
      Deed s (.needCreateHero t) s'

theorem Valid.listed (valid : Valid s) {t : TranId} {p : SessionPtr}
    (online : getData s.onlines t = some p) (hero : (s.sessions p).dreamHero = some h) :
    Listed s h :=
  ⟨_, valid.attached p h (valid.online t p online).1 hero⟩

theorem addUser_deed (link : LinkPtr) (t : TranId) (a : Account) {p : SessionPtr}
    (free : s.live p = false) :
    Deed s (.addUser link t a p) (s.addUser t a (s.gateId link) p) := by
  unfold Server.addUser
  split
  · rename_i new
    cases hero : getData s.heros a with
    | none =>
      have built : Deed s (.addUser link t a p) _ := Deed.joined free new hero
      simpa [Server.newSession, Server.setSession, hero, Server.sendDatabase] using built
    | some h =>
      have listed : Listed { s with
          sessions := Function.update s.sessions p ⟨t, a, s.gateId link, true, some h⟩
          live := Function.update s.live p true
          heroAt := Function.update s.heroAt h { s.heroAt h with session := p } } h :=
        ⟨a, hero⟩
      have acts := acts_addOnline t p (acts_sendClientInit listed)
      apply Deed.returned free new hero
      simp only [Server.newSession, hero, Server.setSession, Server.setHero,
        Function.update_idem]
      exact acts
  · rename_i q online
    split
    · rename_i same
      exact .resumed online same.1 same.2
    · exact .acts (.stay s)

theorem attachHero_deed {t : TranId} {p : SessionPtr}
    (answers : Answers event t) (online : getData s.onlines t = some p)
    (hero : getData s.heros (s.sessions p).account = some h) :
    Deed s event (Server.attachHero
      (s.setHero h ({ s.heroAt h with session := p }.setAccount (s.sessions p).account), h) p) := by
  apply Deed.attached answers online hero
  apply acts_sendClientInit
  exact ⟨_, hero⟩

theorem acts_withHero (s : Server) (p : SessionPtr) (hero : DreamHero) (generateId : Nat) :
    Acts (withHero s p hero generateId)
      ((withHero s p hero generateId).sendClientInit s.nextHero) := by
  apply acts_sendClientInit
  exact ⟨(s.sessions p).account, by simp [withHero, getData]⟩

theorem step_deed (valid : Valid s) (event : Event) : Deed s event (step s event) := by
  unfold step
  split
  · exact .acts (.stay s)
  · cases event with
    | gateRegister link serverid => exact .registered
    | gateClose link =>
      simp only [handle, Server.removeGate]
      split
      · rename_i frees
        exact .gateLost _ ⟨rfl, frees⟩
      · exact .acts (.stay s)
    | addUser link t a p =>
      simp only [handle]
      split
      · exact .acts (.stay s)
      · rename_i dead
        exact addUser_deed link t a (Bool.eq_false_iff.mpr dead)
    | offlineUser t =>
      simp only [handle, Server.offlineUser]
      split
      · rename_i p online
        exact .paused online
      · exact .acts (.stay s)
    | removeUser t =>
      simp only [handle, Server.removeUser]
      split
      · rename_i p online
        exact .removed online
      · exact .acts (.stay s)
    | userMsg t request =>
      simp only [handle, Server.parseUserMsg]
      split
      · rename_i p online
        split
        · rename_i h hero
          exact .acts (acts_heroRequest (valid.listed online hero) request)
        · exact .acts (.stay s)
      · exact .acts (.stay s)
    | heroData t msg =>
      simp only [handle, Server.parseQueryHeroInfo]
      split
      · rename_i p online
        cases hero : getData s.heros (s.sessions p).account with
        | some h =>
          simp only [Server.createHero, hero]
          exact attachHero_deed (.inl ⟨msg, rfl⟩) online hero
        | none =>
          simp only [Server.createHero, hero]
          exact .loaded online hero (acts_withHero s p (loadedHero s p msg) s.generateId)
      · exact .acts (.stay s)
    | needCreateHero t =>
      simp only [handle, Server.parseNeedCreateHero]
      split
      · rename_i p online
        cases hero : getData s.heros (s.sessions p).account with
        | some h =>
          simp only [Server.createDefaultHero, hero]
          exact attachHero_deed (.inr rfl) online hero
        | none =>
          simp only [Server.createDefaultHero, hero]
          exact .made online hero (acts_withHero s p (defaultHero s p).1 (defaultHero s p).2)
      · exact .acts (.stay s)
    | verifyToy t toy a =>
      simp only [handle, Server.parseMsgVerifyToy]
      split
      · rename_i p online
        split
        · rename_i h hero
          exact .acts (acts_verifyToy (valid.listed online hero) toy a)
        · exact .acts (.stay s)
      · exact .acts (.stay s)
    | verifyToyError t cdKey error =>
      simp only [handle, Server.parseMsgVerifyToyError]
      split
      · rename_i p online
        split
        · rename_i h hero
          exact .acts (acts_heroSend (valid.listed online hero) _)
        · exact .acts (.crash s)
      · exact .acts (.stay s)
    | saveTick h =>
      simp only [handle, Server.saveTick]
      split
      · rename_i due
        exact .acts (acts_saveHero (valid.made h due.1))
      · exact .acts (.stay s)
    | setStop => exact .acts (acts_saveDreamHeroes s)

theorem parseGateRegister_eq (s : Server) (link : LinkPtr) (serverid : Nat) :
    ∃ gates, s.parseGateRegister link serverid = { s with
      gates := gates
      gateId := Function.update s.gateId link (serverid % 2 ^ 16) } := by
  simp only [Server.parseGateRegister, Server.addGate]
  split
  · exact ⟨_, rfl⟩
  · exact ⟨s.gates, rfl⟩

theorem talks_registered (link : LinkPtr) (serverid : Nat) :
    Talks s (s.parseGateRegister link serverid) := by
  obtain ⟨gates, registered⟩ := parseGateRegister_eq s link serverid
  rw [registered]
  exact { Talks.refl s with }

theorem turn_of_deed (deed : Deed s event s') : Turn s event s' := by
  cases deed with
  | acts acts => exact .talked (talks_acts acts)
  | registered => exact .talked (talks_registered _ _)
  | paused online => exact .talked (talks_setWaitReconnet _)
  | resumed online gate account => exact .talked (talks_setReconnet _)
  | joined free new unknown => exact .joined free new unknown
  | returned free new hero acts => exact .returned free new hero (talks_acts acts)
  | removed online => exact .removed online
  | gateLost gates frees => exact .gateLost gates frees
  | attached answers online hero acts => exact .attached answers online hero (talks_acts acts)
  | @loaded t msg p s' online unknown acts =>
    apply Turn.created _ (.inl ⟨msg, rfl⟩) online unknown rfl rfl rfl _ (talks_acts acts)
    intro config
    cases config
  | made online unknown acts =>
    exact .created _ (.inr rfl) online unknown rfl rfl rfl (fun _ => rfl) (talks_acts acts)

theorem step_turn (valid : Valid s) (event : Event) : Turn s event (step s event) :=
  turn_of_deed (step_deed valid event)

theorem valid_start (config : HeroConfig) (generateId : Nat) :
    Valid (start config generateId) where
  online := by
    intro t p online
    cases online
  attached := by
    intro p h live
    cases live
  owned := by
    intro a h hero
    cases hero
  made := by
    intro h made
    cases made

theorem valid_talks (talks : Talks s s') (valid : Valid s) : Valid s' where
  online := by
    intro t p online
    rw [talks.onlines] at online
    rw [talks.live, (talks.sessions p).1]
    exact valid.online t p online
  attached := by
    intro p h live hero
    obtain ⟨_, account, dreamHero⟩ := talks.sessions p
    rw [talks.live] at live
    rw [talks.heros, account]
    exact valid.attached p h live (dreamHero ▸ hero)
  owned := by
    intro a h hero
    obtain ⟨_, account, info, _⟩ := talks.heroAt h
    rw [talks.heros] at hero
    rw [account, info, talks.nextHero]
    exact valid.owned a h hero
  made := by
    intro h made
    rw [talks.nextHero] at made
    exact talks.listed (valid.made h made)

/-- New memory of the pool is in no map. -/
theorem Valid.fresh (valid : Valid s) {p q : SessionPtr} {t : TranId} (free : s.live p = false)
    (online : getData s.onlines t = some q) : q ≠ p := by
  rintro rfl
  have live := (valid.online t q online).1
  rw [free] at live
  cases live

theorem valid_joins {t : TranId} {a : Account} {gate : GateId} {p : SessionPtr}
    {hero : Option HeroPtr} {heroAt : HeroPtr → DreamHero}
    {toDatabase : List (TranId × DatabaseMessage)} (valid : Valid s) (free : s.live p = false)
    (new : getData s.onlines t = none) (attached : ∀ h, hero = some h → getData s.heros a = some h)
    (same : ∀ h, (heroAt h).account = (s.heroAt h).account ∧
      (heroAt h).info.account = (s.heroAt h).info.account) : Valid { s with
        sessions := Function.update s.sessions p ⟨t, a, gate, true, hero⟩
        live := Function.update s.live p true
        onlines := addData s.onlines t p
        heroAt := heroAt
        toDatabase := toDatabase } where
  online := by
    intro k q online
    simp only [getData_addData] at online
    split at online
    · rename_i here
      rw [new] at online
      cases online
      simp [here]
    · have other := valid.fresh free online
      simpa [other] using valid.online k q online
  attached := by
    intro q h live dreamHero
    by_cases here : q = p
    · subst here
      simp at dreamHero ⊢
      exact attached h dreamHero
    · simp [here] at live dreamHero ⊢
      exact valid.attached q h live dreamHero
  owned := by
    intro b h listed
    simp only [same h]
    exact valid.owned b h listed
  made := valid.made

theorem removeUserByGate_online {gate : GateId} {t : TranId} {p : SessionPtr} :
    getData (s.removeUserByGate gate).onlines t = some p ↔
      getData s.onlines t = some p ∧ (s.sessions p).gate ≠ gate := by
  simp [Server.removeUserByGate, getData, Option.filter_eq_some_iff]

theorem removeUserByGate_live {gate : GateId} {p : SessionPtr} :
    (s.removeUserByGate gate).live p = true ↔
      s.live p = true ∧ ∀ t, getData s.onlines t = some p → (s.sessions p).gate ≠ gate := by
  simp only [Server.removeUserByGate, Bool.and_eq_true, decide_eq_true_eq, getData,
    OrderedMap.find?_eq_some]
  simp

theorem valid_returns {t : TranId} {a : Account} {gate : GateId} {p : SessionPtr}
    (valid : Valid s) (free : s.live p = false) (new : getData s.onlines t = none)
    (hero : getData s.heros a = some h) : Valid { s with
        sessions := Function.update s.sessions p ⟨t, a, gate, true, some h⟩
        live := Function.update s.live p true
        onlines := addData s.onlines t p
        heroAt := Function.update s.heroAt h { s.heroAt h with session := p } } := by
  apply valid_joins valid free new
  · intro k same
    cases same
    exact hero
  · intro k
    by_cases here : k = h
    · simp [here]
    · simp [here]

theorem valid_removed {t : TranId} {p : SessionPtr} (valid : Valid s)
    (online : getData s.onlines t = some p) : Valid { s with
        onlines := eraseData s.onlines t
        live := Function.update s.live p false } := by
  refine ⟨?_, ?_, valid.owned, valid.made⟩
  · intro k q onlineK
    simp only [getData_eraseData] at onlineK
    split at onlineK
    · cases onlineK
    · rename_i other
      have apart : q ≠ p := by
        rintro rfl
        have first := (valid.online t q online).2
        have second := (valid.online k q onlineK).2
        exact other (first.symm.trans second)
      simpa [apart] using valid.online k q onlineK
  · intro q h live dreamHero
    by_cases here : q = p
    · simp [here] at live
    · simp [here] at live
      exact valid.attached q h live dreamHero

theorem valid_gateLost (gate : GateId) (gates : GateId → Option LinkPtr) (valid : Valid s) :
    Valid { s.removeUserByGate gate with gates := gates } := by
  refine ⟨?_, ?_, valid.owned, valid.made⟩
  · intro t p online
    obtain ⟨before, other⟩ := removeUserByGate_online.mp online
    obtain ⟨live, tranid⟩ := valid.online t p before
    exact ⟨removeUserByGate_live.mpr ⟨live, fun _ _ => other⟩, tranid⟩
  · intro p h live dreamHero
    exact valid.attached p h (removeUserByGate_live.mp live).1 dreamHero

theorem valid_attached {p : SessionPtr} (valid : Valid s)
    (hero : getData s.heros (s.sessions p).account = some h) : Valid { s with
        sessions := Function.update s.sessions p { s.sessions p with dreamHero := some h }
        heroAt := Function.update s.heroAt h
          ({ s.heroAt h with session := p }.setAccount (s.sessions p).account) } := by
  refine ⟨?_, ?_, ?_, valid.made⟩
  · intro t q online
    have before := valid.online t q online
    by_cases here : q = p
    · simpa [← here] using before
    · simpa [here] using before
  · intro q k live dreamHero
    by_cases here : q = p
    · subst here
      simp at dreamHero ⊢
      exact dreamHero ▸ hero
    · simp [here] at dreamHero ⊢
      exact valid.attached q k live dreamHero
  · intro b k listed
    have before := valid.owned b k listed
    by_cases here : k = h
    · subst here
      have same := (valid.owned _ _ hero).1.symm.trans before.1
      simp [DreamHero.setAccount, same, before.2.2]
    · simpa [here] using before

theorem getData_heros_insert (a b : Account) :
    getData (s.heros.insert a s.nextHero) b =
      if a = b then some s.nextHero else getData s.heros b := by
  simp [getData]

theorem valid_created {p : SessionPtr} {hero : DreamHero} (generateId : Nat) (valid : Valid s)
    (unknown : getData s.heros (s.sessions p).account = none)
    (account : hero.account = (s.sessions p).account)
    (info : hero.info.account = (s.sessions p).account) : Valid { s with
        sessions := Function.update s.sessions p
          { s.sessions p with dreamHero := some s.nextHero }
        heroAt := Function.update s.heroAt s.nextHero hero
        nextHero := s.nextHero + 1
        heros := s.heros.insert (s.sessions p).account s.nextHero
        generateId := generateId } := by
  have apart : ∀ b h, getData s.heros b = some h → (s.sessions p).account ≠ b := by
    intro b h listed same
    rw [same, listed] at unknown
    cases unknown
  refine ⟨?_, ?_, ?_, ?_⟩
  · intro t q online
    have before := valid.online t q online
    by_cases here : q = p
    · simpa [← here] using before
    · simpa [here] using before
  · intro q k live dreamHero
    by_cases here : q = p
    · subst here
      simp at dreamHero
      simp [getData, dreamHero]
    · simp [here] at dreamHero
      have before := valid.attached q k live dreamHero
      simpa [getData_heros_insert, here, apart _ k before] using before
  · intro b k listed
    rw [getData_heros_insert] at listed
    split at listed
    · rename_i same
      cases listed
      simp [account, info, same]
    · obtain ⟨ownAccount, ownInfo, old⟩ := valid.owned b k listed
      have other : k ≠ s.nextHero := Nat.ne_of_lt old
      simpa [other, ownAccount, ownInfo] using Nat.lt_succ_of_lt old
  · intro k made
    by_cases here : k = s.nextHero
    · exact ⟨(s.sessions p).account, by simp [getData, here]⟩
    · have old : k < s.nextHero := Nat.lt_of_le_of_ne (Nat.le_of_lt_succ made) here
      obtain ⟨a, listed⟩ := valid.made k old
      exact ⟨a, by simpa [getData_heros_insert, apart a k listed] using listed⟩

theorem valid_turn (turn : Turn s event s') (valid : Valid s) : Valid s' := by
  cases turn with
  | talked talks => exact valid_talks talks valid
  | joined free new unknown =>
    apply valid_joins valid free new
    · intro h impossible
      cases impossible
    · intro h
      exact ⟨rfl, rfl⟩
  | returned free new hero talks => exact valid_talks talks (valid_returns valid free new hero)
  | removed online => exact valid_removed valid online
  | @gateLost link gate gates frees => exact valid_gateLost gate gates valid
  | attached answers online hero talks => exact valid_talks talks (valid_attached valid hero)
  | created generateId answers online unknown session account info filledBy talks =>
    exact valid_talks talks (valid_created generateId valid unknown account info)

theorem valid_step (valid : Valid s) (event : Event) : Valid (step s event) :=
  valid_turn (step_turn valid event) valid

theorem step_handle (running : s.crashed = false) (event : Event) :
    step s event = handle s event := by
  rw [step, running]
  rfl

theorem step_crashed (crashed : s.crashed = true) (event : Event) : step s event = s := by
  rw [step, if_pos crashed]

theorem run_valid (config : HeroConfig) (generateId : Nat) (events : List Event) :
    Valid (run step (start config generateId) events) := by
  apply run_of_every
  · exact fun s event valid => valid_step valid event
  · exact valid_start config generateId

/-- The message saves the row of a hero under the account of that hero. -/
def SavesOwn (s : Server) (message : DatabaseMessage) : Prop :=
  ∀ h row, message = .saveData h (.character row) → getData s.heros row.accountId = some h

/-- What a step adds: messages to the database server and heroes, a default hero only for a
player whose hero the database server told to create. -/
structure Grown (s : Server) (event : Event) (s' : Server) : Prop where
  sent : ∃ more, s'.toDatabase = s.toDatabase ++ more ∧ ∀ entry ∈ more, SavesOwn s' entry.2
  heros : ∀ a h, getData s.heros a = some h →
    getData s'.heros a = some h ∧ (s'.heroAt h).filledBy = (s.heroAt h).filledBy
  created : ∀ a h, getData s'.heros a = some h → getData s.heros a = none →
    (s'.heroAt h).filledBy = .config → ∃ t p, event = .needCreateHero t ∧
      getData s.onlines t = some p ∧ (s.sessions p).account = a

theorem savesOwn_of_plain {message : DatabaseMessage} (plain : Plain s message) (valid : Valid s) :
    SavesOwn s message := by
  rintro h row rfl
  obtain ⟨⟨a, listed⟩, own⟩ := plain
  rw [own, (valid.owned a h listed).2.1]
  exact listed

/-- Talk that follows a change of the sessions and heroes adds what the change added. -/
theorem grown_talks {base : Server} (queue : base.toDatabase = s.toDatabase)
    (grown : Grown s event base) (valid : Valid base) (talks : Talks base s') :
    Grown s event s' where
  sent := by
    obtain ⟨more, longer, plain⟩ := talks.sent
    refine ⟨more, by rw [longer, queue], ?_⟩
    intro entry member
    exact savesOwn_of_plain (talks.plain.mpr (plain entry member)) (valid_talks talks valid)
  heros := by
    intro a h listed
    obtain ⟨kept, filledBy⟩ := grown.heros a h listed
    rw [talks.heros, (talks.heroAt h).2.2.2]
    exact ⟨kept, filledBy⟩
  created := by
    intro a h listed new config
    rw [talks.heros] at listed
    rw [(talks.heroAt h).2.2.2] at config
    exact grown.created a h listed new config

/-- A change that makes no hero. -/
theorem grown_of_heros (queue : ∃ more, s'.toDatabase = s.toDatabase ++ more ∧
      ∀ entry ∈ more, SavesOwn s' entry.2) (heros : s'.heros = s.heros)
    (filledBy : ∀ h, (s'.heroAt h).filledBy = (s.heroAt h).filledBy) : Grown s event s' where
  sent := queue
  heros := by
    intro a h listed
    rw [heros]
    exact ⟨listed, filledBy h⟩
  created := by
    intro a h listed new _
    rw [heros, new] at listed
    cases listed

theorem turn_grows (turn : Turn s event s') (valid : Valid s) : Grown s event s' := by
  have unsent : ∃ more, s.toDatabase = s.toDatabase ++ more ∧
      ∀ entry ∈ more, SavesOwn s' entry.2 := ⟨[], by simp⟩
  cases turn with
  | talked talks =>
    exact grown_talks rfl (grown_of_heros ⟨[], by simp⟩ rfl fun _ => rfl) valid talks
  | @joined link t a p free new unknown =>
    refine grown_of_heros ⟨[(t, .reqHeroData a)], rfl, ?_⟩ rfl fun _ => rfl
    intro entry member h row saves
    rw [List.mem_singleton.mp member] at saves
    cases saves
  | @returned link t a p h s' free new hero talks =>
    refine grown_talks ?_ (grown_of_heros ⟨[], by simp⟩ ?_ ?_)
      (valid_returns valid free new hero) talks
    · rfl
    · rfl
    intro k
    by_cases here : k = h
    · simp [here]
    · simp [here]
  | removed online => exact grown_of_heros unsent rfl fun _ => rfl
  | gateLost gates frees => exact grown_of_heros unsent rfl fun _ => rfl
  | @attached _ t p h s' answers online hero talks =>
    refine grown_talks ?_ (grown_of_heros ⟨[], by simp⟩ ?_ ?_) (valid_attached valid hero) talks
    · rfl
    · rfl
    intro k
    by_cases here : k = h
    · simp [here, DreamHero.setAccount]
    · simp [here]
  | @created _ t p hero s' generateId answers online unknown session account info filledBy talks =>
    refine grown_talks ?_ ⟨⟨[], by simp⟩, ?_, ?_⟩
      (valid_created generateId valid unknown account info) talks
    · rfl
    · intro a h listed
      have other : (s.sessions p).account ≠ a := by
        intro same
        rw [same, listed] at unknown
        cases unknown
      have old : h ≠ s.nextHero := Nat.ne_of_lt (valid.owned a h listed).2.2
      exact ⟨by simpa [getData_heros_insert, other] using listed, by simp [old]⟩
    · intro a h listed new config
      rw [getData_heros_insert] at listed
      split at listed
      · rename_i same
        cases listed
        simp at config
        exact ⟨t, p, filledBy config, online, same⟩
      · rw [new] at listed
        cases listed

theorem step_grows (valid : Valid s) (event : Event) : Grown s event (step s event) :=
  turn_grows (step_turn valid event) valid

end GameTurns
