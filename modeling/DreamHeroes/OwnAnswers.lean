import DreamHeroes.SessionLinks

/- To whom the game server answers: while no account has two sessions, what a step says to the
   gates goes to the transid the step is about. -/
namespace OwnAnswers

open GameHero GameServer GameTalks GameTurns OrderedMaps ObjMap LabelledRuns

variable {s s' s'' : Server} {h : HeroPtr} {p : SessionPtr} {event : Event}

/-- The transid of the user an event comes from or is for. -/
def about : Event → Option TranId
  | .addUser _ t _ _ => some t
  | .userMsg t _ => some t
  | .heroData t _ => some t
  | .needCreateHero t => some t
  | .verifyToy t _ _ => some t
  | .verifyToyError t _ _ => some t
  | _ => none

/-- Everything said to the gates goes to the transid the event is about, over the link of the
gate that its session came from. -/
def Told (s : Server) (event : Event) (s' : Server) : Prop :=
  ∃ more, s'.toGates = s.toGates ++ more ∧ ∀ entry ∈ more, ∃ t p, about event = some t ∧
    getData s'.onlines t = some p ∧ entry.2.1 = t ∧ s.gates (s'.sessions p).gate = some entry.1

/-- A transid is not added for an account that has a session already. -/
def Apart (s : Server) : Event → Prop
  | .addUser _ t a _ => getData s.onlines t = none →
      ∀ k q, getData s.onlines k = some q → (s.sessions q).account ≠ a
  | _ => True

/-- No account has two sessions, and the hero of a session points back to it. -/
structure Paired (s : Server) : Prop where
  single : ∀ t k p q, getData s.onlines t = some p → getData s.onlines k = some q →
    (s.sessions p).account = (s.sessions q).account → p = q
  faced : ∀ t p h, getData s.onlines t = some p → (s.sessions p).dreamHero = some h →
    (s.heroAt h).session = p

theorem paired_talks (talks : Talks s s') (paired : Paired s) : Paired s' where
  single := by
    intro t k p q online other same
    rw [talks.onlines] at online other
    rw [(talks.sessions p).2.1, (talks.sessions q).2.1] at same
    exact paired.single t k p q online other same
  faced := by
    intro t p h online hero
    rw [talks.onlines] at online
    rw [(talks.sessions p).2.2] at hero
    rw [(talks.heroAt h).1]
    exact paired.faced t p h online hero

/-- The session of a new transid, whose account had none; its hero, if any, points to it. -/
theorem paired_joins {t : TranId} {a : Account} {gate : GateId} {hero : Option HeroPtr}
    {heroAt : HeroPtr → DreamHero} {toDatabase : List (TranId × DatabaseMessage)}
    (valid : Valid s) (paired : Paired s) (free : s.live p = false)
    (new : getData s.onlines t = none)
    (apart : ∀ k q, getData s.onlines k = some q → (s.sessions q).account ≠ a)
    (attached : ∀ h, hero = some h → getData s.heros a = some h ∧ (heroAt h).session = p)
    (others : ∀ h, hero ≠ some h → (heroAt h).session = (s.heroAt h).session) : Paired { s with
      sessions := Function.update s.sessions p ⟨t, a, gate, true, hero⟩
      live := Function.update s.live p true
      onlines := addData s.onlines t p
      heroAt := heroAt
      toDatabase := toDatabase } := by
  have split : ∀ k q, getData (addData s.onlines t p) k = some q →
      q = p ∨ q ≠ p ∧ getData s.onlines k = some q := by
    intro k q online
    rw [getData_addData] at online
    split at online
    · rename_i here
      rw [new] at online
      exact .inl (Option.some.inj online).symm
    · exact .inr ⟨valid.fresh free online, online⟩
  constructor
  · intro j k q r online other same
    rcases split j q online with here | ⟨away, old⟩ <;>
      rcases split k r other with here' | ⟨away', old'⟩
    · rw [here, here']
    · rw [here] at same
      simp only [Function.update_self, Function.update_of_ne away'] at same
      exact absurd same.symm (apart k r old')
    · rw [here'] at same
      simp only [Function.update_self, Function.update_of_ne away] at same
      exact absurd same (apart j q old)
    · simp only [Function.update_of_ne away, Function.update_of_ne away'] at same
      exact paired.single j k q r old old' same
  · intro k q h online dreamHero
    rcases split k q online with here | ⟨away, old⟩
    · rw [here] at dreamHero ⊢
      simp only [Function.update_self] at dreamHero
      exact (attached h dreamHero).2
    · simp only [Function.update_of_ne away] at dreamHero
      have listed := valid.attached q h (valid.online k q old).1 dreamHero
      have other : hero ≠ some h := by
        intro same
        have owner := (valid.owned _ h (attached h same).1).1
        exact apart k q old ((valid.owned _ h listed).1.symm.trans owner)
      rw [others h other]
      exact paired.faced k q h old dreamHero

/-- Sessions that go leave the others as they were. -/
theorem paired_shrinks {onlines : OrderedMap TranId SessionPtr} {live : SessionPtr → Bool}
    {gates : GateId → Option LinkPtr} (paired : Paired s)
    (fewer : ∀ t p, getData onlines t = some p → getData s.onlines t = some p) :
    Paired { s with onlines := onlines, live := live, gates := gates } where
  single := by
    intro t k p q online other
    exact paired.single t k p q (fewer t p online) (fewer k q other)
  faced := by
    intro t p h online
    exact paired.faced t p h (fewer t p online)

/-- A session that gets a hero keeps its account. -/
theorem account_attached (s : Server) (p q : SessionPtr) (hero : Option HeroPtr) :
    (Function.update s.sessions p { s.sessions p with dreamHero := hero } q).account =
      (s.sessions q).account := by
  by_cases here : q = p
  · rw [here, Function.update_self]
  · rw [Function.update_of_ne here]

/-- A session gets the hero of its account. -/
theorem paired_attaches {hero : DreamHero} {nextHero generateId : Nat}
    {heros : OrderedMap Account HeroPtr} (paired : Paired s) (session : hero.session = p)
    (alone : ∀ k q, getData s.onlines k = some q → (s.sessions q).dreamHero = some h → q = p) :
    Paired { s with
      sessions := Function.update s.sessions p { s.sessions p with dreamHero := some h }
      heroAt := Function.update s.heroAt h hero
      nextHero := nextHero
      heros := heros
      generateId := generateId } := by
  constructor
  · intro j k q r there other same
    rw [account_attached, account_attached] at same
    exact paired.single j k q r there other same
  · intro k q g there dreamHero
    by_cases here : q = p
    · rw [here] at dreamHero ⊢
      simp only [Function.update_self, Option.some.injEq] at dreamHero
      rw [← dreamHero]
      simp only [Function.update_self, session]
    · simp only [Function.update_of_ne here] at dreamHero
      have other : g ≠ h := by
        intro same
        rw [same] at dreamHero
        exact here (alone k q there dreamHero)
      simp only [Function.update_of_ne other]
      exact paired.faced k q g there dreamHero

theorem paired_turn (turn : Turn s event s') (valid : Valid s) (apart : Apart s event)
    (paired : Paired s) : Paired s' := by
  cases turn with
  | talked talks => exact paired_talks talks paired
  | joined free new unknown =>
    apply paired_joins valid paired free new (apart new)
    · intro h none
      cases none
    · intro h _
      rfl
  | @returned link t a p h s' free new hero talks =>
    apply paired_talks talks
    apply paired_joins valid paired free new (apart new)
    · intro k same
      cases same
      exact ⟨hero, by rw [Function.update_self]⟩
    · intro k other
      have apart : k ≠ h := fun same => other (congrArg some same.symm)
      rw [Function.update_of_ne apart]
  | removed online => exact paired_shrinks paired fun _ _ => getData_of_eraseData
  | gateLost gates frees =>
    apply paired_shrinks (s := s) paired
    intro t p online
    exact (removeUserByGate_online.mp online).1
  | @attached event t p h s' answers online hero talks =>
    apply paired_talks talks
    apply paired_attaches (p := p) paired rfl
    intro k q other dreamHero
    have listed := valid.attached q h (valid.online k q other).1 dreamHero
    have owner := (valid.owned _ h listed).1
    exact paired.single k t q p other online (owner.symm.trans (valid.owned _ h hero).1)
  | @created event t p hero s' generateId answers online unknown session account info filledBy
      talks =>
    apply paired_talks talks
    apply paired_attaches paired session
    intro k q other dreamHero
    have listed := valid.attached q _ (valid.online k q other).1 dreamHero
    exact absurd (valid.owned _ _ listed).2.2 (Nat.lt_irrefl _)

theorem paired_start (config : HeroConfig) (generateId : Nat) :
    Paired (start config generateId) where
  single := by
    intro t k p q online
    cases online
  faced := by
    intro t p h online
    cases online

/- What is said while a session is served. -/

/-- Nobody comes or goes, and what is said goes to the session. -/
structure Tells (p : SessionPtr) (s s' : Server) : Prop where
  sent : ∃ more, s'.toGates = s.toGates ++ more ∧ ∀ entry ∈ more,
    entry.2.1 = (s.sessions p).tranid ∧ s.gates (s.sessions p).gate = some entry.1
  sessions : s'.sessions = s.sessions
  gates : s'.gates = s.gates
  onlines : s'.onlines = s.onlines
  faces : ∀ h, (s'.heroAt h).session = (s.heroAt h).session

theorem Tells.refl (p : SessionPtr) (s : Server) : Tells p s s where
  sent := ⟨[], (List.append_nil _).symm, fun _ none => nomatch none⟩
  sessions := rfl
  gates := rfl
  onlines := rfl
  faces := fun _ => rfl

theorem Tells.trans (first : Tells p s s') (second : Tells p s' s'') : Tells p s s'' where
  sent := by
    obtain ⟨more, grown, own⟩ := first.sent
    obtain ⟨later, grown', own'⟩ := second.sent
    refine ⟨more ++ later, by rw [grown', grown, List.append_assoc], ?_⟩
    intro entry member
    rcases List.mem_append.mp member with here | there
    · exact own entry here
    · rw [← first.sessions, ← first.gates]
      exact own' entry there
  sessions := second.sessions.trans first.sessions
  gates := second.gates.trans first.gates
  onlines := second.onlines.trans first.onlines
  faces := fun h => (second.faces h).trans (first.faces h)

theorem tells_setHero {hero : DreamHero} (same : hero.session = (s.heroAt h).session) :
    Tells p s (s.setHero h hero) :=
  { Tells.refl p s with
    faces := by
      intro k
      by_cases here : k = h
      · rw [here]
        simpa [Server.setHero] using same
      · simp [Server.setHero, here] }

theorem tells_sendMessage (message : ClientMessage) :
    Tells p s (s.sendMessage message (s.sessions p).tranid (s.sessions p).gate) := by
  unfold Server.sendMessage
  split
  · split
    · rename_i link found
      refine { Tells.refl p s with sent := ⟨_, rfl, ?_⟩ }
      intro entry member
      rw [List.mem_singleton.mp member]
      exact ⟨rfl, found⟩
    · exact .refl p s
  · exact .refl p s

theorem tells_heroSend (faced : (s.heroAt h).session = p) (message : ClientMessage) :
    Tells p s (s.heroSend h message) := by
  have used : Tells p s (s.useSession p) := { Tells.refl p s with }
  unfold Server.heroSend Server.sessionSend
  rw [faced]
  split
  · exact used.trans (tells_sendMessage message)
  · exact used

theorem tells_heroSends (faced : (s.heroAt h).session = p) (messages : List ClientMessage) :
    Tells p s (messages.foldl (Server.heroSend · h) s) := by
  induction messages generalizing s with
  | nil => exact .refl p s
  | cons message rest ih =>
    have first := tells_heroSend faced message
    exact first.trans (ih ((first.faces h).trans faced))

theorem tells_sendClientInit (faced : (s.heroAt h).session = p) :
    Tells p s (s.sendClientInit h) := by
  have saving : Tells p s (s.setHero h { s.heroAt h with saving := true }) := tells_setHero rfl
  have sending := tells_heroSends ((saving.faces h).trans faced)
    ((s.setHero h { s.heroAt h with saving := true }).heroAt h).clientInit
  exact (saving.trans sending).trans (tells_setHero rfl)

theorem tells_answer (faced : (s.heroAt h).session = p) {result : DreamHero × ClientMessage}
    (same : result.1.session = (s.heroAt h).session) : Tells p s (s.answer h result) := by
  have changed : Tells p s (s.setHero h result.1) := tells_setHero same
  exact changed.trans (tells_heroSend ((changed.faces h).trans faced) result.2)

theorem tells_heroRequest (faced : (s.heroAt h).session = p) (request : ClientRequest) :
    Tells p s (s.heroRequest h request) := by
  cases request with
  | modifySuitName suitId suitName =>
    exact tells_answer faced (modifySuitName_sameOwner (s.heroAt h) suitId suitName).1.1
  | modifySuit suit => exact tells_answer faced rfl
  | delSuit suitId =>
    simp only [Server.heroRequest]
    split
    · rename_i result done
      exact tells_answer faced (delSuit_sameOwner done).1.1
    · exact { Tells.refl p s with }
  | verifyToyCDKey cdKey =>
    simp only [Server.heroRequest, Server.verifyToyCDKey]
    split
    · exact tells_heroSend faced _
    · exact { Tells.refl p s with }

theorem tells_removeToyOf (a : Account) (cdKey : CdKey) (owner : Account) :
    Tells p s (s.removeToyOf a cdKey owner) := by
  unfold Server.removeToyOf
  split
  · rename_i h found
    have removed : Tells p s (s.setHero h ((s.heroAt h).removeToyByCDKey cdKey)) := by
      apply tells_setHero
      exact rfl
    exact { removed with }
  · exact .refl p s

theorem tells_verifyToy (faced : (s.heroAt h).session = p) (toy : MsgToyData) (a : Account) :
    Tells p s (s.verifyToy h toy a) := by
  have removed := @tells_removeToyOf s p a toy.toyCdKey (s.heroAt h).account
  unfold Server.verifyToy
  simp only
  split
  · exact removed
  · have inserted := @tells_setHero (s.removeToyOf a toy.toyCdKey (s.heroAt h).account) h p
      (((s.removeToyOf a toy.toyCdKey (s.heroAt h).account).heroAt h).insertToy toy) rfl
    have both := removed.trans inserted
    exact both.trans (tells_heroSend ((both.faces h).trans faced) _)

/- What saving leaves alone. -/

/-- Only the queue to the database server grew, or the server crashed. -/
def Saves (s r : Server) : Prop := ∃ toDatabase misused crashed,
  r = { s with toDatabase := toDatabase, misused := misused, crashed := crashed }

theorem Saves.trans (first : Saves s s') (second : Saves s' s'') : Saves s s'' := by
  obtain ⟨_, _, _, rfl⟩ := first
  obtain ⟨_, _, _, rfl⟩ := second
  exact ⟨_, _, _, rfl⟩

theorem Saves.toGates (saves : Saves s s') : s'.toGates = s.toGates := by
  obtain ⟨_, _, _, rfl⟩ := saves
  rfl

theorem saves_statements (s : Server) (h : HeroPtr) (flag : TranId)
    (statements : List SaveStatement) :
    Saves s (statements.foldl (fun s statement => s.sendDatabase flag (.saveData h statement))
      s) := by
  induction statements generalizing s with
  | nil => exact ⟨_, _, _, rfl⟩
  | cons statement rest ih =>
    have first : Saves s (s.sendDatabase flag (.saveData h statement)) := ⟨_, _, _, rfl⟩
    exact first.trans (ih _)

theorem saves_saveHero (s : Server) (h : HeroPtr) : Saves s (s.saveHero h) := by
  unfold Server.saveHero
  split
  · have used : Saves s (s.useSession (s.heroAt h).session) := ⟨_, _, _, rfl⟩
    exact used.trans (saves_statements _ _ _ _)
  · exact ⟨_, _, _, rfl⟩

theorem saves_heroes (s : Server) (entries : List (Account × HeroPtr)) :
    Saves s (entries.foldl (fun s entry => s.saveHero entry.2) s) := by
  induction entries generalizing s with
  | nil => exact ⟨_, _, _, rfl⟩
  | cons entry rest ih => exact (saves_saveHero s entry.2).trans (ih _)

theorem saves_saveDreamHeroes (s : Server) : Saves s s.saveDreamHeroes := by
  have saved := saves_heroes s s.heros.entries
  exact saved.trans ⟨_, _, _, rfl⟩

theorem told_silent (silent : s'.toGates = s.toGates) : Told s event s' :=
  ⟨[], by rw [silent, List.append_nil], fun _ none => nomatch none⟩

/-- What is said to a session of the transid once its hero is in place. -/
theorem told_tells {base : Server} {t : TranId} (tells : Tells p base s'')
    (asked : about event = some t) (toGates : base.toGates = s.toGates)
    (gates : base.gates = s.gates) (tranid : (base.sessions p).tranid = t)
    (said : s'.toGates = s''.toGates) (sessions : s'.sessions = s''.sessions)
    (online : getData s'.onlines t = some p) : Told s event s' := by
  obtain ⟨more, grown, own⟩ := tells.sent
  refine ⟨more, by rw [said, grown, toGates], ?_⟩
  intro entry member
  obtain ⟨flag, link⟩ := own entry member
  refine ⟨t, p, asked, online, flag.trans tranid, ?_⟩
  rw [sessions, tells.sessions, ← gates]
  exact link

/-- A hero that is there already answers on its session. -/
theorem told_served {t : TranId} (valid : Valid s) (online : getData s.onlines t = some p)
    (asked : about event = some t) (tells : Tells p s s') : Told s event s' := by
  apply told_tells tells asked rfl rfl (valid.online t p online).2 rfl rfl
  rw [tells.onlines]
  exact online

/-- CreateHero says nothing, and the hero it returns points to the session. -/
structure Creates (s : Server) (p : SessionPtr) (created : Server × HeroPtr) : Prop where
  toGates : created.1.toGates = s.toGates
  gates : created.1.gates = s.gates
  sessions : created.1.sessions = s.sessions
  onlines : created.1.onlines = s.onlines
  faced : (created.1.heroAt created.2).session = p

theorem createHero_creates (msg : MsgHeroDataDB2GS) (a : Account) :
    Creates s p (s.createHero msg a p) := by
  unfold Server.createHero
  split
  · refine ⟨rfl, rfl, rfl, rfl, ?_⟩
    simp only [Server.setHero, Function.update_self]
    rfl
  · refine ⟨rfl, rfl, rfl, rfl, ?_⟩
    simp only [Server.setHero, Function.update_self]
    rfl

theorem createDefaultHero_creates (a : Account) : Creates s p (s.createDefaultHero a p) := by
  unfold Server.createDefaultHero
  split
  · refine ⟨rfl, rfl, rfl, rfl, ?_⟩
    simp only [Server.setHero, Function.update_self]
    rfl
  · refine ⟨rfl, rfl, rfl, rfl, ?_⟩
    simp only [Server.setHero, Function.update_self]
    rfl

theorem told_attachHero {t : TranId} {created : Server × HeroPtr} (valid : Valid s)
    (online : getData s.onlines t = some p) (asked : about event = some t)
    (creates : Creates s p created) : Told s event (Server.attachHero created p) := by
  have tells := @tells_sendClientInit (created.1.setSession p
    { created.1.sessions p with dreamHero := some created.2 }) created.2 p creates.faced
  refine told_tells tells asked creates.toGates creates.gates ?_ rfl rfl ?_
  · simp only [Server.setSession, Function.update_self, creates.sessions]
    exact (valid.online t p online).2
  · have same := tells.onlines
    rw [Server.attachHero, same]
    simp only [Server.setSession, creates.onlines]
    exact online

theorem told_addUser {link : LinkPtr} {t : TranId} {a : Account} {gate : GateId} :
    Told s (.addUser link t a p) (s.addUser t a gate p) := by
  unfold Server.addUser
  split
  · rename_i new
    cases hero : getData s.heros a with
    | none =>
      apply told_silent
      simp only [Server.newSession, Server.setSession, Server.sendDatabase, hero]
    | some h =>
      have tells := tells_sendClientInit (s := { s with
        sessions := Function.update s.sessions p ⟨t, a, gate, true, some h⟩
        live := Function.update s.live p true
        heroAt := Function.update s.heroAt h { s.heroAt h with session := p } }) (h := h) (p := p)
        (by simp only [Function.update_self])
      simp only [Server.newSession, Server.setSession, Server.setHero, hero, Function.update_idem]
      refine told_tells (s := s) (t := t) tells rfl rfl rfl ?_ rfl rfl ?_
      · simp only [Function.update_self]
      · simp only [tells.onlines, getData_addData, if_true, new, Option.getD_none]
  · rename_i q online
    split
    · apply told_silent
      unfold Server.setReconnet
      simp only
      split <;> rfl
    · exact told_silent rfl

theorem told_step (event : Event) (valid : Valid s) (paired : Paired s) :
    Told s event (step s event) := by
  unfold step
  split
  · exact told_silent rfl
  · cases event with
    | gateRegister link serverid =>
      obtain ⟨gates, registered⟩ := parseGateRegister_eq s link serverid
      rw [handle, registered]
      exact told_silent rfl
    | gateClose link =>
      simp only [handle, Server.removeGate]
      split
      · exact told_silent rfl
      · exact told_silent rfl
    | addUser link t a p =>
      simp only [handle]
      split
      · exact told_silent rfl
      · exact told_addUser
    | offlineUser t =>
      apply told_silent
      simp only [handle, Server.offlineUser]
      split
      · unfold Server.setWaitReconnet
        simp only
        split <;> rfl
      · rfl
    | removeUser t =>
      apply told_silent
      simp only [handle, Server.removeUser]
      split <;> rfl
    | userMsg t request =>
      simp only [handle, Server.parseUserMsg]
      split
      · rename_i p online
        split
        · rename_i h hero
          exact told_served valid online rfl (tells_heroRequest (paired.faced t p h online hero) _)
        · exact told_silent rfl
      · exact told_silent rfl
    | heroData t msg =>
      simp only [handle, Server.parseQueryHeroInfo]
      split
      · rename_i p online
        exact told_attachHero valid online rfl (createHero_creates msg _)
      · exact told_silent rfl
    | needCreateHero t =>
      simp only [handle, Server.parseNeedCreateHero]
      split
      · rename_i p online
        exact told_attachHero valid online rfl (createDefaultHero_creates _)
      · exact told_silent rfl
    | verifyToy t toy a =>
      simp only [handle, Server.parseMsgVerifyToy]
      split
      · rename_i p online
        split
        · rename_i h hero
          exact told_served valid online rfl (tells_verifyToy (paired.faced t p h online hero) _ _)
        · exact told_silent rfl
      · exact told_silent rfl
    | verifyToyError t cdKey error =>
      simp only [handle, Server.parseMsgVerifyToyError]
      split
      · rename_i p online
        split
        · rename_i h hero
          exact told_served valid online rfl (tells_heroSend (paired.faced t p h online hero) _)
        · exact told_silent rfl
      · exact told_silent rfl
    | saveTick h =>
      apply told_silent
      simp only [handle, Server.saveTick]
      split
      · exact (saves_saveHero s h).toGates
      · rfl
    | setStop => exact told_silent (saves_saveDreamHeroes s).toGates

/-- In every run in which no account gets a second session, each step answers to nobody but the
user it is about: no client hears what is meant for another. -/
theorem answers_own (config : HeroConfig) (generateId : Nat) (events : List Event)
    (apart : EveryStep step Apart (start config generateId) events) :
    EveryStep step (fun s event => Told s event (step s event)) (start config generateId) events := by
  have kept : ∀ s event, Valid s ∧ Paired s → Apart s event →
      Valid (step s event) ∧ Paired (step s event) := by
    intro s event both apart
    exact ⟨valid_step both.1 event, paired_turn (step_turn both.1 event) both.1 apart both.2⟩
  apply everyStep_of_invariant kept _ _ apart
  · intro s event both _
    exact told_step event both.1 both.2
  · exact ⟨valid_start config generateId, paired_start config generateId⟩

/-- Two players who have their heroes, and each of them asks. -/
def twoPlayers : List Event := [.gateRegister 0 1, .addUser 0 5 9 70, .needCreateHero 5,
  .addUser 0 6 8 71, .needCreateHero 6, .userMsg 6 (.delSuit 1), .userMsg 5 (.delSuit 1)]

theorem apart_twoPlayers : EveryStep step Apart (start ⟨0, 0, 1, [], .empty⟩ 0) twoPlayers := by
  refine ⟨trivial, ?_, trivial, ?_, trivial, trivial, trivial, trivial⟩
  · intro _ k q online
    cases online
  · intro _ k q online
    have listed : (run step (start ⟨0, 0, 1, [], .empty⟩ 0) [.gateRegister 0 1,
        .addUser 0 5 9 70, .needCreateHero 5]).onlines.entries = [(5, 70)] := by decide +kernel
    have member := OrderedMap.find?_eq_some.mp online
    rw [run, run, run, run] at listed
    rw [listed, List.mem_singleton] at member
    cases member
    decide +kernel

theorem twoPlayers_answered : EveryStep step (fun s event => Told s event (step s event))
    (start ⟨0, 0, 1, [], .empty⟩ 0) twoPlayers :=
  answers_own _ _ _ apart_twoPlayers

/- With two sessions of one account, what transid 5 asks is answered to transid 6. -/
example : ((run step (start ⟨0, 0, 1, [], .empty⟩ 0) [.gateRegister 0 1, .addUser 0 5 9 70,
    .needCreateHero 5, .addUser 0 6 9 71, .userMsg 5 (.delSuit 1)]).toGates.map (·.2.1)).getLast? =
      some 6 := by decide +kernel

end OwnAnswers
