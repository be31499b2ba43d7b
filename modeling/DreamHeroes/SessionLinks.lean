import DreamHeroes.GameTurns

/- Which heroes point to a session of their own. -/
namespace SessionLinks

open GameHero GameServer GameTalks GameTurns OrderedMaps ObjMap LabelledRuns

/-- The hero and the session its pointer names belong together. -/
structure HeroLinked (s : Server) (h : HeroPtr) : Prop where
  live : s.live (s.heroAt h).session = true
  online : ∃ t, getData s.onlines t = some (s.heroAt h).session
  account : (s.sessions (s.heroAt h).session).account = (s.heroAt h).account
  dreamHero : (s.sessions (s.heroAt h).session).dreamHero = some h

/-- Every hero is linked to its session, and no hero has used a released one. -/
structure Linked (s : Server) : Prop where
  heroes : ∀ a h, getData s.heros a = some h → HeroLinked s h
  unused : s.misused = false

/-- No session is released that a hero points to. -/
def SparesHeroes (s : Server) : Event → Prop
  | .removeUser t => s.crashed = false → ∀ p, getData s.onlines t = some p →
      ∀ a h, getData s.heros a = some h → (s.heroAt h).session ≠ p
  | .gateClose link => s.crashed = false → s.FreesGate link (s.gateId link) →
      ∀ t p, getData s.onlines t = some p → (s.sessions p).gate = s.gateId link →
        ∀ a h, getData s.heros a = some h → (s.heroAt h).session ≠ p
  | _ => True

variable {s s' : Server} {h : HeroPtr} {event : Event}

theorem linked_start (config : HeroConfig) (generateId : Nat) :
    Linked (start config generateId) where
  heroes := by
    intro a h hero
    cases hero
  unused := rfl

theorem heroLinked_talks (talks : Talks s s') (linked : HeroLinked s h) : HeroLinked s' h := by
  obtain ⟨session, account, _, _⟩ := talks.heroAt h
  obtain ⟨_, sessionAccount, dreamHero⟩ := talks.sessions (s.heroAt h).session
  constructor
  · rw [session, talks.live]
    exact linked.live
  · rw [session, talks.onlines]
    exact linked.online
  · rw [session, sessionAccount, account]
    exact linked.account
  · rw [session, dreamHero]
    exact linked.dreamHero

theorem linked_talks (talks : Talks s s') (linked : Linked s) : Linked s' where
  heroes := by
    intro a h hero
    rw [talks.heros] at hero
    exact heroLinked_talks talks (linked.heroes a h hero)
  unused := by
    rw [← Bool.not_eq_true]
    intro misused
    rcases talks.misused misused with before | ⟨a, h, hero, dead⟩
    · rw [linked.unused] at before
      cases before
    · rw [(linked.heroes a h hero).live] at dead
      cases dead

/-- A linked hero stays linked while its session stays online and keeps its owner. -/
theorem heroLinked_stays (linked : HeroLinked s h)
    (hero : s'.heroAt h = s.heroAt h)
    (session : s'.sessions (s.heroAt h).session = s.sessions (s.heroAt h).session)
    (live : s'.live (s.heroAt h).session = true)
    (online : ∀ t, getData s.onlines t = some (s.heroAt h).session →
      getData s'.onlines t = some (s.heroAt h).session) : HeroLinked s' h := by
  obtain ⟨t, before⟩ := linked.online
  constructor
  · rw [hero]
    exact live
  · rw [hero]
    exact ⟨t, online t before⟩
  · rw [hero, session]
    exact linked.account
  · rw [hero, session]
    exact linked.dreamHero

/-- The session of a linked hero tells whose hero it is. -/
theorem linked_owner (valid : Valid s) (linked : Linked s) {a : Account}
    (hero : getData s.heros a = some h) :
    getData s.heros (s.sessions (s.heroAt h).session).account = some h := by
  have mine := linked.heroes a h hero
  exact valid.attached _ h mine.live mine.dreamHero

theorem HeroLinked.ne_of_free {p : SessionPtr} (linked : HeroLinked s h)
    (free : s.live p = false) : (s.heroAt h).session ≠ p := by
  intro same
  rw [← same, linked.live] at free
  cases free

theorem linked_joined {t : TranId} {p : SessionPtr} {session : Session}
    {toDatabase : List (TranId × DatabaseMessage)} (linked : Linked s)
    (free : s.live p = false) : Linked { s with
      sessions := Function.update s.sessions p session
      live := Function.update s.live p true
      onlines := addData s.onlines t p
      toDatabase := toDatabase } := by
  refine ⟨?_, linked.unused⟩
  intro a h hero
  have mine := linked.heroes a h hero
  have other := mine.ne_of_free free
  apply heroLinked_stays mine
  · rfl
  · simp [other]
  · simpa [other] using mine.live
  · intro k online
    exact addData_keeps online

theorem linked_returned {t : TranId} {a : Account} {gate : GateId} {p : SessionPtr}
    (valid : Valid s) (linked : Linked s) (free : s.live p = false)
    (new : getData s.onlines t = none) (hero : getData s.heros a = some h) : Linked { s with
      sessions := Function.update s.sessions p ⟨t, a, gate, true, some h⟩
      live := Function.update s.live p true
      onlines := addData s.onlines t p
      heroAt := Function.update s.heroAt h { s.heroAt h with session := p } } := by
  refine ⟨?_, linked.unused⟩
  intro b k heroK
  by_cases here : k = h
  · subst here
    have account := (valid.owned a k hero).1
    constructor
    · simp
    · exact ⟨t, by simp [new]⟩
    · simp [account]
    · simp
  · have mine := linked.heroes b k heroK
    have other := mine.ne_of_free free
    apply heroLinked_stays mine
    · simp [here]
    · simp [other]
    · simpa [other] using mine.live
    · intro j online
      exact addData_keeps online

theorem linked_removed {t : TranId} {p : SessionPtr} (linked : Linked s)
    (online : getData s.onlines t = some p)
    (spares : ∀ a h, getData s.heros a = some h → (s.heroAt h).session ≠ p) : Linked { s with
      onlines := eraseData s.onlines t
      live := Function.update s.live p false } := by
  refine ⟨?_, linked.unused⟩
  intro a h hero
  have mine := linked.heroes a h hero
  have other := spares a h hero
  apply heroLinked_stays mine
  · rfl
  · rfl
  · simpa [other] using mine.live
  · intro k onlineK
    have apart : t ≠ k := by
      rintro rfl
      rw [online] at onlineK
      exact other (Option.some.inj onlineK).symm
    simpa [apart] using onlineK

theorem linked_gateLost {gate : GateId} {gates : GateId → Option LinkPtr} (linked : Linked s)
    (spares : ∀ t p, getData s.onlines t = some p → (s.sessions p).gate = gate →
      ∀ a h, getData s.heros a = some h → (s.heroAt h).session ≠ p) :
    Linked { s.removeUserByGate gate with gates := gates } := by
  refine ⟨?_, linked.unused⟩
  intro a h hero
  have mine := linked.heroes a h hero
  have other : ∀ t, getData s.onlines t = some (s.heroAt h).session →
      (s.sessions (s.heroAt h).session).gate ≠ gate := by
    intro t online bound
    exact spares t _ online bound a h hero rfl
  apply heroLinked_stays mine
  · rfl
  · rfl
  · exact removeUserByGate_live.mpr ⟨mine.live, other⟩
  · intro t online
    exact removeUserByGate_online.mpr ⟨online, other t online⟩

theorem linked_attached {t : TranId} {p : SessionPtr} (valid : Valid s) (linked : Linked s)
    (online : getData s.onlines t = some p)
    (hero : getData s.heros (s.sessions p).account = some h) : Linked { s with
      sessions := Function.update s.sessions p { s.sessions p with dreamHero := some h }
      heroAt := Function.update s.heroAt h
        ({ s.heroAt h with session := p }.setAccount (s.sessions p).account) } := by
  refine ⟨?_, linked.unused⟩
  intro b k heroK
  by_cases here : k = h
  · subst here
    constructor
    · simpa [DreamHero.setAccount] using (valid.online t p online).1
    · exact ⟨t, by simpa [DreamHero.setAccount] using online⟩
    · simp [DreamHero.setAccount]
    · simp [DreamHero.setAccount]
  · have mine := linked.heroes b k heroK
    have other : (s.heroAt k).session ≠ p := by
      intro same
      have owner := linked_owner valid linked heroK
      rw [same, hero] at owner
      exact here (Option.some.inj owner).symm
    apply heroLinked_stays mine
    · simp [here]
    · simp [other]
    · exact mine.live
    · intro j onlineK
      exact onlineK

theorem linked_created {t : TranId} {p : SessionPtr} {hero : DreamHero} {generateId : Nat}
    (valid : Valid s) (linked : Linked s) (online : getData s.onlines t = some p)
    (unknown : getData s.heros (s.sessions p).account = none) (session : hero.session = p)
    (account : hero.account = (s.sessions p).account) : Linked { s with
      sessions := Function.update s.sessions p
        { s.sessions p with dreamHero := some s.nextHero }
      heroAt := Function.update s.heroAt s.nextHero hero
      nextHero := s.nextHero + 1
      heros := s.heros.insert (s.sessions p).account s.nextHero
      generateId := generateId } := by
  refine ⟨?_, linked.unused⟩
  intro b k heroK
  rw [getData_heros_insert] at heroK
  split at heroK
  · cases heroK
    constructor
    · simpa [session] using (valid.online t p online).1
    · exact ⟨t, by simpa [session] using online⟩
    · simp [session, account]
    · simp [session]
  · have old := (valid.owned b k heroK).2.2
    have here : k ≠ s.nextHero := Nat.ne_of_lt old
    have mine := linked.heroes b k heroK
    have other : (s.heroAt k).session ≠ p := by
      intro same
      have owner := linked_owner valid linked heroK
      rw [same, unknown] at owner
      cases owner
    apply heroLinked_stays mine
    · simp [here]
    · simp [other]
    · exact mine.live
    · intro j onlineK
      exact onlineK

theorem linked_turn (turn : Turn s event s') (valid : Valid s) (spares : SparesHeroes s event)
    (running : s.crashed = false) (linked : Linked s) : Linked s' := by
  cases turn with
  | talked talks => exact linked_talks talks linked
  | joined free new unknown => exact linked_joined linked free
  | returned free new hero talks =>
    exact linked_talks talks (linked_returned valid linked free new hero)
  | removed online => exact linked_removed linked online (spares running _ online)
  | gateLost gates frees =>
    have own := frees.1
    subst own
    exact linked_gateLost linked (spares running frees)
  | attached answers online hero talks =>
    exact linked_talks talks (linked_attached valid linked online hero)
  | created generateId answers online unknown session account info filledBy talks =>
    exact linked_talks talks (linked_created valid linked online unknown session account)

theorem linked_step (event : Event) (valid : Valid s) (spares : SparesHeroes s event)
    (linked : Linked s) : Linked (step s event) := by
  cases running : s.crashed with
  | true =>
    rw [step, if_pos running]
    exact linked
  | false => exact linked_turn (step_turn valid event) valid spares running linked

/-- A release that does not spare a hero leaves it with a dead session. -/
theorem spares_of_linked (linked : Linked (step s event)) : SparesHeroes s event := by
  cases event with
  | removeUser t =>
    intro running p online a h hero same
    simp only [step, running, handle, Server.removeUser, online] at linked
    have live := (linked.heroes a h hero).live
    simp [same] at live
  | gateClose link =>
    intro running frees t p online bound a h hero same
    have lost : step s (.gateClose link) = { s.removeUserByGate (s.gateId link) with
        gates := Function.update s.gates (s.gateId link) none } := by
      simp only [step, running, handle, Server.removeGate]
      exact if_pos frees.2
    rw [lost] at linked
    have live := (linked.heroes a h hero).live
    have other := (removeUserByGate_live.mp live).2 t (same ▸ online)
    exact other (same ▸ bound)
  | _ => trivial

/-- Every hero keeps a session of its own exactly in the runs that release no session a hero
points to. -/
theorem linked_iff_spares (config : HeroConfig) (generateId : Nat) (events : List Event) :
    EveryState step Linked (start config generateId) events ↔
      EveryStep step SparesHeroes (start config generateId) events := by
  apply everyState_iff_everyStep (fun s => Valid s ∧ Linked s) fun _ => True
  · intro s both
    exact both.2
  · intro s event _ both spares
    exact ⟨valid_step both.1 event, linked_step event both.1 spares both.2⟩
  · intro s event _ _ after
    exact spares_of_linked after
  · exact ⟨valid_start config generateId, linked_start config generateId⟩
  · intro event _
    trivial

/-- A removed player leaves a hero that points to a released session, and the next save tick
reads it. -/
theorem removed_player_not_linked :
    ¬ EveryState step Linked (start ⟨0, 0, 1, [], .empty⟩ 0) [.gateRegister 0 1,
      .addUser 0 5 9 70, .needCreateHero 5, .removeUser 5] ∧
    (run step (start ⟨0, 0, 1, [], .empty⟩ 0) [.gateRegister 0 1, .addUser 0 5 9 70,
      .needCreateHero 5, .removeUser 5, .saveTick 0]).misused = true := by
  constructor
  · intro all
    have live := ((everyState_last all).heroes 9 0 rfl).live
    cases live
  · decide

end SessionLinks
