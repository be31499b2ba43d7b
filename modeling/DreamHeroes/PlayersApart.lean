import DreamHeroes.ForgedMessages
import DreamHeroes.HeroPointers
import DreamHeroes.OwnAnswers
import DreamHeroes.Unwinding

/- What the players of other accounts ask for: nobody else is told another word because of it,
   and no other hero changes. -/
namespace PlayersApart

open SuitText (MsgSuitData cStr)
open GameHero GameServer GameTurns HeroRequests OwnAnswers OrderedMaps ObjMap LabelledRuns
  Unwinding

variable {a : Account} {s s' r r' q q' : Server} {h : HeroPtr} {p : SessionPtr} {event : Event}

/-- The account that the user of an event plays. -/
def owner (s : Server) : Event → Option Account
  | .addUser _ t b _ =>
      match getData s.onlines t with
      | some p => some (s.sessions p).account
      | none => some b
  | event => (about event).bind fun t =>
      (getData s.onlines t).map fun p => (s.sessions p).account

/-- A request of a client that plays another account. -/
def fromOthers (a : Account) (s : Server) : Event → Bool
  | .userMsg t request => owner s (.userMsg t request) ≠ some a
  | _ => false

/-- What a step says to the gates for transids with which the account is played. -/
def hears (a : Account) (s : Server) (event : Event) : List (LinkPtr × TranId × ClientMessage) :=
  ((step s event).toGates.drop s.toGates.length).filter fun entry =>
    match getData (step s event).onlines entry.2.1 with
    | some p => ((step s event).sessions p).account = a
    | none => false

/-- The servers differ in the suits of other heroes, and in what was said and what failed. -/
structure Alike (a : Account) (s s' : Server) : Prop where
  gates : s'.gates = s.gates
  gateId : s'.gateId = s.gateId
  sessions : s'.sessions = s.sessions
  live : s'.live = s.live
  onlines : s'.onlines = s.onlines
  nextHero : s'.nextHero = s.nextHero
  heros : s'.heros = s.heros
  config : s'.config = s.config
  generateId : s'.generateId = s.generateId
  heroes : ∀ h, ∃ suits, s'.heroAt h = withSuits (s.heroAt h) suits
  own : ∀ h, getData s.heros a = some h → s'.heroAt h = s.heroAt h

theorem Alike.refl (a : Account) (s : Server) : Alike a s s where
  gates := rfl
  gateId := rfl
  sessions := rfl
  live := rfl
  onlines := rfl
  nextHero := rfl
  heros := rfl
  config := rfl
  generateId := rfl
  heroes := fun h => ⟨(s.heroAt h).info.suits, rfl⟩
  own := fun _ _ => rfl

theorem Alike.session (alike : Alike a s s') (h : HeroPtr) :
    (s'.heroAt h).session = (s.heroAt h).session := by
  obtain ⟨suits, same⟩ := alike.heroes h
  rw [same]
  rfl

theorem alike_setHero (alike : Alike a s s') {hero hero' : DreamHero}
    (close : ∃ suits, hero' = withSuits hero suits)
    (own : getData s.heros a = some h → hero' = hero) :
    Alike a (s.setHero h hero) (s'.setHero h hero') :=
  { alike with
    heroes := by
      intro k
      by_cases here : k = h
      · simpa only [Server.setHero, here, Function.update_self] using close
      · simpa only [Server.setHero, Function.update_of_ne here] using alike.heroes k
    own := by
      intro k listed
      by_cases here : k = h
      · rw [here] at listed ⊢
        simpa only [Server.setHero, Function.update_self] using own listed
      · simpa only [Server.setHero, Function.update_of_ne here] using alike.own k listed }

/-- A change that does not look at the suits. -/
theorem alike_change (alike : Alike a s s') (h : HeroPtr) (change : DreamHero → DreamHero)
    (blind : ∀ hero suits, change (withSuits hero suits) = withSuits (change hero) suits) :
    Alike a (s.setHero h (change (s.heroAt h))) (s'.setHero h (change (s'.heroAt h))) := by
  apply alike_setHero alike
  · obtain ⟨suits, same⟩ := alike.heroes h
    exact ⟨suits, by rw [same, blind]⟩
  · intro listed
    rw [alike.own h listed]

theorem alike_setSession (alike : Alike a s s') (p : SessionPtr) (session : Session) :
    Alike a (s.setSession p session) (s'.setSession p session) :=
  { alike with sessions := by simp only [Server.setSession, alike.sessions] }

theorem alike_heroSend (alike : Alike a s s') (h : HeroPtr) (message message' : ClientMessage) :
    Alike a (s.heroSend h message) (s'.heroSend h message') := by
  obtain ⟨toGates, misused, sent⟩ := heroSend_eq s h message
  obtain ⟨toGates', misused', sent'⟩ := heroSend_eq s' h message'
  rw [sent, sent']
  exact { alike with }

theorem alike_sendClientInit (alike : Alike a s s') (h : HeroPtr) :
    Alike a (s.sendClientInit h) (s'.sendClientInit h) := by
  obtain ⟨toGates, misused, sent⟩ := ForgedMessages.sendClientInit_eq s h
  obtain ⟨toGates', misused', sent'⟩ := ForgedMessages.sendClientInit_eq s' h
  have changed := alike_change alike h
    (fun hero => { hero with saving := true, online := true }) fun _ _ => rfl
  rw [sent, sent']
  exact { changed with }

/-- The same hero answers, from both. -/
theorem alike_answer (alike : Alike a s s') (h : HeroPtr) (result : DreamHero × ClientMessage) :
    Alike a (s.answer h result) (s'.answer h result) := by
  have changed := alike_setHero (h := h) alike ⟨result.1.info.suits, rfl⟩
    fun _ => (rfl : result.1 = result.1)
  exact alike_heroSend changed h result.2 result.2

/- Saying the same to the gates. -/

/-- What is said on the way to the one state is said on the way to the other. -/
def Echo (s s' r r' : Server) : Prop :=
  ∃ more, r.toGates = s.toGates ++ more ∧ r'.toGates = s'.toGates ++ more

theorem Echo.silent (still : r.toGates = s.toGates) (still' : r'.toGates = s'.toGates) :
    Echo s s' r r' :=
  ⟨[], by rw [still, List.append_nil], by rw [still', List.append_nil]⟩

theorem Echo.trans (first : Echo s s' r r') (second : Echo r r' q q') : Echo s s' q q' := by
  obtain ⟨more, said, said'⟩ := first
  obtain ⟨later, told, told'⟩ := second
  exact ⟨more ++ later, by rw [told, said, List.append_assoc],
    by rw [told', said', List.append_assoc]⟩

/-- What the session of a hero says, if it can. -/
def said (s : Server) (p : SessionPtr) (message : ClientMessage) :
    List (LinkPtr × TranId × ClientMessage) :=
  if (s.sessions p).online ∧ invalidGateId < (s.sessions p).gate ∧ (s.sessions p).gate < maxGateId
  then (s.gates (s.sessions p).gate).toList.map fun link => (link, (s.sessions p).tranid, message)
  else []

theorem heroSend_said (s : Server) (h : HeroPtr) (message : ClientMessage) :
    (s.heroSend h message).toGates = s.toGates ++ said s (s.heroAt h).session message := by
  simp only [Server.heroSend, Server.sessionSend, Server.useSession, Server.sendMessage, said]
  by_cases online : (s.sessions (s.heroAt h).session).online = true
  · by_cases bound : invalidGateId < (s.sessions (s.heroAt h).session).gate ∧
        (s.sessions (s.heroAt h).session).gate < maxGateId
    · cases link : s.gates (s.sessions (s.heroAt h).session).gate with
      | none => simp [online, bound]
      | some p => simp [online, bound]
    · simp [online, bound]
  · simp [online]

theorem echo_heroSend (alike : Alike a s s') (h : HeroPtr) (message : ClientMessage) :
    Echo s s' (s.heroSend h message) (s'.heroSend h message) := by
  refine ⟨said s (s.heroAt h).session message, heroSend_said s h message, ?_⟩
  rw [heroSend_said, alike.session, said, said, alike.sessions, alike.gates]

theorem echo_heroSends (alike : Alike a s s') (h : HeroPtr) (messages : List ClientMessage) :
    Echo s s' (messages.foldl (Server.heroSend · h) s) (messages.foldl (Server.heroSend · h) s') := by
  induction messages generalizing s s' with
  | nil => exact .silent rfl rfl
  | cons message rest ih =>
    exact (echo_heroSend alike h message).trans (ih (alike_heroSend alike h message message))

theorem echo_sendClientInit (alike : Alike a s s') (same : s'.heroAt h = s.heroAt h) :
    Echo s s' (s.sendClientInit h) (s'.sendClientInit h) := by
  have saving := alike_change alike h (fun hero => { hero with saving := true }) fun _ _ => rfl
  obtain ⟨more, said, said'⟩ := echo_heroSends saving h
    ({ s.heroAt h with saving := true } : DreamHero).clientInit
  refine ⟨more, ?_, ?_⟩
  · simpa only [Server.sendClientInit, Server.setHero, Function.update_self] using said
  · rw [same] at said'
    simpa only [Server.sendClientInit, Server.setHero, Function.update_self, same] using said'

theorem echo_answer (alike : Alike a s s') (h : HeroPtr) (result : DreamHero × ClientMessage) :
    Echo s s' (s.answer h result) (s'.answer h result) := by
  have changed := alike_setHero (h := h) alike ⟨result.1.info.suits, rfl⟩
    fun _ => (rfl : result.1 = result.1)
  exact echo_heroSend changed h result.2

/- What each handler keeps alike, and when it says the same. -/

theorem alike_heroRequest (alike : Alike a s s') (same : s'.heroAt h = s.heroAt h)
    (request : ClientRequest) :
    Alike a (s.heroRequest h request) (s'.heroRequest h request) ∧
      Echo s s' (s.heroRequest h request) (s'.heroRequest h request) := by
  cases request with
  | modifySuitName suitId suitName =>
    simp only [Server.heroRequest, same]
    exact ⟨alike_answer alike h _, echo_answer alike h _⟩
  | modifySuit suit =>
    simp only [Server.heroRequest, same]
    exact ⟨alike_answer alike h _, echo_answer alike h _⟩
  | delSuit suitId =>
    simp only [Server.heroRequest, same]
    split
    · exact ⟨alike_answer alike h _, echo_answer alike h _⟩
    · exact ⟨{ alike with }, .silent rfl rfl⟩
  | verifyToyCDKey cdKey =>
    simp only [Server.heroRequest, Server.verifyToyCDKey, same]
    split
    · exact ⟨alike_heroSend alike h _ _, echo_heroSend alike h _⟩
    · exact ⟨{ alike with }, .silent rfl rfl⟩

theorem passed_answer (alike : Alike a s s') (other : getData s.heros a ≠ some h)
    {result : DreamHero × ClientMessage} {suits : List MsgSuitData}
    (kept : result.1 = withSuits (s.heroAt h) suits) : Alike a (s.answer h result) s' := by
  have changed : Alike a (s.setHero h result.1) s' := { alike with
    heroes := by
      intro k
      by_cases here : k = h
      · obtain ⟨suits', same⟩ := alike.heroes h
        refine ⟨suits', ?_⟩
        rw [here, same]
        simp only [Server.setHero, Function.update_self, kept]
        rfl
      · simpa only [Server.setHero, Function.update_of_ne here] using alike.heroes k
    own := by
      intro k listed
      have here : k ≠ h := by
        intro same
        rw [same] at listed
        exact other listed
      simpa only [Server.setHero, Function.update_of_ne here] using alike.own k listed }
  obtain ⟨toGates, misused, sent⟩ := heroSend_eq (s.setHero h result.1) h result.2
  rw [Server.answer, sent]
  exact { changed with }

/-- What is asked of another hero changes only its suits. -/
theorem passed_heroRequest (alike : Alike a s s') (other : getData s.heros a ≠ some h)
    (request : ClientRequest) : Alike a (s.heroRequest h request) s' := by
  cases request with
  | modifySuitName suitId suitName =>
    exact passed_answer alike other
      (Option.some.inj (afterRequest_eq (s.heroAt h) (.modifySuitName suitId suitName)))
  | modifySuit suit =>
    exact passed_answer alike other
      (Option.some.inj (afterRequest_eq (s.heroAt h) (.modifySuit suit)))
  | delSuit suitId =>
    simp only [Server.heroRequest]
    split
    · rename_i result done
      obtain ⟨erased, _, rfl⟩ := Option.map_eq_some_iff.mp done
      exact passed_answer alike other (rfl : _ = withSuits (s.heroAt h) erased.1)
    · exact { alike with }
  | verifyToyCDKey cdKey =>
    simp only [Server.heroRequest, Server.verifyToyCDKey]
    split
    · obtain ⟨toGates, misused, sent⟩ := heroSend_eq s h
        (.verifyToyCDKeyErrorACK (cStr cdKey) .toyCdKeyHaveBeenInUsed)
      rw [sent]
      exact { alike with }
    · exact { alike with }

theorem alike_removeToyOf (alike : Alike a s s') (b : Account) (cdKey : CdKey) (new new' : Account) :
    Alike a (s.removeToyOf b cdKey new) (s'.removeToyOf b cdKey new') := by
  simp only [Server.removeToyOf, alike.heros]
  split
  · rename_i h found
    have changed := alike_change alike h (DreamHero.removeToyByCDKey · cdKey) fun _ _ => rfl
    exact { changed with }
  · exact alike

theorem removeToyOf_toGates (s : Server) (b : Account) (cdKey : CdKey) (new : Account) :
    (s.removeToyOf b cdKey new).toGates = s.toGates := by
  unfold Server.removeToyOf
  split <;> rfl

theorem alike_verifyToy (alike : Alike a s s') (h : HeroPtr) (toy : MsgToyData) (b : Account) :
    Alike a (s.verifyToy h toy b) (s'.verifyToy h toy b) ∧
      Echo s s' (s.verifyToy h toy b) (s'.verifyToy h toy b) := by
  have removed := alike_removeToyOf alike b toy.toyCdKey (s.heroAt h).account
    (s'.heroAt h).account
  have quiet : Echo s s' (s.removeToyOf b toy.toyCdKey (s.heroAt h).account)
      (s'.removeToyOf b toy.toyCdKey (s'.heroAt h).account) :=
    .silent (removeToyOf_toGates s ..) (removeToyOf_toGates s' ..)
  have toys : ((s'.removeToyOf b toy.toyCdKey (s'.heroAt h).account).heroAt h).hasToy toy.toyCdKey =
      ((s.removeToyOf b toy.toyCdKey (s.heroAt h).account).heroAt h).hasToy toy.toyCdKey := by
    obtain ⟨suits, same⟩ := removed.heroes h
    rw [same]
    rfl
  have inserted := alike_change removed h (DreamHero.insertToy · toy) fun _ _ => rfl
  unfold Server.verifyToy
  simp only [toys]
  split
  · exact ⟨removed, quiet⟩
  · exact ⟨alike_heroSend inserted h _ _,
      (quiet.trans (.silent rfl rfl)).trans (echo_heroSend inserted h _)⟩

theorem alike_saves (alike : Alike a s s') (saves : Saves s r) (saves' : Saves s' r') :
    Alike a r r' ∧ Echo s s' r r' := by
  obtain ⟨_, _, _, rfl⟩ := saves
  obtain ⟨_, _, _, rfl⟩ := saves'
  exact ⟨{ alike with }, .silent rfl rfl⟩

theorem alike_newSession (alike : Alike a s s') (p : SessionPtr) (t : TranId) (b : Account)
    (gate : GateId) : Alike a (s.newSession p t b gate) (s'.newSession p t b gate) ∧
      (b = a → Echo s s' (s.newSession p t b gate) (s'.newSession p t b gate)) := by
  have made : Alike a
      { s.setSession p ⟨t, b, gate, true, none⟩ with live := Function.update s.live p true }
      { s'.setSession p ⟨t, b, gate, true, none⟩ with live := Function.update s'.live p true } :=
    { alike_setSession alike p ⟨t, b, gate, true, none⟩ with live := by rw [alike.live] }
  cases hero : getData s.heros b with
  | none =>
    have hero' : getData s'.heros b = none := by rw [alike.heros, hero]
    simp only [Server.newSession, Server.setSession, hero, hero']
    exact ⟨{ made with }, fun _ => .silent rfl rfl⟩
  | some h =>
    have hero' : getData s'.heros b = some h := by rw [alike.heros, hero]
    have joined := alike_change (alike_setSession made p ⟨t, b, gate, true, some h⟩) h
      (fun hero => { hero with session := p }) fun _ _ => rfl
    have told := alike_sendClientInit joined h
    simp only [Server.newSession, Server.setSession, hero, hero']
    refine ⟨told, fun mine => ?_⟩
    have same := joined.own h (mine ▸ hero)
    obtain ⟨more, first, second⟩ := echo_sendClientInit joined same
    exact ⟨more, first, second⟩

theorem alike_addUser (alike : Alike a s s') (t : TranId) (b : Account) (gate : GateId)
    (p : SessionPtr) : Alike a (s.addUser t b gate p) (s'.addUser t b gate p) ∧
      ((getData s.onlines t = none → b = a) →
        Echo s s' (s.addUser t b gate p) (s'.addUser t b gate p)) := by
  cases online : getData s.onlines t with
  | none =>
    have online' : getData s'.onlines t = none := by rw [alike.onlines, online]
    obtain ⟨made, echo⟩ := alike_newSession alike p t b gate
    simp only [Server.addUser, online, online']
    refine ⟨{ made with onlines := by rw [made.onlines] }, fun mine => ?_⟩
    obtain ⟨more, first, second⟩ := echo (mine trivial)
    exact ⟨more, first, second⟩
  | some k =>
    have online' : getData s'.onlines t = some k := by rw [alike.onlines, online]
    simp only [Server.addUser, online, online', alike.sessions]
    split
    · have back := alike_setSession alike k { s.sessions k with online := true }
      simp only [Server.setReconnet, alike.sessions, Server.setSession, Function.update_self]
      split
      · rename_i h found
        have changed := alike_change back h (fun hero => { hero with online := true })
          fun _ _ => rfl
        simp only [Server.setSession, alike.sessions] at changed
        exact ⟨changed, fun _ => .silent rfl rfl⟩
      · simp only [Server.setSession, alike.sessions] at back
        exact ⟨back, fun _ => .silent rfl rfl⟩
    · exact ⟨alike, fun _ => .silent rfl rfl⟩

/-- The same new hero in the manager of both. -/
theorem alike_hired (alike : Alike a s s') (b : Account) (hero : DreamHero) {generateId : Nat} :
    Alike a
      { s.setHero s.nextHero hero with
        nextHero := s.nextHero + 1
        heros := s.heros.insert b s.nextHero
        generateId := generateId }
      { s'.setHero s'.nextHero hero with
        nextHero := s'.nextHero + 1
        heros := s'.heros.insert b s'.nextHero
        generateId := generateId } := by
  have changed := alike_setHero (h := s.nextHero) alike ⟨hero.info.suits, rfl⟩
    fun _ => (rfl : hero = hero)
  rw [alike.nextHero, alike.heros]
  exact { changed with
    nextHero := rfl
    heros := rfl
    generateId := rfl
    own := by
      intro k listed
      by_cases here : k = s.nextHero
      · simp only [Server.setHero, here, Function.update_self]
      · apply changed.own k
        rw [getData_heros_insert] at listed
        split at listed
        · exact absurd (Option.some.inj listed).symm here
        · exact listed }

theorem alike_createHero (alike : Alike a s s') (msg : MsgHeroDataDB2GS) (b : Account)
    (p : SessionPtr) : Alike a (s.createHero msg b p).1 (s'.createHero msg b p).1 ∧
      (s'.createHero msg b p).2 = (s.createHero msg b p).2 ∧
      (b = a → (s'.createHero msg b p).1.heroAt (s.createHero msg b p).2 =
        (s.createHero msg b p).1.heroAt (s.createHero msg b p).2) := by
  cases hero : getData s.heros b with
  | none =>
    have hero' : getData s'.heros b = none := by rw [alike.heros, hero]
    have hired := @alike_hired a s s' alike b
      (((DreamHero.new p b .database).setInfo msg).setAccount b) s.generateId
    simp only [Server.createHero, hero, hero']
    refine ⟨?_, alike.nextHero, fun _ => ?_⟩
    · exact { hired with generateId := alike.generateId }
    · simp only [Server.setHero, alike.nextHero, Function.update_self]
  | some h =>
    have hero' : getData s'.heros b = some h := by rw [alike.heros, hero]
    have changed := alike_change alike h
      (fun hero => { hero with session := p }.setAccount b) fun _ _ => rfl
    simp only [Server.createHero, hero, hero']
    exact ⟨changed, trivial, fun mine => changed.own h (mine ▸ hero)⟩

theorem alike_createDefaultHero (alike : Alike a s s') (b : Account) (p : SessionPtr) :
    Alike a (s.createDefaultHero b p).1 (s'.createDefaultHero b p).1 ∧
      (s'.createDefaultHero b p).2 = (s.createDefaultHero b p).2 ∧
      (b = a → (s'.createDefaultHero b p).1.heroAt (s.createDefaultHero b p).2 =
        (s.createDefaultHero b p).1.heroAt (s.createDefaultHero b p).2) := by
  cases hero : getData s.heros b with
  | none =>
    have hero' : getData s'.heros b = none := by rw [alike.heros, hero]
    have hired := @alike_hired a s s' alike b
      (((DreamHero.new p b .config).loadFromConfig s.config s.generateId).1.setAccount b)
      ((DreamHero.new p b .config).loadFromConfig s.config s.generateId).2
    simp only [Server.createDefaultHero, hero, hero', alike.config, alike.generateId]
    refine ⟨hired, alike.nextHero, fun _ => ?_⟩
    simp only [Server.setHero, alike.nextHero, Function.update_self]
  | some h =>
    have hero' : getData s'.heros b = some h := by rw [alike.heros, hero]
    have changed := alike_change alike h
      (fun hero => { hero with session := p }.setAccount b) fun _ _ => rfl
    simp only [Server.createDefaultHero, hero, hero']
    exact ⟨changed, trivial, fun mine => changed.own h (mine ▸ hero)⟩

/-- Both replies to MsgReqHeroDataGS2DB. -/
theorem alike_attachHero {created created' : Server × HeroPtr} (alike : Alike a created.1 created'.1)
    (hero : created'.2 = created.2) (quiet : created.1.toGates = s.toGates)
    (quiet' : created'.1.toGates = s'.toGates) (p : SessionPtr) :
    Alike a (Server.attachHero created p) (Server.attachHero created' p) ∧
      (created'.1.heroAt created.2 = created.1.heroAt created.2 →
        Echo s s' (Server.attachHero created p) (Server.attachHero created' p)) := by
  have bound := alike_setSession alike p { created.1.sessions p with dreamHero := some created.2 }
  unfold Server.attachHero
  simp only [alike.sessions, hero]
  refine ⟨alike_sendClientInit bound created.2, fun same => ?_⟩
  have before : Echo s s' (created.1.setSession p
        { created.1.sessions p with dreamHero := some created.2 })
      (created'.1.setSession p { created.1.sessions p with dreamHero := some created.2 }) :=
    .silent quiet quiet'
  exact before.trans (echo_sendClientInit bound same)

/-- Who plays the user that a step was about. -/
theorem owner_after (turn : Turn s event s') {t : TranId}
    (asked : about event = some t) (online : getData s'.onlines t = some p) :
    owner s event = some (s'.sessions p).account := by
  have stayed : getData s.onlines t = some p →
      (s'.sessions p).account = (s.sessions p).account →
      owner s event = some (s'.sessions p).account := by
    intro before same
    rw [same]
    cases event <;> simp_all [owner, about]
  cases turn with
  | talked talks =>
    rw [talks.onlines] at online
    exact stayed online (talks.sessions p).2.1
  | @joined link k b q free new unknown =>
    cases asked
    simp only [getData_addData, if_true, new, Option.getD_none, Option.some.injEq] at online
    simp [owner, new, ← online]
  | @returned link k b q h s' free new hero talks =>
    cases asked
    rw [talks.onlines] at online
    simp only [getData_addData, if_true, new, Option.getD_none, Option.some.injEq] at online
    simp [owner, new, ← online, (talks.sessions _).2.1]
  | removed gone => cases asked
  | gateLost gates frees => cases asked
  | attached answers there hero talks =>
    rw [talks.onlines] at online
    apply stayed online
    exact (talks.sessions p).2.1.trans (account_attached s _ p _)
  | created generateId answers there unknown session account info filledBy talks =>
    rw [talks.onlines] at online
    apply stayed online
    exact (talks.sessions p).2.1.trans (account_attached s _ p _)

theorem alike_handle (alike : Alike a s s') (valid : Valid s) (event : Event)
    (kept : fromOthers a s event = false) : Alike a (handle s event) (handle s' event) ∧
      (owner s event = some a → Echo s s' (handle s event) (handle s' event)) := by
  cases event with
  | gateRegister link serverid =>
    refine ⟨?_, fun mine => by cases mine⟩
    simp only [handle, Server.parseGateRegister, Server.addGate]
    split
    · exact { alike with
        gates := by rw [alike.gates]
        gateId := by rw [alike.gateId] }
    · exact { alike with gateId := by rw [alike.gateId] }
  | gateClose link =>
    refine ⟨?_, fun mine => by cases mine⟩
    simp only [handle, Server.removeGate, alike.gateId, alike.gates]
    split
    · exact { alike with
        gates := by simp only [Server.removeUserByGate, alike.gates]
        live := by simp only [Server.removeUserByGate, alike.live, alike.onlines, alike.sessions]
        onlines := by simp only [Server.removeUserByGate, alike.onlines, alike.sessions] }
    · exact alike
  | addUser link t b p =>
    simp only [handle, alike.live, alike.gateId]
    split
    · exact ⟨alike, fun _ => .silent rfl rfl⟩
    · obtain ⟨added, echo⟩ := alike_addUser alike t b (s.gateId link) p
      refine ⟨added, fun mine => echo fun new => ?_⟩
      simpa [owner, new] using mine
  | offlineUser t =>
    refine ⟨?_, fun mine => by cases mine⟩
    simp only [handle, Server.offlineUser, alike.onlines]
    split
    · rename_i p online
      have left := alike_setSession alike p { s.sessions p with online := false }
      simp only [Server.setWaitReconnet, alike.sessions, Server.setSession, Function.update_self]
      simp only [Server.setSession, alike.sessions] at left
      split
      · rename_i h found
        exact alike_change left h (fun hero => { hero with online := false }) fun _ _ => rfl
      · exact { left with }
    · exact alike
  | removeUser t =>
    refine ⟨?_, fun mine => by cases mine⟩
    simp only [handle, Server.removeUser, alike.onlines]
    split
    · exact { alike with
        onlines := rfl
        live := by rw [alike.live] }
    · exact alike
  | userMsg t request =>
    have mine : owner s (.userMsg t request) = some a := by simpa [fromOthers] using kept
    simp only [handle, Server.parseUserMsg, alike.onlines, alike.sessions]
    split
    · rename_i p online
      have account : (s.sessions p).account = a := by simpa [owner, about, online] using mine
      split
      · rename_i h hero
        have listed := valid.attached p h (valid.online t p online).1 hero
        rw [account] at listed
        obtain ⟨asked, echo⟩ := alike_heroRequest alike (alike.own h listed) request
        exact ⟨asked, fun _ => echo⟩
      · exact ⟨alike, fun _ => .silent rfl rfl⟩
    · exact ⟨alike, fun _ => .silent rfl rfl⟩
  | heroData t msg =>
    simp only [handle, Server.parseQueryHeroInfo, alike.onlines, alike.sessions]
    split
    · rename_i p online
      obtain ⟨created, hero, same⟩ := alike_createHero alike msg (s.sessions p).account p
      obtain ⟨attached, echo⟩ := alike_attachHero created hero
        (createHero_creates msg (s.sessions p).account).toGates
        (createHero_creates msg (s.sessions p).account).toGates p
      refine ⟨attached, fun mine => echo (same ?_)⟩
      simpa [owner, about, online] using mine
    · exact ⟨alike, fun _ => .silent rfl rfl⟩
  | needCreateHero t =>
    simp only [handle, Server.parseNeedCreateHero, alike.onlines, alike.sessions]
    split
    · rename_i p online
      obtain ⟨created, hero, same⟩ := alike_createDefaultHero alike (s.sessions p).account p
      obtain ⟨attached, echo⟩ := alike_attachHero created hero
        (createDefaultHero_creates (s.sessions p).account).toGates
        (createDefaultHero_creates (s.sessions p).account).toGates p
      refine ⟨attached, fun mine => echo (same ?_)⟩
      simpa [owner, about, online] using mine
    · exact ⟨alike, fun _ => .silent rfl rfl⟩
  | verifyToy t toy b =>
    simp only [handle, Server.parseMsgVerifyToy, alike.onlines, alike.sessions]
    split
    · split
      · rename_i h hero
        obtain ⟨verified, echo⟩ := alike_verifyToy alike h toy b
        exact ⟨verified, fun _ => echo⟩
      · exact ⟨alike, fun _ => .silent rfl rfl⟩
    · exact ⟨alike, fun _ => .silent rfl rfl⟩
  | verifyToyError t cdKey error =>
    simp only [handle, Server.parseMsgVerifyToyError, alike.onlines, alike.sessions]
    split
    · split
      · rename_i h hero
        exact ⟨alike_heroSend alike h _ _, fun _ => echo_heroSend alike h _⟩
      · exact ⟨{ alike with }, fun _ => .silent rfl rfl⟩
    · exact ⟨alike, fun _ => .silent rfl rfl⟩
  | saveTick h =>
    refine ⟨?_, fun mine => by cases mine⟩
    have saving : (s'.heroAt h).saving = (s.heroAt h).saving := by
      obtain ⟨suits, same⟩ := alike.heroes h
      rw [same]
      rfl
    simp only [handle, Server.saveTick, alike.nextHero, saving]
    split
    · exact (alike_saves alike (saves_saveHero s h) (saves_saveHero s' h)).1
    · exact alike
  | setStop =>
    refine ⟨?_, fun mine => by cases mine⟩
    exact (alike_saves alike (saves_saveDreamHeroes s) (saves_saveDreamHeroes s')).1

/-- Steps about users of other accounts say nothing to the account. -/
theorem hears_others (valid : Valid s) (paired : Paired s) (other : owner s event ≠ some a) :
    hears a s event = [] := by
  obtain ⟨more, grown, own⟩ := told_step event valid paired
  rw [hears, grown, List.drop_left, List.filter_eq_nil_iff]
  intro entry member
  obtain ⟨t, p, asked, online, flag, _⟩ := own entry member
  rw [flag, online]
  simp only [decide_eq_true_eq]
  intro mine
  apply other
  rw [owner_after (step_turn valid event) asked online, mine]

theorem hears_echo (alike : Alike a (step s event) (step s' event))
    (echo : Echo s s' (step s event) (step s' event)) : hears a s' event = hears a s event := by
  obtain ⟨more, grown, grown'⟩ := echo
  rw [hears, hears, grown, grown', List.drop_left, List.drop_left, alike.onlines, alike.sessions]

/-- Two running servers that the account cannot tell apart. -/
structure Beside (a : Account) (s s' : Server) : Prop where
  alike : Alike a s s'
  valid : Valid s
  valid' : Valid s'
  paired : Paired s
  paired' : Paired s'
  running : s.crashed = false
  running' : s'.crashed = false

theorem apart_alike (alike : Alike a s s') (apart : Apart s event) : Apart s' event := by
  cases event with
  | addUser link t b p =>
    intro new k q online
    rw [alike.onlines] at new online
    rw [alike.sessions]
    exact apart new k q online
  | _ => trivial

theorem beside_passed (beside : Beside a s s') (apart : Apart s event)
    (up : (step s event).crashed = false) (hidden : fromOthers a s event = true) :
    Beside a (step s event) s' ∧ hears a s event = [] := by
  have turn := step_turn beside.valid event
  refine ⟨⟨?_, valid_step beside.valid event, beside.valid',
    paired_turn turn beside.valid apart beside.paired, beside.paired', up, beside.running'⟩, ?_⟩
  · rw [step_handle beside.running]
    cases event with
    | userMsg t request =>
      have other : owner s (.userMsg t request) ≠ some a := by simpa [fromOthers] using hidden
      simp only [handle, Server.parseUserMsg]
      split
      · rename_i p online
        split
        · rename_i h hero
          apply passed_heroRequest beside.alike
          intro listed
          have theirs := beside.valid.attached p h (beside.valid.online t p online).1 hero
          apply other
          simp only [owner, about, online, Option.bind_some, Option.map_some]
          rw [← (beside.valid.owned _ h theirs).1, (beside.valid.owned _ h listed).1]
        · exact beside.alike
      · exact beside.alike
    | _ => cases hidden
  · apply hears_others beside.valid beside.paired
    cases event with
    | userMsg t request => simpa [fromOthers] using hidden
    | _ => cases hidden

theorem beside_kept (beside : Beside a s s') (apart : Apart s event)
    (up : (step s event).crashed = false) (up' : (step s' event).crashed = false)
    (kept : fromOthers a s event = false) :
    Beside a (step s event) (step s' event) ∧ hears a s' event = hears a s event := by
  obtain ⟨alike, echo⟩ := alike_handle beside.alike beside.valid event kept
  rw [← step_handle beside.running, ← step_handle beside.running'] at alike echo
  have apart' := apart_alike beside.alike apart
  refine ⟨⟨alike, valid_step beside.valid event, valid_step beside.valid' event,
    paired_turn (step_turn beside.valid event) beside.valid apart beside.paired,
    paired_turn (step_turn beside.valid' event) beside.valid' apart' beside.paired', up, up'⟩, ?_⟩
  by_cases mine : owner s event = some a
  · exact hears_echo alike (echo mine)
  · have same : owner s' event = owner s event := by
      cases event <;> simp only [owner, beside.alike.onlines, beside.alike.sessions]
    rw [hears_others beside.valid beside.paired mine,
      hears_others beside.valid' beside.paired' (same ▸ mine)]

/-- A server that runs in the end has run all the time. -/
theorem running_every {events : List Event} (up : (run step s events).crashed = false) :
    EveryStep step (fun s event => (step s event).crashed = false) s events := by
  induction events generalizing s with
  | nil => trivial
  | cons event rest ih =>
    refine ⟨Bool.eq_false_iff.mpr ?_, ih up⟩
    intro crashed
    rw [run, HeroPointers.crashed_run crashed, crashed] at up
    cases up

/-- In every run in which no account gets a second session, an account hears the same and has the
same hero in the end if the clients of all other accounts never ask for anything, as long as the
server crashes neither way. -/
theorem others_unheard (config : HeroConfig) (generateId : Nat) (a : Account) (events : List Event)
    (apart : EveryStep step Apart (start config generateId) events)
    (up : (run step (start config generateId) events).crashed = false)
    (up' : (run step (start config generateId)
      (purge step (fromOthers a) (start config generateId) events)).crashed = false) :
    seen step (hears a) (start config generateId)
        (purge step (fromOthers a) (start config generateId) events) =
      seen step (hears a) (start config generateId) events ∧
    ∀ h, getData (run step (start config generateId) events).heros a = some h →
      (run step (start config generateId)
        (purge step (fromOthers a) (start config generateId) events)).heroAt h =
      (run step (start config generateId) events).heroAt h := by
  have first : Beside a (start config generateId) (start config generateId) :=
    ⟨.refl a _, valid_start config generateId, valid_start config generateId,
      paired_start config generateId, paired_start config generateId, rfl, rfl⟩
  have both := everyStep_and.mpr ⟨apart, running_every up⟩
  have passed : ∀ s s' event, Beside a s s' →
      Apart s event ∧ (step s event).crashed = false → fromOthers a s event = true →
        Beside a (step s event) s' ∧ hears a s event = [] := by
    intro s s' event beside fine
    exact beside_passed beside fine.1 fine.2
  have kept : ∀ s s' event, Beside a s s' →
      Apart s event ∧ (step s event).crashed = false → (step s' event).crashed = false →
        fromOthers a s event = false →
          Beside a (step s event) (step s' event) ∧ hears a s' event = hears a s event := by
    intro s s' event beside fine
    exact beside_kept beside fine.1 fine.2
  obtain ⟨last, same⟩ := seen_purge passed kept first both (running_every up')
  exact ⟨same, last.alike.own⟩

/-- The player of account 9 does not notice that the other one asks. -/
theorem twoPlayers_unheard :
    seen step (hears 9) (start ⟨0, 0, 1, [], .empty⟩ 0)
        (purge step (fromOthers 9) (start ⟨0, 0, 1, [], .empty⟩ 0) twoPlayers) =
      seen step (hears 9) (start ⟨0, 0, 1, [], .empty⟩ 0) twoPlayers ∧
    ∀ h, getData (run step (start ⟨0, 0, 1, [], .empty⟩ 0) twoPlayers).heros 9 = some h →
      (run step (start ⟨0, 0, 1, [], .empty⟩ 0)
        (purge step (fromOthers 9) (start ⟨0, 0, 1, [], .empty⟩ 0) twoPlayers)).heroAt h =
      (run step (start ⟨0, 0, 1, [], .empty⟩ 0) twoPlayers).heroAt h :=
  others_unheard _ _ 9 twoPlayers apart_twoPlayers (by decide +kernel) (by decide +kernel)

example : (purge step (fromOthers 9) (start ⟨0, 0, 1, [], .empty⟩ 0) twoPlayers).length = 6 ∧
    (seen step (hears 9) (start ⟨0, 0, 1, [], .empty⟩ 0) twoPlayers).length = 3 := by
  decide +kernel

end PlayersApart
