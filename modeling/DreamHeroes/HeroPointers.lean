import DreamHeroes.ToyOwners

/- Which heroes the handlers of the game server reach through _dream_hero of a session. A session
   is in the map from its AddUser on, and has its hero when the database server has answered. -/
namespace HeroPointers

open OrderedMaps ObjMap GameHero GameServer GameTalks GameTurns HeroRequests LabelledRuns
open ToyOwners (shelves_attachHero)

/- A use behind `if (_dream_hero)` -/
def checked : Option HeroPtr → List (Option HeroPtr)
  | some h => [some h]
  | none => []

/- setWaitReconnet dereferences _dream_hero without a check, setReconnet with one. -/
def setWaitReconnetUses (session : Session) : List (Option HeroPtr) := [session.dreamHero]

def setReconnetUses (session : Session) : List (Option HeroPtr) := checked session.dreamHero

/- A new session takes the hero GetHero finds. -/
def addUserUses (s : Server) (t : TranId) (a : Account) (gate : GateId) : List (Option HeroPtr) :=
  match getData s.onlines t with
  | none => checked (getData s.heros a)
  | some q =>
      if (s.sessions q).gate = gate ∧ (s.sessions q).account = a then
        setReconnetUses (s.sessions q)
      else []

/- What a handler uses of the session getUser returns, if there is one. -/
def userUses (s : Server) (t : TranId) (uses : SessionPtr → List (Option HeroPtr)) :
    List (Option HeroPtr) :=
  match getData s.onlines t with
  | some p => uses p
  | none => []

/- The pointers an event dereferences, a null pointer as none. The replies to
   MsgReqHeroDataGS2DB assign what CreateHero returns first. MsgVerifyToyError does not check. -/
def dereferences (s : Server) : Event → List (Option HeroPtr)
  | .addUser link t a p => if s.live p then [] else addUserUses s t a (s.gateId link)
  | .offlineUser t => userUses s t fun p => setWaitReconnetUses (s.sessions p)
  | .userMsg t _ => userUses s t fun p => checked (s.sessions p).dreamHero
  | .heroData t msg =>
      userUses s t fun p => checked (some (s.createHero msg (s.sessions p).account p).2)
  | .needCreateHero t =>
      userUses s t fun p => checked (some (s.createDefaultHero (s.sessions p).account p).2)
  | .verifyToy t _ _ => userUses s t fun p => checked (s.sessions p).dreamHero
  | .verifyToyError t _ _ => userUses s t fun p => [(s.sessions p).dreamHero]
  | _ => []

/-- Every pointer a step dereferences is that of a hero of the manager. -/
def UsesHeroes (s : Server) (event : Event) : Prop :=
  s.crashed = false → ∀ pointer ∈ dereferences s event,
    ∃ h, pointer = some h ∧ Listed (step s event) h

/-- The session of the transid has no hero yet. -/
def Waits (s : Server) (t : TranId) : Prop :=
  ∃ p, getData s.onlines t = some p ∧ (s.sessions p).dreamHero = none

/-- No OfflineUser and no failed toy check comes for a transid that waits for its hero. -/
def HeroCame (s : Server) : Event → Prop
  | .offlineUser t => s.crashed = false → ¬ Waits s t
  | .verifyToyError t _ _ => s.crashed = false → ¬ Waits s t
  | _ => True

variable {s s' : Server} {h : HeroPtr} {p : SessionPtr} {t : TranId} {event : Event}
  {hero pointer : Option HeroPtr}

@[simp] theorem mem_checked : pointer ∈ checked hero ↔ ∃ h, hero = some h ∧ pointer = some h := by
  cases hero <;> simp [checked]

theorem mem_userUses {uses : SessionPtr → List (Option HeroPtr)} :
    pointer ∈ userUses s t uses ↔ ∃ p, getData s.onlines t = some p ∧ pointer ∈ uses p := by
  unfold userUses
  cases getData s.onlines t with
  | none => simp
  | some p => simp

/-- The manager keeps its heroes. -/
theorem listed_step (valid : Valid s) (listed : Listed s h) (event : Event) :
    Listed (step s event) h := by
  obtain ⟨a, found⟩ := listed
  exact ⟨a, ((step_grows valid event).heros a h found).1⟩

/-- A hero found in a session is one of the manager. -/
theorem listed_attached (valid : Valid s) (online : getData s.onlines t = some p)
    (hero : (s.sessions p).dreamHero = some h) (event : Event) : Listed (step s event) h :=
  listed_step valid (valid.listed online hero) event

/-- The uses behind a check are never the problem. -/
theorem checked_listed (valid : Valid s) (online : getData s.onlines t = some p)
    (used : pointer ∈ checked (s.sessions p).dreamHero) (event : Event) :
    ∃ h, pointer = some h ∧ Listed (step s event) h := by
  obtain ⟨h, hero, rfl⟩ := mem_checked.mp used
  exact ⟨h, rfl, listed_attached valid online hero event⟩

theorem addUser_listed (valid : Valid s) {a : Account} {gate : GateId}
    (used : pointer ∈ addUserUses s t a gate) (event : Event) :
    ∃ h, pointer = some h ∧ Listed (step s event) h := by
  unfold addUserUses at used
  split at used
  · obtain ⟨h, hero, rfl⟩ := mem_checked.mp used
    exact ⟨h, rfl, listed_step valid ⟨a, hero⟩ event⟩
  · rename_i q online
    split at used
    · exact checked_listed valid online used event
    · cases used

theorem createHero_heros (s : Server) (msg : MsgHeroDataDB2GS) (a : Account) (p : SessionPtr) :
    getData (s.createHero msg a p).1.heros a = some (s.createHero msg a p).2 := by
  unfold Server.createHero
  split
  · simp [getData]
  · rename_i h known
    exact known

theorem createDefaultHero_heros (s : Server) (a : Account) (p : SessionPtr) :
    getData (s.createDefaultHero a p).1.heros a = some (s.createDefaultHero a p).2 := by
  unfold Server.createDefaultHero
  split
  · simp [getData]
  · rename_i h known
    exact known

/-- What CreateHero returns is in the manager when the reply has been handled. -/
theorem attachHero_listed {created : Server × HeroPtr} {a : Account}
    (found : getData created.1.heros a = some created.2) (p : SessionPtr) :
    Listed (Server.attachHero created p) created.2 := by
  have heros : (Server.attachHero created p).heros = created.1.heros :=
    congrArg Prod.fst (shelves_attachHero created p)
  exact ⟨a, by rw [heros, found]⟩

/-- A session that has been given a hero is not the one that waits. -/
theorem waits_elsewhere {sessions : SessionPtr → Session} {q : SessionPtr} {session : Session}
    (given : session.dreamHero = some h)
    (waits : (Function.update sessions p session q).dreamHero = none) :
    q ≠ p ∧ (sessions q).dreamHero = none := by
  by_cases here : q = p
  · subst here
    rw [Function.update_self, given] at waits
    cases waits
  · rw [Function.update_of_ne here] at waits
    exact ⟨here, waits⟩

/-- A transid comes to wait by an AddUser for an account without a hero. -/
theorem waits_step (valid : Valid s) (waits : Waits (step s event) t) :
    Waits s t ∨ ∃ link a p, event = .addUser link t a p ∧ getData s.heros a = none := by
  obtain ⟨q, online, waits⟩ := waits
  have turn := step_turn valid event
  generalize step s event = s' at turn online waits
  cases turn with
  | talked talks =>
    rw [talks.onlines] at online
    rw [(talks.sessions q).2.2] at waits
    exact .inl ⟨q, online, waits⟩
  | @joined link k a p free new unknown =>
    by_cases here : k = t
    · subst here
      exact .inr ⟨link, a, p, rfl, unknown⟩
    · rw [getData_addData, if_neg here] at online
      have other : q ≠ p := valid.fresh free online
      simp only [Function.update_of_ne other] at waits
      exact .inl ⟨q, online, waits⟩
  | @returned link k a p h s' free new hero talks =>
    rw [talks.onlines] at online
    rw [(talks.sessions q).2.2] at waits
    obtain ⟨other, waits⟩ := waits_elsewhere rfl waits
    rcases getData_addData_some online with before | ⟨_, rfl⟩
    · exact .inl ⟨q, before, waits⟩
    · exact (other rfl).elim
  | removed gone => exact .inl ⟨q, getData_of_eraseData online, waits⟩
  | gateLost gates frees => exact .inl ⟨q, (removeUserByGate_online.mp online).1, waits⟩
  | attached answers there hero talks =>
    rw [talks.onlines] at online
    rw [(talks.sessions q).2.2] at waits
    exact .inl ⟨q, online, (waits_elsewhere rfl waits).2⟩
  | created generateId answers there unknown session account info filledBy talks =>
    rw [talks.onlines] at online
    rw [(talks.sessions q).2.2] at waits
    exact .inl ⟨q, online, (waits_elsewhere rfl waits).2⟩

/-- The reply of the database server ends the wait. -/
theorem attachHero_waits {created : Server × HeroPtr} {a : Account}
    (found : getData created.1.heros a = some created.2)
    (online : getData created.1.onlines t = some p) : ¬ Waits (Server.attachHero created p) t := by
  have listed : Listed (created.1.setSession p
      { created.1.sessions p with dreamHero := some created.2 }) created.2 := ⟨a, found⟩
  have talks := talks_acts (acts_sendClientInit listed)
  rintro ⟨q, there, waits⟩
  change getData (Server.sendClientInit _ _).onlines t = some q at there
  change ((Server.sendClientInit _ _).sessions q).dreamHero = none at waits
  rw [talks.onlines] at there
  rw [(talks.sessions q).2.2] at waits
  have same : p = q := Option.some.inj (online.symm.trans there)
  exact (waits_elsewhere rfl waits).1 same.symm

theorem answered_waits (running : s.crashed = false) (answers : Answers event t) :
    ¬ Waits (step s event) t := by
  rw [step_handle running]
  rcases answers with ⟨msg, rfl⟩ | rfl
  · rw [handle, Server.parseQueryHeroInfo]
    cases online : getData s.onlines t with
    | none => simp [Waits, online]
    | some p =>
      apply attachHero_waits (createHero_heros s msg _ p)
      unfold Server.createHero
      split <;> exact online
  · rw [handle, Server.parseNeedCreateHero]
    cases online : getData s.onlines t with
    | none => simp [Waits, online]
    | some p =>
      apply attachHero_waits (createDefaultHero_heros s _ p)
      unfold Server.createDefaultHero
      split <;> exact online

theorem crashed_run (crashed : s.crashed = true) (events : List Event) :
    run step s events = s := by
  induction events with
  | nil => rfl
  | cons event rest ih => rw [run, step_crashed crashed, ih]

/-- A transid that waits has waited since an AddUser that no reply has followed. -/
theorem waits_since (valid : Valid s) (events : List Event)
    (running : (run step s events).crashed = false) (waits : Waits (run step s events) t) :
    (Waits s t ∧ ∀ event ∈ events, ¬ Answers event t) ∨
      ∃ before link a p after, events = before ++ .addUser link t a p :: after ∧
        ∀ event ∈ after, ¬ Answers event t := by
  induction events generalizing s with
  | nil => exact .inl ⟨waits, List.forall_mem_nil _⟩
  | cons event rest ih =>
    have runs : s.crashed = false := by
      rw [← Bool.not_eq_true]
      intro crashed
      rw [crashed_run crashed, crashed] at running
      cases running
    rcases ih (valid_step valid event) running waits with ⟨now, quiet⟩ | later
    · rcases waits_step valid now with before | ⟨link, a, p, rfl, _⟩
      · have unanswered : ¬ Answers event t := fun answers => answered_waits runs answers now
        exact .inl ⟨before, List.forall_mem_cons.mpr ⟨unanswered, quiet⟩⟩
      · exact .inr ⟨[], link, a, p, rest, rfl, quiet⟩
    · obtain ⟨before, link, a, p, after, split, quiet⟩ := later
      exact .inr ⟨event :: before, link, a, p, after, by rw [split]; rfl, quiet⟩

theorem crashed_heroSend (s : Server) (h : HeroPtr) (message : ClientMessage) :
    (s.heroSend h message).crashed = s.crashed := by
  obtain ⟨toGates, misused, sent⟩ := heroSend_eq s h message
  rw [sent]

theorem crashed_heroSends (s : Server) (h : HeroPtr) (messages : List ClientMessage) :
    (messages.foldl (Server.heroSend · h) s).crashed = s.crashed := by
  induction messages generalizing s with
  | nil => rfl
  | cons message rest ih => rw [List.foldl_cons, ih, crashed_heroSend]

theorem crashed_sendClientInit (s : Server) (h : HeroPtr) :
    (s.sendClientInit h).crashed = s.crashed :=
  crashed_heroSends (s.setHero h { s.heroAt h with saving := true }) h _

theorem crashed_addUser (s : Server) (t : TranId) (a : Account) (gate : GateId)
    (p : SessionPtr) : (s.addUser t a gate p).crashed = s.crashed := by
  unfold Server.addUser
  split
  · simp only [Server.newSession]
    split
    · exact crashed_sendClientInit _ _
    · rfl
  · split
    · simp only [Server.setReconnet]
      split <;> rfl
    · rfl

theorem crashed_attachHero (created : Server × HeroPtr) (p : SessionPtr) :
    (Server.attachHero created p).crashed = created.1.crashed :=
  crashed_sendClientInit _ created.2

theorem crashed_verifyToy (s : Server) (h : HeroPtr) (toy : MsgToyData) (a : Account) :
    (s.verifyToy h toy a).crashed = s.crashed := by
  have removed : (s.removeToyOf a toy.toyCdKey (s.heroAt h).account).crashed = s.crashed := by
    unfold Server.removeToyOf
    split <;> rfl
  rw [Server.verifyToy]
  split
  · exact removed
  · exact (crashed_heroSend _ h _).trans removed

/-- The events in which the code can run past the end of a list. -/
def Overruns : Event → Prop
  | .userMsg _ (.delSuit _) => True
  | .saveTick _ => True
  | .setStop => True
  | _ => False

theorem crashed_heroRequest (s : Server) (h : HeroPtr) (request : ClientRequest)
    (inside : ¬ Overruns (.userMsg t request)) :
    (s.heroRequest h request).crashed = s.crashed := by
  cases request with
  | modifySuitName suitId suitName => exact crashed_heroSend _ h _
  | modifySuit suit => exact crashed_heroSend _ h _
  | delSuit suitId => exact (inside trivial).elim
  | verifyToyCDKey cdKey =>
    rw [Server.heroRequest, Server.verifyToyCDKey]
    split
    · exact crashed_heroSend s h _
    · rfl

theorem null_mem_userUses :
    none ∈ (userUses s t fun p => [(s.sessions p).dreamHero]) ↔ Waits s t := by
  simp only [mem_userUses, List.mem_singleton, Waits, eq_comm (a := none)]

theorem null_checked : none ∉ checked hero := by
  simp

theorem null_userUses_checked {found : SessionPtr → Option HeroPtr} :
    none ∉ userUses s t fun p => checked (found p) := by
  simp [mem_userUses]

theorem null_addUserUses {a : Account} {gate : GateId} : none ∉ addUserUses s t a gate := by
  unfold addUserUses
  split
  · exact null_checked
  · split
    · exact null_checked
    · exact List.not_mem_nil

/-- Apart from running past a list, the server is stopped by a null pointer and by nothing else. -/
theorem crashed_iff_null (running : s.crashed = false) (inside : ¬ Overruns event) :
    (handle s event).crashed = true ↔ none ∈ dereferences s event := by
  have calm {s' : Server} (same : s'.crashed = s.crashed) : ¬ s'.crashed = true := by
    rw [same, running]
    decide
  cases event with
  | gateRegister link serverid =>
    obtain ⟨gates, registered⟩ := parseGateRegister_eq s link serverid
    rw [handle, registered]
    exact iff_of_false (calm rfl) List.not_mem_nil
  | gateClose link =>
    refine iff_of_false (calm ?_) List.not_mem_nil
    simp only [handle, Server.removeGate]
    split <;> rfl
  | addUser link t a p =>
    rw [handle, dereferences]
    split
    · exact iff_of_false (calm rfl) List.not_mem_nil
    · exact iff_of_false (calm (crashed_addUser s t a _ p)) null_addUserUses
  | offlineUser t =>
    rw [handle, Server.offlineUser]
    refine Iff.trans ?_ null_mem_userUses.symm
    cases online : getData s.onlines t with
    | none => simp [Waits, online, running]
    | some p =>
      cases hero : (s.sessions p).dreamHero <;>
        simp [Waits, online, hero, Server.setWaitReconnet, Server.setSession, Server.crash,
          Server.setHero, running]
  | removeUser t =>
    refine iff_of_false (calm ?_) List.not_mem_nil
    rw [handle, Server.removeUser]
    split <;> rfl
  | userMsg t request =>
    refine iff_of_false (calm ?_) null_userUses_checked
    rw [handle, Server.parseUserMsg]
    split
    · split
      · exact crashed_heroRequest s _ request inside
      · rfl
    · rfl
  | heroData t msg =>
    refine iff_of_false (calm ?_) null_userUses_checked
    rw [handle, Server.parseQueryHeroInfo]
    split
    · rw [crashed_attachHero, Server.createHero]
      split <;> rfl
    · rfl
  | needCreateHero t =>
    refine iff_of_false (calm ?_) null_userUses_checked
    rw [handle, Server.parseNeedCreateHero]
    split
    · rw [crashed_attachHero, Server.createDefaultHero]
      split <;> rfl
    · rfl
  | verifyToy t toy a =>
    refine iff_of_false (calm ?_) null_userUses_checked
    rw [handle, Server.parseMsgVerifyToy]
    split
    · split
      · exact crashed_verifyToy s _ toy a
      · rfl
    · rfl
  | verifyToyError t cdKey error =>
    rw [handle, Server.parseMsgVerifyToyError]
    refine Iff.trans ?_ null_mem_userUses.symm
    cases online : getData s.onlines t with
    | none => simp [Waits, online, running]
    | some p =>
      cases hero : (s.sessions p).dreamHero <;>
        simp [Waits, online, hero, crashed_heroSend, Server.crash, running]
  | saveTick h => exact (inside trivial).elim
  | setStop => exact (inside trivial).elim

/-- A use without a check needs a transid that does not wait. -/
theorem unchecked_iff (valid : Valid s) (event : Event) :
    (∀ pointer ∈ userUses s t fun p => [(s.sessions p).dreamHero],
        ∃ h, pointer = some h ∧ Listed (step s event) h) ↔ ¬ Waits s t := by
  simp only [mem_userUses, List.mem_singleton]
  constructor
  · rintro uses ⟨p, online, waits⟩
    obtain ⟨h, null, _⟩ := uses none ⟨p, online, waits.symm⟩
    cases null
  · rintro came pointer ⟨p, online, rfl⟩
    cases hero : (s.sessions p).dreamHero with
    | none => exact absurd ⟨p, online, hero⟩ came
    | some h => exact ⟨h, rfl, listed_attached valid online hero event⟩

/-- One step uses heroes exactly if the two handlers that do not check find one. -/
theorem usesHeroes_iff (valid : Valid s) (event : Event) :
    UsesHeroes s event ↔ HeroCame s event := by
  cases event with
  | gateRegister link serverid => exact iff_of_true (fun _ => List.forall_mem_nil _) trivial
  | gateClose link => exact iff_of_true (fun _ => List.forall_mem_nil _) trivial
  | addUser link t a p =>
    refine iff_of_true ?_ trivial
    intro _ pointer used
    rw [dereferences] at used
    split at used
    · cases used
    · exact addUser_listed valid used _
  | offlineUser t => exact imp_congr_right fun _ => unchecked_iff valid _
  | removeUser t => exact iff_of_true (fun _ => List.forall_mem_nil _) trivial
  | userMsg t request =>
    refine iff_of_true ?_ trivial
    intro _ pointer used
    obtain ⟨p, online, found⟩ := mem_userUses.mp used
    exact checked_listed valid online found _
  | heroData t msg =>
    refine iff_of_true ?_ trivial
    intro running pointer used
    obtain ⟨p, online, found⟩ := mem_userUses.mp used
    rw [step_handle running, handle, Server.parseQueryHeroInfo, online]
    exact ⟨_, List.mem_singleton.mp found, attachHero_listed (createHero_heros s msg _ p) p⟩
  | needCreateHero t =>
    refine iff_of_true ?_ trivial
    intro running pointer used
    obtain ⟨p, online, found⟩ := mem_userUses.mp used
    rw [step_handle running, handle, Server.parseNeedCreateHero, online]
    exact ⟨_, List.mem_singleton.mp found, attachHero_listed (createDefaultHero_heros s _ p) p⟩
  | verifyToy t toy a =>
    refine iff_of_true ?_ trivial
    intro _ pointer used
    obtain ⟨p, online, found⟩ := mem_userUses.mp used
    exact checked_listed valid online found _
  | verifyToyError t cdKey error => exact imp_congr_right fun _ => unchecked_iff valid _
  | saveTick h => exact iff_of_true (fun _ => List.forall_mem_nil _) trivial
  | setStop => exact iff_of_true (fun _ => List.forall_mem_nil _) trivial

/-- Handlers never use a null hero, only heroes of the manager, in exactly the runs in which no
    OfflineUser and no failed toy check comes between an AddUser and the hero of its session. -/
theorem heroes_used_iff (config : HeroConfig) (generateId : Nat) (events : List Event) :
    EveryStep step UsesHeroes (start config generateId) events ↔
      EveryStep step HeroCame (start config generateId) events := by
  have begins := valid_start config generateId
  constructor
  · exact everyStep_of_invariant (fun s event valid _ => valid_step valid event)
      (fun s event valid => (usesHeroes_iff valid event).mp) begins
  · exact everyStep_of_invariant (fun s event valid _ => valid_step valid event)
      (fun s event valid => (usesHeroes_iff valid event).mpr) begins

/-- The player is gone before the database server has answered. -/
theorem offline_before_the_hero :
    ¬ EveryStep step UsesHeroes (start ⟨0, 0, 1, [], .empty⟩ 0)
      [.gateRegister 1 1, .addUser 1 1 11 1, .offlineUser 1] := by
  intro all
  have last : UsesHeroes _ (.offlineUser 1) := all.2.2.1
  obtain ⟨h, null, _⟩ := last (by decide) none (by decide)
  cases null

end HeroPointers
