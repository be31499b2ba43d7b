import DreamHeroes.GameTurns

/- Several game servers in front of one character database. A hero stays in the memory of the
   server that made it and goes on saving after its session is gone, and the next login of the
   account may come to another server. What the database answers is left open. -/
namespace StaleSaves

open GameHero GameServer GameTalks GameTurns OrderedMaps ObjMap LabelledRuns

abbrev ServerId := Nat

/-- The server has a session for the account. -/
def Holds (s : Server) (a : Account) : Prop :=
  ∃ t p, getData s.onlines t = some p ∧ (s.sessions p).account = a

/-- The server has a session for the account or still keeps its hero. -/
def Keeps (s : Server) (a : Account) : Prop := Holds s a ∨ getData s.heros a ≠ none

/-- The step runs SaveHero for the hero of the account. -/
def Saves (s : Server) (event : Event) (a : Account) : Prop :=
  s.crashed = false ∧ match event with
    | .saveTick h => h < s.nextHero ∧ (s.heroAt h).saving = true ∧ (s.heroAt h).account = a
    | .setStop => getData s.heros a ≠ none
    | _ => False

/-- The hero of the account has other data after the step. -/
def Changes (s s' : Server) (a : Account) : Prop :=
  ∃ h, getData s.heros a = some h ∧ ¬ ((s'.heroAt h).info = (s.heroAt h).info ∧
    (s'.heroAt h).heroEquips = (s.heroAt h).heroEquips ∧
    (s'.heroAt h).heroToys = (s.heroAt h).heroToys)

/-- The step makes a session for the account. -/
def Admits (s : Server) (event : Event) (a : Account) : Prop :=
  ∃ link t p, event = .addUser link t a p ∧ s.live p = false ∧ getData s.onlines t = none

/- admitted and overtaken are history values: which server has made a session for an account,
   and whether another server that did so has changed or saved its hero since this one held a
   session for the account. -/
structure Fleet where
  game : ServerId → Server
  admitted : ServerId → Account → Prop
  overtaken : ServerId → Account → Prop

def step (f : Fleet) (event : ServerId × Event) : Fleet :=
  let g := event.1
  let before := f.game g
  let game := Function.update f.game g (GameServer.step before event.2)
  let admitted := fun h a => f.admitted h a ∨ h = g ∧ Holds (game h) a
  { game := game
    admitted := admitted
    overtaken := fun h a => ¬ Holds (game h) a ∧ (f.overtaken h a ∨
      h ≠ g ∧ admitted g a ∧ (Changes before (game g) a ∨ Saves before event.2 a)) }

def start (config : ServerId → HeroConfig) (generateId : ServerId → Nat) : Fleet where
  game := fun g => GameServer.start (config g) (generateId g)
  admitted := fun _ _ => False
  overtaken := fun _ _ => False

/-- What the step saves is not older than what another server made of it. -/
def Current (f : Fleet) (event : ServerId × Event) : Prop :=
  ∀ a, Saves (f.game event.1) event.2 a → ¬ f.overtaken event.1 a

/-- A session is only made for an account that no other server has a session or a hero for. -/
def Alone (f : Fleet) (event : ServerId × Event) : Prop :=
  ∀ a, Admits (f.game event.1) event.2 a → ∀ g, g ≠ event.1 → ¬ Keeps (f.game g) a

variable {s s' : Server} {a : Account} {event : Event} {f : Fleet}

theorem saves_keeps (valid : Valid s) (saves : Saves s event a) : Keeps s a := by
  cases event with
  | saveTick h =>
    obtain ⟨_, made, _, account⟩ := saves
    obtain ⟨b, listed⟩ := valid.made h made
    have own := (valid.owned b h listed).1
    refine .inr ?_
    rw [← account, own, listed]
    exact Option.some_ne_none h
  | setStop => exact .inr saves.2
  | _ => exact saves.2.elim

theorem changes_keeps (changes : Changes s s' a) : Keeps s a := by
  obtain ⟨h, listed, _⟩ := changes
  refine .inr ?_
  rw [listed]
  exact Option.some_ne_none h

theorem keeps_talks (talks : Talks s s') (keeps : Keeps s' a) : Keeps s a := by
  rcases keeps with ⟨t, p, online, account⟩ | hero
  · rw [talks.onlines] at online
    rw [(talks.sessions p).2.1] at account
    exact .inl ⟨t, p, online, account⟩
  · rw [talks.heros] at hero
    exact .inr hero

/-- Only a session that is made gives a server a new account. -/
theorem keeps_joins {link : LinkPtr} {t : TranId} {b : Account} {p : SessionPtr}
    {hero : Option HeroPtr} (keeps : Keeps s' a) (valid : Valid s) (free : s.live p = false)
    (new : getData s.onlines t = none) (sessions : s'.sessions =
      Function.update s.sessions p ⟨t, b, s.gateId link, true, hero⟩)
    (onlines : s'.onlines = addData s.onlines t p) (heros : s'.heros = s.heros) :
    Keeps s a ∨ Holds s' a ∧ Admits s (.addUser link t b p) a := by
  rcases keeps with ⟨k, q, online, account⟩ | hero
  · have held : Holds s' a := ⟨k, q, online, account⟩
    rw [onlines] at online
    rw [sessions] at account
    rcases getData_addData_some online with old | ⟨_, same⟩
    · have other := valid.fresh free old
      rw [Function.update_of_ne other] at account
      exact .inl (.inl ⟨k, q, old, account⟩)
    · subst same
      rw [Function.update_self] at account
      subst account
      exact .inr ⟨held, link, t, p, rfl, free, new⟩
  · rw [heros] at hero
    exact .inl (.inr hero)

theorem holds_talks (talks : Talks s s') : Holds s' a ↔ Holds s a := by
  unfold Holds
  rw [talks.onlines]
  constructor
  · intro ⟨t, p, online, account⟩
    exact ⟨t, p, online, (talks.sessions p).2.1 ▸ account⟩
  · intro ⟨t, p, online, account⟩
    exact ⟨t, p, online, (talks.sessions p).2.1.trans account⟩

/-- What a server keeps after a step it kept before, or the step made a session for it. -/
theorem keeps_turn (turn : Turn s event s') (valid : Valid s) (keeps : Keeps s' a) :
    Keeps s a ∨ Holds s' a ∧ Admits s event a := by
  cases turn with
  | talked talks => exact .inl (keeps_talks talks keeps)
  | joined free new unknown => exact keeps_joins keeps valid free new rfl rfl rfl
  | returned free new hero talks =>
    have before := keeps_talks talks keeps
    rcases keeps_joins before valid free new rfl rfl rfl with old | ⟨held, admits⟩
    · exact .inl old
    · exact .inr ⟨(holds_talks talks).mpr held, admits⟩
  | removed online =>
    refine .inl ?_
    rcases keeps with ⟨k, q, still, account⟩ | hero
    · exact .inl ⟨k, q, getData_of_eraseData still, account⟩
    · exact .inr hero
  | gateLost gates frees =>
    refine .inl ?_
    rcases keeps with ⟨k, q, still, account⟩ | hero
    · exact .inl ⟨k, q, (removeUserByGate_online.mp still).1, account⟩
    · exact .inr hero
  | @attached _ t p h s' answers online hero talks =>
    refine .inl ?_
    rcases keeps_talks talks keeps with ⟨k, q, still, account⟩ | hero
    · refine .inl ⟨k, q, still, ?_⟩
      by_cases here : q = p
      · subst here
        simpa using account
      · simpa [here] using account
    · exact .inr hero
  | @created _ t p hero s' generateId answers online unknown session account info filledBy talks =>
    refine .inl ?_
    rcases keeps_talks talks keeps with ⟨k, q, still, account⟩ | hero
    · refine .inl ⟨k, q, still, ?_⟩
      by_cases here : q = p
      · subst here
        simpa using account
      · simpa [here] using account
    · rw [getData_heros_insert] at hero
      split at hero
      · rename_i same
        exact .inl ⟨t, p, online, same⟩
      · exact .inr hero

/-- The invariant of the runs in which accounts stay on one server. -/
structure Settled (f : Fleet) : Prop where
  valid : ∀ g, Valid (f.game g)
  single : ∀ a g h, Keeps (f.game g) a → Keeps (f.game h) a → g = h
  overtaken : ∀ g a, f.overtaken g a → ¬ Keeps (f.game g) a

theorem start_keeps (config : HeroConfig) (generateId : Nat) (a : Account) :
    ¬ Keeps (GameServer.start config generateId) a := by
  rintro (⟨t, p, online, _⟩ | hero)
  · cases online
  · exact hero rfl

theorem settled_start (config : ServerId → HeroConfig) (generateId : ServerId → Nat) :
    Settled (start config generateId) where
  valid := fun g => valid_start (config g) (generateId g)
  single := by
    intro a g h keeps
    exact absurd keeps (start_keeps (config g) (generateId g) a)
  overtaken := by
    intro g a impossible
    exact impossible.elim

theorem settled_current (settled : Settled f) (event : ServerId × Event) : Current f event := by
  intro a saves overtaken
  exact settled.overtaken _ a overtaken (saves_keeps (settled.valid _) saves)

/-- A server keeps after a step what it kept before, or is the one that made a session. -/
theorem keeps_step (settled : Settled f) {event : ServerId × Event} {g : ServerId}
    (keeps : Keeps ((step f event).game g) a) :
    Keeps (f.game g) a ∨ g = event.1 ∧ Holds ((step f event).game g) a ∧
      Admits (f.game g) event.2 a := by
  by_cases here : g = event.1
  · subst here
    simp only [step, Function.update_self] at keeps ⊢
    rcases keeps_turn (step_turn (settled.valid _) event.2) (settled.valid _) keeps with old | new
    · exact .inl old
    · exact .inr ⟨trivial, new⟩
  · simp only [step, Function.update_of_ne here] at keeps
    exact .inl keeps

theorem settled_step (event : ServerId × Event) (settled : Settled f) (alone : Alone f event) :
    Settled (step f event) := by
  have apart : ∀ g, g ≠ event.1 → (step f event).game g = f.game g := by
    intro g other
    simp only [step, Function.update_of_ne other]
  refine ⟨?_, ?_, ?_⟩
  · intro g
    by_cases here : g = event.1
    · subst here
      simp only [step, Function.update_self]
      exact valid_step (settled.valid _) event.2
    · rw [apart g here]
      exact settled.valid g
  · intro a g h first second
    rcases keeps_step settled first with oldG | ⟨rfl, _, admits⟩
    · rcases keeps_step settled second with oldH | ⟨rfl, _, admits⟩
      · exact settled.single a g h oldG oldH
      · by_contra other
        exact alone a admits g other oldG
    · rcases keeps_step settled second with oldH | ⟨rfl, _, _⟩
      · by_contra other
        exact alone a admits h (Ne.symm other) oldH
      · rfl
  · rintro g a ⟨gone, before | ⟨other, _, does⟩⟩ keeps
    · rcases keeps_step settled keeps with old | ⟨_, held, _⟩
      · exact settled.overtaken g a before old
      · exact gone held
    · rw [apart g other] at keeps
      have active : Keeps (f.game event.1) a := by
        rcases does with changes | saves
        · exact changes_keeps changes
        · exact saves_keeps (settled.valid _) saves
      exact other (settled.single a g event.1 keeps active)

/-- No save is stale in a run in which no account comes to a second server. -/
theorem no_stale_save (config : ServerId → HeroConfig) (generateId : ServerId → Nat)
    (events : List (ServerId × Event)) (alone : EveryStep step Alone (start config generateId) events) :
    EveryStep step Current (start config generateId) events :=
  everyStep_of_invariant (fun _ event => settled_step event)
    (fun _ event settled _ => settled_current settled event) (settled_start config generateId) alone

theorem no_stale_save_one_server :
    EveryStep step Current (start (fun _ => ⟨0, 0, 1, [], .empty⟩) fun _ => 0)
      [(1, .gateRegister 0 1), (1, .addUser 0 5 9 70), (1, .needCreateHero 5),
        (1, .saveTick 0)] := by
  apply no_stale_save
  refine ⟨?_, ?_, ?_, ?_, trivial⟩
  all_goals rintro a ⟨link, t, p, same, _⟩ g other
  all_goals cases same
  simp only [step, Function.update_of_ne other]
  exact start_keeps _ _ _

/-- Account 9 logs in on server 1 and leaves. -/
def firstLogin : List (ServerId × Event) := [(1, .gateRegister 0 1), (1, .addUser 0 5 9 70),
  (1, .needCreateHero 5), (1, .removeUser 5)]

/-- The account comes to server 2 and its hero is saved there, and then the save timer of the
hero that server 1 still has goes off. -/
theorem second_server_saved_over :
    ¬ EveryStep step Current (start (fun _ => ⟨0, 0, 1, [], .empty⟩) fun _ => 0)
      (firstLogin ++ [(2, .addUser 0 6 9 70), (2, .needCreateHero 6), (2, .saveTick 0),
        (1, .saveTick 0)]) := by
  intro all
  obtain ⟨_, _, _, _, _, _, _, last, _⟩ := all
  apply last 9 ⟨rfl, by decide, rfl, rfl⟩
  refine ⟨?_, .inr ⟨by decide, .inr ⟨rfl, 6, 70, rfl, rfl⟩, .inr ⟨rfl, by decide, rfl, rfl⟩⟩⟩
  rintro ⟨t, p, online, _⟩
  cases online

end StaleSaves
