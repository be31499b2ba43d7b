import DreamHeroes.GameServer

/- The handlers of the game server that change heroes and send messages while nobody comes or
   goes. -/
namespace GameTalks

open GameHero GameServer OrderedMaps ObjMap

/-- A message that any hero of the manager may send at any time. -/
def Plain (s : Server) : DatabaseMessage → Prop
  | .reqHeroData _ => False
  | .saveData h (.character row) =>
      (∃ a, getData s.heros a = some h) ∧ row.accountId = (s.heroAt h).info.account
  | _ => True

/-- The hero belongs to the same account and session as before. -/
abbrev SameOwner (old new : DreamHero) : Prop :=
  new.session = old.session ∧ new.account = old.account ∧
    new.info.account = old.info.account ∧ new.filledBy = old.filledBy

/-- Heroes were changed and messages sent, but nobody came or went. -/
structure Talks (s s' : Server) : Prop where
  sessions : ∀ p, (s'.sessions p).tranid = (s.sessions p).tranid ∧
    (s'.sessions p).account = (s.sessions p).account ∧
    (s'.sessions p).dreamHero = (s.sessions p).dreamHero
  live : s'.live = s.live
  onlines : s'.onlines = s.onlines
  heros : s'.heros = s.heros
  nextHero : s'.nextHero = s.nextHero
  heroAt : ∀ h, SameOwner (s.heroAt h) (s'.heroAt h)
  sent : ∃ more, s'.toDatabase = s.toDatabase ++ more ∧ ∀ entry ∈ more, Plain s entry.2
  misused : s'.misused = true → s.misused = true ∨
    ∃ a h, getData s.heros a = some h ∧ s.live (s.heroAt h).session = false

variable {s s' s'' : Server} {h : HeroPtr} {event : Event}

/-- The hero is in the manager. -/
def Listed (s : Server) (h : HeroPtr) : Prop := ∃ a, getData s.heros a = some h

/-- Also for a hero that differs in none of the four fields. -/
theorem sameOwner_refl (hero : DreamHero) : SameOwner hero hero := ⟨rfl, rfl, rfl, rfl⟩

theorem Talks.refl (s : Server) : Talks s s where
  sessions := fun _ => ⟨rfl, rfl, rfl⟩
  live := rfl
  onlines := rfl
  heros := rfl
  nextHero := rfl
  heroAt := fun h => sameOwner_refl (s.heroAt h)
  sent := ⟨[], by simp, by simp⟩
  misused := .inl

theorem Talks.plain (talks : Talks s s') {message : DatabaseMessage} :
    Plain s' message ↔ Plain s message := by
  cases message with
  | saveData h statement =>
    cases statement with
    | character row => simp only [Plain, talks.heros, (talks.heroAt h).2.2.1]
    | equips text => rfl
    | toys account toys => rfl
  | reqHeroData a => rfl
  | saveAllHeroes => rfl
  | verifyToy cdKey => rfl

theorem Talks.trans (first : Talks s s') (second : Talks s' s'') : Talks s s'' where
  sessions := by
    intro p
    obtain ⟨t, a, h⟩ := first.sessions p
    obtain ⟨t', a', h'⟩ := second.sessions p
    exact ⟨t'.trans t, a'.trans a, h'.trans h⟩
  live := second.live.trans first.live
  onlines := second.onlines.trans first.onlines
  heros := second.heros.trans first.heros
  nextHero := second.nextHero.trans first.nextHero
  heroAt := by
    intro h
    obtain ⟨p, a, i, f⟩ := first.heroAt h
    obtain ⟨p', a', i', f'⟩ := second.heroAt h
    exact ⟨p'.trans p, a'.trans a, i'.trans i, f'.trans f⟩
  sent := by
    obtain ⟨more, grown, plain⟩ := first.sent
    obtain ⟨later, grown', plain'⟩ := second.sent
    refine ⟨more ++ later, by rw [grown', grown, List.append_assoc], ?_⟩
    intro entry member
    rcases List.mem_append.mp member with here | there
    · exact plain entry here
    · exact first.plain.mp (plain' entry there)
  misused := by
    intro misused
    rcases second.misused misused with before | ⟨a, h, listed, dead⟩
    · exact first.misused before
    · refine .inr ⟨a, h, ?_, ?_⟩
      · rwa [← first.heros]
      · rwa [← first.live, ← (first.heroAt h).1]

theorem Talks.listed (talks : Talks s s') (listed : Listed s h) : Listed s' h := by
  obtain ⟨a, hero⟩ := listed
  exact ⟨a, by rwa [talks.heros]⟩

theorem talks_crash (s : Server) : Talks s s.crash :=
  { Talks.refl s with }

theorem talks_setHero {hero : DreamHero} (same : SameOwner (s.heroAt h) hero) :
    Talks s (s.setHero h hero) :=
  { Talks.refl s with
    heroAt := by
      intro k
      by_cases here : k = h
      · subst here
        simpa [Server.setHero] using same
      · simp only [Server.setHero, Function.update_of_ne here]
        exact sameOwner_refl (s.heroAt k) }

theorem talks_setSession {p : SessionPtr} {session : Session}
    (same : session.tranid = (s.sessions p).tranid ∧ session.account = (s.sessions p).account ∧
      session.dreamHero = (s.sessions p).dreamHero) : Talks s (s.setSession p session) :=
  { Talks.refl s with
    sessions := by
      intro q
      by_cases here : q = p
      · subst here
        simpa [Server.setSession] using same
      · simp [Server.setSession, here] }

theorem talks_useSession (listed : Listed s h) :
    Talks s (s.useSession (s.heroAt h).session) :=
  { Talks.refl s with
    misused := by
      intro misused
      simp [Server.useSession] at misused
      rcases misused with before | dead
      · exact .inl before
      · obtain ⟨a, hero⟩ := listed
        exact .inr ⟨a, h, hero, dead⟩ }

theorem talks_sendDatabase (flag : TranId) {message : DatabaseMessage}
    (plain : Plain s message) : Talks s (s.sendDatabase flag message) :=
  { Talks.refl s with sent := ⟨[(flag, message)], rfl, by simpa using plain⟩ }

/-- The equip is one of the hero's. -/
def Worn (hero : DreamHero) (equip : MsgEquipData) : Prop :=
  ∃ id, (id, equip) ∈ hero.heroEquips.entries

/-- A message that saves equips saves those of a hero of the manager, under its account. -/
def OwnEquips (s : Server) : DatabaseMessage → Prop
  | .saveData h (.equips text) => Listed s h ∧ ∀ equip account, .row equip account ∈ text →
      account = (s.heroAt h).info.account ∧ Worn (s.heroAt h) equip
  | _ => True

/-- What a hero does in answer to a request or on its timer is made of these acts. -/
inductive Acts : Server → Server → Prop where
  | stay (s : Server) : Acts s s
  | next {s s' s'' : Server} (first : Acts s s') (later : Acts s' s'') : Acts s s''
  | hero {s : Server} {h : HeroPtr} {hero : DreamHero} (same : SameOwner (s.heroAt h) hero)
      (equips : hero.heroEquips = (s.heroAt h).heroEquips) : Acts s (s.setHero h hero)
  | use {s : Server} {h : HeroPtr} (listed : Listed s h) :
      Acts s (s.useSession (s.heroAt h).session)
  | tell {s : Server} (toGates : List (LinkPtr × TranId × ClientMessage)) :
      Acts s { s with toGates := toGates }
  | save {s : Server} {flag : TranId} {message : DatabaseMessage} (plain : Plain s message)
      (own : OwnEquips s message) : Acts s (s.sendDatabase flag message)
  | toys {s : Server} (toyCdkeyAccount : OrderedMap CdKey Account) :
      Acts s { s with toyCdkeyAccount := toyCdkeyAccount }
  | crash (s : Server) : Acts s s.crash

theorem talks_acts (acts : Acts s s') : Talks s s' := by
  induction acts with
  | stay s => exact Talks.refl s
  | next _ _ first later => exact first.trans later
  | hero same _ => exact talks_setHero same
  | use listed => exact talks_useSession listed
  | tell toGates => exact { Talks.refl _ with }
  | save plain _ => exact talks_sendDatabase _ plain
  | toys toyCdkeyAccount => exact { Talks.refl _ with }
  | crash s => exact talks_crash s

theorem Acts.listed (acts : Acts s s') (listed : Listed s h) : Listed s' h :=
  (talks_acts acts).listed listed

theorem acts_sendMessage (message : ClientMessage) (flag : TranId) (gate : GateId) :
    Acts s (s.sendMessage message flag gate) := by
  unfold Server.sendMessage
  split
  · split
    · exact .tell _
    · exact .stay s
  · exact .stay s

theorem acts_sessionSend (p : SessionPtr) (message : ClientMessage) :
    Acts s (s.sessionSend p message) := by
  unfold Server.sessionSend
  split
  · apply acts_sendMessage
  · exact .stay s

theorem acts_heroSend (listed : Listed s h) (message : ClientMessage) :
    Acts s (s.heroSend h message) :=
  (Acts.use listed).next (acts_sessionSend _ message)

theorem acts_heroSends (listed : Listed s h) (messages : List ClientMessage) :
    Acts s (messages.foldl (Server.heroSend · h) s) := by
  induction messages generalizing s with
  | nil => exact .stay s
  | cons message rest ih =>
    have first := acts_heroSend listed message
    exact first.next (ih (first.listed listed))

theorem acts_sendClientInit (listed : Listed s h) : Acts s (s.sendClientInit h) := by
  have saving : Acts s (s.setHero h { s.heroAt h with saving := true }) :=
    .hero (sameOwner_refl _) rfl
  have sending := acts_heroSends (saving.listed listed)
    ((s.setHero h { s.heroAt h with saving := true }).heroAt h).clientInit
  exact (saving.next sending).next (.hero (sameOwner_refl _) rfl)

theorem acts_answer (listed : Listed s h) {result : DreamHero × ClientMessage}
    (same : SameOwner (s.heroAt h) result.1)
    (equips : result.1.heroEquips = (s.heroAt h).heroEquips) : Acts s (s.answer h result) := by
  have changed : Acts s (s.setHero h result.1) := .hero same equips
  exact changed.next (acts_heroSend (changed.listed listed) result.2)

theorem modifySuitName_sameOwner (hero : DreamHero) (suitId : Int32) (suitName : ByteWords.Bytes) :
    SameOwner hero (hero.modifySuitName suitId suitName).1 ∧
      (hero.modifySuitName suitId suitName).1.heroEquips = hero.heroEquips := by
  unfold DreamHero.modifySuitName
  split
  · exact ⟨sameOwner_refl hero, rfl⟩
  · exact ⟨sameOwner_refl hero, rfl⟩

theorem delSuit_sameOwner {hero : DreamHero} {suitId : Int32} {result : DreamHero × ClientMessage}
    (done : hero.delSuit suitId = some result) :
    SameOwner hero result.1 ∧ result.1.heroEquips = hero.heroEquips := by
  obtain ⟨erased, _, rfl⟩ := Option.map_eq_some_iff.mp done
  exact ⟨sameOwner_refl hero, rfl⟩

theorem acts_heroRequest (listed : Listed s h) (request : ClientRequest) :
    Acts s (s.heroRequest h request) := by
  cases request with
  | modifySuitName suitId suitName =>
    obtain ⟨same, equips⟩ := modifySuitName_sameOwner (s.heroAt h) suitId suitName
    exact acts_answer listed same equips
  | modifySuit suit => exact acts_answer listed (sameOwner_refl _) rfl
  | delSuit suitId =>
    simp only [Server.heroRequest]
    split
    · rename_i result done
      obtain ⟨same, equips⟩ := delSuit_sameOwner done
      exact acts_answer listed same equips
    · exact .crash s
  | verifyToyCDKey cdKey =>
    simp only [Server.heroRequest, Server.verifyToyCDKey]
    split
    · exact acts_heroSend listed _
    · exact (Acts.use listed).next (.save trivial trivial)

theorem acts_saves (listed : Listed s h) (flag : TranId) (statements : List SaveStatement)
    (own : ∀ row, .character row ∈ statements → row.accountId = (s.heroAt h).info.account)
    (equips : ∀ text, .equips text ∈ statements → ∀ equip account, .row equip account ∈ text →
      account = (s.heroAt h).info.account ∧ Worn (s.heroAt h) equip) :
    Acts s (statements.foldl (fun s statement => s.sendDatabase flag (.saveData h statement))
      s) := by
  induction statements generalizing s with
  | nil => exact .stay s
  | cons statement rest ih =>
    have first : Acts s (s.sendDatabase flag (.saveData h statement)) := by
      cases statement with
      | character row => exact .save ⟨listed, own row List.mem_cons_self⟩ trivial
      | equips text => exact .save trivial ⟨listed, equips text List.mem_cons_self⟩
      | toys account toys => exact .save trivial trivial
    apply first.next
    apply ih (first.listed listed)
    · intro row member
      exact own row (List.mem_cons_of_mem statement member)
    · intro text member
      exact equips text (List.mem_cons_of_mem statement member)

theorem equipStatements_plain {account : Account} {equips : List MsgEquipData} {itemCount : Nat}
    {sqlTemp : List EquipPiece} {row : CharacterRow} :
    .character row ∉ DreamHero.equipStatements account equips itemCount sqlTemp := by
  induction equips generalizing itemCount sqlTemp with
  | nil =>
    unfold DreamHero.equipStatements
    split <;> simp
  | cons equip rest ih =>
    unfold DreamHero.equipStatements
    simp only
    split
    · simp [ih]
    · exact ih

theorem toyStatements_plain {account : Account} {toys : List MsgToyData} {toySaveCount : Nat}
    {sqlExcute : List MsgToyData} {row : CharacterRow} :
    .character row ∉ DreamHero.toyStatements account toys toySaveCount sqlExcute := by
  induction toys generalizing toySaveCount sqlExcute with
  | nil =>
    unfold DreamHero.toyStatements
    split <;> simp
  | cons toy rest ih =>
    unfold DreamHero.toyStatements
    split
    · simp [ih]
    · exact ih

theorem toyStatements_no_equips {account : Account} {toys : List MsgToyData}
    {toySaveCount : Nat} {sqlExcute : List MsgToyData} {text : List EquipPiece} :
    .equips text ∉ DreamHero.toyStatements account toys toySaveCount sqlExcute := by
  induction toys generalizing toySaveCount sqlExcute with
  | nil =>
    unfold DreamHero.toyStatements
    split <;> simp
  | cons toy rest ih =>
    unfold DreamHero.toyStatements
    split
    · simp [ih]
    · exact ih

/-- A row of the statements of equips is one of the equips, or stood in the text before. -/
theorem equipStatements_rows {account : Account} {equips : List MsgEquipData} {itemCount : Nat}
    {sqlTemp text : List EquipPiece} {equip : MsgEquipData} {owner : Account}
    (member : .equips text ∈ DreamHero.equipStatements account equips itemCount sqlTemp)
    (row : .row equip owner ∈ text) :
    .row equip owner ∈ sqlTemp ∨ owner = account ∧ equip ∈ equips := by
  induction equips generalizing itemCount sqlTemp with
  | nil =>
    unfold DreamHero.equipStatements at member
    split at member
    · cases member
    · rw [List.mem_singleton] at member
      cases member
      exact .inl row
  | cons first rest ih =>
    unfold DreamHero.equipStatements at member
    simp only at member
    have later : ∀ count piece, (piece = .head ∨ piece = .comma) → .equips text ∈
        DreamHero.equipStatements account rest (count + 1) (sqlTemp ++ [piece, .row first account]) →
        .row equip owner ∈ sqlTemp ∨ owner = account ∧ equip ∈ first :: rest := by
      intro count piece kind found
      rcases ih found with before | ⟨own, listed⟩
      · rcases List.mem_append.mp before with old | added
        · exact .inl old
        · rcases kind with rfl | rfl
          · simp at added
            exact .inr ⟨added.2, by simp [added.1]⟩
          · simp at added
            exact .inr ⟨added.2, by simp [added.1]⟩
      · exact .inr ⟨own, List.mem_cons_of_mem first listed⟩
    have kind : ∀ count : Nat, (if count = 0 then EquipPiece.head else .comma) = .head ∨
        (if count = 0 then EquipPiece.head else .comma) = .comma := by
      intro count
      split
      · exact .inl rfl
      · exact .inr rfl
    split at member
    · rcases List.mem_cons.mp member with here | there
      · cases here
        exact .inl row
      · exact later _ _ (kind _) there
    · exact later _ _ (kind _) member

theorem saveStatements_own {hero : DreamHero} {statements : List SaveStatement}
    {row : CharacterRow} (saved : hero.saveStatements = some statements)
    (member : .character row ∈ statements) : row.accountId = hero.info.account := by
  obtain ⟨suits, _, rfl⟩ := Option.map_eq_some_iff.mp saved
  rcases List.mem_cons.mp member with here | later
  · rw [SaveStatement.character.inj here]
  · rcases List.mem_append.mp later with equip | toy
    · exact absurd equip equipStatements_plain
    · exact absurd toy toyStatements_plain

theorem saveStatements_worn {hero : DreamHero} {statements : List SaveStatement}
    {text : List EquipPiece} {equip : MsgEquipData} {account : Account}
    (saved : hero.saveStatements = some statements) (member : .equips text ∈ statements)
    (row : .row equip account ∈ text) : account = hero.info.account ∧ Worn hero equip := by
  obtain ⟨suits, _, rfl⟩ := Option.map_eq_some_iff.mp saved
  rcases List.mem_cons.mp member with here | later
  · cases here
  · rcases List.mem_append.mp later with equips | toys
    · rcases equipStatements_rows equips row with before | ⟨own, listed⟩
      · cases before
      · obtain ⟨entry, inside, rfl⟩ := List.mem_map.mp listed
        exact ⟨own, entry.1, inside⟩
    · exact absurd toys toyStatements_no_equips

theorem acts_saveHero (listed : Listed s h) : Acts s (s.saveHero h) := by
  unfold Server.saveHero
  split
  · rename_i statements saved
    have reads := Acts.use listed
    apply reads.next
    apply acts_saves (reads.listed listed)
    · intro row member
      exact saveStatements_own saved member
    · intro text member equip account row
      exact saveStatements_worn saved member row
  · exact .crash s

theorem acts_saveDreamHeroes (s : Server) : Acts s s.saveDreamHeroes := by
  have all : ∀ entries : List (Account × HeroPtr), ∀ s : Server,
      (∀ entry ∈ entries, Listed s entry.2) →
        Acts s (entries.foldl (fun s entry => s.saveHero entry.2) s) := by
    intro entries
    induction entries with
    | nil =>
      intro s _
      exact .stay s
    | cons entry rest ih =>
      intro s listed
      have first := acts_saveHero (listed entry List.mem_cons_self)
      apply first.next
      apply ih
      intro later member
      exact first.listed (listed later (List.mem_cons_of_mem entry member))
  unfold Server.saveDreamHeroes
  apply (all s.heros.entries s _).next
  · exact .save trivial trivial
  · intro entry member
    exact ⟨entry.1, OrderedMap.find?_eq_some.mpr member⟩

theorem acts_removeToyOf (a : Account) (cdKey : CdKey) (owner : Account) :
    Acts s (s.removeToyOf a cdKey owner) := by
  unfold Server.removeToyOf
  split
  · rename_i h found
    have changed : Acts s (s.setHero h ((s.heroAt h).removeToyByCDKey cdKey)) :=
      .hero (sameOwner_refl _) rfl
    exact changed.next (.toys _)
  · exact .stay s

theorem acts_insertToy (h : HeroPtr) (toy : MsgToyData) :
    Acts s (s.setHero h ((s.heroAt h).insertToy toy)) := .hero (sameOwner_refl _) rfl

theorem acts_verifyToy (listed : Listed s h) (toy : MsgToyData) (a : Account) :
    Acts s (s.verifyToy h toy a) := by
  have removed := acts_removeToyOf (s := s) a toy.toyCdKey (s.heroAt h).account
  unfold Server.verifyToy
  simp only
  split
  · exact removed
  · have both := removed.next (acts_insertToy h toy)
    exact both.next (acts_heroSend (both.listed listed) _)

/-- Nobody else is registered while a hero acts. -/
theorem acts_addOnline (t : TranId) (p : SessionPtr) (acts : Acts s s') :
    Acts { s with onlines := addData s.onlines t p }
      { s' with onlines := addData s'.onlines t p } := by
  induction acts with
  | stay s => exact .stay _
  | next _ _ first later => exact first.next later
  | hero same equips => exact .hero same equips
  | use listed => exact .use listed
  | tell toGates => exact .tell toGates
  | @save s flag message plain own =>
    refine .save (s := { s with onlines := addData s.onlines t p }) ?_ ?_
    · cases message with
      | saveData h statement => cases statement <;> exact plain
      | _ => exact plain
    · cases message with
      | saveData h statement => cases statement <;> exact own
      | _ => exact own
  | toys toyCdkeyAccount => exact .toys toyCdkeyAccount
  | crash s => exact .crash _

theorem talks_setReconnet (p : SessionPtr) : Talks s (s.setReconnet p) := by
  have online : Talks s (s.setSession p { s.sessions p with online := true }) :=
    talks_setSession ⟨rfl, rfl, rfl⟩
  simp only [Server.setReconnet]
  split
  · exact online.trans (talks_setHero (sameOwner_refl _))
  · exact online

theorem talks_setWaitReconnet (p : SessionPtr) : Talks s (s.setWaitReconnet p) := by
  have offline : Talks s (s.setSession p { s.sessions p with online := false }) :=
    talks_setSession ⟨rfl, rfl, rfl⟩
  simp only [Server.setWaitReconnet]
  split
  · exact offline.trans (talks_setHero (sameOwner_refl _))
  · exact offline.trans (talks_crash _)

end GameTalks
