import DreamHeroes.GameServer

/- What a request of its client makes of a hero, and which keys it has looked up. -/
namespace HeroRequests

open ByteWords OrderedMaps ObjMap GameHero SuitText GameServer

/- None when DelSuit ran past the end of the list. -/
def afterRequest (hero : DreamHero) : ClientRequest → Option DreamHero
  | .modifySuitName suitId suitName => some (hero.modifySuitName suitId suitName).1
  | .modifySuit suit => some (hero.modifySuit suit).1
  | .delSuit suitId => (hero.delSuit suitId).map (·.1)
  | .verifyToyCDKey _ => some hero

/- The keys a request sends to the database server. -/
def asks (hero : DreamHero) : ClientRequest → List CdKey
  | .verifyToyCDKey cdKey => if hero.hasToy cdKey then [] else [cStr cdKey]
  | _ => []

/-- The list of suits a request leaves. -/
def suitsAfter (suits : List MsgSuitData) : ClientRequest → Option (List MsgSuitData)
  | .modifySuitName suitId suitName =>
      some ((DreamHero.renameSuit suitId (cStr suitName) suits).getD suits)
  | .modifySuit suitData =>
      some (if suits.any (·.suitId = suitData.suitId) then
        suits.map fun suit => if suit.suitId = suitData.suitId then suitData else suit
      else suits ++ [suitData])
  | .delSuit suitId => (DreamHero.eraseSuits suitId suits).map (·.1)
  | .verifyToyCDKey _ => some suits

def withSuits (hero : DreamHero) (suits : List MsgSuitData) : DreamHero :=
  { hero with info := { hero.info with suits := suits } }

variable {hero hero' : DreamHero} {request : ClientRequest} {suits suits' : List MsgSuitData}
  {suit : MsgSuitData} {suitId : Int32} {name : Bytes} {s : Server} {h : HeroPtr}

/-- A request changes nothing of a hero but its suits. -/
theorem afterRequest_eq (hero : DreamHero) (request : ClientRequest) :
    afterRequest hero request = (suitsAfter hero.info.suits request).map (withSuits hero) := by
  cases request with
  | modifySuitName suitId suitName =>
    simp only [afterRequest, DreamHero.modifySuitName, suitsAfter, Option.map_some]
    cases DreamHero.renameSuit suitId (cStr suitName) hero.info.suits <;> rfl
  | modifySuit suitData => rfl
  | delSuit suitId =>
    simp only [afterRequest, DreamHero.delSuit, suitsAfter, Option.map_map]
    rfl
  | verifyToyCDKey cdKey => rfl

theorem sendMessage_eq (s : Server) (message : ClientMessage) (flag : TranId) (gate : GateId) :
    ∃ toGates, s.sendMessage message flag gate = { s with toGates := toGates } := by
  unfold Server.sendMessage
  split
  · split
    · exact ⟨_, rfl⟩
    · exact ⟨s.toGates, rfl⟩
  · exact ⟨s.toGates, rfl⟩

/-- Telling the client something leaves the heroes and the queue to the database server alone. -/
theorem heroSend_eq (s : Server) (h : HeroPtr) (message : ClientMessage) :
    ∃ toGates misused, s.heroSend h message =
      { s with toGates := toGates, misused := misused } := by
  unfold Server.heroSend Server.sessionSend
  split
  · obtain ⟨toGates, sent⟩ := sendMessage_eq (s.useSession (s.heroAt h).session) message _ _
    exact ⟨toGates, _, sent⟩
  · exact ⟨s.toGates, _, rfl⟩

theorem answer_same (s : Server) (h : HeroPtr) (result : DreamHero × ClientMessage) :
    (s.answer h result).heroAt h = result.1 ∧ (s.answer h result).toDatabase = s.toDatabase := by
  obtain ⟨toGates, misused, sent⟩ := heroSend_eq (s.setHero h result.1) h result.2
  rw [Server.answer, sent]
  exact ⟨Function.update_self .., rfl⟩

/-- The game server handles a request the same way. -/
theorem heroRequest_eq (after : afterRequest (s.heroAt h) request = some hero') :
    (s.heroRequest h request).heroAt h = hero' ∧
      (s.heroRequest h request).toDatabase = s.toDatabase ++
        (asks (s.heroAt h) request).map fun cdKey =>
          ((s.sessions (s.heroAt h).session).tranid, .verifyToy cdKey) := by
  cases request with
  | modifySuitName suitId suitName =>
    have same := answer_same s h ((s.heroAt h).modifySuitName suitId suitName)
    cases after
    rw [Server.heroRequest]
    simpa [asks] using same
  | modifySuit suitData =>
    have same := answer_same s h ((s.heroAt h).modifySuit suitData)
    cases after
    rw [Server.heroRequest]
    simpa [asks] using same
  | delSuit suitId =>
    obtain ⟨result, found, rfl⟩ := Option.map_eq_some_iff.mp after
    have same := answer_same s h result
    rw [Server.heroRequest, found]
    simpa [asks] using same
  | verifyToyCDKey cdKey =>
    cases after
    rw [Server.heroRequest, Server.verifyToyCDKey, asks]
    split
    · obtain ⟨toGates, misused, sent⟩ := heroSend_eq s h
        (.verifyToyCDKeyErrorACK (cStr cdKey) .toyCdKeyHaveBeenInUsed)
      simp [sent]
    · exact ⟨rfl, rfl⟩

theorem renameSuit_none :
    DreamHero.renameSuit suitId name suits = none ↔ ∀ suit ∈ suits, suit.suitId ≠ suitId := by
  induction suits with
  | nil => simp [DreamHero.renameSuit]
  | cons suit rest ih =>
    rw [DreamHero.renameSuit, List.forall_mem_cons, ← ih]
    split
    · rename_i same
      simp [same]
    · rename_i other
      simp [other]

/-- Renaming changes the first suit of the id. -/
theorem renameSuit_some (renamed : DreamHero.renameSuit suitId name suits = some suits') :
    ∃ front suit back, suits = front ++ suit :: back ∧ suit.suitId = suitId ∧
      suits.find? (·.suitId = suitId) = some suit ∧
      suits' = front ++ { suit with suitName := name } :: back := by
  induction suits generalizing suits' with
  | nil => cases renamed
  | cons suit rest ih =>
    rw [DreamHero.renameSuit] at renamed
    split at renamed
    · rename_i same
      cases renamed
      exact ⟨[], suit, rest, rfl, same, by simp [same], rfl⟩
    · rename_i other
      obtain ⟨later, found, rfl⟩ := Option.map_eq_some_iff.mp renamed
      obtain ⟨front, old, back, parts, same, first, rfl⟩ := ih found
      refine ⟨suit :: front, old, back, by rw [parts]; rfl, same, ?_, rfl⟩
      simpa [other] using first

theorem eraseSuits_sublist {erased : List MsgSuitData × Bool}
    (found : DreamHero.eraseSuits suitId suits = some erased) : erased.1.Sublist suits := by
  induction suits using DreamHero.eraseSuits.induct suitId generalizing erased with
  | case1 =>
    cases found
    exact .refl []
  | case2 suit same => simp [DreamHero.eraseSuits, same] at found
  | case3 suit other =>
    simp only [DreamHero.eraseSuits, if_neg other] at found
    cases found
    exact .refl [suit]
  | case4 suit next rest same ih =>
    rw [DreamHero.eraseSuits, if_pos same] at found
    obtain ⟨later, inside, rfl⟩ := Option.map_eq_some_iff.mp found
    exact ((ih inside).cons_cons next).cons suit
  | case5 suit next rest other ih =>
    rw [DreamHero.eraseSuits, if_neg other] at found
    obtain ⟨later, inside, rfl⟩ := Option.map_eq_some_iff.mp found
    exact (ih inside).cons_cons suit

end HeroRequests
