import DreamHeroes.RequiredFields
import DreamHeroes.ToyOwners

/- What a client hears of a cd key it sends: the request goes to the database server and comes
   back as the answer of a lookup, or is lost on the way. -/
namespace ToyAnswers

open ByteWords OrderedMaps ObjMap GameHero SuitText GameServer HeroRequests RequiredFields
open ToyOwners hiding step start
open LabelledRuns

/- The result of the select: null, or the first row if there is one. -/
inductive Lookup where
  | failed
  | rows (first : Option (CdKey × ToyRow))
  deriving DecidableEq, Repr

def dbDoQuerryToyVerify (tranid : TranId) (serverTime : UInt64) : Lookup → Option Reply
  | .rows (some (key, row)) => some ⟨tranid, ⟨cStr key, serverTime, row.toy⟩, row.account⟩
  | .rows none => none
  | .failed => none

/- GameSession of the database server. A message that is not initialized is refused. -/
def parseMsgVerifyToy (lookup : Lookup) (serverTime : UInt64) (flag : TranId)
    (message : SentMessage) : Option Reply :=
  if isInitialized message then dbDoQuerryToyVerify flag serverTime lookup else none

/- What comes of a message of the game server. The account is what the request carries. -/
def comesBack (account : Option Account) (lookup : Lookup) (serverTime : UInt64) (s : Server)
    (entry : TranId × DatabaseMessage) : Server :=
  match entry.2 with
  | .verifyToy cdKey =>
      match parseMsgVerifyToy lookup serverTime entry.1
        (.msgVerifyToyGS2DB (some cdKey) account) with
      | some reply => step s (.verifyToy reply.tranid reply.toy reply.account)
      | none => s
  | _ => s

/-- A request for a key and all that follows from it. -/
def exchange (account : Option Account) (s : Server) (t : TranId) (cdKey : CdKey)
    (lookup : Lookup) (serverTime : UInt64) : Server :=
  let asked := step s (.userMsg t (.verifyToyCDKey cdKey))
  (asked.toDatabase.drop s.toDatabase.length).foldl (comesBack account lookup serverTime) asked

/- The game server sets no account. -/
def request (s : Server) (t : TranId) (cdKey : CdKey) (lookup : Lookup) (serverTime : UInt64) :
    Server :=
  exchange none s t cdKey lookup serverTime

/-- The player is online with its hero, and so is the link to its gate. -/
structure Ready (s : Server) (t : TranId) (p : SessionPtr) (h : HeroPtr) (link : LinkPtr) :
    Prop where
  running : s.crashed = false
  online : getData s.onlines t = some p
  tranid : (s.sessions p).tranid = t
  hero : (s.sessions p).dreamHero = some h
  session : (s.heroAt h).session = p
  present : (s.sessions p).online = true
  gate : invalidGateId < (s.sessions p).gate ∧ (s.sessions p).gate < maxGateId
  link : s.gates (s.sessions p).gate = some link

/-- The client is told one thing: that it got the toy if it did, and an error for its key if not. -/
def Answered (s s' : Server) (t : TranId) (h : HeroPtr) (link : LinkPtr) (cdKey : CdKey) : Prop :=
  ∃ message, s'.toGates = s.toGates ++ [(link, t, message)] ∧
    ((∃ toy, message = .verifyToyCDKeyACK toy ∧
        getData (s'.heroAt h).heroToys toy.toyCdKey = some toy) ∨
      ∃ error, message = .verifyToyCDKeyErrorACK (cStr cdKey) error ∧
        (s'.heroAt h).heroToys = (s.heroAt h).heroToys)

variable {s : Server} {t : TranId} {p : SessionPtr} {h : HeroPtr} {link : LinkPtr}
  {cdKey : CdKey} {lookup : Lookup} {serverTime : UInt64} {account : Option Account}

theorem ready_heroSend (ready : Ready s t p h link) (message : ClientMessage) :
    ∃ misused, s.heroSend h message =
      { s with misused := misused, toGates := s.toGates ++ [(link, t, message)] } := by
  refine ⟨(s.useSession p).misused, ?_⟩
  simp [Server.heroSend, Server.sessionSend, Server.sendMessage, Server.useSession, ready.session,
    ready.present, ready.gate, ready.link, ready.tranid]

/-- A key the hero has is answered at once. -/
theorem exchange_held (ready : Ready s t p h link) (held : (s.heroAt h).hasToy cdKey = true) :
    exchange account s t cdKey lookup serverTime =
      s.heroSend h (.verifyToyCDKeyErrorACK (cStr cdKey) .toyCdKeyHaveBeenInUsed) := by
  have asked : step s (.userMsg t (.verifyToyCDKey cdKey)) =
      s.heroSend h (.verifyToyCDKeyErrorACK (cStr cdKey) .toyCdKeyHaveBeenInUsed) := by
    simp [step, ready.running, handle, Server.parseUserMsg, ready.online, ready.hero,
      Server.heroRequest, Server.verifyToyCDKey, held]
  obtain ⟨misused, sent⟩ :=
    ready_heroSend ready (.verifyToyCDKeyErrorACK (cStr cdKey) .toyCdKeyHaveBeenInUsed)
  rw [exchange, asked, sent]
  simp

/-- Any other key is sent to the database server, and the player waits. -/
theorem exchange_asked (ready : Ready s t p h link) (held : (s.heroAt h).hasToy cdKey = false) :
    ∃ waiting : Server, Ready waiting t p h link ∧ waiting.toGates = s.toGates ∧
      waiting.heroAt = s.heroAt ∧ waiting.heros = s.heros ∧
      exchange account s t cdKey lookup serverTime =
        comesBack account lookup serverTime waiting (t, .verifyToy (cStr cdKey)) := by
  have asked : step s (.userMsg t (.verifyToyCDKey cdKey)) =
      (s.useSession p).sendDatabase t (.verifyToy (cStr cdKey)) := by
    simp [step, ready.running, handle, Server.parseUserMsg, ready.online, ready.hero,
      Server.heroRequest, Server.verifyToyCDKey, held, ready.session, ready.tranid]
  refine ⟨(s.useSession p).sendDatabase t (.verifyToy (cStr cdKey)), { ready with },
    rfl, rfl, rfl, ?_⟩
  rw [exchange, asked]
  simp [Server.sendDatabase, Server.useSession]

/-- Of the hero's own key, nothing is left when the reply names the hero's account. -/
def Lacks (s : Server) (h : HeroPtr) (reply : Reply) : Prop :=
  (s.heroAt h).hasToy reply.toy.toyCdKey = false ∨ getData s.heros reply.account = some h

theorem lacks_iff (s : Server) (h : HeroPtr) (reply : Reply) (owner : Account) :
    ((s.removeToyOf reply.account reply.toy.toyCdKey owner).heroAt h).hasToy
        reply.toy.toyCdKey = false ↔ Lacks s h reply := by
  rw [Lacks, DreamHero.hasToy, DreamHero.hasToy, Bool.eq_false_iff, Bool.eq_false_iff, ne_eq,
    hasData_removed]
  tauto

theorem removeToyOf_gates (a : Account) (cdKey : CdKey) (owner : Account) :
    (s.removeToyOf a cdKey owner).toGates = s.toGates := by
  unfold Server.removeToyOf
  split <;> rfl

/-- The session and its link are as before when toys have changed hands. -/
theorem ready_removeToyOf (ready : Ready s t p h link) (a : Account) (cdKey : CdKey)
    (owner : Account) : Ready (s.removeToyOf a cdKey owner) t p h link := by
  unfold Server.removeToyOf
  split
  · rename_i g found
    refine { ready with session := ?_ }
    by_cases here : h = g
    · subst here
      simpa [Server.setHero, DreamHero.removeToyByCDKey] using ready.session
    · simpa [Server.setHero, here] using ready.session
  · exact ready

theorem ready_insertToy (ready : Ready s t p h link) (toy : MsgToyData) :
    Ready (s.setHero h ((s.heroAt h).insertToy toy)) t p h link :=
  { ready with
    session := by
      simpa [Server.setHero, DreamHero.insertToy] using ready.session }

/-- A reply is told to the client if it brings the toy, and is silent if not. -/
theorem verifyToy_answered_iff {s' : Server} (ready : Ready s' t p h link)
    (told : s'.toGates = s.toGates) (cdKey : CdKey) (reply : Reply)
    (plain : cStr reply.toy.toyCdKey = reply.toy.toyCdKey) :
    Answered s (s'.verifyToy h reply.toy reply.account) t h link cdKey ↔ Lacks s' h reply := by
  have removed := ready_removeToyOf ready reply.account reply.toy.toyCdKey (s'.heroAt h).account
  rw [← lacks_iff s' h reply (s'.heroAt h).account, Server.verifyToy]
  split
  · rename_i held
    simp only [held, Bool.true_eq_false, iff_false]
    rintro ⟨message, sent, _⟩
    rw [removeToyOf_gates, told] at sent
    simp at sent
  · rename_i lacks
    refine iff_of_true ?_ (Bool.eq_false_iff.mpr lacks)
    rw [DreamHero.hasToy, plain] at lacks
    obtain ⟨misused, sent⟩ :=
      ready_heroSend (ready_insertToy removed reply.toy) (.verifyToyCDKeyACK reply.toy)
    rw [sent]
    refine ⟨.verifyToyCDKeyACK reply.toy, ?_, .inl ⟨reply.toy, rfl, ?_⟩⟩
    · simp [Server.setHero, removeToyOf_gates, told]
    · have absent : getData ((s'.removeToyOf reply.account reply.toy.toyCdKey
          (s'.heroAt h).account).heroAt h).heroToys reply.toy.toyCdKey = none := by
        simpa [hasData, getData] using lacks
      simp [Server.setHero, DreamHero.insertToy, absent]

/-- The answer of a lookup is for the player who asked, about a key that c_str has cut. -/
theorem reply_plain {reply : Reply}
    (found : dbDoQuerryToyVerify t serverTime lookup = some reply) :
    reply.tranid = t ∧ cStr reply.toy.toyCdKey = reply.toy.toyCdKey := by
  unfold dbDoQuerryToyVerify at found
  split at found
  · cases found
    exact ⟨rfl, cStr_eq_self (cStr_no_nul _)⟩
  · cases found
  · cases found

/-- With an account in the request the client hears of a key its hero lacks if the lookup finds
    it. An unknown key, a failed lookup and a toy that another spelling of the key has brought
    before stay unanswered. -/
theorem exchange_answered_iff (ready : Ready s t p h link) :
    Answered s (exchange account s t cdKey lookup serverTime) t h link cdKey ↔
      (s.heroAt h).hasToy cdKey = true ∨ (account ≠ none ∧
        ∃ reply, dbDoQuerryToyVerify t serverTime lookup = some reply ∧ Lacks s h reply) := by
  cases held : (s.heroAt h).hasToy cdKey with
  | true =>
    obtain ⟨misused, sent⟩ :=
      ready_heroSend ready (.verifyToyCDKeyErrorACK (cStr cdKey) .toyCdKeyHaveBeenInUsed)
    refine iff_of_true ?_ (.inl rfl)
    rw [exchange_held ready held, sent]
    exact ⟨_, rfl, .inr ⟨_, rfl, rfl⟩⟩
  | false =>
    obtain ⟨waiting, readyThen, told, heroAt, heros, asked⟩ := exchange_asked ready held
    have silent : ¬ Answered s waiting t h link cdKey := by
      rintro ⟨message, sent, _⟩
      rw [told] at sent
      simp at sent
    rw [asked, comesBack]
    simp only [Bool.false_eq_true, false_or, parseMsgVerifyToy, isInitialized]
    cases account with
    | none => simpa using silent
    | some account =>
      cases found : dbDoQuerryToyVerify t serverTime lookup with
      | none => simpa using silent
      | some reply =>
        obtain ⟨tranid, plain⟩ := reply_plain found
        have delivered : step waiting (.verifyToy reply.tranid reply.toy reply.account) =
            waiting.verifyToy h reply.toy reply.account := by
          simp [step, readyThen.running, handle, Server.parseMsgVerifyToy, tranid,
            readyThen.online, readyThen.hero]
        have lacks : Lacks waiting h reply ↔ Lacks s h reply := by
          rw [Lacks, Lacks, heroAt, heros]
        simp only [Option.isSome_some, Bool.and_self, if_true, delivered, ne_eq, reduceCtorEq,
          not_false_eq_true, Option.some.injEq, exists_eq_left', true_and, ← lacks]
        exact verifyToy_answered_iff readyThen told cdKey reply plain

/-- A request is answered exactly if the hero has the toy already, whatever a lookup would say. -/
theorem request_answered_iff (ready : Ready s t p h link) (cdKey : CdKey) (lookup : Lookup)
    (serverTime : UInt64) :
    Answered s (request s t cdKey lookup serverTime) t h link cdKey ↔
      (s.heroAt h).hasToy cdKey = true := by
  rw [request, exchange_answered_iff ready]
  simp

/-- A new player on gate 1 with a default hero. -/
theorem new_player_ready :
    Ready (run step (start ⟨0, 0, 1, [], .empty⟩ 0)
      [.gateRegister 1 1, .addUser 1 1 11 1, .needCreateHero 1]) 1 1 0 1 := by
  constructor <;> decide +kernel

theorem new_player_answered_iff :
    let s := run step (start ⟨0, 0, 1, [], .empty⟩ 0)
      [.gateRegister 1 1, .addUser 1 1 11 1, .needCreateHero 1]
    Answered s (request s 1 [107] (.rows none) 5) 1 0 1 [107] ↔
      (s.heroAt 0).hasToy [107] = true :=
  request_answered_iff new_player_ready [107] (.rows none) 5

/-- The player asks for a key that the table has for nobody, and hears nothing. -/
theorem known_key_unanswered :
    let s := run step (start ⟨0, 0, 1, [], .empty⟩ 0)
      [.gateRegister 1 1, .addUser 1 1 11 1, .needCreateHero 1]
    Ready s 1 1 0 1 ∧
      ¬ Answered s (request s 1 [107] (.rows (some ([107], ⟨0, ⟨1, 1, 1⟩⟩))) 5) 1 0 1 [107] := by
  refine ⟨new_player_ready, ?_⟩
  rw [request, exchange_answered_iff new_player_ready]
  rintro (held | ⟨carried, _⟩)
  · exact absurd held (by decide +kernel)
  · exact carried rfl

end ToyAnswers
