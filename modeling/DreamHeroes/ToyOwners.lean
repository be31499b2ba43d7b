import DreamHeroes.GameTurns
import DreamHeroes.HeroRequests
import DreamHeroes.SoleHolders

/- Which heroes of a game server hold the toy of a cd key while keys are verified: the selects of
   the database server, its replies on their way back and the saves of the heroes run in any order
   beside each other. -/
namespace ToyOwners

open ByteWords OrderedMaps ObjMap GameHero SuitText GameServer GameTurns GameTalks HeroRequests
  SoleHolders LabelledRuns

/- tgVerify -/
structure Verify where
  account : Account
  tranid : TranId
  cdKey : CdKey
  deriving DecidableEq, Repr

/- A row of `character_toy` without its time. -/
structure ToyRow where
  account : Account
  toy : MsgToyBaseData
  deriving DecidableEq, Repr

/- MsgVerifyToyDB2GS with the transid it is sent for. -/
structure Reply where
  tranid : TranId
  toy : MsgToyData
  account : Account
  deriving DecidableEq, Repr

/- selects and updates are statements about keys the database server has not executed yet, results
   are selects whose callback is to come, with the row that was read. -/
structure World where
  server : Server
  rows : OrderedMap CdKey ToyRow
  selects : List Verify
  results : List (Verify × Option (CdKey × ToyRow))
  updates : List Verify
  replies : List Reply

/- receive says which message of the game server arrives, and with which account: the message
   needs one and the game server sets none. The other numbers say which waiting thing is next. -/
inductive WorldEvent where
  | game (event : Event)
  | receive (message : Nat) (account : Account)
  | select (waiting : Nat) (failed : Bool)
  | result (waiting : Nat) (serverTime : UInt64)
  | update (waiting : Nat)
  | save (message : Nat)
  | deliver (waiting : Nat)

/- replace into `character_toy` -/
def replaceToys (rows : OrderedMap CdKey ToyRow) (account : Account) (toys : List MsgToyData) :
    OrderedMap CdKey ToyRow :=
  toys.foldl (fun rows toy => rows.insert (cStr toy.toyCdKey) ⟨account, toy.toy⟩) rows

namespace World

def receive (w : World) (message : Nat) (account : Account) : World :=
  match w.server.toDatabase[message]? with
  | some (tranid, .verifyToy cdKey) => { w with selects := w.selects ++ [⟨account, tranid, cdKey⟩] }
  | _ => w

/- sameKey is how the table compares keys. -/
def select (sameKey : CdKey → CdKey → Bool) (w : World) (waiting : Nat) (failed : Bool) : World :=
  match w.selects[waiting]? with
  | some verify =>
      let row := w.rows.entries.find? fun entry => sameKey entry.1 verify.cdKey
      { w with
        selects := w.selects.eraseIdx waiting
        results := w.results ++ [(verify, if failed then none else row)] }
  | none => w

/- dbDoQuerryToyVerify -/
def result (w : World) (waiting : Nat) (serverTime : UInt64) : World :=
  match w.results[waiting]? with
  | some (verify, some (key, row)) =>
      { w with
        results := w.results.eraseIdx waiting
        updates := w.updates ++ [verify]
        replies := w.replies ++ [⟨verify.tranid, ⟨cStr key, serverTime, row.toy⟩, row.account⟩] }
  | some (_, none) => { w with results := w.results.eraseIdx waiting }
  | none => w

/- The statement is `update set ...` without a table, and changes no row. -/
def update (w : World) (waiting : Nat) : World :=
  { w with updates := w.updates.eraseIdx waiting }

def save (w : World) (message : Nat) : World :=
  match w.server.toDatabase[message]? with
  | some (_, .saveData _ (.toys account toys)) =>
      { w with rows := replaceToys w.rows account toys }
  | _ => w

def deliver (w : World) (waiting : Nat) : World :=
  match w.replies[waiting]? with
  | some reply =>
      { w with
        server := GameServer.step w.server (.verifyToy reply.tranid reply.toy reply.account)
        replies := w.replies.eraseIdx waiting }
  | none => w

/- The replies about toys come from the database server alone. -/
def game (w : World) : Event → World
  | .verifyToy _ _ _ => w
  | event => { w with server := GameServer.step w.server event }

end World

def step (sameKey : CdKey → CdKey → Bool) (w : World) : WorldEvent → World
  | .game event => w.game event
  | .receive message account => w.receive message account
  | .select waiting failed => w.select sameKey waiting failed
  | .result waiting serverTime => w.result waiting serverTime
  | .update waiting => w.update waiting
  | .save message => w.save message
  | .deliver waiting => w.deliver waiting

def start (config : HeroConfig) (generateId : Nat) (rows : OrderedMap CdKey ToyRow) : World where
  server := GameServer.start config generateId
  rows := rows
  selects := []
  results := []
  updates := []
  replies := []

/-- A hero of the manager has the toy of the key. -/
def Holds (s : Server) (h : HeroPtr) (cdKey : CdKey) : Prop :=
  Listed s h ∧ hasData (s.heroAt h).heroToys cdKey = true

/-- Each cd key is in the map of at most one hero in memory. -/
def OneHero (w : World) : Prop := Sole (Holds w.server)

/-- The heroes in memory and the toys they have. -/
def shelves (s : Server) : OrderedMap Account HeroPtr × (HeroPtr → OrderedMap CdKey MsgToyData) :=
  (s.heros, fun h => (s.heroAt h).heroToys)

variable {s s' : Server} {h x : HeroPtr} {cdKey key : CdKey} {hero : DreamHero} {toy : MsgToyData}
  {event : Event} {t : TranId} {p : SessionPtr}

theorem holds_congr (same : shelves s' = shelves s) (h : HeroPtr) (cdKey : CdKey) :
    Holds s' h cdKey ↔ Holds s h cdKey := by
  have heros : s'.heros = s.heros := congrArg Prod.fst same
  have toys : (s'.heroAt h).heroToys = (s.heroAt h).heroToys := congrFun (congrArg Prod.snd same) h
  simp only [Holds, Listed, heros, toys]

theorem shelves_setHero (toys : hero.heroToys = (s.heroAt h).heroToys) :
    shelves (s.setHero h hero) = shelves s := by
  apply Prod.ext
  · rfl
  · funext k
    by_cases here : k = h
    · subst here
      simpa [shelves, Server.setHero] using toys
    · simp [shelves, Server.setHero, here]

@[simp] theorem shelves_setSession (s : Server) (p : SessionPtr) (session : Session) :
    shelves (s.setSession p session) = shelves s := rfl

@[simp] theorem shelves_crash (s : Server) : shelves s.crash = shelves s := rfl

@[simp] theorem shelves_heroSend (s : Server) (h : HeroPtr) (message : ClientMessage) :
    shelves (s.heroSend h message) = shelves s := by
  obtain ⟨toGates, misused, sent⟩ := heroSend_eq s h message
  rw [sent]
  rfl

theorem shelves_heroSends (s : Server) (h : HeroPtr) (messages : List ClientMessage) :
    shelves (messages.foldl (Server.heroSend · h) s) = shelves s := by
  induction messages generalizing s with
  | nil => rfl
  | cons message rest ih => rw [List.foldl_cons, ih, shelves_heroSend]

theorem shelves_sendClientInit (s : Server) (h : HeroPtr) :
    shelves (s.sendClientInit h) = shelves s := by
  have saving : shelves (s.setHero h { s.heroAt h with saving := true }) = shelves s :=
    shelves_setHero rfl
  rw [Server.sendClientInit]
  refine (shelves_setHero ?_).trans ((shelves_heroSends _ h _).trans saving)
  rfl

theorem shelves_attachHero (created : Server × HeroPtr) (p : SessionPtr) :
    shelves (Server.attachHero created p) = shelves created.1 := by
  rw [Server.attachHero, shelves_sendClientInit, shelves_setSession]

theorem shelves_setReconnet (s : Server) (p : SessionPtr) :
    shelves (s.setReconnet p) = shelves s := by
  simp only [Server.setReconnet]
  split
  · exact shelves_setHero rfl
  · rfl

theorem shelves_setWaitReconnet (s : Server) (p : SessionPtr) :
    shelves (s.setWaitReconnet p) = shelves s := by
  simp only [Server.setWaitReconnet]
  split
  · exact shelves_setHero rfl
  · rfl

theorem shelves_newSession (s : Server) (p : SessionPtr) (t : TranId) (a : Account)
    (gate : GateId) : shelves (s.newSession p t a gate) = shelves s := by
  simp only [Server.newSession]
  split
  · exact (shelves_sendClientInit _ _).trans (shelves_setHero rfl)
  · rfl

theorem shelves_addUser (s : Server) (t : TranId) (a : Account) (gate : GateId)
    (p : SessionPtr) : shelves (s.addUser t a gate p) = shelves s := by
  unfold Server.addUser
  split
  · exact shelves_newSession s p t a gate
  · split
    · exact shelves_setReconnet s _
    · rfl

theorem shelves_answer {result : DreamHero × ClientMessage}
    (toys : result.1.heroToys = (s.heroAt h).heroToys) :
    shelves (s.answer h result) = shelves s :=
  (shelves_heroSend _ h result.2).trans (shelves_setHero toys)

theorem shelves_heroRequest (s : Server) (h : HeroPtr) (request : ClientRequest) :
    shelves (s.heroRequest h request) = shelves s := by
  cases request with
  | modifySuitName suitId suitName =>
    apply shelves_answer
    unfold DreamHero.modifySuitName
    split <;> rfl
  | modifySuit suit => exact shelves_answer rfl
  | delSuit suitId =>
    rw [Server.heroRequest]
    split
    · rename_i result erased
      obtain ⟨_, _, rfl⟩ := Option.map_eq_some_iff.mp erased
      exact shelves_answer rfl
    · rfl
  | verifyToyCDKey cdKey =>
    rw [Server.heroRequest, Server.verifyToyCDKey]
    split
    · exact shelves_heroSend s h _
    · rfl

theorem shelves_saves (s : Server) (h : HeroPtr) (flag : TranId)
    (statements : List SaveStatement) :
    shelves (statements.foldl (fun s statement => s.sendDatabase flag (.saveData h statement)) s) =
      shelves s := by
  induction statements generalizing s with
  | nil => rfl
  | cons statement rest ih => exact (ih _).trans rfl

theorem shelves_saveHero (s : Server) (h : HeroPtr) : shelves (s.saveHero h) = shelves s := by
  unfold Server.saveHero
  split
  · exact shelves_saves _ h _ _
  · rfl

theorem shelves_saveDreamHeroes (s : Server) : shelves s.saveDreamHeroes = shelves s := by
  have all : ∀ (entries : List (Account × HeroPtr)) (s : Server),
      shelves (entries.foldl (fun s entry => s.saveHero entry.2) s) = shelves s := by
    intro entries
    induction entries with
    | nil => exact fun _ => rfl
    | cons entry rest ih => exact fun s => (ih _).trans (shelves_saveHero s entry.2)
  exact all s.heros.entries s

theorem shelves_removeGate (s : Server) (link : LinkPtr) :
    shelves (s.removeGate link) = shelves s := by
  simp only [Server.removeGate]
  split <;> rfl

/-- The events that bring neither a hero nor a toy. -/
def Moveless : Event → Prop
  | .heroData _ _ => False
  | .needCreateHero _ => False
  | .verifyToy _ _ _ => False
  | _ => True

/-- Only a reply of the database server changes who has which toy. -/
theorem shelves_handle (moveless : Moveless event) : shelves (handle s event) = shelves s := by
  cases event with
  | gateRegister link serverid =>
    obtain ⟨gates, registered⟩ := parseGateRegister_eq s link serverid
    rw [handle, registered]
    rfl
  | gateClose link => exact shelves_removeGate s link
  | addUser link t a p =>
    rw [handle]
    split
    · rfl
    · exact shelves_addUser s t a _ p
  | offlineUser t =>
    rw [handle, Server.offlineUser]
    split
    · exact shelves_setWaitReconnet s _
    · rfl
  | removeUser t =>
    rw [handle, Server.removeUser]
    split <;> rfl
  | userMsg t request =>
    rw [handle, Server.parseUserMsg]
    split
    · split
      · exact shelves_heroRequest s _ request
      · rfl
    · rfl
  | heroData t msg => exact moveless.elim
  | needCreateHero t => exact moveless.elim
  | verifyToy t toy a => exact moveless.elim
  | verifyToyError t cdKey error =>
    rw [handle, Server.parseMsgVerifyToyError]
    split
    · split
      · exact shelves_heroSend s _ _
      · rfl
    · rfl
  | saveTick h =>
    rw [handle, Server.saveTick]
    split
    · exact shelves_saveHero s h
    · rfl
  | setStop => exact shelves_saveDreamHeroes s

theorem hasData_addData {toys : OrderedMap CdKey MsgToyData} :
    hasData (addData toys cdKey toy) key = true ↔ cdKey = key ∨ hasData toys key = true := by
  have found : hasData (addData toys cdKey toy) key =
      (getData (addData toys cdKey toy) key).isSome :=
    rfl
  rw [found, getData_addData]
  split
  · rename_i same
    simp [same]
  · rename_i other
    exact (or_iff_right other).symm

theorem hasData_addToys (added : List MsgToyData) (toys : OrderedMap CdKey MsgToyData)
    (key : CdKey) :
    hasData (added.foldl (fun m toy => addData m toy.toyCdKey toy) toys) key = true ↔
      (∃ toy ∈ added, toy.toyCdKey = key) ∨ hasData toys key = true := by
  induction added generalizing toys with
  | nil => simp
  | cons toy rest ih =>
    rw [List.foldl_cons, ih, hasData_addData]
    simp only [List.mem_cons, exists_eq_or_imp]
    exact or_left_comm.trans or_assoc.symm

theorem nextHero_unlisted (valid : Valid s) : ¬ Listed s s.nextHero := by
  rintro ⟨a, found⟩
  exact Nat.lt_irrefl _ (valid.owned a _ found).2.2

/-- A new hero holds the toys it comes with, and nobody else's change hands. -/
theorem holds_created {a : Account} {toys : OrderedMap CdKey MsgToyData} (valid : Valid s)
    (unknown : getData s.heros a = none)
    (created : shelves s' = (s.heros.insert a s.nextHero,
      Function.update (fun h => (s.heroAt h).heroToys) s.nextHero toys)) (x : HeroPtr)
    (key : CdKey) :
    Holds s' x key ↔ joined (Holds s) s.nextHero (fun key => hasData toys key = true) x key := by
  have heros : s'.heros = s.heros.insert a s.nextHero := congrArg Prod.fst created
  have toysAt : (s'.heroAt x).heroToys = _ := congrFun (congrArg Prod.snd created) x
  have listed : Listed s' x ↔ x = s.nextHero ∨ Listed s x := by
    simp only [Listed, heros, getData_heros_insert]
    constructor
    · rintro ⟨b, found⟩
      split at found
      · exact .inl (Option.some.inj found).symm
      · exact .inr ⟨b, found⟩
    · rintro (rfl | ⟨b, found⟩)
      · exact ⟨a, if_pos rfl⟩
      · have apart : a ≠ b := by
          rintro rfl
          rw [unknown] at found
          cases found
        exact ⟨b, by rw [if_neg apart, found]⟩
  rw [Holds, listed, toysAt, joined, Holds]
  by_cases new : x = s.nextHero
  · subst new
    simp [nextHero_unlisted valid]
  · simp [new]

/-- Every toy of a reply with a new hero is free. -/
def ToysFree (s : Server) (t : TranId) (msg : MsgHeroDataDB2GS) : Prop :=
  ∀ p, getData s.onlines t = some p → getData s.heros (s.sessions p).account = none →
    ∀ toy ∈ msg.toys, ∀ x, ¬ Holds s x toy.toyCdKey

/-- What the server is once a new hero is in the manager. -/
theorem shelves_new (s : Server) (a : Account) (hero : DreamHero) (generateId : Nat) :
    shelves { s.setHero s.nextHero hero with
        nextHero := s.nextHero + 1
        heros := s.heros.insert a s.nextHero
        generateId := generateId } =
      (s.heros.insert a s.nextHero,
        Function.update (fun h => (s.heroAt h).heroToys) s.nextHero hero.heroToys) := by
  apply Prod.ext
  · rfl
  · funext h
    by_cases here : h = s.nextHero
    · subst here
      simp [shelves, Server.setHero]
    · simp [shelves, Server.setHero, here]

theorem heroData_sole_iff (valid : Valid s) (sole : Sole (Holds s)) (t : TranId)
    (msg : MsgHeroDataDB2GS) :
    Sole (Holds (s.parseQueryHeroInfo t msg)) ↔ ToysFree s t msg := by
  rw [Server.parseQueryHeroInfo]
  cases online : getData s.onlines t with
  | none => simpa [ToysFree, online] using sole
  | some p =>
    cases known : getData s.heros (s.sessions p).account with
    | some h =>
      have same : shelves (Server.attachHero (s.createHero msg (s.sessions p).account p) p) =
          shelves s := by
        simp only [Server.createHero, known]
        exact (shelves_attachHero _ p).trans (shelves_setHero rfl)
      simp only [ToysFree, online, sole_congr (holds_congr same), Option.some.injEq]
      refine iff_of_true sole ?_
      rintro _ rfl unknown
      rw [known] at unknown
      cases unknown
    | none =>
      have created : shelves (Server.attachHero (s.createHero msg (s.sessions p).account p) p) =
          (s.heros.insert (s.sessions p).account s.nextHero,
            Function.update (fun h => (s.heroAt h).heroToys) s.nextHero
              (msg.toys.foldl (fun m toy => addData m toy.toyCdKey toy) .empty)) := by
        simp only [Server.createHero, known]
        exact (shelves_attachHero _ p).trans (shelves_new s _ (loadedHero s p msg) s.generateId)
      have fresh : ∀ key, ¬ Holds s s.nextHero key := fun _ held => nextHero_unlisted valid held.1
      have none : ∀ key, hasData (.empty : OrderedMap CdKey MsgToyData) key = false := fun _ => rfl
      simp only
      rw [sole_congr (holds_created valid known created), sole_joined_iff sole fresh]
      simp only [ToysFree, online, Option.some.injEq, forall_eq', known, true_implies,
        hasData_addToys, none, Bool.false_eq_true, or_false]
      constructor
      · exact fun free toy listed => free toy.toyCdKey ⟨toy, listed, rfl⟩
      · rintro free key ⟨toy, listed, rfl⟩
        exact free toy listed

theorem needCreateHero_sole (valid : Valid s) (sole : Sole (Holds s)) (t : TranId) :
    Sole (Holds (s.parseNeedCreateHero t)) := by
  rw [Server.parseNeedCreateHero]
  cases getData s.onlines t with
  | none => exact sole
  | some p =>
    cases known : getData s.heros (s.sessions p).account with
    | some h =>
      have same : shelves (Server.attachHero (s.createDefaultHero (s.sessions p).account p) p) =
          shelves s := by
        simp only [Server.createDefaultHero, known]
        exact (shelves_attachHero _ p).trans (shelves_setHero rfl)
      exact (sole_congr (holds_congr same)).mpr sole
    | none =>
      have created :
          shelves (Server.attachHero (s.createDefaultHero (s.sessions p).account p) p) =
            (s.heros.insert (s.sessions p).account s.nextHero,
              Function.update (fun h => (s.heroAt h).heroToys) s.nextHero .empty) := by
        simp only [Server.createDefaultHero, known]
        exact (shelves_attachHero _ p).trans
          (shelves_new s _ (defaultHero s p).1 (defaultHero s p).2)
      have fresh : ∀ key, ¬ Holds s s.nextHero key := fun _ held => nextHero_unlisted valid held.1
      apply (sole_congr (holds_created valid known created)).mpr
      rw [sole_joined_iff sole fresh]
      intro key brings
      cases brings

/-- The other heroes with the toy of a reply are that of the account it names. -/
def OwnerKnown (s : Server) (reply : Reply) : Prop :=
  ∀ p h, getData s.onlines reply.tranid = some p → (s.sessions p).dreamHero = some h →
    ∀ x, Holds s x reply.toy.toyCdKey → x = h ∨ getData s.heros reply.account = some x

theorem removeToyOf_toys (a : Account) (cdKey : CdKey) (owner : Account) (x : HeroPtr) :
    ((s.removeToyOf a cdKey owner).heroAt x).heroToys =
      if getData s.heros a = some x then eraseData (s.heroAt x).heroToys (cStr cdKey)
      else (s.heroAt x).heroToys := by
  rw [Server.removeToyOf]
  cases found : getData s.heros a with
  | none => simp
  | some g =>
    by_cases here : x = g
    · subst here
      simp [Server.setHero, DreamHero.removeToyByCDKey]
    · simp [Server.setHero, here, Ne.symm here]

theorem removeToyOf_heros (a : Account) (cdKey : CdKey) (owner : Account) :
    (s.removeToyOf a cdKey owner).heros = s.heros := by
  unfold Server.removeToyOf
  split <;> rfl

theorem hasData_removed (a : Account) (cdKey : CdKey) (owner : Account) (x : HeroPtr)
    (key : CdKey) :
    hasData ((s.removeToyOf a cdKey owner).heroAt x).heroToys key = true ↔
      hasData (s.heroAt x).heroToys key = true ∧
        ¬ (getData s.heros a = some x ∧ key = cStr cdKey) := by
  rw [removeToyOf_toys]
  split
  · rename_i here
    have erased : hasData (eraseData (s.heroAt x).heroToys (cStr cdKey)) key =
        (getData (eraseData (s.heroAt x).heroToys (cStr cdKey)) key).isSome := rfl
    rw [erased, getData_eraseData]
    by_cases same : cStr cdKey = key
    · simp [same, here]
    · simp only [same, Ne.symm same, and_false, if_false, not_false_eq_true, and_true]
      rfl
  · rename_i other
    simp [other]

/-- After a reply its hero has the toy, and the others have what the removal left. -/
theorem hasData_verified (plain : cStr toy.toyCdKey = toy.toyCdKey) (a : Account) (x : HeroPtr)
    (key : CdKey) :
    hasData ((s.verifyToy h toy a).heroAt x).heroToys key = true ↔
      (x = h ∧ toy.toyCdKey = key) ∨ hasData
        ((s.removeToyOf a toy.toyCdKey (s.heroAt h).account).heroAt x).heroToys key = true := by
  rw [Server.verifyToy]
  split
  · rename_i held
    rw [DreamHero.hasToy, plain] at held
    constructor
    · exact .inr
    · rintro (⟨rfl, rfl⟩ | has)
      · exact held
      · exact has
  · obtain ⟨toGates, misused, sent⟩ := heroSend_eq
      ((s.removeToyOf a toy.toyCdKey (s.heroAt h).account).setHero h
        (((s.removeToyOf a toy.toyCdKey (s.heroAt h).account).heroAt h).insertToy toy)) h
      (.verifyToyCDKeyACK toy)
    rw [sent]
    by_cases here : x = h
    · subst here
      simp only [Server.setHero, Function.update_self, DreamHero.insertToy, hasData_addData,
        true_and]
    · simp [Server.setHero, here]

theorem verifyToy_heros (s : Server) (h : HeroPtr) (toy : MsgToyData) (a : Account) :
    (s.verifyToy h toy a).heros = s.heros := by
  have removed := removeToyOf_heros (s := s) a toy.toyCdKey (s.heroAt h).account
  rw [Server.verifyToy]
  split
  · exact removed
  · rw [← removed]
    exact congrArg Prod.fst (shelves_heroSend _ h _)

/-- A reply moves the toy from the hero of the account it names to the hero it is for. -/
theorem holds_verifyToy (listed : Listed s h) (plain : cStr toy.toyCdKey = toy.toyCdKey)
    (a : Account) (x : HeroPtr) (key : CdKey) :
    Holds (s.verifyToy h toy a) x key ↔
      moved (Holds s) (getData s.heros a) h toy.toyCdKey x key := by
  have stays : Listed (s.verifyToy h toy a) x ↔ Listed s x := by
    rw [Listed, verifyToy_heros, Listed]
  rw [Holds, stays, hasData_verified plain, hasData_removed, plain, moved]
  by_cases same : key = toy.toyCdKey
  · subst same
    by_cases here : x = h
    · subst here
      simp [listed]
    · simp [here, Holds, and_assoc]
  · simp [same, Ne.symm same, Holds]

theorem verifyToy_sole_iff (valid : Valid s) (sole : Sole (Holds s)) (reply : Reply)
    (plain : cStr reply.toy.toyCdKey = reply.toy.toyCdKey) :
    Sole (Holds (s.parseMsgVerifyToy reply.tranid reply.toy reply.account)) ↔
      OwnerKnown s reply := by
  cases online : getData s.onlines reply.tranid with
  | none =>
    have lost : s.parseMsgVerifyToy reply.tranid reply.toy reply.account = s := by
      simp [Server.parseMsgVerifyToy, online]
    simpa [OwnerKnown, online, lost] using sole
  | some p =>
    cases hero : (s.sessions p).dreamHero with
    | none =>
      have lost : s.parseMsgVerifyToy reply.tranid reply.toy reply.account = s := by
        simp [Server.parseMsgVerifyToy, online, hero]
      refine iff_of_true (lost.symm ▸ sole) ?_
      intro q k onlineQ heroQ
      rw [online] at onlineQ
      cases onlineQ
      rw [hero] at heroQ
      cases heroQ
    | some h =>
      have given : s.parseMsgVerifyToy reply.tranid reply.toy reply.account =
          s.verifyToy h reply.toy reply.account := by
        simp [Server.parseMsgVerifyToy, online, hero]
      have listed := valid.listed online hero
      rw [given, sole_congr (holds_verifyToy listed plain reply.account), sole_moved_iff sole]
      constructor
      · intro known q k onlineQ heroQ
        rw [online] at onlineQ
        cases onlineQ
        rw [hero] at heroQ
        cases heroQ
        exact known
      · intro known
        exact known p h online hero

/-- The invariant of the good runs: the keys of the replies have no zero byte. -/
structure Inv (w : World) : Prop where
  valid : Valid w.server
  sole : OneHero w
  plain : ∀ reply ∈ w.replies, cStr reply.toy.toyCdKey = reply.toy.toyCdKey

/-- When the game server takes a reply of the database server, the toys it brings are free: those
    of a hero that is new, and the one that was verified but for the hero of the account that
    had it when it was looked up. -/
def Apart (w : World) : WorldEvent → Prop
  | .game (.heroData t msg) => w.server.crashed = false → ToysFree w.server t msg
  | .deliver waiting => w.server.crashed = false →
      ∀ reply, w.replies[waiting]? = some reply → OwnerKnown w.server reply
  | _ => True

variable {w : World} {sameKey : CdKey → CdKey → Bool}

/-- A step of the game server by itself. -/
theorem game_sole_iff (inv : Inv w) (event : Event) :
    OneHero (w.game event) ↔ Apart w (.game event) := by
  cases crashed : w.server.crashed with
  | true =>
    have still := step_crashed crashed
    cases event <;> simp [World.game, Apart, OneHero, still, crashed] <;> exact inv.sole
  | false =>
    have moveless : ∀ event, Moveless event → Sole (Holds (GameServer.step w.server event)) := by
      intro event quiet
      rw [step_handle crashed, sole_congr (holds_congr (shelves_handle quiet))]
      exact inv.sole
    cases event with
    | heroData t msg =>
      change Sole (Holds (GameServer.step w.server (.heroData t msg))) ↔
        (w.server.crashed = false → ToysFree w.server t msg)
      rw [step_handle crashed, ← heroData_sole_iff inv.valid inv.sole]
      exact ⟨fun sole _ => sole, fun sole => sole crashed⟩
    | needCreateHero t =>
      refine iff_of_true ?_ trivial
      change Sole (Holds (GameServer.step w.server (.needCreateHero t)))
      rw [step_handle crashed]
      exact needCreateHero_sole inv.valid inv.sole t
    | verifyToy t toy a => exact iff_of_true inv.sole trivial
    | _ => exact iff_of_true (moveless _ trivial) trivial

theorem deliver_sole_iff (inv : Inv w) (waiting : Nat) :
    OneHero (w.deliver waiting) ↔ Apart w (.deliver waiting) := by
  rw [World.deliver]
  split
  · rename_i reply found
    have plain := inv.plain reply (List.mem_of_getElem? found)
    simp only [Apart, found, Option.some.injEq, forall_eq', OneHero]
    cases crashed : w.server.crashed with
    | true =>
      rw [step_crashed crashed]
      exact iff_of_true inv.sole fun running => absurd running (by decide)
    | false =>
      rw [step_handle crashed, ← verifyToy_sole_iff inv.valid inv.sole reply plain]
      simp [handle]
  · rename_i lost
    simp only [Apart, lost]
    exact iff_of_true inv.sole fun _ _ found => by cases found

theorem select_same (w : World) (waiting : Nat) (failed : Bool) :
    (w.select sameKey waiting failed).server = w.server ∧
      (w.select sameKey waiting failed).replies = w.replies := by
  unfold World.select
  split <;> exact ⟨rfl, rfl⟩

theorem receive_same (w : World) (message : Nat) (account : Account) :
    (w.receive message account).server = w.server ∧
      (w.receive message account).replies = w.replies := by
  unfold World.receive
  split <;> exact ⟨rfl, rfl⟩

theorem save_same (w : World) (message : Nat) :
    (w.save message).server = w.server ∧ (w.save message).replies = w.replies := by
  unfold World.save
  split <;> exact ⟨rfl, rfl⟩

/-- A callback answers with a key that c_str has cut. -/
theorem result_same (w : World) (waiting : Nat) (serverTime : UInt64) :
    (w.result waiting serverTime).server = w.server ∧
      ∀ reply ∈ (w.result waiting serverTime).replies,
        reply ∈ w.replies ∨ cStr reply.toy.toyCdKey = reply.toy.toyCdKey := by
  unfold World.result
  split
  · refine ⟨rfl, fun reply member => ?_⟩
    rcases List.mem_append.mp member with old | new
    · exact .inl old
    · rw [List.mem_singleton.mp new]
      exact .inr (cStr_eq_self (cStr_no_nul _))
  · exact ⟨rfl, fun _ => .inl⟩
  · exact ⟨rfl, fun _ => .inl⟩

/-- One step keeps the heroes apart exactly if the reply it takes does. -/
theorem step_sole_iff (inv : Inv w) (event : WorldEvent) :
    OneHero (step sameKey w event) ↔ Apart w event := by
  have untouched {w' : World} (same : w'.server = w.server) : OneHero w' := by
    rw [OneHero, same]
    exact inv.sole
  cases event with
  | game event => exact game_sole_iff inv event
  | receive message account =>
    exact iff_of_true (untouched (receive_same w message account).1) trivial
  | select waiting failed => exact iff_of_true (untouched (select_same w waiting failed).1) trivial
  | result waiting serverTime =>
    exact iff_of_true (untouched (result_same w waiting serverTime).1) trivial
  | update waiting => exact iff_of_true (untouched rfl) trivial
  | save message => exact iff_of_true (untouched (save_same w message).1) trivial
  | deliver waiting => exact deliver_sole_iff inv waiting

theorem game_same (w : World) (event : Event) :
    ((w.game event).server = w.server ∨
      (w.game event).server = GameServer.step w.server event) ∧
      (w.game event).replies = w.replies := by
  cases event with
  | verifyToy t toy a => exact ⟨.inl rfl, rfl⟩
  | _ => exact ⟨.inr rfl, rfl⟩

theorem deliver_same (w : World) (waiting : Nat) :
    ((w.deliver waiting).server = w.server ∨
      ∃ event, (w.deliver waiting).server = GameServer.step w.server event) ∧
      ∀ reply ∈ (w.deliver waiting).replies, reply ∈ w.replies := by
  unfold World.deliver
  split
  · exact ⟨.inr ⟨_, rfl⟩, fun _ member => List.mem_of_mem_eraseIdx member⟩
  · exact ⟨.inl rfl, fun _ => id⟩

/-- The rest of the invariant holds in any case. -/
theorem inv_step (inv : Inv w) (event : WorldEvent) (sole : OneHero (step sameKey w event)) :
    Inv (step sameKey w event) := by
  have untouched {w' : World} (sole : OneHero w') (same : w'.server = w.server ∧
      w'.replies = w.replies) : Inv w' :=
    ⟨same.1.symm ▸ inv.valid, sole, same.2.symm ▸ inv.plain⟩
  cases event with
  | game event =>
    obtain ⟨server, replies⟩ := game_same w event
    refine ⟨?_, sole, replies.symm ▸ inv.plain⟩
    change Valid (w.game event).server
    rcases server with same | stepped
    · rw [same]
      exact inv.valid
    · rw [stepped]
      exact valid_step inv.valid event
  | receive message account => exact untouched sole (receive_same w message account)
  | select waiting failed => exact untouched sole (select_same w waiting failed)
  | result waiting serverTime =>
    obtain ⟨server, replies⟩ := result_same w waiting serverTime
    refine ⟨server.symm ▸ inv.valid, sole, fun reply member => ?_⟩
    exact (replies reply member).elim (inv.plain reply) id
  | update waiting => exact untouched sole ⟨rfl, rfl⟩
  | save message => exact untouched sole (save_same w message)
  | deliver waiting =>
    obtain ⟨server, replies⟩ := deliver_same w waiting
    refine ⟨?_, sole, fun reply member => inv.plain reply (replies reply member)⟩
    change Valid (w.deliver waiting).server
    rcases server with same | ⟨event, stepped⟩
    · rw [same]
      exact inv.valid
    · rw [stepped]
      exact valid_step inv.valid event

theorem inv_start (config : HeroConfig) (generateId : Nat) (rows : OrderedMap CdKey ToyRow) :
    Inv (start config generateId rows) where
  valid := valid_start config generateId
  sole := by
    rintro key x y ⟨⟨a, listed⟩, _⟩
    cases listed
  plain := List.forall_mem_nil _

/-- A cd key is with one hero at most at every moment of a run exactly if every reply of the
    database server that the game server takes brings toys that no third hero has. -/
theorem one_hero_iff (sameKey : CdKey → CdKey → Bool) (config : HeroConfig) (generateId : Nat)
    (rows : OrderedMap CdKey ToyRow) (events : List WorldEvent) :
    EveryState (step sameKey) OneHero (start config generateId rows) events ↔
      EveryStep (step sameKey) Apart (start config generateId rows) events := by
  apply everyState_iff_everyStep Inv (fun _ => True)
  · exact fun w inv => inv.sole
  · exact fun w event _ inv apart => inv_step inv event ((step_sole_iff inv event).mpr apart)
  · exact fun w event _ inv sole => (step_sole_iff inv event).mp sole
  · exact inv_start config generateId rows
  · exact fun _ _ => trivial

/-- Two heroes ask for the same free key, both selects read that nobody has it, and both heroes
    are given the toy. -/
theorem both_given_the_toy :
    let rows : OrderedMap CdKey ToyRow := OrderedMap.empty.insert [107] ⟨0, ⟨1, 1, 1⟩⟩
    let events : List WorldEvent := [
      .game (.gateRegister 1 1), .game (.addUser 1 1 11 1), .game (.addUser 1 2 12 2),
      .game (.needCreateHero 1), .game (.needCreateHero 2),
      .game (.userMsg 1 (.verifyToyCDKey [107])), .game (.userMsg 2 (.verifyToyCDKey [107])),
      .receive 2 11, .receive 3 12, .select 0 false, .select 0 false, .result 0 5, .result 0 5,
      .deliver 0, .deliver 0]
    ¬ EveryState (step (· == ·)) OneHero (start ⟨0, 0, 1, [], .empty⟩ 0 rows) events := by
  intro rows events all
  have last := everyState_last all [107] 0 1
  have first : Holds (run (step (· == ·)) (start ⟨0, 0, 1, [], .empty⟩ 0 rows) events).server 0
      [107] := ⟨⟨11, by decide +kernel⟩, by decide +kernel⟩
  have second : Holds (run (step (· == ·)) (start ⟨0, 0, 1, [], .empty⟩ 0 rows) events).server 1
      [107] := ⟨⟨12, by decide +kernel⟩, by decide +kernel⟩
  exact absurd (last first second) (by decide)

end ToyOwners
