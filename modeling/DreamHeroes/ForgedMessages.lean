import DreamHeroes.ForwardedMessages
import DreamHeroes.HeroRequests

/- What a client can do that sends messages of the types kept for the gates: the game server
   takes them from the link as the gate's own. -/
namespace ForgedMessages

open GateServer (ClientPtr TranId Account)
open GameServer (Server Session ClientRequest)
open GameHero (HeroConfig HeroPtr SessionPtr)
open GateGames (Agrees)
open ForwardedMessages GameHolds OrderedMaps ObjMap LabelledRuns Simulations

variable {w : Relay} {p : GateServer.SessionPtr} {c : ClientPtr} {q : SessionPtr}

/-- Messages of the client go to the game server, which runs and has taken all before them. -/
structure Linked (w : Relay) (p : GateServer.SessionPtr) (c : ClientPtr) : Prop where
  opened : (w.gate.sessions p).state ≠ .disable
  client : w.gate.getGameClient (w.gate.sessions p).gsId = some c
  running : (w.games c).crashed = false
  drained : w.flight c = []

/-- The client sends the message and the game server takes it. -/
def sends (p : GateServer.SessionPtr) (c : ClientPtr) (q : SessionPtr) (message : PBMessage) :
    List RelayEvent :=
  [.client p message, .deliver c q]

theorem run_sends (message : PBMessage) (linked : Linked w p c)
    (unlike : ∀ t, message ≠ .loginGame t) (free : (w.games c).live q = false) :
    run step w (sends p c q message) = { w with
      games := Function.update w.games c
        (procMessage (w.games c) q message (w.gate.sessions p).tranid) } := by
  have passed : step w (.client p message) = { w with
      flight := Function.update w.flight c [(message, (w.gate.sessions p).tranid)] } := by
    rw [step, clientMessage_forwards unlike linked.opened]
    simp only [parseGameMsg, linked.client, linked.drained, List.nil_append]
  have emptied : Function.update w.flight c [] = w.flight := by
    rw [← linked.drained, Function.update_eq_self]
  rw [sends, run, run, passed]
  simp [run, step, deliver, free, emptied]

/-- The link stays as it is while the game server runs. -/
theorem linked_after {game : Server} (linked : Linked w p c) (running : game.crashed = false) :
    Linked { w with games := Function.update w.games c game } p c where
  opened := linked.opened
  client := linked.client
  running := by simpa using running
  drained := linked.drained

theorem heroSends_eq (s : Server) (h : HeroPtr) (messages : List GameHero.ClientMessage) :
    ∃ toGates misused, messages.foldl (Server.heroSend · h) s =
      { s with toGates := toGates, misused := misused } := by
  induction messages generalizing s with
  | nil => exact ⟨s.toGates, s.misused, rfl⟩
  | cons message rest ih =>
    obtain ⟨toGates, misused, first⟩ := HeroRequests.heroSend_eq s h message
    obtain ⟨toGates', misused', later⟩ := ih (s.heroSend h message)
    refine ⟨toGates', misused', ?_⟩
    rw [List.foldl_cons, later, first]

theorem sendClientInit_eq (s : Server) (h : HeroPtr) : ∃ toGates misused,
    s.sendClientInit h = { s with
      heroAt := Function.update s.heroAt h { s.heroAt h with saving := true, online := true }
      toGates := toGates
      misused := misused } := by
  obtain ⟨toGates, misused, sent⟩ := heroSends_eq (s.setHero h { s.heroAt h with saving := true })
    h ((s.setHero h { s.heroAt h with saving := true }).heroAt h).clientInit
  refine ⟨toGates, misused, ?_⟩
  rw [Server.sendClientInit, sent]
  simp [Server.setHero]

/-- Two players at game server 1 with their heroes: 5 plays account 9 on socket 7, 6 plays
account 8 on socket 4. -/
def twoPlayers : Relay :=
  run step (start 100 1 ⟨0, 0, 1, [], .empty⟩ fun _ => 0) [.gate (.gameRegister 0 1),
    .gate (.addToWait 5 9), .gate (.accept 7), .client 7 (.loginGame 5), .deliver 0 70,
    .game 0 (.needCreateHero 5), .gate (.addToWait 6 8), .gate (.accept 4),
    .client 4 (.loginGame 6), .deliver 0 71, .game 0 (.needCreateHero 6)]

theorem linked_twoPlayers : Linked twoPlayers 4 0 where
  opened := by decide +kernel
  client := by decide +kernel
  running := by decide +kernel
  drained := by decide +kernel

theorem removeUser_gone {s : Server} (t : TranId) (free : s.live q = false) : ∃ onlines live,
    s.removeUser t = { s with onlines := onlines, live := live } ∧
      getData onlines t = none ∧ live q = false := by
  unfold Server.removeUser
  split
  · rename_i r found
    refine ⟨_, _, rfl, by simp, ?_⟩
    by_cases here : q = r
    · simp [here]
    · simp [here, free]
  · rename_i absent
    exact ⟨s.onlines, s.live, rfl, absent, free⟩

/-- A client can have the game server forget anybody there, and the gate does not learn of it. -/
theorem session_forgotten {t : TranId} {victim : GateServer.SessionPtr} (linked : Linked w p c)
    (online : getData w.gate.onlines t = some victim)
    (there : w.gate.getGameClient (w.gate.sessions victim).gsId = some c)
    (free : (w.games c).live q = false) :
    ∃ v, run step w (sends p c q (.msgGT2GSRemoveUser t)) = v ∧
      v.gate = w.gate ∧ v.flight = w.flight ∧ ¬ Agrees (carry v) := by
  refine ⟨_, run_sends _ linked (by simp) free, rfl, rfl, ?_⟩
  intro agrees
  obtain ⟨d, a, client, _, held⟩ := agrees.online t victim online
  have here : d = c := Option.some.inj (client.symm.trans there)
  subst here
  obtain ⟨onlines, live, removed, gone, _⟩ := removeUser_gone t free
  have forgot : procMessage (w.games d) q (.msgGT2GSRemoveUser t) (w.gate.sessions p).tranid =
      { w.games d with onlines := onlines, live := live } := by
    rw [← removed]
    exact if_neg (by simp [linked.running])
  simp only [carry, Function.update_self, forgot, status, gone] at held
  cases held

/-- Player 6 has player 5 forgotten. -/
theorem player_five_forgotten : ∃ v, run step twoPlayers (sends 4 0 72 (.msgGT2GSRemoveUser 5)) = v ∧
    v.gate = twoPlayers.gate ∧ v.flight = twoPlayers.flight ∧ ¬ Agrees (carry v) :=
  session_forgotten (t := 5) linked_twoPlayers (by decide +kernel : _ = some 7) (by decide +kernel)
    (by decide +kernel)

theorem offline_before_hero {s : Server} {t : TranId} {a : Account} (running : s.crashed = false)
    (unknown : getData s.onlines t = none) (absent : getData s.heros a = none)
    (free : s.live q = false) : ∃ s', GameServer.step s (.addUser 0 t a q) = s' ∧
      s'.crashed = false ∧ s'.live = Function.update s.live q true ∧
      (GameServer.step s' (.offlineUser t)).crashed = true := by
  have added : GameServer.step s (.addUser 0 t a q) = { s with
      sessions := Function.update s.sessions q ⟨t, a, s.gateId 0, true, none⟩
      live := Function.update s.live q true
      onlines := addData s.onlines t q
      toDatabase := s.toDatabase ++ [(t, .reqHeroData a)] } := by
    rw [GameServer.step, if_neg (by simp [running])]
    simp [GameServer.handle, free, Server.addUser, unknown, Server.newSession, Server.setSession,
      absent, Server.sendDatabase]
  refine ⟨_, added, running, rfl, ?_⟩
  rw [GameServer.step, if_neg (by simp [running])]
  simp [GameServer.handle, Server.offlineUser, unknown, Server.setWaitReconnet,
    Server.setSession, Server.crash]

/-- A client can bring its game server down: it adds a user whose hero is not in memory and
takes it offline before the database server has answered. -/
theorem server_crashed {t : TranId} {a : Account} {r : SessionPtr} (linked : Linked w p c)
    (unknown : getData (w.games c).onlines t = none) (absent : getData (w.games c).heros a = none)
    (free : (w.games c).live q = false) (also : (w.games c).live r = false) (other : r ≠ q) :
    ((run step w (sends p c q (.msgGT2GSAddUser t a) ++
      sends p c r (.msgGT2GSOfflineUser t))).games c).crashed = true := by
  obtain ⟨s', added, running, live, crashed⟩ :=
    offline_before_hero (q := q) linked.running unknown absent free
  have acted : procMessage (w.games c) q (.msgGT2GSAddUser t a) (w.gate.sessions p).tranid = s' :=
    added
  have addition := run_sends (.msgGT2GSAddUser t a) linked (by simp) free
  have unused : s'.live r = false := by
    rw [live, Function.update_of_ne other]
    exact also
  have offline := run_sends (q := r) (.msgGT2GSOfflineUser t) (linked_after linked running)
    (by simp) (by simpa using unused)
  have gone : procMessage s' r (.msgGT2GSOfflineUser t) (w.gate.sessions p).tranid =
      GameServer.step s' (.offlineUser t) := rfl
  rw [acted] at addition
  rw [run_append, addition, offline]
  simpa [gone] using crashed

theorem twoPlayers_crashed : ((run step twoPlayers (sends 4 0 72 (.msgGT2GSAddUser 3 2) ++
    sends 4 0 73 (.msgGT2GSOfflineUser 3))).games 0).crashed = true :=
  server_crashed linked_twoPlayers (by decide +kernel) (by decide +kernel) (by decide +kernel)
    (by decide +kernel) (by decide)

end ForgedMessages
