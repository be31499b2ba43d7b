import DreamHeroes.GameHolds
import DreamHeroes.LabelledRuns

/- A gate and its game servers. What the gate sends waits on one link for each game server until
   the game server takes it, in order. The links are up from the start and stay up. -/
namespace GateGames

open GateServer (Gate GameMessage ClientPtr TranId GameId Account)
open GameServer (Server ClientRequest)
open GameHero (HeroConfig SessionPtr)
open GatePlaces GameHolds OrderedMaps ObjMap LabelledRuns

structure System where
  gate : Gate
  games : ClientPtr → Server
  flight : ClientPtr → List GameMessage

/- The gate turns, a game server takes the next message of its link, or a game server turns. -/
inductive SystemEvent where
  | gate (event : GateServer.Event)
  | deliver (c : ClientPtr) (p : SessionPtr) (request : ClientRequest)
  | game (c : ClientPtr) (event : GameServer.Event)

/- The object pool hands out no memory in use. -/
def deliver (w : System) (c : ClientPtr) (p : SessionPtr) (request : ClientRequest) : System :=
  match w.flight c with
  | [] => w
  | message :: rest =>
      if (w.games c).live p then w
      else { w with
        games := Function.update w.games c
          (GameServer.step (w.games c) (received p request message))
        flight := Function.update w.flight c rest }

def turnGate (w : System) (event : GateServer.Event) : System :=
  let gate := GateServer.step w.gate event
  { w with
    gate := { gate with sent := [] }
    flight := fun c => w.flight c ++ onLink gate.sent c }

def step (w : System) : SystemEvent → System
  | .gate event => turnGate w event
  | .deliver c p request => deliver w c p request
  | .game c event =>
      if fromGate event then w
      else { w with
        games := Function.update w.games c (GameServer.step (w.games c) event) }

/- Every game server has registered the gate and has nobody online yet. -/
def start (gsIdleMax serverid : Nat) (config : HeroConfig) (generateId : ClientPtr → Nat) :
    System where
  gate := GateServer.start gsIdleMax
  games := fun c =>
    GameServer.step (GameServer.start config (generateId c)) (.gateRegister 0 serverid)
  flight := fun _ => []

/-- The gate and the game servers agree about every transid. -/
structure Agrees (w : System) : Prop where
  online : ∀ t p, getData w.gate.onlines t = some p → ∃ c a,
    w.gate.getGameClient (w.gate.sessions p).gsId = some c ∧ w.gate.admitted t = some a ∧
      status (w.games c) t = some (a, true)
  offline : ∀ t gs, getData w.gate.reconMap t = some gs → ∃ c a,
    w.gate.getGameClient gs = some c ∧ status (w.games c) t = some (a, false)
  absent : ∀ t, getData w.gate.onlines t = none → getData w.gate.reconMap t = none → ∀ c,
    status (w.games c) t = none

/-- Once nothing is in flight, gate and game servers agree, unless a game server crashed and its
link went down with it. -/
def Synchronised (w : System) : Prop :=
  (∀ c, (w.games c).crashed = false) → (∀ c, w.flight c = []) → Agrees w

/-- The links stay up: no game server closes or takes the id of another, and none moves a
player, which no game server does. -/
def LinksStay (w : System) : SystemEvent → Prop
  | .gate event => GatePlaces.LinksStay w.gate event
  | _ => True

/-- No login finds its transid in m_recon_map, and no kicked session closes. -/
def Orderly (w : System) : SystemEvent → Prop
  | .gate event => GatePlaces.Orderly w.gate event
  | _ => True

/-- What a game server will hold once it has taken what is in flight. -/
def view (w : System) (c : ClientPtr) (t : TranId) : Held :=
  (w.flight c).foldl (hear t) (status (w.games c) t)

/-- The gate is aligned with what its game servers will hold. -/
structure Settled (w : System) : Prop where
  aligned : Aligned (view w) w.gate
  handed : w.gate.sent = []
  games : ∀ c, OneGate (w.games c)

variable {w : System}

theorem settled_start (gsIdleMax serverid : Nat) (config : HeroConfig)
    (generateId : ClientPtr → Nat) :
    Settled (start gsIdleMax serverid config generateId) where
  aligned := by
    have nobody : view (start gsIdleMax serverid config generateId) = fun _ _ => none := by
      funext c t
      exact status_start config (generateId c) serverid t
    rw [nobody]
    exact aligned_start gsIdleMax
  handed := rfl
  games := fun c => oneGate_start config (generateId c) serverid

/-- Once everything has arrived, an aligned gate agrees with its game servers. -/
theorem settled_agrees (settled : Settled w) (drained : ∀ c, w.flight c = []) : Agrees w := by
  have holds : ∀ c t, told (view w) w.gate.sent c t = status (w.games c) t := by
    intro c t
    rw [settled.handed]
    simp [told, onLink, view, drained]
  constructor
  · intro t p online
    obtain ⟨gs, c, a, session, _, _, client, admitted, heard⟩ :=
      (settled.aligned.placed t).of_online online
    refine ⟨c, a, ?_, admitted, ?_⟩
    · rw [session, client]
    · rw [← holds, heard, if_pos rfl]
  · intro t gs recon
    obtain ⟨c, a, _, client, heard⟩ := (settled.aligned.placed t).of_recon recon
    refine ⟨c, a, client, ?_⟩
    rw [← holds, heard, if_pos rfl]
  · intro t offline gone c
    rw [← holds, (settled.aligned.placed t).of_away offline gone]

/-- An aligned gate may hand over what it sent. -/
theorem aligned_handed {held : ClientPtr → TranId → Held} {g : Gate} (aligned : Aligned held g) :
    Aligned (told held g.sent) { g with sent := [] } where
  placed := by
    intro t
    cases aligned.placed t with
    | away offline gone heard => exact .away offline gone heard
    | online online gone notWaiting session client admitted heard =>
      exact .online online gone notWaiting session client admitted heard
    | kept offline recon client heard => exact .kept offline recon client heard
  unbound := aligned.unbound
  registered := aligned.registered

theorem settled_gate {event : GateServer.Event} (settled : Settled w)
    (stays : GatePlaces.LinksStay w.gate event) (orderly : GatePlaces.Orderly w.gate event) :
    Settled (turnGate w event) where
  aligned := by
    have sees : view (turnGate w event) = told (view w) (GateServer.step w.gate event).sent := by
      funext c t
      simp [view, told, turnGate]
    rw [sees]
    exact aligned_handed (aligned_step settled.aligned stays orderly)
  handed := rfl
  games := settled.games

/-- What changes neither the gate nor what a game server will hold. -/
theorem settled_game {c : ClientPtr} {game : Server} {flight : ClientPtr → List GameMessage}
    (settled : Settled w) (one : OneGate game) (others : ∀ d, d ≠ c → flight d = w.flight d)
    (same : ∀ t, (flight c).foldl (hear t) (status game t) = view w c t) :
    Settled { w with games := Function.update w.games c game, flight := flight } where
  aligned := by
    have sees : view { w with games := Function.update w.games c game, flight := flight } =
        view w := by
      funext d t
      by_cases here : d = c
      · subst here
        simpa [view] using same t
      · simp [view, here, others d here]
    rw [sees]
    exact settled.aligned
  handed := settled.handed
  games := by
    intro d
    by_cases here : d = c
    · subst here
      simpa using one
    · simpa [here] using settled.games d

theorem settled_deliver {c : ClientPtr} {p : SessionPtr} {request : ClientRequest}
    (settled : Settled w) (running : (w.games c).crashed = false) :
    Settled (deliver w c p request) := by
  unfold deliver
  split
  · exact settled
  · rename_i message rest queue
    split
    · exact settled
    · rename_i used
      have one := settled.games c
      have heard := heard_received request one running (Bool.eq_false_iff.mpr used) message
      apply settled_game settled
      · exact oneGate_step _ one heard.gate
      · intro d other
        simp [other]
      · intro t
        simp [view, queue, heard.status]

theorem settled_turn {c : ClientPtr} {event : GameServer.Event} (settled : Settled w)
    (inside : fromGate event = false) : Settled { w with
      games := Function.update w.games c (GameServer.step (w.games c) event) } := by
  have one := settled.games c
  have alike := alike_local one.valid (.inl inside)
  apply settled_game settled
  · exact oneGate_step _ one (alike_gate alike one.gate)
  · intro d other
    rfl
  · intro t
    rw [alike_status alike, view]

/-- A crashed game server stays crashed. -/
theorem crashed_step {c : ClientPtr} (event : SystemEvent)
    (crashed : (w.games c).crashed = true) : ((step w event).games c).crashed = true := by
  have stays : ∀ d event, d = c → (GameServer.step (w.games d) event).crashed = true := by
    rintro d event rfl
    rw [GameTurns.step_crashed crashed, crashed]
  have updated : ∀ d event, ((Function.update w.games d
      (GameServer.step (w.games d) event)) c).crashed = true := by
    intro d event
    by_cases here : c = d
    · subst here
      simpa using stays c event rfl
    · simpa [here] using crashed
  cases event with
  | gate event => exact crashed
  | deliver d p request =>
    simp only [step, deliver]
    split
    · exact crashed
    · split
      · exact crashed
      · exact updated d _
  | game d event =>
    simp only [step]
    split
    · exact crashed
    · exact updated d event

/-- Settled as long as no game server has crashed. -/
def SettledUnlessCrashed (w : System) : Prop :=
  (∃ c, (w.games c).crashed = true) ∨ Settled w

theorem settled_step (event : SystemEvent) (settled : SettledUnlessCrashed w)
    (steady : LinksStay w event ∧ Orderly w event) : SettledUnlessCrashed (step w event) := by
  rcases settled with ⟨c, crashed⟩ | settled
  · exact .inl ⟨c, crashed_step event crashed⟩
  · cases event with
    | gate event => exact .inr (settled_gate settled steady.1 steady.2)
    | deliver c p request =>
      cases running : (w.games c).crashed with
      | true => exact .inl ⟨c, crashed_step _ running⟩
      | false => exact .inr (settled_deliver settled running)
    | game c event =>
      right
      simp only [step]
      split
      · exact settled
      · rename_i inside
        exact settled_turn settled (Bool.eq_false_iff.mpr inside)

/-- In every run whose links stay up, in which no login finds its transid in m_recon_map and no
kicked session closes, the gate and its game servers agree whenever nothing is in flight. -/
theorem tables_agree (gsIdleMax serverid : Nat) (config : HeroConfig)
    (generateId : ClientPtr → Nat) (events : List SystemEvent)
    (stays : EveryStep step LinksStay (start gsIdleMax serverid config generateId) events)
    (orderly : EveryStep step Orderly (start gsIdleMax serverid config generateId) events) :
    EveryState step Synchronised (start gsIdleMax serverid config generateId) events := by
  have keep : ∀ w event, SettledUnlessCrashed w → LinksStay w event ∧ Orderly w event →
      SettledUnlessCrashed (step w event) := fun w event => settled_step event
  have settled := everyState_of_everyStep keep
    (.inr (settled_start gsIdleMax serverid config generateId))
    (everyStep_and.mpr ⟨stays, orderly⟩)
  refine everyState_imp ?_ settled
  intro w before running drained
  rcases before with ⟨c, crashed⟩ | settled
  · rw [running c] at crashed
    cases crashed
  · exact settled_agrees settled drained

/-- Gate 1 and its game servers at the start. -/
def first : System := start 100 1 ⟨0, 0, 1, [], .empty⟩ fun _ => 0

/-- A player comes online at game server 1 and gets a hero. -/
def online : List SystemEvent := [.gate (.gameRegister 0 1), .gate (.addToWait 5 9),
  .gate (.accept 7), .gate (.loginGame 7 5), .deliver 0 70 (.delSuit 0),
  .game 0 (.needCreateHero 5)]

/-- The player leaves, and the time to come back runs out. -/
def leaves : List SystemEvent := [.gate (.close 7), .deliver 0 71 (.delSuit 0),
  .gate (.tick 300000), .deliver 0 71 (.delSuit 0)]

theorem tables_agree_leaves :
    EveryState step Synchronised first (online ++ leaves) := by
  apply tables_agree
  · refine ⟨?_, trivial, trivial, trivial, trivial, trivial, trivial, trivial, trivial, trivial,
      trivial⟩
    intro i d active
    cases active
  · refine ⟨trivial, trivial, trivial, ?_, trivial, trivial, ?_, trivial, trivial, trivial,
      trivial⟩
    · intro _ _
      constructor
      · intro _
        rfl
      · intro v waiting _
        exact ⟨rfl, waiting⟩
    · rfl

/-- The player leaves and comes back at once. The game server is not told. -/
def returns : List SystemEvent := [.gate (.close 7), .deliver 0 71 (.delSuit 0),
  .gate (.accept 8), .gate (.loginGame 8 5)]

/-- The player is kicked. The close of the kicked session puts the transid in m_recon_map. -/
def kicked : List SystemEvent := [.gate (.kickUser 5 9), .deliver 0 71 (.delSuit 0),
  .gate (.close 7), .deliver 0 71 (.delSuit 0)]

theorem silent_reconnect_disagrees :
    (EveryStep step LinksStay first (online ++ returns) ∧
      ¬ EveryState step Synchronised first (online ++ returns)) ∧
    EveryStep step LinksStay first (online ++ kicked) ∧
      ¬ EveryState step Synchronised first (online ++ kicked) := by
  refine ⟨⟨⟨?_, trivial, trivial, trivial, trivial, trivial, trivial, trivial, trivial, trivial,
    trivial⟩, ?_⟩, ⟨?_, trivial, trivial, trivial, trivial, trivial, trivial, trivial, trivial,
    trivial, trivial⟩, ?_⟩
  · intro i d active
    cases active
  · intro all
    have last := everyState_last all
    have running : ∀ c, ((run step first (online ++ returns)).games c).crashed = false := by
      rintro (_ | c)
      · rfl
      · rfl
    have drained : ∀ c, (run step first (online ++ returns)).flight c = [] := by
      rintro (_ | c)
      · rfl
      · rfl
    obtain ⟨c, a, client, admitted, held⟩ := (last running drained).online 5 8 rfl
    cases client
    cases held
  · intro i d active
    cases active
  · intro all
    have last := everyState_last all
    have running : ∀ c, ((run step first (online ++ kicked)).games c).crashed = false := by
      rintro (_ | c)
      · rfl
      · rfl
    have drained : ∀ c, (run step first (online ++ kicked)).flight c = [] := by
      rintro (_ | c)
      · rfl
      · rfl
    obtain ⟨c, a, client, held⟩ := (last running drained).offline 5 1 rfl
    cases client
    cases held

end GateGames
