import DreamHeroes.GateServer

/- The place of a transid at the gate and what the game servers hold of it once they have heard
   everything the gate told them. -/
namespace GatePlaces

open GateServer OrderedMaps ObjMap CountdownTimers

/-- The account of a session and whether it is online. -/
abbrev Held := Option (Account × Bool)

def join (a : Account) : Held → Held
  | none => some (a, true)
  | some (b, online) => some (b, online || b = a)

/-- What the message makes of the session for a transid. -/
def hear (t : TranId) (held : Held) : GameMessage → Held
  | .addUser u a => if u = t then join a held else held
  | .offlineUser u => if u = t then held.map fun session => (session.1, false) else held
  | .removeUser u => if u = t then none else held
  | .client _ => held

def about : GameMessage → TranId
  | .addUser t _ => t
  | .offlineUser t => t
  | .removeUser t => t
  | .client t => t

/-- What was sent on one link, in order. -/
def onLink (log : List (ClientPtr × GameMessage)) (c : ClientPtr) : List GameMessage :=
  (log.filter fun entry => entry.1 = c).map (·.2)

/-- What a game server holds of the transid after the log, if it held so much before it. -/
def told (held : ClientPtr → TranId → Held) (log : List (ClientPtr × GameMessage))
    (c : ClientPtr) (t : TranId) : Held :=
  (onLink log c).foldl (hear t) (held c t)

variable {held : ClientPtr → TranId → Held} {g g' : Gate} {t u : TranId} {c d : ClientPtr}
  {log log' : List (ClientPtr × GameMessage)} {message : GameMessage}

theorem told_sent : told held (log ++ [(c, message)]) d t =
    if c = d then hear t (told held log d t) message else told held log d t := by
  by_cases here : c = d <;> simp [told, onLink, here]

theorem hear_other {session : Held} (other : about message ≠ t) :
    hear t session message = session := by
  cases message with
  | client v => rfl
  | _ => exact if_neg other

theorem told_other (other : about message ≠ t) :
    told held (log ++ [(c, message)]) d t = told held log d t := by
  rw [told_sent, hear_other other, ite_self]

/-- Where a transid can be: nowhere, in m_onlines or in m_recon_map, with what the game
servers hold of it. -/
inductive Placed (held : ClientPtr → TranId → Held) (g : Gate) (t : TranId) : Prop where
  | away (offline : getData g.onlines t = none) (gone : getData g.reconMap t = none)
      (heard : ∀ d, told held g.sent d t = none)
  | online {p : SessionPtr} {gs : GameId} {c : ClientPtr} {a : Account}
      (online : getData g.onlines t = some p) (gone : getData g.reconMap t = none)
      (notWaiting : getData g.waitMap t = none) (session : g.sessions p = ⟨t, gs, .connect⟩)
      (client : g.getGameClient gs = some c) (admitted : g.admitted t = some a)
      (heard : ∀ d, told held g.sent d t = if d = c then some (a, true) else none)
  | kept {gs : GameId} {c : ClientPtr} {a : Account} (offline : getData g.onlines t = none)
      (recon : getData g.reconMap t = some gs) (client : g.getGameClient gs = some c)
      (heard : ∀ d, told held g.sent d t = if d = c then some (a, false) else none)

theorem Placed.of_online {p : SessionPtr} (placed : Placed held g t)
    (found : getData g.onlines t = some p) : ∃ gs c a, g.sessions p = ⟨t, gs, .connect⟩ ∧
      getData g.reconMap t = none ∧ getData g.waitMap t = none ∧
      g.getGameClient gs = some c ∧ g.admitted t = some a ∧
      ∀ d, told held g.sent d t = if d = c then some (a, true) else none := by
  cases placed with
  | @online q gs c a online gone notWaiting session client admitted heard =>
    rw [found] at online
    cases online
    exact ⟨gs, c, a, session, gone, notWaiting, client, admitted, heard⟩
  | _ offline =>
    rw [found] at offline
    cases offline

theorem Placed.of_recon {gs : GameId} (placed : Placed held g t)
    (found : getData g.reconMap t = some gs) : ∃ c a, getData g.onlines t = none ∧
      g.getGameClient gs = some c ∧
      ∀ d, told held g.sent d t = if d = c then some (a, false) else none := by
  cases placed with
  | @kept _ c a offline recon client heard =>
    rw [found] at recon
    cases recon
    exact ⟨c, a, offline, client, heard⟩
  | _ _ gone =>
    rw [found] at gone
    cases gone

theorem Placed.of_away (placed : Placed held g t) (offline : getData g.onlines t = none)
    (gone : getData g.reconMap t = none) (d : ClientPtr) : told held g.sent d t = none := by
  cases placed with
  | away _ _ heard => exact heard d
  | online online =>
    rw [offline] at online
    cases online
  | kept _ recon =>
    rw [gone] at recon
    cases recon

/-- The gate and what it told the game servers agree about every transid. -/
structure Aligned (held : ClientPtr → TranId → Held) (g : Gate) : Prop where
  placed : ∀ t, Placed held g t
  unbound : ∀ p, (g.sessions p).state ≠ .connect →
    (g.sessions p).tranid = invalidTransId ∧ (g.sessions p).gsId = invalidGameId
  registered : ∀ i c, g.activeGames i = some c →
    0 < i ∧ i < maxGameId ∧ (g.clients c).gameId = i

/-- A change that does not touch the transid. -/
structure Untouched (held : ClientPtr → TranId → Held) (g g' : Gate) (t : TranId) : Prop where
  onlines : getData g'.onlines t = getData g.onlines t
  reconMap : getData g'.reconMap t = getData g.reconMap t
  waitMap : getData g.waitMap t = none → getData g'.waitMap t = none
  admitted : g'.admitted t = g.admitted t
  session : ∀ p, getData g.onlines t = some p → g'.sessions p = g.sessions p
  client : ∀ gs c, g.getGameClient gs = some c → g'.getGameClient gs = some c
  heard : ∀ d, told held g'.sent d t = told held g.sent d t

theorem placed_untouched (untouched : Untouched held g g' t) (placed : Placed held g t) :
    Placed held g' t := by
  obtain ⟨onlines, reconMap, waitMap, admitted', sessions, clients, same⟩ := untouched
  cases placed with
  | away offline gone heard =>
    apply Placed.away
    · rw [onlines, offline]
    · rw [reconMap, gone]
    · intro d
      rw [same, heard]
  | online online gone notWaiting session client admitted heard =>
    apply Placed.online (onlines.trans online) (reconMap.trans gone) (waitMap notWaiting)
      ((sessions _ online).trans session) (clients _ _ client) (admitted'.trans admitted)
    intro d
    rw [same, heard]
  | kept offline recon client heard =>
    apply Placed.kept (onlines.trans offline) (reconMap.trans recon) (clients _ _ client)
    intro d
    rw [same, heard]

/-- The game servers were told to forget the transid and nothing else. -/
structure Forgotten (held : ClientPtr → TranId → Held)
    (log log' : List (ClientPtr × GameMessage)) (t : TranId) : Prop where
  gone : ∀ d, told held log' d t = none
  others : ∀ d u, u ≠ t → told held log' d u = told held log d u

theorem forgotten_away (gone : ∀ d, told held log d t = none) : Forgotten held log log t where
  gone := gone
  others := by
    intro d u other
    rfl

theorem forgotten_removed {session : Held}
    (heard : ∀ d, told held log d t = if d = c then session else none) :
    Forgotten held log (log ++ [(c, .removeUser t)]) t where
  gone := by
    intro d
    rw [told_sent]
    split
    · simp [hear]
    · rename_i other
      rw [heard, if_neg fun same => other same.symm]
  others := by
    intro d u other
    exact told_other other.symm

theorem kick_sent (a : Account) (placed : Placed held g t) :
    Forgotten held g.sent (g.kickUser t a).sent t := by
  cases placed with
  | away offline gone heard =>
    simp only [Gate.kickUser, offline, gone]
    exact forgotten_away heard
  | online online gone notWaiting session client admitted heard =>
    simp only [Gate.kickUser, online, session, client]
    exact forgotten_removed heard
  | kept offline recon client heard =>
    simp only [Gate.getGameClient] at client
    simp only [Gate.kickUser, offline, recon, Gate.getGameClient, client]
    exact forgotten_removed heard

/-- A kick leaves the transid in no map, and the game server that held it was told so. -/
theorem kick_forgets (a : Account) (placed : Placed held g t) :
    ∃ accounts log, Forgotten held g.sent log t ∧ g.kickUser t a = { g with
      onlines := eraseData g.onlines t
      waitMap := eraseData g.waitMap t
      reconMap := eraseData g.reconMap t
      onlineaccs := accounts
      sent := log } := by
  have forgotten := kick_sent a placed
  cases online : getData g.onlines t with
  | none =>
    obtain ⟨log, kicked⟩ := Gate.kickUser_offline a online
    rw [kicked] at forgotten
    refine ⟨g.accountsAfterKick t, log, forgotten, ?_⟩
    rw [kicked, eraseData_absent online]
  | some p =>
    obtain ⟨log, kicked⟩ := Gate.kickUser_online a online
    rw [kicked] at forgotten
    obtain ⟨_, _, _, _, gone, notWaiting, _⟩ := placed.of_online online
    refine ⟨eraseData g.onlineaccs a, log, forgotten, ?_⟩
    rw [kicked, eraseData_absent notWaiting, eraseData_absent gone]

/-- Forgetting a transid keeps the gate aligned. -/
theorem aligned_forgets {accounts : OrderedMap Account TranId} {waitMap : OrderedMap TranId Account}
    (aligned : Aligned held g) (forgotten : Forgotten held g.sent log t)
    (waits : ∀ u, u ≠ t → getData g.waitMap u = none → getData waitMap u = none) :
    Aligned held { g with
      onlines := eraseData g.onlines t
      waitMap := waitMap
      reconMap := eraseData g.reconMap t
      onlineaccs := accounts
      sent := log } where
  placed := by
    intro u
    by_cases same : t = u
    · subst same
      apply Placed.away
      · simp
      · simp
      · exact forgotten.gone
    · apply placed_untouched (g := g) _ (aligned.placed u)
      constructor
      · simp [same]
      · simp [same]
      · exact waits u (Ne.symm same)
      · rfl
      · intro p online
        rfl
      · intro gs c client
        exact client
      · intro d
        exact forgotten.others d u (Ne.symm same)
  unbound := aligned.unbound
  registered := aligned.registered

theorem aligned_kick (t : TranId) (a : Account) (aligned : Aligned held g) :
    Aligned held (g.kickUser t a) := by
  obtain ⟨accounts, log, forgotten, kicked⟩ := kick_forgets a (aligned.placed t)
  rw [kicked]
  apply aligned_forgets aligned forgotten
  intro u other absent
  simp [absent]

theorem aligned_waits {a : Account} {events : List (Countdown TimerCall)}
    (aligned : Aligned held g) (offline : getData g.onlines t = none) :
    Aligned held { g with
      waitMap := addData g.waitMap t a
      admitted := Function.update g.admitted t (some a)
      events := events } where
  placed := by
    intro u
    by_cases same : t = u
    · subst same
      cases aligned.placed t with
      | away _ gone heard => exact .away offline gone heard
      | online online =>
        rw [offline] at online
        cases online
      | kept _ recon client heard => exact .kept offline recon client heard
    · apply placed_untouched (g := g) _ (aligned.placed u)
      constructor
      · rfl
      · rfl
      · intro absent
        simp [same, absent]
      · simp [Ne.symm same]
      · intro p online
        rfl
      · intro gs c client
        exact client
      · intro d
        rfl
  unbound := aligned.unbound
  registered := aligned.registered

theorem aligned_addToWait (t : TranId) (a : Account) (aligned : Aligned held g) :
    Aligned held (g.addToWait t a) := by
  cases online : getData g.onlines t with
  | none =>
    rw [Gate.addToWait_offline a online]
    exact aligned_waits aligned online
  | some p =>
    have present : hasData g.onlines t = true := by
      rw [hasData, Option.isSome_iff_exists]
      exact ⟨p, online⟩
    simp only [Gate.addToWait, present, if_true]
    apply aligned_waits (aligned_kick t a aligned)
    obtain ⟨log, kicked⟩ := Gate.kickUser_online a online
    rw [kicked]
    simp

/-- Neither timers nor the map of accounts matter, and a forgotten wait does no harm. -/
theorem aligned_blind {accounts : OrderedMap Account TranId}
    {waitMap : OrderedMap TranId Account} {events : List (Countdown TimerCall)}
    (aligned : Aligned held g)
    (waits : ∀ u, getData g.waitMap u = none → getData waitMap u = none)
    (heard : ∀ d u, told held log d u = told held g.sent d u) :
    Aligned held { g with
      onlineaccs := accounts
      waitMap := waitMap
      events := events
      sent := log } where
  placed := by
    intro u
    apply placed_untouched (g := g) _ (aligned.placed u)
    constructor
    · rfl
    · rfl
    · exact waits u
    · rfl
    · intro q online
      rfl
    · intro gs c client
      exact client
    · intro d
      exact heard d u
  unbound := aligned.unbound
  registered := aligned.registered

theorem Aligned.apart {p q : SessionPtr} (aligned : Aligned held g)
    (fresh : (g.sessions p).state ≠ .connect) (online : getData g.onlines u = some q) :
    q ≠ p := by
  rintro rfl
  obtain ⟨gs, c, a, session, _⟩ := (aligned.placed u).of_online online
  rw [session] at fresh
  exact fresh rfl

/-- Nobody looks at a session that is not connected. -/
theorem aligned_unconnected {p : SessionPtr} {state : SessionState} (aligned : Aligned held g)
    (fresh : (g.sessions p).state ≠ .connect) :
    Aligned held (g.setSession p { g.sessions p with state := state }) where
  placed := by
    intro u
    apply placed_untouched (g := g) _ (aligned.placed u)
    constructor
    · rfl
    · rfl
    · intro absent
      exact absent
    · rfl
    · intro q online
      simp [aligned.apart fresh online]
    · intro gs c client
      exact client
    · intro d
      rfl
  unbound := by
    intro q
    by_cases here : q = p
    · intro _
      simpa [here] using aligned.unbound p fresh
    · simpa [here] using aligned.unbound q
  registered := aligned.registered

theorem login_sent {p : SessionPtr} (fresh : (g.sessions p).state ≠ .connect) :
    (g.parseLoginGame p t).sent = match getData g.waitMap t, g.getIdleGameClient with
      | some v, some c => g.sent ++ [(c, .addUser t v)]
      | _, _ => g.sent := by
  rw [Gate.parseLoginGame, if_neg fresh]
  unfold Gate.checkConn
  cases waiting : getData g.waitMap t with
  | some v =>
    have idleSame : Gate.getIdleGameClient { g with waitMap := eraseData g.waitMap t } =
        g.getIdleGameClient :=
      Gate.getIdleGameClient_congr (h := g) rfl rfl rfl
    simp only [idleSame]
    cases idle : g.getIdleGameClient with
    | none => rfl
    | some c => rfl
  | none =>
    cases recon : getData g.reconMap t with
    | none => rfl
    | some gs => rfl

/-- checkConn lets nobody in whose transid is in m_recon_map, nor under an account that is not
the one last admitted. -/
def AdmitsFresh (g : Gate) (t : TranId) : Prop :=
  (getData g.waitMap t = none → getData g.reconMap t = none) ∧
    ∀ v, getData g.waitMap t = some v → g.getIdleGameClient ≠ none →
      getData g.reconMap t = none ∧ g.admitted t = some v

/-- What a first login changes besides the map of accounts. -/
theorem aligned_admitted {p : SessionPtr} {v : Account} {accounts : OrderedMap Account TranId}
    (aligned : Aligned held g) (fresh : (g.sessions p).state ≠ .connect)
    (waiting : getData g.waitMap t = some v) (idle : g.getIdleGameClient = some c)
    (gone : getData g.reconMap t = none) (admitted : g.admitted t = some v) :
    Aligned held ({ g with
      waitMap := eraseData g.waitMap t
      onlines := addData g.onlines t p
      onlineaccs := accounts
      sent := g.sent ++ [(c, GameMessage.addUser t v)] }.setSession p
        ⟨t, (g.clients c).gameId, .connect⟩) where
  placed := by
    intro u
    by_cases same : t = u
    · subst same
      have offline : getData g.onlines t = none := by
        by_contra online
        obtain ⟨q, online⟩ := Option.ne_none_iff_exists'.mp online
        obtain ⟨_, _, _, _, _, notWaiting, _⟩ := (aligned.placed t).of_online online
        rw [waiting] at notWaiting
        cases notWaiting
      have heard := (aligned.placed t).of_away offline gone
      obtain ⟨i, active⟩ := Gate.getIdleGameClient_active idle
      obtain ⟨positive, small, gameId⟩ := aligned.registered i c active
      refine Placed.online (p := p) (c := c) (a := v) ?_ ?_ ?_ ?_
        (?_ : Gate.getGameClient _ i = _) ?_ ?_
      · simp [Gate.setSession, offline]
      · exact gone
      · simp [Gate.setSession]
      · simp [gameId]
      · simp only [Gate.getGameClient, Gate.setSession]
        rw [if_pos ⟨positive, small⟩, active]
      · exact admitted
      · intro d
        simp only [Gate.setSession, told_sent, heard, hear]
        simp [join, eq_comm]
    · apply placed_untouched (g := g) _ (aligned.placed u)
      constructor
      · simp [Gate.setSession, same]
      · rfl
      · intro absent
        simp [Gate.setSession, absent]
      · rfl
      · intro q online
        simp [aligned.apart fresh online]
      · intro gs k client
        exact client
      · intro d
        exact told_other same
  unbound := by
    intro q
    by_cases here : q = p
    · simp [here]
    · simpa [here] using aligned.unbound q
  registered := aligned.registered

theorem aligned_login {p : SessionPtr} (aligned : Aligned held g)
    (fresh : (g.sessions p).state ≠ .connect) (admits : AdmitsFresh g t) :
    Aligned held (g.parseLoginGame p t) := by
  have sent := login_sent (t := t) fresh
  have outcome := Gate.parseLoginGame_login t fresh
  generalize g.parseLoginGame p t = after at sent outcome
  cases outcome with
  | noServer waiting idle =>
    refine aligned_unconnected (aligned_blind aligned ?_ ?_) fresh
    · intro u absent
      simp [absent]
    · intro d u
      rfl
  | @admitted v c log waiting idle =>
    obtain ⟨gone, admitted⟩ := admits.2 v waiting (by simp [idle])
    simp only [waiting, idle] at sent
    rw [show log = g.sent ++ [(c, .addUser t v)] from sent]
    exact aligned_admitted aligned fresh waiting idle gone admitted
  | returned notWaiting recon =>
    rw [admits.1 notWaiting] at recon
    cases recon
  | unknown notWaiting noRecon =>
    exact aligned_unconnected aligned fresh

theorem close_sent_connected {p : SessionPtr} {gs : GameId}
    (session : g.sessions p = ⟨t, gs, .connect⟩) (client : g.getGameClient gs = some c) :
    (g.onClose p).sent = g.sent ++ [(c, .offlineUser t)] := by
  simp only [Gate.getGameClient] at client
  simp [Gate.onClose, Gate.checkClose, session, Gate.getGameClient, client, Gate.send,
    Gate.addEvent, Gate.setState, Gate.setSession]

theorem close_sent_unbound {p : SessionPtr} (gsId : (g.sessions p).gsId = invalidGameId) :
    (g.onClose p).sent = g.sent := by
  simp [Gate.onClose, Gate.checkClose, gsId, Gate.getGameClient, Gate.send,
    Gate.addEvent, Gate.setState, Gate.setSession]

/-- The closing session is the one m_onlines has for its transid, if it is connected, and
otherwise m_onlines has none. -/
def ClosesOwn (g : Gate) (p : SessionPtr) : Prop :=
  getData g.onlines (g.sessions p).tranid =
    if (g.sessions p).state = .connect then some p else none

theorem aligned_close_connected {p : SessionPtr} (aligned : Aligned held g)
    (own : getData g.onlines (g.sessions p).tranid = some p) : Aligned held (g.onClose p) := by
  generalize tranid : (g.sessions p).tranid = t at own
  obtain ⟨gs, c, a, session, gone, notWaiting, client, admitted, heard⟩ :=
    (aligned.placed t).of_online own
  have keeps : g.KeepsPlace p := by
    simp [Gate.KeepsPlace, session, client]
  have sent := close_sent_connected session client
  obtain ⟨log, closed⟩ := Gate.onClose_keeps keeps
  rw [closed] at sent ⊢
  rw [show log = g.sent ++ [(c, .offlineUser t)] from sent, session]
  constructor
  · intro u
    by_cases same : t = u
    · subst same
      refine Placed.kept (c := c) (a := a) ?_ (?_ : _ = some gs) ?_ ?_
      · simp [Gate.setSession]
      · simp [Gate.setSession, gone]
      · exact client
      · intro d
        simp only [Gate.setSession, told_sent, heard, hear]
        by_cases here : c = d
        · simp [here]
        · simp [here, Ne.symm here]
    · apply placed_untouched (g := g) _ (aligned.placed u)
      constructor
      · simp [Gate.setSession, same]
      · simp [Gate.setSession, same]
      · intro absent
        exact absent
      · rfl
      · intro q online
        have other : q ≠ p := by
          rintro rfl
          obtain ⟨_, _, _, sessionU, _⟩ := (aligned.placed u).of_online online
          rw [sessionU] at tranid
          exact same tranid.symm
        simp [other]
      · intro gs k client
        exact client
      · intro d
        exact told_other same
  · intro q
    by_cases here : q = p
    · simp [here, Gate.freeSession]
    · simpa [here] using aligned.unbound q
  · exact aligned.registered

theorem aligned_close_unbound {p : SessionPtr} (aligned : Aligned held g)
    (fresh : (g.sessions p).state ≠ .connect)
    (own : getData g.onlines (g.sessions p).tranid = none) : Aligned held (g.onClose p) := by
  obtain ⟨tranid, gsId⟩ := aligned.unbound p fresh
  have drops : ¬ g.KeepsPlace p := by
    simp [Gate.KeepsPlace, fresh]
  have sent := close_sent_unbound gsId
  obtain ⟨log, closed⟩ := Gate.onClose_drops drops
  rw [closed] at sent ⊢
  have freed : Gate.freeSession = { g.sessions p with state := .disable } := by
    simp [Gate.freeSession, tranid, gsId]
  rw [show log = g.sent from sent, eraseData_absent own, freed]
  refine aligned_unconnected (aligned_blind aligned ?_ ?_) fresh
  · intro u absent
    exact absent
  · intro d u
    rfl

theorem aligned_close {p : SessionPtr} (aligned : Aligned held g) (own : ClosesOwn g p) :
    Aligned held (g.onClose p) := by
  unfold ClosesOwn at own
  split at own
  · exact aligned_close_connected aligned own
  · rename_i fresh
    exact aligned_close_unbound aligned fresh own

theorem removeReconn_sent_kept {gs : GameId} (recon : getData g.reconMap t = some gs)
    (client : g.getGameClient gs = some c) :
    (g.eventCallRemoveReconn t).sent = g.sent ++ [(c, .removeUser t)] := by
  have valid : gs ≠ invalidGameId := Nat.ne_of_gt (Gate.getGameClient_some client).1
  simp only [Gate.getGameClient] at client
  simp only [Gate.eventCallRemoveReconn, recon, Option.getD_some, if_pos valid,
    Gate.getGameClient, client]
  rfl

theorem removeReconn_sent_gone (gone : getData g.reconMap t = none) :
    (g.eventCallRemoveReconn t).sent = g.sent := by
  simp [Gate.eventCallRemoveReconn, gone]

theorem aligned_removeReconn (t : TranId) (aligned : Aligned held g) :
    Aligned held (g.eventCallRemoveReconn t) := by
  obtain ⟨log, removed⟩ := g.eventCallRemoveReconn_eq t
  have quiet (gone : getData g.reconMap t = none) :
      Aligned held (g.eventCallRemoveReconn t) := by
    have sent := removeReconn_sent_gone gone
    rw [removed] at sent ⊢
    rw [show log = g.sent from sent, eraseData_absent gone]
    refine aligned_blind aligned ?_ ?_
    · intro u absent
      exact absent
    · intro d u
      rfl
  cases aligned.placed t with
  | away _ gone => exact quiet gone
  | online _ gone => exact quiet gone
  | kept offline recon client heard =>
    have sent := removeReconn_sent_kept recon client
    rw [removed] at sent ⊢
    rw [show log = _ from sent]
    have forgets : Aligned held { g with
        onlines := eraseData g.onlines t
        reconMap := eraseData g.reconMap t
        onlineaccs := eraseValue g.onlineaccs t
        sent := g.sent ++ [(_, GameMessage.removeUser t)] } :=
      aligned_forgets aligned (forgotten_removed heard) fun _ _ absent => absent
    rwa [eraseData_absent offline] at forgets

theorem aligned_tick (diff : Nat) (aligned : Aligned held g) : Aligned held (g.tick diff) := by
  refine Gate.tick_invariant (Aligned held) ?_ ?_ aligned
  · intro h events before
    exact aligned_blind before (fun _ absent => absent) (fun _ _ => rfl)
  · intro h before timer listed due
    cases timer.call with
    | removeReconn t => exact aligned_removeReconn t before
    | removeWait t =>
      refine aligned_blind before ?_ ?_
      · intro u absent
        simp [absent]
      · intro d u
        rfl

theorem aligned_gameMsg {p : SessionPtr} (aligned : Aligned held g) :
    Aligned held (g.parseGameMsg p) := by
  unfold Gate.parseGameMsg
  cases client : g.getGameClient (g.sessions p).gsId with
  | none => exact aligned
  | some c =>
    refine aligned_blind aligned ?_ ?_
    · intro u absent
      exact absent
    · intro d u
      simp [told_sent, hear]

/-- A change at the links that keeps the registered ones. -/
theorem aligned_clients {clients : ClientPtr → GameInfo} {games : GameId → Option ClientPtr}
    (aligned : Aligned held g)
    (kept : ∀ i c, g.activeGames i = some c → games i = some c)
    (registered : ∀ i c, games i = some c → 0 < i ∧ i < maxGameId ∧ (clients c).gameId = i) :
    Aligned held { g with clients := clients, activeGames := games } where
  placed := by
    intro u
    apply placed_untouched (g := g) _ (aligned.placed u)
    constructor
    · rfl
    · rfl
    · intro absent
      exact absent
    · rfl
    · intro q online
      rfl
    · intro gs c client
      obtain ⟨positive, small, active⟩ := Gate.getGameClient_some client
      rw [Gate.getGameClient, if_pos ⟨positive, small⟩]
      exact kept gs c active
    · intro d
      rfl
  unbound := aligned.unbound
  registered := registered

theorem aligned_gameOnlines (c : ClientPtr) (onlines : Nat) (aligned : Aligned held g) :
    Aligned held (g.parseGameOnlines c onlines) := by
  refine aligned_clients aligned ?_ ?_
  · intro i d active
    exact active
  · intro i d active
    obtain ⟨positive, small, gameId⟩ := aligned.registered i d active
    by_cases here : d = c
    · subst here
      exact ⟨positive, small, by simpa using gameId⟩
    · exact ⟨positive, small, by simpa [here] using gameId⟩

/-- The game server has no other id, and no other game server has its id. -/
def OwnId (g : Gate) (c : ClientPtr) (serverid : Nat) : Prop :=
  ∀ i d, g.activeGames i = some d → (d = c ↔ i = serverid % 2 ^ 8)

theorem aligned_register {serverid : Nat} (aligned : Aligned held g)
    (own : OwnId g c serverid) : Aligned held (g.parseGameRegister c serverid) := by
  have gameIds : ∀ i d, g.activeGames i = some d → 0 < i ∧ i < maxGameId ∧
      (Function.update g.clients c { g.clients c with gameId := serverid % 2 ^ 8 } d).gameId
        = i := by
    intro i d active
    obtain ⟨positive, small, gameId⟩ := aligned.registered i d active
    by_cases here : d = c
    · subst here
      refine ⟨positive, small, ?_⟩
      simpa using ((own i d active).mp rfl).symm
    · exact ⟨positive, small, by simpa [here] using gameId⟩
  simp only [Gate.parseGameRegister]
  split
  · rename_i inRange
    refine aligned_clients aligned ?_ ?_
    · intro i d active
      by_cases here : i = serverid % 2 ^ 8
      · rw [(own i d active).mpr here, here, Function.update_self]
      · rwa [Function.update_of_ne here]
    · intro i d active
      by_cases here : i = serverid % 2 ^ 8
      · subst here
        rw [Function.update_self] at active
        cases active
        exact ⟨inRange.1, inRange.2, by simp⟩
      · rw [Function.update_of_ne here] at active
        exact gameIds i d active
  · refine aligned_clients aligned ?_ gameIds
    intro i d active
    exact active

/-- The links stay up: no game server closes, takes the id of another or changes its own, and
none moves a player. -/
def LinksStay (g : Gate) : Event → Prop
  | .gameRegister c serverid => OwnId g c serverid
  | .changeGS _ _ _ => False
  | .gameClose _ => False
  | _ => True

/-- No login finds its transid in m_recon_map, and no kicked session closes. -/
def Orderly (g : Gate) : Event → Prop
  | .loginGame p t => (g.sessions p).state ≠ .disable → (g.sessions p).state ≠ .connect →
      AdmitsFresh g t
  | .close p => ClosesOwn g p
  | _ => True

theorem aligned_step {event : Event} (aligned : Aligned held g) (stays : LinksStay g event)
    (orderly : Orderly g event) : Aligned held (step g event) := by
  cases event with
  | accept p =>
    simp only [step]
    split
    · rename_i free
      exact aligned_unconnected aligned (by simp [free])
    · exact aligned
  | loginGame p t =>
    simp only [step]
    split
    · exact aligned
    · rename_i live
      by_cases connected : (g.sessions p).state = .connect
      · rwa [Gate.parseLoginGame, if_pos connected]
      · exact aligned_login aligned connected (orderly live connected)
  | gameMsg p =>
    simp only [step]
    split
    · exact aligned
    · exact aligned_gameMsg aligned
  | close p => exact aligned_close aligned orderly
  | addToWait t a => exact aligned_addToWait t a aligned
  | kickUser t a => exact aligned_kick t a aligned
  | tick diff => exact aligned_tick diff aligned
  | gameRegister c serverid => exact aligned_register aligned stays
  | gameOnlines c onlines => exact aligned_gameOnlines c onlines aligned
  | changeGS c gameserverid flag => exact stays.elim
  | gameClose c => exact stays.elim

theorem aligned_start (gsIdleMax : Nat) : Aligned (fun _ _ => none) (start gsIdleMax) where
  placed := by
    intro t
    apply Placed.away
    · rfl
    · rfl
    · intro d
      rfl
  unbound := by
    intro p _
    exact ⟨rfl, rfl⟩
  registered := by
    intro i c active
    cases active

end GatePlaces
