import DreamHeroes.GateMaps

/- How long a disconnected or an admitted transid may still log in. -/
namespace GateReconnect

open GateServer GateMaps ObjMap CountdownTimers LabelledRuns

/-- The time the event holder counts over the events. -/
def elapsed : List Event → Nat
  | [] => 0
  | .tick diff :: rest => diff + elapsed rest
  | _ :: rest => elapsed rest

/-- No kick of the transid, and no LoginGame of it that reaches checkConn. -/
def Undisturbed (t : TranId) (g : Gate) : Event → Prop
  | .kickUser k _ => k ≠ t
  | .loginGame p k =>
      k = t → (g.sessions p).state = .disable ∨ (g.sessions p).state = .connect
  | _ => True

def StaysUp (gs : GameId) (g : Gate) : Event → Prop
  | .gameClose c => ¬ g.FreesSlot c gs
  | _ => True

/-- No new admission of the transid, and no close of a session that has it. -/
def Alone (t : TranId) (g : Gate) : Event → Prop
  | .addToWait k _ => k ≠ t
  | .close p => (g.sessions p).tranid ≠ t
  | _ => True

/-- No timer for the call goes off in this step. -/
def Quiet (call : TimerCall) (g : Gate) : Event → Prop
  | .tick diff => NotDue call diff g.events
  | _ => True

variable {g h : Gate} {event : Event} {t : TranId} {gs : GameId} {call : TimerCall}

/-- Apart from a turn of the event holder, a step drops no timer and arms only timers of five
minutes. -/
theorem turn_events (turn : Turn g event h) (other : ∀ diff, event ≠ .tick diff) :
    ∃ new, h.events = g.events ++ new ∧ ∀ timer ∈ new, waiteReconnectTime ≤ timer.left := by
  have none : ∃ new, g.events = g.events ++ new ∧
      ∀ timer ∈ new, waiteReconnectTime ≤ timer.left := ⟨[], by simp⟩
  have one : ∀ timer, ∃ new,
      g.events ++ [(⟨timer, waiteReconnectTime⟩ : Countdown TimerCall)] = g.events ++ new ∧
        ∀ timer ∈ new, waiteReconnectTime ≤ timer.left := by
    intro timer
    exact ⟨[⟨timer, waiteReconnectTime⟩], rfl, by simp⟩
  cases turn with
  | ticked diff => exact absurd rfl (other diff)
  | closeKeeps log keeps => exact one _
  | closeDrops log drops => exact one _
  | waits offline => exact one _
  | waitsKicked log online => exact one _
  | login live fresh outcome =>
    cases outcome with
    | noServer waiting idle => exact none
    | admitted log waiting idle => exact none
    | returned notWaiting recon => exact none
    | unknown notWaiting noRecon => exact none
  | ignored => exact none
  | logged log => exact none
  | accepted free => exact none
  | kicked log online => exact none
  | forgotten log offline => exact none
  | counted clients => exact none
  | registered clients gs inRange => exact none
  | moved log online client => exact none
  | freed frees => exact none

theorem elapsed_cons (event : Event) (rest : List Event) :
    elapsed (event :: rest) = elapsed [event] + elapsed rest := by
  cases event <;> simp [elapsed]

theorem quiet_step_iff {time : Nat} (soon : time < waiteReconnectTime) :
    Quiet call g event ∧ NotDue call time (step g event).events ↔
      NotDue call (elapsed [event] + time) g.events := by
  by_cases tick : ∃ diff, event = .tick diff
  · obtain ⟨diff, rfl⟩ := tick
    exact notDue_update
  · have other : ∀ diff, event ≠ .tick diff := by
      intro diff same
      exact tick ⟨diff, same⟩
    obtain ⟨new, grown, long⟩ := turn_events (step_turn g event) other
    have later : ∀ timer ∈ new, time < timer.left := by
      intro timer listed
      have enough := long timer listed
      omega
    have still : elapsed [event] = 0 ∧ Quiet call g event := by
      cases event with
      | tick diff => exact absurd rfl (other diff)
      | _ => exact ⟨rfl, trivial⟩
    rw [grown, notDue_append later, still.1, Nat.zero_add]
    exact and_iff_right still.2

/-- Every timer still has time left. -/
def Running (g : Gate) : Prop := ∀ timer ∈ g.events, 0 < timer.left

theorem running_start (gsIdleMax : Nat) : Running (start gsIdleMax) := by
  intro timer listed
  cases listed

theorem running_step (event : Event) (running : Running g) : Running (step g event) := by
  intro timer listed
  by_cases tick : ∃ diff, event = .tick diff
  · obtain ⟨diff, rfl⟩ := tick
    obtain ⟨old, _, waits, rfl⟩ := Gate.tick_events.mp listed
    simp only
    omega
  · have other : ∀ diff, event ≠ .tick diff := by
      intro diff same
      exact tick ⟨diff, same⟩
    obtain ⟨new, grown, long⟩ := turn_events (step_turn g event) other
    rw [grown] at listed
    rcases List.mem_append.mp listed with old | added
    · exact running timer old
    · exact Nat.lt_of_lt_of_le (by decide) (long timer added)

/-- No timer for the call goes off in the run exactly when none of those armed before it is
due: the timers of the run itself last longer. -/
theorem everyStep_quiet_iff {events : List Event} (soon : elapsed events < waiteReconnectTime)
    (running : Running g) :
    EveryStep step (Quiet call) g events ↔ NotDue call (elapsed events) g.events := by
  induction events generalizing g with
  | nil =>
    apply iff_of_true trivial
    intro timer listed _
    exact running timer listed
  | cons event rest ih =>
    rw [elapsed_cons] at soon ⊢
    have soonRest : elapsed rest < waiteReconnectTime := by omega
    rw [← quiet_step_iff soonRest, ← ih soonRest (running_step event running)]
    rfl

theorem execute_keeps_recon {kept : GameId} {timer : TimerCall} (other : timer ≠ .removeReconn t)
    (recon : getData g.reconMap t = some kept) :
    getData (g.execute timer).reconMap t = some kept := by
  cases timer with
  | removeWait k => exact recon
  | removeReconn k =>
    have apart : k ≠ t := by
      rintro rfl
      exact other rfl
    obtain ⟨log, removed⟩ := g.eventCallRemoveReconn_eq k
    simpa [Gate.execute, removed, apart] using recon

/-- An undisturbed reconnect entry lasts until its timer or the end of its game server. -/
theorem recon_stays {kept : GameId} (turn : Turn g event h) (undisturbed : Undisturbed t g event)
    (quiet : Quiet (.removeReconn t) g event) (up : StaysUp kept g event)
    (recon : getData g.reconMap t = some kept) : getData h.reconMap t = some kept := by
  cases turn with
  | @login p k h live fresh outcome =>
    cases outcome with
    | noServer waiting idle => exact recon
    | admitted log waiting idle => exact recon
    | returned notWaiting old =>
      have other : k ≠ t := by
        intro same
        rcases undisturbed same with closed | connected
        · exact live closed
        · exact fresh connected
      simpa [Gate.setSession, other] using recon
    | unknown notWaiting noRecon => exact recon
  | @forgotten k a log offline =>
    have other : k ≠ t := undisturbed
    simpa [other] using recon
  | ticked diff =>
    apply Gate.tick_invariant fun h => getData h.reconMap t = some kept
    · intro h events held
      exact held
    · intro h held timer listed due
      apply execute_keeps_recon _ held
      intro same
      exact absurd (quiet timer listed same) (Nat.not_lt.mpr due)
    · exact recon
  | @freed c gs frees =>
    have other : kept ≠ gs := by
      rintro rfl
      exact up frees
    exact getData_eraseValue.mpr ⟨recon, other⟩
  | closeKeeps log keeps => exact addData_keeps recon
  | ignored => exact recon
  | logged log => exact recon
  | accepted free => exact recon
  | closeDrops log drops => exact recon
  | waits offline => exact recon
  | waitsKicked log online => exact recon
  | kicked log online => exact recon
  | counted clients => exact recon
  | registered clients gs inRange => exact recon
  | moved log online client => exact recon

theorem recon_stood {kept : GameId} (alone : Alone t g event)
    (recon : getData (step g event).reconMap t = some kept) :
    getData g.reconMap t = some kept ∧
      Quiet (.removeReconn t) g event ∧ StaysUp kept g event := by
  refine ⟨?_, ?_, ?_⟩
  · rcases reconMap_turn (step_turn g event) recon with before | ⟨p, rfl, _, session⟩
    · exact before
    · exact absurd (congrArg UserSession.tranid session) alone
  · cases event with
    | tick diff =>
      intro timer listed call
      by_contra due
      have gone : getData (g.tick diff).reconMap t = none := by
        apply Gate.tick_reaches (fun h => getData h.reconMap t = none) listed (Nat.not_lt.mp due)
        · intro h events absent
          exact absent
        · intro h
          obtain ⟨log, removed⟩ := h.eventCallRemoveReconn_eq t
          simp [call, Gate.execute, removed]
        · intro h other absent
          rw [Option.eq_none_iff_forall_not_mem] at absent ⊢
          intro gs after
          exact absent gs ((execute_shrunk other (Shrunk.refl h)).reconMap t gs after)
      rw [step, gone] at recon
      cases recon
    | _ => trivial
  · cases event with
    | gameClose c =>
      intro frees
      rw [step, Gate.removeActiveGameClient_frees frees] at recon
      exact (getData_eraseValue.mp recon).2 rfl
    | _ => trivial

/-- Over a run, a reconnect entry lasts until a timer armed before the run or the end of its
game server takes it. -/
theorem recon_run {kept : GameId} {events : List Event} (running : Running g)
    (undisturbed : EveryStep step (Undisturbed t) g events)
    (soon : elapsed events < waiteReconnectTime)
    (recon : getData g.reconMap t = some kept)
    (notDue : NotDue (.removeReconn t) (elapsed events) g.events)
    (up : EveryStep step (StaysUp kept) g events) :
    getData (run step g events).reconMap t = some kept := by
  have quiet := (everyStep_quiet_iff soon running).mpr notDue
  have all := everyStep_and.mpr ⟨undisturbed, everyStep_and.mpr ⟨quiet, up⟩⟩
  apply run_of_everyStep (fun g => getData g.reconMap t = some kept) _ recon all
  intro g event held ok
  exact recon_stays (step_turn g event) ok.1 ok.2.1 ok.2.2 held

theorem execute_keeps_wait {v : Account} {timer : TimerCall} (other : timer ≠ .removeWait t)
    (waiting : getData g.waitMap t = some v) :
    getData (g.execute timer).waitMap t = some v := by
  cases timer with
  | removeWait k =>
    have apart : k ≠ t := by
      rintro rfl
      exact other rfl
    simpa [Gate.execute, Gate.eventCallRemoveWait, apart] using waiting
  | removeReconn k =>
    obtain ⟨log, removed⟩ := g.eventCallRemoveReconn_eq k
    rw [Gate.execute, removed]
    exact waiting

/-- An undisturbed admission lasts until a wait timer takes it. -/
theorem wait_stays {v : Account} (turn : Turn g event h) (undisturbed : Undisturbed t g event)
    (quiet : Quiet (.removeWait t) g event) (waiting : getData g.waitMap t = some v) :
    getData h.waitMap t = some v := by
  cases turn with
  | @login p k h live fresh outcome =>
    have other : k ≠ t := by
      intro same
      rcases undisturbed same with closed | connected
      · exact live closed
      · exact fresh connected
    cases outcome with
    | noServer old idle => simpa [Gate.setSession, other] using waiting
    | admitted log old idle => simpa [Gate.setSession, other] using waiting
    | returned notWaiting old => exact waiting
    | unknown notWaiting noRecon => exact waiting
  | waits offline => exact addData_keeps waiting
  | waitsKicked log online => exact addData_keeps waiting
  | @forgotten k a log offline =>
    have other : k ≠ t := undisturbed
    simpa [other] using waiting
  | ticked diff =>
    apply Gate.tick_invariant fun h => getData h.waitMap t = some v
    · intro h events held
      exact held
    · intro h held timer listed due
      apply execute_keeps_wait _ held
      intro same
      exact absurd (quiet timer listed same) (Nat.not_lt.mpr due)
    · exact waiting
  | ignored => exact waiting
  | logged log => exact waiting
  | accepted free => exact waiting
  | closeKeeps log keeps => exact waiting
  | closeDrops log drops => exact waiting
  | kicked log online => exact waiting
  | counted clients => exact waiting
  | registered clients gs inRange => exact waiting
  | moved log online client => exact waiting
  | freed frees => exact waiting

theorem wait_stood (alone : Alone t g event) (waiting : getData (step g event).waitMap t ≠ none) :
    getData g.waitMap t ≠ none ∧ Quiet (.removeWait t) g event := by
  obtain ⟨v, waiting⟩ := Option.ne_none_iff_exists'.mp waiting
  constructor
  · rcases waitMap_turn (step_turn g event) waiting with before | rfl
    · simp [before]
    · exact absurd rfl alone
  · cases event with
    | tick diff =>
      intro timer listed call
      by_contra due
      have gone : getData (g.tick diff).waitMap t = none := by
        apply Gate.tick_reaches (fun h => getData h.waitMap t = none) listed (Nat.not_lt.mp due)
        · intro h events absent
          exact absent
        · intro h
          simp [call, Gate.execute, Gate.eventCallRemoveWait]
        · intro h other absent
          rw [Option.eq_none_iff_forall_not_mem] at absent ⊢
          intro v after
          exact absent v ((execute_shrunk other (Shrunk.refl h)).waitMap t v after)
      rw [step, gone] at waiting
      cases waiting
    | _ => trivial

theorem active_stays (turn : Turn g event h) (up : StaysUp gs g event)
    (active : g.activeGames gs ≠ none) : h.activeGames gs ≠ none := by
  cases turn with
  | login live fresh outcome => cases outcome <;> exact active
  | ticked diff =>
    rw [(tick_shrunk g diff).activeGames]
    exact active
  | @registered c serverid clients slot inRange =>
    simp only [Function.update_apply]
    split
    · simp
    · exact active
  | @freed c slot frees =>
    have other : gs ≠ slot := by
      rintro rfl
      exact up frees
    simpa [other] using active
  | ignored => exact active
  | logged log => exact active
  | accepted free => exact active
  | closeKeeps log keeps => exact active
  | closeDrops log drops => exact active
  | waits offline => exact active
  | waitsKicked log online => exact active
  | kicked log online => exact active
  | forgotten log offline => exact active
  | counted clients => exact active
  | moved log online client => exact active

/-- The socket of an online player closes while its game server is active. -/
structure Disconnects (g : Gate) (p : SessionPtr) (t : TranId) (gs : GameId) : Prop where
  online : getData g.onlines t = some p
  session : g.sessions p = ⟨t, gs, .connect⟩
  active : g.getGameClient gs ≠ none

/-- The server of the reconnect entry after a disconnect: addData keeps an older entry. -/
def keptServer (g : Gate) (t : TranId) (gs : GameId) : GameId := (getData g.reconMap t).getD gs

/-- No reconnect timer armed before the disconnect is due in the run, and the server of the
reconnect entry does not go down. -/
def PlaceHolds (g : Gate) (p : SessionPtr) (t : TranId) (gs : GameId) (events : List Event) :
    Prop :=
  NotDue (.removeReconn t) (elapsed events) g.events ∧
    EveryStep step (StaysUp (keptServer g t gs)) (step g (.close p)) events

theorem disconnect_leaves {p : SessionPtr} (disconnects : Disconnects g p t gs) :
    getData (step g (.close p)).reconMap t = some (keptServer g t gs) ∧
      (step g (.close p)).waitMap = g.waitMap ∧
      (step g (.close p)).activeGames = g.activeGames ∧
      (step g (.close p)).events = g.events ++ [⟨.removeReconn t, waiteReconnectTime⟩] := by
  have session := disconnects.session
  have keeps : g.KeepsPlace p := by
    rw [Gate.KeepsPlace, session]
    exact ⟨disconnects.active, rfl⟩
  obtain ⟨log, closed⟩ := Gate.onClose_keeps keeps
  rw [step, closed, session]
  refine ⟨?_, rfl, rfl, rfl⟩
  simp [Gate.setSession, keptServer]

theorem notDue_disconnect {p : SessionPtr} {time : Nat} (disconnects : Disconnects g p t gs)
    (soon : time < waiteReconnectTime) :
    NotDue call time (step g (.close p)).events ↔ NotDue call time g.events := by
  rw [(disconnect_leaves disconnects).2.2.2]
  apply notDue_append
  intro timer listed
  rwa [List.mem_singleton.mp listed]

theorem reconnect_accepted {p q : SessionPtr} {events : List Event} (running : Running g)
    (disconnects : Disconnects g p t gs)
    (undisturbed : EveryStep step (Undisturbed t) (step g (.close p)) events)
    (up : EveryStep step (StaysUp gs) (step g (.close p)) events)
    (soon : elapsed events < waiteReconnectTime) (holds : PlaceHolds g p t gs events) :
    ((run step (step g (.close p)) events).checkConn t q).1 = true := by
  obtain ⟨recon, _, games, _⟩ := disconnect_leaves disconnects
  have notDue := (notDue_disconnect disconnects soon).mpr holds.1
  have kept := recon_run (running_step (.close p) running) undisturbed soon recon notDue holds.2
  obtain ⟨c, client⟩ := Option.ne_none_iff_exists'.mp disconnects.active
  obtain ⟨_, inRange, active⟩ := Gate.getGameClient_some client
  have stillActive : (run step (step g (.close p)) events).activeGames gs ≠ none := by
    apply run_of_everyStep (fun g => g.activeGames gs ≠ none) _ _ up
    · intro g event held ok
      exact active_stays (step_turn g event) ok held
    · simp [games, active]
  rw [Gate.checkConn_true_iff]
  by_cases waiting : getData (run step (step g (.close p)) events).waitMap t = none
  · exact .inr ⟨waiting, by simp [kept]⟩
  · exact .inl ⟨waiting, Gate.getIdleGameClient_ne_none inRange stillActive⟩

theorem placeHolds_of_accepted {p q : SessionPtr} {events : List Event} (running : Running g)
    (apart : WaitApart g) (disconnects : Disconnects g p t gs)
    (alone : EveryStep step (Alone t) (step g (.close p)) events)
    (soon : elapsed events < waiteReconnectTime)
    (accepted : ((run step (step g (.close p)) events).checkConn t q).1 = true) :
    PlaceHolds g p t gs events := by
  obtain ⟨recon, waitMap, _, _⟩ := disconnect_leaves disconnects
  have notWaiting : getData (step g (.close p)).waitMap t = none := by
    rw [waitMap]
    apply (apart t).resolve_left
    simp [disconnects.online]
  rcases Gate.checkConn_true_iff.mp accepted with ⟨waiting, _⟩ | ⟨_, entry⟩
  · have back := everyStep_of_run (fun g => getData g.waitMap t ≠ none)
      (fun g event ok => wait_stood ok) alone waiting
    exact absurd notWaiting back.1
  · obtain ⟨kept, entry⟩ := Option.ne_none_iff_exists'.mp entry
    obtain ⟨first, all⟩ := everyStep_of_run (fun g => getData g.reconMap t = some kept)
      (fun g event ok => recon_stood ok) alone entry
    have same := Option.some.inj (recon.symm.trans first)
    obtain ⟨quiet, up⟩ := everyStep_and.mp all
    have notDue := (everyStep_quiet_iff soon (running_step (.close p) running)).mp quiet
    refine ⟨(notDue_disconnect disconnects soon).mp notDue, ?_⟩
    rwa [same]

theorem admission_leaves (g : Gate) (t : TranId) (a : Account) :
    (∃ v, getData (step g (.addToWait t a)).waitMap t = some v) ∧
      (step g (.addToWait t a)).events = g.events ++ [⟨.removeWait t, waiteConnectTime⟩] := by
  cases online : getData g.onlines t with
  | none =>
    rw [step, Gate.addToWait_offline a online]
    exact ⟨⟨(getData g.waitMap t).getD a, by simp⟩, rfl⟩
  | some p =>
    obtain ⟨log, waiting⟩ := Gate.addToWait_online a online
    rw [step, waiting]
    exact ⟨⟨(getData g.waitMap t).getD a, by simp⟩, rfl⟩

theorem notDue_admission {a : Account} {time : Nat} (soon : time < waiteConnectTime) :
    NotDue call time (step g (.addToWait t a)).events ↔ NotDue call time g.events := by
  rw [(admission_leaves g t a).2]
  apply notDue_append
  intro timer listed
  rwa [List.mem_singleton.mp listed]

theorem admission_accepted {a : Account} {q : SessionPtr} {events : List Event}
    (running : Running g)
    (undisturbed : EveryStep step (Undisturbed t) (step g (.addToWait t a)) events)
    (soon : elapsed events < waiteConnectTime)
    (available : (run step (step g (.addToWait t a)) events).getIdleGameClient ≠ none)
    (notDue : NotDue (.removeWait t) (elapsed events) g.events) :
    ((run step (step g (.addToWait t a)) events).checkConn t q).1 = true := by
  obtain ⟨⟨v, waiting⟩, _⟩ := admission_leaves g t a
  have later : NotDue (.removeWait t) (elapsed events) (step g (.addToWait t a)).events :=
    (notDue_admission soon).mpr notDue
  have quiet := (everyStep_quiet_iff soon (running_step (.addToWait t a) running)).mpr later
  have stays : getData (run step (step g (.addToWait t a)) events).waitMap t = some v := by
    apply run_of_everyStep (fun g => getData g.waitMap t = some v) _ waiting
      (everyStep_and.mpr ⟨undisturbed, quiet⟩)
    intro g event held ok
    exact wait_stays (step_turn g event) ok.1 ok.2 held
  rw [Gate.checkConn_true_iff]
  exact .inl ⟨by simp [stays], available⟩

theorem notDue_of_accepted {a : Account} {q : SessionPtr} {events : List Event}
    (running : Running g) (alone : EveryStep step (Alone t) (step g (.addToWait t a)) events)
    (soon : elapsed events < waiteConnectTime)
    (accepted : ((run step (step g (.addToWait t a)) events).checkConn t q).1 = true) :
    NotDue (.removeWait t) (elapsed events) g.events ∨
      getData (run step (step g (.addToWait t a)) events).reconMap t ≠ none := by
  rcases Gate.checkConn_true_iff.mp accepted with ⟨waiting, _⟩ | ⟨_, entry⟩
  · obtain ⟨_, quiet⟩ := everyStep_of_run (fun g => getData g.waitMap t ≠ none)
      (fun g event ok => wait_stood ok) alone waiting
    have later := (everyStep_quiet_iff soon (running_step (.addToWait t a) running)).mp quiet
    exact .inl ((notDue_admission soon).mp later)
  · exact .inr entry

theorem reachable_running (gsIdleMax : Nat) (events : List Event) :
    Running (run step (start gsIdleMax) events) :=
  run_of_every (fun _ event running => running_step event running) (running_start gsIdleMax)
    events

/-- In every run, a LoginGame within five minutes of the disconnect is accepted when the place
holds, and one within five minutes of the admission when no older wait timer is due. When the
transid is left alone in between, it is accepted in no other case, save that an admitted
transid may still have a reconnect entry. -/
theorem login_accepted_when (gsIdleMax : Nat) (before events : List Event) {g : Gate}
    (reached : g = run step (start gsIdleMax) before)
    (soon : elapsed events < waiteReconnectTime) (t : TranId) (q : SessionPtr) :
    (∀ p gs, Disconnects g p t gs →
      EveryStep step (Undisturbed t) (step g (.close p)) events →
      EveryStep step (StaysUp gs) (step g (.close p)) events →
      (PlaceHolds g p t gs events →
        ((run step (step g (.close p)) events).checkConn t q).1 = true) ∧
      (EveryStep step (Alone t) (step g (.close p)) events →
        ((run step (step g (.close p)) events).checkConn t q).1 = true →
          PlaceHolds g p t gs events)) ∧
    (∀ a, EveryStep step (Undisturbed t) (step g (.addToWait t a)) events →
      (run step (step g (.addToWait t a)) events).getIdleGameClient ≠ none →
      (NotDue (.removeWait t) (elapsed events) g.events →
        ((run step (step g (.addToWait t a)) events).checkConn t q).1 = true) ∧
      (EveryStep step (Alone t) (step g (.addToWait t a)) events →
        ((run step (step g (.addToWait t a)) events).checkConn t q).1 = true →
          NotDue (.removeWait t) (elapsed events) g.events ∨
            getData (run step (step g (.addToWait t a)) events).reconMap t ≠ none)) := by
  have running : Running g := reached ▸ reachable_running gsIdleMax before
  have apart : WaitApart g := reached ▸ run_waitApart gsIdleMax before
  constructor
  · intro p gs disconnects undisturbed up
    constructor
    · intro holds
      exact reconnect_accepted running disconnects undisturbed up soon holds
    · intro alone accepted
      exact placeHolds_of_accepted running apart disconnects alone soon accepted
  · intro a undisturbed available
    constructor
    · intro notDue
      exact admission_accepted running undisturbed soon available notDue
    · intro alone accepted
      exact notDue_of_accepted running alone soon accepted

theorem login_accepted_when_first_round :
    ((run step (step (run step (start 100) [.gameRegister 0 1, .accept 7, .addToWait 5 9,
      .loginGame 7 5]) (.close 7)) [.tick 60000, .accept 8]).checkConn 5 8).1 = true ∧
    ((run step (step (run step (start 100) [.gameRegister 0 1]) (.addToWait 5 9))
      [.tick 60000, .accept 8]).checkConn 5 8).1 = true := by
  constructor
  · apply ((login_accepted_when 100 _ [.tick 60000, .accept 8] rfl (by decide) 5 8).1 7 1
      ⟨rfl, rfl, by decide⟩ ⟨trivial, trivial, trivial⟩ ⟨trivial, trivial, trivial⟩).1
    refine ⟨?_, trivial, trivial, trivial⟩
    unfold NotDue
    decide
  · apply ((login_accepted_when 100 _ [.tick 60000, .accept 8] rfl (by decide) 5 8).2 9
      ⟨trivial, trivial, trivial⟩ (by decide)).1
    intro timer listed
    cases listed

/-- Up to the second disconnect of a player who has returned from the first. -/
def twoRounds : List Event := [.gameRegister 0 1, .accept 7, .addToWait 5 9, .loginGame 7 5,
  .close 7, .tick 60000, .accept 8, .loginGame 8 5, .tick 180000]

/-- The reconnect timer of the first disconnect takes the place of the second. -/
theorem second_round_refused :
    ∃ g, g = run step (start 100) twoRounds ∧ Disconnects g 8 5 1 ∧
      EveryStep step (Undisturbed 5) (step g (.close 8)) [.tick 60000, .accept 9] ∧
      EveryStep step (StaysUp 1) (step g (.close 8)) [.tick 60000, .accept 9] ∧
      elapsed [.tick 60000, .accept 9] < waiteReconnectTime ∧
      ((run step (step g (.close 8)) [.tick 60000, .accept 9]).checkConn 5 9).1 = false := by
  refine ⟨_, rfl, ⟨rfl, rfl, by decide⟩, ?_, ?_, by decide, by decide⟩
  · exact ⟨trivial, trivial, trivial⟩
  · exact ⟨trivial, trivial, trivial⟩

end GateReconnect
