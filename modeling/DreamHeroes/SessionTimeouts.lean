import DreamHeroes.GateServer
import DreamHeroes.LabelledRuns

/- The close events of the user sessions of the gate: what setState adds, changes and removes,
   and the turns of the event holder in which they fire. -/
namespace SessionTimeouts

open GateServer ObjMap LabelledRuns

def waitAccountDataTime : Nat := 20 * 1000
def waitCloseTime : Nat := 1 * 1000

/- An event of type EVENT_USER_SESSION_CLOSE in m_events. It repeats once and deletes its
   object, so that it stays in the table, deleted, after it has fired. -/
structure CloseEvent where
  currTime : Nat
  deleted : Bool
  deriving DecidableEq, Repr

def eventHasEvent (events : List CloseEvent) : Bool := events.any fun e => !e.deleted

def eventModifyTimeAndTimeLeft (events : List CloseEvent) (time : Nat) : List CloseEvent :=
  events.map fun e => { e with currTime := time }

def eventAddEvent (events : List CloseEvent) (time : Nat) : List CloseEvent :=
  events ++ [⟨time, false⟩]

/- UserSession::setState -/
def setState (state : SessionState) (events : List CloseEvent) : List CloseEvent :=
  match state with
  | .disable => []
  | .waitAccount => eventAddEvent events waitAccountDataTime
  | .connect => if eventHasEvent events then [] else events
  | .waitClose =>
      if eventHasEvent events then eventModifyTimeAndTimeLeft events waitCloseTime
      else eventAddEvent events waitCloseTime

/- EventableObjectHolder::update on one event -/
def update (diff : Nat) (e : CloseEvent) : CloseEvent :=
  if e.deleted then e
  else if e.currTime ≤ diff then { e with deleted := true }
  else { e with currTime := e.currTime - diff }

def fires (diff : Nat) (e : CloseEvent) : Bool := !e.deleted && e.currTime ≤ diff

/- The state that the handler of the event hands to setState of the session, if it does. -/
def called (g : Gate) (event : Event) (p : SessionPtr) : Option SessionState :=
  match event with
  | .accept q => if q = p ∧ (g.sessions p).state = .disable then some .waitAccount else none
  | .loginGame q t =>
      if q = p ∧ (g.sessions p).state ≠ .disable ∧ (g.sessions p).state ≠ .connect then
        some (if (g.checkConn t p).1 then .connect else .waitClose)
      else none
  | .close q => if q = p then some .disable else none
  | .gameClose c =>
      if g.FreesSlot c (g.clients c).gameId ∧ p ∈ g.onlines.entries.map (·.2) ∧
        (g.sessions p).gsId = (g.clients c).gameId then some .waitClose else none
  | _ => none

/- closed is a history value: setClose has run on the connection that the session has now. -/
structure Timed where
  gate : Gate
  events : SessionPtr → List CloseEvent
  closed : SessionPtr → Bool

def eventsAfter (w : Timed) (event : Event) (p : SessionPtr) : List CloseEvent :=
  match event, called w.gate event p with
  | .tick diff, _ => (w.events p).map (update diff)
  | _, some state => setState state (w.events p)
  | _, none => w.events p

def closedAfter (w : Timed) (event : Event) (p : SessionPtr) : Bool :=
  match event, called w.gate event p with
  | .tick diff, _ => w.closed p || (w.events p).any (fires diff)
  | .accept _, some _ => false
  | _, _ => w.closed p

def step (w : Timed) (event : Event) : Timed where
  gate := GateServer.step w.gate event
  events := eventsAfter w event
  closed := closedAfter w event

def start (gsIdleMax : Nat) : Timed where
  gate := GateServer.start gsIdleMax
  events := fun _ => []
  closed := fun _ => false

/-- The times left of the events that have not fired. -/
def pending (events : List CloseEvent) : List Nat :=
  (events.filter fun e => !e.deleted).map (·.currTime)

variable {events : List CloseEvent} {w : Timed} {p : SessionPtr} {event : Event}

theorem eventHasEvent_iff : eventHasEvent events = true ↔ pending events ≠ [] := by
  simp [eventHasEvent, pending, List.filter_eq_nil_iff]

@[simp] theorem pending_nil : pending [] = [] := rfl

@[simp] theorem pending_add (time : Nat) :
    pending (eventAddEvent events time) = pending events ++ [time] := by
  simp [pending, eventAddEvent]

@[simp] theorem pending_modify (time : Nat) :
    pending (eventModifyTimeAndTimeLeft events time) = (pending events).map fun _ => time := by
  simp [pending, eventModifyTimeAndTimeLeft, List.filter_map, Function.comp_def]

theorem pending_update (diff : Nat) : pending (events.map (update diff)) =
    (pending events).filterMap fun n => if n ≤ diff then none else some (n - diff) := by
  induction events with
  | nil => rfl
  | cons e rest ih =>
    obtain ⟨time, deleted⟩ := e
    cases deleted with
    | true => simpa [pending, update] using ih
    | false =>
      by_cases due : time ≤ diff
      · simpa [pending, update, due] using ih
      · simpa [pending, update, due] using ih

theorem fires_iff (diff : Nat) :
    events.any (fires diff) = true ↔ ∃ n ∈ pending events, n ≤ diff := by
  simp only [List.any_eq_true, fires, pending, List.mem_map, List.mem_filter, Bool.and_eq_true,
    Bool.not_eq_true', decide_eq_true_eq]
  constructor
  · intro ⟨e, member, alive, due⟩
    exact ⟨e.currTime, ⟨e, ⟨member, alive⟩, rfl⟩, due⟩
  · intro ⟨n, ⟨e, ⟨member, alive⟩, same⟩, due⟩
    exact ⟨e, member, alive, by rwa [same]⟩

theorem pending_setState (state : SessionState) :
    pending (setState state events) = match state with
      | .disable => []
      | .waitAccount => pending events ++ [waitAccountDataTime]
      | .connect => []
      | .waitClose =>
          if pending events = [] then [waitCloseTime]
          else (pending events).map fun _ => waitCloseTime := by
  cases state with
  | disable => rfl
  | waitAccount => exact pending_add _
  | connect =>
    simp only [setState]
    split
    · rfl
    · rename_i quiet
      rw [eventHasEvent_iff, not_not] at quiet
      exact quiet
  | waitClose =>
    simp only [setState]
    split
    · rename_i alive
      rw [if_neg (eventHasEvent_iff.mp alive), pending_modify]
    · rename_i quiet
      rw [eventHasEvent_iff, not_not] at quiet
      rw [if_pos quiet, pending_add, quiet, List.nil_append]

theorem setState_state (g : Gate) (q : SessionPtr) (state : SessionState) :
    ((g.setState q state).sessions p).state = if p = q then state else (g.sessions p).state := by
  have placed : ∀ user : UserSession, user.state = state →
      ((g.setSession q user).sessions p).state = if p = q then state else (g.sessions p).state := by
    intro user same
    rw [Gate.setSession_sessions]
    split
    · exact same
    · rfl
  cases state with
  | disable => exact placed _ rfl
  | waitAccount => exact placed _ rfl
  | connect => exact placed _ rfl
  | waitClose => exact placed _ rfl

theorem login_state {g : Gate} {q : SessionPtr} {t : TranId} (fresh : (g.sessions q).state ≠ .connect) :
    ((g.parseLoginGame q t).sessions p).state =
      if p = q then (if (g.checkConn t q).1 then .connect else .waitClose)
      else (g.sessions p).state := by
  have answer : (g.checkConn t q).1 = true ↔ _ := Gate.checkConn_true_iff
  have outcome := Gate.parseLoginGame_login t fresh
  generalize g.parseLoginGame q t = h at outcome
  cases outcome with
  | noServer waiting idle =>
    simp only [waiting, idle] at answer
    by_cases here : p = q
    · simp [here, answer]
    · simp [here]
  | admitted log waiting idle =>
    simp only [waiting, idle] at answer
    by_cases here : p = q
    · simp [here, answer]
    · simp [here]
  | returned notWaiting recon =>
    simp only [notWaiting, recon] at answer
    by_cases here : p = q
    · simp [here, answer]
    · simp [here]
  | unknown notWaiting noRecon =>
    simp only [notWaiting, noRecon] at answer
    by_cases here : p = q
    · simp [here, answer]
    · simp [here]

theorem tick_sessions (g : Gate) (diff : Nat) : (g.tick diff).sessions = g.sessions := by
  apply Gate.tick_invariant (fun h => h.sessions = g.sessions)
  · intro h events same
    exact same
  · intro h same timer _ _
    cases timer.call with
    | removeWait t => exact same
    | removeReconn t =>
      obtain ⟨log, forgotten⟩ := h.eventCallRemoveReconn_eq t
      rw [Gate.execute, forgotten]
      exact same
  · rfl

theorem checkClose_sessions (g : Gate) (p : SessionPtr) : (g.checkClose p).sessions = g.sessions := by
  have sends : ∀ (h : Gate) client message, (h.send client message).sessions = h.sessions := by
    intro h client message
    obtain ⟨log, sent⟩ := h.send_eq client message
    rw [sent]
  simp only [Gate.checkClose, Gate.addEvent]
  split
  · exact sends _ _ _
  · exact sends _ _ _

theorem kickUser_sessions (g : Gate) (t : TranId) (a : Account) :
    (g.kickUser t a).sessions = g.sessions := by
  cases online : getData g.onlines t with
  | some q =>
    obtain ⟨log, kicked⟩ := Gate.kickUser_online a online
    rw [kicked]
  | none =>
    obtain ⟨log, kicked⟩ := Gate.kickUser_offline a online
    rw [kicked]

theorem addToWait_sessions (g : Gate) (t : TranId) (a : Account) :
    (g.addToWait t a).sessions = g.sessions := by
  cases online : getData g.onlines t with
  | some q =>
    obtain ⟨log, added⟩ := Gate.addToWait_online a online
    rw [added]
  | none => rw [Gate.addToWait_offline a online]

/-- The states of the sessions are the ones last handed to setState. -/
theorem step_state (g : Gate) (event : Event) (p : SessionPtr) :
    ((GateServer.step g event).sessions p).state =
      (called g event p).getD (g.sessions p).state := by
  cases event with
  | accept q =>
    simp only [GateServer.step, called]
    by_cases here : q = p
    · subst here
      by_cases free : (g.sessions q).state = .disable
      · simp [free, setState_state]
      · simp [free]
    · have apart : ¬ p = q := fun same => here same.symm
      split
      · simp [setState_state, here, apart]
      · simp [here]
  | loginGame q t =>
    simp only [GateServer.step, called]
    by_cases closed : (g.sessions q).state = .disable
    · by_cases here : q = p
      · subst here
        simp [closed]
      · simp [closed, here]
    · by_cases connected : (g.sessions q).state = .connect
      · by_cases here : q = p
        · subst here
          simp [Gate.parseLoginGame, connected]
        · simp [Gate.parseLoginGame, connected, here]
      · rw [if_neg closed, login_state connected]
        by_cases here : q = p
        · subst here
          simp [closed, connected]
        · have apart : ¬ p = q := fun same => here same.symm
          simp [here, apart]
  | gameMsg q =>
    simp only [GateServer.step, called, Option.getD_none]
    split
    · rfl
    · obtain ⟨log, sent⟩ := g.send_eq (g.getGameClient (g.sessions q).gsId)
        (.client (g.sessions q).tranid)
      rw [Gate.parseGameMsg, sent]
  | close q =>
    rw [GateServer.step, Gate.onClose, setState_state]
    by_cases here : q = p
    · simp [here, called]
    · have apart : ¬ p = q := fun same => here same.symm
      rw [if_neg apart, checkClose_sessions, called, if_neg here]
      rfl
  | addToWait t a => rw [GateServer.step, addToWait_sessions]; rfl
  | kickUser t a => rw [GateServer.step, kickUser_sessions]; rfl
  | tick diff => rw [GateServer.step, tick_sessions]; rfl
  | gameRegister c serverid =>
    simp only [GateServer.step, Gate.parseGameRegister]
    split
    · rfl
    · rfl
  | gameOnlines c onlines => rfl
  | changeGS c gameserverid flag =>
    obtain ⟨log, kept | ⟨q, gs, _, _, moved⟩⟩ := g.parseChangeGS_cases c gameserverid flag
    · rw [GateServer.step, kept]
      rfl
    · rw [GateServer.step, moved, Gate.setSession_sessions]
      split
      · rename_i here
        rw [here]
        rfl
      · rfl
  | gameClose c =>
    simp only [GateServer.step, called]
    by_cases frees : g.FreesSlot c (g.clients c).gameId
    · rw [Gate.removeActiveGameClient_frees frees]
      by_cases bound : p ∈ g.onlines.entries.map (·.2) ∧ (g.sessions p).gsId = (g.clients c).gameId
      · rw [if_pos ⟨frees, bound⟩]
        change (g.closeBound (g.clients c).gameId p).state = .waitClose
        rw [Gate.closeBound, if_pos bound]
      · rw [if_neg fun all => bound all.2]
        change (g.closeBound (g.clients c).gameId p).state = _
        rw [Gate.closeBound, if_neg bound]
        rfl
    · rw [Gate.removeActiveGameClient_other frees, if_neg]
      · rfl
      · exact fun all => frees all.1

/-- How long a session may stay in the state. -/
def limit : SessionState → Nat
  | .waitAccount => waitAccountDataTime
  | .waitClose => waitCloseTime
  | _ => 0

/-- The session has a connection and nobody is logged in on it. -/
def Waits (state : SessionState) : Prop := state = .waitAccount ∨ state = .waitClose

/-- Nothing is pending for a session that does not wait, and for one that does one event,
unless that one has fired. -/
structure Fits (state : SessionState) (closed : Bool) (left : List Nat) : Prop where
  quiet : ¬ Waits state → left = []
  waits : Waits state → (closed = true ∧ left = []) ∨
    ∃ n, 0 < n ∧ n ≤ limit state ∧ left = [n]

def Timely (w : Timed) : Prop :=
  ∀ p, Fits (w.gate.sessions p).state (w.closed p) (pending (w.events p))

theorem eventsAfter_called {state : SessionState} (calls : called w.gate event p = some state) :
    eventsAfter w event p = setState state (w.events p) := by
  cases event with
  | tick diff => cases calls
  | _ => simp only [eventsAfter, calls]

theorem eventsAfter_quiet (quiet : called w.gate event p = none)
    (still : ∀ diff, event ≠ .tick diff) : eventsAfter w event p = w.events p := by
  cases event with
  | tick diff => exact absurd rfl (still diff)
  | _ => simp only [eventsAfter, quiet]

theorem Fits.few {state : SessionState} {closed : Bool} {left : List Nat}
    (fits : Fits state closed left) : left = [] ∨ ∃ n, left = [n] := by
  by_cases waiting : Waits state
  · rcases fits.waits waiting with ⟨_, none⟩ | ⟨n, _, _, one⟩
    · exact .inl none
    · exact .inr ⟨n, one⟩
  · exact .inl (fits.quiet waiting)

/-- A session that has just been told to wait for its close has the whole time before it. -/
theorem pending_waitClose {state : SessionState} {closed : Bool} (fits : Fits state closed (pending events)) :
    pending (setState .waitClose events) = [waitCloseTime] := by
  rw [pending_setState]
  rcases fits.few with none | ⟨n, one⟩
  · simp [none]
  · simp [one]

theorem called_accept {q : SessionPtr} {state : SessionState}
    (calls : called w.gate (.accept q) p = some state) :
    state = .waitAccount ∧ (w.gate.sessions p).state = .disable := by
  simp only [called] at calls
  split at calls
  · rename_i free
    cases calls
    exact ⟨rfl, free.2⟩
  · cases calls

theorem called_later {state : SessionState} (calls : called w.gate event p = some state)
    (later : ∀ q, event ≠ .accept q) : state ≠ .waitAccount := by
  cases event with
  | accept q => exact absurd rfl (later q)
  | loginGame q t =>
    simp only [called] at calls
    split at calls
    · cases calls
      split <;> simp
    · cases calls
  | close q =>
    simp only [called] at calls
    split at calls
    · cases calls
      simp
    · cases calls
  | gameClose c =>
    simp only [called] at calls
    split at calls
    · cases calls
      simp
    · cases calls
  | _ => cases calls

theorem fits_update {state : SessionState} {closed : Bool} (diff : Nat)
    (fits : Fits state closed (pending events)) :
    Fits state (closed || events.any (fires diff)) (pending (events.map (update diff))) where
  quiet := by
    intro still
    rw [pending_update, fits.quiet still]
    rfl
  waits := by
    intro waiting
    rw [pending_update]
    rcases fits.waits waiting with ⟨told, none⟩ | ⟨n, positive, small, one⟩
    · exact .inl ⟨by simp [told], by simp [none]⟩
    · by_cases due : n ≤ diff
      · have fired : events.any (fires diff) = true :=
          (fires_iff diff).mpr ⟨n, by simp [one], due⟩
        exact .inl ⟨by simp [fired], by simp [one, due]⟩
      · exact .inr ⟨n - diff, by omega, by omega, by simp [one, due]⟩

theorem timely_step (event : Event) (timely : Timely w) : Timely (step w event) := by
  intro p
  have fits := timely p
  simp only [step, step_state]
  cases calls : called w.gate event p with
  | none =>
    cases event with
    | tick diff => exact fits_update diff fits
    | _ => simpa [eventsAfter, closedAfter, calls] using fits
  | some state =>
    rw [eventsAfter_called calls, Option.getD_some]
    have left : pending (setState state (w.events p)) = _ := pending_setState state
    cases state with
    | disable => exact ⟨fun _ => left, by simp [Waits]⟩
    | connect => exact ⟨fun _ => left, by simp [Waits]⟩
    | waitClose =>
      exact ⟨by simp [Waits], fun _ => .inr ⟨_, by decide, Nat.le_refl _, pending_waitClose fits⟩⟩
    | waitAccount =>
      have accepts : ∃ q, event = .accept q := by
        by_contra none
        exact called_later calls (fun q same => none ⟨q, same⟩) rfl
      obtain ⟨q, same⟩ := accepts
      subst same
      have free := (called_accept calls).2
      have before := fits.quiet (by simp [Waits, free])
      refine ⟨by simp [Waits], fun _ => .inr ⟨_, by decide, Nat.le_refl _, ?_⟩⟩
      rw [left, before]
      rfl

theorem timely_start (gsIdleMax : Nat) : Timely (start gsIdleMax) :=
  fun _ => ⟨fun _ => rfl, by simp [Waits, start, GateServer.start]⟩

theorem timely_run (gsIdleMax : Nat) (events : List Event) :
    Timely (run step (start gsIdleMax) events) :=
  run_of_every (fun _ event => timely_step event) (timely_start gsIdleMax) events

/-- No handler hands a state to setState of the session. -/
def Leaves (p : SessionPtr) (w : Timed) (event : Event) : Prop := called w.gate event p = none

/-- The time that the turns of the event holder add up to. -/
def elapsed : List Event → Nat
  | [] => 0
  | .tick diff :: rest => diff + elapsed rest
  | _ :: rest => elapsed rest

theorem closed_stays (leaves : Leaves p w event) (told : w.closed p = true) :
    (step w event).closed p = true := by
  have quiet : called w.gate event p = none := leaves
  cases event with
  | tick diff => simp [step, closedAfter, told]
  | accept q => simpa [step, closedAfter, quiet] using told
  | _ => exact told

/-- Only a turn of the event holder runs setClose. -/
theorem closed_before (still : ∀ diff, event ≠ .tick diff) (told : (step w event).closed p = true) :
    w.closed p = true := by
  cases event with
  | tick diff => exact absurd rfl (still diff)
  | accept q =>
    cases calls : called w.gate (.accept q) p with
    | none => simpa [step, closedAfter, calls] using told
    | some state => simp [step, closedAfter, calls] at told
  | _ => exact told

theorem closed_run {acts : List Event} (leaves : EveryStep step (Leaves p) w acts)
    (told : w.closed p = true) : (run step w acts).closed p = true :=
  run_of_everyStep (fun w => w.closed p = true) (fun _ _ told leaves => closed_stays leaves told)
    told leaves

/-- What is pending goes off once that much time has passed, and not before. -/
theorem closed_iff_elapsed {acts : List Event} {n : Nat} (positive : 0 < n)
    (left : pending (w.events p) = [n]) (opened : w.closed p = false)
    (leaves : EveryStep step (Leaves p) w acts) :
    (run step w acts).closed p = true ↔ n ≤ elapsed acts := by
  induction acts generalizing w n with
  | nil =>
    simp only [run, opened, elapsed]
    simp
    omega
  | cons event rest ih =>
    obtain ⟨now, later⟩ := leaves
    have quiet : called w.gate event p = none := now
    by_cases ticks : ∃ diff, event = .tick diff
    · obtain ⟨diff, same⟩ := ticks
      subst same
      by_cases due : n ≤ diff
      · have told : (step w (.tick diff)).closed p = true := by
          have fired : (w.events p).any (fires diff) = true :=
            (fires_iff diff).mpr ⟨n, by simp [left], due⟩
          simp [step, closedAfter, fired]
        simp only [run, closed_run later told, elapsed, true_iff]
        omega
      · have still : (step w (.tick diff)).closed p = false := by
          have unfired : ¬ (w.events p).any (fires diff) = true := by
            rw [fires_iff, left]
            simpa using due
          simpa [step, closedAfter, opened] using unfired
        have less : pending ((step w (.tick diff)).events p) = [n - diff] := by
          simp [step, eventsAfter, pending_update, left, due]
        rw [run, ih (by omega) less still later, elapsed]
        omega
    · have still : ∀ diff, event ≠ .tick diff := fun diff same => ticks ⟨diff, same⟩
      have same : pending ((step w event).events p) = [n] := by
        change pending (eventsAfter w event p) = [n]
        rw [eventsAfter_quiet quiet still]
        exact left
      have opens : (step w event).closed p = false := by
        rw [← Bool.not_eq_true] at opened ⊢
        exact fun told => opened (closed_before still told)
      have time : elapsed (event :: rest) = elapsed rest := by
        cases event with
        | tick diff => exact absurd rfl (still diff)
        | _ => rfl
      rw [run, ih positive same opens later, time]

/-- A session on which nobody logs in has a time, at most twenty seconds and one second after
a refused login, and setClose runs exactly when the turns of the event holder add up to it. -/
theorem idle_session_closed (gsIdleMax : Nat) (before : List Event) (p : SessionPtr)
    (waits : Waits ((run step (start gsIdleMax) before).gate.sessions p).state)
    (opened : (run step (start gsIdleMax) before).closed p = false) :
    ∃ n, 0 < n ∧ n ≤ limit ((run step (start gsIdleMax) before).gate.sessions p).state ∧
      ∀ events, EveryStep step (Leaves p) (run step (start gsIdleMax) before) events →
        ((run step (run step (start gsIdleMax) before) events).closed p = true ↔
          n ≤ elapsed events) := by
  rcases (timely_run gsIdleMax before p).waits waits with ⟨told, _⟩ | ⟨n, positive, small, left⟩
  · rw [opened] at told
    cases told
  · exact ⟨n, positive, small, fun events leaves =>
      closed_iff_elapsed positive left opened leaves⟩

theorem accepted_session_closed :
    ∃ n, 0 < n ∧ n ≤ limit ((run step (start 100) [.accept 7]).gate.sessions 7).state ∧
      ∀ events, EveryStep step (Leaves 7) (run step (start 100) [.accept 7]) events →
        ((run step (run step (start 100) [.accept 7]) events).closed 7 = true ↔
          n ≤ elapsed events) :=
  idle_session_closed 100 [.accept 7] 7 (.inl rfl) rfl

/-- The handler of the event refuses the session a login, or does not touch it. -/
def Refuses (p : SessionPtr) (w : Timed) (event : Event) : Prop :=
  called w.gate event p = none ∨ called w.gate event p = some .waitClose

/-- Less than the time passes before the session's next login, and less than a second before
each login after that. -/
def Patient (p : SessionPtr) : Nat → List Event → Prop
  | _, [] => True
  | left, .tick diff :: rest => diff < left ∧ Patient p (left - diff) rest
  | left, .loginGame q _ :: rest => Patient p (if q = p then waitCloseTime else left) rest
  | left, _ :: rest => Patient p left rest

theorem refused_patient {acts : List Event} {n left : Nat} (timely : Timely w)
    (waits : Waits (w.gate.sessions p).state) (opened : w.closed p = false)
    (remains : pending (w.events p) = [n]) (enough : left ≤ n) (short : left ≤ waitCloseTime)
    (refuses : EveryStep step (Refuses p) w acts) (patient : Patient p left acts) :
    (run step w acts).closed p = false := by
  induction acts generalizing w n left with
  | nil => exact opened
  | cons event rest ih =>
    obtain ⟨now, later⟩ := refuses
    have waiting : Waits ((step w event).gate.sessions p).state := by
      simp only [step, step_state]
      rcases now with quiet | calls
      · rwa [quiet]
      · rw [calls]
        exact .inr rfl
    have next := timely_step event timely
    by_cases ticks : ∃ diff, event = .tick diff
    · obtain ⟨diff, same⟩ := ticks
      subst same
      obtain ⟨early, patient⟩ := patient
      have unfired : ¬ (w.events p).any (fires diff) = true := by
        rw [fires_iff, remains]
        simp
        omega
      have less : pending ((step w (.tick diff)).events p) = [n - diff] := by
        have due : ¬ n ≤ diff := by omega
        simp [step, eventsAfter, pending_update, remains, due]
      exact ih next waiting (by simpa [step, closedAfter, opened] using unfired) less
        (by omega) (by omega) later patient
    · have still : ∀ diff, event ≠ .tick diff := fun diff same => ticks ⟨diff, same⟩
      have opens : (step w event).closed p = false := by
        rw [← Bool.not_eq_true] at opened ⊢
        exact fun told => opened (closed_before still told)
      rcases now with quiet | calls
      · have same : pending ((step w event).events p) = [n] := by
          change pending (eventsAfter w event p) = [n]
          rw [eventsAfter_quiet quiet still]
          exact remains
        have patient : Patient p left rest := by
          cases event with
          | tick diff => exact absurd rfl (still diff)
          | loginGame q t =>
            have other : ¬ q = p := by
              intro here
              subst here
              rcases waits with state | state
              · simp [called, state] at quiet
              · simp [called, state] at quiet
            simpa [Patient, other] using patient
          | _ => exact patient
        exact ih next waiting opens same enough short later patient
      · have whole : pending ((step w event).events p) = [waitCloseTime] := by
          change pending (eventsAfter w event p) = [waitCloseTime]
          rw [eventsAfter_called calls]
          exact pending_waitClose (timely p)
        cases event with
        | tick diff => exact absurd rfl (still diff)
        | loginGame q t =>
          refine ih next waiting opens whole ?_ ?_ later patient
          · split
            · exact Nat.le_refl _
            · exact short
          · split
            · exact Nat.le_refl _
            · exact short
        | _ => exact ih next waiting opens whole short short later patient

/-- The close is put off without end: a session that is refused a login again before every
second has passed is never closed by its event. -/
theorem refused_session_kept (gsIdleMax : Nat) (before : List Event) (p : SessionPtr) (t : TranId)
    (acts : List Event) (waits : Waits ((run step (start gsIdleMax) before).gate.sessions p).state)
    (opened : (run step (start gsIdleMax) before).closed p = false)
    (refuses : EveryStep step (Refuses p) (run step (start gsIdleMax) before)
      (.loginGame p t :: acts)) (patient : Patient p waitCloseTime acts) :
    (run step (run step (start gsIdleMax) before) (.loginGame p t :: acts)).closed p = false := by
  have timely := timely_run gsIdleMax before
  rcases (timely p).waits waits with ⟨told, _⟩ | ⟨n, _, _, remains⟩
  · rw [opened] at told
    cases told
  · have whole : Patient p 0 (.loginGame p t :: acts) := by simpa [Patient] using patient
    exact refused_patient timely waits opened remains (Nat.zero_le n) (Nat.zero_le _) refuses whole

/-- Three seconds go by, less than one of them at a time. -/
theorem twice_refused_kept : (run step (run step (start 100) [.accept 7]) [.loginGame 7 3,
    .tick 999, .loginGame 7 3, .tick 999, .loginGame 7 3, .tick 999]).closed 7 = false :=
  refused_session_kept 100 [.accept 7] 7 3
    [.tick 999, .loginGame 7 3, .tick 999, .loginGame 7 3, .tick 999] (.inl rfl) rfl
    ⟨.inr rfl, .inl rfl, .inr rfl, .inl rfl, .inr rfl, .inl rfl, trivial⟩
    (by simp [Patient, waitCloseTime])

end SessionTimeouts
