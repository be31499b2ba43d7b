import DreamHeroes.GameTurns
import DreamHeroes.GatePlaces

/- What a game server holds of a transid and how each message of its gate changes it. -/
namespace GameHolds

open GameHero GameServer GameTalks GameTurns OrderedMaps ObjMap
open GatePlaces (Held hear join)

variable {s s' : Server} {h : HeroPtr} {event : Event} {t : TranId} {p : SessionPtr}

/-- The account of the session for the transid and whether the session is online. -/
def status (s : Server) (t : TranId) : Held :=
  (getData s.onlines t).map fun p => ((s.sessions p).account, (s.sessions p).online)

/-- What the game server makes of a message of its gate. A message of the client stands for any
request, and p is the memory the pool hands out if a session has to be made. -/
def received (p : SessionPtr) (request : ClientRequest) : GateServer.GameMessage → Event
  | .addUser t a => .addUser 0 t a p
  | .offlineUser t => .offlineUser t
  | .removeUser t => .removeUser t
  | .client t => .userMsg t request

/-- What the gate links bring. -/
def fromGate : Event → Bool
  | .gateRegister _ _ => true
  | .gateClose _ => true
  | .addUser _ _ _ _ => true
  | .offlineUser _ => true
  | .removeUser _ => true
  | .userMsg _ _ => true
  | _ => false

/-- A game server all of whose players came over its one gate link. -/
structure OneGate (s : Server) : Prop where
  valid : Valid s
  gate : ∀ t p, getData s.onlines t = some p → (s.sessions p).gate = s.gateId 0

/-- Nobody came, went or paused. -/
structure Alike (s s' : Server) : Prop where
  onlines : s'.onlines = s.onlines
  gateId : s'.gateId = s.gateId
  sessions : ∀ p, (s'.sessions p).account = (s.sessions p).account ∧
    (s'.sessions p).gate = (s.sessions p).gate ∧ (s'.sessions p).online = (s.sessions p).online

theorem Alike.trans {s'' : Server} (first : Alike s s') (later : Alike s' s'') : Alike s s'' where
  onlines := later.onlines.trans first.onlines
  gateId := later.gateId.trans first.gateId
  sessions := by
    intro p
    obtain ⟨account, gate, online⟩ := first.sessions p
    obtain ⟨account', gate', online'⟩ := later.sessions p
    exact ⟨account'.trans account, gate'.trans gate, online'.trans online⟩

theorem alike_acts (acts : Acts s s') : Alike s s' := by
  induction acts with
  | next _ _ first later => exact first.trans later
  | _ => exact ⟨rfl, rfl, fun _ => ⟨rfl, rfl, rfl⟩⟩

theorem alike_status (alike : Alike s s') (t : TranId) : status s' t = status s t := by
  unfold status
  rw [alike.onlines]
  cases getData s.onlines t with
  | none => rfl
  | some p =>
    obtain ⟨account, _, online⟩ := alike.sessions p
    rw [Option.map_some, Option.map_some, account, online]

theorem alike_gate (alike : Alike s s')
    (gate : ∀ t p, getData s.onlines t = some p → (s.sessions p).gate = s.gateId 0) :
    ∀ t p, getData s'.onlines t = some p → (s'.sessions p).gate = s'.gateId 0 := by
  intro t p online
  rw [alike.onlines] at online
  rw [(alike.sessions p).2.1, alike.gateId]
  exact gate t p online

/-- A change of a session's hero before the hero speaks. -/
theorem alike_attached {base : Server} (acts : Acts base s')
    (onlines : base.onlines = s.onlines) (gateId : base.gateId = s.gateId)
    (sessions : ∃ hero, base.sessions = Function.update s.sessions p
      { s.sessions p with dreamHero := hero }) : Alike s s' := by
  refine Alike.trans ⟨onlines, gateId, ?_⟩ (alike_acts acts)
  obtain ⟨hero, sessions⟩ := sessions
  intro q
  rw [sessions]
  by_cases here : q = p
  · simp [here]
  · simp [here]

theorem alike_local (valid : Valid s) (inside : fromGate event = false ∨ ∃ t request,
    event = .userMsg t request) : Alike s (step s event) := by
  have deed := step_deed valid event
  generalize step s event = s' at deed
  cases deed with
  | acts acts => exact alike_acts acts
  | attached _ _ _ acts => exact alike_attached acts rfl rfl ⟨_, rfl⟩
  | loaded _ _ acts => exact alike_attached acts rfl rfl ⟨_, rfl⟩
  | made _ _ acts => exact alike_attached acts rfl rfl ⟨_, rfl⟩
  | _ => simp [fromGate] at inside

/-- The session for the transid goes online or offline. -/
theorem status_switched {online : Bool} (valid : Valid s) (found : getData s.onlines t = some p)
    (alike : Alike (s.setSession p { s.sessions p with online := online }) s') (u : TranId) :
    status s' u = if t = u then some ((s.sessions p).account, online) else status s u := by
  rw [alike_status alike]
  unfold status
  by_cases here : t = u
  · subst here
    simp [Server.setSession, found]
  · rw [if_neg here]
    simp only [Server.setSession]
    cases other : getData s.onlines u with
    | none => rfl
    | some q =>
      have apart : q ≠ p := by
        rintro rfl
        exact here ((valid.online t q found).2.symm.trans (valid.online u q other).2)
      simp [apart]

theorem gate_switched {online : Bool} (one : OneGate s)
    (alike : Alike (s.setSession p { s.sessions p with online := online }) s') :
    ∀ t p, getData s'.onlines t = some p → (s'.sessions p).gate = s'.gateId 0 := by
  apply alike_gate alike
  intro u q found
  have gate := one.gate u q found
  by_cases here : q = p
  · simpa [Server.setSession, ← here] using gate
  · simpa [Server.setSession, here] using gate

theorem alike_setReconnet (p : SessionPtr) :
    Alike (s.setSession p { s.sessions p with online := true }) (s.setReconnet p) := by
  unfold Server.setReconnet
  simp only
  split
  · exact ⟨rfl, rfl, fun _ => ⟨rfl, rfl, rfl⟩⟩
  · exact ⟨rfl, rfl, fun _ => ⟨rfl, rfl, rfl⟩⟩

theorem alike_setWaitReconnet (p : SessionPtr) :
    Alike (s.setSession p { s.sessions p with online := false }) (s.setWaitReconnet p) := by
  unfold Server.setWaitReconnet
  simp only
  split
  · exact ⟨rfl, rfl, fun _ => ⟨rfl, rfl, rfl⟩⟩
  · exact ⟨rfl, rfl, fun _ => ⟨rfl, rfl, rfl⟩⟩

theorem alike_newSession (t : TranId) (a : Account) (gate : GateId) (p : SessionPtr) :
    Alike (s.setSession p ⟨t, a, gate, true, none⟩) (s.newSession p t a gate) := by
  unfold Server.newSession
  simp only
  split
  · rename_i h hero
    refine alike_attached (p := p) (acts_sendClientInit ?_) ?_ ?_ ?_
    · exact ⟨a, hero⟩
    · rfl
    · rfl
    · exact ⟨some h, by simp [Server.setSession, Server.setHero]⟩
  · exact ⟨rfl, rfl, fun _ => ⟨rfl, rfl, rfl⟩⟩

/-- A session made for a transid that had none. -/
theorem status_joined {a : Account} (valid : Valid s) (free : s.live p = false)
    (new : getData s.onlines t = none) (u : TranId) :
    status (s.addUser t a (s.gateId 0) p) u = if t = u then some (a, true) else status s u := by
  obtain ⟨onlines, gateId, sessions⟩ := alike_newSession (s := s) t a (s.gateId 0) p
  unfold status
  simp only [Server.addUser, new, getData_addData, onlines]
  by_cases here : t = u
  · subst here
    obtain ⟨account, _, online⟩ := sessions p
    simp [Server.setSession, new, account, online]
  · rw [if_neg here, if_neg here]
    simp only [Server.setSession]
    cases found : getData s.onlines u with
    | none => rfl
    | some q =>
      have apart := valid.fresh free found
      obtain ⟨account, _, online⟩ := sessions q
      simp [account, online, Server.setSession, apart]

theorem gate_joined {a : Account} (one : OneGate s) (free : s.live p = false)
    (new : getData s.onlines t = none) : ∀ u q,
    getData (s.addUser t a (s.gateId 0) p).onlines u = some q →
      ((s.addUser t a (s.gateId 0) p).sessions q).gate =
        (s.addUser t a (s.gateId 0) p).gateId 0 := by
  obtain ⟨onlines, gateId, sessions⟩ := alike_newSession (s := s) t a (s.gateId 0) p
  intro u q found
  simp only [Server.addUser, new, onlines] at found ⊢
  rw [(sessions q).2.1, gateId]
  rcases getData_addData_some found with before | ⟨_, same⟩
  · have apart := one.valid.fresh free before
    simpa [Server.setSession, apart] using one.gate u q before
  · subst same
    simp [Server.setSession]

/-- What a message of the gate should do, the handler for it does. -/
structure Heard (s s' : Server) (message : GateServer.GameMessage) : Prop where
  status : ∀ u, status s' u = hear u (status s u) message
  gate : ∀ t p, getData s'.onlines t = some p → (s'.sessions p).gate = s'.gateId 0

theorem heard_addUser (t : TranId) (a : Account) (one : OneGate s) (free : s.live p = false) :
    Heard s (s.addUser t a (s.gateId 0) p) (.addUser t a) := by
  cases found : getData s.onlines t with
  | none =>
    refine ⟨?_, gate_joined one free found⟩
    intro u
    rw [status_joined one.valid free found u, hear]
    by_cases here : t = u
    · subst here
      simp [status, found, join]
    · rw [if_neg here, if_neg here]
  | some q =>
    have gate := one.gate t q found
    have before : status s t = some ((s.sessions q).account, (s.sessions q).online) := by
      rw [status, found, Option.map_some]
    by_cases account : (s.sessions q).account = a
    · have resumed : s.addUser t a (s.gateId 0) p = s.setReconnet q := by
        simp only [Server.addUser, found]
        rw [if_pos ⟨gate, account⟩]
      rw [resumed]
      refine ⟨?_, gate_switched one (alike_setReconnet q)⟩
      intro u
      rw [status_switched one.valid found (alike_setReconnet q) u, hear]
      by_cases here : t = u
      · subst here
        simp [before, account, join]
      · rw [if_neg here, if_neg here]
    · have refused : s.addUser t a (s.gateId 0) p = s := by
        simp [Server.addUser, found, account]
      rw [refused]
      refine ⟨?_, one.gate⟩
      intro u
      rw [hear]
      by_cases here : t = u
      · subst here
        simp [before, account, join]
      · rw [if_neg here]

theorem heard_offlineUser (t : TranId) (one : OneGate s) :
    Heard s (s.offlineUser t) (.offlineUser t) := by
  cases found : getData s.onlines t with
  | none =>
    have ignored : s.offlineUser t = s := by
      simp only [Server.offlineUser, found]
    rw [ignored]
    refine ⟨?_, one.gate⟩
    intro u
    rw [hear]
    by_cases here : t = u
    · subst here
      simp [status, found]
    · rw [if_neg here]
  | some q =>
    have paused : s.offlineUser t = s.setWaitReconnet q := by
      simp only [Server.offlineUser, found]
    rw [paused]
    refine ⟨?_, gate_switched one (alike_setWaitReconnet q)⟩
    intro u
    rw [status_switched one.valid found (alike_setWaitReconnet q) u, hear]
    by_cases here : t = u
    · subst here
      simp [status, found]
    · rw [if_neg here, if_neg here]

theorem heard_removeUser (t : TranId) (one : OneGate s) :
    Heard s (s.removeUser t) (.removeUser t) := by
  cases found : getData s.onlines t with
  | none =>
    have ignored : s.removeUser t = s := by
      simp only [Server.removeUser, found]
    rw [ignored]
    refine ⟨?_, one.gate⟩
    intro u
    rw [hear]
    by_cases here : t = u
    · subst here
      simp [status, found]
    · rw [if_neg here]
  | some q =>
    simp only [Server.removeUser, found]
    constructor
    · intro u
      rw [hear]
      by_cases here : t = u
      · simp [status, here]
      · simp [status, here]
    · intro u r online
      exact one.gate u r (getData_of_eraseData online)

theorem heard_alike (one : OneGate s) (alike : Alike s s') (t : TranId) :
    Heard s s' (.client t) :=
  ⟨alike_status alike, alike_gate alike one.gate⟩

/-- A running game server takes a message as it is meant. -/
theorem heard_received (request : ClientRequest) (one : OneGate s) (running : s.crashed = false)
    (free : s.live p = false) (message : GateServer.GameMessage) :
    Heard s (step s (received p request message)) message := by
  have handled : ∀ event, step s event = handle s event := by
    intro event
    simp [step, running]
  cases message with
  | addUser t a =>
    rw [received, handled, handle, if_neg (by simp [free])]
    exact heard_addUser t a one free
  | offlineUser t =>
    rw [received, handled]
    exact heard_offlineUser t one
  | removeUser t =>
    rw [received, handled]
    exact heard_removeUser t one
  | client t => exact heard_alike one (alike_local one.valid (.inr ⟨t, request, rfl⟩)) t

theorem oneGate_step (event : Event) (one : OneGate s)
    (gate : ∀ t p, getData (step s event).onlines t = some p →
      ((step s event).sessions p).gate = (step s event).gateId 0) : OneGate (step s event) :=
  ⟨valid_step one.valid event, gate⟩

/-- A gate that registers finds nobody on a new game server. -/
theorem start_onlines (config : HeroConfig) (generateId serverid : Nat) :
    (step (start config generateId) (.gateRegister 0 serverid)).onlines = .empty := by
  obtain ⟨gates, registered⟩ := parseGateRegister_eq (start config generateId) 0 serverid
  have done : step (start config generateId) (.gateRegister 0 serverid) =
      (start config generateId).parseGateRegister 0 serverid := rfl
  rw [done, registered]
  rfl

theorem oneGate_start (config : HeroConfig) (generateId serverid : Nat) :
    OneGate (step (start config generateId) (.gateRegister 0 serverid)) := by
  apply oneGate_step
  · exact ⟨valid_start config generateId, fun t p online => by cases online⟩
  · intro t p online
    rw [start_onlines] at online
    cases online

theorem status_start (config : HeroConfig) (generateId serverid : Nat) (t : TranId) :
    status (step (start config generateId) (.gateRegister 0 serverid)) t = none := by
  unfold status
  rw [start_onlines]
  rfl

end GameHolds
