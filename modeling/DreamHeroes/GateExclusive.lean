import DreamHeroes.GateMaps

/- Which session acts for a transid: the maps exclude each other and a session is connected
   exactly when it is registered online under its own transid. -/
namespace GateExclusive

open GateServer GateMaps ObjMap LabelledRuns

structure Exclusive (g : Gate) : Prop where
  waitOnline : ∀ t, getData g.onlines t = none ∨ getData g.waitMap t = none
  waitRecon : ∀ t, getData g.waitMap t = none ∨ getData g.reconMap t = none
  onlineRecon : ∀ t, getData g.onlines t = none ∨ getData g.reconMap t = none
  registered : ∀ p, (g.sessions p).state = .connect ↔
    getData g.onlines (g.sessions p).tranid = some p
  single : ∀ p q, (g.sessions p).state = .connect → (g.sessions q).state = .connect →
    (g.sessions p).tranid = (g.sessions q).tranid → p = q
  forwards : ∀ p, (step g (.gameMsg p)).sent = g.sent ∨
    ∃ c t, (step g (.gameMsg p)).sent = g.sent ++ [(c, .client t)] ∧
      getData g.onlines t = some p

/-- What the maps need besides: entries name their session, idle sessions have no server. -/
structure Linked (g : Gate) : Prop where
  waitOnline : ∀ t, getData g.onlines t = none ∨ getData g.waitMap t = none
  waitRecon : ∀ t, getData g.waitMap t = none ∨ getData g.reconMap t = none
  onlineRecon : ∀ t, getData g.onlines t = none ∨ getData g.reconMap t = none
  connected : ∀ p, (g.sessions p).state = .connect →
    getData g.onlines (g.sessions p).tranid = some p
  named : ∀ t p, getData g.onlines t = some p →
    (g.sessions p).tranid = t ∧ (g.sessions p).state = .connect
  unbound : ∀ p, (g.sessions p).state ≠ .connect → (g.sessions p).gsId = invalidGameId

/- A transid is not admitted again or kicked while it is held, the close of a socket does not
   unregister another one, and no session is online at a game server that goes down. -/
def Orderly (g : Gate) : Event → Prop
  | .addToWait t _ => getData g.onlines t = none ∧ getData g.reconMap t = none
  | .kickUser t _ => getData g.onlines t = none
  | .close p => ∀ q, getData g.onlines (g.sessions p).tranid = some q → q = p
  | .gameClose c => g.FreesSlot c (g.clients c).gameId →
      ∀ t p, getData g.onlines t = some p → (g.sessions p).gsId ≠ (g.clients c).gameId
  | _ => True

variable {g h : Gate} {event : Event} {t : TranId}

theorem linked_forwards (linked : Linked g) (p : SessionPtr) :
    (step g (.gameMsg p)).sent = g.sent ∨
      ∃ c t, (step g (.gameMsg p)).sent = g.sent ++ [(c, .client t)] ∧
        getData g.onlines t = some p := by
  simp only [step]
  split
  · exact .inl rfl
  · unfold Gate.parseGameMsg
    cases client : g.getGameClient (g.sessions p).gsId with
    | none => exact .inl rfl
    | some c =>
      refine .inr ⟨c, (g.sessions p).tranid, rfl, linked.connected p ?_⟩
      by_contra idle
      have bound := (Gate.getGameClient_some client).1
      rw [linked.unbound p idle] at bound
      exact Nat.lt_irrefl 0 bound

theorem linked_exclusive (linked : Linked g) : Exclusive g where
  waitOnline := linked.waitOnline
  waitRecon := linked.waitRecon
  onlineRecon := linked.onlineRecon
  registered := by
    intro p
    constructor
    · exact linked.connected p
    · intro online
      exact (linked.named _ p online).2
  single := by
    intro p q connectedP connectedQ same
    have onlineP := linked.connected p connectedP
    have onlineQ := linked.connected q connectedQ
    rw [same, onlineQ] at onlineP
    exact (Option.some.inj onlineP).symm
  forwards := linked_forwards linked

theorem linked_start (gsIdleMax : Nat) : Linked (start gsIdleMax) where
  waitOnline := fun _ => .inl rfl
  waitRecon := fun _ => .inl rfl
  onlineRecon := fun _ => .inl rfl
  connected := by
    intro p connected
    cases connected
  named := by
    intro t p online
    cases online
  unbound := fun _ _ => rfl

theorem none_of_shrunk {K V : Type} [LinearOrder K] {old new : OrderedMaps.OrderedMap K V} {k : K}
    (shrunk : ∀ v, getData new k = some v → getData old k = some v)
    (absent : getData old k = none) : getData new k = none := by
  rw [Option.eq_none_iff_forall_not_mem] at absent ⊢
  intro v present
  exact absent v (shrunk v present)

/-- Losing entries of the wait and the reconnect map is harmless. -/
theorem linked_shrunk (linked : Linked g) (sessions : h.sessions = g.sessions)
    (onlines : h.onlines = g.onlines)
    (waitMap : ∀ t v, getData h.waitMap t = some v → getData g.waitMap t = some v)
    (reconMap : ∀ t gs, getData h.reconMap t = some gs → getData g.reconMap t = some gs) :
    Linked h where
  waitOnline := by
    intro t
    rw [onlines]
    exact (linked.waitOnline t).imp id (none_of_shrunk (waitMap t))
  waitRecon := by
    intro t
    exact (linked.waitRecon t).imp (none_of_shrunk (waitMap t)) (none_of_shrunk (reconMap t))
  onlineRecon := by
    intro t
    rw [onlines]
    exact (linked.onlineRecon t).imp id (none_of_shrunk (reconMap t))
  connected := by
    rw [sessions, onlines]
    exact linked.connected
  named := by
    rw [sessions, onlines]
    exact linked.named
  unbound := by
    rw [sessions]
    exact linked.unbound

/-- A session that is not connected is nowhere registered, so it may change as long as it
stays unconnected and unbound. -/
theorem linked_idle (linked : Linked g) {p : SessionPtr} {user : UserSession}
    (idle : (g.sessions p).state ≠ .connect) (stays : user.state ≠ .connect)
    (unbound : user.gsId = invalidGameId) : Linked (g.setSession p user) where
  waitOnline := linked.waitOnline
  waitRecon := linked.waitRecon
  onlineRecon := linked.onlineRecon
  connected := by
    intro q
    rw [Gate.setSession_sessions]
    split
    · intro connected
      exact absurd connected stays
    · exact linked.connected q
  named := by
    intro t q online
    have named := linked.named t q online
    rw [Gate.setSession_sessions]
    split
    · rename_i same
      exact absurd named.2 (same ▸ idle)
    · exact named
  unbound := by
    intro q
    rw [Gate.setSession_sessions]
    split
    · intro _
      exact unbound
    · exact linked.unbound q

/-- A login registers the session under a transid that was not online. -/
theorem linked_login (linked : Linked g) {p : SessionPtr} (gs : GameId)
    (idle : (g.sessions p).state ≠ .connect) (offline : getData g.onlines t = none)
    (sessions : h.sessions = g.sessions)
    (registered : ∀ k, getData h.onlines k = if t = k then some p else getData g.onlines k)
    (waitMap : ∀ k v, getData h.waitMap k = some v → getData g.waitMap k = some v)
    (reconMap : ∀ k gs, getData h.reconMap k = some gs → getData g.reconMap k = some gs)
    (notWaiting : getData h.waitMap t = none) (notRecon : getData h.reconMap t = none) :
    Linked (h.setSession p ⟨t, gs, .connect⟩) where
  waitOnline := by
    intro k
    simp only [Gate.setSession, registered]
    by_cases same : t = k
    · exact .inr (same ▸ notWaiting)
    · rw [if_neg same]
      exact (linked.waitOnline k).imp id (none_of_shrunk (waitMap k))
  waitRecon := by
    intro k
    exact (linked.waitRecon k).imp (none_of_shrunk (waitMap k)) (none_of_shrunk (reconMap k))
  onlineRecon := by
    intro k
    simp only [Gate.setSession, registered]
    by_cases same : t = k
    · exact .inr (same ▸ notRecon)
    · rw [if_neg same]
      exact (linked.onlineRecon k).imp id (none_of_shrunk (reconMap k))
  connected := by
    intro q
    rw [Gate.setSession_sessions, sessions]
    simp only [Gate.setSession, registered]
    split
    · rename_i same
      simp [same]
    · intro connected
      have registeredQ := linked.connected q connected
      have other : ¬ t = (g.sessions q).tranid := by
        intro same
        rw [← same, offline] at registeredQ
        cases registeredQ
      rw [if_neg other]
      exact registeredQ
  named := by
    intro k q
    simp only [Gate.setSession_sessions, sessions]
    simp only [Gate.setSession, registered]
    by_cases same : t = k
    · rw [if_pos same]
      intro found
      cases found
      simp [same]
    · rw [if_neg same]
      intro found
      have named := linked.named k q found
      have other : q ≠ p := by
        intro here
        exact idle (here ▸ named.2)
      rw [if_neg other]
      exact named
  unbound := by
    intro q
    rw [Gate.setSession_sessions, sessions]
    split
    · intro unconnected
      exact absurd rfl unconnected
    · exact linked.unbound q

theorem linked_close (linked : Linked g) {p : SessionPtr}
    (own : ∀ q, getData g.onlines (g.sessions p).tranid = some q → q = p)
    (sessions : h.sessions = g.sessions)
    (onlines : h.onlines = eraseData g.onlines (g.sessions p).tranid)
    (waitMap : h.waitMap = g.waitMap)
    (reconMap : ∀ k gs, getData h.reconMap k = some gs → getData g.reconMap k = some gs ∨
      (g.sessions p).tranid = k ∧ (g.sessions p).state = .connect) :
    Linked (h.setSession p Gate.freeSession) where
  waitOnline := by
    intro k
    simp only [Gate.setSession, onlines, waitMap, getData_eraseData]
    split
    · exact .inl rfl
    · exact linked.waitOnline k
  waitRecon := by
    intro k
    simp only [Gate.setSession, waitMap]
    cases recon : getData h.reconMap k with
    | none => exact .inr rfl
    | some gs =>
      refine .inl ?_
      rcases reconMap k gs recon with old | ⟨same, connected⟩
      · exact (linked.waitRecon k).resolve_right (by simp [old])
      · have online := linked.connected p connected
        exact (linked.waitOnline k).resolve_left (by simp [← same, online])
  onlineRecon := by
    intro k
    simp only [Gate.setSession, onlines, getData_eraseData]
    split
    · exact .inl rfl
    · rename_i other
      refine (linked.onlineRecon k).imp id ?_
      intro notRecon
      rw [Option.eq_none_iff_forall_not_mem]
      intro gs recon
      rcases reconMap k gs recon with old | ⟨same, _⟩
      · rw [notRecon] at old
        cases old
      · exact other same
  connected := by
    intro q
    simp only [Gate.setSession_sessions, sessions]
    simp only [Gate.setSession, onlines, getData_eraseData]
    split
    · intro connected
      cases connected
    · rename_i other
      intro connected
      have online := linked.connected q connected
      rw [if_neg]
      · exact online
      · intro same
        exact other (own q (same ▸ online))
  named := by
    intro k q
    simp only [Gate.setSession_sessions, sessions]
    simp only [Gate.setSession, onlines, getData_eraseData]
    split
    · intro online
      cases online
    · rename_i other
      intro online
      have named := linked.named k q online
      rw [if_neg]
      · exact named
      · intro here
        exact other (here ▸ named.1)
  unbound := by
    intro q
    rw [Gate.setSession_sessions, sessions]
    split
    · intro _
      rfl
    · exact linked.unbound q

theorem linked_moved (linked : Linked g) {p : SessionPtr} {flag : TranId} (gs : GameId)
    (online : getData g.onlines flag = some p) :
    Linked (g.setSession p { g.sessions p with gsId := gs }) where
  waitOnline := linked.waitOnline
  waitRecon := linked.waitRecon
  onlineRecon := linked.onlineRecon
  connected := by
    intro q
    rw [Gate.setSession_sessions]
    split
    · rename_i same
      subst same
      exact linked.connected q
    · exact linked.connected q
  named := by
    intro t q found
    rw [Gate.setSession_sessions]
    split
    · rename_i same
      subst same
      exact linked.named t q found
    · exact linked.named t q found
  unbound := by
    intro q
    rw [Gate.setSession_sessions]
    split
    · intro unconnected
      exact absurd (linked.named flag p online).2 unconnected
    · exact linked.unbound q

theorem closeBound_unbound {gs : GameId}
    (free : ∀ t p, getData g.onlines t = some p → (g.sessions p).gsId ≠ gs) :
    g.closeBound gs = g.sessions := by
  funext q
  rw [Gate.closeBound, if_neg]
  rintro ⟨listed, bound⟩
  obtain ⟨entry, member, rfl⟩ := List.mem_map.mp listed
  exact free entry.1 entry.2 (OrderedMaps.OrderedMap.find?_eq_some.mpr member) bound

theorem linked_loggedIn {p : SessionPtr} (linked : Linked g)
    (fresh : (g.sessions p).state ≠ .connect) (outcome : g.Login p t h) : Linked h := by
  cases outcome with
  | noServer waiting idle =>
    have lost : Linked { g with waitMap := eraseData g.waitMap t } := by
      apply linked_shrunk linked
      · rfl
      · rfl
      · exact fun _ _ => getData_of_eraseData
      · exact fun _ _ old => old
    exact linked_idle lost fresh (by simp) (linked.unbound p fresh)
  | @admitted v c log waiting idle =>
    have offline := (linked.waitOnline t).resolve_right (by simp [waiting])
    have notRecon := (linked.waitRecon t).resolve_left (by simp [waiting])
    apply linked_login linked _ fresh offline
    · rfl
    · intro k
      simp [offline]
    · exact fun _ _ => getData_of_eraseData
    · exact fun _ _ old => old
    · simp
    · exact notRecon
  | @returned gs notWaiting recon =>
    have offline := (linked.onlineRecon t).resolve_right (by simp [recon])
    apply linked_login linked _ fresh offline
    · rfl
    · intro k
      simp [offline]
    · exact fun _ _ old => old
    · exact fun _ _ => getData_of_eraseData
    · exact notWaiting
    · simp
  | unknown notWaiting noRecon =>
    exact linked_idle linked fresh (by simp) (linked.unbound p fresh)

theorem linked_turn (turn : Turn g event h) (orderly : Orderly g event) (linked : Linked g) :
    Linked h := by
  cases turn with
  | accepted free =>
    apply linked_idle linked
    · simp [free]
    · simp
    · exact linked.unbound _ (by simp [free])
  | login live fresh outcome => exact linked_loggedIn linked fresh outcome
  | @closeKeeps p log keeps =>
    apply linked_close linked orderly
    · rfl
    · rfl
    · rfl
    · intro k gs recon
      simp only [getData_addData] at recon
      split at recon
      · rename_i same
        exact .inr ⟨same, keeps.2⟩
      · exact .inl recon
  | closeDrops log drops =>
    apply linked_close linked orderly
    · rfl
    · rfl
    · rfl
    · exact fun _ _ recon => .inl recon
  | @waits t a offline =>
    refine ⟨?_, ?_, linked.onlineRecon, linked.connected, linked.named, linked.unbound⟩
    · intro k
      by_cases same : t = k
      · exact .inl (same ▸ offline)
      · simpa [same] using linked.waitOnline k
    · intro k
      by_cases same : t = k
      · exact .inr (same ▸ orderly.2)
      · simpa [same] using linked.waitRecon k
  | waitsKicked log online =>
    have offline := orderly.1
    rw [online] at offline
    cases offline
  | kicked log online =>
    have offline : getData g.onlines _ = none := orderly
    rw [online] at offline
    cases offline
  | forgotten log offline =>
    apply linked_shrunk linked
    · rfl
    · rfl
    · exact fun _ _ => getData_of_eraseData
    · exact fun _ _ => getData_of_eraseData
  | ticked diff =>
    have shrunk := tick_shrunk g diff
    exact linked_shrunk linked shrunk.sessions shrunk.onlines shrunk.waitMap shrunk.reconMap
  | ignored => exact linked
  | logged log => exact linked_shrunk linked rfl rfl (fun _ _ old => old) fun _ _ old => old
  | counted clients =>
    exact linked_shrunk linked rfl rfl (fun _ _ old => old) fun _ _ old => old
  | registered clients gs inRange =>
    exact linked_shrunk linked rfl rfl (fun _ _ old => old) fun _ _ old => old
  | @moved c gameserverid flag p gs log online client =>
    have same : Linked { g with sent := log } :=
      linked_shrunk linked rfl rfl (fun _ _ old => old) fun _ _ old => old
    exact linked_moved same gs online
  | @freed c gs frees =>
    have bound : g.closeBound gs = g.sessions := by
      apply closeBound_unbound
      have own := frees.1
      subst own
      exact orderly frees
    apply linked_shrunk linked
    · exact bound
    · rfl
    · exact fun _ _ old => old
    · intro k v old
      exact (getData_eraseValue.mp old).1

/-- The transid of an online session cannot leave m_onlines without the session noticing. -/
theorem exclusive_keeps_online {p : SessionPtr} (linked : Linked g) (exclusive : Exclusive h)
    (online : getData g.onlines t = some p) (session : h.sessions p = g.sessions p) :
    getData h.onlines t = some p := by
  have named := linked.named t p online
  have registered := (exclusive.registered p).mp (by rw [session]; exact named.2)
  rwa [session, named.1] at registered

theorem exclusive_orderly (linked : Linked g) (exclusive : Exclusive (step g event)) :
    Orderly g event := by
  cases event with
  | addToWait t a =>
    cases online : getData g.onlines t with
    | some p =>
      obtain ⟨log, waiting⟩ := Gate.addToWait_online a online
      rw [step, waiting] at exclusive
      have kept := exclusive_keeps_online linked exclusive online rfl
      simp at kept
    | none =>
      rw [step, Gate.addToWait_offline a online] at exclusive
      refine ⟨online, ?_⟩
      exact (exclusive.waitRecon t).resolve_left (by simp)
  | kickUser t a =>
    cases online : getData g.onlines t with
    | some p =>
      obtain ⟨log, gone⟩ := Gate.kickUser_online a online
      rw [step, gone] at exclusive
      have kept := exclusive_keeps_online linked exclusive online rfl
      simp at kept
    | none => exact online
  | close p =>
    intro q online
    by_contra other
    have onlines : (step g (.close p)).onlines = eraseData g.onlines (g.sessions p).tranid ∧
        (step g (.close p)).sessions q = g.sessions q := by
      by_cases keeps : g.KeepsPlace p
      · obtain ⟨log, closed⟩ := Gate.onClose_keeps keeps
        rw [step, closed]
        exact ⟨rfl, by simp [other]⟩
      · obtain ⟨log, closed⟩ := Gate.onClose_drops keeps
        rw [step, closed]
        exact ⟨rfl, by simp [other]⟩
    have kept := exclusive_keeps_online linked exclusive online onlines.2
    rw [onlines.1] at kept
    simp at kept
  | gameClose c =>
    intro frees t p online bound
    rw [step, Gate.removeActiveGameClient_frees frees] at exclusive
    have listed : p ∈ g.onlines.entries.map (·.2) :=
      List.mem_map.mpr ⟨(t, p), OrderedMaps.OrderedMap.find?_eq_some.mp online, rfl⟩
    have marked : g.closeBound (g.clients c).gameId p =
        { g.sessions p with state := .waitClose } := by
      rw [Gate.closeBound, if_pos ⟨listed, bound⟩]
    have named := linked.named t p online
    have registered := (exclusive.registered p).mpr
    simp only [marked, named.1] at registered
    cases registered online
  | _ => trivial

/-- Exactly the orderly runs keep the sessions and the maps exclusive. -/
theorem exclusive_iff_orderly (gsIdleMax : Nat) (events : List Event) :
    EveryState step Exclusive (start gsIdleMax) events ↔
      EveryStep step Orderly (start gsIdleMax) events := by
  apply everyState_iff_everyStep Linked fun _ => True
  · intro g linked
    exact linked_exclusive linked
  · intro g event _ linked orderly
    exact linked_turn (step_turn g event) orderly linked
  · intro g event _ linked exclusive
    exact exclusive_orderly linked exclusive
  · exact linked_start gsIdleMax
  · intro event _
    trivial

/-- A kicked session stays connected with its transid although it is no longer online. -/
theorem kicked_session_not_exclusive :
    ¬ EveryState step Exclusive (start 100) [.gameRegister 0 1, .accept 7, .addToWait 5 9,
      .loginGame 7 5, .kickUser 5 9] := by
  intro all
  have registered := (everyState_last all).registered 7
  revert registered
  decide

end GateExclusive
