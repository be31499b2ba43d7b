import DreamHeroes.GateServer

/- Where an entry of m_wait_map, m_recon_map or m_onlines can come from, and that a waiting
   transid is never online. -/
namespace GateMaps

open GateServer ObjMap CountdownTimers LabelledRuns

/-- Timers only take entries out of three maps and touch nothing else but the log. -/
structure Shrunk (g h : Gate) : Prop where
  sessions : h.sessions = g.sessions
  onlines : h.onlines = g.onlines
  activeGames : h.activeGames = g.activeGames
  admitted : h.admitted = g.admitted
  waitMap : ∀ t v, getData h.waitMap t = some v → getData g.waitMap t = some v
  reconMap : ∀ t gs, getData h.reconMap t = some gs → getData g.reconMap t = some gs
  onlineaccs : ∀ a t, getData h.onlineaccs a = some t → getData g.onlineaccs a = some t

variable {g h : Gate} {event : Event} {t : TranId}

theorem Shrunk.refl (g : Gate) : Shrunk g g :=
  ⟨rfl, rfl, rfl, rfl, fun _ _ entry => entry, fun _ _ entry => entry, fun _ _ entry => entry⟩

theorem execute_shrunk (timer : TimerCall) (before : Shrunk g h) :
    Shrunk g (h.execute timer) := by
  cases timer with
  | removeWait k =>
    refine ⟨before.sessions, before.onlines, before.activeGames, before.admitted, ?_,
      before.reconMap, before.onlineaccs⟩
    intro t v waiting
    simp only [Gate.execute, Gate.eventCallRemoveWait, getData_eraseData] at waiting
    split at waiting
    · cases waiting
    · exact before.waitMap t v waiting
  | removeReconn k =>
    obtain ⟨log, removed⟩ := h.eventCallRemoveReconn_eq k
    rw [Gate.execute, removed]
    refine ⟨before.sessions, before.onlines, before.activeGames, before.admitted,
      before.waitMap, ?_, ?_⟩
    · intro t gs recon
      simp only [getData_eraseData] at recon
      split at recon
      · cases recon
      · exact before.reconMap t gs recon
    · intro a t account
      exact before.onlineaccs a t (getData_eraseValue.mp account).1

theorem tick_shrunk (g : Gate) (diff : Nat) : Shrunk g (g.tick diff) := by
  apply Gate.tick_invariant (Shrunk g)
  · intro h events before
    exact ⟨before.sessions, before.onlines, before.activeGames, before.admitted,
      before.waitMap, before.reconMap, before.onlineaccs⟩
  · intro h before timer _ _
    exact execute_shrunk timer.call before
  · exact Shrunk.refl g

theorem waitMap_turn (turn : Turn g event h) {v : Account}
    (waiting : getData h.waitMap t = some v) :
    getData g.waitMap t = some v ∨ event = .addToWait t v := by
  cases turn with
  | login live fresh outcome =>
    cases outcome with
    | noServer old idle =>
      simp [Gate.setSession] at waiting
      exact .inl waiting.2
    | admitted log old idle =>
      simp [Gate.setSession] at waiting
      exact .inl waiting.2
    | returned notWaiting recon => exact .inl waiting
    | unknown notWaiting noRecon => exact .inl waiting
  | @waits k a offline =>
    rcases getData_addData_some waiting with old | ⟨rfl, rfl⟩
    · exact .inl old
    · exact .inr rfl
  | @waitsKicked k a p log online =>
    rcases getData_addData_some waiting with old | ⟨rfl, rfl⟩
    · exact .inl old
    · exact .inr rfl
  | forgotten log offline =>
    simp at waiting
    exact .inl waiting.2
  | ticked diff => exact .inl ((tick_shrunk g diff).waitMap t v waiting)
  | ignored => exact .inl waiting
  | logged log => exact .inl waiting
  | accepted free => exact .inl waiting
  | closeKeeps log keeps => exact .inl waiting
  | closeDrops log drops => exact .inl waiting
  | kicked log online => exact .inl waiting
  | counted clients => exact .inl waiting
  | registered clients gs inRange => exact .inl waiting
  | moved log online client => exact .inl waiting
  | freed frees => exact .inl waiting

theorem reconMap_turn (turn : Turn g event h) {gs : GameId}
    (recon : getData h.reconMap t = some gs) :
    getData g.reconMap t = some gs ∨
      ∃ p, event = .close p ∧ g.KeepsPlace p ∧ g.sessions p = ⟨t, gs, .connect⟩ := by
  cases turn with
  | login live fresh outcome =>
    cases outcome with
    | noServer old idle => exact .inl recon
    | admitted log old idle => exact .inl recon
    | returned notWaiting old =>
      simp [Gate.setSession] at recon
      exact .inl recon.2
    | unknown notWaiting noRecon => exact .inl recon
  | @closeKeeps p log keeps =>
    rcases getData_addData_some recon with old | ⟨rfl, rfl⟩
    · exact .inl old
    · refine .inr ⟨p, rfl, keeps, ?_⟩
      rw [← keeps.2]
  | forgotten log offline =>
    simp at recon
    exact .inl recon.2
  | ticked diff => exact .inl ((tick_shrunk g diff).reconMap t gs recon)
  | freed frees => exact .inl (getData_eraseValue.mp recon).1
  | ignored => exact .inl recon
  | logged log => exact .inl recon
  | accepted free => exact .inl recon
  | closeDrops log drops => exact .inl recon
  | waits offline => exact .inl recon
  | waitsKicked log online => exact .inl recon
  | kicked log online => exact .inl recon
  | counted clients => exact .inl recon
  | registered clients gs inRange => exact .inl recon
  | moved log online client => exact .inl recon

theorem onlineaccs_turn (turn : Turn g event h) {a : Account}
    (recorded : getData h.onlineaccs a = some t) :
    getData g.onlineaccs a = some t ∨ getData g.waitMap t = some a := by
  cases turn with
  | login live fresh outcome =>
    cases outcome with
    | noServer old idle => exact .inl recorded
    | admitted log waiting idle =>
      rcases getData_addData_some recorded with old | ⟨rfl, rfl⟩
      · exact .inl old
      · exact .inr waiting
    | returned notWaiting recon => exact .inl recorded
    | unknown notWaiting noRecon => exact .inl recorded
  | closeDrops log drops => exact .inl (getData_eraseValue.mp recorded).1
  | waitsKicked log online => exact .inl (getData_of_eraseData recorded)
  | kicked log online => exact .inl (getData_of_eraseData recorded)
  | @forgotten k b log offline =>
    simp only [Gate.accountsAfterKick] at recorded
    split at recorded
    · split at recorded
      · exact .inl (getData_of_eraseData recorded)
      · exact .inl recorded
    · exact .inl recorded
  | ticked diff => exact .inl ((tick_shrunk g diff).onlineaccs a t recorded)
  | ignored => exact .inl recorded
  | logged log => exact .inl recorded
  | accepted free => exact .inl recorded
  | closeKeeps log keeps => exact .inl recorded
  | waits offline => exact .inl recorded
  | counted clients => exact .inl recorded
  | registered clients gs inRange => exact .inl recorded
  | moved log online client => exact .inl recorded
  | freed frees => exact .inl recorded

/-- No transid is waiting and online at once. -/
def WaitApart (g : Gate) : Prop :=
  ∀ t, getData g.onlines t = none ∨ getData g.waitMap t = none

theorem waitApart_start (gsIdleMax : Nat) : WaitApart (start gsIdleMax) := fun _ => .inl rfl

theorem waitApart_turn (turn : Turn g event h) (apart : WaitApart g) : WaitApart h := by
  intro t
  cases turn with
  | @login p k h live fresh outcome =>
    cases outcome with
    | noServer old idle =>
      rcases apart t with offline | notWaiting
      · exact .inl offline
      · exact .inr (by simp [Gate.setSession, notWaiting])
    | admitted log old idle =>
      by_cases same : k = t
      · exact .inr (by simp [Gate.setSession, same])
      · simpa [Gate.setSession, same] using apart t
    | returned notWaiting recon =>
      by_cases same : k = t
      · exact .inr (same ▸ notWaiting)
      · simpa [Gate.setSession, same] using apart t
    | unknown notWaiting noRecon => exact apart t
  | @closeKeeps p log keeps =>
    rcases apart t with offline | notWaiting
    · exact .inl (by simp [Gate.setSession, offline])
    · exact .inr notWaiting
  | @closeDrops p log drops =>
    rcases apart t with offline | notWaiting
    · exact .inl (by simp [Gate.setSession, offline])
    · exact .inr notWaiting
  | @waits k a offline =>
    by_cases same : k = t
    · exact .inl (same ▸ offline)
    · simpa [same] using apart t
  | @waitsKicked k a p log online =>
    by_cases same : k = t
    · exact .inl (by simp [same])
    · simpa [same] using apart t
  | @kicked k a p log online =>
    rcases apart t with offline | notWaiting
    · exact .inl (by simp [offline])
    · exact .inr notWaiting
  | forgotten log offline =>
    rcases apart t with offline | notWaiting
    · exact .inl offline
    · exact .inr (by simp [notWaiting])
  | ticked diff =>
    have shrunk := tick_shrunk g diff
    rcases apart t with offline | notWaiting
    · exact .inl (by rw [shrunk.onlines, offline])
    · refine .inr ?_
      rw [Option.eq_none_iff_forall_not_mem] at notWaiting ⊢
      intro v waiting
      exact notWaiting v (shrunk.waitMap t v waiting)
  | ignored => exact apart t
  | logged log => exact apart t
  | accepted free => exact apart t
  | counted clients => exact apart t
  | registered clients gs inRange => exact apart t
  | moved log online client => exact apart t
  | freed frees => exact apart t

theorem run_waitApart (gsIdleMax : Nat) (events : List Event) :
    WaitApart (run step (start gsIdleMax) events) :=
  run_of_every (fun g event apart => waitApart_turn (step_turn g event) apart)
    (waitApart_start gsIdleMax) events

end GateMaps
