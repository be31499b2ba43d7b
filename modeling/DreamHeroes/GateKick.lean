import DreamHeroes.GateMaps

/- Whether a kicked transid stays out until the login server admits it again. -/
namespace GateKick

open GateServer GateMaps ObjMap LabelledRuns

/-- No session can log in with the transid now. -/
def Refused (t : TranId) (g : Gate) : Prop := ∀ p, (g.checkConn t p).1 = false

def Admits (t : TranId) : Event → Prop
  | .addToWait k _ => k = t
  | _ => False

/- The close of a session that still holds the transid as a connected one: checkClose takes
   it for an ordinary disconnect. -/
def Reopens (t : TranId) (g : Gate) : Event → Prop
  | .close p => (g.sessions p).tranid = t ∧ g.KeepsPlace p
  | _ => False

/-- Neither map that checkConn asks knows the transid. -/
def Forgotten (t : TranId) (g : Gate) : Prop :=
  getData g.waitMap t = none ∧ getData g.reconMap t = none

variable {g h : Gate} {event : Event} {t : TranId}

theorem refused_iff (notWaiting : getData g.waitMap t = none) :
    Refused t g ↔ getData g.reconMap t = none := by
  have each : ∀ p, (g.checkConn t p).1 = false ↔ getData g.reconMap t = none := by
    intro p
    rw [← Bool.not_eq_true, Gate.checkConn_true_iff]
    simp [notWaiting]
  constructor
  · intro refused
    exact (each 0).mp (refused 0)
  · intro forgotten p
    exact (each p).mpr forgotten

theorem forgotten_turn (turn : Turn g event h) (known : ¬ Admits t event)
    (fine : ¬ Reopens t g event) (forgotten : Forgotten t g) : Forgotten t h := by
  constructor
  · rw [Option.eq_none_iff_forall_not_mem]
    intro v waiting
    rcases waitMap_turn turn waiting with before | admits
    · rw [forgotten.1] at before
      cases before
    · exact known (admits ▸ rfl)
  · rw [Option.eq_none_iff_forall_not_mem]
    intro gs recon
    rcases reconMap_turn turn recon with before | ⟨p, closes, keeps, held⟩
    · rw [forgotten.2] at before
      cases before
    · subst closes
      exact fine ⟨by rw [held], keeps⟩

theorem reopens_seen (reopens : Reopens t g event) (forgotten : Forgotten t g) :
    ¬ Refused t (step g event) := by
  cases event with
  | close p =>
    obtain ⟨same, keeps⟩ := reopens
    obtain ⟨log, closed⟩ := Gate.onClose_keeps keeps
    have notWaiting : getData (step g (.close p)).waitMap t = none := by
      rw [step, closed]
      exact forgotten.1
    rw [refused_iff notWaiting, step, closed]
    simp [Gate.setSession, same]
  | _ => cases reopens

/-- What a kick leaves behind. -/
theorem kickUser_forgets (apart : WaitApart g) (a : Account) :
    getData (g.kickUser t a).waitMap t = none ∧
      (getData (g.kickUser t a).reconMap t = none ↔
        getData g.onlines t = none ∨ getData g.reconMap t = none) := by
  cases online : getData g.onlines t with
  | none =>
    obtain ⟨log, gone⟩ := Gate.kickUser_offline a online
    rw [gone]
    simp
  | some p =>
    obtain ⟨log, gone⟩ := Gate.kickUser_online a online
    rw [gone]
    rcases apart t with offline | notWaiting
    · rw [online] at offline
      cases offline
    · exact ⟨notWaiting, by simp⟩

theorem stays_out_iff {events : List Event} (forgotten : Forgotten t g)
    (noAdmission : ∀ event ∈ events, ¬ Admits t event) :
    EveryState step (Refused t) g events ↔
      EveryStep step (fun g event => ¬ Reopens t g event) g events := by
  apply everyState_iff_everyStep (Forgotten t) fun event => ¬ Admits t event
  · intro g forgotten
    exact (refused_iff forgotten.1).mpr forgotten.2
  · intro g event known forgotten fine
    exact forgotten_turn (step_turn g event) known fine forgotten
  · intro g event _ forgotten refused reopens
    exact reopens_seen reopens forgotten refused
  · exact forgotten
  · exact noAdmission

/-- Exactly when nobody logs in with a kicked transid before its next admission. -/
theorem kick_final_iff (gsIdleMax : Nat) (before after : List Event) (t : TranId) (a : Account)
    (noAdmission : ∀ event ∈ after, ¬ Admits t event) :
    EveryState step (Refused t) ((run step (start gsIdleMax) before).kickUser t a) after ↔
      (getData (run step (start gsIdleMax) before).onlines t = none ∨
        getData (run step (start gsIdleMax) before).reconMap t = none) ∧
      EveryStep step (fun g event => ¬ Reopens t g event)
        ((run step (start gsIdleMax) before).kickUser t a) after := by
  have apart := run_waitApart gsIdleMax before
  generalize run step (start gsIdleMax) before = g at apart
  obtain ⟨notWaiting, recon⟩ := kickUser_forgets (t := t) apart a
  rw [← recon]
  constructor
  · intro all
    have forgotten : Forgotten t (g.kickUser t a) :=
      ⟨notWaiting, (refused_iff notWaiting).mp (everyState_first all)⟩
    exact ⟨forgotten.2, (stays_out_iff forgotten noAdmission).mp all⟩
  · intro ⟨notRecon, all⟩
    exact (stays_out_iff ⟨notWaiting, notRecon⟩ noAdmission).mpr all

theorem kick_final_iff_offline :
    EveryState step (Refused 5) ((run step (start 100) [.addToWait 5 9]).kickUser 5 9)
        [.accept 7, .loginGame 7 5] ↔
      (getData (run step (start 100) [.addToWait 5 9]).onlines 5 = none ∨
        getData (run step (start 100) [.addToWait 5 9]).reconMap 5 = none) ∧
      EveryStep step (fun g event => ¬ Reopens 5 g event)
        ((run step (start 100) [.addToWait 5 9]).kickUser 5 9) [.accept 7, .loginGame 7 5] :=
  kick_final_iff 100 [.addToWait 5 9] [.accept 7, .loginGame 7 5] 5 9 (by simp [Admits])

/-- The socket of a kicked client closes and its transid may reconnect. -/
theorem kick_not_final :
    ¬ EveryState step (Refused 5)
      ((run step (start 100) [.gameRegister 0 1, .accept 7, .addToWait 5 9,
        .loginGame 7 5]).kickUser 5 9) [.close 7] := by
  intro all
  have refused := everyState_last all 8
  revert refused
  decide

end GateKick
