import DreamHeroes.GateMaps

/- The accounts recorded in m_onlineaccs for the transids that are online. -/
namespace GateAccounts

open GateServer GateMaps ObjMap CountdownTimers LabelledRuns

/-- Exactly one account is recorded for the transid, the one it was admitted with. -/
def Recorded (g : Gate) (t : TranId) : Prop :=
  ∃ a, getData g.onlineaccs a = some t ∧ g.admitted t = some a ∧
    ∀ b, getData g.onlineaccs b = some t → b = a

structure Accounted (g : Gate) : Prop where
  recorded : ∀ t, getData g.onlines t ≠ none → Recorded g t
  placed : ∀ a t, getData g.onlineaccs a = some t →
    getData g.onlines t ≠ none ∨ getData g.reconMap t ≠ none

/-- A kick of an online transid names its account, or its account may stay because the
transid may still reconnect and the named account is not another online player's. -/
def KickFits (g : Gate) (t : TranId) (a : Account) : Prop :=
  getData g.onlineaccs a = some t ∨
    (getData g.reconMap t ≠ none ∧
      ∀ k, getData g.onlineaccs a = some k → getData g.onlines k = none)

/-- A kick of a transid that is not online drops the waiting account from m_onlineaccs: that
account is not an online player's, and no other account was left for the transid. -/
def ForgetFits (g : Gate) (t : TranId) : Prop :=
  (∀ v, getData g.waitMap t = some v → v ≠ invalidAccount →
    ∀ k, getData g.onlineaccs v = some k → getData g.onlines k = none) ∧
  ∀ b, getData g.onlineaccs b = some t →
    getData g.waitMap t = some b ∧ b ≠ invalidAccount

/-- A waiting account enters m_onlineaccs unless it is there already. -/
def AdmitFits (g : Gate) (t : TranId) (v : Account) : Prop :=
  ((getData g.onlineaccs v = none ∨ getData g.onlineaccs v = some t) ∧
    g.admitted t = some v ∧ ∀ b, getData g.onlineaccs b = some t → b = v) ∨
  (∃ k, getData g.onlineaccs v = some k ∧ k ≠ t) ∧ Recorded g t

def LoginFits (g : Gate) (t : TranId) : Prop :=
  match getData g.waitMap t with
  | some v => g.getIdleGameClient ≠ none → AdmitFits g t v
  | none => getData g.reconMap t ≠ none → Recorded g t

/- Besides the fits above: no reconnect timer of an earlier round goes off while its transid
is online, and no game server goes down that a recorded account could only return to. -/
def Consistent (g : Gate) : Event → Prop
  | .addToWait t a => getData g.onlines t ≠ none → KickFits g t a
  | .kickUser t a =>
      (getData g.onlines t ≠ none → KickFits g t a) ∧
        (getData g.onlines t = none → ForgetFits g t)
  | .loginGame p t =>
      (g.sessions p).state ≠ .disable → (g.sessions p).state ≠ .connect → LoginFits g t
  | .tick diff => ∀ timer ∈ g.events, timer.left ≤ diff →
      ∀ t, timer.call = .removeReconn t → getData g.onlines t = none
  | .gameClose c => g.FreesSlot c (g.clients c).gameId → ∀ a t,
      getData g.onlineaccs a = some t → getData g.reconMap t = some (g.clients c).gameId →
        getData g.onlines t ≠ none
  | _ => True

variable {g h : Gate} {event : Event} {t : TranId} {a : Account}

theorem accounted_start (gsIdleMax : Nat) : Accounted (start gsIdleMax) where
  recorded := by
    intro t online
    exact absurd rfl online
  placed := by
    intro a t account
    cases account

theorem recorded_congr (onlineaccs : h.onlineaccs = g.onlineaccs)
    (admitted : h.admitted t = g.admitted t) : Recorded h t ↔ Recorded g t := by
  simp only [Recorded, onlineaccs, admitted]

theorem kick_accounted_iff (accounted : Accounted g) (online : getData g.onlines t ≠ none)
    (onlines : h.onlines = eraseData g.onlines t)
    (onlineaccs : h.onlineaccs = eraseData g.onlineaccs a) (reconMap : h.reconMap = g.reconMap)
    (admitted : ∀ k, k ≠ t → h.admitted k = g.admitted k) :
    Accounted h ↔ KickFits g t a := by
  obtain ⟨own, ownHeld, ownAdmitted, ownOnly⟩ := accounted.recorded t online
  constructor
  · intro after
    by_cases named : own = a
    · exact .inl (named ▸ ownHeld)
    · refine .inr ⟨?_, ?_⟩
      · have placed := after.placed own t (by simp [onlineaccs, ownHeld, Ne.symm named])
        simpa [onlines, reconMap] using placed
      · intro k held
        by_contra onlineK
        have other : k ≠ t := by
          intro same
          exact named (ownOnly a (same ▸ held)).symm
        obtain ⟨b, heldB, _, _⟩ := after.recorded k (by simpa [onlines, Ne.symm other] using onlineK)
        simp [onlineaccs] at heldB
        obtain ⟨c, _, _, only⟩ := accounted.recorded k onlineK
        exact heldB.1 ((only a held).trans (only b heldB.2).symm)
  · intro fits
    constructor
    · intro k onlineK
      simp [onlines] at onlineK
      obtain ⟨other, before⟩ := onlineK
      obtain ⟨b, heldB, admittedB, only⟩ := accounted.recorded k before
      have spared : a ≠ b := by
        rintro rfl
        rcases fits with mine | ⟨_, free⟩
        · rw [mine] at heldB
          exact other (Option.some.inj heldB)
        · exact before (free k heldB)
      refine ⟨b, by simp [onlineaccs, heldB, spared], ?_, ?_⟩
      · rw [admitted k (Ne.symm other), admittedB]
      · intro c heldC
        simp [onlineaccs] at heldC
        exact only c heldC.2
    · intro b k heldB
      simp [onlineaccs] at heldB
      rcases accounted.placed b k heldB.2 with onlineK | recon
      · by_cases same : t = k
        · subst same
          rcases fits with mine | ⟨recon, _⟩
          · exact absurd ((ownOnly a mine).trans (ownOnly b heldB.2).symm) heldB.1
          · exact .inr (by rwa [reconMap])
        · exact .inl (by simpa [onlines, same] using onlineK)
      · exact .inr (by rwa [reconMap])

theorem getData_accountsAfterKick (g : Gate) (t : TranId) (b : Account) :
    getData (g.accountsAfterKick t) b =
      if getData g.waitMap t = some b ∧ b ≠ invalidAccount then none
      else getData g.onlineaccs b := by
  unfold Gate.accountsAfterKick
  cases getData g.waitMap t with
  | none => simp
  | some v =>
    by_cases valid : v = invalidAccount
    · have kept : ¬ (some v = some b ∧ b ≠ invalidAccount) := by
        intro ⟨same, other⟩
        exact other ((Option.some.inj same).symm.trans valid)
      rw [if_neg kept]
      simp [valid]
    · by_cases same : v = b
      · simp [valid, ← same]
      · simp [valid, same]

theorem forget_accounted_iff (accounted : Accounted g) (offline : getData g.onlines t = none)
    (onlines : h.onlines = g.onlines) (onlineaccs : h.onlineaccs = g.accountsAfterKick t)
    (reconMap : h.reconMap = eraseData g.reconMap t) (admitted : h.admitted = g.admitted) :
    Accounted h ↔ ForgetFits g t := by
  have held : ∀ b k, getData h.onlineaccs b = some k ↔
      ¬ (getData g.waitMap t = some b ∧ b ≠ invalidAccount) ∧
        getData g.onlineaccs b = some k := by
    intro b k
    rw [onlineaccs, getData_accountsAfterKick]
    split
    · rename_i dropped
      simp [dropped]
    · rename_i kept
      simp only [kept, not_false_eq_true, true_and]
  constructor
  · intro after
    constructor
    · intro v waiting valid k heldV
      by_contra online
      obtain ⟨b, heldB, _, _⟩ := after.recorded k (by rwa [onlines])
      obtain ⟨kept, before⟩ := (held b k).mp heldB
      obtain ⟨c, _, _, only⟩ := accounted.recorded k online
      have same : b = v := (only b before).trans (only v heldV).symm
      subst same
      exact kept ⟨waiting, valid⟩
    · intro b heldB
      by_contra kept
      have placed := after.placed b t ((held b t).mpr ⟨kept, heldB⟩)
      simp [onlines, offline, reconMap] at placed
  · intro ⟨free, gone⟩
    constructor
    · intro k online
      rw [onlines] at online
      obtain ⟨b, heldB, admittedB, only⟩ := accounted.recorded k online
      refine ⟨b, (held b k).mpr ⟨?_, heldB⟩, by rw [admitted, admittedB], ?_⟩
      · intro ⟨waiting, valid⟩
        exact online (free b waiting valid k heldB)
      · intro c heldC
        exact only c ((held c k).mp heldC).2
    · intro b k heldB
      obtain ⟨kept, before⟩ := (held b k).mp heldB
      rcases accounted.placed b k before with online | recon
      · exact .inl (by rwa [onlines])
      · refine .inr ?_
        have other : t ≠ k := by
          rintro rfl
          exact kept (gone b before)
        simpa [reconMap, other] using recon

theorem admit_recorded_iff {v : Account} (onlineaccs : h.onlineaccs = addData g.onlineaccs v t)
    (admitted : h.admitted t = g.admitted t) : Recorded h t ↔ AdmitFits g t v := by
  unfold AdmitFits
  cases before : getData g.onlineaccs v with
  | none =>
    have held : ∀ b, getData h.onlineaccs b = some t ↔ v = b ∨ getData g.onlineaccs b = some t := by
      intro b
      rw [onlineaccs, getData_addData, before]
      split
      · rename_i same
        simp [same]
      · rename_i other
        simp [other]
    constructor
    · intro ⟨a, heldA, admittedA, only⟩
      have same : v = a := only v ((held v).mpr (.inl rfl))
      subst same
      refine .inl ⟨.inl rfl, admitted.symm.trans admittedA, ?_⟩
      intro b heldB
      exact only b ((held b).mpr (.inr heldB))
    · intro fits
      rcases fits with ⟨_, admittedV, only⟩ | ⟨⟨k, impossible, _⟩, _⟩
      · refine ⟨v, (held v).mpr (.inl rfl), admitted.trans admittedV, ?_⟩
        intro b heldB
        rcases (held b).mp heldB with same | old
        · exact same.symm
        · exact only b old
      · cases impossible
  | some k =>
    have unchanged : Recorded h t ↔ Recorded g t := by
      simp only [Recorded, onlineaccs, getData_addData_present before, admitted]
    rw [unchanged]
    by_cases mine : k = t
    · subst mine
      constructor
      · intro ⟨a, _, admittedA, only⟩
        have same := only v before
        subst same
        exact .inl ⟨.inr rfl, admittedA, only⟩
      · intro fits
        rcases fits with ⟨_, admittedV, only⟩ | ⟨_, own⟩
        · exact ⟨v, before, admittedV, only⟩
        · exact own
    · constructor
      · intro own
        exact .inr ⟨⟨k, rfl, mine⟩, own⟩
      · intro fits
        rcases fits with ⟨absent | same, _⟩ | ⟨_, own⟩
        · cases absent
        · exact absurd (Option.some.inj same) mine
        · exact own

theorem login_accounted_iff {v : Account} (accounted : Accounted g)
    (online : ∀ k, getData h.onlines k = none ↔ t ≠ k ∧ getData g.onlines k = none)
    (onlineaccs : h.onlineaccs = addData g.onlineaccs v t) (reconMap : h.reconMap = g.reconMap)
    (admitted : h.admitted = g.admitted) : Accounted h ↔ AdmitFits g t v := by
  have held : ∀ b k, t ≠ k →
      (getData h.onlineaccs b = some k ↔ getData g.onlineaccs b = some k) := by
    intro b k other
    rw [onlineaccs]
    exact getData_addData_of_ne other
  rw [← admit_recorded_iff onlineaccs (congrFun admitted t)]
  constructor
  · intro after
    apply after.recorded
    intro absent
    exact ((online t).mp absent).1 rfl
  · intro own
    constructor
    · intro k onlineK
      by_cases same : t = k
      · exact same ▸ own
      · have before : getData g.onlines k ≠ none := by
          intro absent
          exact onlineK ((online k).mpr ⟨same, absent⟩)
        obtain ⟨b, heldB, admittedB, only⟩ := accounted.recorded k before
        refine ⟨b, (held b k same).mpr heldB, by rw [admitted, admittedB], ?_⟩
        intro c heldC
        exact only c ((held c k same).mp heldC)
    · intro b k heldB
      by_cases same : t = k
      · refine .inl ?_
        intro absent
        exact ((online k).mp absent).1 same
      · rcases accounted.placed b k ((held b k same).mp heldB) with onlineK | recon
        · refine .inl ?_
          intro absent
          exact onlineK ((online k).mp absent).2
        · exact .inr (by rwa [reconMap])

theorem returned_accounted_iff (accounted : Accounted g)
    (online : ∀ k, getData h.onlines k = none ↔ t ≠ k ∧ getData g.onlines k = none)
    (onlineaccs : h.onlineaccs = g.onlineaccs) (reconMap : h.reconMap = eraseData g.reconMap t)
    (admitted : h.admitted = g.admitted) : Accounted h ↔ Recorded g t := by
  constructor
  · intro after
    rw [← recorded_congr onlineaccs (congrFun admitted t)]
    apply after.recorded
    intro absent
    exact ((online t).mp absent).1 rfl
  · intro own
    constructor
    · intro k onlineK
      rw [recorded_congr onlineaccs (congrFun admitted k)]
      by_cases same : t = k
      · exact same ▸ own
      · apply accounted.recorded
        intro absent
        exact onlineK ((online k).mpr ⟨same, absent⟩)
    · intro b k heldB
      rw [onlineaccs] at heldB
      by_cases same : t = k
      · refine .inl ?_
        intro absent
        exact ((online k).mp absent).1 same
      · rcases accounted.placed b k heldB with onlineK | recon
        · refine .inl ?_
          intro absent
          exact onlineK ((online k).mp absent).2
        · exact .inr (by simpa [reconMap, same] using recon)

theorem close_accounted (accounted : Accounted g)
    (onlines : h.onlines = eraseData g.onlines t) (admitted : h.admitted = g.admitted)
    (kept : ∀ b k, t ≠ k → (getData h.onlineaccs b = some k ↔ getData g.onlineaccs b = some k))
    (recon : ∀ k, t ≠ k → getData g.reconMap k ≠ none → getData h.reconMap k ≠ none)
    (own : ∀ b, getData h.onlineaccs b = some t → getData h.reconMap t ≠ none) :
    Accounted h := by
  constructor
  · intro k online
    simp [onlines] at online
    obtain ⟨other, before⟩ := online
    obtain ⟨b, heldB, admittedB, only⟩ := accounted.recorded k before
    refine ⟨b, (kept b k other).mpr heldB, by rw [admitted, admittedB], ?_⟩
    intro c heldC
    exact only c ((kept c k other).mp heldC)
  · intro b k heldB
    by_cases same : t = k
    · exact .inr (same ▸ own b (same ▸ heldB))
    · rcases accounted.placed b k ((kept b k same).mp heldB) with online | waiting
      · exact .inl (by simpa [onlines, same] using online)
      · exact .inr (recon k same waiting)

theorem freed_accounted_iff {gs : GameId} (accounted : Accounted g)
    (onlines : h.onlines = g.onlines) (onlineaccs : h.onlineaccs = g.onlineaccs)
    (reconMap : h.reconMap = eraseValue g.reconMap gs) (admitted : h.admitted = g.admitted) :
    Accounted h ↔ ∀ a t, getData g.onlineaccs a = some t → getData g.reconMap t = some gs →
      getData g.onlines t ≠ none := by
  constructor
  · intro after b k heldB recon
    rcases after.placed b k (by rwa [onlineaccs]) with online | waiting
    · rwa [onlines] at online
    · rw [reconMap] at waiting
      exact absurd (getData_eraseValue_none.mpr (.inr recon)) waiting
  · intro free
    constructor
    · intro k online
      rw [recorded_congr onlineaccs (congrFun admitted k)]
      exact accounted.recorded k (by rwa [onlines] at online)
    · intro b k heldB
      rw [onlineaccs] at heldB
      rcases accounted.placed b k heldB with online | waiting
      · exact .inl (by rwa [onlines])
      · by_cases bound : getData g.reconMap k = some gs
        · exact .inl (by rw [onlines]; exact free b k heldB bound)
        · refine .inr ?_
          intro absent
          rw [reconMap] at absent
          rcases getData_eraseValue_none.mp absent with none | value
          · exact waiting none
          · exact bound value

theorem execute_accounted {timer : TimerCall} (accounted : Accounted g)
    (offline : ∀ t, timer = .removeReconn t → getData g.onlines t = none) :
    Accounted (g.execute timer) := by
  cases timer with
  | removeWait k => exact ⟨accounted.recorded, accounted.placed⟩
  | removeReconn k =>
    obtain ⟨log, removed⟩ := g.eventCallRemoveReconn_eq k
    rw [Gate.execute, removed]
    have away := offline k rfl
    constructor
    · intro j online
      obtain ⟨b, heldB, admittedB, only⟩ := accounted.recorded j online
      have other : j ≠ k := by
        rintro rfl
        exact online away
      refine ⟨b, getData_eraseValue.mpr ⟨heldB, other⟩, admittedB, ?_⟩
      intro c heldC
      exact only c (getData_eraseValue.mp heldC).1
    · intro b j heldB
      obtain ⟨before, other⟩ := getData_eraseValue.mp heldB
      rcases accounted.placed b j before with online | waiting
      · exact .inl online
      · exact .inr (by simpa [Ne.symm other] using waiting)

theorem tick_accounted_iff {diff : Nat} (accounted : Accounted g) :
    Accounted (g.tick diff) ↔ ∀ timer ∈ g.events, timer.left ≤ diff →
      ∀ t, timer.call = .removeReconn t → getData g.onlines t = none := by
  have shrunk := tick_shrunk g diff
  constructor
  · intro after timer listed due t call
    by_contra online
    have gone : ∀ b, getData (g.tick diff).onlineaccs b ≠ some t := by
      apply Gate.tick_reaches (fun h => ∀ b, getData h.onlineaccs b ≠ some t) listed due
      · intro h events absent
        exact absent
      · intro h b heldB
        obtain ⟨log, removed⟩ := h.eventCallRemoveReconn_eq t
        rw [call, Gate.execute, removed] at heldB
        exact (getData_eraseValue.mp heldB).2 rfl
      · intro h other absent b heldB
        exact absent b ((execute_shrunk other (Shrunk.refl h)).onlineaccs b t heldB)
    obtain ⟨b, heldB, _, _⟩ := after.recorded t (by rwa [shrunk.onlines])
    exact gone b heldB
  · intro offline
    have kept : Accounted (g.tick diff) ∧ (g.tick diff).onlines = g.onlines := by
      apply Gate.tick_invariant fun h => Accounted h ∧ h.onlines = g.onlines
      · intro h events held
        exact ⟨⟨held.1.recorded, held.1.placed⟩, held.2⟩
      · intro h held timer listed due
        have same := (execute_shrunk timer.call (Shrunk.refl h)).onlines
        refine ⟨execute_accounted held.1 ?_, same.trans held.2⟩
        intro t call
        rw [held.2]
        exact offline timer listed due t call
      · exact ⟨accounted, rfl⟩
    exact kept.1

theorem loginGame_accounted_iff {p : SessionPtr} (accounted : Accounted g)
    (outcome : g.Login p t h) : Accounted h ↔ LoginFits g t := by
  cases outcome with
  | noServer waiting idle =>
    apply iff_of_true
    · exact ⟨accounted.recorded, accounted.placed⟩
    · simp [LoginFits, waiting, idle]
  | @admitted v c log waiting idle =>
    have fits : LoginFits g t ↔ AdmitFits g t v := by simp [LoginFits, waiting, idle]
    rw [fits]
    apply login_accounted_iff accounted
    · intro k
      simp only [Gate.setSession, getData_addData]
      split <;> simp_all
    all_goals rfl
  | returned notWaiting recon =>
    have fits : LoginFits g t ↔ Recorded g t := by simp [LoginFits, notWaiting, recon]
    rw [fits]
    apply returned_accounted_iff accounted
    · intro k
      simp only [Gate.setSession, getData_addData]
      split <;> simp_all
    all_goals rfl
  | unknown notWaiting noRecon =>
    apply iff_of_true
    · exact ⟨accounted.recorded, accounted.placed⟩
    · simp [LoginFits, notWaiting, noRecon]

theorem accounted_turn (turn : Turn g event h) (consistent : Consistent g event)
    (accounted : Accounted g) : Accounted h := by
  cases turn with
  | login live fresh outcome =>
    exact (loginGame_accounted_iff accounted outcome).mpr (consistent live fresh)
  | @waits t a offline =>
    constructor
    · intro k online
      obtain ⟨b, heldB, admittedB, only⟩ := accounted.recorded k online
      have other : k ≠ t := by
        intro same
        exact online (same ▸ offline)
      refine ⟨b, heldB, ?_, only⟩
      exact (Function.update_of_ne other (some a) g.admitted).trans admittedB
    · exact accounted.placed
  | @waitsKicked t a p log online =>
    have busy : getData g.onlines t ≠ none := by simp [online]
    apply (kick_accounted_iff accounted busy _ _ _ _).mpr (consistent busy)
    · rfl
    · rfl
    · rfl
    · intro k other
      exact Function.update_of_ne other (some a) g.admitted
  | @kicked t a p log online =>
    have busy : getData g.onlines t ≠ none := by simp [online]
    apply (kick_accounted_iff accounted busy _ _ _ _).mpr (consistent.1 busy)
    · rfl
    · rfl
    · rfl
    · intro k _
      rfl
  | forgotten log offline =>
    apply (forget_accounted_iff accounted offline _ _ _ _).mpr (consistent.2 offline)
    all_goals rfl
  | ticked diff => exact (tick_accounted_iff accounted).mpr consistent
  | @freed c gs frees =>
    have own := frees.1
    subst own
    apply (freed_accounted_iff accounted _ _ _ _).mpr (consistent frees)
    all_goals rfl
  | closeKeeps log keeps =>
    apply close_accounted accounted
    · rfl
    · rfl
    · intro b k _
      rfl
    · intro k other recon
      simpa [Gate.setSession, other] using recon
    · intro b _
      simp [Gate.setSession]
  | closeDrops log drops =>
    apply close_accounted accounted
    · rfl
    · rfl
    · intro b k other
      simpa [Gate.setSession] using fun _ => Ne.symm other
    · intro k _ recon
      exact recon
    · intro b heldB
      exact absurd rfl (getData_eraseValue.mp heldB).2
  | ignored => exact accounted
  | logged log => exact ⟨accounted.recorded, accounted.placed⟩
  | accepted free => exact ⟨accounted.recorded, accounted.placed⟩
  | counted clients => exact ⟨accounted.recorded, accounted.placed⟩
  | registered clients gs inRange => exact ⟨accounted.recorded, accounted.placed⟩
  | moved log online client => exact ⟨accounted.recorded, accounted.placed⟩

theorem accounted_consistent (accounted : Accounted g) (after : Accounted (step g event)) :
    Consistent g event := by
  cases event with
  | addToWait t a =>
    intro busy
    obtain ⟨p, online⟩ := Option.ne_none_iff_exists'.mp busy
    obtain ⟨log, waiting⟩ := Gate.addToWait_online a online
    rw [step, waiting] at after
    apply (kick_accounted_iff accounted busy _ _ _ _).mp after
    · rfl
    · rfl
    · rfl
    · intro k other
      exact Function.update_of_ne other (some a) g.admitted
  | kickUser t a =>
    constructor
    · intro busy
      obtain ⟨p, online⟩ := Option.ne_none_iff_exists'.mp busy
      obtain ⟨log, gone⟩ := Gate.kickUser_online a online
      rw [step, gone] at after
      apply (kick_accounted_iff accounted busy _ _ _ _).mp after
      · rfl
      · rfl
      · rfl
      · intro k _
        rfl
    · intro offline
      obtain ⟨log, gone⟩ := Gate.kickUser_offline a offline
      rw [step, gone] at after
      apply (forget_accounted_iff accounted offline _ _ _ _).mp after
      all_goals rfl
  | loginGame p t =>
    intro live fresh
    apply (loginGame_accounted_iff accounted (Gate.parseLoginGame_login t fresh)).mp
    rwa [step, if_neg live] at after
  | tick diff => exact (tick_accounted_iff accounted).mp after
  | gameClose c =>
    intro frees
    rw [step, Gate.removeActiveGameClient_frees frees] at after
    apply (freed_accounted_iff accounted _ _ _ _).mp after
    all_goals rfl
  | _ => trivial

/-- Exactly the consistent runs keep m_onlineaccs in step with the players. -/
theorem accounted_iff_consistent (gsIdleMax : Nat) (events : List Event) :
    EveryState step Accounted (start gsIdleMax) events ↔
      EveryStep step Consistent (start gsIdleMax) events := by
  apply everyState_iff_everyStep Accounted fun _ => True
  · intro g accounted
    exact accounted
  · intro g event _ accounted consistent
    exact accounted_turn (step_turn g event) consistent accounted
  · intro g event _ accounted after
    exact accounted_consistent accounted after
  · exact accounted_start gsIdleMax
  · intro event _
    trivial

/-- The reconnect timer of the first round goes off while the player of the second is online. -/
theorem early_timer_not_accounted :
    ¬ EveryState step Accounted (start 100) [.gameRegister 0 1, .accept 7, .addToWait 5 9,
      .loginGame 7 5, .close 7, .tick 60000, .accept 8, .loginGame 8 5, .tick 240000] := by
  intro all
  obtain ⟨a, held, _, _⟩ := (everyState_last all).recorded 5 (by decide)
  have empty : getData (run step (start 100) [.gameRegister 0 1, .accept 7, .addToWait 5 9,
      .loginGame 7 5, .close 7, .tick 60000, .accept 8, .loginGame 8 5,
      .tick 240000]).onlineaccs a = none := by
    rfl
  rw [empty] at held
  cases held

end GateAccounts
