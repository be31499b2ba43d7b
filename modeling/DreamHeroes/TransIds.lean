import DreamHeroes.LoginServer

/- The transids of the accounts that the login server has admitted: a checksum over name,
   password, address and second of the login, with nothing between them. -/
namespace TransIds

open LoginServer OrderedMaps ObjMap LabelledRuns

/-- No two accounts have the same transid, and none has the invalid one. -/
def Distinct (accts : OrderedMap AccountId Account) : Prop :=
  (∀ a account, getData accts a = some account → account.nTranId ≠ invalidTransId) ∧
  ∀ a b first second, getData accts a = some first → getData accts b = some second →
    first.nTranId = second.nTranId → a = b

/-- What holds while the login server runs. -/
def Unique (s : Login) : Prop := s.crashed = false → Distinct s.accts

/-- The transid is not the invalid one and not recorded for another account. -/
def Fresh (accts : OrderedMap AccountId Account) (a : AccountId) (t : TranId) : Prop :=
  t ≠ invalidTransId ∧
    ∀ b account, b ≠ a → getData accts b = some account → account.nTranId ≠ t

/-- A login gets a fresh checksum, and a gate reports transids that differ, none of them the
invalid one or the one of an account that it does not report. -/
def FreshIds (s : Login) : Event → Prop
  | .finish i outcome time _ => s.crashed = false → ∀ data, s.tasks[i]? = some data → data.checkType = .loginCheck →
      s.Passes data outcome → s.getIdleGate ≠ none →
        Fresh s.accts outcome.acct (s.newTransId data time)
  | .gateRegister _ serverid _ _ accounts => s.crashed = false →
      s.Agrees (serverid % 2 ^ 8) accounts.entries →
      ∀ a t, getData accounts a = some t → t ≠ invalidTransId ∧
        (∀ b u, getData accounts b = some u → u = t → b = a) ∧
        ∀ b account, getData accounts b = none → getData s.accts b = some account →
          account.nTranId ≠ t
  | _ => True

variable {s : Login} {event : Event} {accts : OrderedMap AccountId Account} {a : AccountId}

theorem distinct_insert {t : TranId} {gate : GateId} (distinct : Distinct accts) :
    Distinct ((accts.insert a ⟨t, invalidGateId⟩).insert a ⟨t, gate⟩) ↔ Fresh accts a t := by
  have entry : ∀ b, getData ((accts.insert a ⟨t, invalidGateId⟩).insert a ⟨t, gate⟩) b =
      if a = b then some ⟨t, gate⟩ else getData accts b := by
    intro b
    by_cases here : a = b
    · simp [getData, here]
    · simp [getData, here]
  constructor
  · rintro ⟨valid, apart⟩
    refine ⟨valid a ⟨t, gate⟩ (by simp [entry]), ?_⟩
    intro b account other found same
    have found' : getData ((accts.insert a ⟨t, invalidGateId⟩).insert a ⟨t, gate⟩) b =
        some account := by rw [entry, if_neg (Ne.symm other), found]
    exact other (apart b a account ⟨t, gate⟩ found' (by simp [entry]) same)
  · rintro ⟨valid, apart⟩
    constructor
    · intro b account found
      rw [entry] at found
      split at found
      · cases found
        exact valid
      · exact distinct.1 b account found
    · intro b c first second foundB foundC same
      rw [entry] at foundB foundC
      split at foundB
      · rename_i here
        cases foundB
        split at foundC
        · rename_i there
          exact here.symm.trans there
        · rename_i other
          exact absurd same.symm (apart c second (Ne.symm other) foundC)
      · rename_i other
        split at foundC
        · rename_i there
          cases foundC
          exact absurd same (apart b first (Ne.symm other) foundB)
        · exact distinct.2 b c first second foundB foundC same

theorem distinct_erase {v : Account} (distinct : Distinct accts) :
    Distinct (eraseData (accts.insert a v) a) := by
  have entry : ∀ b account, getData (eraseData (accts.insert a v) a) b = some account →
      getData accts b = some account := by
    intro b account found
    rw [getData_eraseData] at found
    split at found
    · cases found
    · rename_i other
      simpa [getData, other] using found
  constructor
  · intro b account found
    exact distinct.1 b account (entry b account found)
  · intro b c first second foundB foundC
    exact distinct.2 b c first second (entry b first foundB) (entry c second foundC)

/-- The reported accounts take the place of the recorded ones. -/
theorem reported_entry (gate : GateId) (accounts : OrderedMap AccountId TranId) (b : AccountId) :
    getData (Login.reported gate accounts.entries accts) b =
      match getData accounts b with
      | some t => some ⟨t, gate⟩
      | none => getData accts b := by
  cases listed : getData accounts b with
  | some t => exact Login.reported_listed accounts.sorted (OrderedMap.find?_eq_some.mp listed)
  | none =>
    apply Login.reported_unlisted
    intro t member
    rw [getData, OrderedMap.find?_eq_some.mpr member] at listed
    cases listed

theorem distinct_reported {gate : GateId} {accounts : OrderedMap AccountId TranId}
    (distinct : Distinct accts) :
    Distinct (Login.reported gate accounts.entries accts) ↔
      ∀ a t, getData accounts a = some t → t ≠ invalidTransId ∧
        (∀ b u, getData accounts b = some u → u = t → b = a) ∧
        ∀ b account, getData accounts b = none → getData accts b = some account →
          account.nTranId ≠ t := by
  constructor
  · intro ⟨valid, apart⟩ a t listed
    have foundA : getData (Login.reported gate accounts.entries accts) a = some ⟨t, gate⟩ := by
      rw [reported_entry, listed]
    refine ⟨valid a _ foundA, ?_, ?_⟩
    · intro b u listedB same
      have foundB : getData (Login.reported gate accounts.entries accts) b = some ⟨u, gate⟩ := by
        rw [reported_entry, listedB]
      exact apart b a _ _ foundB foundA same
    · intro b account unlisted found same
      have foundB : getData (Login.reported gate accounts.entries accts) b = some account := by
        rw [reported_entry, unlisted]
        exact found
      have here := apart b a _ _ foundB foundA same
      rw [here, listed] at unlisted
      cases unlisted
  · intro fresh
    constructor
    · intro b account found
      rw [reported_entry] at found
      cases listed : getData accounts b with
      | some t =>
        rw [listed] at found
        cases found
        exact (fresh b t listed).1
      | none =>
        rw [listed] at found
        exact distinct.1 b account found
    · intro b c first second foundB foundC same
      rw [reported_entry] at foundB foundC
      cases listedB : getData accounts b with
      | some t =>
        rw [listedB] at foundB
        cases foundB
        cases listedC : getData accounts c with
        | some u =>
          rw [listedC] at foundC
          cases foundC
          exact (fresh c u listedC).2.1 b t listedB same
        | none =>
          rw [listedC] at foundC
          exact absurd same.symm ((fresh b t listedB).2.2 c second listedC foundC)
      | none =>
        rw [listedB] at foundB
        cases listedC : getData accounts c with
        | some u =>
          rw [listedC] at foundC
          cases foundC
          exact absurd same ((fresh c u listedC).2.2 b first listedB foundB)
        | none =>
          rw [listedC] at foundC
          exact distinct.2 b c first second foundB foundC same

/-- A check that admits nobody or finds no gate keeps the transids apart. -/
theorem distinct_checked {data : CheckAcct} {outcome : Outcome} {time serverTime : Nat}
    {s' : Login} (checked : s.Checked data outcome time serverTime s')
    (distinct : Distinct s.accts) : s'.crashed = s.crashed ∧
      (Distinct s'.accts ↔ (s.Passes data outcome → s.getIdleGate ≠ none →
        Fresh s.accts outcome.acct (s.newTransId data time))) := by
  cases checked with
  | dropped fails => exact ⟨rfl, iff_of_true distinct fun passes => absurd passes fails⟩
  | refused message fails plain =>
    obtain ⟨log, sent⟩ := s.sendClient_eq data.ower data.asked message
    rw [sent]
    exact ⟨rfl, iff_of_true distinct fun passes => absurd passes fails⟩
  | noGate passes none =>
    obtain ⟨log, sent⟩ := Login.sendClient_eq { s with
      toGates := s.toGates ++ s.kickOrders outcome.acct
      accts := eraseData (s.accts.insert outcome.acct
        ⟨s.newTransId data time, invalidGateId⟩) outcome.acct } data.ower data.asked .loginFail
    rw [sent]
    exact ⟨rfl, iff_of_true (distinct_erase distinct) fun _ idle => absurd none idle⟩
  | given passes idle =>
    refine ⟨rfl, (distinct_insert distinct).trans ?_⟩
    constructor
    · exact fun fresh _ _ => fresh
    · intro fresh
      apply fresh passes
      rw [idle]
      exact Option.some_ne_none _

theorem unique_finish {i : Nat} {outcome : Outcome} {time serverTime : Nat}
    (distinct : Distinct s.accts) (running : s.crashed = false) :
    Unique (s.finish i outcome time serverTime) ↔
      FreshIds s (.finish i outcome time serverTime) := by
  cases found : s.tasks[i]? with
  | none =>
    simp only [Login.finish, found, FreshIds]
    refine iff_of_true (fun _ => distinct) ?_
    intro _ data impossible
    cases impossible
  | some data =>
    have only : ∀ other, some data = some other → other = data := by
      intro other same
      exact (Option.some.inj same).symm
    simp only [Login.finish, found, FreshIds]
    cases kind : data.checkType with
    | newAccCheck =>
      refine iff_of_true ?_ ?_
      · intro _
        simp only [Login.createNewAccount]
        split
        · split
          · exact distinct
          · obtain ⟨log, sent⟩ := Login.sendClient_eq { s with tasks := s.tasks.eraseIdx i }
              data.ower data.asked .registerAccountFaild
            rw [sent]
            exact distinct
        · exact distinct
      · intro _ other same login
        rw [only other same, kind] at login
        cases login
    | loginCheck =>
      let popped : Login := { s with tasks := s.tasks.eraseIdx i }
      have checked := popped.checkAccountCall_checked data outcome time serverTime
      have idle : popped.getIdleGate = s.getIdleGate := Login.getIdleGate_congr rfl rfl
      obtain ⟨crashed, iff⟩ := distinct_checked checked distinct
      rw [idle] at iff
      constructor
      · intro unique _ other same _ passes gate
        rw [only other same] at passes ⊢
        exact iff.mp (unique (crashed.trans running)) passes gate
      · intro fresh _
        exact iff.mpr (fresh running data rfl kind)

theorem unique_register {g : GatePtr} {serverid : Nat} {ip : ByteWords.Bytes} {port : Nat}
    {accounts : OrderedMap AccountId TranId} (distinct : Distinct s.accts)
    (running : s.crashed = false) :
    Unique (s.parseGateRegister g serverid ip port accounts.entries) ↔
      FreshIds s (.gateRegister g serverid ip port accounts) := by
  by_cases agrees : s.Agrees (serverid % 2 ^ 8) accounts.entries
  · obtain ⟨gates, gateSession, registered⟩ := Login.parseGateRegister_agrees (g := g) ip port agrees
    rw [registered]
    constructor
    · intro unique _ _
      exact (distinct_reported distinct).mp (unique running)
    · intro fresh _
      exact (distinct_reported distinct).mpr (fresh running agrees)
  · refine iff_of_true ?_ fun _ other => absurd other agrees
    intro up
    rw [Login.parseGateRegister_crashes ip port agrees] at up
    cases up

/-- A step keeps the transids apart exactly if it takes a fresh one. -/
theorem unique_step (unique : Unique s) : Unique (step s event) ↔ FreshIds s event := by
  cases running : s.crashed with
  | true =>
    have stays : step s event = s := by simp [step, running]
    rw [stays]
    refine iff_of_true unique ?_
    cases event with
    | finish i outcome time serverTime => simp [FreshIds, running]
    | gateRegister g serverid ip port accounts => simp [FreshIds, running]
    | _ => trivial
  | false =>
    have distinct := unique running
    have steps : step s event = handle s event := by simp [step, running]
    rw [steps]
    by_cases records : RecordsAccounts event = true
    · cases event with
      | finish i outcome time serverTime => exact unique_finish distinct running
      | gateRegister g serverid ip port accounts => exact unique_register distinct running
      | _ => cases records
    · rw [Bool.not_eq_true] at records
      obtain ⟨accts, crashed⟩ := handle_kept (s := s) records
      refine iff_of_true ?_ ?_
      · intro _
        rw [accts]
        exact distinct
      · cases event with
        | finish i outcome time serverTime => cases records
        | gateRegister g serverid ip port accounts => cases records
        | _ => trivial

/-- Exactly the runs with fresh transids keep every account apart. -/
theorem transIds_unique_iff (events : List Event) :
    EveryState step Unique start events ↔ EveryStep step FreshIds start events := by
  apply everyState_iff_everyStep Unique fun _ => True
  · exact fun _ => id
  · intro s event _ unique fresh
    exact (unique_step unique).mpr fresh
  · intro s event _ unique later
    exact (unique_step unique).mp later
  · intro _
    constructor
    · intro a account found
      cases found
    · intro a b first second found
      cases found
  · intro event _
    trivial

/-- Nothing marks where the name ends: the same text cut elsewhere gives the same transid. -/
theorem undelimited_text (name middle pwd : ByteWords.Bytes) (p : SessionPtr)
    (asked other : Connection) (time : Nat) :
    s.newTransId ⟨name ++ middle, pwd, p, .loginCheck, asked⟩ time =
      s.newTransId ⟨name, middle ++ pwd, p, .loginCheck, other⟩ time := by
  simp [Login.newTransId, Login.loginText]

/-- Clients of one address log in within a second: "ab" with password "c", "a" with "bc". -/
theorem two_accounts_one_transId :
    ¬ EveryState step Unique start [.gateRegister 0 1 [] 0 .empty,
      .arm 7, .accept 7 [49], .request 7 .loginCheck [97, 98] [99],
      .arm 8, .accept 8 [49], .request 8 .loginCheck [97] [98, 99],
      .finish 0 ⟨true, 9, 0⟩ 1000 0, .finish 0 ⟨true, 6, 0⟩ 1000 0] := by
  intro all
  have distinct := (everyState_last all) (by decide +kernel)
  have same := distinct.2 9 6 ⟨3792220745, 1⟩ ⟨3792220745, 1⟩ (by decide +kernel) (by decide +kernel) rfl
  cases same

end TransIds
