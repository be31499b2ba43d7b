import DreamHeroes.GateLinks
import DreamHeroes.GateMaps

/- Whether the accounts that a gate reports when it registers again are recorded at that gate. -/
namespace GateRegistrations

open ByteWords GateLinks OrderedMaps ObjMap LabelledRuns
open LoginServer (Login GatePtr GateId AccountId TranId GateMessage invalidGateId maxGateId
  RecordsAccounts handle)
open GateServer (Gate invalidAccount)

/-- The assertion of parseGateRegister has not failed. -/
def Asserted (s : System) : Prop := s.login.crashed = false

/-- A registration overwrites no record of an account at another gate. -/
def KeepsRecords (s : System) (event : SystemEvent) : Prop :=
  ∀ p ip port a account, event = .register p ip port →
    getData s.login.accts a = some account → account.nGateId ≠ s.owner p →
      getData (step s event).login.accts a = some account

/- Which gate holds an account. -/

/-- The account is at the gate, online or waiting. -/
def Keeps (g : Gate) (a : AccountId) : Prop :=
  getData g.onlineaccs a ≠ none ∨ ∃ t, getData g.waitMap t = some a

/-- The account is at the gate or on its way there, and no kick will follow. -/
def Stays (s : System) (i : GateId) (a : AccountId) : Prop :=
  (Keeps (s.gate i) a ∨ ∃ t asked, .userLogin t a asked ∈ s.toGate i) ∧ ¬ Kicked (s.toGate i) a

/-- A registration of the gate that is not handled yet reports the account. -/
def Reported (s : System) (i : GateId) (a : AccountId) : Prop :=
  ∃ p accounts, s.register p = some accounts ∧ s.owner p = i ∧ getData accounts a ≠ none

def Holds (s : System) (i : GateId) (a : AccountId) : Prop := Stays s i a ∨ Reported s i a

/-- The login server knows that the gate holds the account, and its kick goes out on the
gate's present link. -/
def Reachable (s : System) (i : GateId) (a : AccountId) : Prop :=
  ∃ account p, getData s.login.accts a = some account ∧ account.nGateId = i ∧
    s.login.gates i = some p ∧ s.link i = some p ∧ ¬ Reported s i a

/-- The account waits under no other transid than the kicked one, and is not left in
m_onlineaccs by a kick of a transid that is not online. -/
def Forgets (g : Gate) (t : TranId) (a : AccountId) : Prop :=
  match getData g.onlines t with
  | some _ => ∀ k, getData g.waitMap k ≠ some a
  | none => (∀ k, getData g.waitMap k = some a → k = t) ∧
      (getData g.onlineaccs a = none ∨ (getData g.waitMap t = some a ∧ a ≠ invalidAccount))

/-- An account is admitted only while every other gate that holds it can be kicked, no link
is lost with a kick that is needed, and a last kick finds what it has to take away. -/
def Careful (s : System) : SystemEvent → Prop
  | .login (.finish n outcome _ _) => ∀ data g, s.login.tasks[n]? = some data →
      data.checkType = .loginCheck → s.login.Passes data outcome →
        s.login.getIdleGate = some g → ∀ i, Holds s i outcome.acct →
          i = (s.login.gateSession g).gateId ∨ Reachable s i outcome.acct
  | .deliver i => ∀ t a rest, s.toGate i = .kickUser t a :: rest → lastAbout a rest = none →
      Forgets (s.gate i) t a
  | .lose i => ∀ a, Kicked (s.toGate i) a → ¬ Keeps (s.gate i) a
  | _ => True

/- The gate's side. -/

section Gates

variable {g h : Gate} {event : GateServer.Event} {a : AccountId} {t : TranId}

theorem keeps_turn (turn : GateServer.Turn g event h) (other : ∀ t, event ≠ .addToWait t a)
    (kept : Keeps h a) : Keeps g a := by
  rcases kept with recorded | ⟨t, waiting⟩
  · obtain ⟨t, there⟩ := Option.ne_none_iff_exists'.mp recorded
    rcases GateMaps.onlineaccs_turn turn there with before | before
    · exact .inl (by simp [before])
    · exact .inr ⟨t, before⟩
  · rcases GateMaps.waitMap_turn turn waiting with before | added
    · exact .inr ⟨t, before⟩
    · exact absurd added (other t)

theorem not_keeps_kicked (forgets : Forgets g t a) : ¬ Keeps (g.kickUser t a) a := by
  unfold Forgets at forgets
  cases online : getData g.onlines t with
  | some p =>
    rw [online] at forgets
    obtain ⟨log, kicked⟩ := Gate.kickUser_online a online
    rw [kicked]
    rintro (recorded | ⟨k, waiting⟩)
    · simp at recorded
    · exact forgets k waiting
  | none =>
    rw [online] at forgets
    obtain ⟨only, absent | ⟨waits, valid⟩⟩ := forgets
    all_goals
      obtain ⟨log, kicked⟩ := Gate.kickUser_offline a online
      rw [kicked]
      rintro (recorded | ⟨k, waiting⟩)
    · apply recorded
      simp only [Gate.accountsAfterKick]
      split
      · split <;> simp [absent]
      · exact absent
    · simp at waiting
      exact waiting.1 (only k waiting.2).symm
    · simp [Gate.accountsAfterKick, waits, valid] at recorded
    · simp at waiting
      exact waiting.1 (only k waiting.2).symm

end Gates

section Kicks

variable {a : AccountId} {q r : List GateMessage}

/-- An account stays under kicks only if it stayed before. -/
theorem stays_kicks {g : Gate} (kicks : ∀ message ∈ r, ∃ t, message = .kickUser t a)
    (there : Keeps g a ∨ ∃ t asked, .userLogin t a asked ∈ q ++ r)
    (notKicked : ¬ Kicked (q ++ r) a) :
    (Keeps g a ∨ ∃ t asked, .userLogin t a asked ∈ q) ∧ ¬ Kicked q a := by
  constructor
  · rcases there with kept | ⟨t, asked, member⟩
    · exact .inl kept
    · rcases List.mem_append.mp member with old | added
      · exact .inr ⟨t, asked, old⟩
      · obtain ⟨k, same⟩ := kicks _ added
        cases same
  · intro kicked
    exact notKicked (kicked_append_kicks kicks kicked)

end Kicks

/- The invariant. -/

structure Sound (s : System) : Prop where
  asserted : Asserted s
  drained : s.login.toGates = []
  unique : ∀ a i j, Holds s i a → Holds s j a → i = j
  recorded : ∀ a account i, getData s.login.accts a = some account → Holds s i a →
    account.nGateId = i
  slots : ∀ i p, s.login.gates i = some p → invalidGateId < i ∧ i < maxGateId ∧
    (s.login.gateSession p).gateId = i ∧ s.owner p = i ∧ s.isOpen p = true
  links : ∀ i p, s.link i = some p → s.owner p = i
  idle : ∀ i, s.link i = none → s.toGate i = []
  reports : ∀ p accounts, s.register p = some accounts →
    invalidGateId < s.owner p ∧ s.owner p < maxGateId ∧ s.isOpen p = true

theorem holds_start (gsIdleMax : GateId → Nat) (i : GateId) (a : AccountId) :
    ¬ Holds (start gsIdleMax) i a := by
  rintro (⟨(recorded | ⟨t, waiting⟩) | ⟨t, asked, sent⟩, _⟩ | ⟨p, accounts, pending, _⟩)
  · exact recorded rfl
  · cases waiting
  · cases sent
  · cases pending

theorem sound_start (gsIdleMax : GateId → Nat) : Sound (start gsIdleMax) where
  asserted := rfl
  drained := rfl
  unique := fun a i j held _ => absurd held (holds_start gsIdleMax i a)
  recorded := fun a account i _ held => absurd held (holds_start gsIdleMax i a)
  slots := by
    intro i p active
    cases active
  links := by
    intro i p linked
    cases linked
  idle := fun _ _ => rfl
  reports := by
    intro p accounts pending
    cases pending

variable {s : System} {i : GateId} {a : AccountId}

/-- Steps that take accounts from gates and leave the connections alone. -/
theorem sound_fewer {after : System} (sound : Sound s) (login : after.login = s.login)
    (owner : after.owner = s.owner) (isOpen : after.isOpen = s.isOpen)
    (register : after.register = s.register)
    (fewer : ∀ i a, Stays after i a → Stays s i a)
    (links : ∀ i p, after.link i = some p → s.link i = some p)
    (idle : ∀ i, after.link i = none → after.toGate i = []) : Sound after := by
  have before : ∀ i a, Holds after i a → Holds s i a := by
    intro i a held
    unfold Holds Reported at held ⊢
    rw [register, owner] at held
    exact held.imp_left (fewer i a)
  constructor
  · rw [Asserted, login]
    exact sound.asserted
  · rw [login]
    exact sound.drained
  · intro a i j heldI heldJ
    exact sound.unique a i j (before i a heldI) (before j a heldJ)
  · rw [login]
    intro a account i found held
    exact sound.recorded a account i found (before i a held)
  · rw [login, owner, isOpen]
    exact sound.slots
  · rw [owner]
    intro i p linked
    exact sound.links i p (links i p linked)
  · exact idle
  · rw [register, owner, isOpen]
    exact sound.reports

theorem sound_gate {event : GateServer.Event} (sound : Sound s)
    (inside : fromLogin event = false) :
    Sound { s with gate := Function.update s.gate i (GateServer.step (s.gate i) event) } := by
  refine sound_fewer sound rfl rfl rfl rfl ?_ (fun _ _ => id) sound.idle
  intro j b ⟨there, notKicked⟩
  refine ⟨there.imp_left ?_, notKicked⟩
  intro kept
  by_cases here : j = i
  · subst here
    simp only [Function.update_self] at kept
    apply keeps_turn (GateServer.step_turn (s.gate j) event) _ kept
    rintro t rfl
    cases inside
  · simpa [here] using kept

/-- A message that a gate takes from its link moves an account in, or kicks one that no later
message is about. -/
theorem stays_received {g : Gate} {message : GateMessage} {rest : List GateMessage}
    (forgets : ∀ t, message = .kickUser t a → lastAbout a rest = none → Forgets g t a)
    (there : Keeps (receive g message) a ∨ ∃ t asked, .userLogin t a asked ∈ rest)
    (notKicked : ¬ Kicked rest a) :
    (Keeps g a ∨ ∃ t asked, .userLogin t a asked ∈ message :: rest) ∧
      ¬ Kicked (message :: rest) a := by
  constructor
  · rcases there with kept | ⟨t, asked, later⟩
    · cases message with
      | userLogin t b asked =>
        by_cases same : b = a
        · subst same
          exact .inr ⟨t, asked, List.mem_cons_self⟩
        · refine .inl (keeps_turn (GateServer.step_turn g (.addToWait t b)) ?_ kept)
          rintro k added
          cases added
          exact same rfl
      | kickUser t b =>
        refine .inl (keeps_turn (GateServer.step_turn g (.kickUser t b)) ?_ kept)
        rintro k added
        cases added
    · exact .inr ⟨t, asked, List.mem_cons_of_mem _ later⟩
  · rintro ⟨t, last⟩
    rw [lastAbout_cons] at last
    cases later : lastAbout a rest with
    | some message =>
      rw [later] at last
      exact notKicked ⟨t, later.trans last⟩
    | none =>
      rw [later, Option.none_or] at last
      split at last
      · cases last
        rcases there with kept | ⟨k, asked, member⟩
        · exact not_keeps_kicked (forgets t rfl later) kept
        · have unrelated := List.find?_eq_none.mp later _ (List.mem_reverse.mpr member)
          simp [about] at unrelated
      · cases last

theorem sound_deliver (sound : Sound s) (careful : Careful s (.deliver i)) :
    Sound (s.deliver i) := by
  unfold System.deliver
  split
  · rename_i message rest queue
    refine sound_fewer sound rfl rfl rfl rfl ?_ (fun _ _ => id) ?_
    · intro j b stays
      by_cases here : j = i
      · subst here
        unfold Stays at stays ⊢
        rw [queue]
        simp only [Function.update_self] at stays
        apply stays_received _ stays.1 stays.2
        rintro t rfl last
        exact careful t b rest queue last
      · simpa [Stays, here] using stays
    · intro j unlinked
      by_cases here : j = i
      · subst here
        rw [sound.idle j unlinked] at queue
        cases queue
      · simpa [here] using sound.idle j unlinked
  · exact sound

theorem sound_lose (sound : Sound s) (careful : Careful s (.lose i)) : Sound (s.lose i) := by
  refine sound_fewer sound rfl rfl rfl rfl ?_ ?_ ?_
  · intro j b stays
    by_cases here : j = i
    · subst here
      simp only [Stays, System.lose, Function.update_self, List.not_mem_nil, exists_false,
        or_false] at stays
      refine ⟨.inl stays.1, ?_⟩
      intro kicked
      exact careful b kicked stays.1
    · simpa [Stays, System.lose, here] using stays
  · intro j p linked
    by_cases here : j = i
    · simp [System.lose, here] at linked
    · simpa [System.lose, here] using linked
  · intro j unlinked
    by_cases here : j = i
    · simp [System.lose, here]
    · simp only [System.lose, ne_eq, here, not_false_eq_true, Function.update_of_ne] at unlinked ⊢
      exact sound.idle j unlinked

/-- The registration of a connection is handled or lost. -/
theorem holds_dropped {after : System} {j : GateId} {p : GatePtr} (held : Holds after j a)
    (stays : Stays after j a → Stays s j a) (owner : after.owner = s.owner)
    (register : after.register = Function.update s.register p none) : Holds s j a := by
  rcases held with still | ⟨q, accounts, pending, own, reported⟩
  · exact .inl (stays still)
  · rw [register] at pending
    rw [owner] at own
    by_cases here : q = p
    · simp [here] at pending
    · rw [Function.update_of_ne here] at pending
      exact .inr ⟨q, accounts, pending, own, reported⟩

/-- A gate that connects registers with what it holds already. -/
theorem holds_connected {j : GateId} {p : GatePtr} (sound : Sound s) (unlinked : s.link i = none)
    (held : Holds { s with
      link := Function.update s.link i (some p)
      owner := Function.update s.owner p i
      isOpen := Function.update s.isOpen p true
      register := Function.update s.register p (some (s.gate i).onlineaccs) } j a) :
    Holds s j a := by
  rcases held with stays | ⟨q, accounts, pending, own, reported⟩
  · exact .inl stays
  · by_cases new : q = p
    · subst new
      simp only [Function.update_self] at pending own
      cases pending
      subst own
      refine .inl ⟨.inl (.inl reported), ?_⟩
      rw [sound.idle i unlinked]
      rintro ⟨t, last⟩
      cases last
    · simp only [ne_eq, new, not_false_eq_true, Function.update_of_ne] at pending own
      exact .inr ⟨q, accounts, pending, own, reported⟩

theorem sound_connect {p : GatePtr} (sound : Sound s) : Sound (s.connect i p) := by
  unfold System.connect
  split
  · rename_i fits
    obtain ⟨low, high, unlinked, closed, free⟩ := fits
    have apart : ∀ q, s.isOpen q = true → q ≠ p := by
      rintro q isOpen rfl
      rw [closed] at isOpen
      cases isOpen
    have before := fun j b => holds_connected (j := j) (a := b) (p := p) sound unlinked
    constructor
    · exact sound.asserted
    · exact sound.drained
    · intro b j k heldJ heldK
      exact sound.unique b j k (before j b heldJ) (before k b heldK)
    · intro b account j found held
      exact sound.recorded b account j found (before j b held)
    · intro j q active
      obtain ⟨low, high, named, own, isOpen⟩ := sound.slots j q active
      simp only [ne_eq, apart q isOpen, not_false_eq_true, Function.update_of_ne]
      exact ⟨low, high, named, own, isOpen⟩
    · intro j q linked
      by_cases here : j = i
      · subst here
        simp only [Function.update_self, Option.some.injEq] at linked
        simp [linked]
      · simp only [ne_eq, here, not_false_eq_true, Function.update_of_ne] at linked
        have own := sound.links j q linked
        have other : q ≠ p := by
          rintro rfl
          exact free (own ▸ linked)
        simpa [other] using own
    · intro j none
      by_cases here : j = i
      · simp [here] at none
      · simp only [ne_eq, here, not_false_eq_true, Function.update_of_ne] at none
        exact sound.idle j none
    · intro q accounts pending
      by_cases new : q = p
      · subst new
        simp [low, high]
      · simp only [ne_eq, new, not_false_eq_true, Function.update_of_ne] at pending ⊢
        exact sound.reports q accounts pending
  · exact sound

/-- A connection that is closed takes its gate out of m_Gates. -/
theorem step_gateClose (sound : Sound s) (p : GatePtr) :
    ∃ gates, LoginServer.step s.login (.gateClose p) = ({ s.login with gates := gates } : Login) ∧
      (∀ i, gates i ≠ some p) ∧ ∀ i q, gates i = some q → s.login.gates i = some q := by
  have running : ¬ s.login.crashed = true := by
    rw [sound.asserted]
    exact Bool.false_ne_true
  rw [LoginServer.step, if_neg running, handle, Login.removeGate]
  simp only
  split
  · rename_i active
    refine ⟨_, rfl, ?_, ?_⟩
    · intro i here
      by_cases same : i = (s.login.gateSession p).gateId
      · simp [same] at here
      · simp only [ne_eq, same, not_false_eq_true, Function.update_of_ne] at here
        exact same (sound.slots i p here).2.2.1.symm
    · intro i q here
      by_cases same : i = (s.login.gateSession p).gateId
      · simp [same] at here
      · simpa [same] using here
  · rename_i inactive
    refine ⟨s.login.gates, rfl, ?_, fun _ _ => id⟩
    intro i here
    obtain ⟨low, high, named, _⟩ := sound.slots i p here
    exact inactive ⟨named.symm ▸ low, named.symm ▸ high, named.symm ▸ here⟩

theorem sound_close {p : GatePtr} (sound : Sound s) : Sound (s.close p) := by
  unfold System.close
  split
  · obtain ⟨gates, closed, gone, fewer⟩ := step_gateClose sound p
    have silent : ({ s.login with gates := gates } : Login).toGates = [] := sound.drained
    rw [closed, setLogin_silent silent]
    constructor
    · exact sound.asserted
    · exact sound.drained
    · intro b j k heldJ heldK
      exact sound.unique b j k (holds_dropped heldJ id rfl rfl) (holds_dropped heldK id rfl rfl)
    · intro b account j found held
      exact sound.recorded b account j found (holds_dropped held id rfl rfl)
    · intro j q active
      have other : q ≠ p := by
        rintro rfl
        exact gone j active
      simpa [other] using sound.slots j q (fewer j q active)
    · exact sound.links
    · exact sound.idle
    · intro q accounts pending
      by_cases here : q = p
      · simp [here] at pending
      · simp only [ne_eq, here, not_false_eq_true, Function.update_of_ne] at pending ⊢
        exact sound.reports q accounts pending
  · exact sound

/-- What the handling of a registration does to the login server. -/
theorem sound_agrees {p : GatePtr} {accounts : OrderedMap AccountId TranId} (sound : Sound s)
    (pending : s.register p = some accounts) : s.login.Agrees (s.owner p) accounts.entries := by
  intro entry member account found
  have listed : getData accounts entry.1 = some entry.2 := OrderedMap.find?_eq_some.mpr member
  have reported : Reported s (s.owner p) entry.1 := ⟨p, accounts, pending, rfl, by simp [listed]⟩
  exact sound.recorded entry.1 account (s.owner p) found (.inr reported)

theorem step_register {p : GatePtr} {accounts : OrderedMap AccountId TranId} (sound : Sound s)
    (pending : s.register p = some accounts) (ip : Bytes) (port : Nat) :
    LoginServer.step s.login (.gateRegister p (s.owner p) ip port accounts) = { s.login with
      gates := Function.update s.login.gates (s.owner p) (some p)
      gateSession := Function.update s.login.gateSession p { s.login.gateSession p with
        gateId := s.owner p
        onlines := accounts.entries.length
        outIp := ip
        outPort := port }
      accts := Login.reported (s.owner p) accounts.entries s.login.accts } := by
  obtain ⟨low, high, _⟩ := sound.reports p accounts pending
  have running : ¬ s.login.crashed = true := by
    rw [sound.asserted]
    exact Bool.false_ne_true
  have whole : s.owner p % 2 ^ 8 = s.owner p := Nat.mod_eq_of_lt (Nat.lt_succ_of_lt high)
  rw [LoginServer.step, if_neg running, handle]
  exact Login.parseGateRegister_listed ip port whole ⟨low, high⟩ (sound_agrees sound pending)

theorem sound_register {p : GatePtr} {ip : Bytes} {port : Nat} (sound : Sound s) :
    Sound (s.handleRegister p ip port) := by
  unfold System.handleRegister
  split
  · rename_i accounts pending
    obtain ⟨low, high, isOpen⟩ := sound.reports p accounts pending
    have silent : ({ s.login with
      gates := Function.update s.login.gates (s.owner p) (some p)
      gateSession := Function.update s.login.gateSession p { s.login.gateSession p with
        gateId := s.owner p
        onlines := accounts.entries.length
        outIp := ip
        outPort := port }
      accts := Login.reported (s.owner p) accounts.entries s.login.accts } : Login).toGates = [] :=
      sound.drained
    rw [step_register sound pending, setLogin_silent silent]
    constructor
    · exact sound.asserted
    · exact sound.drained
    · intro b j k heldJ heldK
      exact sound.unique b j k (holds_dropped heldJ id rfl rfl) (holds_dropped heldK id rfl rfl)
    · intro b account j found held
      have before : Holds s j b := holds_dropped held id rfl rfl
      by_cases listed : ∃ t, (b, t) ∈ accounts.entries
      · obtain ⟨t, member⟩ := listed
        have entry : getData accounts b = some t := OrderedMap.find?_eq_some.mpr member
        have reported : Holds s (s.owner p) b := .inr ⟨p, accounts, pending, rfl, by simp [entry]⟩
        simp only [Login.reported_listed accounts.sorted member, Option.some.injEq] at found
        rw [← found]
        exact sound.unique b (s.owner p) j reported before
      · have unlisted : ∀ t, (b, t) ∉ accounts.entries := fun t member => listed ⟨t, member⟩
        simp only [Login.reported_unlisted unlisted] at found
        exact sound.recorded b account j found before
    · intro j q active
      by_cases here : j = s.owner p
      · simp only [here, Function.update_self, Option.some.injEq] at active
        subst active
        simp [here, low, high, isOpen]
      · simp only [ne_eq, here, not_false_eq_true, Function.update_of_ne] at active
        obtain ⟨lowJ, highJ, named, own, openQ⟩ := sound.slots j q active
        have other : q ≠ p := by
          rintro rfl
          exact here own.symm
        simp [other, lowJ, highJ, named, own, openQ]
    · exact sound.links
    · exact sound.idle
    · intro q others waits
      by_cases here : q = p
      · simp [here] at waits
      · simp only [ne_eq, here, not_false_eq_true, Function.update_of_ne] at waits
        exact sound.reports q others waits
  · exact sound

/-- A registration that overwrites a record overwrites one of its own gate. -/
theorem keepsRecords_step {event : SystemEvent} (sound : Sound s) : KeepsRecords s event := by
  rintro p ip port b account rfl found elsewhere
  simp only [step, System.handleRegister]
  split
  · rename_i accounts pending
    have unlisted : ∀ t, (b, t) ∉ accounts.entries := by
      intro t member
      exact elsewhere (sound_agrees sound pending (b, t) member account found)
    rw [step_register sound pending]
    simp only [System.setLogin, Login.reported_unlisted unlisted]
    exact found
  · exact found

section Telling

variable {login : Login} {orders : List (GatePtr × GateMessage)}

/-- Orders about one account change nothing about where the others are. -/
theorem holds_others {b : AccountId} (related : ∀ order ∈ login.toGates, about a order.2 = true)
    (other : b ≠ a) (held : Holds (s.setLogin login) i b) : Holds s i b := by
  rcases held with ⟨there, notKicked⟩ | reported
  · have unrelated : ∀ message ∈ passedOn (s.link i) login.toGates, about b message = false := by
      intro message member
      obtain ⟨p, order, _⟩ := mem_passedOn.mp member
      exact about_others other (related _ order)
    refine .inl ⟨there.imp_right ?_, ?_⟩
    · rintro ⟨t, asked, member⟩
      rcases List.mem_append.mp member with old | added
      · exact ⟨t, asked, old⟩
      · have mismatch := unrelated _ added
        simp [about] at mismatch
    · intro kicked
      exact notKicked ((kicked_append_others unrelated).mpr kicked)
  · exact .inr reported

/-- A gate that gets kicks only holds no more than before. -/
theorem holds_kicks (kicks : ∀ message ∈ passedOn (s.link i) login.toGates,
    ∃ t, message = .kickUser t a) (held : Holds (s.setLogin login) i a) : Holds s i a := by
  rcases held with ⟨there, notKicked⟩ | reported
  · exact .inl (stays_kicks kicks there notKicked)
  · exact .inr reported

theorem sound_told (sound : Sound s) (told : Told s.login login a orders)
    (related : ∀ order ∈ orders, about a order.2 = true)
    (single : ∀ i j, Holds (s.setLogin login) i a → Holds (s.setLogin login) j a → i = j)
    (own : ∀ account i, getData login.accts a = some account → Holds (s.setLogin login) i a →
      account.nGateId = i) : Sound (s.setLogin login) := by
  have sent : ∀ order ∈ login.toGates, about a order.2 = true := by
    rw [told.toGates, sound.drained]
    exact related
  constructor
  · exact told.crashed.trans sound.asserted
  · rfl
  · intro b j k heldJ heldK
    by_cases same : b = a
    · subst same
      exact single j k heldJ heldK
    · exact sound.unique b j k (holds_others sent same heldJ) (holds_others sent same heldK)
  · intro b account j found held
    by_cases same : b = a
    · subst same
      exact own account j found held
    · simp only [System.setLogin, told.others b same] at found
      exact sound.recorded b account j found (holds_others sent same held)
  · intro j q active
    simp only [System.setLogin, told.gates, told.gateIds] at active ⊢
    exact sound.slots j q active
  · exact sound.links
  · intro j unlinked
    have gone : s.link j = none := unlinked
    simp [System.setLogin, sound.idle j gone, gone, passedOn]
  · exact sound.reports

/-- An admission: every other gate that holds the account gets the kick. -/
theorem holds_given {t : TranId} {asked : LoginServer.Connection} {g : GatePtr} (sound : Sound s)
    (toGates : login.toGates = s.login.kickOrders a ++ [(g, .userLogin t a asked)])
    (idle : s.login.getIdleGate = some g)
    (careful : ∀ i, Holds s i a → i = (s.login.gateSession g).gateId ∨ Reachable s i a)
    (held : Holds (s.setLogin login) i a) : i = (s.login.gateSession g).gateId := by
  obtain ⟨k, active⟩ := Login.getIdleGate_active idle
  obtain ⟨_, _, named, own, _⟩ := sound.slots k g active
  by_cases here : s.link i = some g
  · rw [named, ← own]
    exact (sound.links i g here).symm
  · have passed : passedOn (s.link i) login.toGates =
        passedOn (s.link i) (s.login.kickOrders a) := by
      simp [toGates, passedOn, here]
    have before : Holds s i a := by
      apply holds_kicks _ held
      rw [passed]
      intro message member
      exact passedOn_kicks member
    rcases careful i before with same | ⟨account, p, found, at', slot, linked, unreported⟩
    · exact same
    · have range := (sound.slots i p slot).2.1
      have kick : s.login.kickOrders a = [(p, .kickUser account.nTranId a)] := by
        simp [Login.kickOrders, found, at', range, slot]
      rcases held with ⟨_, notKicked⟩ | reported
      · have only : passedOn (s.link i) login.toGates = [.kickUser account.nTranId a] := by
          rw [passed, kick]
          simp [passedOn, linked]
        refine absurd ?_ notKicked
        change Kicked (s.toGate i ++ passedOn (s.link i) login.toGates) a
        rw [only]
        exact kicked_append_kick account.nTranId
      · exact absurd reported unreported

theorem sound_admission {n : Nat} {outcome : LoginServer.Outcome} {time serverTime : Nat}
    (sound : Sound s) (careful : Careful s (.login (.finish n outcome time serverTime)))
    (told : Told s.login login outcome.acct orders)
    (admission : Admission s.login n outcome (getData login.accts outcome.acct) orders) :
    Sound (s.setLogin login) := by
  have related := admission_about admission
  have toGates : login.toGates = orders := by rw [told.toGates, sound.drained, List.nil_append]
  generalize record : getData login.accts outcome.acct = entry at admission
  cases admission with
  | none =>
    have before : ∀ i, Holds (s.setLogin login) i outcome.acct → Holds s i outcome.acct := by
      intro i held
      apply holds_kicks _ held
      intro message member
      rw [toGates] at member
      cases member
    apply sound_told sound told related
    · intro j k heldJ heldK
      exact sound.unique _ j k (before j heldJ) (before k heldK)
    · rw [record]
      intro account j found held
      exact sound.recorded _ account j found (before j held)
  | noGate =>
    have before : ∀ i, Holds (s.setLogin login) i outcome.acct → Holds s i outcome.acct := by
      intro i held
      apply holds_kicks _ held
      rw [toGates]
      intro message member
      exact passedOn_kicks member
    apply sound_told sound told related
    · intro j k heldJ heldK
      exact sound.unique _ j k (before j heldJ) (before k heldK)
    · rw [record]
      intro account j found
      cases found
  | @given data g t task kind passes idle =>
    have there : ∀ i, Holds (s.setLogin login) i outcome.acct →
        i = (s.login.gateSession g).gateId := by
      intro i held
      exact holds_given sound toGates idle (careful data g task kind passes idle) held
    apply sound_told sound told related
    · intro j k heldJ heldK
      rw [there j heldJ, there k heldK]
    · rw [record]
      intro account j found held
      cases found
      exact (there j held).symm

end Telling

theorem sound_login {event : LoginServer.Event} (sound : Sound s) (inside : onLink event = false)
    (careful : Careful s (.login event)) :
    Sound (s.setLogin (LoginServer.step s.login event)) := by
  have running : ¬ s.login.crashed = true := by
    rw [sound.asserted]
    exact Bool.false_ne_true
  rw [LoginServer.step, if_neg running]
  by_cases quiet : RecordsAccounts event = false
  · have told := quiet_told s.login 0 inside quiet
    have silent : (handle s.login event).toGates = [] := by
      rw [told.toGates, sound.drained]
      rfl
    have same : (handle s.login event).accts = s.login.accts :=
      (LoginServer.handle_kept quiet).1
    have before : ∀ i a, Holds (s.setLogin (handle s.login event)) i a → Holds s i a := by
      rw [setLogin_silent silent]
      intro i a held
      exact held
    apply sound_told sound told
    · intro order member
      cases member
    · intro j k heldJ heldK
      exact sound.unique 0 j k (before j 0 heldJ) (before k 0 heldK)
    · rw [same]
      intro account j found held
      exact sound.recorded 0 account j found (before j 0 held)
  · cases event with
    | finish n outcome time serverTime =>
      obtain ⟨orders, told, admission⟩ := finish_told s.login n outcome time serverTime
      exact sound_admission sound careful told admission
    | gateRegister g serverid ip port accounts => cases inside
    | _ => exact absurd rfl quiet

theorem sound_step {event : SystemEvent} (sound : Sound s) (careful : Careful s event) :
    Sound (step s event) := by
  cases event with
  | login event =>
    simp only [step]
    split
    · exact sound
    · rename_i inside
      exact sound_login sound (Bool.eq_false_iff.mpr inside) careful
  | gate i event =>
    simp only [step]
    split
    · exact sound
    · rename_i inside
      exact sound_gate sound (Bool.eq_false_iff.mpr inside)
  | connect i p => exact sound_connect sound
  | register p ip port => exact sound_register sound
  | deliver i => exact sound_deliver sound careful
  | lose i => exact sound_lose sound careful
  | close p => exact sound_close sound

/-- In every careful run no registration fails the assertion or overwrites the record of an
account at another gate. -/
theorem registrations_agree (gsIdleMax : GateId → Nat) (events : List SystemEvent)
    (careful : EveryStep step Careful (start gsIdleMax) events) :
    EveryState step Asserted (start gsIdleMax) events ∧
      EveryStep step KeepsRecords (start gsIdleMax) events := by
  have keep : ∀ s event, Sound s → Careful s event → Sound (step s event) :=
    fun _ _ => sound_step
  constructor
  · exact everyState_imp (fun _ sound => sound.asserted)
      (everyState_of_everyStep keep (sound_start gsIdleMax) careful)
  · exact everyStep_of_invariant keep (fun _ _ sound _ => keepsRecords_step sound)
      (sound_start gsIdleMax) careful

/-- A client is admitted at gate 1. -/
def admitted : List SystemEvent := [.connect 1 0, .register 0 [] 0, .login (.arm 7),
  .login (.accept 7 [49]), .login (.request 7 .loginCheck [97] [98]),
  .login (.finish 0 ⟨true, 9, 0⟩ 1000 0)]

theorem registrations_agree_admitted :
    EveryState step Asserted (start fun _ => 100) (admitted ++ [.deliver 1, .lose 1]) ∧
      EveryStep step KeepsRecords (start fun _ => 100) (admitted ++ [.deliver 1, .lose 1]) := by
  apply registrations_agree
  refine ⟨trivial, trivial, trivial, trivial, trivial, ?_, ?_, ?_, trivial⟩
  · intro data g task kind passes idle i held
    rcases held with ⟨(recorded | ⟨t, waiting⟩) | ⟨t, asked, sent⟩, _⟩ | ⟨p, accounts, pending, _⟩
    · exact absurd rfl recorded
    · cases waiting
    · exact absurd sent List.not_mem_nil
    · by_cases here : p = 0
      · subst here
        cases pending
      · change Function.update (Function.update (fun _ => none) 0 _) 0 none p = _ at pending
        simp [here] at pending
  · intro t a rest queue last
    cases queue
  · intro a ⟨t, last⟩
    cases last

/-- The client is online at gate 1, whose link is lost, and logs in again at gate 2. Then gate 1
comes back. -/
theorem gate_comes_back :
    ¬ EveryState step Asserted (start fun _ => 100) (admitted ++ [.deliver 1,
      .gate 1 (.gameRegister 0 1), .gate 1 (.accept 5), .gate 1 (.loginGame 5 4239645507),
      .lose 1, .close 0, .connect 2 1, .register 1 [] 0,
      .login (.request 7 .loginCheck [97] [98]), .login (.finish 0 ⟨true, 9, 0⟩ 2000 0),
      .connect 1 2, .register 2 [] 0]) := by
  intro all
  have asserted := everyState_last all
  revert asserted
  unfold Asserted
  decide +kernel

end GateRegistrations
