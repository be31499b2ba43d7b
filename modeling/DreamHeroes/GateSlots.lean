import DreamHeroes.GameServer

/- The table of gates of the game server, over links that are opened, register, maybe several
   times, and are closed. A link object of the pool keeps the id of its earlier connection. -/
namespace GateSlots

open GameServer LabelledRuns

/- The fields of ServerVersion, and of Version. -/
structure Version where
  major : Nat
  minor : Nat
  build : Nat
  appSvn : Nat
  deriving DecidableEq, Repr

/-- gGSVersion -/
def Version.current : Version := ⟨0, 0, 1, 1⟩

/- The fields of the message are cut to an u16. -/
def Version.checkVersion (own v : Version) : Bool :=
  own.major = v.major % 2 ^ 16 && own.minor = v.minor % 2 ^ 16 &&
    own.build = v.build % 2 ^ 16 && v.appSvn % 2 ^ 16 = own.appSvn

/- MsgServerRegister -/
structure Registration where
  serverid : Nat
  version : Version
  deriving DecidableEq, Repr

/- registered is a history value: what a link registered with last since it was opened. -/
structure Links where
  server : Server
  isOpen : LinkPtr → Bool
  registered : LinkPtr → Option Registration

namespace Links

def openLink (s : Links) (link : LinkPtr) : Links :=
  if s.isOpen link then s
  else { s with
    isOpen := Function.update s.isOpen link true
    registered := Function.update s.registered link none }

/- close() for a version that is too old only posts handle_close; on_close comes later. -/
def parseGateRegister (s : Links) (link : LinkPtr) (msg : Registration) : Links :=
  if s.isOpen link then
    { s with
      server := s.server.parseGateRegister link msg.serverid
      registered := Function.update s.registered link (some msg) }
  else s

def onClose (s : Links) (link : LinkPtr) : Links :=
  if s.isOpen link then
    { s with
      server := s.server.removeGate link
      isOpen := Function.update s.isOpen link false }
  else s

end Links

inductive Event where
  | openLink (link : LinkPtr)
  | register (link : LinkPtr) (msg : Registration)
  | onClose (link : LinkPtr)

def step (s : Links) : Event → Links
  | .openLink link => s.openLink link
  | .register link msg => s.parseGateRegister link msg
  | .onClose link => s.onClose link

/-- A server without gates, whatever else it holds. -/
def start (server : Server) : Links where
  server := { server with gates := fun _ => none, gateId := fun _ => invalidGateId }
  isOpen := fun _ => false
  registered := fun _ => none

/-- Every slot holds an open link that registered last with the number of the slot and with the
version of the server. -/
def Trusted (s : Links) : Prop :=
  ∀ gate link, s.server.gates gate = some link →
    s.isOpen link = true ∧ ∃ msg, s.registered link = some msg ∧ msg.serverid = gate ∧
      Version.current.checkVersion msg.version = true

abbrev Slot (gate : GateId) : Prop := invalidGateId < gate ∧ gate < maxGateId

/-- A registration that gets a slot has the version of the server and an id that is not cut, and
a link that has a slot registers only with its number. -/
def Proper (s : Links) : Event → Prop
  | .register link msg => s.isOpen link = true →
      (∀ gate, s.server.gates gate = some link → gate = msg.serverid) ∧
      (Slot (msg.serverid % 2 ^ 16) → msg.serverid < 2 ^ 16 ∧
        Version.current.checkVersion msg.version = true)
  | _ => True

variable {s : Links} {link : LinkPtr} {msg : Registration} {event : Event}

/-- What a link registered with last is in the link object, and only slots of the table are
used. -/
structure Sound (s : Links) : Prop where
  trusted : Trusted s
  slots : ∀ gate link, s.server.gates gate = some link → Slot gate
  ids : ∀ link msg, s.registered link = some msg → s.server.gateId link = msg.serverid % 2 ^ 16

theorem register_gateId (server : Server) (link : LinkPtr) (serverid : Nat) :
    (server.parseGateRegister link serverid).gateId =
      Function.update server.gateId link (serverid % 2 ^ 16) := by
  simp only [Server.parseGateRegister, Server.addGate]
  split <;> rfl

theorem addGate_gates (server : Server) (id gate : GateId) (link other : LinkPtr) :
    (server.addGate id link).gates gate = some other ↔
      (gate = id ∧ Slot gate ∧ other = link) ∨
        (¬ (gate = id ∧ Slot gate) ∧ server.gates gate = some other) := by
  unfold Server.addGate
  by_cases slot : Slot id
  · rw [if_pos slot]
    by_cases here : gate = id
    · subst here
      constructor
      · intro held
        simp only [Function.update_self, Option.some.injEq] at held
        exact .inl ⟨rfl, slot, held.symm⟩
      · rintro (⟨_, _, rfl⟩ | ⟨never, _⟩)
        · exact Function.update_self _ _ _
        · exact absurd ⟨rfl, slot⟩ never
    · simp only [ne_eq, here, not_false_eq_true, Function.update_of_ne, false_and, true_and,
        false_or]
  · rw [if_neg slot]
    have never : ¬ (gate = id ∧ Slot gate) := by
      rintro ⟨rfl, taken⟩
      exact slot taken
    constructor
    · intro held
      exact .inr ⟨never, held⟩
    · rintro (⟨here, taken, _⟩ | ⟨_, held⟩)
      · exact absurd ⟨here, taken⟩ never
      · exact held

/-- A registration takes the slot of its id, if there is one. -/
theorem register_gates (server : Server) (link : LinkPtr) (serverid : Nat) (gate : GateId)
    (other : LinkPtr) :
    (server.parseGateRegister link serverid).gates gate = some other ↔
      (gate = serverid % 2 ^ 16 ∧ Slot gate ∧ other = link) ∨
        (¬ (gate = serverid % 2 ^ 16 ∧ Slot gate) ∧ server.gates gate = some other) :=
  addGate_gates _ _ _ _ _

/-- A close empties the slot of the id in the link object, if the link has it. -/
theorem removeGate_gates (server : Server) (link : LinkPtr) (gate : GateId) (other : LinkPtr) :
    (server.removeGate link).gates gate = some other ↔
      server.gates gate = some other ∧
        ¬ (gate = server.gateId link ∧ Slot gate ∧ other = link) := by
  simp only [Server.removeGate]
  split
  · rename_i frees
    by_cases here : gate = server.gateId link
    · subst here
      constructor
      · intro impossible
        simp only [Function.update_self] at impossible
        cases impossible
      · rintro ⟨held, kept⟩
        have same := Option.some.inj (held.symm.trans frees.2.2)
        exact absurd ⟨rfl, ⟨frees.1, frees.2.1⟩, same⟩ kept
    · simp only [ne_eq, here, not_false_eq_true, Function.update_of_ne, false_and, and_true]
      rfl
  · rename_i stays
    constructor
    · intro held
      refine ⟨held, ?_⟩
      rintro ⟨rfl, slot, rfl⟩
      exact stays ⟨slot.1, slot.2, held⟩
    · exact And.left

theorem removeGate_gateId (server : Server) (link : LinkPtr) :
    (server.removeGate link).gateId = server.gateId := by
  simp only [Server.removeGate]
  split <;> rfl

theorem sound_start (server : Server) : Sound (start server) where
  trusted := by
    intro gate link held
    cases held
  slots := by
    intro gate link held
    cases held
  ids := by
    intro link msg none
    cases none

theorem sound_openLink (sound : Sound s) : Sound (s.openLink link) := by
  unfold Links.openLink
  split
  · exact sound
  · rename_i closed
    refine ⟨?_, sound.slots, ?_⟩
    · intro gate other held
      obtain ⟨opened, msg, registered, good⟩ := sound.trusted gate other held
      have elsewhere : other ≠ link := by
        rintro rfl
        exact closed opened
      simp only [ne_eq, elsewhere, not_false_eq_true, Function.update_of_ne]
      exact ⟨opened, msg, registered, good⟩
    · intro other msg registered
      by_cases here : other = link
      · subst here
        simp at registered
      · exact sound.ids other msg (by simpa [here] using registered)

theorem sound_register (sound : Sound s) (proper : Proper s (.register link msg)) :
    Sound (s.parseGateRegister link msg) := by
  unfold Links.parseGateRegister
  split
  · rename_i opened
    obtain ⟨own, passes⟩ := proper opened
    refine ⟨?_, ?_, ?_⟩
    · intro gate other held
      rcases (register_gates _ _ _ _ _).mp held with ⟨rfl, slot, rfl⟩ | ⟨_, before⟩
      · obtain ⟨whole, passed⟩ := passes slot
        refine ⟨opened, msg, ?_, (Nat.mod_eq_of_lt whole).symm, passed⟩
        simp
      · by_cases here : other = link
        · subst here
          obtain rfl := own gate before
          have slot := sound.slots _ _ before
          have whole : msg.serverid % 2 ^ 16 = msg.serverid :=
            Nat.mod_eq_of_lt (Nat.lt_trans slot.2 (by decide))
          refine ⟨opened, msg, ?_, rfl, (passes (whole.symm ▸ slot)).2⟩
          simp
        · simpa [here] using sound.trusted gate other before
    · intro gate other held
      rcases (register_gates _ _ _ _ _).mp held with ⟨_, slot, _⟩ | ⟨_, before⟩
      · exact slot
      · exact sound.slots gate other before
    · intro other last registered
      simp only [register_gateId]
      by_cases here : other = link
      · subst here
        simp only [Function.update_self, Option.some.injEq] at registered ⊢
        rw [registered]
      · simp only [ne_eq, here, not_false_eq_true, Function.update_of_ne] at registered ⊢
        exact sound.ids other last registered
  · exact sound

theorem sound_onClose (sound : Sound s) : Sound (s.onClose link) := by
  unfold Links.onClose
  split
  · refine ⟨?_, ?_, ?_⟩
    · intro gate other held
      obtain ⟨before, kept⟩ := (removeGate_gates _ _ _ _).mp held
      obtain ⟨opened, msg, registered, number, passed⟩ := sound.trusted gate other before
      have elsewhere : other ≠ link := by
        rintro rfl
        have slot := sound.slots gate other before
        apply kept
        refine ⟨?_, slot, rfl⟩
        rw [sound.ids other msg registered, number]
        exact (Nat.mod_eq_of_lt (Nat.lt_trans slot.2 (by decide))).symm
      simp only [ne_eq, elsewhere, not_false_eq_true, Function.update_of_ne]
      exact ⟨opened, msg, registered, number, passed⟩
    · intro gate other held
      exact sound.slots gate other ((removeGate_gates _ _ _ _).mp held).1
    · simp only [removeGate_gateId]
      exact sound.ids
  · exact sound

theorem sound_step (sound : Sound s) (proper : Proper s event) : Sound (step s event) := by
  cases event with
  | openLink link => exact sound_openLink sound
  | register link msg => exact sound_register sound proper
  | onClose link => exact sound_onClose sound

/-- A registration that is not proper shows in the table at once. -/
theorem trusted_proper (trusted : Trusted (step s event)) : Proper s event := by
  cases event with
  | openLink link => trivial
  | register link msg =>
    intro opened
    simp only [step, Links.parseGateRegister, opened, if_true, Trusted, register_gates] at trusted
    constructor
    · intro gate held
      have now : (gate = msg.serverid % 2 ^ 16 ∧ Slot gate ∧ link = link) ∨
          (¬ (gate = msg.serverid % 2 ^ 16 ∧ Slot gate) ∧ s.server.gates gate = some link) := by
        by_cases taken : gate = msg.serverid % 2 ^ 16 ∧ Slot gate
        · exact .inl ⟨taken.1, taken.2, rfl⟩
        · exact .inr ⟨taken, held⟩
      obtain ⟨_, last, registered, number, _⟩ := trusted gate link now
      simp only [Function.update_self, Option.some.injEq] at registered
      rw [← number, registered]
    · intro slot
      obtain ⟨_, last, registered, number, passed⟩ := trusted _ link (.inl ⟨rfl, slot, rfl⟩)
      simp only [Function.update_self, Option.some.injEq] at registered
      subst registered
      exact ⟨number ▸ Nat.mod_lt _ (by decide), passed⟩
  | onClose link => trivial

/-- The table can be trusted in exactly the runs whose registrations are proper. -/
theorem slots_trusted_iff (server : Server) (events : List Event) :
    EveryState step Trusted (start server) events ↔
      EveryStep step Proper (start server) events := by
  apply everyState_iff_everyStep Sound fun _ => True
  · intro s sound
    exact sound.trusted
  · intro s event _
    exact sound_step
  · intro s event _ _
    exact trusted_proper
  · exact sound_start server
  · intro event _
    trivial

/-- What the game server sends to a gate goes to an open link that registered for it. -/
theorem sendMessage_trusted (trusted : Trusted s) (message : GameHero.ClientMessage) (flag : TranId)
    (gate : GateId) :
    (s.server.sendMessage message flag gate).toGates = s.server.toGates ∨
      ∃ link, (s.server.sendMessage message flag gate).toGates =
        s.server.toGates ++ [(link, flag, message)] ∧ s.isOpen link = true ∧
        ∃ msg, s.registered link = some msg ∧ msg.serverid = gate ∧
          Version.current.checkVersion msg.version = true := by
  unfold Server.sendMessage
  split
  · split
    · rename_i link held
      exact .inr ⟨link, rfl, trusted gate link held⟩
    · exact .inl rfl
  · exact .inl rfl

/-- A gate that registers with a second id leaves a slot behind that its close does not empty. -/
theorem second_id_stays :
    ¬ EveryState step Trusted (start (GameServer.start ⟨0, 0, 0, [], .empty⟩ 0)) [.openLink 0,
      .register 0 ⟨1, .current⟩, .register 0 ⟨2, .current⟩, .onClose 0] := by
  intro all
  have opened := (everyState_last all 1 0 (by decide)).1
  cases opened

end GateSlots
