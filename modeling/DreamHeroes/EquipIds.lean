import DreamHeroes.HeroEquips

/- Several game servers in front of one character database, and the equip ids they draw. A
   server reads the largest id of the table when it starts and counts on from there by itself.
   Messages and replies may be handled in any order, and any of them may be lost. -/
namespace EquipIds

open GameHero GameServer GameTurns HeroEquips OrderedMaps ObjMap LabelledRuns

abbrev ServerId := Nat

structure EquipRow where
  equip : MsgEquipData
  account : Account
  deriving DecidableEq, Repr

structure Request where
  game : ServerId
  tranid : TranId
  account : Account
  deriving DecidableEq, Repr

/- content is none for a message to create a hero. asked is a history value: the account the
   request was for. -/
structure Reply where
  tranid : TranId
  asked : Account
  content : Option MsgHeroDataDB2GS
  deriving DecidableEq, Repr

/- drawn is a history value: the equip ids that generateEquipID has returned on any server. -/
structure System where
  game : ServerId → Server
  running : ServerId → Bool
  characterEquip : OrderedMap EquipId EquipRow
  requests : List Request
  replies : ServerId → List Reply
  saves : List SaveStatement
  drawn : List EquipId

/- executed says that the statement changed the table. found is the row of the hero and its
   toys, none when the select gave no row. -/
inductive SystemEvent where
  | start (g : ServerId) (config : HeroConfig)
  | game (g : ServerId) (event : Event)
  | receive (g : ServerId)
  | answer (i : Nat) (found : Option (MsgHeroData × List MsgToyData))
  | deliver (g : ServerId) (i : Nat)
  | save (executed : Bool)

/- select MAX(`equip_id`) from `character_equip` -/
def maxEquipId (table : OrderedMap EquipId EquipRow) : EquipId :=
  (table.entries.map (·.1)).max?.getD 0

/-- The rows behind the first row of a statement. -/
def moreRows : List EquipPiece → Option (List (MsgEquipData × Account))
  | [] => some []
  | .comma :: .row equip account :: rest => (moreRows rest).map ((equip, account) :: ·)
  | _ => none

/-- The rows of a statement, none when its text is no statement. -/
def textRows : List EquipPiece → Option (List (MsgEquipData × Account))
  | .head :: .row equip account :: rest => (moreRows rest).map ((equip, account) :: ·)
  | _ => none

def replaceRow (table : OrderedMap EquipId EquipRow) (row : MsgEquipData × Account) :
    OrderedMap EquipId EquipRow :=
  table.insert row.1.id ⟨row.1, row.2⟩

/-- The ids a server draws when it is told to create the hero of a transid. -/
def newIds (s : Server) (t : TranId) : List EquipId :=
  if s.crashed then []
  else match getData s.onlines t with
    | some p =>
        match getData s.heros (s.sessions p).account with
        | some _ => []
        | none => drawIds s.config.equips.length s.generateId
    | none => []

namespace System

def setGame (s : System) (g : ServerId) (game : Server) : System :=
  { s with game := Function.update s.game g game }

def parseGameMessage (s : System) (g : ServerId) (flag : TranId) : DatabaseMessage → System
  | .reqHeroData a => { s with requests := s.requests ++ [⟨g, flag, a⟩] }
  | .saveData _ statement => { s with saves := s.saves ++ [statement] }
  | .saveAllHeroes => s
  | .verifyToy _ => s

def receive (s : System) (g : ServerId) : System :=
  match (s.game g).toDatabase with
  | [] => s
  | (flag, message) :: rest =>
      (s.setGame g { s.game g with toDatabase := rest }).parseGameMessage g flag message

/-- The equips that a reply carries are the rows of the account at this time. -/
def equipsOf (s : System) (a : Account) : List MsgEquipData :=
  (s.characterEquip.entries.filter fun entry => entry.2.account = a).map (·.2.equip)

def answer (s : System) (i : Nat) (found : Option (MsgHeroData × List MsgToyData)) : System :=
  match s.requests[i]? with
  | none => s
  | some request =>
      let content := found.map fun row =>
        (⟨request.account, row.1, s.equipsOf request.account, row.2⟩ : MsgHeroDataDB2GS)
      { s with
        requests := s.requests.eraseIdx i
        replies := Function.update s.replies request.game
          (s.replies request.game ++ [⟨request.tranid, request.account, content⟩]) }

/-- The reply that a running server handles next. -/
def nextReply (s : System) (g : ServerId) (i : Nat) : Option Reply :=
  if s.running g then (s.replies g)[i]? else none

def deliver (s : System) (g : ServerId) (i : Nat) : System :=
  match s.nextReply g i with
  | none => s
  | some reply =>
      let s := { s with replies := Function.update s.replies g ((s.replies g).eraseIdx i) }
      match reply.content with
      | some msg => s.setGame g (GameServer.step (s.game g) (.heroData reply.tranid msg))
      | none =>
          { s.setGame g (GameServer.step (s.game g) (.needCreateHero reply.tranid)) with
            drawn := s.drawn ++ newIds (s.game g) reply.tranid }

def save (s : System) (executed : Bool) : System :=
  match s.saves with
  | [] => s
  | .equips text :: rest =>
      let rows := if executed then (textRows text).getD [] else []
      { s with saves := rest, characterEquip := rows.foldl replaceRow s.characterEquip }
  | _ :: rest => { s with saves := rest }

def gameEvent (s : System) (g : ServerId) : Event → System
  | .heroData _ _ => s
  | .needCreateHero _ => s
  | event => if s.running g then s.setGame g (GameServer.step (s.game g) event) else s

end System

/- A start replaces the server that ran before, with what it has not sent yet. -/
def step (s : System) : SystemEvent → System
  | .start g config =>
      { s with
        game := Function.update s.game g (GameServer.start config (maxEquipId s.characterEquip))
        running := Function.update s.running g true
        replies := Function.update s.replies g [] }
  | .game g event => s.gameEvent g event
  | .receive g => s.receive g
  | .answer i found => s.answer i found
  | .deliver g i => s.deliver g i
  | .save executed => s.save executed

/- rows are what earlier servers have saved. -/
def start (rows : List (MsgEquipData × Account)) : System where
  game := fun _ => GameServer.start ⟨0, 0, 0, [], .empty⟩ 0
  running := fun _ => false
  characterEquip := rows.foldl replaceRow .empty
  requests := []
  replies := fun _ => []
  saves := []
  drawn := []

/-- The ids the step draws. -/
def draws (s : System) : SystemEvent → List EquipId
  | .deliver g i =>
      match s.nextReply g i with
      | some ⟨t, _, none⟩ => newIds (s.game g) t
      | _ => []
  | _ => []

/-- The rows the step writes. -/
def writes (s : System) : SystemEvent → List (MsgEquipData × Account)
  | .save true =>
      match s.saves with
      | .equips text :: _ => (textRows text).getD []
      | _ => []
  | _ => []

/-- The ids the step draws are new on every server and in the table, and the rows it writes
replace no row of another hero. -/
structure Unique (s : System) (event : SystemEvent) : Prop where
  distinct : (s.drawn ++ draws s event).Nodup
  absent : ∀ id ∈ draws s event, getData s.characterEquip id = none
  kept : ∀ row ∈ writes s event, ∀ old, getData s.characterEquip row.1.id = some old →
    old.account = row.2

/-- A server draws ids only while none that was drawn anywhere is larger than its own counter,
and it makes a hero from the rows of an account only for that account. -/
def Leads (s : System) : SystemEvent → Prop
  | .deliver g i => ∀ reply, s.nextReply g i = some reply →
      match reply.content with
      | none => newIds (s.game g) reply.tranid ≠ [] →
          (∀ id ∈ s.drawn, id ≤ (s.game g).generateId) ∧
            (s.game g).generateId + (s.game g).config.equips.length < 2 ^ 64
      | some _ => ∀ p, getData (s.game g).onlines reply.tranid = some p →
          getData (s.game g).heros ((s.game g).sessions p).account = none →
            ((s.game g).sessions p).account = reply.asked
  | _ => True

variable {s s' : System} {event : SystemEvent} {owner : EquipId → Option Account} {bottom : Nat}
  {table : OrderedMap EquipId EquipRow} {g : ServerId} {id : EquipId}

/-- Every row belongs to the account it names, and bottom is not above its ids. -/
structure Sorted (owner : EquipId → Option Account) (bottom : Nat)
    (table : OrderedMap EquipId EquipRow) : Prop where
  owned : ∀ id row, getData table id = some row →
    row.equip.id = id ∧ owner id = some row.account
  reached : bottom = 0 ∨ getData table bottom ≠ none

/-- The invariant of the runs in which the leading server draws. -/
structure Sound (owner : EquipId → Option Account) (bottom : Nat) (s : System) : Prop where
  game : ∀ g, Dressed owner (s.game g)
  table : Sorted owner bottom s.characterEquip
  saves : ∀ statement ∈ s.saves, OwnRows owner statement
  replies : ∀ g, ∀ reply ∈ s.replies g, ∀ msg, reply.content = some msg →
    ∀ equip ∈ msg.equips, owner equip.id = some reply.asked
  known : ∀ id a, owner id = some a → id ∈ s.drawn ∨ id ≤ bottom
  drawn : s.drawn.Nodup
  started : ∀ g, s.running g = true → bottom ≤ (s.game g).generateId

theorem le_maxEquipId (present : getData table id ≠ none) : id ≤ maxEquipId table := by
  obtain ⟨row, found⟩ := Option.ne_none_iff_exists'.mp present
  have member : id ∈ table.entries.map (·.1) :=
    List.mem_map.mpr ⟨_, OrderedMap.find?_eq_some.mp found, rfl⟩
  exact List.le_max?_getD_of_mem member

theorem bottom_le_max (sorted : Sorted owner bottom table) : bottom ≤ maxEquipId table := by
  rcases sorted.reached with zero | present
  · omega
  · exact le_maxEquipId present

theorem moreRows_mem {text : List EquipPiece} {rows : List (MsgEquipData × Account)}
    (parsed : moreRows text = some rows) {row : MsgEquipData × Account} (member : row ∈ rows) :
    .row row.1 row.2 ∈ text := by
  induction text using moreRows.induct generalizing rows with
  | case1 =>
    cases parsed
    cases member
  | case2 equip account rest ih =>
    obtain ⟨later, more, rfl⟩ := Option.map_eq_some_iff.mp parsed
    rcases List.mem_cons.mp member with rfl | there
    · simp
    · simp [ih more there]
  | case3 text notNil notRow => simp [moreRows] at parsed

theorem textRows_mem {text : List EquipPiece} {rows : List (MsgEquipData × Account)}
    (parsed : textRows text = some rows) {row : MsgEquipData × Account} (member : row ∈ rows) :
    .row row.1 row.2 ∈ text := by
  unfold textRows at parsed
  split at parsed
  · obtain ⟨later, more, rfl⟩ := Option.map_eq_some_iff.mp parsed
    rcases List.mem_cons.mp member with rfl | there
    · simp
    · simp [moreRows_mem more there]
  · cases parsed

theorem textRows_own {text : List EquipPiece} (own : OwnRows owner (.equips text))
    {row : MsgEquipData × Account} (member : row ∈ (textRows text).getD []) :
    owner row.1.id = some row.2 := by
  cases parsed : textRows text with
  | none => simp [parsed] at member
  | some rows =>
    simp only [parsed, Option.getD_some] at member
    exact own row.1 row.2 (textRows_mem parsed member)

theorem sorted_replaceRow {row : MsgEquipData × Account} (sorted : Sorted owner bottom table)
    (own : owner row.1.id = some row.2) : Sorted owner bottom (replaceRow table row) where
  owned := by
    intro id stored found
    simp only [replaceRow, getData, OrderedMap.find?_insert] at found
    split at found
    · rename_i here
      cases found
      exact ⟨here, here ▸ own⟩
    · exact sorted.owned id stored found
  reached := by
    refine sorted.reached.imp_right ?_
    intro present
    simp only [replaceRow, getData, OrderedMap.find?_insert]
    split
    · exact Option.some_ne_none _
    · exact present

theorem sorted_replaceRows {rows : List (MsgEquipData × Account)}
    (sorted : Sorted owner bottom table) (own : ∀ row ∈ rows, owner row.1.id = some row.2) :
    Sorted owner bottom (rows.foldl replaceRow table) := by
  induction rows generalizing table with
  | nil => exact sorted
  | cons row rest ih =>
    apply ih (sorted_replaceRow sorted (own row List.mem_cons_self))
    intro later member
    exact own later (List.mem_cons_of_mem row member)

theorem newIds_cases (s : Server) (t : TranId) : newIds s t = [] ∨
    ∃ p, getData s.onlines t = some p ∧ getData s.heros (s.sessions p).account = none ∧
      newIds s t = drawIds s.config.equips.length s.generateId := by
  unfold newIds
  split
  · exact .inl rfl
  · split
    · rename_i p online
      split
      · exact .inl rfl
      · rename_i unknown
        exact .inr ⟨p, online, unknown, rfl⟩
    · exact .inl rfl

/-- A hero that is made draws exactly these ids, unless the server has crashed. -/
theorem newIds_drawn {s : Server} {t : TranId} {p : SessionPtr} (up : s.crashed = false)
    (online : getData s.onlines t = some p)
    (unknown : getData s.heros (s.sessions p).account = none) :
    newIds s t = drawIds s.config.equips.length s.generateId := by
  simp [newIds, up, online, unknown]

theorem dressed_create {s : Server} {t : TranId} (dressed : Dressed owner s)
    (owns : ∀ p, getData s.onlines t = some p → ∀ id ∈ newIds s t,
      owner id = some (s.sessions p).account) :
    Dressed owner (GameServer.step s (.needCreateHero t)) := by
  cases up : s.crashed with
  | true => simpa [GameServer.step, up] using dressed
  | false =>
    apply dressed_step _ dressed
    rintro k p online unknown rfl id member
    rw [← newIds_drawn up online unknown] at member
    exact owns p online id member

theorem counter_create {s : Server} {t : TranId} (valid : Valid s)
    (room : newIds s t ≠ [] → s.generateId + s.config.equips.length < 2 ^ 64) :
    s.generateId ≤ (GameServer.step s (.needCreateHero t)).generateId := by
  cases up : s.crashed with
  | true => simp [GameServer.step, up]
  | false =>
    rcases deed_counter (step_deed valid (.needCreateHero t)) with same | ⟨k, p, created, online, unknown, last⟩
    · exact same.ge
    · cases created
      rw [last]
      have drawn := newIds_drawn up online unknown
      cases none : s.config.equips with
      | nil => simp [defaultHero, DreamHero.loadFromConfig, none, DreamHero.configEquips]
      | cons first rest =>
        have some : newIds s t ≠ [] := by
          rw [drawn, none]
          exact List.cons_ne_nil _ _
        have moved : (defaultHero s p).2 = s.generateId + s.config.equips.length :=
          configEquips_last (room some)
        omega

/-- Ids that the leading server draws have no owner and were not drawn before. -/
theorem fresh_ids {s : System} (sound : Sound owner bottom s) {i : Nat} {reply : Reply}
    (leads : Leads s (.deliver g i)) (next : s.nextReply g i = some reply)
    (create : reply.content = none) :
    (newIds (s.game g) reply.tranid).Nodup ∧ ∀ id ∈ newIds (s.game g) reply.tranid,
      owner id = none ∧ id ∉ s.drawn := by
  have running : s.running g = true := by
    by_contra stopped
    simp [System.nextReply, stopped] at next
  have lead := leads reply next
  rw [create] at lead
  rcases newIds_cases (s.game g) reply.tranid with none | ⟨p, online, unknown, drawn⟩
  · simp [none]
  · by_cases none : newIds (s.game g) reply.tranid = []
    · simp [none]
    · obtain ⟨above, room⟩ := lead none
      rw [drawn]
      refine ⟨drawIds_nodup room, ?_⟩
      intro id member
      have larger := ((mem_drawIds room).mp member).1
      constructor
      · cases known : owner id with
        | none => rfl
        | some a =>
          have started := sound.started g running
          rcases sound.known id a known with before | low
          · exact absurd larger (Nat.not_lt.mpr (above id before))
          · exact absurd larger (Nat.not_lt.mpr (Nat.le_trans low started))
      · intro before
        exact absurd larger (Nat.not_lt.mpr (above id before))

theorem sound_unique (sound : Sound owner bottom s) (leads : Leads s event) : Unique s event := by
  have unowned : ∀ id, owner id = none → getData s.characterEquip id = none := by
    intro id free
    by_contra present
    obtain ⟨row, found⟩ := Option.ne_none_iff_exists'.mp present
    have owned := (sound.table.owned id row found).2
    rw [free] at owned
    cases owned
  have fresh : (draws s event).Nodup ∧ ∀ id ∈ draws s event, owner id = none ∧ id ∉ s.drawn := by
    cases event with
    | deliver g i =>
      simp only [draws]
      split
      · rename_i t asked next
        exact fresh_ids sound leads next rfl
      · simp
    | _ => simp [draws]
  refine ⟨?_, ?_, ?_⟩
  · refine List.nodup_append.mpr ⟨sound.drawn, fresh.1, ?_⟩
    rintro id before _ now rfl
    exact (fresh.2 id now).2 before
  · intro id now
    exact unowned id (fresh.2 id now).1
  · intro row member old found
    cases event with
    | save executed =>
      cases executed with
      | false => cases member
      | true =>
        simp only [writes] at member
        split at member
        · rename_i text rest first
          have own := textRows_own (sound.saves (.equips text) (by simp [first])) member
          have stored := (sound.table.owned _ old found).2
          rw [own] at stored
          exact (Option.some.inj stored).symm
        · cases member
    | _ => cases member

theorem sound_setGame {game : Server} (sound : Sound owner bottom s)
    (dressed : Dressed owner game) (counter : (s.game g).generateId ≤ game.generateId) :
    Sound owner bottom (s.setGame g game) := by
  refine ⟨?_, sound.table, sound.saves, sound.replies, sound.known, sound.drawn, ?_⟩
  · intro h
    by_cases here : h = g
    · subst here
      simpa [System.setGame] using dressed
    · simpa [System.setGame, here] using sound.game h
  · intro h running
    have started := sound.started h running
    by_cases here : h = g
    · subst here
      simpa [System.setGame] using started.trans counter
    · simpa [System.setGame, here] using started

/-- A step of a running server that brings no equips from the database. -/
theorem sound_gameEvent {gameEvent : Event} (sound : Sound owner bottom s) :
    Sound owner bottom (s.gameEvent g gameEvent) := by
  by_cases reply : ∃ t, Answers gameEvent t
  · have ignored : s.gameEvent g gameEvent = s := by
      obtain ⟨t, ⟨msg, rfl⟩ | rfl⟩ := reply <;> rfl
    rw [ignored]
    exact sound
  · have moved : s.gameEvent g gameEvent =
        if s.running g then s.setGame g (GameServer.step (s.game g) gameEvent) else s := by
      cases gameEvent with
      | heroData t msg => exact absurd ⟨t, .inl ⟨msg, rfl⟩⟩ reply
      | needCreateHero t => exact absurd ⟨t, .inr rfl⟩ reply
      | _ => rfl
    have brings : Brings owner (s.game g) gameEvent := by
      intro t p _ _
      cases gameEvent with
      | heroData t msg => exact absurd ⟨t, .inl ⟨msg, rfl⟩⟩ reply
      | needCreateHero t => exact absurd ⟨t, .inr rfl⟩ reply
      | _ => trivial
    rw [moved]
    split
    · apply sound_setGame sound (dressed_step gameEvent (sound.game g) brings)
      rcases deed_counter (step_deed (sound.game g).valid gameEvent) with same | ⟨t, _, create, _⟩
      · exact same.ge
      · exact absurd ⟨t, .inr create⟩ reply
    · exact sound

theorem sound_receive (sound : Sound owner bottom s) : Sound owner bottom (s.receive g) := by
  unfold System.receive
  split
  · exact sound
  · rename_i flag message rest first
    have less : ∀ entry, entry ∈ rest → entry ∈ (s.game g).toDatabase := by
      intro entry member
      rw [first]
      exact List.mem_cons_of_mem _ member
    have popped : Dressed owner { s.game g with toDatabase := rest } :=
      dressed_same (sound.game g) ⟨(sound.game g).valid.online, (sound.game g).valid.attached,
        (sound.game g).valid.owned, (sound.game g).valid.made⟩ rfl (fun _ => rfl)
        fun flag h statement member => less _ member
    have later := sound_setGame sound popped (Nat.le_refl _)
    cases message with
    | saveData h statement =>
      refine ⟨later.game, later.table, ?_, later.replies, later.known, later.drawn, later.started⟩
      intro other member
      rcases List.mem_append.mp member with old | added
      · exact sound.saves other old
      · rw [List.mem_singleton.mp added]
        exact (sound.game g).sent flag h statement (by simp [first])
    | reqHeroData a =>
      exact ⟨later.game, later.table, later.saves, later.replies, later.known, later.drawn,
        later.started⟩
    | saveAllHeroes => exact later
    | verifyToy cdKey => exact later

theorem sound_answer {i : Nat} {found : Option (MsgHeroData × List MsgToyData)}
    (sound : Sound owner bottom s) : Sound owner bottom (s.answer i found) := by
  unfold System.answer
  split
  · exact sound
  · rename_i request asked
    refine ⟨sound.game, sound.table, sound.saves, ?_, sound.known, sound.drawn, sound.started⟩
    intro h reply member msg content equip listed
    by_cases here : h = request.game
    · subst here
      simp only [Function.update_self] at member
      rcases List.mem_append.mp member with old | added
      · exact sound.replies _ reply old msg content equip listed
      · rw [List.mem_singleton.mp added] at content ⊢
        obtain ⟨row, _, rfl⟩ := Option.map_eq_some_iff.mp content
        obtain ⟨entry, inside, rfl⟩ := List.mem_map.mp listed
        obtain ⟨stored, mine⟩ := List.mem_filter.mp inside
        have row := sound.table.owned entry.1 entry.2 (OrderedMap.find?_eq_some.mpr stored)
        rw [row.1, row.2, of_decide_eq_true mine]
    · simp only [Function.update_of_ne here] at member
      exact sound.replies h reply member msg content equip listed

theorem sound_save {executed : Bool} (sound : Sound owner bottom s) :
    Sound owner bottom (s.save executed) := by
  unfold System.save
  split
  · exact sound
  · rename_i text rest first
    refine ⟨sound.game, ?_, ?_, sound.replies, sound.known, sound.drawn, sound.started⟩
    · apply sorted_replaceRows sound.table
      intro row member
      cases executed with
      | false => cases member
      | true => exact textRows_own (sound.saves (.equips text) (by simp [first])) member
    · intro statement member
      exact sound.saves statement (by simp [first, member])
  · rename_i other rest first
    refine ⟨sound.game, sound.table, ?_, sound.replies, sound.known, sound.drawn, sound.started⟩
    intro statement member
    exact sound.saves statement (by simp [first, member])

theorem sound_started (sound : Sound owner bottom s) (config : HeroConfig) :
    Sound owner bottom (step s (.start g config)) := by
  refine ⟨?_, sound.table, sound.saves, ?_, sound.known, sound.drawn, ?_⟩
  · intro h
    by_cases here : h = g
    · subst here
      simpa [step] using dressed_start config _
    · simpa [step, here] using sound.game h
  · intro h reply member
    by_cases here : h = g
    · subst here
      simp [step] at member
    · simp only [step, Function.update_of_ne here] at member
      exact sound.replies h reply member
  · intro h running
    by_cases here : h = g
    · subst here
      simpa [step, GameServer.start] using bottom_le_max sound.table
    · simp only [step, Function.update_of_ne here] at running ⊢
      exact sound.started h running

theorem nextReply_mem {i : Nat} {reply : Reply} (next : s.nextReply g i = some reply) :
    reply ∈ s.replies g := by
  unfold System.nextReply at next
  split at next
  · exact List.mem_of_getElem? next
  · cases next

theorem sound_loses {left : List Reply} (sound : Sound owner bottom s)
    (less : left ⊆ s.replies g) :
    Sound owner bottom { s with replies := Function.update s.replies g left } := by
  refine ⟨sound.game, sound.table, sound.saves, ?_, sound.known, sound.drawn, sound.started⟩
  intro h reply member
  by_cases here : h = g
  · subst here
    simp only [Function.update_self] at member
    exact sound.replies h reply (less member)
  · simp only [Function.update_of_ne here] at member
    exact sound.replies h reply member

/-- The ids just drawn get an owner. -/
theorem sound_draws {later : EquipId → Option Account} {ids : List EquipId}
    (sound : Sound owner bottom s) (grows : ∀ id a, owner id = some a → later id = some a)
    (new : ∀ id a, later id = some a → owner id = some a ∨ id ∈ ids)
    (distinct : (s.drawn ++ ids).Nodup) :
    Sound later bottom { s with drawn := s.drawn ++ ids } := by
  refine ⟨?_, ⟨?_, sound.table.reached⟩, ?_, ?_, ?_, distinct, sound.started⟩
  · intro g
    exact dressed_mono grows (sound.game g)
  · intro id row found
    obtain ⟨same, owned⟩ := sound.table.owned id row found
    exact ⟨same, grows _ _ owned⟩
  · intro statement member
    have rows := sound.saves statement member
    cases statement with
    | equips text => exact fun equip a row => grows _ _ (rows equip a row)
    | _ => trivial
  · intro g reply member msg content equip listed
    exact grows _ _ (sound.replies g reply member msg content equip listed)
  · intro id a known
    rcases new id a known with before | now
    · rcases sound.known id a before with drawn | low
      · exact .inl (List.mem_append_left ids drawn)
      · exact .inr low
    · exact .inl (List.mem_append_right s.drawn now)

/-- Whose the ids are once the new hero of the transid has drawn its own. -/
def ownerOnceDrawn (owner : EquipId → Option Account) (s : Server) (t : TranId) (id : EquipId) :
    Option Account :=
  if id ∈ newIds s t then (getData s.onlines t).map fun p => (s.sessions p).account else owner id

theorem ownerOnceDrawn_new {s : Server} {t : TranId} (id : EquipId) (a : Account)
    (known : ownerOnceDrawn owner s t id = some a) : owner id = some a ∨ id ∈ newIds s t := by
  unfold ownerOnceDrawn at known
  split at known
  · rename_i now
    exact .inr now
  · exact .inl known

theorem sound_deliver {i : Nat} (sound : Sound owner bottom s) (leads : Leads s (.deliver g i)) :
    ∃ later, Sound later bottom (s.deliver g i) := by
  unfold System.deliver
  split
  · exact ⟨owner, sound⟩
  · rename_i reply next
    have left : (s.replies g).eraseIdx i ⊆ s.replies g := List.eraseIdx_subset
    have popped := sound_loses sound left
    have lead := leads reply next
    cases content : reply.content with
    | some msg =>
      rw [content] at lead
      refine ⟨owner, ?_⟩
      simp only
      apply sound_setGame popped
      · apply dressed_step _ (sound.game g)
        rintro t p online unknown rfl equip listed
        rw [lead p online unknown]
        exact sound.replies g reply (nextReply_mem next) msg content equip listed
      · rcases deed_counter (step_deed (sound.game g).valid (.heroData reply.tranid msg)) with
          same | ⟨t, _, create, _⟩
        · exact same.ge
        · cases create
    | none =>
      rw [content] at lead
      obtain ⟨distinct, fresh⟩ := fresh_ids sound leads next content
      have apart : (s.drawn ++ newIds (s.game g) reply.tranid).Nodup := by
        refine List.nodup_append.mpr ⟨sound.drawn, distinct, ?_⟩
        rintro id before _ now rfl
        exact (fresh id now).2 before
      have grows : ∀ id a, owner id = some a →
          ownerOnceDrawn owner (s.game g) reply.tranid id = some a := by
        intro id a known
        have old : id ∉ newIds (s.game g) reply.tranid := by
          intro now
          rw [(fresh id now).1] at known
          cases known
        rwa [ownerOnceDrawn, if_neg old]
      refine ⟨ownerOnceDrawn owner (s.game g) reply.tranid, ?_⟩
      apply sound_setGame (sound_draws popped grows ownerOnceDrawn_new apart)
      · apply dressed_create (dressed_mono grows (sound.game g))
        intro p online id now
        rw [ownerOnceDrawn, if_pos now, online, Option.map_some]
      · apply counter_create (sound.game g).valid
        intro some
        exact (lead some).2

theorem sound_step (leads : Leads s event) (sound : ∃ owner, Sound owner bottom s) :
    ∃ owner, Sound owner bottom (step s event) := by
  obtain ⟨owner, sound⟩ := sound
  cases event with
  | start g config => exact ⟨owner, sound_started sound config⟩
  | game g gameEvent => exact ⟨owner, sound_gameEvent sound⟩
  | receive g => exact ⟨owner, sound_receive sound⟩
  | answer i found => exact ⟨owner, sound_answer sound⟩
  | deliver g i => exact sound_deliver sound leads
  | save executed => exact ⟨owner, sound_save sound⟩

theorem keyed_rows {rows : List (MsgEquipData × Account)} {row : EquipRow}
    (keyed : ∀ row, getData table id = some row → row.equip.id = id)
    (found : getData (rows.foldl replaceRow table) id = some row) : row.equip.id = id := by
  induction rows generalizing table with
  | nil => exact keyed row found
  | cons first rest ih =>
    refine ih ?_ found
    intro stored here
    simp only [replaceRow, getData, OrderedMap.find?_insert] at here
    split at here
    · rename_i same
      cases here
      exact same
    · exact keyed stored here

theorem maxEquipId_reached (table : OrderedMap EquipId EquipRow) :
    maxEquipId table = 0 ∨ getData table (maxEquipId table) ≠ none := by
  unfold maxEquipId
  cases largest : (table.entries.map (·.1)).max? with
  | none => exact .inl rfl
  | some id =>
    refine .inr ?_
    obtain ⟨entry, member, same⟩ := List.mem_map.mp (List.max?_mem largest)
    have found : getData table entry.1 = some entry.2 := OrderedMap.find?_eq_some.mpr member
    rw [Option.getD_some, ← same, found]
    exact Option.some_ne_none _

theorem sound_start (rows : List (MsgEquipData × Account)) :
    ∃ owner, Sound owner (maxEquipId (start rows).characterEquip) (start rows) := by
  have keyed : ∀ id row, getData (start rows).characterEquip id = some row → row.equip.id = id := by
    intro id row found
    refine keyed_rows ?_ found
    intro stored impossible
    cases impossible
  refine ⟨fun id => (getData (start rows).characterEquip id).map (·.account), ?_,
    ⟨?_, maxEquipId_reached _⟩, ?_, ?_, ?_, ?_, ?_⟩
  · intro g
    exact dressed_start _ 0
  · intro id row found
    exact ⟨keyed id row found, by rw [found]; rfl⟩
  · intro statement member
    cases member
  · intro g reply member
    cases member
  · intro id a known
    obtain ⟨row, found, _⟩ := Option.map_eq_some_iff.mp known
    exact .inr (le_maxEquipId (by rw [found]; exact Option.some_ne_none row))
  · exact List.nodup_nil
  · intro g running
    cases running

/-- In every run in which only the leading server draws, the ids are unique and no row is
replaced for another hero. -/
theorem ids_unique (rows : List (MsgEquipData × Account)) (events : List SystemEvent)
    (leads : EveryStep step Leads (start rows) events) :
    EveryStep step Unique (start rows) events := by
  have keep : ∀ s event, (∃ owner, Sound owner (maxEquipId (start rows).characterEquip) s) →
      Leads s event →
      ∃ owner, Sound owner (maxEquipId (start rows).characterEquip) (step s event) :=
    fun s event sound leads => sound_step leads sound
  refine everyStep_of_invariant keep ?_ (sound_start rows) leads
  intro s event sound leads
  obtain ⟨owner, sound⟩ := sound
  exact sound_unique sound leads

def oneEquip : HeroConfig := ⟨0, 0, 1, [⟨3, 1, 1⟩], .empty⟩

/-- A new player of the server gets a default hero, and the first statement of its save is
executed. The next one saves its equips. -/
def newPlayer (g : ServerId) (t : TranId) (a : Account) : List SystemEvent :=
  [.game g (.gateRegister 0 1), .game g (.addUser 0 t a 70), .receive g, .answer 0 none,
    .deliver g 0, .game g (.saveTick 0), .receive g, .receive g, .save true]

theorem ids_unique_one_server :
    EveryStep step Unique (start []) (.start 1 oneEquip :: newPlayer 1 5 9 ++ [.save true]) := by
  apply ids_unique
  refine ⟨trivial, trivial, trivial, trivial, trivial, ?_, trivial, trivial, trivial, trivial,
    trivial, trivial⟩
  intro reply next
  cases next
  intro _
  exact ⟨by decide, by decide⟩

/-- Two servers start with an empty table and give the first equip of each hero the same id:
the save of the second hero takes the equip of the first. -/
theorem two_servers_share_ids :
    ¬ EveryStep step Unique (start []) (.start 1 oneEquip :: .start 2 oneEquip ::
      newPlayer 1 5 9 ++ [.save true] ++ newPlayer 2 6 8 ++ [.save true]) := by
  intro all
  have last := everyStep_last all
  have kept := last.kept (⟨1, 3, 1, true, 0, 1⟩, 8) (by decide +kernel)
    ⟨⟨1, 3, 1, true, 0, 1⟩, 9⟩ (by decide +kernel)
  cases kept

end EquipIds
