import DreamHeroes.EventHolders

/- What stays in the tables of the objects: an event leaves the list of its holder without
   leaving the table of the object that added it. -/
namespace PendingEvents

open EventTables EventReferences EventTurns EventHolders WalkedLists LabelledRuns

/-- Every event of a table is not deleted and is in the list of the holder of its object. -/
def Pending (s : Tables) : Prop :=
  ∀ (o : ObjectPtr) (obj : EventableObject), s.objects[o]? = some (some obj) →
    ∀ ptr ∈ tableOf (some obj), (∃ ev, s.heap ptr = some ev ∧ ev.deleted = false) ∧
      ∃ h holder, obj.holder = some h ∧ s.holders[h]? = some holder ∧ ptr ∈ holder.events.toList

def AllPending : Except Fault Tables → Prop
  | .ok s => Pending s
  | .error _ => True

/-- The event that a turn of the loop takes out of the list. -/
def dropped (s : Tables) (a : Act) : Option EventPtr := do
  let (h, _) ← s.updating
  let holder ← s.holders[h]?
  match a, holder.events.current with
  | .visit, none => do
    let ptr ← holder.events.ahead.head?
    let ev ← s.heap ptr
    if holder.discards ev then some ptr else none
  | .finish, some ptr => do
    let ev ← s.heap ptr
    if ev.hasFlag eventFlagDeletesObject ∨ ev.repeats = 1 ∨ ev.deleted then some ptr else none
  | _, _ => none

/-- An event that is dropped is in no table any more, and an object that moves to another holder
takes all its events along. -/
def Clears : Except Fault Tables → Act → Prop
  | .ok s, .relocate o instanceId =>
      match s.objects[o]? with
      | some (some obj) =>
          let target := (s.getEventHolder instanceId).or (s.getEventHolder (-1))
          s.callable = false ∨ s.getEventHolder instanceId = obj.holder ∨
            ∀ holder, (target.bind fun h => s.holders[h]?) = some holder →
              ∀ ptr ∈ tableOf (some obj),
                ptr ∈ moved s.heap holder.instanceId (tableOf (some obj)) ∨
                  ptr ∈ holder.events.toList
      | _ => True
  | .ok s, a => ∀ ptr, dropped s a = some ptr → tableReferences s.objects ptr = 0
  | _, _ => True

/-- What every run whose acts clear the tables keeps. -/
structure Tabled (s : Tables) : Prop where
  held : Held s
  single : ∀ ptr, tableReferences s.objects ptr ≤ 1
  calls : ∀ ptr ev, s.heap ptr = some ev → ev.deleted = false → ev.cb ≠ none
  pending : Pending s

variable {s s' : Tables} {ptr q : EventPtr} {ev : TimedEvent} {h k : HolderPtr} {o i : ObjectPtr}
  {obj : EventableObject} {holder other : EventableObjectHolder} {a : Act} {t : Nat} {heap : Heap}

/-- The event is in the table of an object. -/
def InTable (s : Tables) (ptr : EventPtr) : Prop :=
  ∃ (o : ObjectPtr) (obj : EventableObject), s.objects[o]? = some (some obj) ∧
    ptr ∈ tableOf (some obj)

theorem inTable_iff : InTable s ptr ↔ 0 < tableReferences s.objects ptr := by
  constructor
  · rintro ⟨o, obj, object, member⟩
    exact lt_of_lt_of_le (List.count_pos_iff.mpr member) (tableReferences_le object ptr)
  · intro some
    obtain ⟨count, member, positive⟩ := List.sum_pos_iff_exists_pos_nat.mp some
    obtain ⟨entry, listed, rfl⟩ := List.mem_map.mp member
    obtain ⟨o, object⟩ := List.mem_iff_getElem?.mp listed
    have here := List.count_pos_iff.mp positive
    cases entry with
    | none => cases here
    | some obj => exact ⟨o, obj, object, here⟩

/-- The turn neither deletes the event nor takes it out of a list. -/
structure Stays (s s' : Tables) (ptr : EventPtr) : Prop where
  event : ∀ ev, s.heap ptr = some ev → ev.deleted = false →
    ∃ ev', s'.heap ptr = some ev' ∧ ev'.deleted = false
  list : ∀ (h : HolderPtr) (holder : EventableObjectHolder), s.holders[h]? = some holder →
    ptr ∈ holder.events.toList →
      ∃ holder', s'.holders[h]? = some holder' ∧ ptr ∈ holder'.events.toList

theorem stays_set {events : WalkedList EventPtr} (found : s.holders[k]? = some holder)
    (holders : s'.holders = s.holders.set k { holder with events := events })
    (listed : ptr ∈ holder.events.toList → ptr ∈ events.toList)
    (event : ∀ ev, s.heap ptr = some ev → ev.deleted = false →
      ∃ ev', s'.heap ptr = some ev' ∧ ev'.deleted = false) : Stays s s' ptr where
  event := event
  list h other there member := by
    have bound := (List.getElem?_eq_some_iff.mp found).1
    by_cases here : k = h
    · subst here
      rw [found] at there
      cases there
      exact ⟨_, by rw [holders, List.getElem?_set_self bound], listed member⟩
    · exact ⟨other, by rw [holders, List.getElem?_set_ne here, there], member⟩

theorem unmarked_same (same : s'.heap ptr = s.heap ptr) : ∀ ev, s.heap ptr = some ev →
    ev.deleted = false → ∃ ev', s'.heap ptr = some ev' ∧ ev'.deleted = false :=
  fun ev here unmarked => ⟨ev, same.trans here, unmarked⟩

theorem unmarked_write {new : TimedEvent} (heap : s'.heap = Function.update s.heap q (some new))
    (unmarked : new.deleted = false) : ∀ ev, s.heap ptr = some ev → ev.deleted = false →
      ∃ ev', s'.heap ptr = some ev' ∧ ev'.deleted = false := by
  intro ev here alive
  rw [heap]
  by_cases same : ptr = q
  · exact ⟨new, by rw [same, Function.update_self], unmarked⟩
  · exact ⟨ev, by rw [Function.update_of_ne same, here], alive⟩

/-- What the turn leaves in the tables is pending as before. -/
theorem pending_stays (pending : Pending s)
    (objects : ∀ (o : ObjectPtr) (obj : EventableObject), s'.objects[o]? = some (some obj) →
      ∃ old : EventableObject, s.objects[o]? = some (some old) ∧ old.holder = obj.holder ∧
        tableOf (some obj) ⊆ tableOf (some old))
    (stays : ∀ ptr, InTable s' ptr → Stays s s' ptr) : Pending s' := by
  intro o obj object ptr member
  obtain ⟨old, was, holder, fewer⟩ := objects o obj object
  obtain ⟨⟨ev, here, unmarked⟩, h, list, placed, found, listed⟩ :=
    pending o old was ptr (fewer member)
  have stays := stays ptr ⟨o, obj, object, member⟩
  obtain ⟨list', found', listed'⟩ := stays.list h list found listed
  exact ⟨stays.event ev here unmarked, h, list', holder ▸ placed, found', listed'⟩

theorem pending_walked {events : WalkedList EventPtr} (pending : Pending s)
    (objects : s'.objects = s.objects) (found : s.holders[k]? = some holder)
    (holders : s'.holders = s.holders.set k { holder with events := events })
    (listed : ∀ ptr, InTable s ptr → ptr ∈ holder.events.toList → ptr ∈ events.toList)
    (event : ∀ ptr, InTable s ptr → ∀ ev, s.heap ptr = some ev → ev.deleted = false →
      ∃ ev', s'.heap ptr = some ev' ∧ ev'.deleted = false) : Pending s' := by
  refine pending_stays pending (fun o obj object => ?_) fun ptr member => ?_
  · rw [objects] at object
    exact ⟨obj, object, rfl, fun _ => id⟩
  · have member : InTable s ptr := by
      obtain ⟨o, obj, object, here⟩ := member
      exact ⟨o, obj, objects ▸ object, here⟩
    exact stays_set found holders (listed ptr member) (event ptr member)

/-- A drop of an event that no table has. -/
theorem pending_dropped {events : WalkedList EventPtr} (pending : Pending s)
    (found : s.holders[k]? = some holder) (drops : Drops s.heap heap [q])
    (node : holder.events.toList.Perm (q :: events.toList))
    (free : tableReferences s.objects q = 0) : Pending { s with
      heap := heap
      holders := s.holders.set k { holder with events := events } } := by
  have other : ∀ ptr, InTable s ptr → ptr ≠ q := by
    rintro ptr member rfl
    have some := inTable_iff.mp member
    omega
  refine pending_walked pending rfl found rfl (fun ptr member listed => ?_) fun ptr member => ?_
  · exact (List.mem_cons.mp (node.mem_iff.mp listed)).resolve_left (other ptr member)
  · exact unmarked_same (drops.others ptr (by simpa using other ptr member))

theorem adding_placed {instanceId : Int} {type : Nat} (placed : obj.holder = some h) :
    (adding s obj instanceId type).holder = some h := by
  simp [adding, EventableObject.fallBack, EventableObject.insertEvent, EventableObject.locate,
    placed]

theorem mem_adding {instanceId : Int} {type : Nat}
    (member : ptr ∈ tableOf (some (adding s obj instanceId type))) :
    ptr ∈ tableOf (some obj) ∨ ptr = s.nextEvent := by
  have some := List.count_pos_iff.mpr member
  rw [count_adding] at some
  by_cases new : ptr = s.nextEvent
  · exact .inr new
  · refine .inl (List.count_pos_iff.mp ?_)
    have none : [s.nextEvent].count ptr = 0 := by simp [Ne.symm new]
    omega

theorem pending_added {instanceId : Int} {cb : Callback} {type time : Nat} {repeats : Int32}
    {flags : Nat} (tabled : Tabled s) (object : s.objects[o]? = some (some obj))
    (listed : (adding s obj instanceId type).holder = some h)
    (found : s.holders[h]? = some holder) :
    Pending (afterAdding s o obj instanceId cb type time repeats flags h holder) := by
  have bound := (List.getElem?_eq_some_iff.mp found).1
  have fresh : ∀ ptr, InTable s ptr → ptr ≠ s.nextEvent := by
    rintro ptr ⟨i, owner, there, member⟩ rfl
    obtain ⟨⟨ev, here, _⟩, _⟩ := tabled.pending i owner there s.nextEvent member
    rw [tabled.held.fresh _ le_rfl] at here
    cases here
  have stays : ∀ ptr, InTable s ptr →
      Stays s (afterAdding s o obj instanceId cb type time repeats flags h holder) ptr :=
    fun ptr member => stays_set found rfl (fun listed => by simp [listed])
      (unmarked_same (Function.update_of_ne (fresh ptr member) _ _))
  intro i owner there ptr member
  simp only [afterAdding, List.getElem?_set] at there
  split at there
  · split at there
    · cases there
      rcases mem_adding member with old | rfl
      · obtain ⟨⟨ev, here, unmarked⟩, k, list, placed, found', listed'⟩ :=
          tabled.pending o obj object ptr old
        have stays := stays ptr ⟨o, obj, object, old⟩
        obtain ⟨list', found'', listed''⟩ := stays.list k list found' listed'
        exact ⟨stays.event ev here unmarked, k, list', adding_placed placed, found'', listed''⟩
      · exact ⟨⟨_, Function.update_self .., rfl⟩, h, _, listed, List.getElem?_set_self bound,
          by simp⟩
    · cases there
  · obtain ⟨⟨ev, here, unmarked⟩, k, list, placed, found', listed'⟩ :=
      tabled.pending i owner there ptr member
    have stays := stays ptr ⟨i, owner, there, member⟩
    obtain ⟨list', found'', listed''⟩ := stays.list k list found' listed'
    exact ⟨stays.event ev here unmarked, k, list', placed, found'', listed''⟩

theorem pending_taken {left : Option EventableObject} {ptrs : List EventPtr} (tabled : Tabled s)
    (object : s.objects[o]? = some (some obj))
    (parts : (tableOf (some obj)).Perm (ptrs ++ tableOf left))
    (same : ∀ new, left = some new →
      new.eventInstanceid = obj.eventInstanceid ∧ new.holder = obj.holder)
    (drops : Drops s.heap heap ptrs) : Pending { s with
      heap := heap
      objects := s.objects.set o left
      history := s.history ++ ptrs.map .removed } := by
  refine pending_stays tabled.pending (fun i owner there => ?_) fun ptr member => ?_
  · simp only [List.getElem?_set] at there
    split at there
    · rename_i here
      split at there
      · have new := Option.some.inj there
        subst here
        refine ⟨obj, object, (same owner new).2.symm, fun ptr member => ?_⟩
        rw [← new] at member
        exact parts.mem_iff.mpr (List.mem_append_right ptrs member)
      · cases there
    · exact ⟨owner, there, rfl, fun _ => id⟩
  · have some : 0 < tableReferences (s.objects.set o left) ptr := inTable_iff.mp member
    have tables := tableReferences_set object left ptr
    have split := parts.count_eq ptr
    have once := tabled.single ptr
    rw [List.count_append] at split
    have kept : ptr ∉ ptrs := by
      rw [← List.count_eq_zero]
      omega
    exact ⟨unmarked_same (drops.others ptr kept), fun h holder found listed =>
      ⟨holder, found, listed⟩⟩

theorem single_turn (held : Held s) (single : ∀ ptr, tableReferences s.objects ptr ≤ 1)
    (turn : Turn s a s') : ∀ ptr, tableReferences s'.objects ptr ≤ 1 := by
  intro ptr
  have once := single ptr
  cases turn with
  | newObject => simpa [Tables.newObject, tableReferences, tableOf] using once
  | @added o obj instanceId cb type time repeats flags h holder callable object listed found =>
    have tables := tableReferences_set object (some (adding s obj instanceId type)) ptr
    rw [count_adding] at tables
    simp only [afterAdding]
    by_cases new : ptr = s.nextEvent
    · subst new
      have none := held.counted.freed _ (held.fresh _ le_rfl)
      unfold references at none
      simp only [List.count_cons_self, List.count_nil] at tables
      omega
    · have none : [s.nextEvent].count ptr = 0 := by simp [Ne.symm new]
      omega
  | @taken a o obj left ptrs heap removes object parts same drops =>
    have tables := tableReferences_set object left ptr
    have split := parts.count_eq ptr
    rw [List.count_append] at split
    simp only
    omega
  | @relocated o obj instanceId h holder object elsewhere target found =>
    have tables := tableReferences_set object
      (some { obj with eventInstanceid := holder.instanceId, holder := some h }) ptr
    simp only [tableOf] at tables ⊢
    omega
  | _ => exact once

theorem calls_turn (calls : ∀ ptr ev, s.heap ptr = some ev → ev.deleted = false → ev.cb ≠ none)
    (turn : Turn s a s') :
    ∀ ptr ev, s'.heap ptr = some ev → ev.deleted = false → ev.cb ≠ none := by
  intro ptr ev here unmarked
  cases turn with
  | added =>
    rcases put_cases here with ⟨_, rfl⟩ | ⟨_, old⟩
    · exact nofun
    · exact calls ptr ev old unmarked
  | taken removes object parts same drops =>
    exact calls ptr ev (spared drops here unmarked).1 unmarked
  | relocated object elsewhere target found =>
    simp only [EventReferences.relocated, Option.map_eq_some_iff] at here
    obtain ⟨old, was, rfl⟩ := here
    split at unmarked
    · rename_i taken
      simp only [taken, if_true]
      exact calls ptr old was unmarked
    · rename_i stays
      simp only [stays, if_false]
      exact calls ptr old was unmarked
  | discarded updating found between next here' why drops =>
    exact calls ptr ev (spared drops here unmarked).1 unmarked
  | @waited h t holder q rest old updating found between next was stays early =>
    rcases put_cases here with ⟨rfl, rfl⟩ | ⟨_, kept⟩
    · exact calls ptr old was unmarked
    · exact calls ptr ev kept unmarked
  | expired updating found running here' why drops =>
    exact calls ptr ev (spared drops here unmarked).1 unmarked
  | @repeated h t holder q old updating found running was stays more alive =>
    rcases put_cases here with ⟨rfl, rfl⟩ | ⟨_, kept⟩
    · rw [rearmed_cb]
      exact calls ptr old was alive
    · exact calls ptr ev kept unmarked
  | _ => exact calls ptr ev here unmarked

theorem dropped_discarded {rest : List EventPtr} (tabled : Tabled s)
    (updating : s.updating = some (h, t)) (found : s.holders[h]? = some holder)
    (between : holder.events.current = none) (next : holder.events.ahead = ptr :: rest)
    (here : s.heap ptr = some ev) (why : holder.discards ev = true ∨ ev.cb = none) :
    dropped s .visit = some ptr := by
  have discards : holder.discards ev = true := by
    rcases why with discards | call
    · exact discards
    · by_contra stays
      exact tabled.calls ptr ev here (unmarked_of_stays (Bool.not_eq_true _ ▸ stays)) call
  simp [dropped, updating, found, between, next, here, discards]

theorem dropped_expired (updating : s.updating = some (h, t))
    (found : s.holders[h]? = some holder) (running : holder.events.current = some ptr)
    (here : s.heap ptr = some ev)
    (why : ev.hasFlag eventFlagDeletesObject = true ∨ ev.repeats = 1 ∨ ev.deleted = true) :
    dropped s .finish = some ptr := by
  simp [dropped, updating, found, running, here, why]

/-- What is dropped is freed or marked. -/
theorem drops_of_dropped (counted : Counted s.heap (references s))
    (drop : dropped s a = some ptr) : ∃ heap holders,
      s.act a = .ok { s with heap := heap, holders := holders } ∧ Drops s.heap heap [ptr] := by
  unfold dropped at drop
  simp only [Option.bind_eq_bind, Option.bind_eq_some_iff] at drop
  obtain ⟨⟨h, t⟩, updating, holder, found, drop⟩ := drop
  have found : s.holders[h]? = some holder := found
  split at drop
  · rename_i between
    simp only [Option.bind_eq_some_iff] at drop
    obtain ⟨q, head, ev, here, drop⟩ := drop
    obtain ⟨rest, next⟩ := List.head?_eq_some_iff.mp head
    split at drop
    · rename_i discards
      cases drop
      have held := held_of_listed found (mem_of_next next)
      obtain ⟨heap, done, drops⟩ :=
        drop_done h { holder with events := holder.events.next } counted held
      refine ⟨heap, s.holders.set h { holder with events := holder.events.next.erase }, ?_, drops⟩
      simp only [Tables.act, updating, found, between, Option.isSome_none, Bool.false_eq_true,
        if_false, Tables.visit, next, deref, here, bind, Except.bind, discards, if_true]
      rw [updating] at done
      exact done
    · cases drop
  · rename_i q running
    simp only [Option.bind_eq_some_iff] at drop
    obtain ⟨ev, here, drop⟩ := drop
    split at drop
    · rename_i why
      cases drop
      obtain ⟨heap, done, drops⟩ := finish_expired counted found running here why
      refine ⟨heap, s.holders.set h { holder with events := holder.events.erase }, ?_, drops⟩
      simp only [Tables.act, updating, found, running]
      rw [updating] at done
      exact done
    · cases drop
  · cases drop

/-- An object that goes to another holder leaves none of its events behind. -/
theorem pending_relocated_iff (pending : Pending s) (object : s.objects[o]? = some (some obj))
    (found : s.holders[h]? = some holder) :
    Pending (afterRelocating s o obj h holder) ↔
      ∀ ptr ∈ tableOf (some obj), ptr ∈ moved s.heap holder.instanceId (tableOf (some obj)) ∨
        ptr ∈ holder.events.toList := by
  have bound := (List.getElem?_eq_some_iff.mp found).1
  have place := (List.getElem?_eq_some_iff.mp object).1
  have put : ∀ ptr, ptr ∈ (append holder
      (moved s.heap holder.instanceId (tableOf (some obj)))).events.toList ↔
      ptr ∈ moved s.heap holder.instanceId (tableOf (some obj)) ∨ ptr ∈ holder.events.toList := by
    intro ptr
    rw [toList_append, List.mem_append, or_comm]
  constructor
  · intro after ptr member
    obtain ⟨_, k, list, placed, found', listed⟩ :=
      after o _ (List.getElem?_set_self place) ptr member
    cases placed
    rw [List.getElem?_set_self bound] at found'
    cases found'
    exact (put ptr).mp listed
  · intro taken
    have stays : ∀ ptr, Stays s (afterRelocating s o obj h holder) ptr := by
      intro ptr
      refine stays_set found rfl (fun listed => (put ptr).mpr (.inr listed)) ?_
      intro ev here unmarked
      simp only [EventReferences.relocated, here, Option.map_some]
      refine ⟨_, rfl, ?_⟩
      split
      · exact unmarked
      · exact unmarked
    intro i owner there ptr member
    by_cases here : o = i
    · subst here
      rw [List.getElem?_set_self place] at there
      cases there
      obtain ⟨⟨ev, here, unmarked⟩, _⟩ := pending o obj object ptr member
      exact ⟨(stays ptr).event ev here unmarked, h, _, rfl, List.getElem?_set_self bound,
        (put ptr).mpr (taken ptr member)⟩
    · rw [List.getElem?_set_ne here] at there
      obtain ⟨⟨ev, here, unmarked⟩, k, list, placed, found', listed⟩ :=
        pending i owner there ptr member
      obtain ⟨list', found'', listed'⟩ := (stays ptr).list k list found' listed
      exact ⟨(stays ptr).event ev here unmarked, k, list', placed, found'', listed'⟩

theorem pending_turn (tabled : Tabled s) (turn : Turn s a s')
    (other : ∀ o instanceId, a ≠ .relocate o instanceId)
    (clears : ∀ ptr, dropped s a = some ptr → tableReferences s.objects ptr = 0) :
    Pending s' := by
  cases turn with
  | idle => exact tabled.pending
  | newHolder =>
    refine pending_stays tabled.pending (fun o obj object => ⟨obj, object, rfl, fun _ => id⟩)
      fun ptr _ => ⟨unmarked_same rfl, fun h holder found listed => ⟨holder, ?_, listed⟩⟩
    have bound := (List.getElem?_eq_some_iff.mp found).1
    simpa only [Tables.newHolder, List.getElem?_append_left bound] using found
  | newObject =>
    intro o obj object ptr member
    simp only [Tables.newObject, List.getElem?_append] at object
    split at object
    · exact tabled.pending o obj object ptr member
    · cases List.mem_singleton.mp (List.mem_of_getElem? object)
      cases member
  | added callable object listed found => exact pending_added tabled object listed found
  | taken removes object parts same drops => exact pending_taken tabled object parts same drops
  | relocated => exact absurd rfl (other _ _)
  | started idle found =>
    exact pending_walked tabled.pending rfl found rfl (by simp) fun ptr _ => unmarked_same rfl
  | ended => exact tabled.pending
  | discarded updating found between next here why drops =>
    exact pending_dropped tabled.pending found drops (perm_of_next between next)
      (clears _ (dropped_discarded tabled updating found between next here why))
  | fired updating found between next here stays due =>
    exact pending_walked tabled.pending rfl found rfl (by simp [WalkedList.toList_next between])
      fun ptr _ => unmarked_same rfl
  | waited updating found between next here stays early =>
    exact pending_walked tabled.pending rfl found rfl (by simp [WalkedList.toList_next between])
      fun ptr _ => unmarked_write rfl (unmarked_of_stays stays)
  | expired updating found running here why drops =>
    exact pending_dropped tabled.pending found drops (WalkedList.toList_erase_perm running)
      (clears _ (dropped_expired updating found running here why))
  | repeated updating found running here stays more alive =>
    exact pending_walked tabled.pending rfl found rfl (by simp)
      fun ptr _ => unmarked_write rfl (rearmed_deleted.trans alive)

theorem turn_clears_iff (tabled : Tabled s) (other : ∀ o instanceId, a ≠ .relocate o instanceId) :
    AllPending (step (.ok s) a) ↔
      ∀ ptr, dropped s a = some ptr → tableReferences s.objects ptr = 0 := by
  constructor
  · intro after ptr drop
    obtain ⟨heap, holders, done, drops⟩ := drops_of_dropped tabled.held.counted drop
    simp only [step, bind, Except.bind, done] at after
    by_contra some
    obtain ⟨o, obj, object, member⟩ := inTable_iff.mpr (Nat.pos_of_ne_zero some)
    obtain ⟨⟨ev, here, unmarked⟩, _⟩ := after o obj object ptr member
    rw [drops.marked ptr ev List.mem_cons_self here] at unmarked
    cases unmarked
  · intro clears
    rcases act_turns tabled.held.counted a with stopped | ⟨s', done, turn⟩
    · simp only [step, bind, Except.bind, stopped]
      trivial
    · simp only [step, bind, Except.bind, done]
      exact pending_turn tabled turn other clears

theorem relocate_clears_iff (tabled : Tabled s) (o : ObjectPtr) (instanceId : Int) :
    AllPending (step (.ok s) (.relocate o instanceId)) ↔
      Clears (.ok s) (.relocate o instanceId) := by
  simp only [step, bind, Except.bind, Tables.act, Tables.call, Clears]
  split
  · rename_i obj callable object
    simp only [object, callable, Bool.true_eq_false, false_or]
    by_cases here : s.getEventHolder instanceId = obj.holder
    · simp only [Tables.eventRelocate, here, if_true, true_or, iff_true]
      exact tabled.pending
    · simp only [here, false_or]
      cases target : (s.getEventHolder instanceId).or (s.getEventHolder (-1)) with
      | none => simp [Tables.eventRelocate, if_neg here, target, AllPending]
      | some h =>
        cases found : s.holders[h]? with
        | none => simp [Tables.eventRelocate, if_neg here, target, found, AllPending]
        | some holder =>
          rw [relocate_eq tabled.held.counted object here target found]
          simp only [AllPending, pending_relocated_iff tabled.pending object found,
            Option.bind_some, found, Option.some.injEq, forall_eq']
  · rename_i unable
    refine iff_of_true tabled.pending ?_
    split
    · rename_i obj object
      refine .inl ?_
      by_contra callable
      exact unable obj (by simpa using callable) object
    · trivial

theorem clears_iff (tabled : Tabled s) (a : Act) :
    AllPending (step (.ok s) a) ↔ Clears (.ok s) a := by
  cases a with
  | relocate o instanceId => exact relocate_clears_iff tabled o instanceId
  | _ => exact turn_clears_iff tabled nofun

def AllTabled : Except Fault Tables → Prop
  | .ok s => Tabled s
  | .error _ => True

theorem allTabled_step (state : Except Fault Tables) (a : Act) (tabled : AllTabled state)
    (clears : Clears state a) : AllTabled (step state a) := by
  cases state with
  | error fault => trivial
  | ok s =>
    have pending := (clears_iff tabled a).mpr clears
    rcases act_turns tabled.held.counted a with stopped | ⟨s', done, turn⟩
    · simp only [step, bind, Except.bind, stopped]
      trivial
    · simp only [step, bind, Except.bind, done] at pending ⊢
      exact ⟨held_turn tabled.held turn, single_turn tabled.held tabled.single turn,
        calls_turn tabled.calls turn, pending⟩

/-- The tables hold pending events only in exactly the runs whose turns drop no event that a
table has, and whose objects leave no event behind. -/
theorem tables_pending_iff (acts : List Act) :
    EveryState step AllPending (.ok EventTables.start) acts ↔
      EveryStep step Clears (.ok EventTables.start) acts := by
  refine everyState_iff_everyStep AllTabled (fun _ => True) ?_ ?_ ?_ ?_ fun _ _ => trivial
  · intro state tabled
    cases state with
    | error fault => trivial
    | ok s => exact tabled.pending
  · intro state a _ tabled clears
    exact allTabled_step state a tabled clears
  · intro state a _ tabled pending
    cases state with
    | error fault => cases a <;> trivial
    | ok s => exact (clears_iff tabled a).mp pending
  · exact ⟨held_start, fun _ => Nat.zero_le 1, nofun, nofun⟩

/-- A login timer that has fired: the update has returned, and the table of the object keeps the
event, marked and in no list. -/
theorem fired_timer_kept : ∃ s,
    run step (.ok EventTables.start) [.newHolder (-1), .newObject,
      .addEvent 0 (-1) 1 1 300000 1 eventFlagDeletesObject, .update 0 300000, .visit, .finish,
      .visit] = .ok s ∧
    s.updating = none ∧ ¬ Pending s := by
  refine ⟨_, rfl, rfl, fun pending => ?_⟩
  obtain ⟨_, h, holder, placed, found, listed⟩ := pending 0 _ rfl 0 (by decide)
  cases placed
  cases found
  cases listed

end PendingEvents
