import DreamHeroes.EventReferences

/- What one act can do to the tables, and what every run of them keeps: the reference counts,
   and no call for an event that was removed. -/
namespace EventTurns

open EventTables EventReferences WalkedLists OrderedMaps LabelledRuns

/-- The acts that take entries out of the table of the object. -/
def Removes (o : ObjectPtr) (a : Act) : Prop :=
  (∃ type, a = .removeEvents o type) ∨ (∃ ptr, a = .removeByPointer o ptr) ∨ a = .destroy o

/-- The object once eventAddEvent has put its next event into the table. -/
def adding (s : Tables) (obj : EventableObject) (instanceId : Int) (type : Nat) :
    EventableObject :=
  ((obj.locate s instanceId).insertEvent type s.nextEvent).fallBack s

def afterAdding (s : Tables) (o : ObjectPtr) (obj : EventableObject) (instanceId : Int)
    (cb : Callback) (type time : Nat) (repeats : Int32) (flags : Nat) (h : HolderPtr)
    (holder : EventableObjectHolder) : Tables :=
  { s with
    heap := Function.update s.heap s.nextEvent (some
      { TimedEvent.new cb type time repeats flags with
        instanceId := (obj.locate s instanceId).eventInstanceid
        ref := 2 })
    nextEvent := s.nextEvent + 1
    objects := s.objects.set o (some (adding s obj instanceId type))
    holders := s.holders.set h { holder with events := holder.events.pushBack s.nextEvent }
    history := s.history ++ [.added s.nextEvent
      { TimedEvent.new cb type time repeats flags with
        instanceId := (obj.locate s instanceId).eventInstanceid }] }

/-- The event that has returned from its callback and stays. -/
def rearmed (ev : TimedEvent) : TimedEvent :=
  { ev.countRepeat with currTime := ev.msTime }

section

variable {ev : TimedEvent}

@[simp] theorem countRepeat_ref : ev.countRepeat.ref = ev.ref := by
  unfold TimedEvent.countRepeat
  split <;> rfl

@[simp] theorem countRepeat_deleted : ev.countRepeat.deleted = ev.deleted := by
  unfold TimedEvent.countRepeat
  split <;> rfl

@[simp] theorem countRepeat_msTime : ev.countRepeat.msTime = ev.msTime := by
  unfold TimedEvent.countRepeat
  split <;> rfl

@[simp] theorem rearmed_ref : (rearmed ev).ref = ev.ref := countRepeat_ref

@[simp] theorem rearmed_deleted : (rearmed ev).deleted = ev.deleted := countRepeat_deleted

@[simp] theorem rearmed_msTime : (rearmed ev).msTime = ev.msTime := countRepeat_msTime

@[simp] theorem rearmed_instanceId : (rearmed ev).instanceId = ev.instanceId := by
  unfold rearmed TimedEvent.countRepeat
  split <;> rfl

@[simp] theorem rearmed_eventFlag : (rearmed ev).eventFlag = ev.eventFlag := by
  unfold rearmed TimedEvent.countRepeat
  split <;> rfl

@[simp] theorem rearmed_cb : (rearmed ev).cb = ev.cb := by
  unfold rearmed TimedEvent.countRepeat
  split <;> rfl

theorem rearmed_repeats :
    (rearmed ev).repeats = if ev.repeats = 0 then 0 else ev.repeats - 1 := by
  unfold rearmed TimedEvent.countRepeat
  split
  · assumption
  · rfl

@[simp] theorem rearmed_currTime : (rearmed ev).currTime = ev.msTime := rfl

end

inductive Turn (s : Tables) : Act → Tables → Prop where
  | idle {a : Act} : Turn s a s
  | newHolder {instanceId : Int} : Turn s (.newHolder instanceId) (s.newHolder instanceId)
  | newObject : Turn s .newObject s.newObject
  | added {o : ObjectPtr} {obj : EventableObject} {instanceId : Int} {cb : Callback}
      {type time : Nat} {repeats : Int32} {flags : Nat} {h : HolderPtr}
      {holder : EventableObjectHolder} (callable : s.callable = true)
      (object : s.objects[o]? = some (some obj))
      (listed : (adding s obj instanceId type).holder = some h)
      (found : s.holders[h]? = some holder) :
      Turn s (.addEvent o instanceId cb type time repeats flags)
        (afterAdding s o obj instanceId cb type time repeats flags h holder)
  | taken {a : Act} {o : ObjectPtr} {obj : EventableObject} {left : Option EventableObject}
      {ptrs : List EventPtr} {heap : Heap} (removes : Removes o a)
      (object : s.objects[o]? = some (some obj))
      (parts : (tableOf (some obj)).Perm (ptrs ++ tableOf left))
      (same : ∀ new, left = some new →
        new.eventInstanceid = obj.eventInstanceid ∧ new.holder = obj.holder)
      (drops : Drops s.heap heap ptrs) :
      Turn s a { s with
        heap := heap
        objects := s.objects.set o left
        history := s.history ++ ptrs.map .removed }
  | relocated {o : ObjectPtr} {obj : EventableObject} {instanceId : Int} {h : HolderPtr}
      {holder : EventableObjectHolder} (object : s.objects[o]? = some (some obj))
      (elsewhere : s.getEventHolder instanceId ≠ obj.holder)
      (target : (s.getEventHolder instanceId).or (s.getEventHolder (-1)) = some h)
      (found : s.holders[h]? = some holder) :
      Turn s (.relocate o instanceId) { s with
        heap := EventReferences.relocated s.heap holder.instanceId
          (moved s.heap holder.instanceId (tableOf (some obj)))
        objects := s.objects.set o
          (some { obj with eventInstanceid := holder.instanceId, holder := some h })
        holders := s.holders.set h
          (append holder (moved s.heap holder.instanceId (tableOf (some obj)))) }
  | started {h : HolderPtr} {t : Nat} {holder : EventableObjectHolder}
      (idle : s.updating = none) (found : s.holders[h]? = some holder) :
      Turn s (.update h t) { s with
        updating := some (h, t)
        holders := s.holders.set h { holder with events := holder.events.start } }
  | ended {h : HolderPtr} {t : Nat} {holder : EventableObjectHolder}
      (updating : s.updating = some (h, t)) (found : s.holders[h]? = some holder)
      (between : holder.events.current = none) (done : holder.events.ahead = []) :
      Turn s .visit { s with updating := none }
  | discarded {h : HolderPtr} {t : Nat} {holder : EventableObjectHolder} {ptr : EventPtr}
      {rest : List EventPtr} {ev : TimedEvent} {heap : Heap}
      (updating : s.updating = some (h, t)) (found : s.holders[h]? = some holder)
      (between : holder.events.current = none) (next : holder.events.ahead = ptr :: rest)
      (here : s.heap ptr = some ev) (why : holder.discards ev = true ∨ ev.cb = none)
      (drops : Drops s.heap heap [ptr]) :
      Turn s .visit { s with
        heap := heap
        holders := s.holders.set h { holder with events := holder.events.next.erase } }
  | fired {h : HolderPtr} {t : Nat} {holder : EventableObjectHolder} {ptr : EventPtr}
      {rest : List EventPtr} {ev : TimedEvent}
      (updating : s.updating = some (h, t)) (found : s.holders[h]? = some holder)
      (between : holder.events.current = none) (next : holder.events.ahead = ptr :: rest)
      (here : s.heap ptr = some ev) (stays : holder.discards ev = false)
      (due : ev.currTime ≤ t) :
      Turn s .visit { s with
        holders := s.holders.set h { holder with events := holder.events.next }
        history := s.history ++ [.executed ptr] }
  | waited {h : HolderPtr} {t : Nat} {holder : EventableObjectHolder} {ptr : EventPtr}
      {rest : List EventPtr} {ev : TimedEvent}
      (updating : s.updating = some (h, t)) (found : s.holders[h]? = some holder)
      (between : holder.events.current = none) (next : holder.events.ahead = ptr :: rest)
      (here : s.heap ptr = some ev) (stays : holder.discards ev = false)
      (early : t < ev.currTime) :
      Turn s .visit { s with
        heap := Function.update s.heap ptr (some { ev with currTime := ev.currTime - t })
        holders := s.holders.set h { holder with events := holder.events.next.keep } }
  | expired {h : HolderPtr} {t : Nat} {holder : EventableObjectHolder} {ptr : EventPtr}
      {ev : TimedEvent} {heap : Heap} (updating : s.updating = some (h, t))
      (found : s.holders[h]? = some holder) (running : holder.events.current = some ptr)
      (here : s.heap ptr = some ev)
      (why : ev.hasFlag eventFlagDeletesObject = true ∨ ev.repeats = 1 ∨ ev.deleted = true)
      (drops : Drops s.heap heap [ptr]) :
      Turn s .finish { s with
        heap := heap
        holders := s.holders.set h { holder with events := holder.events.erase } }
  | repeated {h : HolderPtr} {t : Nat} {holder : EventableObjectHolder} {ptr : EventPtr}
      {ev : TimedEvent} (updating : s.updating = some (h, t))
      (found : s.holders[h]? = some holder) (running : holder.events.current = some ptr)
      (here : s.heap ptr = some ev) (stays : ev.hasFlag eventFlagDeletesObject = false)
      (more : ev.repeats ≠ 1) (alive : ev.deleted = false) :
      Turn s .finish { s with
        heap := Function.update s.heap ptr (some (rearmed ev))
        holders := s.holders.set h { holder with events := holder.events.keep } }

/-- The act stops at an assertion, or it does what a turn can do. -/
def Turns (s : Tables) (a : Act) (outcome : Except Fault Tables) : Prop :=
  outcome = .error .noHolder ∨ ∃ s', outcome = .ok s' ∧ Turn s a s'

variable {s s' : Tables} {o : ObjectPtr} {h : HolderPtr} {ptr : EventPtr} {a : Act}
  {obj : EventableObject} {holder : EventableObjectHolder} {t : Nat}

theorem turns_idle : Turns s a (.ok s) := .inr ⟨s, rfl, .idle⟩

theorem take_turns {left : Option EventableObject} {ptrs : List EventPtr}
    (counted : Counted s.heap (references s)) (removes : Removes o a)
    (object : s.objects[o]? = some (some obj))
    (parts : (tableOf (some obj)).Perm (ptrs ++ tableOf left))
    (same : ∀ new, left = some new →
      new.eventInstanceid = obj.eventInstanceid ∧ new.holder = obj.holder) :
    Turns s a (s.take o left ptrs) := by
  have enough : ∀ q, ptrs.count q ≤ references s q := by
    intro q
    have all := tableReferences_le object q
    have split := parts.count_eq q
    rw [List.count_append] at split
    unfold references
    omega
  obtain ⟨heap, done, drops⟩ := decRefAll_drops counted enough
  refine .inr ⟨_, ?_, .taken removes object parts same drops⟩
  simp only [Tables.take, done, bind, Except.bind, pure, Except.pure]

theorem removeEvents_turns (counted : Counted s.heap (references s))
    (object : s.objects[o]? = some (some obj)) (type : Nat) :
    Turns s (.removeEvents o type) (s.eventRemoveEvents o obj type) := by
  unfold Tables.eventRemoveEvents
  split
  · refine take_turns counted (.inl ⟨type, rfl⟩) object ?_ ?_
    · simp [tableOf]
    · rintro new ⟨⟩
      exact ⟨rfl, rfl⟩
  · refine take_turns counted (.inl ⟨type, rfl⟩) object ?_ ?_
    · have parts := (List.filter_append_perm (fun entry => decide (entry.1 = type))
        obj.events).map Prod.snd
      rw [List.map_append] at parts
      simpa [tableOf] using parts.symm
    · rintro new ⟨⟩
      exact ⟨rfl, rfl⟩

theorem removeByPointer_turns (counted : Counted s.heap (references s))
    (object : s.objects[o]? = some (some obj)) (ptr : EventPtr) :
    Turns s (.removeByPointer o ptr)
      (if (s.heap ptr).isSome then s.eventRemoveByPointer o obj ptr else .ok s) := by
  split
  · rename_i alive
    obtain ⟨ev, here⟩ := Option.isSome_iff_exists.mp alive
    simp only [Tables.eventRemoveByPointer, deref, here, bind, Except.bind]
    split
    · rename_i member
      refine take_turns counted (.inr (.inl ⟨ptr, rfl⟩)) object ?_ ?_
      · have parts := (List.perm_cons_erase member).map Prod.snd
        simpa [tableOf] using parts
      · rintro new ⟨⟩
        exact ⟨rfl, rfl⟩
    · exact turns_idle
  · exact turns_idle

theorem destroy_turns (counted : Counted s.heap (references s))
    (object : s.objects[o]? = some (some obj)) : Turns s (.destroy o) (s.destroy o obj) := by
  refine take_turns counted (.inr (.inr rfl)) object ?_ ?_
  · simp [tableOf]
  · rintro new ⟨⟩

theorem newEvent_eq {instanceId : Int} {type : Nat} (o : ObjectPtr) (cb : Callback) (time : Nat)
    (repeats : Int32) (flags : Nat) (listed : (adding s obj instanceId type).holder = some h)
    (found : s.holders[h]? = some holder) :
    s.newEvent o obj instanceId (.new cb type time repeats flags) =
      .ok (afterAdding s o obj instanceId cb type time repeats flags h holder) := by
  simp only [Tables.newEvent, Tables.eventAddEvent, incRef, deref, Function.update_self, bind,
    Except.bind, pure, Except.pure]
  split
  · rename_i none
    cases listed.symm.trans none
  · rename_i k there
    cases listed.symm.trans there
    simp only [Tables.addEvent, found, incRef, deref, Function.update_self, bind, Except.bind,
      pure, Except.pure, Function.update_idem]
    rfl

theorem newEvent_turns (callable : s.callable = true) (object : s.objects[o]? = some (some obj))
    (instanceId : Int) (cb : Callback) (type time : Nat) (repeats : Int32) (flags : Nat) :
    Turns s (.addEvent o instanceId cb type time repeats flags)
      (s.newEvent o obj instanceId (.new cb type time repeats flags)) := by
  by_cases done : ∃ h holder, (adding s obj instanceId type).holder = some h ∧
      s.holders[h]? = some holder
  · obtain ⟨h, holder, listed, found⟩ := done
    exact .inr ⟨_, newEvent_eq o cb time repeats flags listed found,
      .added callable object listed found⟩
  · refine .inl ?_
    simp only [Tables.newEvent, Tables.eventAddEvent, incRef, deref, Function.update_self, bind,
      Except.bind, pure, Except.pure]
    split
    · rfl
    · rename_i h listed
      unfold Tables.addEvent
      split
      · rfl
      · rename_i holder found
        exact absurd ⟨h, holder, listed, found⟩ done

/-- The drop of a node the list of a holder still has. -/
theorem drop_done {n : EventPtr → Nat} (h : HolderPtr) (entered : EventableObjectHolder)
    (counted : Counted s.heap n) (held : 0 < n ptr) :
    ∃ heap, s.drop h entered ptr = .ok { s with
        heap := heap
        holders := s.holders.set h { entered with events := entered.events.erase } } ∧
      Drops s.heap heap [ptr] := by
  obtain ⟨heap, done, drops⟩ := decRef_drops counted held
  refine ⟨heap, ?_, drops⟩
  simp only [Tables.drop, done, bind, Except.bind, pure, Except.pure]

theorem held_of_listed (found : s.holders[h]? = some holder)
    (listed : ptr ∈ holder.events.toList) : 0 < references s ptr := by
  have once := List.count_pos_iff.mpr listed
  have all := listReferences_le found ptr
  unfold references
  omega

theorem listed_once (found : s.holders[h]? = some holder)
    (listed : ptr ∈ holder.events.toList) (q : EventPtr) : [ptr].count q ≤ references s q := by
  by_cases same : q = ptr
  · have held := held_of_listed found listed
    rw [same, List.count_cons_self, List.count_nil]
    omega
  · simp [Ne.symm same]

theorem mem_of_next {rest : List EventPtr} (next : holder.events.ahead = ptr :: rest) :
    ptr ∈ holder.events.toList :=
  WalkedList.ahead_subset (next ▸ List.mem_cons_self)

theorem perm_of_next {rest : List EventPtr} (between : holder.events.current = none)
    (next : holder.events.ahead = ptr :: rest) :
    holder.events.toList.Perm (ptr :: holder.events.next.erase.toList) := by
  have entered : holder.events.next.current = some ptr := by simp [WalkedList.next, next]
  have node := WalkedList.toList_erase_perm entered
  rwa [WalkedList.toList_next between] at node

theorem unmarked_of_stays {ev : TimedEvent} (stays : holder.discards ev = false) :
    ev.deleted = false := by
  cases mark : ev.deleted with
  | false => rfl
  | true => simp [EventableObjectHolder.discards, mark] at stays

theorem visit_turns (counted : Counted s.heap (references s))
    (updating : s.updating = some (h, t)) (found : s.holders[h]? = some holder)
    (between : holder.events.current = none) :
    Turns s .visit (s.visit h t holder) := by
  unfold Tables.visit
  cases next : holder.events.ahead with
  | nil => exact .inr ⟨_, rfl, .ended updating found between next⟩
  | cons ptr rest =>
    have held := held_of_listed found (mem_of_next next)
    obtain ⟨ev, here⟩ := counted.alive held
    simp only [deref, here, bind, Except.bind]
    split
    · rename_i why
      obtain ⟨heap, done, drops⟩ := drop_done h _ counted held
      exact .inr ⟨_, done, .discarded updating found between next here (.inl why) drops⟩
    · rename_i stays
      rw [Bool.not_eq_true] at stays
      split
      · rename_i due
        cases call : ev.cb with
        | none =>
          obtain ⟨heap, done, drops⟩ := drop_done h _ counted held
          exact .inr ⟨_, done, .discarded updating found between next here (.inr call) drops⟩
        | some cb => exact .inr ⟨_, rfl, .fired updating found between next here stays due⟩
      · rename_i early
        exact .inr ⟨_, rfl, .waited updating found between next here stays (by omega)⟩

theorem last_repeat {ev : TimedEvent} :
    (ev.repeats ≠ 0 ∧ ev.countRepeat.repeats = 0) ↔ ev.repeats = 1 := by
  unfold TimedEvent.countRepeat
  split
  · rename_i none
    simp [none]
  · rename_i some
    simp [some, Int32.sub_eq_iff_eq_add]

theorem finish_expired {ev : TimedEvent} (counted : Counted s.heap (references s))
    (found : s.holders[h]? = some holder) (running : holder.events.current = some ptr)
    (here : s.heap ptr = some ev)
    (why : ev.hasFlag eventFlagDeletesObject = true ∨ ev.repeats = 1 ∨ ev.deleted = true) :
    ∃ heap, s.finish h holder ptr = .ok { s with
        heap := heap
        holders := s.holders.set h { holder with events := holder.events.erase } } ∧
      Drops s.heap heap [ptr] := by
  have held := held_of_listed found (WalkedList.mem_of_current running)
  unfold Tables.finish
  simp only [deref, here, bind, Except.bind, last_repeat, countRepeat_deleted]
  split
  · exact drop_done h _ counted held
  · rename_i stays
    rw [if_pos (why.resolve_left stays)]
    obtain ⟨heap, done, drops⟩ := drop_done (s := { s with
      heap := Function.update s.heap ptr (some ev.countRepeat) }) h holder
      (counted_write counted here countRepeat_ref) held
    exact ⟨heap, done, drops_of_write here countRepeat_ref drops⟩

theorem finish_turns (counted : Counted s.heap (references s))
    (updating : s.updating = some (h, t)) (found : s.holders[h]? = some holder)
    (running : holder.events.current = some ptr) :
    Turns s .finish (s.finish h holder ptr) := by
  have held := held_of_listed found (WalkedList.mem_of_current running)
  obtain ⟨ev, here⟩ := counted.alive held
  by_cases why : ev.hasFlag eventFlagDeletesObject = true ∨ ev.repeats = 1 ∨ ev.deleted = true
  · obtain ⟨heap, done, drops⟩ := finish_expired counted found running here why
    exact .inr ⟨_, done, .expired updating found running here why drops⟩
  · simp only [not_or, Bool.not_eq_true] at why
    obtain ⟨stays, more, alive⟩ := why
    refine .inr ⟨_, ?_, .repeated updating found running here stays more alive⟩
    simp only [Tables.finish, deref, here, bind, Except.bind, last_repeat, countRepeat_deleted,
      stays, more, alive, or_self, Bool.false_eq_true, if_false, rearmed, countRepeat_msTime, pure,
      Except.pure]

/-- The tables when an object went over to the holder h. -/
abbrev afterRelocating (s : Tables) (o : ObjectPtr) (obj : EventableObject) (h : HolderPtr)
    (holder : EventableObjectHolder) : Tables :=
  { s with
    heap := EventReferences.relocated s.heap holder.instanceId
      (moved s.heap holder.instanceId (tableOf (some obj)))
    objects := s.objects.set o
      (some { obj with eventInstanceid := holder.instanceId, holder := some h })
    holders := s.holders.set h
      (append holder (moved s.heap holder.instanceId (tableOf (some obj)))) }

/-- Where the object goes to another holder its events go along. -/
theorem relocate_eq {instanceId : Int} (counted : Counted s.heap (references s))
    (object : s.objects[o]? = some (some obj)) (elsewhere : s.getEventHolder instanceId ≠ obj.holder)
    (target : (s.getEventHolder instanceId).or (s.getEventHolder (-1)) = some h)
    (found : s.holders[h]? = some holder) :
    s.eventRelocate o obj instanceId = .ok (afterRelocating s o obj h holder) := by
  simp only [Tables.eventRelocate, if_neg elsewhere, target, found]
  refine addObject_eq found ?_
  intro entry member
  have listed : 0 < (tableOf (some obj)).count entry.2 :=
    List.count_pos_iff.mpr (List.mem_map_of_mem member)
  have all := tableReferences_le object entry.2
  exact counted.alive (by unfold references; omega)

theorem relocate_turns (counted : Counted s.heap (references s))
    (object : s.objects[o]? = some (some obj)) (instanceId : Int) :
    Turns s (.relocate o instanceId) (s.eventRelocate o obj instanceId) := by
  by_cases here : s.getEventHolder instanceId = obj.holder
  · simp only [Tables.eventRelocate, if_pos here]
    exact turns_idle
  · cases target : (s.getEventHolder instanceId).or (s.getEventHolder (-1)) with
    | none =>
      simp only [Tables.eventRelocate, if_neg here, target]
      exact .inl rfl
    | some h =>
      cases found : s.holders[h]? with
      | none =>
        simp only [Tables.eventRelocate, if_neg here, target, found]
        exact .inl rfl
      | some holder =>
        exact .inr ⟨_, relocate_eq counted object here target found,
          .relocated object here target found⟩

theorem call_turns {f : EventableObject → Except Fault Tables}
    (turns : ∀ obj, s.callable = true → s.objects[o]? = some (some obj) → Turns s a (f obj)) :
    Turns s a (s.call o f) := by
  unfold Tables.call
  split
  · rename_i obj callable object
    exact turns obj callable object
  · exact turns_idle

/-- No act touches a freed event: it runs to its end or to an assertion. -/
theorem act_turns (counted : Counted s.heap (references s)) (a : Act) : Turns s a (s.act a) := by
  cases a with
  | newHolder instanceId => exact .inr ⟨_, rfl, .newHolder⟩
  | newObject => exact .inr ⟨_, rfl, .newObject⟩
  | addEvent o instanceId cb type time repeats flags =>
    exact call_turns fun obj callable object =>
      newEvent_turns callable object instanceId cb type time repeats flags
  | removeEvents o type =>
    exact call_turns fun obj _ object => removeEvents_turns counted object type
  | removeByPointer o ptr =>
    exact call_turns fun obj _ object => removeByPointer_turns counted object ptr
  | destroy o => exact call_turns fun obj _ object => destroy_turns counted object
  | relocate o instanceId =>
    exact call_turns fun obj _ object => relocate_turns counted object instanceId
  | update h t =>
    simp only [Tables.act]
    split
    · rename_i holder idle found
      exact .inr ⟨_, rfl, .started idle found⟩
    · exact turns_idle
  | visit =>
    simp only [Tables.act]
    split
    · exact turns_idle
    · rename_i h t updating
      split
      · exact turns_idle
      · rename_i holder found
        split
        · exact turns_idle
        · rename_i between
          exact visit_turns counted updating found (by simpa using between)
  | finish =>
    simp only [Tables.act]
    split
    · exact turns_idle
    · rename_i h t updating
      split
      · exact turns_idle
      · rename_i holder found
        split
        · exact turns_idle
        · rename_i ptr running
          exact finish_turns counted updating found running

theorem adding_events {instanceId : Int} {type : Nat} :
    (adding s obj instanceId type).events =
      obj.events.orderedInsert (fun a b => a.1 < b.1) (type, s.nextEvent) := by
  unfold adding EventableObject.fallBack EventableObject.insertEvent EventableObject.locate
  grind

theorem count_adding {instanceId : Int} {type : Nat} :
    (tableOf (some (adding s obj instanceId type))).count ptr =
      (tableOf (some obj)).count ptr + [s.nextEvent].count ptr := by
  have perm := (List.perm_orderedInsert (fun a b => a.1 < b.1) (type, s.nextEvent)
    obj.events).map Prod.snd
  simp only [tableOf, adding_events]
  rw [perm.count_eq]
  simp [List.count_cons]

theorem counted_congr {heap : Heap} {n m : EventPtr → Nat} (counted : Counted heap n)
    (same : ∀ q, m q = n q) : Counted heap m := by
  have equal : m = n := funext same
  exact equal ▸ counted

theorem counted_relocated {heap : Heap} {n m : EventPtr → Nat} {instanceId : Int}
    {ptrs : List EventPtr} (counted : Counted heap n) (more : ∀ q, m q = n q + ptrs.count q)
    (alive : ∀ q, q ∈ ptrs → heap q ≠ none) :
    Counted (EventReferences.relocated heap instanceId ptrs) m where
  freed q gone := by
    simp only [EventReferences.relocated, Option.map_eq_none_iff] at gone
    have absent : q ∉ ptrs := fun member => alive q member gone
    rw [more q, counted.freed q gone, List.count_eq_zero.mpr absent]
  counted q ev here := by
    simp only [EventReferences.relocated, Option.map_eq_some_iff] at here
    obtain ⟨old, was, rfl⟩ := here
    have before := counted.counted q old was
    rw [more q]
    split
    · simp only
      omega
    · rename_i absent
      rw [List.count_eq_zero.mpr absent]
      exact before

theorem moved_alive {heap : Heap} {instanceId : Int} {ptrs : List EventPtr}
    (member : ptr ∈ moved heap instanceId ptrs) : heap ptr ≠ none := by
  intro gone
  have taken := (List.mem_filter.mp member).2
  simp [gone] at taken

/-- decRef and erase of one node of a list. -/
theorem counted_erase {heap : Heap} {left : WalkedList EventPtr}
    (counted : Counted s.heap (references s)) (found : s.holders[h]? = some holder)
    (node : holder.events.toList.Perm (ptr :: left.toList)) (drops : Drops s.heap heap [ptr]) :
    Counted heap (references { s with
      heap := heap
      holders := s.holders.set h { holder with events := left } }) := by
  have lists : ∀ q, listReferences (s.holders.set h { holder with events := left }) q +
      holder.events.toList.count q = listReferences s.holders q + left.toList.count q :=
    listReferences_set found _
  have split := fun q => node.count_eq q
  have all := fun q => listReferences_le found q
  simp only [List.count_cons] at split
  refine counted_congr (drops.counts _ counted fun q => ?_) fun q => ?_
  · have := split q
    have := all q
    simp only [List.count_cons, List.count_nil, references]
    omega
  · have := split q
    have := lists q
    simp only [List.count_cons, List.count_nil, references]
    omega

/-- Every turn keeps the reference counts. -/
theorem counted_turn (counted : Counted s.heap (references s))
    (fresh : s.heap s.nextEvent = none) (turn : Turn s a s') :
    Counted s'.heap (references s') := by
  cases turn with
  | idle => exact counted
  | newHolder =>
    refine counted_congr counted fun q => ?_
    simp [references, Tables.newHolder, listReferences]
  | newObject =>
    refine counted_congr counted fun q => ?_
    simp [references, Tables.newObject, tableReferences, tableOf]
  | @added o obj instanceId cb type time repeats flags h holder callable object listed found =>
    have none := counted.freed s.nextEvent fresh
    unfold afterAdding
    have tables := fun q => tableReferences_set object
      (some (adding s obj instanceId type)) q
    have lists := fun q => listReferences_set found
      { holder with events := holder.events.pushBack s.nextEvent } q
    simp only [count_adding, WalkedList.toList_pushBack, List.count_append] at tables lists
    have here := tables s.nextEvent
    have there := lists s.nextEvent
    simp only [List.count_cons_self, List.count_nil] at here there
    unfold references at none
    refine counted_set counted ?_ ?_ ?_
    · intro q other
      have here := tables q
      have there := lists q
      simp only [List.count_cons, List.count_nil, beq_iff_eq, Ne.symm other, if_false] at here there
      simp only [references]
      omega
    · simp only [references]
      omega
    · simp only [references]
      omega
  | @taken a o obj left ptrs heap removes object parts same drops =>
    have tables := fun q => tableReferences_set object left q
    have split := fun q => parts.count_eq q
    simp only [List.count_append] at split
    have all := fun q => tableReferences_le object q
    refine counted_congr (drops.counts _ counted fun q => ?_) fun q => ?_
    · have := split q
      have := all q
      unfold references
      omega
    · have := tables q
      have := split q
      simp only [references]
      omega
  | @relocated o obj instanceId h holder object elsewhere target found =>
    refine counted_relocated counted ?_ fun q => moved_alive
    intro q
    have tables := tableReferences_set object
      (some { obj with eventInstanceid := holder.instanceId, holder := some h }) q
    have lists := listReferences_set found
      (append holder (moved s.heap holder.instanceId (tableOf (some obj)))) q
    simp only [toList_append, List.count_append] at lists
    simp only [tableOf] at tables lists ⊢
    simp only [references]
    omega
  | @started h t holder idle found =>
    refine counted_congr counted fun q => ?_
    simp only [references, listReferences_same found
      { holder with events := holder.events.start } WalkedList.toList_start]
  | ended => exact counted
  | @discarded h t holder ptr rest ev heap updating found between next here why drops =>
    exact counted_erase counted found (perm_of_next between next) drops
  | @fired h t holder ptr rest ev updating found between next here stays due =>
    refine counted_congr counted fun q => ?_
    simp only [references, listReferences_same found
      { holder with events := holder.events.next } (WalkedList.toList_next between)]
  | @waited h t holder ptr rest ev updating found between next here stays early =>
    have same : holder.events.next.keep.toList = holder.events.toList := by
      rw [WalkedList.toList_keep, WalkedList.toList_next between]
    refine counted_congr (counted_write counted here rfl) fun q => ?_
    simp only [references, listReferences_same found
      { holder with events := holder.events.next.keep } same]
  | @expired h t holder ptr ev heap updating found running here why drops =>
    exact counted_erase counted found (WalkedList.toList_erase_perm running) drops
  | @repeated h t holder ptr ev updating found running here stays more alive =>
    refine counted_congr (counted_write counted here rearmed_ref) fun q => ?_
    simp only [references, listReferences_same found
      { holder with events := holder.events.keep } WalkedList.toList_keep]

/-- No callback is executed for an event after it was taken out of its owner's table. -/
def NeverAfterRemoval (history : List Moment) : Prop :=
  EachAfter (fun before moment => ∀ ptr, moment = .executed ptr → .removed ptr ∉ before) history

/-- What a turn keeps of the events: new ones get a new pointer and no mark goes away. -/
structure Keeps (s s' : Tables) : Prop where
  next : s.nextEvent ≤ s'.nextEvent
  events : ∀ ptr ev', s'.heap ptr = some ev' →
    (ptr = s.nextEvent ∧ ptr < s'.nextEvent) ∨
    ∃ ev, s.heap ptr = some ev ∧ (ev.deleted = true → ev'.deleted = true)
  removed : ∀ ptr, .removed ptr ∈ s'.history → .removed ptr ∈ s.history ∨
    s.heap ptr ≠ none ∧ ∀ ev', s'.heap ptr = some ev' → ev'.deleted = true

theorem keeps_same (next : s'.nextEvent = s.nextEvent) (heap : s'.heap = s.heap)
    (history : ∀ ptr, .removed ptr ∈ s'.history → .removed ptr ∈ s.history) : Keeps s s' where
  next := next.ge
  events _ ev' here := .inr ⟨ev', heap ▸ here, id⟩
  removed ptr member := .inl (history ptr member)

theorem keeps_write {ev new : TimedEvent} (next : s'.nextEvent = s.nextEvent)
    (heap : s'.heap = Function.update s.heap ptr (some new)) (here : s.heap ptr = some ev)
    (mark : ev.deleted = true → new.deleted = true) (history : s'.history = s.history) :
    Keeps s s' where
  next := next.ge
  events q ev' found := by
    rw [heap] at found
    rcases put_cases found with ⟨rfl, rfl⟩ | ⟨_, old⟩
    · exact .inr ⟨ev, here, mark⟩
    · exact .inr ⟨ev', old, id⟩
  removed q member := .inl (history ▸ member)

theorem keeps_drops {ptrs : List EventPtr} (counted : Counted s.heap (references s))
    (enough : ∀ q, ptrs.count q ≤ references s q) (next : s'.nextEvent = s.nextEvent)
    (drops : Drops s.heap s'.heap ptrs)
    (history : ∀ q, .removed q ∈ s'.history → .removed q ∈ s.history ∨ q ∈ ptrs) :
    Keeps s s' where
  next := next.ge
  events q ev' found := by
    obtain ⟨ev, here⟩ := Option.ne_none_iff_exists'.mp (drops.old q ev' found)
    refine .inr ⟨ev, here, fun mark => ?_⟩
    by_cases member : q ∈ ptrs
    · exact drops.marked q ev' member found
    · rw [drops.others q member, here] at found
      exact Option.some.inj found ▸ mark
  removed q member := by
    rcases history q member with old | taken
    · exact .inl old
    · have held : 0 < references s q :=
        lt_of_lt_of_le (List.count_pos_iff.mpr taken) (enough q)
      obtain ⟨ev, here⟩ := counted.alive held
      exact .inr ⟨by simp [here], fun ev' found => drops.marked q ev' taken found⟩

theorem keeps_turn (counted : Counted s.heap (references s)) (turn : Turn s a s') :
    Keeps s s' := by
  cases turn with
  | idle => exact keeps_same rfl rfl fun _ => id
  | newHolder => exact keeps_same rfl rfl fun _ => id
  | newObject => exact keeps_same rfl rfl fun _ => id
  | added callable object listed found =>
    refine ⟨Nat.le_succ _, ?_, ?_⟩
    · intro q ev' here
      rcases put_cases here with ⟨rfl, _⟩ | ⟨_, old⟩
      · exact .inl ⟨rfl, Nat.lt_succ_self _⟩
      · exact .inr ⟨ev', old, id⟩
    · intro q member
      exact .inl (by simpa [afterAdding] using member)
  | @taken a o obj left ptrs heap removes object parts same drops =>
    refine keeps_drops counted ?_ rfl drops ?_
    · intro q
      have split := parts.count_eq q
      have all := tableReferences_le object q
      rw [List.count_append] at split
      unfold references
      omega
    · intro q member
      simpa using member
  | relocated object elsewhere target found =>
    refine ⟨le_rfl, ?_, fun _ => .inl⟩
    intro q ev' here
    simp only [EventReferences.relocated, Option.map_eq_some_iff] at here
    obtain ⟨ev, was, same⟩ := here
    refine .inr ⟨ev, was, fun mark => ?_⟩
    split at same
    · exact same ▸ mark
    · exact same ▸ mark
  | started => exact keeps_same rfl rfl fun _ => id
  | ended => exact keeps_same rfl rfl fun _ => id
  | discarded updating found between next here why drops =>
    exact keeps_drops counted (listed_once found (mem_of_next next)) rfl drops fun _ => .inl
  | fired updating found between next here stays due =>
    exact keeps_same rfl rfl fun q member => by simpa using member
  | waited updating found between next here stays early =>
    exact keeps_write rfl rfl here id rfl
  | expired updating found running here why drops =>
    exact keeps_drops counted (listed_once found (WalkedList.mem_of_current running)) rfl drops
      fun _ => .inl
  | repeated updating found running here stays more alive =>
    refine keeps_write rfl rfl here ?_ rfl
    simp [alive]

/-- What every run keeps. -/
structure Held (s : Tables) : Prop where
  counted : Counted s.heap (references s)
  fresh : ∀ ptr, s.nextEvent ≤ ptr → s.heap ptr = none
  known : ∀ ptr, .removed ptr ∈ s.history → ptr < s.nextEvent
  marked : ∀ ptr ev, .removed ptr ∈ s.history → s.heap ptr = some ev → ev.deleted = true
  order : NeverAfterRemoval s.history

theorem held_turn (held : Held s) (turn : Turn s a s') : Held s' where
  counted := counted_turn held.counted (held.fresh _ le_rfl) turn
  fresh := by
    have keeps := keeps_turn held.counted turn
    intro ptr above
    rw [Option.eq_none_iff_forall_ne_some]
    intro ev here
    rcases keeps.events ptr ev here with ⟨_, below⟩ | ⟨old, was, _⟩
    · exact absurd below (not_lt.mpr above)
    · rw [held.fresh ptr (le_trans keeps.next above)] at was
      cases was
  known := by
    have keeps := keeps_turn held.counted turn
    intro ptr member
    rcases keeps.removed ptr member with old | ⟨alive, _⟩
    · exact lt_of_lt_of_le (held.known ptr old) keeps.next
    · by_contra above
      exact alive (held.fresh ptr (le_trans keeps.next (not_lt.mp above)))
  marked := by
    have keeps := keeps_turn held.counted turn
    intro ptr ev member here
    rcases keeps.removed ptr member with old | ⟨_, mark⟩
    · rcases keeps.events ptr ev here with ⟨new, _⟩ | ⟨before, was, mark⟩
      · exact absurd new (held.known ptr old).ne
      · exact mark (held.marked ptr before old was)
    · exact mark ev here
  order := by
    cases turn with
    | added => exact eachAfter_append held.order fun _ => nofun
    | taken => exact eachAfter_append_all held.order (by simp)
    | @fired h t holder ptr rest ev updating found between next here stays due =>
      refine eachAfter_append held.order ?_
      rintro q ⟨⟩ gone
      have mark := held.marked ptr ev gone here
      rw [unmarked_of_stays stays] at mark
      cases mark
    | _ => exact held.order

theorem held_start : Held EventTables.start where
  counted := ⟨fun _ _ => rfl, fun _ _ => nofun⟩
  fresh _ _ := rfl
  known _ := nofun
  marked _ _ := nofun
  order := eachAfter_nil

/-- A run is stopped by an assertion or keeps the invariant; it never touches a freed event. -/
def Safe : Except Fault Tables → Prop
  | .ok s => Held s
  | .error fault => fault = .noHolder

theorem safe_step (state : Except Fault Tables) (a : Act) (safe : Safe state) :
    Safe (step state a) := by
  cases state with
  | error fault => exact safe
  | ok s =>
    rcases act_turns safe.counted a with stopped | ⟨s', done, turn⟩
    · simp only [step, bind, Except.bind, stopped]
      rfl
    · simp only [step, bind, Except.bind, done]
      exact held_turn safe turn

theorem safe_run (acts : List Act) : Safe (run step (.ok EventTables.start) acts) := by
  have start : Safe (.ok EventTables.start) := held_start
  exact run_of_every safe_step start acts

/-- The reference counts, the freed events and the calls are right in the state. -/
structure Sound (s : Tables) : Prop where
  counted : ∀ ptr ev, s.heap ptr = some ev → ev.ref = references s ptr
  freed : ∀ ptr, s.heap ptr = none ↔ references s ptr = 0
  never : NeverAfterRemoval s.history

theorem events_sound (acts : List Act) :
    run step (.ok EventTables.start) acts ≠ .error .freedEvent ∧
      ∀ s, run step (.ok EventTables.start) acts = .ok s → Sound s := by
  have safe := safe_run acts
  constructor
  · intro touched
    rw [touched] at safe
    cases safe
  · intro s reached
    rw [reached] at safe
    refine ⟨fun ptr ev here => (safe.counted.counted ptr ev here).1, fun ptr => ?_, safe.order⟩
    constructor
    · exact safe.counted.freed ptr
    · intro none
      rw [Option.eq_none_iff_forall_ne_some]
      intro ev here
      have held := (safe.counted.counted ptr ev here).2
      omega

end EventTurns
