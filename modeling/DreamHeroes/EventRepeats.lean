import Mathlib.Algebra.Group.Int.Defs
import Mathlib.Algebra.Group.Nat.Defs
import DreamHeroes.EventHolders
import DreamHeroes.RepeatedTimers

/- When and how often one event fires over the updates of its holder, from the act that adds it
   to any later state. -/
namespace EventRepeats

open EventTables EventReferences EventTurns EventHolders WalkedLists OrderedMaps LabelledRuns
  RepeatedTimers

/-- The time difference of the update of the holder that runs. -/
def walking (s : Tables) (h : HolderPtr) : Option Nat :=
  s.updating.bind fun update => if update.1 = h then some update.2 else none

/- passes: the updates of one holder that are over, each with its time difference and with how
   often one event fired in it. firings: how often it has fired since. -/
structure Watch where
  state : Except Fault Tables
  passes : List (Nat × Nat)
  firings : Nat

def Watch.differences (w : Watch) : List Nat := w.passes.map (·.1)

def Watch.turn (w : Watch) (h : HolderPtr) (ptr : EventPtr) (s s' : Tables) : Watch :=
  let firings := w.firings + (s'.history.count (.executed ptr) - s.history.count (.executed ptr))
  match walking s h, walking s' h with
  | some t, none => ⟨.ok s', w.passes ++ [(t, firings)], 0⟩
  | _, _ => ⟨.ok s', w.passes, firings⟩

def observe (h : HolderPtr) (ptr : EventPtr) (w : Watch) (a : Act) : Watch :=
  match w.state, step w.state a with
  | .ok s, .ok s' => w.turn h ptr s s'
  | _, after => { w with state := after }

/-- How often an event is to fire; no positive count of repeats means for ever. -/
def asked (added : TimedEvent) : Option Nat :=
  if added.hasFlag eventFlagDeletesObject then some 1
  else if 0 < added.repeats then some added.repeats.toInt.toNat else none

def Listed (s : Tables) (h : HolderPtr) (ptr : EventPtr) : Prop :=
  ∃ holder, s.holders[h]? = some holder ∧ ptr ∈ holder.events.toList

/-- The event has fired when it is to, in the updates that are over, in the one that runs at most
so often, and it is in the list of its holder as long as it is to fire again. -/
structure Right (h : HolderPtr) (ptr : EventPtr) (added : TimedEvent) (w : Watch) (s : Tables) :
    Prop where
  passes : w.passes.map (·.2) = firings added.msTime (asked added) .zero w.differences
  running : ∀ t, walking s h = some t →
    w.firings ≤ ((after added.msTime (asked added) w.differences).due added.msTime (asked added)
      t).toNat
  idle : walking s h = none → w.firings = 0
  listed : walking s h = none →
    (Listed s h ptr ↔ (after added.msTime (asked added) w.differences).live (asked added) = true)

def FiresAsAsked (h : HolderPtr) (ptr : EventPtr) (added : TimedEvent) (w : Watch) : Prop :=
  ∀ s, w.state = .ok s → Right h ptr added w s

/-- Outside an update the act adds an event to the list of a holder, the one of its instance, and
the holder is one to execute it. -/
structure Adds (s : Tables) (o : ObjectPtr) (instanceId : Int) (added : TimedEvent)
    (h : HolderPtr) : Prop where
  reached : ∃ acts, run step (.ok EventTables.start) acts = .ok s
  idle : s.updating = none
  object : ∃ obj, s.objects[o]? = some (some obj) ∧
    (adding s obj instanceId added.eventType).holder = some h ∧
    (obj.locate s instanceId).eventInstanceid = added.instanceId
  own : instanceOf s h = some added.instanceId
  executes : ¬ Barred added

def NotRemoved (ptr : EventPtr) : Except Fault Tables → Prop
  | .ok s => .removed ptr ∉ s.history
  | .error _ => True

def NotMoved (ptr : EventPtr) : Except Fault Tables → Act → Prop
  | .ok s, .relocate o instanceId =>
      match s.objects[o]? with
      | some (some obj) => ptr ∈ tableOf (some obj) → s.getEventHolder instanceId = obj.holder
      | _ => True
  | _, _ => True

/-- The event is not removed, and not moved to another holder. -/
def Spares (ptr : EventPtr) (w : Watch) (a : Act) : Prop :=
  NotRemoved ptr (step w.state a) ∧ NotMoved ptr w.state a

instance decidableNotRemoved (ptr : EventPtr) :
    (s : Except Fault Tables) → Decidable (NotRemoved ptr s)
  | .ok s => inferInstanceAs (Decidable (.removed ptr ∉ s.history))
  | .error _ => .isTrue trivial

instance decidableNotMoved (ptr : EventPtr) :
    (s : Except Fault Tables) → (a : Act) → Decidable (NotMoved ptr s a)
  | .error _, _ => .isTrue trivial
  | .ok s, .relocate o instanceId =>
      match object : s.objects[o]? with
      | some (some obj) => decidable_of_iff
          (ptr ∈ tableOf (some obj) → s.getEventHolder instanceId = obj.holder)
          (by rw [NotMoved, object])
      | some none => .isTrue (by rw [NotMoved, object]; trivial)
      | none => .isTrue (by rw [NotMoved, object]; trivial)
  | .ok _, .newHolder _ | .ok _, .newObject | .ok _, .addEvent .. | .ok _, .removeEvents ..
  | .ok _, .removeByPointer .. | .ok _, .destroy _ | .ok _, .update .. | .ok _, .visit
  | .ok _, .finish => .isTrue trivial

instance decidableSpares (ptr : EventPtr) (w : Watch) (a : Act) : Decidable (Spares ptr w a) :=
  instDecidableAnd

/-- How often the update fires an event before it drops it: the count of repeats goes down through
the negative numbers and comes back from above. -/
def counted (added : TimedEvent) : Option Nat :=
  if added.hasFlag eventFlagDeletesObject then some 1
  else if added.repeats = 0 then none else some added.repeats.toUInt32.toNat

/-- What the tables say of the event in the list of a holder. -/
structure Node where
  count : Nat
  ahead : Bool
  current : Bool

def nodeIn (list : WalkedList EventPtr) (ptr : EventPtr) : Node :=
  ⟨list.toList.count ptr, ptr ∈ list.ahead, list.current = some ptr⟩

def node (s : Tables) (h : HolderPtr) (ptr : EventPtr) : Option Node :=
  s.holders[h]?.map fun holder => nodeIn holder.events ptr

/-- The event carries what is left of its time and of its repeats. -/
structure Clocked (added ev : TimedEvent) (c : Clock) : Prop where
  flag : ev.eventFlag = added.eventFlag
  instanceId : ev.instanceId = added.instanceId
  call : ev.cb ≠ none
  msTime : ev.msTime = added.msTime
  unmarked : ev.deleted = false
  time : ev.currTime + c.since = added.msTime
  live : c.live (counted added) = true
  endless : added.repeats = 0 → ev.repeats = 0
  left : added.repeats ≠ 0 → ev.repeats ≠ 0 ∧
    ev.repeats.toUInt32.toNat + c.fired = added.repeats.toUInt32.toNat

/-- Where the event is in the update of its holder, and how often it has fired in it; c is the
clock of the updates that are over. -/
inductive Position (added : TimedEvent) (c : Clock) :
    Option TimedEvent → Option Nat → Option Node → Nat → Prop
  | waiting {ev : TimedEvent} {ahead : Bool} (clocked : Clocked added ev c) :
      Position added c (some ev) none (some ⟨1, ahead, false⟩) 0
  | ahead {ev : TimedEvent} {t : Nat} (clocked : Clocked added ev c) :
      Position added c (some ev) (some t) (some ⟨1, true, false⟩) 0
  | running {ev : TimedEvent} {t : Nat} (clocked : Clocked added ev c)
      (due : c.due added.msTime (counted added) t = true) :
      Position added c (some ev) (some t) (some ⟨1, false, true⟩) 1
  | passed {ev : TimedEvent} {t : Nat}
      (clocked : Clocked added ev (c.tick added.msTime (counted added) t)) :
      Position added c (some ev) (some t) (some ⟨1, false, false⟩)
        (c.due added.msTime (counted added) t).toNat
  | gone {event : Option TimedEvent} (spent : c.live (counted added) = false) :
      Position added c event none (some ⟨0, false, false⟩) 0
  | left {event : Option TimedEvent} {t : Nat}
      (spent : (c.tick added.msTime (counted added) t).live (counted added) = false) :
      Position added c event (some t) (some ⟨0, false, false⟩)
        (c.due added.msTime (counted added) t).toNat

variable {s s' : Tables} {h k : HolderPtr} {ptr q : EventPtr} {ev added : TimedEvent} {a : Act}
  {holder other : EventableObjectHolder} {c : Clock} {t : Nat} {w : Watch} {heap : Heap}

/-- The turn changes nothing of what concerns the event. -/
structure Apart (h : HolderPtr) (ptr : EventPtr) (s s' : Tables) : Prop where
  heap : s'.heap ptr = s.heap ptr
  walking : walking s' h = walking s h
  node : node s' h ptr = node s h ptr
  executed : s'.history.count (.executed ptr) = s.history.count (.executed ptr)

theorem node_set {events : WalkedList EventPtr} (found : s.holders[k]? = some holder)
    (same : nodeIn events ptr = nodeIn holder.events ptr)
    (holders : s'.holders = s.holders.set k { holder with events := events }) :
    node s' h ptr = node s h ptr := by
  have bound := (List.getElem?_eq_some_iff.mp found).1
  unfold node
  rw [holders, List.getElem?_set]
  by_cases here : k = h
  · subst here
    rw [if_pos rfl, if_pos bound, found]
    simp [same]
  · rw [if_neg here]

theorem nodeIn_pushBack (other : ptr ≠ q) {list : WalkedList EventPtr} :
    nodeIn (list.pushBack q) ptr = nodeIn list ptr := by
  have ahead : ptr ∈ (list.pushBack q).ahead ↔ ptr ∈ list.ahead := by
    rw [WalkedList.pushBack_ahead]
    split
    · rename_i none
      simp [none]
    · simp [other]
  simp [nodeIn, ahead, Ne.symm other]

theorem nodeIn_append {ptrs : List EventPtr} (absent : ptr ∉ ptrs) :
    nodeIn (append holder ptrs).events ptr = nodeIn holder.events ptr := by
  unfold append
  induction ptrs generalizing holder with
  | nil => rfl
  | cons q rest ih =>
    rw [List.mem_cons, not_or] at absent
    have later := @ih { holder with events := holder.events.pushBack q } absent.2
    simp only [List.foldl_cons]
    exact later.trans (nodeIn_pushBack absent.1)

/-- The loop goes on to another event. -/
theorem nodeIn_next {rest : List EventPtr} (between : holder.events.current = none)
    (next : holder.events.ahead = q :: rest) (other : ptr ≠ q) :
    nodeIn holder.events.next ptr = nodeIn holder.events ptr := by
  have count := congrArg (List.count ptr) (WalkedList.toList_next between)
  have running : holder.events.next.current = some q := next_current next
  have rest' : holder.events.next.ahead = rest := by simp [WalkedList.next, next]
  simp only [nodeIn, count, running, rest', between, next, Node.mk.injEq, decide_eq_decide]
  simp [other, Ne.symm other]

theorem nodeIn_keep (running : holder.events.current ≠ some ptr) :
    nodeIn holder.events.keep ptr = nodeIn holder.events ptr := by
  simp only [nodeIn, WalkedList.toList_keep, Node.mk.injEq, decide_eq_decide]
  simp [WalkedList.keep, running]

theorem nodeIn_erase {list : WalkedList EventPtr} (running : list.current = some q)
    (other : ptr ≠ q) : nodeIn list.erase ptr = nodeIn list ptr := by
  have count := (WalkedList.toList_erase_perm running).count_eq ptr
  rw [List.count_cons_of_ne (Ne.symm other)] at count
  simp only [nodeIn, count, running, Node.mk.injEq, decide_eq_decide]
  simp [WalkedList.erase, Ne.symm other]

section

variable {event : Option TimedEvent} {n : Node} {f : Nat}

theorem Position.started (position : Position added c event none (some n) f) :
    f = 0 ∧ Position added c event (some t) (some ⟨n.count, decide (0 < n.count), false⟩) 0 := by
  cases position with
  | waiting clocked => exact ⟨rfl, .ahead clocked⟩
  | gone spent =>
    have left : Position added c event (some t) (some ⟨0, false, false⟩) _ :=
      .left (live_tick_spent spent)
    rw [due_spent spent] at left
    exact ⟨rfl, left⟩

theorem Position.ended (position : Position added c event (some t) (some n) f)
    (ahead : n.ahead = false) (current : n.current = false) :
    f = (c.due added.msTime (counted added) t).toNat ∧
      Position added (c.tick added.msTime (counted added) t) event none (some n) 0 := by
  cases position with
  | ahead => cases ahead
  | running => cases current
  | passed clocked => exact ⟨rfl, .waiting clocked⟩
  | left spent => exact ⟨rfl, .gone spent⟩

theorem Position.of_ahead (position : Position added c (some ev) (some t) (some n) f)
    (ahead : n.ahead = true) : Clocked added ev c ∧ n.count = 1 ∧ f = 0 := by
  cases position with
  | ahead clocked => exact ⟨clocked, rfl, rfl⟩
  | running => cases ahead
  | passed => cases ahead
  | left => cases ahead

theorem Position.of_current (position : Position added c (some ev) (some t) (some n) f)
    (current : n.current = true) :
    Clocked added ev c ∧ c.due added.msTime (counted added) t = true ∧ n.count = 1 ∧ f = 1 := by
  cases position with
  | ahead => cases current
  | running clocked due => exact ⟨clocked, due, rfl, rfl⟩
  | passed => cases current
  | left => cases current

end

theorem Clocked.due (clocked : Clocked added ev c) :
    c.due added.msTime (counted added) t = true ↔ ev.currTime ≤ t := by
  have time := clocked.time
  simp only [Clock.due, clocked.live, Bool.true_and, decide_eq_true_eq]
  omega

/-- The event is charged for an update it is not due in. -/
theorem Clocked.charged (clocked : Clocked added ev c) (later : t < ev.currTime) :
    c.due added.msTime (counted added) t = false ∧
      Clocked added { ev with currTime := ev.currTime - t }
        (c.tick added.msTime (counted added) t) := by
  have early : c.due added.msTime (counted added) t = false := by
    rw [Bool.eq_false_iff, Ne, clocked.due]
    omega
  have time := clocked.time
  have tick : c.tick added.msTime (counted added) t = ⟨c.since + t, c.fired⟩ := by
    simp [Clock.tick, early]
  rw [tick]
  refine ⟨early, { clocked with time := ?_, live := clocked.live }⟩
  simp only
  omega

theorem hasFlag_eq {flag : Nat} (same : ev.eventFlag = added.eventFlag) :
    ev.hasFlag flag = added.hasFlag flag := by
  simp only [TimedEvent.hasFlag, same]

theorem toNat_ne_zero {repeats : Int32} (some : repeats ≠ 0) : repeats.toUInt32.toNat ≠ 0 := by
  intro none
  have zero : repeats.toUInt32 = 0 := UInt32.toNat_inj.mp none
  exact some (congrArg Int32.ofUInt32 zero)

/-- One count down, of a count that is neither endless nor at its last. -/
theorem toNat_count {repeats : Int32} (some : repeats ≠ 0) :
    (repeats - 1).toUInt32.toNat + 1 = repeats.toUInt32.toNat := by
  have positive := toNat_ne_zero some
  have below := repeats.toUInt32.toNat_lt
  rw [Int32.toUInt32_sub, UInt32.toNat_sub]
  have one : (Int32.toUInt32 1).toNat = 1 := rfl
  rw [one]
  omega

theorem Clocked.limit (clocked : Clocked added ev c)
    (stays : ev.hasFlag eventFlagDeletesObject = false) (some : added.repeats ≠ 0) :
    counted added = Option.some (ev.repeats.toUInt32.toNat + c.fired) := by
  rw [hasFlag_eq clocked.flag] at stays
  simp [counted, stays, some, (clocked.left some).2]

/-- The event returns from its last callback. -/
theorem Clocked.last (clocked : Clocked added ev c)
    (due : c.due added.msTime (counted added) t = true)
    (why : ev.hasFlag eventFlagDeletesObject = true ∨ ev.repeats = 1 ∨ ev.deleted = true) :
    (c.tick added.msTime (counted added) t).live (counted added) = false := by
  have tick : c.tick added.msTime (counted added) t = ⟨0, c.fired + 1⟩ := by
    simp [Clock.tick, due]
  rw [tick]
  cases deletes : ev.hasFlag eventFlagDeletesObject with
  | true =>
    rw [hasFlag_eq clocked.flag] at deletes
    simp [counted, deletes, Clock.live]
  | false =>
    rcases why with flag | last | mark
    · rw [deletes] at flag
      cases flag
    · have some : added.repeats ≠ 0 := by
        intro none
        rw [clocked.endless none] at last
        cases last
      have one : (Int32.toUInt32 1).toNat = 1 := rfl
      rw [clocked.limit deletes some, last, one]
      simp [Clock.live, Nat.add_comm]
    · rw [clocked.unmarked] at mark
      cases mark

/-- The event returns from a callback and is to fire again. -/
theorem Clocked.rearm (clocked : Clocked added ev c)
    (due : c.due added.msTime (counted added) t = true)
    (stays : ev.hasFlag eventFlagDeletesObject = false) (more : ev.repeats ≠ 1) :
    Clocked added (rearmed ev) (c.tick added.msTime (counted added) t) := by
  have tick : c.tick added.msTime (counted added) t = ⟨0, c.fired + 1⟩ := by
    simp [Clock.tick, due]
  have plain : added.hasFlag eventFlagDeletesObject = false := by
    rwa [← hasFlag_eq clocked.flag]
  have left : added.repeats ≠ 0 → ev.repeats - 1 ≠ 0 ∧
      (ev.repeats - 1).toUInt32.toNat + (c.fired + 1) = added.repeats.toUInt32.toNat := by
    intro some
    have left := clocked.left some
    have count := toNat_count left.1
    exact ⟨fun last => more (by simpa [Int32.sub_eq_iff_eq_add] using last), by omega⟩
  rw [tick]
  refine ⟨by simp [clocked.flag], by simp [clocked.instanceId], by simp [clocked.call],
    by simp [clocked.msTime], by simp [clocked.unmarked], by simp [clocked.msTime], ?_, ?_, ?_⟩
  · by_cases some : added.repeats = 0
    · simp [counted, plain, some, Clock.live]
    · have positive := toNat_ne_zero (left some).1
      have total := (left some).2
      simp only [counted, plain, some, Bool.false_eq_true, if_false, Clock.live, Option.all_some,
        decide_eq_true_eq]
      omega
  · intro none
    simp [rearmed_repeats, clocked.endless none]
  · intro some
    rw [rearmed_repeats, if_neg (clocked.left some).1]
    exact left some

/-- The holder of its instance does not drop the event unseen. -/
theorem Clocked.stays (clocked : Clocked added ev c) (own : holder.instanceId = added.instanceId)
    (executes : ¬ Barred added) : ¬ (holder.discards ev = true ∨ ev.cb = none) := by
  rintro (discards | call)
  · simp only [EventableObjectHolder.discards, decide_eq_true_eq] at discards
    rcases discards with apart | mark | ⟨world, flag⟩
    · exact apart (clocked.instanceId.trans own.symm)
    · rw [clocked.unmarked] at mark
      cases mark
    · rw [hasFlag_eq clocked.flag] at flag
      exact executes ⟨own ▸ world, flag⟩
  · exact clocked.call call

/-- What is seen of the event up to a state. -/
structure Told (h : HolderPtr) (ptr : EventPtr) (added : TimedEvent) (w : Watch) (s : Tables) :
    Prop where
  passes : w.passes.map (·.2) = firings added.msTime (counted added) .zero w.differences
  position : Position added (after added.msTime (counted added) w.differences) (s.heap ptr)
    (walking s h) (node s h ptr) w.firings

/-- The event is in no list but that of its holder. -/
def OnlyIn (h : HolderPtr) (ptr : EventPtr) (s : Tables) : Prop :=
  ∀ k other, s.holders[k]? = some other → ptr ∈ other.events.toList → k = h

structure Ticking (h : HolderPtr) (ptr : EventPtr) (added : TimedEvent) (w : Watch) (s : Tables) :
    Prop where
  held : Held s
  known : ptr < s.nextEvent
  only : OnlyIn h ptr s
  own : instanceOf s h = some added.instanceId
  told : Told h ptr added w s

theorem turn_same (same : walking s' h = walking s h ∨ walking s h = none) :
    w.turn h ptr s s' = ⟨.ok s', w.passes,
      w.firings + (s'.history.count (.executed ptr) - s.history.count (.executed ptr))⟩ := by
  unfold Watch.turn
  dsimp only
  split
  · rename_i walks rests
    rcases same with same | rest
    · rw [same, walks] at rests
      cases rests
    · rw [rest] at walks
      cases walks
  · rfl

theorem turn_over (walks : walking s h = some t) (rests : walking s' h = none)
    (quiet : s'.history = s.history) :
    w.turn h ptr s s' = ⟨.ok s', w.passes ++ [(t, w.firings)], 0⟩ := by
  simp [Watch.turn, walks, rests, quiet]

theorem told_apart (told : Told h ptr added w s) (apart : Apart h ptr s s') :
    Told h ptr added (w.turn h ptr s s') s' := by
  rw [turn_same (.inl apart.walking), apart.executed, Nat.sub_self, Nat.add_zero]
  refine ⟨told.passes, ?_⟩
  have position := told.position
  rwa [← apart.heap, ← apart.walking, ← apart.node] at position

theorem walking_of (updating : s.updating = some (h, t)) : walking s h = some t := by
  simp [walking, updating]

theorem node_of (found : s.holders[h]? = some holder) :
    node s h ptr = some (nodeIn holder.events ptr) := by
  simp [node, found]

theorem node_put {events : WalkedList EventPtr} (found : s.holders[h]? = some holder)
    (holders : s'.holders = s.holders.set h { holder with events := events }) :
    node s' h ptr = some (nodeIn events ptr) := by
  have bound := (List.getElem?_eq_some_iff.mp found).1
  have put : s'.holders[h]? = some { holder with events := events } := by
    rw [holders, List.getElem?_set_self bound]
  exact node_of put

theorem told_started (told : Told h ptr added w s) (idle : s.updating = none)
    (found : s.holders[h]? = some holder) :
    Told h ptr added (w.turn h ptr s { s with
        updating := some (h, t)
        holders := s.holders.set h { holder with events := holder.events.start } })
      { s with
        updating := some (h, t)
        holders := s.holders.set h { holder with events := holder.events.start } } := by
  have rests : walking s h = none := by simp [walking, idle]
  have position := told.position
  rw [rests, node_of found] at position
  obtain ⟨none, started⟩ := position.started (t := t)
  rw [turn_same (.inr rests), Nat.sub_self, Nat.add_zero, none]
  refine ⟨told.passes, ?_⟩
  have walks : walking { s with
      updating := some (h, t)
      holders := s.holders.set h { holder with events := holder.events.start } } h = some t :=
    walking_of rfl
  have same : nodeIn holder.events.start ptr =
      ⟨holder.events.toList.count ptr, decide (0 < holder.events.toList.count ptr), false⟩ := by
    simp only [nodeIn, WalkedList.toList_start, Node.mk.injEq, decide_eq_decide]
    simp [WalkedList.start, List.count_pos_iff]
  rw [walks, node_put found rfl, same]
  exact started

theorem told_ended (told : Told h ptr added w s) (updating : s.updating = some (h, t))
    (found : s.holders[h]? = some holder) (between : holder.events.current = none)
    (done : holder.events.ahead = []) :
    Told h ptr added (w.turn h ptr s { s with updating := none })
      { s with updating := none } := by
  have position := told.position
  rw [walking_of updating, node_of found] at position
  obtain ⟨fired, ended⟩ := position.ended (by simp [nodeIn, done]) (by simp [nodeIn, between])
  have leaves : w.turn h ptr s { s with updating := none } =
      ⟨.ok { s with updating := none }, w.passes ++ [(t, w.firings)], 0⟩ :=
    turn_over (walking_of updating) rfl rfl
  rw [leaves]
  constructor
  · rw [Watch.differences, List.map_append, List.map_append, told.passes, fired]
    exact firings_append.symm
  · rw [Watch.differences, List.map_append, List.map_singleton, after_append]
    rw [← node_of found] at ended
    exact ended

theorem ahead_of_next {rest : List EventPtr} (next : holder.events.ahead = ptr :: rest) :
    (nodeIn holder.events ptr).ahead = true := by
  simp [nodeIn, next]

theorem absent_of_once {list : WalkedList EventPtr} {rest : List EventPtr}
    (once : list.toList.count ptr = 1) (next : list.ahead = ptr :: rest) : ptr ∉ rest := by
  intro again
  have twice := List.count_pos_iff.mpr again
  simp only [WalkedList.toList, List.count_append, next, List.count_cons_self] at once
  omega

/-- A turn of the loop over the list of the holder. -/
theorem told_walked {events : WalkedList EventPtr} (told : Told h ptr added w s)
    (updating : s.updating = some (h, t)) (found : s.holders[h]? = some holder)
    (goes : s'.updating = s.updating)
    (holders : s'.holders = s.holders.set h { holder with events := events })
    (position : Position added (after added.msTime (counted added) w.differences) (s'.heap ptr)
      (some t) (some (nodeIn events ptr))
      (w.firings + (s'.history.count (.executed ptr) - s.history.count (.executed ptr)))) :
    Told h ptr added (w.turn h ptr s s') s' := by
  have walks : walking s' h = walking s h := by rw [walking, walking, goes]
  rw [turn_same (.inl walks)]
  refine ⟨told.passes, ?_⟩
  rw [walks, walking_of updating, node_put found holders]
  exact position

theorem told_fired {rest : List EventPtr} (told : Told h ptr added w s)
    (updating : s.updating = some (h, t)) (found : s.holders[h]? = some holder)
    (between : holder.events.current = none) (next : holder.events.ahead = ptr :: rest)
    (here : s.heap ptr = some ev) (due : ev.currTime ≤ t) :
    Told h ptr added (w.turn h ptr s { s with
        holders := s.holders.set h { holder with events := holder.events.next }
        history := s.history ++ [.executed ptr] })
      { s with
        holders := s.holders.set h { holder with events := holder.events.next }
        history := s.history ++ [.executed ptr] } := by
  have position := told.position
  rw [here, walking_of updating, node_of found] at position
  obtain ⟨clocked, once, none⟩ := position.of_ahead (ahead_of_next next)
  have entered : nodeIn holder.events.next ptr = ⟨1, false, true⟩ := by
    have absent := absent_of_once once next
    have count : holder.events.next.toList.count ptr = 1 := by
      rw [WalkedList.toList_next between]
      exact once
    simp only [nodeIn, count, Node.mk.injEq, true_and]
    simp [WalkedList.next, next, absent]
  refine told_walked told updating found rfl rfl ?_
  have running := Position.running clocked (clocked.due.mpr due)
  simpa [entered, none, here] using running

theorem told_charged {rest : List EventPtr} (told : Told h ptr added w s)
    (updating : s.updating = some (h, t)) (found : s.holders[h]? = some holder)
    (between : holder.events.current = none) (next : holder.events.ahead = ptr :: rest)
    (here : s.heap ptr = some ev) (later : t < ev.currTime) :
    Told h ptr added (w.turn h ptr s { s with
        heap := Function.update s.heap ptr (some { ev with currTime := ev.currTime - t })
        holders := s.holders.set h { holder with events := holder.events.next.keep } })
      { s with
        heap := Function.update s.heap ptr (some { ev with currTime := ev.currTime - t })
        holders := s.holders.set h { holder with events := holder.events.next.keep } } := by
  have position := told.position
  rw [here, walking_of updating, node_of found] at position
  obtain ⟨clocked, once, none⟩ := position.of_ahead (ahead_of_next next)
  obtain ⟨early, charged⟩ := clocked.charged later
  have passed : nodeIn holder.events.next.keep ptr = ⟨1, false, false⟩ := by
    have absent := absent_of_once once next
    have count : holder.events.next.keep.toList.count ptr = 1 := by
      rw [WalkedList.toList_keep, WalkedList.toList_next between]
      exact once
    simp only [nodeIn, count, Node.mk.injEq, true_and]
    simp [WalkedList.next, WalkedList.keep, next, absent]
  refine told_walked told updating found rfl rfl ?_
  have position := Position.passed charged
  rw [early] at position
  simpa [passed, none] using position

theorem told_erased (told : Told h ptr added w s) (updating : s.updating = some (h, t))
    (found : s.holders[h]? = some holder) (running : holder.events.current = some ptr)
    (here : s.heap ptr = some ev)
    (why : ev.hasFlag eventFlagDeletesObject = true ∨ ev.repeats = 1 ∨ ev.deleted = true) :
    Told h ptr added (w.turn h ptr s { s with
        heap := heap
        holders := s.holders.set h { holder with events := holder.events.erase } })
      { s with
        heap := heap
        holders := s.holders.set h { holder with events := holder.events.erase } } := by
  have position := told.position
  rw [here, walking_of updating, node_of found] at position
  obtain ⟨clocked, due, once, one⟩ := position.of_current (by simp [nodeIn, running])
  have erased : nodeIn holder.events.erase ptr = ⟨0, false, false⟩ := by
    have split := (WalkedList.toList_erase_perm running).count_eq ptr
    rw [List.count_cons_self, show holder.events.toList.count ptr = 1 from once] at split
    have count : holder.events.erase.toList.count ptr = 0 := by omega
    have absent : ptr ∉ holder.events.erase.ahead := fun member =>
      List.count_eq_zero.mp count (WalkedList.ahead_subset member)
    simp only [nodeIn, count, absent, decide_false, Node.mk.injEq, true_and]
    simp [WalkedList.erase]
  refine told_walked told updating found rfl rfl ?_
  have position : Position added (after added.msTime (counted added) w.differences) (heap ptr)
      (some t) (some ⟨0, false, false⟩) _ := .left (clocked.last due why)
  rw [due] at position
  simpa [erased, one] using position

theorem told_rearmed (told : Told h ptr added w s) (updating : s.updating = some (h, t))
    (found : s.holders[h]? = some holder) (running : holder.events.current = some ptr)
    (here : s.heap ptr = some ev) (stays : ev.hasFlag eventFlagDeletesObject = false)
    (more : ev.repeats ≠ 1) :
    Told h ptr added (w.turn h ptr s { s with
        heap := Function.update s.heap ptr (some (rearmed ev))
        holders := s.holders.set h { holder with events := holder.events.keep } })
      { s with
        heap := Function.update s.heap ptr (some (rearmed ev))
        holders := s.holders.set h { holder with events := holder.events.keep } } := by
  have position := told.position
  rw [here, walking_of updating, node_of found] at position
  obtain ⟨clocked, due, once, one⟩ := position.of_current (by simp [nodeIn, running])
  have passed : nodeIn holder.events.keep ptr = ⟨1, false, false⟩ := by
    have absent : ptr ∉ holder.events.ahead := by
      intro again
      have twice := List.count_pos_iff.mpr again
      have once : holder.events.toList.count ptr = 1 := once
      simp only [WalkedList.toList, List.count_append, running, Option.toList_some,
        List.count_cons_self] at once
      omega
    have count : holder.events.keep.toList.count ptr = 1 := by
      rw [WalkedList.toList_keep]
      exact once
    simp only [nodeIn, count, Node.mk.injEq, true_and]
    simp [WalkedList.keep, absent]
  refine told_walked told updating found rfl rfl ?_
  have position := Position.passed (clocked.rearm due stays more)
  rw [due] at position
  simpa [passed, one] using position

/-- The condition on an act for the tables it is done to. -/
def SparesIn (ptr : EventPtr) (s : Tables) (a : Act) (s' : Tables) : Prop :=
  .removed ptr ∉ s'.history ∧
    ∀ o instanceId obj, a = .relocate o instanceId → s.objects[o]? = some (some obj) →
      ptr ∈ tableOf (some obj) → s.getEventHolder instanceId = obj.holder

theorem not_moved {o : ObjectPtr} {obj : EventableObject} {instanceId : Int}
    (spares : SparesIn ptr s (.relocate o instanceId) s')
    (object : s.objects[o]? = some (some obj))
    (elsewhere : s.getEventHolder instanceId ≠ obj.holder) (place : Int) :
    ptr ∉ moved s.heap place (tableOf (some obj)) := fun member =>
  elsewhere (spares.2 o instanceId obj rfl object (List.mem_of_mem_filter member))

theorem node_other {new : EventableObjectHolder} (apart : k ≠ h)
    (holders : s'.holders = s.holders.set k new) : node s' h ptr = node s h ptr := by
  unfold node
  rw [holders, List.getElem?_set_ne apart]

theorem walking_other (apart : k ≠ h) (updating : s.updating = some (k, t)) :
    walking s h = none := by
  simp [walking, updating, apart]

theorem told_turn (known : ptr < s.nextEvent) (only : OnlyIn h ptr s)
    (own : instanceOf s h = some added.instanceId) (executes : ¬ Barred added)
    (told : Told h ptr added w s) (turn : Turn s a s') (spares : SparesIn ptr s a s') :
    Told h ptr added (w.turn h ptr s s') s' := by
  obtain ⟨mine, place, instanceId⟩ := Option.map_eq_some_iff.mp own
  cases turn with
  | idle => exact told_apart told ⟨rfl, rfl, rfl, rfl⟩
  | newHolder =>
    refine told_apart told ⟨rfl, rfl, ?_, rfl⟩
    have bound := (List.getElem?_eq_some_iff.mp place).1
    simp only [node, Tables.newHolder, List.getElem?_append_left bound]
  | newObject => exact told_apart told ⟨rfl, rfl, rfl, rfl⟩
  | added callable object listed found =>
    have other : ptr ≠ s.nextEvent := known.ne
    refine told_apart told ⟨Function.update_of_ne other _ _, rfl,
      node_set found (nodeIn_pushBack other) rfl, ?_⟩
    simp [afterAdding]
  | taken removes object parts same drops =>
    have kept : ptr ∉ _ := fun taken =>
      spares.1 (List.mem_append_right _ (List.mem_map_of_mem taken))
    refine told_apart told ⟨drops.others ptr kept, rfl, rfl, ?_⟩
    simp [List.count_append, List.count_eq_zero]
  | relocated object elsewhere target found =>
    have stays := not_moved spares object elsewhere
    refine told_apart told ⟨?_, rfl, node_set found (nodeIn_append (stays _)) rfl, rfl⟩
    simp [EventReferences.relocated, stays]
  | @started k t holder idle found =>
    by_cases here : k = h
    · subst here
      exact told_started told idle found
    · refine told_apart told ⟨rfl, ?_, node_other here rfl, rfl⟩
      rw [walking_other here rfl]
      simp [walking, idle]
  | @ended k t holder updating found between done =>
    by_cases here : k = h
    · subst here
      exact told_ended told updating found between done
    · refine told_apart told ⟨rfl, ?_, rfl, rfl⟩
      rw [walking_other here updating]
      rfl
  | @discarded k t holder q rest ev heap updating found between next here why drops =>
    by_cases this : q = ptr
    · subst this
      cases only k holder found (mem_of_next next)
      cases found.symm.trans place
      have position := told.position
      rw [here, walking_of updating, node_of found] at position
      exact absurd why ((position.of_ahead (ahead_of_next next)).1.stays instanceId executes)
    · have apart : ptr ≠ q := Ne.symm this
      refine told_apart told ⟨drops.others ptr (by simpa using apart), rfl, node_set found ?_ rfl,
        rfl⟩
      exact (nodeIn_erase (next_current next) apart).trans (nodeIn_next between next apart)
  | @fired k t holder q rest ev updating found between next here stays due =>
    by_cases this : q = ptr
    · subst this
      cases only k holder found (mem_of_next next)
      exact told_fired told updating found between next here due
    · have apart : ptr ≠ q := Ne.symm this
      refine told_apart told ⟨rfl, rfl, node_set found (nodeIn_next between next apart) rfl, ?_⟩
      simp [this]
  | @waited k t holder q rest ev updating found between next here stays early =>
    by_cases this : q = ptr
    · subst this
      cases only k holder found (mem_of_next next)
      exact told_charged told updating found between next here early
    · have apart : ptr ≠ q := Ne.symm this
      refine told_apart told ⟨Function.update_of_ne apart _ _, rfl, node_set found ?_ rfl, rfl⟩
      have entered := nodeIn_next between next apart
      have running : holder.events.next.current ≠ some ptr := by simp [next_current next, this]
      have kept := @nodeIn_keep ptr { holder with events := holder.events.next } running
      exact kept.trans entered
  | @expired k t holder q ev heap updating found running here why drops =>
    by_cases this : q = ptr
    · subst this
      cases only k holder found (WalkedList.mem_of_current running)
      exact told_erased told updating found running here why
    · have apart : ptr ≠ q := Ne.symm this
      exact told_apart told ⟨drops.others ptr (by simpa using apart), rfl,
        node_set found (nodeIn_erase running apart) rfl, rfl⟩
  | @repeated k t holder q ev updating found running here stays more alive =>
    by_cases this : q = ptr
    · subst this
      cases only k holder found (WalkedList.mem_of_current running)
      exact told_rearmed told updating found running here stays more
    · have apart : ptr ≠ q := Ne.symm this
      have other : holder.events.current ≠ some ptr := by simp [running, this]
      exact told_apart told ⟨Function.update_of_ne apart _ _, rfl,
        node_set found (nodeIn_keep other) rfl, rfl⟩

theorem onlyIn_set {events : WalkedList EventPtr} (only : OnlyIn h ptr s)
    (found : s.holders[k]? = some holder)
    (fewer : ptr ∈ events.toList → ptr ∈ holder.events.toList)
    (holders : s'.holders = s.holders.set k { holder with events := events }) :
    OnlyIn h ptr s' := by
  intro i other there listed
  rw [holders] at there
  rcases holder_set found there with ⟨rfl, rfl⟩ | ⟨_, old⟩
  · exact only i holder found (fewer listed)
  · exact only i other old listed

theorem onlyIn_turn (known : ptr < s.nextEvent) (only : OnlyIn h ptr s) (turn : Turn s a s')
    (spares : SparesIn ptr s a s') : OnlyIn h ptr s' := by
  cases turn with
  | idle => exact only
  | newHolder =>
    intro i other there listed
    simp only [Tables.newHolder, List.getElem?_append] at there
    split at there
    · exact only i other there listed
    · cases List.mem_singleton.mp (List.mem_of_getElem? there)
      cases listed
  | newObject => exact only
  | added callable object listed found =>
    exact onlyIn_set only found (by simp [known.ne]) rfl
  | taken => exact only
  | @relocated o obj instanceId k holder object elsewhere target found =>
    have stays := not_moved spares object elsewhere
    refine onlyIn_set only found (fun listed => ?_) rfl
    have listed : ptr ∈ (append holder _).events.toList := listed
    rw [toList_append] at listed
    exact (List.mem_append.mp listed).resolve_right (stays _)
  | started idle found => exact onlyIn_set only found (by simp) rfl
  | ended => exact only
  | discarded updating found between next here why drops =>
    refine onlyIn_set only found (fun listed => ?_) rfl
    exact (perm_of_next between next).mem_iff.mpr (List.mem_cons_of_mem _ listed)
  | fired updating found between next here stays due =>
    exact onlyIn_set only found (by simp [WalkedList.toList_next between]) rfl
  | waited updating found between next here stays early =>
    exact onlyIn_set only found (by simp [WalkedList.toList_next between]) rfl
  | expired updating found running here why drops =>
    refine onlyIn_set only found (fun listed => ?_) rfl
    exact (WalkedList.toList_erase_perm running).mem_iff.mpr (List.mem_cons_of_mem _ listed)
  | repeated updating found running here stays more alive =>
    exact onlyIn_set only found (by simp) rfl

theorem ticking_turn (ticking : Ticking h ptr added w s) (executes : ¬ Barred added)
    (turn : Turn s a s') (spares : SparesIn ptr s a s') :
    Ticking h ptr added (w.turn h ptr s s') s' where
  held := held_turn ticking.held turn
  known := lt_of_lt_of_le ticking.known (keeps_turn ticking.held.counted turn).next
  only := onlyIn_turn ticking.known ticking.only turn spares
  own := instanceOf_turn turn ticking.own
  told := told_turn ticking.known ticking.only ticking.own executes ticking.told turn spares

theorem sparesIn (spares : Spares ptr w a) (state : w.state = .ok s) (done : s.act a = .ok s') :
    SparesIn ptr s a s' := by
  have stepped : step (.ok s) a = .ok s' := done
  obtain ⟨kept, stays⟩ := spares
  rw [state] at kept stays
  rw [stepped] at kept
  refine ⟨kept, ?_⟩
  rintro o instanceId obj rfl object
  simpa only [NotMoved, object] using stays

/-- The event keeps time up to the state, unless an assertion has stopped the run. -/
def KeepsTime (h : HolderPtr) (ptr : EventPtr) (added : TimedEvent) (w : Watch) : Prop :=
  ∀ s, w.state = .ok s → Ticking h ptr added w s

theorem turn_state : (w.turn h ptr s s').state = .ok s' := by
  unfold Watch.turn
  dsimp only
  split <;> rfl

theorem observe_ok (state : w.state = .ok s) (done : s.act a = .ok s') :
    observe h ptr w a = w.turn h ptr s s' := by
  have stepped : step (.ok s) a = .ok s' := done
  simp only [observe, state, stepped]

theorem observe_stopped (stopped : ∀ s', step w.state a ≠ .ok s') :
    ∀ s', (observe h ptr w a).state ≠ .ok s' := by
  intro s' state
  unfold observe at state
  split at state
  · rename_i after
    exact stopped _ after
  · exact stopped s' state

theorem keepsTime_observe (executes : ¬ Barred added) (keeps : KeepsTime h ptr added w)
    (spares : Spares ptr w a) : KeepsTime h ptr added (observe h ptr w a) := by
  cases state : w.state with
  | error fault =>
    have stopped := @observe_stopped h ptr a w (by simp [state, step, bind, Except.bind])
    exact fun s done => absurd done (stopped s)
  | ok s =>
    have ticking := keeps s state
    rcases act_turns ticking.held.counted a with stop | ⟨s', done, turn⟩
    · have stopped := @observe_stopped h ptr a w (by simp [state, step, bind, Except.bind, stop])
      exact fun s done => absurd done (stopped s)
    · intro s₂ reached
      rw [observe_ok state done] at reached ⊢
      rw [turn_state] at reached
      cases reached
      exact ticking_turn ticking executes turn (sparesIn spares state done)

/-- The event as it is added. -/
def newEvent (cb : Callback) (type time : Nat) (repeats : Int32) (flags : Nat)
    (instanceId : Int) : TimedEvent :=
  { TimedEvent.new cb type time repeats flags with instanceId := instanceId }

/-- The event is to come for ever, and its count of repeats goes down all the same. -/
def Endless (added : TimedEvent) : Prop :=
  added.hasFlag eventFlagDeletesObject = false ∧ added.repeats < 0

/-- The count of repeats of an endless event has not come down to its last yet. -/
def Few (added : TimedEvent) (w : Watch) : Prop :=
  Endless added →
    ((after added.msTime none w.differences).fired : Int) < 2 ^ 32 + added.repeats.toInt

theorem toNat_toUInt32 (repeats : Int32) : (repeats.toUInt32.toNat : Int) =
    if repeats < 0 then 2 ^ 32 + repeats.toInt else repeats.toInt := by
  have value : repeats.toInt = if 2 * repeats.toUInt32.toNat < 2 ^ 32
      then (repeats.toUInt32.toNat : Int) else repeats.toUInt32.toNat - (2 ^ 32 : Nat) :=
    BitVec.toInt_eq_toNat_cond repeats.toBitVec
  have below := repeats.toUInt32.toNat_lt
  have negative : repeats < 0 ↔ repeats.toInt < 0 := Int32.lt_iff_toInt_lt
  split at value
  · rw [if_neg (by rw [negative]; omega), value]
  · rw [if_pos (by rw [negative]; omega), value]
    omega

/-- Only an endless event fires otherwise than it is to. -/
theorem counted_eq_asked (ends : ¬ Endless added) : counted added = asked added := by
  unfold counted asked
  cases deletes : added.hasFlag eventFlagDeletesObject with
  | true => rfl
  | false =>
    have positive : ¬ added.repeats < 0 := fun negative => ends ⟨deletes, negative⟩
    have value := toNat_toUInt32 added.repeats
    rw [if_neg positive] at value
    by_cases none : added.repeats = 0
    · simp [none]
    · have some : 0 < added.repeats := by
        rw [Int32.lt_iff_toInt_lt, Int32.toInt_zero] at positive ⊢
        have other : added.repeats.toInt ≠ 0 := fun zero => none (Int32.toInt_inj.mp zero)
        omega
      simp only [Bool.false_eq_true, if_false, none, some, if_true, Option.some.injEq]
      omega

theorem counted_endless (endless : Endless added) :
    counted added = some added.repeats.toUInt32.toNat ∧ asked added = none := by
  obtain ⟨stays, negative⟩ := endless
  have some : added.repeats ≠ 0 := by
    intro zero
    rw [zero] at negative
    exact absurd negative (by decide)
  have notPositive : ¬ 0 < added.repeats := by
    rw [Int32.lt_iff_toInt_lt, Int32.toInt_zero] at negative ⊢
    omega
  simp [counted, asked, stays, some, notPositive]

/-- Before its count has come down an event is where it is to be. -/
theorem agree_of_few (few : Few added w) :
    after added.msTime (counted added) w.differences =
        after added.msTime (asked added) w.differences ∧
      firings added.msTime (counted added) .zero w.differences =
        firings added.msTime (asked added) .zero w.differences ∧
      (after added.msTime (counted added) w.differences).live (counted added) =
        (after added.msTime (asked added) w.differences).live (asked added) := by
  by_cases endless : Endless added
  · have few := few endless
    have value := toNat_toUInt32 added.repeats
    rw [if_pos endless.2] at value
    have fewer : (after added.msTime none w.differences).fired < added.repeats.toUInt32.toNat := by
      omega
    rw [(counted_endless endless).1, (counted_endless endless).2]
    obtain ⟨same, firing⟩ := after_limit (Nat.le_of_lt fewer)
    exact ⟨same, firing, by simp [same, Clock.live, fewer]⟩
  · rw [counted_eq_asked endless]
    exact ⟨rfl, rfl, rfl⟩

theorem listed_iff : Listed s h ptr ↔ ∃ n, node s h ptr = some n ∧ 0 < n.count := by
  simp only [Listed, node, Option.map_eq_some_iff]
  constructor
  · rintro ⟨holder, found, listed⟩
    exact ⟨_, ⟨holder, found, rfl⟩, List.count_pos_iff.mpr listed⟩
  · rintro ⟨_, ⟨holder, found, rfl⟩, some⟩
    exact ⟨holder, found, List.count_pos_iff.mp some⟩

/-- Between two updates the event is in the list as long as it is live. -/
theorem Position.listed {event : Option TimedEvent} {f : Nat}
    (position : Position added c event none (node s h ptr) f) :
    f = 0 ∧ (Listed s h ptr ↔ c.live (counted added) = true) := by
  rw [listed_iff]
  generalize node s h ptr = n at position
  cases position with
  | waiting clocked => simp [clocked.live]
  | gone spent => simp [spent]

theorem Position.once {event : Option TimedEvent} {n : Option Node} {f : Nat}
    (position : Position added c event (some t) n f) :
    f ≤ (c.due added.msTime (counted added) t).toNat := by
  cases position with
  | ahead => exact Nat.zero_le _
  | running clocked due => simp [due]
  | passed => exact le_rfl
  | left => exact le_rfl

theorem right_of_few (ticking : Ticking h ptr added w s) (few : Few added w) :
    Right h ptr added w s := by
  obtain ⟨same, firing, live⟩ := agree_of_few few
  refine ⟨firing ▸ ticking.told.passes, fun t walks => ?_, fun rests => ?_, fun rests => ?_⟩
  · have position := ticking.told.position
    rw [walks] at position
    have once := position.once
    rw [Clock.due, live, same] at once
    exact once
  · have position := ticking.told.position
    rw [rests] at position
    exact position.listed.1
  · have position := ticking.told.position
    rw [rests] at position
    rw [position.listed.2, live]

/-- An endless event whose count has come down is missing. -/
theorem few_of_right (ticking : Ticking h ptr added w s) (rests : walking s h = none)
    (right : Right h ptr added w s) : Few added w := by
  intro endless
  by_contra many
  have value := toNat_toUInt32 added.repeats
  rw [if_pos endless.2] at value
  have position := ticking.told.position
  rw [rests] at position
  have listed := position.listed.2
  rw [(counted_endless endless).1, spent_of_due (by omega)] at listed
  have wanted := right.listed rests
  rw [(counted_endless endless).2] at wanted
  exact Bool.false_ne_true (listed.mp (wanted.mpr rfl))

theorem observe_passes (a : Act) : (observe h ptr w a).passes = w.passes ∨
    ∃ s' pass, (observe h ptr w a).state = .ok s' ∧ walking s' h = none ∧
      (observe h ptr w a).passes = w.passes ++ [pass] := by
  unfold observe
  split
  · rename_i s s' _ _
    rw [turn_state]
    unfold Watch.turn
    dsimp only
    split
    · rename_i t _ rests
      exact .inr ⟨s', _, rfl, rests, rfl⟩
    · exact .inl rfl
  · exact .inl rfl

theorem few_back (a : Act) (few : Few added (observe h ptr w a)) : Few added w := by
  intro endless
  have last := few endless
  rcases observe_passes a with same | ⟨_, pass, _, _, more⟩
  · rwa [Watch.differences, same] at last
  · rw [Watch.differences, more, List.map_append] at last
    have less := @fired_le_append added.msTime none w.differences ([pass].map (·.1))
    unfold Watch.differences at less ⊢
    omega

theorem few_observe (a : Act) (keeps : KeepsTime h ptr added (observe h ptr w a))
    (few : Few added w) (right : FiresAsAsked h ptr added (observe h ptr w a)) :
    Few added (observe h ptr w a) := by
  rcases observe_passes a with same | ⟨s', _, state, rests, _⟩
  · intro endless
    rw [Watch.differences, same]
    exact few endless
  · exact few_of_right (keeps s' state) rests (right s' state)

theorem live_zero : Clock.zero.live (counted added) = true := by
  unfold counted
  split
  · rfl
  · split
    · rfl
    · rename_i some
      exact decide_eq_true (Nat.pos_of_ne_zero (toNat_ne_zero some))

/-- What is true of the event when it is added. -/
theorem keepsTime_added {o : ObjectPtr} {instanceId place : Int} {cb : Callback}
    {type time : Nat} {repeats : Int32} {flags : Nat}
    (adds : Adds s o instanceId (newEvent cb type time repeats flags place) h) :
    KeepsTime h s.nextEvent (newEvent cb type time repeats flags place)
      ⟨step (.ok s) (.addEvent o instanceId cb type time repeats flags), [], 0⟩ := by
  obtain ⟨acts, reached⟩ := adds.reached
  have held : Held s := by
    have safe := safe_run acts
    rwa [reached] at safe
  obtain ⟨obj, object, listed, same⟩ := adds.object
  obtain ⟨holder, found, instanceId'⟩ := Option.map_eq_some_iff.mp adds.own
  have callable : s.callable = true := by simp [Tables.callable, adds.idle]
  have added : step (.ok s) (.addEvent o instanceId cb type time repeats flags) =
      .ok (afterAdding s o obj instanceId cb type time repeats flags h holder) := by
    have done := newEvent_eq o cb time repeats flags listed found
    simp only [step, bind, Except.bind, Tables.act, Tables.call, callable, object]
    exact done
  intro s' reached'
  rw [added] at reached' ⊢
  cases reached'
  have turn : Turn s (.addEvent o instanceId cb type time repeats flags)
      (afterAdding s o obj instanceId cb type time repeats flags h holder) :=
    .added callable object listed found
  have unlisted : ∀ (k : HolderPtr) (other : EventableObjectHolder),
      s.holders[k]? = some other → s.nextEvent ∉ other.events.toList := by
    intro k other there listed
    have some := held_of_listed there listed
    rw [held.counted.freed _ (held.fresh _ le_rfl)] at some
    exact absurd some (Nat.lt_irrefl 0)
  have last : nodeIn (holder.events.pushBack s.nextEvent) s.nextEvent =
      ⟨1, decide (s.nextEvent ∈ (holder.events.pushBack s.nextEvent).ahead), false⟩ := by
    have absent := unlisted h holder found
    have current : holder.events.current ≠ some s.nextEvent := fun current =>
      absent (WalkedList.mem_of_current current)
    simp [nodeIn, List.count_append, List.count_eq_zero.mpr absent, current]
  refine ⟨held_turn held turn, Nat.lt_succ_self _, ?_, instanceOf_turn turn adds.own, rfl, ?_⟩
  · intro k other there listed
    rcases holder_set found there with ⟨here, _⟩ | ⟨_, old⟩
    · exact here
    · exact absurd listed (unlisted k other old)
  · have rests : walking (afterAdding s o obj instanceId cb type time repeats flags h holder) h =
        none := by simp [walking, afterAdding, adds.idle]
    rw [rests, node_put found rfl, last]
    simp only [afterAdding, Function.update_self, same]
    exact .waiting ⟨rfl, rfl, fun none => absurd none (Option.some_ne_none _), rfl, rfl, rfl, live_zero, id, fun some => ⟨some, rfl⟩⟩

/-- An event that nothing removes fires in each update it is due in, as often as it is to, and
stays as long, in exactly the runs that leave an endless one fewer firings than its count of
repeats takes to come round to its last. -/
theorem fires_as_asked_iff {o : ObjectPtr} {instanceId place : Int} {cb : Callback}
    {type time : Nat} {repeats : Int32} {flags : Nat} (acts : List Act)
    (adds : Adds s o instanceId (newEvent cb type time repeats flags place) h)
    (spared : EveryStep (observe h s.nextEvent) (Spares s.nextEvent)
      ⟨step (.ok s) (.addEvent o instanceId cb type time repeats flags), [], 0⟩ acts) :
    EveryState (observe h s.nextEvent)
        (FiresAsAsked h s.nextEvent (newEvent cb type time repeats flags place))
        ⟨step (.ok s) (.addEvent o instanceId cb type time repeats flags), [], 0⟩ acts ↔
      Few (newEvent cb type time repeats flags place) (run (observe h s.nextEvent)
        ⟨step (.ok s) (.addEvent o instanceId cb type time repeats flags), [], 0⟩ acts) := by
  have keeps := everyState_of_everyStep
    (fun w a keeps spares => keepsTime_observe adds.executes keeps spares)
    (keepsTime_added adds) spared
  refine everyState_iff_last ?_ ?_ (fun w a few => few_back a few) keeps ?_
  · intro w keeps few s state
    exact right_of_few (keeps s state) few
  · intro w a keeps few right
    exact few_observe a keeps few right
  · intro endless
    have low := Int32.le_toInt (newEvent cb type time repeats flags place).repeats
    simp only [Watch.differences, List.map_nil, after_nil, Clock.zero]
    omega

/-- The holder of the world, and an object without events. -/
def world : Tables := (EventTables.start.newHolder (-1)).newObject

theorem adds_world {cb : Callback} {type time : Nat} {repeats : Int32} :
    Adds world 0 (-1) (newEvent cb type time repeats 0 (-1)) 0 where
  reached := ⟨[.newHolder (-1), .newObject], rfl⟩
  idle := rfl
  object := ⟨_, rfl, rfl, rfl⟩
  own := rfl
  executes := by simp [Barred, TimedEvent.hasFlag, newEvent, TimedEvent.new]

/-- A timer that is to fire twice, in three updates. -/
theorem timer_fires_twice :
    EveryState (observe 0 0) (FiresAsAsked 0 0 (newEvent 7 3 100 2 0 (-1)))
      ⟨step (.ok world) (.addEvent 0 (-1) 7 3 100 2 0), [], 0⟩
      [.update 0 60, .visit, .visit, .update 0 40, .visit, .finish, .visit, .update 0 4000, .visit,
        .finish, .visit] := by
  refine (fires_as_asked_iff _ adds_world ?_).mpr ?_
  · decide +kernel
  · rintro ⟨_, negative⟩
    exact absurd negative (by decide)

/-- The world with one event in it, of a period of 1 ms. -/
def lone (list : WalkedList EventPtr) (updating : Option (HolderPtr × Nat)) (repeats : Int32)
    (history : List Moment) : Tables where
  heap := Function.update (fun _ => none) 0
    (some { newEvent 7 3 1 repeats 0 (-1) with ref := 2 })
  nextEvent := 1
  objects := [some ⟨-1, [(3, 0)], some 0⟩]
  holders := [⟨-1, list⟩]
  holderMap := world.holderMap
  updating := updating
  history := history

/-- One update of 1 ms. -/
def round : List Act := [.update 0 1, .visit, .finish, .visit]

section

variable {list : WalkedList EventPtr} {repeats : Int32} {history : List Moment}
  {passes : List (Nat × Nat)}

/-- Each update of 1 ms calls the event. -/
theorem called_lone (alone : list.toList = [0]) :
    run (observe 0 0) ⟨.ok (lone list none repeats history), passes, 0⟩ [.update 0 1, .visit] =
      ⟨.ok (lone ⟨[], some 0, [], [], .inl rfl⟩ (some (0, 1)) repeats (history ++ [.executed 0])),
        passes, 1⟩ := by
  have update : (lone list none repeats history).act (.update 0 1) =
      .ok (lone ⟨[], none, [0], [], .inr rfl⟩ (some (0, 1)) repeats history) := by
    simp [lone, Tables.act, WalkedList.start, alone]
  have visit : (lone ⟨[], none, [0], [], .inr rfl⟩ (some (0, 1)) repeats history).act .visit =
      .ok (lone ⟨[], some 0, [], [], .inl rfl⟩ (some (0, 1)) repeats
        (history ++ [.executed 0])) := by
    simp [lone, Tables.act, Tables.visit, deref, bind, Except.bind, WalkedList.next,
      EventableObjectHolder.discards, newEvent, TimedEvent.new, TimedEvent.hasFlag]
  simp only [run]
  rw [observe_ok rfl update, turn_same (.inr rfl)]
  have walks : walking (lone ⟨[], some 0, [], [], .inl rfl⟩ (some (0, 1)) repeats
      (history ++ [.executed 0])) 0 =
    walking (lone ⟨[], none, [0], [], .inr rfl⟩ (some (0, 1)) repeats history) 0 := rfl
  rw [observe_ok rfl visit, turn_same (.inl walks)]
  simp [lone]

theorem run_append (acts more : List Act) :
    run (observe h ptr) w (acts ++ more) = run (observe h ptr) (run (observe h ptr) w acts) more := by
  induction acts generalizing w with
  | nil => rfl
  | cons a rest ih => exact ih

theorem round_lone (alone : list.toList = [0]) (some : repeats ≠ 0) (more : repeats ≠ 1) :
    run (observe 0 0) ⟨.ok (lone list none repeats history), passes, 0⟩ round =
      ⟨.ok (lone ⟨[0], none, [], [], .inl rfl⟩ none (repeats - 1) (history ++ [.executed 0])),
        passes ++ [(1, 1)], 0⟩ := by
  have finish : (lone ⟨[], .some 0, [], [], .inl rfl⟩ (.some (0, 1)) repeats
      (history ++ [.executed 0])).act .finish =
      .ok (lone ⟨[0], none, [], [], .inl rfl⟩ (.some (0, 1)) (repeats - 1)
        (history ++ [.executed 0])) := by
    simp [lone, Tables.act, Tables.finish, deref, bind, Except.bind, WalkedList.keep, newEvent,
      TimedEvent.new, TimedEvent.hasFlag, TimedEvent.countRepeat, some, more,
      Int32.sub_eq_iff_eq_add, pure, Except.pure]
  have leaves : (lone ⟨[0], none, [], [], .inl rfl⟩ (.some (0, 1)) (repeats - 1)
      (history ++ [.executed 0])).act .visit =
      .ok (lone ⟨[0], none, [], [], .inl rfl⟩ none (repeats - 1) (history ++ [.executed 0])) := rfl
  have split : round = [.update 0 1, .visit] ++ [.finish, .visit] := rfl
  rw [split, run_append, called_lone alone]
  simp only [run]
  have walks : walking (lone ⟨[0], none, [], [], .inl rfl⟩ (.some (0, 1)) (repeats - 1)
      (history ++ [.executed 0])) 0 =
    walking (lone ⟨[], .some 0, [], [], .inl rfl⟩ (.some (0, 1)) repeats
      (history ++ [.executed 0])) 0 := rfl
  rw [observe_ok rfl finish, turn_same (.inl walks), observe_ok rfl leaves]
  simp [Watch.turn, walking, lone]

/-- The count of repeats comes down by one in each round. -/
theorem rounds_lone {k : Nat} (alone : list.toList = [0]) (enough : k < repeats.toUInt32.toNat) :
    ∃ list' left history' passes', list'.toList = [0] ∧
      left.toUInt32.toNat + k = repeats.toUInt32.toNat ∧
      run (observe 0 0) ⟨.ok (lone list none repeats history), passes, 0⟩
          (List.replicate k round).flatten =
        ⟨.ok (lone list' none left history'), passes', 0⟩ := by
  induction k generalizing list repeats history passes with
  | zero => exact ⟨list, repeats, history, passes, alone, rfl, rfl⟩
  | succ k ih =>
    have some : repeats ≠ 0 := by
      rintro rfl
      exact absurd enough (Nat.not_lt_zero _)
    have more : repeats ≠ 1 := by
      rintro rfl
      have one : (1 : Int32).toUInt32.toNat = 1 := rfl
      omega
    have count := toNat_count some
    obtain ⟨list', left, history', passes', alone', rest, done⟩ :=
      @ih ⟨[0], none, [], [], .inl rfl⟩ (repeats - 1) (history ++ [.executed 0])
        (passes ++ [(1, 1)]) rfl (by omega)
    refine ⟨list', left, history', passes', alone', by omega, ?_⟩
    rw [List.replicate_succ, List.flatten_cons, run_append, round_lone alone some more, done]

theorem run_state (acts : List Act) :
    (run (observe h ptr) w acts).state = run step w.state acts := by
  induction acts generalizing w with
  | nil => rfl
  | cons a rest ih =>
    have here : (observe h ptr w a).state = step w.state a := by
      unfold observe
      split
      · rename_i done
        exact turn_state.trans done.symm
      · rfl
    simp only [run, ih, here]

/-- At its last count the event is dropped. -/
theorem last_round (alone : list.toList = [0]) :
    ∃ s, (run (observe 0 0) ⟨.ok (lone list none 1 history), passes, 0⟩ round).state = .ok s ∧
      walking s 0 = none ∧ ¬ Listed s 0 0 := by
  have split : round = [.update 0 1, .visit] ++ [.finish, .visit] := rfl
  rw [split, run_append, called_lone alone, run_state]
  refine ⟨_, rfl, rfl, ?_⟩
  rintro ⟨holder, ⟨⟩, listed⟩
  cases listed

end

/-- A timer added with -1 to come for ever is dropped with its firing number 2^32 - 1. -/
theorem endless_timer_lost :
    Adds world 0 (-1) (newEvent 7 3 1 (-1) 0 (-1)) 0 ∧
    ¬ EveryState (observe 0 0) (FiresAsAsked 0 0 (newEvent 7 3 1 (-1) 0 (-1)))
      ⟨step (.ok world) (.addEvent 0 (-1) 7 3 1 (-1) 0), [], 0⟩
      (List.replicate (2 ^ 32 - 1) round).flatten := by
  refine ⟨adds_world, fun all => ?_⟩
  have added : step (.ok world) (.addEvent 0 (-1) 7 3 1 (-1) 0) =
      .ok (lone ⟨[], none, [], [0], .inl rfl⟩ none (-1)
        [.added 0 (newEvent 7 3 1 (-1) 0 (-1))]) := by
    have done := @newEvent_eq world 0 ⟨-1, [], none⟩ ⟨-1, .empty⟩ (-1) 3 0 7 1 (-1) 0 rfl rfl
    exact done
  have last := everyState_last all
  obtain ⟨list, left, history, passes, alone, count, reached⟩ :=
    @rounds_lone ⟨[], none, [], [0], .inl rfl⟩ (-1) [.added 0 (newEvent 7 3 1 (-1) 0 (-1))] []
      (2 ^ 32 - 2) rfl (by decide)
  have top : (-1 : Int32).toUInt32.toNat = 2 ^ 32 - 1 := by decide
  have one : left = 1 := by
    have one : left.toUInt32.toNat = (1 : UInt32).toNat := by
      rw [top] at count
      have small : (1 : UInt32).toNat = 1 := rfl
      omega
    exact congrArg Int32.ofUInt32 (UInt32.toNat_inj.mp one)
  have split : 2 ^ 32 - 1 = (2 ^ 32 - 2) + 1 := by decide
  rw [split, List.replicate_succ', List.flatten_append, List.flatten_singleton, run_append, added,
    reached, one] at last
  obtain ⟨s, state, rests, lost⟩ := @last_round list history passes alone
  have right := last s state
  exact lost ((right.listed rests).mpr rfl)

end EventRepeats
