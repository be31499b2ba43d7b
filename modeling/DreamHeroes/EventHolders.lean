import DreamHeroes.EventTurns

/- Which scheduled events stay scheduled: an event fires as long as the list of the holder it
   was added to is the one of its instance. -/
namespace EventHolders

open EventTables EventReferences EventTurns WalkedLists OrderedMaps LabelledRuns

/-- The event has fired as often as it is to; one that is deleted after its callback fires once. -/
def UsedUp (history : List Moment) (ptr : EventPtr) (added : TimedEvent) : Prop :=
  if added.hasFlag eventFlagDeletesObject then .executed ptr ∈ history
  else 0 < added.repeats ∧ added.repeats.toInt ≤ history.count (.executed ptr)

/-- The flag of the event keeps the holder of the world from executing it. -/
def Barred (added : TimedEvent) : Prop :=
  added.instanceId = worldInstance ∧ added.hasFlag eventFlagDoNotExecuteInWorldContext = true

/-- Added, and neither removed nor used up. -/
def Scheduled (history : List Moment) (ptr : EventPtr) (added : TimedEvent) : Prop :=
  .added ptr added ∈ history ∧ .removed ptr ∉ history ∧ ¬ UsedUp history ptr added ∧
    ¬ Barred added

instance (history : List Moment) (ptr : EventPtr) (added : TimedEvent) :
    Decidable (Scheduled history ptr added) := by
  unfold Scheduled UsedUp Barred
  infer_instance

/-- The event is in the list of one holder, the one of its instance. -/
def AtHome (s : Tables) (ptr : EventPtr) (ev : TimedEvent) : Prop :=
  ∃ (h : HolderPtr) (holder : EventableObjectHolder), s.holders[h]? = some holder ∧
    holder.instanceId = ev.instanceId ∧
    ∀ (k : HolderPtr) (other : EventableObjectHolder), s.holders[k]? = some other →
      (ptr ∈ other.events.toList ↔ k = h)

/-- No scheduled event is lost. -/
def Lasting : Except Fault Tables → Prop
  | .ok s => ∀ ptr added, Scheduled s.history ptr added →
      ∃ ev, s.heap ptr = some ev ∧ ev.deleted = false ∧ AtHome s ptr ev
  | .error _ => True

/-- The event whose callback runs. -/
def called (s : Tables) : Option TimedEvent :=
  s.updating.bind fun update => s.holders[update.1]?.bind fun holder =>
    holder.events.current.bind s.heap

/-- The instance of the object has a holder when its first event is added, a relocation to
another holder moves no event, and no count of repeats overflows. -/
def Settles : Except Fault Tables → Act → Prop
  | .ok s, .addEvent o instanceId _ _ _ _ _ =>
      match s.objects[o]? with
      | some (some obj) => (obj.locate s instanceId).holder = none → instanceId = worldInstance
      | _ => True
  | .ok s, .relocate o instanceId =>
      match s.objects[o]? with
      | some (some obj) =>
          let target := (s.getEventHolder instanceId).or (s.getEventHolder (-1))
          s.getEventHolder instanceId = obj.holder ∨
            ((target.bind fun h => s.holders[h]?).all fun holder =>
              moved s.heap holder.instanceId (tableOf (some obj)) = []) = true
      | _ => True
  | .ok s, .finish =>
      ((called s).all fun ev =>
        ev.hasFlag eventFlagDeletesObject ∨ ev.repeats ≠ Int32.minValue) = true
  | _, _ => True

instance (state : Except Fault Tables) (a : Act) : Decidable (Settles state a) := by
  unfold Settles
  split
  · split <;> infer_instance
  · split <;> infer_instance
  · infer_instance
  · infer_instance

/-- A callback of the event is running. -/
def running (s : Tables) (ptr : EventPtr) : Bool :=
  s.holders.any fun holder => holder.events.current = some ptr

/-- What is left of the repeats after the callbacks that have returned. -/
structure Fit (s : Tables) (ptr : EventPtr) (ev added : TimedEvent) (done : Nat) : Prop where
  flag : ev.eventFlag = added.eventFlag
  call : ev.cb ≠ none
  instanceId : ev.instanceId = added.instanceId
  count : s.history.count (.executed ptr) = done + (running s ptr).toNat
  endless : added.repeats = 0 → ev.repeats = 0
  left : added.repeats ≠ 0 → ev.repeats.toInt = added.repeats.toInt - done ∧ ev.repeats ≠ 0
  once : added.hasFlag eventFlagDeletesObject = true → done = 0

def instanceOf (s : Tables) (h : HolderPtr) : Option Int :=
  (s.holders[h]?).map EventableObjectHolder.instanceId

/-- Objects and the map of the holders name holders of the instance they say. -/
structure Housed (s : Tables) : Prop where
  placed : ∀ (o : ObjectPtr) (obj : EventableObject) (h : HolderPtr),
    s.objects[o]? = some (some obj) → obj.holder = some h →
      instanceOf s h = some obj.eventInstanceid
  mapped : ∀ instanceId h, s.getEventHolder instanceId = some h →
    instanceOf s h = some instanceId

/-- What every run whose acts settle the events keeps. -/
structure Settled (s : Tables) : Prop where
  held : Held s
  housed : Housed s
  known : ∀ ptr, ((∃ added, .added ptr added ∈ s.history) ∨ .executed ptr ∈ s.history) →
    ptr < s.nextEvent
  single : ∀ ptr, listReferences s.holders ptr ≤ 1
  quiet : ∀ (h : HolderPtr) (holder : EventableObjectHolder), s.holders[h]? = some holder →
    holder.events.current ≠ none → ∃ t, s.updating = some (h, t)
  home : ∀ ptr ev, s.heap ptr = some ev → ev.deleted = false →
    ∃ (h : HolderPtr) (holder : EventableObjectHolder), s.holders[h]? = some holder ∧
      holder.instanceId = ev.instanceId ∧ ptr ∈ holder.events.toList
  fit : ∀ ptr ev added, s.heap ptr = some ev → ev.deleted = false →
    .added ptr added ∈ s.history → ∃ done, Fit s ptr ev added done
  alive : ∀ ptr added, Scheduled s.history ptr added →
    ∃ ev, s.heap ptr = some ev ∧ ev.deleted = false

variable {s s' : Tables} {ptr q : EventPtr} {ev added : TimedEvent} {h k : HolderPtr}
  {holder other : EventableObjectHolder} {a : Act} {t : Nat} {heap : Heap}

/-- Two lists that hold one event are one. -/
theorem same_list {holders : List EventableObjectHolder}
    (single : listReferences holders ptr ≤ 1) (here : holders[h]? = some holder)
    (there : holders[k]? = some other) (listed : ptr ∈ holder.events.toList)
    (again : ptr ∈ other.events.toList) : k = h := by
  by_contra apart
  have emptied := listReferences_set here ⟨0, .empty⟩ ptr
  have still : (holders.set h ⟨0, .empty⟩)[k]? = some other := by
    rw [List.getElem?_set_ne (Ne.symm apart), there]
  have rest := listReferences_le still ptr
  have one := List.count_pos_iff.mpr listed
  have two := List.count_pos_iff.mpr again
  simp only [WalkedList.toList_empty, List.count_nil] at emptied
  omega

theorem lasting_of_settled (settled : Settled s) : Lasting (.ok s) := by
  intro ptr added scheduled
  obtain ⟨ev, here, unmarked⟩ := settled.alive ptr added scheduled
  obtain ⟨h, holder, found, same, listed⟩ := settled.home ptr ev here unmarked
  refine ⟨ev, here, unmarked, h, holder, found, same, fun k other there => ⟨fun again => ?_, ?_⟩⟩
  · exact same_list (settled.single ptr) found there listed again
  · rintro rfl
    rw [found] at there
    exact Option.some.inj there ▸ listed

theorem instanceOf_set {events : WalkedList EventPtr} (found : s.holders[h]? = some holder)
    (holders : s'.holders = s.holders.set h { holder with events := events }) :
    instanceOf s' k = instanceOf s k := by
  have bound := (List.getElem?_eq_some_iff.mp found).1
  unfold instanceOf
  rw [holders, List.getElem?_set]
  by_cases here : h = k
  · subst here
    rw [if_pos rfl, if_pos bound, found]
    rfl
  · rw [if_neg here]

/-- No turn changes the instance of a holder. -/
theorem instanceOf_turn (turn : Turn s a s') {instanceId : Int}
    (here : instanceOf s k = some instanceId) : instanceOf s' k = some instanceId := by
  cases turn with
  | newHolder =>
    obtain ⟨holder, found, same⟩ := Option.map_eq_some_iff.mp here
    have bound := (List.getElem?_eq_some_iff.mp found).1
    simp only [instanceOf, Tables.newHolder, List.getElem?_append_left bound]
    exact here
  | added callable object listed found => exact (instanceOf_set found rfl).trans here
  | relocated object elsewhere target found => exact (instanceOf_set found rfl).trans here
  | started idle found => exact (instanceOf_set found rfl).trans here
  | discarded updating found => exact (instanceOf_set found rfl).trans here
  | fired updating found => exact (instanceOf_set found rfl).trans here
  | waited updating found => exact (instanceOf_set found rfl).trans here
  | expired updating found => exact (instanceOf_set found rfl).trans here
  | repeated updating found => exact (instanceOf_set found rfl).trans here
  | _ => exact here

/-- What an object says of its holder after its entry in the list of objects is set. -/
theorem placed_set {o i : ObjectPtr} {left : Option EventableObject} {obj : EventableObject}
    (housed : Housed s) (new : ∀ kept, left = some kept → ∀ h, kept.holder = some h →
      instanceOf s h = some kept.eventInstanceid)
    (object : (s.objects.set o left)[i]? = some (some obj)) (holder : obj.holder = some h) :
    instanceOf s h = some obj.eventInstanceid := by
  rw [List.getElem?_set] at object
  split at object
  · split at object
    · exact new obj (Option.some.inj object) h holder
    · cases object
  · exact housed.placed i obj h object holder

theorem locate_holder {obj : EventableObject} {o : ObjectPtr} {instanceId : Int}
    (housed : Housed s) (object : s.objects[o]? = some (some obj))
    (listed : (obj.locate s instanceId).holder = some h) :
    instanceOf s h = some (obj.locate s instanceId).eventInstanceid := by
  unfold EventableObject.locate at listed ⊢
  split at listed
  · rename_i first
    simp only [first, if_true]
    exact housed.mapped instanceId h listed
  · rename_i later
    simp only [later]
    exact housed.placed o obj h object listed

/-- The holder an event is added to is the one of its instance. -/
theorem adding_holder {obj : EventableObject} {o : ObjectPtr} {instanceId : Int} {type : Nat}
    (housed : Housed s) (object : s.objects[o]? = some (some obj))
    (settles : (obj.locate s instanceId).holder = none → instanceId = worldInstance)
    (listed : (adding s obj instanceId type).holder = some h) :
    (adding s obj instanceId type).eventInstanceid = (obj.locate s instanceId).eventInstanceid ∧
      instanceOf s h = some (obj.locate s instanceId).eventInstanceid := by
  cases located : (obj.locate s instanceId).holder with
  | some h' =>
    have same : adding s obj instanceId type =
        (obj.locate s instanceId).insertEvent type s.nextEvent := by
      simp [adding, EventableObject.fallBack, EventableObject.insertEvent, located]
    have holder : h' = h := by
      rw [same] at listed
      exact Option.some.inj (located.symm.trans listed)
    rw [same]
    exact ⟨rfl, locate_holder housed object (holder ▸ located)⟩
  | none =>
    have world := settles located
    have unplaced : obj.holder = none := by
      cases holder : obj.holder with
      | none => rfl
      | some h' => simp [EventableObject.locate, holder] at located
    simp only [EventableObject.locate, unplaced, Option.isNone_none, if_true, world] at located
    simp only [adding, EventableObject.fallBack, EventableObject.insertEvent,
      EventableObject.locate, unplaced, Option.isNone_none, if_true, world, located] at listed
    cases located.symm.trans listed

theorem housed_turn (housed : Housed s) (turn : Turn s a s') (settles : Settles (.ok s) a) :
    Housed s' := by
  have keep : ∀ (k : HolderPtr) (instanceId : Int), instanceOf s k = some instanceId →
      instanceOf s' k = some instanceId := fun k instanceId => instanceOf_turn turn
  have mapped {instanceId : Int} {h : HolderPtr} (same : s'.holderMap = s.holderMap)
      (here : s'.getEventHolder instanceId = some h) : instanceOf s' h = some instanceId := by
    unfold Tables.getEventHolder at here
    rw [same] at here
    exact keep h instanceId (housed.mapped instanceId h here)
  cases turn with
  | @newHolder new =>
    refine ⟨fun o obj h object holder => keep h _ (housed.placed o obj h object holder),
      fun instanceId h here => ?_⟩
    by_cases taken : (s.getEventHolder new).isSome
    · exact mapped (if_pos taken) here
    · have map : (s.newHolder new).holderMap = s.holderMap.insert new s.holders.length :=
        if_neg taken
      unfold Tables.getEventHolder at here
      rw [map, OrderedMap.find?_insert] at here
      split at here
      · rename_i same
        cases here
        simp [instanceOf, Tables.newHolder, same]
      · exact keep h instanceId (housed.mapped instanceId h here)
  | newObject =>
    refine ⟨fun o obj h object holder => ?_, fun instanceId h => mapped rfl⟩
    simp only [Tables.newObject, List.getElem?_append] at object
    split at object
    · exact keep h _ (housed.placed o obj h object holder)
    · cases List.mem_singleton.mp (List.mem_of_getElem? object)
      cases holder
  | added callable object listed found =>
    refine ⟨fun o obj h at_ holder => keep h _ (placed_set housed ?_ at_ holder),
      fun instanceId h => mapped rfl⟩
    rintro kept ⟨⟩ h holder
    have home := adding_holder housed object (by simpa only [Settles, object] using settles) holder
    exact home.1 ▸ home.2
  | taken removes object parts same drops =>
    refine ⟨fun o obj h at_ holder => keep h _ (placed_set housed ?_ at_ holder),
      fun instanceId h => mapped rfl⟩
    intro kept left h holder
    have old := same kept left
    rw [old.1]
    exact housed.placed _ _ h object (old.2 ▸ holder)
  | relocated object elsewhere target found =>
    refine ⟨fun o obj h at_ holder => keep h _ (placed_set housed ?_ at_ holder),
      fun instanceId h => mapped rfl⟩
    rintro kept ⟨⟩ h ⟨⟩
    simp [instanceOf, found]
  | _ =>
    exact ⟨fun o obj h object holder => keep h _ (housed.placed o obj h object holder),
      fun instanceId h => mapped rfl⟩

theorem holder_set {events : WalkedList EventPtr} (found : s.holders[h]? = some holder)
    (there : (s.holders.set h { holder with events := events })[k]? = some other) :
    k = h ∧ other = { holder with events := events } ∨ k ≠ h ∧ s.holders[k]? = some other := by
  have bound := (List.getElem?_eq_some_iff.mp found).1
  by_cases here : k = h
  · subst here
    rw [List.getElem?_set_self bound] at there
    exact .inl ⟨rfl, (Option.some.inj there).symm⟩
  · rw [List.getElem?_set_ne (Ne.symm here)] at there
    exact .inr ⟨here, there⟩

/-- What was scheduled already when no event is added. -/
theorem scheduled_before {history more : List Moment}
    (scheduled : Scheduled (history ++ more) ptr added)
    (none : .added ptr added ∉ more) : Scheduled history ptr added := by
  obtain ⟨member, kept, left, free⟩ := scheduled
  refine ⟨(List.mem_append.mp member).resolve_right none, fun removed => ?_, fun used => ?_, free⟩
  · exact kept (List.mem_append_left more removed)
  · refine left ?_
    unfold UsedUp at used ⊢
    split
    · rename_i deletes
      rw [if_pos deletes] at used
      exact List.mem_append_left more used
    · rename_i stays
      rw [if_neg stays] at used
      refine ⟨used.1, ?_⟩
      rw [List.count_append]
      omega

theorem running_set {events : WalkedList EventPtr} (settled : Settled s)
    (found : s.holders[h]? = some holder)
    (before : s.updating = none ∨ ∃ t, s.updating = some (h, t))
    (holders : s'.holders = s.holders.set h { holder with events := events }) :
    running s' ptr = true ↔ events.current = some ptr := by
  have bound := (List.getElem?_eq_some_iff.mp found).1
  simp only [running, List.any_eq_true, decide_eq_true_eq, holders]
  constructor
  · rintro ⟨other, member, current⟩
    obtain ⟨k, there⟩ := List.mem_iff_getElem?.mp member
    rcases holder_set found there with ⟨_, same⟩ | ⟨apart, old⟩
    · rw [same] at current
      exact current
    · obtain ⟨_, walked⟩ := settled.quiet k other old (by simp [current])
      rcases before with idle | ⟨_, updating⟩
      · rw [idle] at walked
        cases walked
      · rw [updating] at walked
        cases walked
        exact absurd rfl apart
  · exact fun current => ⟨_, List.mem_of_getElem? (List.getElem?_set_self bound), current⟩

theorem Fit.same {done : Nat} (fit : Fit s ptr ev added done)
    (count : s'.history.count (.executed ptr) = s.history.count (.executed ptr))
    (run : running s' ptr = running s ptr) : Fit s' ptr ev added done :=
  { fit with count := by rw [count, run]; exact fit.count }

theorem Fit.apart {events : WalkedList EventPtr} {done : Nat} (fit : Fit s q ev added done)
    (settled : Settled s) (found : s.holders[h]? = some holder)
    (before : s.updating = none ∨ ∃ t, s.updating = some (h, t))
    (holders : s'.holders = s.holders.set h { holder with events := events })
    (count : s'.history.count (.executed q) = s.history.count (.executed q))
    (old : holder.events.current ≠ some q) (new : events.current ≠ some q) :
    Fit s' q ev added done := by
  refine fit.same count ?_
  have was := mt (running_set settled found before (set_same found).symm).mp old
  have now := mt (running_set settled found before holders).mp new
  rw [Bool.not_eq_true] at was now
  rw [was, now]

/-- A turn of the walk of one list keeps what holds of the others. -/
theorem settled_walk {events : WalkedList EventPtr} (settled : Settled s) (more : List Moment)
    (turn : Turn s a s') (settles : Settles (.ok s) a) (found : s.holders[h]? = some holder)
    (holders : s'.holders = s.holders.set h { holder with events := events })
    (history : s'.history = s.history ++ more)
    (moments : ∀ moment ∈ more, ∃ q, moment = .executed q ∧ q < s.nextEvent)
    (next : s'.nextEvent = s.nextEvent) (after : ∃ t, s'.updating = some (h, t))
    (before : s.updating = none ∨ ∃ t, s.updating = some (h, t))
    (fewer : ∀ q, events.toList.count q ≤ holder.events.toList.count q)
    (stay : ∀ q ev', s'.heap q = some ev' → ev'.deleted = false →
      ∃ ev, s.heap q = some ev ∧ ev.deleted = false ∧ ev'.instanceId = ev.instanceId ∧
        (q ∈ holder.events.toList → q ∈ events.toList))
    (fit : ∀ q ev added, s'.heap q = some ev → ev.deleted = false →
      .added q added ∈ s.history → ∃ done, Fit s' q ev added done)
    (alive : ∀ q added, Scheduled s'.history q added →
      ∃ ev, s'.heap q = some ev ∧ ev.deleted = false) : Settled s' where
  held := held_turn settled.held turn
  housed := housed_turn settled.housed turn settles
  known q seen := by
    rw [next]
    rw [history] at seen
    rcases seen with ⟨added, member⟩ | member
    · rcases List.mem_append.mp member with old | new
      · exact settled.known q (.inl ⟨added, old⟩)
      · obtain ⟨_, same, _⟩ := moments _ new
        cases same
    · rcases List.mem_append.mp member with old | new
      · exact settled.known q (.inr old)
      · obtain ⟨_, same, below⟩ := moments _ new
        cases same
        exact below
  single q := by
    have lists := listReferences_set found { holder with events := events } q
    have once := settled.single q
    have less := fewer q
    rw [holders]
    simp only at lists
    omega
  quiet k other there busy := by
    rw [holders] at there
    rcases holder_set found there with ⟨rfl, _⟩ | ⟨apart, same⟩
    · exact after
    · obtain ⟨t, walked⟩ := settled.quiet k other same busy
      rcases before with idle | ⟨t', updating⟩
      · rw [idle] at walked
        cases walked
      · rw [updating] at walked
        cases walked
        exact absurd rfl apart
  home q ev' here unmarked := by
    obtain ⟨ev, was, alive, same, kept⟩ := stay q ev' here unmarked
    obtain ⟨k, other, there, instanceId, listed⟩ := settled.home q ev was alive
    rw [holders]
    by_cases place : k = h
    · subst place
      rw [found] at there
      cases there
      have bound := (List.getElem?_eq_some_iff.mp found).1
      exact ⟨k, _, List.getElem?_set_self bound, instanceId.trans same.symm, kept listed⟩
    · refine ⟨k, other, ?_, instanceId.trans same.symm, listed⟩
      rw [List.getElem?_set_ne (Ne.symm place), there]
  fit q ev added here unmarked member := by
    refine fit q ev added here unmarked ?_
    rw [history] at member
    refine (List.mem_append.mp member).resolve_right fun new => ?_
    obtain ⟨_, same, _⟩ := moments _ new
    cases same
  alive := alive

theorem settled_started (settled : Settled s) (idle : s.updating = none)
    (found : s.holders[h]? = some holder) :
    Settled { s with
      updating := some (h, t)
      holders := s.holders.set h { holder with events := holder.events.start } } := by
  have turn := Turn.started (t := t) idle found
  refine settled_walk settled [] turn trivial found rfl (by simp) (by simp) rfl ⟨t, rfl⟩
    (.inl idle) (by simp) (fun q ev here unmarked => ⟨ev, here, unmarked, rfl, by simp⟩) ?_
    settled.alive
  intro q ev added here unmarked member
  obtain ⟨done, fit⟩ := settled.fit q ev added here unmarked member
  refine ⟨done, fit.apart settled found (.inl idle) rfl rfl (fun busy => ?_) nofun⟩
  obtain ⟨_, walked⟩ := settled.quiet h holder found (by simp [busy])
  rw [idle] at walked
  cases walked

/-- An update drops no scheduled event unseen. -/
theorem stays_scheduled (settled : Settled s) (found : s.holders[h]? = some holder)
    (listed : ptr ∈ holder.events.toList) (here : s.heap ptr = some ev)
    (unmarked : ev.deleted = false) (scheduled : Scheduled s.history ptr added) :
    ¬ (holder.discards ev = true ∨ ev.cb = none) := by
  obtain ⟨done, fit⟩ := settled.fit ptr ev added here unmarked scheduled.1
  obtain ⟨k, other, there, instanceId, again⟩ := settled.home ptr ev here unmarked
  have place := same_list (settled.single ptr) found there listed again
  subst place
  rw [found] at there
  cases there
  rintro (discards | call)
  · simp only [EventableObjectHolder.discards, decide_eq_true_eq] at discards
    rcases discards with apart | mark | ⟨world, flag⟩
    · exact apart instanceId.symm
    · rw [unmarked] at mark
      cases mark
    · refine scheduled.2.2.2 ⟨fit.instanceId ▸ instanceId ▸ world, ?_⟩
      unfold TimedEvent.hasFlag at flag ⊢
      rwa [← fit.flag]
  · exact fit.call call

theorem settled_discarded {rest : List EventPtr} (settled : Settled s)
    (updating : s.updating = some (h, t)) (found : s.holders[h]? = some holder)
    (between : holder.events.current = none) (next : holder.events.ahead = ptr :: rest)
    (here : s.heap ptr = some ev) (why : holder.discards ev = true ∨ ev.cb = none)
    (drops : Drops s.heap heap [ptr]) :
    Settled { s with
      heap := heap
      holders := s.holders.set h { holder with events := holder.events.next.erase } } := by
  have turn := Turn.discarded updating found between next here why drops
  have node := perm_of_next between next
  refine settled_walk settled [] turn trivial found rfl (by simp) (by simp) rfl
    ⟨t, updating⟩ (.inr ⟨t, updating⟩) ?_ ?_ ?_ ?_
  · intro q
    rw [node.count_eq, List.count_cons]
    omega
  · intro q ev' now unmarked
    obtain ⟨was, other⟩ := spared drops now unmarked
    refine ⟨ev', was, unmarked, rfl, fun listed => ?_⟩
    exact (List.mem_cons.mp (node.mem_iff.mp listed)).resolve_left (by simpa using other)
  · intro q ev' added now unmarked member
    obtain ⟨was, other⟩ := spared drops now unmarked
    obtain ⟨done, fit⟩ := settled.fit q ev' added was unmarked member
    exact ⟨done, fit.apart settled found (.inr ⟨t, updating⟩) rfl rfl (by simp [between]) nofun⟩
  · intro q added scheduled
    obtain ⟨ev', was, unmarked⟩ := settled.alive q added scheduled
    by_cases same : q = ptr
    · subst same
      rw [here] at was
      cases was
      exact absurd why (stays_scheduled settled found (mem_of_next next) here unmarked scheduled)
    · exact ⟨ev', (drops.others q (by simpa using same)).trans was, unmarked⟩

theorem next_current {rest : List EventPtr} (next : holder.events.ahead = ptr :: rest) :
    holder.events.next.current = some ptr := by simp [WalkedList.next, next]

theorem settled_fired {rest : List EventPtr} (settled : Settled s)
    (updating : s.updating = some (h, t)) (found : s.holders[h]? = some holder)
    (between : holder.events.current = none) (next : holder.events.ahead = ptr :: rest)
    (here : s.heap ptr = some ev) (stays : holder.discards ev = false) (due : ev.currTime ≤ t) :
    Settled { s with
      holders := s.holders.set h { holder with events := holder.events.next }
      history := s.history ++ [.executed ptr] } := by
  have turn := Turn.fired updating found between next here stays due
  have same := WalkedList.toList_next between
  have below : ptr < s.nextEvent := by
    by_contra above
    rw [settled.held.fresh ptr (not_lt.mp above)] at here
    cases here
  refine settled_walk settled [.executed ptr] turn trivial found rfl rfl ?_ rfl ⟨t, updating⟩
    (.inr ⟨t, updating⟩) (by simp [same])
    (fun q ev now unmarked => ⟨ev, now, unmarked, rfl, by simp [same]⟩) ?_ ?_
  · intro moment new
    exact ⟨ptr, List.mem_singleton.mp new, below⟩
  · intro q ev' added now unmarked member
    obtain ⟨done, fit⟩ := settled.fit q ev' added now unmarked member
    by_cases this : q = ptr
    · subst this
      refine ⟨done, { fit with count := ?_ }⟩
      have was : ¬ running s q = true :=
        mt (running_set settled found (.inr ⟨t, updating⟩) (set_same found).symm).mp
          (by simp [between])
      have now : running { s with
          holders := s.holders.set h { holder with events := holder.events.next }
          history := s.history ++ [.executed q] } q = true :=
        (running_set settled found (.inr ⟨t, updating⟩) rfl).mpr (next_current next)
      have count := fit.count
      rw [Bool.not_eq_true] at was
      rw [was] at count
      rw [now]
      simpa using count
    · have other : ptr ≠ q := Ne.symm this
      exact ⟨done, fit.apart settled found (.inr ⟨t, updating⟩) rfl (by simp [other])
        (by simp [between]) (by simp [next_current next, other])⟩
  · intro q added scheduled
    exact settled.alive q added (scheduled_before scheduled (by simp))

theorem settled_waited {rest : List EventPtr} (settled : Settled s)
    (updating : s.updating = some (h, t)) (found : s.holders[h]? = some holder)
    (between : holder.events.current = none) (next : holder.events.ahead = ptr :: rest)
    (here : s.heap ptr = some ev) (stays : holder.discards ev = false) (early : t < ev.currTime) :
    Settled { s with
      heap := Function.update s.heap ptr (some { ev with currTime := ev.currTime - t })
      holders := s.holders.set h { holder with events := holder.events.next.keep } } := by
  have turn := Turn.waited updating found between next here stays early
  have same : holder.events.next.keep.toList = holder.events.toList := by
    rw [WalkedList.toList_keep, WalkedList.toList_next between]
  refine settled_walk settled [] turn trivial found rfl (by simp) (by simp) rfl
    ⟨t, updating⟩ (.inr ⟨t, updating⟩) (by simp [same]) ?_ ?_ ?_
  · intro q ev' now unmarked
    rcases put_cases now with ⟨rfl, rfl⟩ | ⟨_, old⟩
    · exact ⟨ev, here, unmarked, rfl, by simp [same]⟩
    · exact ⟨ev', old, unmarked, rfl, by simp [same]⟩
  · intro q ev' added now unmarked member
    have apart : ∀ (old : TimedEvent) (done : Nat), Fit s q old added done → Fit { s with
        heap := Function.update s.heap ptr (some { ev with currTime := ev.currTime - t })
        holders := s.holders.set h { holder with events := holder.events.next.keep } }
        q old added done := fun old done fit =>
      fit.apart settled found (.inr ⟨t, updating⟩) rfl rfl (by simp [between]) nofun
    rcases put_cases now with ⟨rfl, rfl⟩ | ⟨_, old⟩
    · obtain ⟨done, fit⟩ := settled.fit q ev added here unmarked member
      exact ⟨done, { apart ev done fit with }⟩
    · obtain ⟨done, fit⟩ := settled.fit q ev' added old unmarked member
      exact ⟨done, apart ev' done fit⟩
  · intro q added scheduled
    obtain ⟨ev', was, unmarked⟩ := settled.alive q added scheduled
    by_cases this : q = ptr
    · subst this
      rw [here] at was
      cases was
      exact ⟨_, Function.update_self .., unmarked⟩
    · exact ⟨ev', (Function.update_of_ne this _ _).trans was, unmarked⟩

/-- An event whose callback has run for the last time is used up. -/
theorem used_up (settled : Settled s) (updating : s.updating = some (h, t))
    (found : s.holders[h]? = some holder) (running : holder.events.current = some ptr)
    (here : s.heap ptr = some ev) (unmarked : ev.deleted = false)
    (why : ev.hasFlag eventFlagDeletesObject = true ∨ ev.repeats = 1 ∨ ev.deleted = true)
    (member : .added ptr added ∈ s.history) : UsedUp s.history ptr added := by
  obtain ⟨done, fit⟩ := settled.fit ptr ev added here unmarked member
  have now : EventHolders.running s ptr = true :=
    (running_set settled found (.inr ⟨t, updating⟩) (set_same found).symm).mpr running
  have count := fit.count
  rw [now, Bool.toNat_true] at count
  have executed : .executed ptr ∈ s.history := List.count_pos_iff.mp (by omega)
  unfold UsedUp
  split
  · exact executed
  · rename_i stays
    rcases why with deletes | last | mark
    · unfold TimedEvent.hasFlag at deletes stays
      rw [fit.flag] at deletes
      exact absurd deletes stays
    · have some : added.repeats ≠ 0 := by
        intro none
        have zero := fit.endless none
        rw [last] at zero
        cases zero
      have left := (fit.left some).1
      rw [last, Int32.toInt_one] at left
      exact ⟨Int32.lt_iff_toInt_lt.mpr (by rw [Int32.toInt_zero]; omega), by omega⟩
    · rw [unmarked] at mark
      cases mark

theorem settled_expired (settled : Settled s) (settles : Settles (.ok s) .finish)
    (updating : s.updating = some (h, t)) (found : s.holders[h]? = some holder)
    (running : holder.events.current = some ptr) (here : s.heap ptr = some ev)
    (why : ev.hasFlag eventFlagDeletesObject = true ∨ ev.repeats = 1 ∨ ev.deleted = true)
    (drops : Drops s.heap heap [ptr]) :
    Settled { s with
      heap := heap
      holders := s.holders.set h { holder with events := holder.events.erase } } := by
  have turn := Turn.expired updating found running here why drops
  have node := WalkedList.toList_erase_perm running
  refine settled_walk settled [] turn settles found rfl (by simp) (by simp) rfl
    ⟨t, updating⟩ (.inr ⟨t, updating⟩) ?_ ?_ ?_ ?_
  · intro q
    rw [node.count_eq, List.count_cons]
    omega
  · intro q ev' now unmarked
    obtain ⟨was, other⟩ := spared drops now unmarked
    refine ⟨ev', was, unmarked, rfl, fun listed => ?_⟩
    exact (List.mem_cons.mp (node.mem_iff.mp listed)).resolve_left (by simpa using other)
  · intro q ev' added now unmarked member
    obtain ⟨was, other⟩ := spared drops now unmarked
    obtain ⟨done, fit⟩ := settled.fit q ev' added was unmarked member
    have apart : ptr ≠ q := fun same => other (by simp [same])
    exact ⟨done, fit.apart settled found (.inr ⟨t, updating⟩) rfl rfl
      (by simp [running, apart]) nofun⟩
  · intro q added scheduled
    obtain ⟨ev', was, unmarked⟩ := settled.alive q added scheduled
    by_cases same : q = ptr
    · subst same
      rw [here] at was
      cases was
      exact absurd (used_up settled updating found running here unmarked why scheduled.1)
        scheduled.2.2.1
    · exact ⟨ev', (drops.others q (by simpa using same)).trans was, unmarked⟩

/-- A count down that does not overflow. -/
theorem toInt_count {repeats : Int32} (above : repeats ≠ Int32.minValue) :
    (repeats - 1).toInt = repeats.toInt - 1 := by
  have least : repeats.toInt ≠ -2147483648 := fun same => above (Int32.toInt_inj.mp same)
  have low := Int32.le_toInt repeats
  have high := Int32.toInt_lt repeats
  rw [Int32.toInt_sub, Int32.toInt_one]
  apply Int.bmod_eq_of_le_mul_two
  · omega
  · omega

theorem settled_repeated (settled : Settled s) (settles : Settles (.ok s) .finish)
    (updating : s.updating = some (h, t))
    (found : s.holders[h]? = some holder) (running : holder.events.current = some ptr)
    (here : s.heap ptr = some ev) (stays : ev.hasFlag eventFlagDeletesObject = false)
    (more : ev.repeats ≠ 1) (unmarked : ev.deleted = false) :
    Settled { s with
      heap := Function.update s.heap ptr (some (rearmed ev))
      holders := s.holders.set h { holder with events := holder.events.keep } } := by
  have turn := Turn.repeated updating found running here stays more unmarked
  have above : ev.repeats ≠ Int32.minValue := by
    simpa [Settles, called, updating, found, running, here, stays] using settles
  refine settled_walk settled [] turn settles found rfl (by simp) (by simp) rfl
    ⟨t, updating⟩ (.inr ⟨t, updating⟩) (by simp) ?_ ?_ ?_
  · intro q ev' now alive
    rcases put_cases now with ⟨rfl, rfl⟩ | ⟨_, old⟩
    · exact ⟨ev, here, unmarked, by simp, by simp⟩
    · exact ⟨ev', old, alive, rfl, by simp⟩
  · intro q ev' added now alive member
    rcases put_cases now with ⟨rfl, rfl⟩ | ⟨other, old⟩
    · obtain ⟨done, fit⟩ := settled.fit q ev added here unmarked member
      have was : EventHolders.running s q = true :=
        (running_set settled found (.inr ⟨t, updating⟩) (set_same found).symm).mpr running
      have after : EventHolders.running { s with
          heap := Function.update s.heap q (some (rearmed ev))
          holders := s.holders.set h { holder with events := holder.events.keep } } q = false := by
        rw [Bool.eq_false_iff, Ne, running_set settled found (.inr ⟨t, updating⟩) rfl]
        exact nofun
      have count := fit.count
      rw [was] at count
      refine ⟨done + 1, ⟨by simp [fit.flag], by simp [fit.call], by simp [fit.instanceId], ?_, ?_,
        ?_, ?_⟩⟩
      · rw [after]
        simpa using count
      · intro none
        simp [rearmed_repeats, fit.endless none]
      · intro some
        have left := fit.left some
        have one : ev.repeats - 1 ≠ 0 := fun last => more (by simpa [Int32.sub_eq_iff_eq_add] using last)
        rw [rearmed_repeats, if_neg left.2, toInt_count above]
        exact ⟨by omega, one⟩
      · intro deletes
        unfold TimedEvent.hasFlag at deletes stays
        rw [fit.flag, deletes] at stays
        cases stays
    · obtain ⟨done, fit⟩ := settled.fit q ev' added old alive member
      exact ⟨done, fit.apart settled found (.inr ⟨t, updating⟩) rfl rfl
        (by simp [running, Ne.symm other]) nofun⟩
  · intro q added scheduled
    obtain ⟨ev', was, alive⟩ := settled.alive q added scheduled
    by_cases this : q = ptr
    · subst this
      exact ⟨_, Function.update_self .., by simp [unmarked]⟩
    · exact ⟨ev', (Function.update_of_ne this _ _).trans was, alive⟩

theorem settled_taken {o : ObjectPtr} {left : Option EventableObject}
    {ptrs : List EventPtr} (settled : Settled s) (turn : Turn s a { s with
      heap := heap
      objects := s.objects.set o left
      history := s.history ++ ptrs.map .removed }) (settles : Settles (.ok s) a)
    (drops : Drops s.heap heap ptrs) : Settled { s with
      heap := heap
      objects := s.objects.set o left
      history := s.history ++ ptrs.map .removed } where
  held := held_turn settled.held turn
  housed := housed_turn settled.housed turn settles
  known q seen := settled.known q (by simpa using seen)
  single := settled.single
  quiet := settled.quiet
  home q ev here unmarked := settled.home q ev (spared drops here unmarked).1 unmarked
  fit q ev added here unmarked member := by
    obtain ⟨done, fit⟩ := settled.fit q ev added (spared drops here unmarked).1 unmarked
      (by simpa using member)
    exact ⟨done, fit.same (by simp [List.count_append, List.count_eq_zero]) rfl⟩
  alive q added scheduled := by
    have kept : q ∉ ptrs := fun taken => scheduled.2.1 (by simp [taken])
    obtain ⟨ev, here, unmarked⟩ := settled.alive q added
      (scheduled_before scheduled (by simp))
    exact ⟨ev, (drops.others q kept).trans here, unmarked⟩

theorem settled_objects {objects : List (Option EventableObject)} (settled : Settled s)
    (turn : Turn s a { s with objects := objects }) (settles : Settles (.ok s) a) :
    Settled { s with objects := objects } where
  held := held_turn settled.held turn
  housed := housed_turn settled.housed turn settles
  known := settled.known
  single := settled.single
  quiet := settled.quiet
  home := settled.home
  fit q ev added here unmarked member := by
    obtain ⟨done, fit⟩ := settled.fit q ev added here unmarked member
    exact ⟨done, fit.same rfl rfl⟩
  alive := settled.alive

theorem settled_ended (settled : Settled s) (updating : s.updating = some (h, t))
    (found : s.holders[h]? = some holder) (between : holder.events.current = none)
    (done : holder.events.ahead = []) : Settled { s with updating := none } where
  held := held_turn settled.held (.ended updating found between done)
  housed := housed_turn settled.housed (.ended updating found between done) trivial
  known := settled.known
  single := settled.single
  quiet k other there busy := by
    obtain ⟨_, walked⟩ := settled.quiet k other there busy
    rw [updating] at walked
    cases walked
    rw [found] at there
    cases there
    exact absurd between busy
  home := settled.home
  fit q ev added here unmarked member := by
    obtain ⟨done, fit⟩ := settled.fit q ev added here unmarked member
    exact ⟨done, fit.same rfl rfl⟩
  alive := settled.alive

theorem settled_newHolder {instanceId : Int} (settled : Settled s) :
    Settled (s.newHolder instanceId) where
  held := held_turn settled.held .newHolder
  housed := housed_turn settled.housed .newHolder trivial
  known := settled.known
  single q := by simpa [Tables.newHolder, listReferences] using settled.single q
  quiet k other there busy := by
    simp only [Tables.newHolder, List.getElem?_append] at there
    split at there
    · exact settled.quiet k other there busy
    · cases List.mem_singleton.mp (List.mem_of_getElem? there)
      exact absurd rfl busy
  home q ev here unmarked := by
    obtain ⟨k, other, there, rest⟩ := settled.home q ev here unmarked
    have bound := (List.getElem?_eq_some_iff.mp there).1
    exact ⟨k, other, (List.getElem?_append_left bound).trans there, rest⟩
  fit q ev added here unmarked member := by
    obtain ⟨done, fit⟩ := settled.fit q ev added here unmarked member
    exact ⟨done, fit.same rfl (by simp [running, Tables.newHolder, WalkedList.empty])⟩
  alive := settled.alive

theorem running_pushBack (found : s.holders[h]? = some holder)
    (holders : s'.holders = s.holders.set h { holder with events := holder.events.pushBack q }) :
    running s' ptr = running s ptr := by
  have bound := (List.getElem?_eq_some_iff.mp found).1
  rw [Bool.eq_iff_iff]
  simp only [running, List.any_eq_true, decide_eq_true_eq, holders]
  constructor
  · rintro ⟨other, member, current⟩
    obtain ⟨k, there⟩ := List.mem_iff_getElem?.mp member
    rcases holder_set found there with ⟨_, same⟩ | ⟨_, old⟩
    · rw [same] at current
      exact ⟨holder, List.mem_of_getElem? found, by simpa using current⟩
    · exact ⟨other, List.mem_of_getElem? old, current⟩
  · rintro ⟨other, member, current⟩
    obtain ⟨k, there⟩ := List.mem_iff_getElem?.mp member
    by_cases place : k = h
    · subst place
      rw [found] at there
      cases there
      exact ⟨_, List.mem_of_getElem? (List.getElem?_set_self bound), by simpa using current⟩
    · have kept := (List.getElem?_set_ne (Ne.symm place)
        (a := { holder with events := holder.events.pushBack q })).trans there
      exact ⟨other, List.mem_of_getElem? kept, current⟩

theorem not_running_new (settled : Settled s) : running s s.nextEvent = false := by
  rw [Bool.eq_false_iff]
  intro run
  simp only [running, List.any_eq_true, decide_eq_true_eq] at run
  obtain ⟨other, member, current⟩ := run
  obtain ⟨k, there⟩ := List.mem_iff_getElem?.mp member
  have held := held_of_listed there (WalkedList.mem_of_current current)
  rw [settled.held.counted.freed _ (settled.held.fresh _ le_rfl)] at held
  omega

theorem settled_added {o : ObjectPtr} {obj : EventableObject} {instanceId : Int} {cb : Callback}
    {type time : Nat} {repeats : Int32} {flags : Nat} (settled : Settled s)
    (settles : Settles (.ok s) (.addEvent o instanceId cb type time repeats flags))
    (callable : s.callable = true) (object : s.objects[o]? = some (some obj))
    (listed : (adding s obj instanceId type).holder = some h)
    (found : s.holders[h]? = some holder) :
    Settled (afterAdding s o obj instanceId cb type time repeats flags h holder) where
  held := held_turn settled.held (.added callable object listed found)
  housed := housed_turn settled.housed (.added callable object listed found) settles
  known q seen := by
    rcases seen with ⟨added, member⟩ | member
    · rcases List.mem_append.mp member with old | new
      · exact Nat.lt_succ_of_lt (settled.known q (.inl ⟨added, old⟩))
      · cases List.mem_singleton.mp new
        exact Nat.lt_succ_self _
    · rcases List.mem_append.mp member with old | new
      · exact Nat.lt_succ_of_lt (settled.known q (.inr old))
      · cases List.mem_singleton.mp new
  single q := by
    have lists := listReferences_set found
      { holder with events := holder.events.pushBack s.nextEvent } q
    have once := settled.single q
    have free := settled.held.counted.freed _ (settled.held.fresh _ le_rfl)
    simp only [WalkedList.toList_pushBack, List.count_append, List.count_cons, List.count_nil]
      at lists
    by_cases new : q = s.nextEvent
    · subst new
      unfold references at free
      simp only [afterAdding]
      simp only [beq_self_eq_true, if_true] at lists
      omega
    · simp only [beq_iff_eq, Ne.symm new, if_false] at lists
      simp only [afterAdding]
      omega
  quiet k other there busy := by
    rcases holder_set found there with ⟨rfl, same⟩ | ⟨_, old⟩
    · rw [same] at busy
      exact settled.quiet k holder found (by simpa using busy)
    · exact settled.quiet k other old busy
  home q ev here unmarked := by
    have bound := (List.getElem?_eq_some_iff.mp found).1
    have self := List.getElem?_set_self bound
      (a := { holder with events := holder.events.pushBack s.nextEvent })
    rcases put_cases here with ⟨rfl, rfl⟩ | ⟨_, old⟩
    · have place := (adding_holder settled.housed object
        (by simpa only [Settles, object] using settles) listed).2
      simp only [instanceOf, found, Option.map_some, Option.some.injEq] at place
      exact ⟨h, _, self, place, by simp⟩
    · obtain ⟨k, other, there, same, member⟩ := settled.home q ev old unmarked
      by_cases place : k = h
      · subst place
        rw [found] at there
        cases there
        exact ⟨k, _, self, same, by simp [member]⟩
      · exact ⟨k, other, (List.getElem?_set_ne (Ne.symm place)).trans there, same, member⟩
  fit q ev added here unmarked member := by
    have run : running (afterAdding s o obj instanceId cb type time repeats flags h holder) q =
        running s q := running_pushBack found rfl
    rcases put_cases here with ⟨rfl, rfl⟩ | ⟨other, kept⟩
    · have fresh := (List.mem_append.mp member).resolve_left fun old =>
        absurd (settled.known _ (.inl ⟨added, old⟩)) (lt_irrefl _)
      have never : .executed s.nextEvent ∉ s.history := fun old =>
        absurd (settled.known _ (.inr old)) (lt_irrefl _)
      cases List.mem_singleton.mp fresh
      refine ⟨0, rfl, by simp [TimedEvent.new], rfl, ?_, id, ?_, fun _ => rfl⟩
      · rw [run, not_running_new settled]
        simp [afterAdding, List.count_eq_zero.mpr never]
      · simp [TimedEvent.new]
    · have old : .added q added ∈ s.history := by
        refine (List.mem_append.mp member).resolve_right fun last => ?_
        cases List.mem_singleton.mp last
        exact other rfl
      obtain ⟨done, fit⟩ := settled.fit q ev added kept unmarked old
      exact ⟨done, fit.same (by simp [afterAdding]) run⟩
  alive q added scheduled := by
    by_cases new : q = s.nextEvent
    · subst new
      exact ⟨_, Function.update_self .., rfl⟩
    · obtain ⟨ev, here, unmarked⟩ := settled.alive q added
        (scheduled_before scheduled (by simp [new]))
      exact ⟨ev, (Function.update_of_ne new _ _).trans here, unmarked⟩

theorem settled_turn (settled : Settled s) (turn : Turn s a s') (settles : Settles (.ok s) a) :
    Settled s' := by
  cases turn with
  | idle => exact settled
  | newHolder => exact settled_newHolder settled
  | newObject => exact settled_objects settled .newObject settles
  | added callable object listed found =>
    exact settled_added settled settles callable object listed found
  | taken removes object parts same drops =>
    exact settled_taken settled (.taken removes object parts same drops) settles drops
  | @relocated o obj instanceId h holder object elsewhere target found =>
    have turn := Turn.relocated object elsewhere target found
    have none : moved s.heap holder.instanceId (tableOf (some obj)) = [] := by
      simp only [Settles, object, target, Option.bind_some, found, Option.all_some,
        decide_eq_true_eq] at settles
      exact settles.resolve_left elsewhere
    have same : append holder [] = holder := rfl
    rw [none, relocated_nil, same, set_same found] at turn ⊢
    exact settled_objects settled turn settles
  | started idle found => exact settled_started settled idle found
  | ended updating found between done => exact settled_ended settled updating found between done
  | discarded updating found between next here why drops =>
    exact settled_discarded settled updating found between next here why drops
  | fired updating found between next here stays due =>
    exact settled_fired settled updating found between next here stays due
  | waited updating found between next here stays early =>
    exact settled_waited settled updating found between next here stays early
  | expired updating found running here why drops =>
    exact settled_expired settled settles updating found running here why drops
  | repeated updating found running here stays more unmarked =>
    exact settled_repeated settled settles updating found running here stays more unmarked

def AllSettled : Except Fault Tables → Prop
  | .ok s => Settled s
  | .error _ => True

theorem allSettled_step (state : Except Fault Tables) (a : Act) (kept : AllSettled state)
    (settles : Settles state a) : AllSettled (step state a) := by
  cases state with
  | error fault => trivial
  | ok s =>
    rcases act_turns kept.held.counted a with stopped | ⟨s', done, turn⟩
    · simp only [step, bind, Except.bind, stopped]
      trivial
    · simp only [step, bind, Except.bind, done]
      exact settled_turn kept turn settles

theorem settled_start : Settled EventTables.start where
  held := held_start
  housed := ⟨nofun, nofun⟩
  known _ := by simp [EventTables.start]
  single _ := Nat.zero_le 1
  quiet := nofun
  home := nofun
  fit _ _ _ here := nomatch here
  alive _ _ scheduled := absurd scheduled.1 List.not_mem_nil

/-- In a run that adds to holders there are and moves no event to another, no scheduled event is
lost. -/
theorem events_last (acts : List Act)
    (settles : EveryStep step Settles (.ok EventTables.start) acts) :
    EveryState step Lasting (.ok EventTables.start) acts := by
  have start : AllSettled (.ok EventTables.start) := settled_start
  have kept := everyState_of_everyStep allSettled_step start settles
  refine everyState_imp (fun state kept => ?_) kept
  cases state with
  | error fault => trivial
  | ok s => exact lasting_of_settled kept

/-- A timer that comes again, added in the world and fired there twice. -/
theorem world_timer_lasts :
    EveryState step Lasting (.ok EventTables.start) [.newHolder (-1), .newObject,
      .addEvent 0 (-1) 7 3 100 0 0, .update 0 200, .visit, .finish, .visit, .relocate 0 (-1),
      .update 0 200, .visit, .finish, .visit] :=
  events_last _ (by decide +kernel)

theorem not_lasting (lasting : Lasting (.ok s)) (scheduled : Scheduled s.history ptr added) :
    (s.heap ptr).all (·.deleted) = false := by
  obtain ⟨ev, here, unmarked, _⟩ := lasting ptr added scheduled
  simp [here, unmarked]

/-- An event that moves with its object to holder 1 and is deleted by the update of the old one,
and one of an object whose instance has no holder. -/
theorem events_lost :
    ¬ EveryState step Lasting (.ok EventTables.start) [.newHolder (-1), .newHolder 1, .newObject,
      .addEvent 0 (-1) 7 3 100 0 0, .relocate 0 1, .update 0 0, .visit] ∧
    ¬ EveryState step Lasting (.ok EventTables.start) [.newHolder (-1), .newObject,
      .addEvent 0 5 7 3 100 0 0, .update 0 0, .visit] := by
  constructor
  · intro all
    have last := everyState_last all
    obtain ⟨s, reached, history, deleted⟩ : ∃ s, run step (.ok EventTables.start)
        [.newHolder (-1), .newHolder 1, .newObject, .addEvent 0 (-1) 7 3 100 0 0, .relocate 0 1,
          .update 0 0, .visit] = .ok s ∧
        s.history = [.added 0 { TimedEvent.new 7 3 100 0 0 with instanceId := -1 }] ∧
        (s.heap 0).all (·.deleted) = true := ⟨_, rfl, rfl, rfl⟩
    rw [reached] at last
    have scheduled : Scheduled s.history 0 { TimedEvent.new 7 3 100 0 0 with
        instanceId := -1 } := by
      rw [history]
      decide
    have kept := not_lasting last scheduled
    rw [deleted] at kept
    cases kept
  · intro all
    have last := everyState_last all
    obtain ⟨s, reached, history, deleted⟩ : ∃ s, run step (.ok EventTables.start)
        [.newHolder (-1), .newObject, .addEvent 0 5 7 3 100 0 0, .update 0 0, .visit] = .ok s ∧
        s.history = [.added 0 { TimedEvent.new 7 3 100 0 0 with instanceId := 5 }] ∧
        (s.heap 0).all (·.deleted) = true := ⟨_, rfl, rfl, rfl⟩
    rw [reached] at last
    have scheduled : Scheduled s.history 0 { TimedEvent.new 7 3 100 0 0 with
        instanceId := 5 } := by
      rw [history]
      decide
    have kept := not_lasting last scheduled
    rw [deleted] at kept
    cases kept

end EventHolders
