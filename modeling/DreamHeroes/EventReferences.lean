import DreamHeroes.EventTables

/- How often an event is referred to, and what one step can do to the tables, the lists and the
   events. -/
namespace EventReferences

open EventTables WalkedLists OrderedMaps LabelledRuns

def tableOf : Option EventableObject → List EventPtr
  | none => []
  | some obj => obj.events.map (·.2)

@[simp] theorem tableOf_none : tableOf none = [] := rfl

def tableReferences (objects : List (Option EventableObject)) (ptr : EventPtr) : Nat :=
  (objects.map fun obj => (tableOf obj).count ptr).sum

def listReferences (holders : List EventableObjectHolder) (ptr : EventPtr) : Nat :=
  (holders.map fun holder => holder.events.toList.count ptr).sum

/-- How many entries of tables and nodes of lists hold the event. -/
def references (s : Tables) (ptr : EventPtr) : Nat :=
  tableReferences s.objects ptr + listReferences s.holders ptr

variable {s s' : Tables} {o : ObjectPtr} {h : HolderPtr} {ptr : EventPtr} {ev new : TimedEvent}
  {heap heap' : Heap} {n m : EventPtr → Nat} {ptrs : List EventPtr}

theorem tableReferences_set {objects : List (Option EventableObject)}
    {obj : Option EventableObject} (object : objects[o]? = some obj)
    (new : Option EventableObject) (ptr : EventPtr) :
    tableReferences (objects.set o new) ptr + (tableOf obj).count ptr =
      tableReferences objects ptr + (tableOf new).count ptr :=
  sum_map_set (fun obj => (tableOf obj).count ptr) new object

theorem listReferences_set {holders : List EventableObjectHolder}
    {holder : EventableObjectHolder} (found : holders[h]? = some holder)
    (new : EventableObjectHolder) (ptr : EventPtr) :
    listReferences (holders.set h new) ptr + holder.events.toList.count ptr =
      listReferences holders ptr + new.events.toList.count ptr :=
  sum_map_set (fun holder => holder.events.toList.count ptr) new found

theorem tableReferences_le {objects : List (Option EventableObject)}
    {obj : Option EventableObject} (object : objects[o]? = some obj) (ptr : EventPtr) :
    (tableOf obj).count ptr ≤ tableReferences objects ptr := by
  have emptied := tableReferences_set object none ptr
  simp only [tableOf_none, List.count_nil] at emptied
  omega

theorem listReferences_le {holders : List EventableObjectHolder}
    {holder : EventableObjectHolder} (found : holders[h]? = some holder) (ptr : EventPtr) :
    holder.events.toList.count ptr ≤ listReferences holders ptr := by
  have emptied := listReferences_set found ⟨0, .empty⟩ ptr
  simp only [WalkedList.toList_empty, List.count_nil] at emptied
  omega

theorem listReferences_same {holders : List EventableObjectHolder}
    {holder : EventableObjectHolder} (found : holders[h]? = some holder)
    (new : EventableObjectHolder) (same : new.events.toList = holder.events.toList) :
    listReferences (holders.set h new) ptr = listReferences holders ptr := by
  have lists := listReferences_set found new ptr
  rw [same] at lists
  omega

/-- Each event carries its number of references, and there is one as long as there is any. -/
structure Counted (heap : Heap) (n : EventPtr → Nat) : Prop where
  freed : ∀ ptr, heap ptr = none → n ptr = 0
  counted : ∀ ptr ev, heap ptr = some ev → ev.ref = n ptr ∧ 0 < n ptr

theorem Counted.alive (counted : Counted heap n) (held : 0 < n ptr) :
    ∃ ev, heap ptr = some ev := by
  cases here : heap ptr with
  | none =>
    have none := counted.freed ptr here
    omega
  | some ev => exact ⟨ev, rfl⟩

/-- The events of a heap that one was put into. -/
theorem put_cases {q : EventPtr} (found : Function.update heap ptr (some new) q = some ev) :
    q = ptr ∧ ev = new ∨ q ≠ ptr ∧ heap q = some ev := by
  by_cases same : q = ptr
  · subst same
    rw [Function.update_self] at found
    exact .inl ⟨rfl, (Option.some.inj found).symm⟩
  · rw [Function.update_of_ne same] at found
    exact .inr ⟨same, found⟩

theorem counted_set (counted : Counted heap n) (others : ∀ q, q ≠ ptr → m q = n q)
    (ref : new.ref = m ptr) (held : 0 < m ptr) :
    Counted (Function.update heap ptr (some new)) m where
  freed q gone := by
    by_cases same : q = ptr
    · simp [same] at gone
    · rw [Function.update_of_ne same] at gone
      rw [others q same]
      exact counted.freed q gone
  counted q ev here := by
    rcases put_cases here with ⟨rfl, rfl⟩ | ⟨other, here⟩
    · exact ⟨ref, held⟩
    · rw [others q other]
      exact counted.counted q ev here

theorem counted_free (counted : Counted heap n) (others : ∀ q, q ≠ ptr → m q = n q)
    (none : m ptr = 0) : Counted (Function.update heap ptr .none) m where
  freed q gone := by
    by_cases same : q = ptr
    · exact same ▸ none
    · rw [Function.update_of_ne same] at gone
      rw [others q same]
      exact counted.freed q gone
  counted q ev here := by
    by_cases same : q = ptr
    · simp [same] at here
    · rw [Function.update_of_ne same] at here
      rw [others q same]
      exact counted.counted q ev here

/-- An event that keeps its count is counted as before. -/
theorem counted_write (counted : Counted heap n) (here : heap ptr = some ev)
    (ref : new.ref = ev.ref) : Counted (Function.update heap ptr (some new)) n :=
  have old := counted.counted ptr ev here
  counted_set counted (fun _ _ => rfl) (ref.trans old.1) old.2

/-- What decRef of some references does to the events. -/
structure Drops (heap heap' : Heap) (ptrs : List EventPtr) : Prop where
  others : ∀ q, q ∉ ptrs → heap' q = heap q
  old : ∀ q ev, heap' q = some ev → heap q ≠ none
  marked : ∀ q ev, q ∈ ptrs → heap' q = some ev → ev.deleted = true
  counts : ∀ n, Counted heap n → (∀ q, ptrs.count q ≤ n q) →
    Counted heap' fun q => n q - ptrs.count q

/-- An event that decRef has left alone. -/
theorem spared {q : EventPtr} (drops : Drops heap heap' ptrs) (here : heap' q = some ev)
    (alive : ev.deleted = false) : heap q = some ev ∧ q ∉ ptrs := by
  have outside : q ∉ ptrs := by
    intro member
    have mark := drops.marked q ev member here
    rw [alive] at mark
    cases mark
  exact ⟨drops.others q outside ▸ here, outside⟩

theorem Drops.nil : Drops heap heap [] where
  others _ _ := rfl
  old q ev found := by simp [found]
  marked _ _ member := by cases member
  counts _ counted _ := by simpa using counted

theorem decRef_drops (counted : Counted heap n) (held : 0 < n ptr) :
    ∃ heap', decRef heap ptr = .ok heap' ∧ Drops heap heap' [ptr] := by
  obtain ⟨ev, here⟩ := counted.alive held
  have others {value : Option TimedEvent} : ∀ q, q ∉ [ptr] →
      Function.update heap ptr value q = heap q := by
    intro q other
    rw [Function.update_of_ne (by simpa using other)]
  have old {value : Option TimedEvent} : ∀ q ev,
      Function.update heap ptr value q = some ev → heap q ≠ none := by
    intro q ev found
    by_cases same : q = ptr
    · simp [same, here]
    · rw [Function.update_of_ne same] at found
      simp [found]
  have less {k : EventPtr → Nat} : ∀ q, q ≠ ptr → k q - [ptr].count q = k q := by
    intro q other
    simp [Ne.symm other]
  simp only [decRef, deref, here, bind, Except.bind, pure, Except.pure]
  split
  · rename_i last
    refine ⟨_, rfl, others, old, ?_, ?_⟩
    · intro q ev member found
      have same : q = ptr := by simpa using member
      simp [same] at found
    · intro k total _
      have count := (total.counted ptr ev here).1
      refine counted_free total less ?_
      simp only [List.count_cons_self, List.count_nil]
      omega
  · rename_i more
    refine ⟨_, rfl, others, old, ?_, ?_⟩
    · intro q ev member found
      have same : q = ptr := by simpa using member
      simp only [same, Function.update_self, Option.some.injEq] at found
      simp [← found]
    · intro k total _
      have count := (total.counted ptr ev here).1
      refine counted_set total less ?_ ?_
      · simp only [List.count_cons_self, List.count_nil]
        omega
      · simp only [List.count_cons_self, List.count_nil]
        omega

theorem Drops.trans {heap₁ heap₂ : Heap} {rest : List EventPtr} (first : Drops heap heap₁ [ptr])
    (later : Drops heap₁ heap₂ rest) : Drops heap heap₂ (ptr :: rest) where
  others q absent := by
    rw [List.mem_cons, not_or] at absent
    rw [later.others q absent.2, first.others q (by simpa using absent.1)]
  old q ev found := by
    obtain ⟨was, before⟩ := Option.ne_none_iff_exists'.mp (later.old q ev found)
    exact first.old q was before
  marked q ev member found := by
    by_cases again : q ∈ rest
    · exact later.marked q ev again found
    · have same : q = ptr := (List.mem_cons.mp member).resolve_right again
      rw [later.others q again] at found
      exact first.marked q ev (by simp [same]) found
  counts k total enough := by
    have once := first.counts k total (fun q => by
      have := enough q
      simp only [List.count_cons, List.count_nil] at this ⊢
      omega)
    have twice := later.counts _ once (fun q => by
      have := enough q
      simp only [List.count_cons, List.count_nil] at this ⊢
      omega)
    have same : (fun q => k q - [ptr].count q - rest.count q) =
        fun q => k q - (ptr :: rest).count q := by
      funext q
      simp only [List.count_cons, List.count_nil]
      omega
    exact same ▸ twice

theorem decRefAll_drops (counted : Counted heap n) (enough : ∀ q, ptrs.count q ≤ n q) :
    ∃ heap', decRefAll heap ptrs = .ok heap' ∧ Drops heap heap' ptrs := by
  induction ptrs generalizing heap n with
  | nil => exact ⟨heap, rfl, .nil⟩
  | cons ptr rest ih =>
    have held : 0 < n ptr := by
      have := enough ptr
      simp only [List.count_cons_self] at this
      omega
    have one : ∀ q, [ptr].count q ≤ n q := fun q => by
      have := enough q
      simp only [List.count_cons, List.count_nil] at this ⊢
      omega
    obtain ⟨heap₁, done, drops⟩ := decRef_drops counted held
    obtain ⟨heap₂, rest, later⟩ := ih (drops.counts n counted one) (fun q => by
      have := enough q
      simp only [List.count_cons, List.count_nil] at this ⊢
      omega)
    refine ⟨heap₂, ?_, drops.trans later⟩
    simpa only [decRefAll, done, bind, Except.bind] using rest

/-- A write that keeps the count before decRef. -/
theorem drops_of_write (here : heap ptr = some ev) (ref : new.ref = ev.ref)
    (drops : Drops (Function.update heap ptr (some new)) heap' [ptr]) :
    Drops heap heap' [ptr] where
  others q other := by
    rw [drops.others q other, Function.update_of_ne (by simpa using other)]
  old q ev found := by
    by_cases same : q = ptr
    · simp [same, here]
    · have before := drops.old q ev found
      rwa [Function.update_of_ne same] at before
  marked := drops.marked
  counts k total enough := drops.counts k (counted_write total here ref) enough

/-- addObject takes the event along. -/
def moves (instanceId : Int) (ev : TimedEvent) : Bool :=
  ¬ (ev.deleted ∨ (instanceId = worldInstance ∧ ev.hasFlag eventFlagDoNotExecuteInWorldContext))

def moved (heap : Heap) (instanceId : Int) (ptrs : List EventPtr) : List EventPtr :=
  ptrs.filter fun ptr => (heap ptr).any (moves instanceId)

def relocated (heap : Heap) (instanceId : Int) (ptrs : List EventPtr) : Heap := fun ptr =>
  (heap ptr).map fun ev =>
    if ptr ∈ ptrs then { ev with ref := ev.ref + ptrs.count ptr, instanceId := instanceId } else ev

def append (holder : EventableObjectHolder) (ptrs : List EventPtr) : EventableObjectHolder :=
  { holder with events := ptrs.foldl .pushBack holder.events }

theorem toList_append {holder : EventableObjectHolder} :
    (append holder ptrs).events.toList = holder.events.toList ++ ptrs := by
  unfold append
  induction ptrs generalizing holder with
  | nil => simp
  | cons ptr rest ih =>
    have later := @ih { holder with events := holder.events.pushBack ptr }
    simp only [WalkedList.toList_pushBack, List.append_assoc] at later
    simpa using later

theorem relocated_cons {instanceId : Int} (here : heap ptr = some ev) :
    relocated (Function.update heap ptr (some { ev with
      ref := ev.ref + 1, instanceId := instanceId })) instanceId ptrs =
    relocated heap instanceId (ptr :: ptrs) := by
  funext q
  by_cases same : q = ptr
  · subst same
    by_cases again : q ∈ ptrs
    · simp only [relocated, Function.update_self, Option.map_some, again, if_true, here,
        List.mem_cons, true_or, List.count_cons_self]
      grind
    · simp [relocated, again, here, List.count_eq_zero.mpr again]
  · have other : ¬ ptr = q := fun h => same h.symm
    simp only [relocated, Function.update_of_ne same, List.mem_cons, same, false_or,
      List.count_cons, beq_iff_eq, other, if_false, Nat.add_zero]

theorem moved_write {instanceId : Int} (here : heap ptr = some ev)
    (same : moves instanceId new = moves instanceId ev) :
    moved (Function.update heap ptr (some new)) instanceId ptrs = moved heap instanceId ptrs := by
  unfold moved
  congr 1
  funext q
  by_cases this : q = ptr
  · simp [this, here, same]
  · rw [Function.update_of_ne this]

theorem set_same {holders : List EventableObjectHolder} {holder : EventableObjectHolder}
    (found : holders[h]? = some holder) : holders.set h holder = holders := by
  have bound := (List.getElem?_eq_some_iff.mp found).1
  rw [← (List.getElem?_eq_some_iff.mp found).2, List.set_getElem_self]

@[simp] theorem relocated_nil {instanceId : Int} : relocated heap instanceId [] = heap := by
  funext q
  cases here : heap q <;> simp [relocated, here]

theorem addObject_eq {holder : EventableObjectHolder} {entries : List (Nat × EventPtr)}
    (found : s.holders[h]? = some holder)
    (alive : ∀ entry ∈ entries, ∃ ev, s.heap entry.2 = some ev) :
    s.addObject h entries = .ok { s with
      heap := relocated s.heap holder.instanceId
        (moved s.heap holder.instanceId (entries.map (·.2)))
      holders := s.holders.set h
        (append holder (moved s.heap holder.instanceId (entries.map (·.2)))) } := by
  induction entries generalizing s holder with
  | nil =>
    simp [Tables.addObject, moved, append, set_same found]
  | cons entry rest ih =>
    obtain ⟨ev, here⟩ := alive entry List.mem_cons_self
    have later : ∀ entry ∈ rest, ∃ ev, s.heap entry.2 = some ev :=
      fun entry member => alive entry (List.mem_cons_of_mem _ member)
    simp only [Tables.addObject, found, deref, here, bind, Except.bind]
    split
    · rename_i stays
      have skipped : moves holder.instanceId ev = false :=
        decide_eq_false (not_not.mpr stays)
      have same : moved s.heap holder.instanceId ((entry :: rest).map (·.2)) =
          moved s.heap holder.instanceId (rest.map (·.2)) := by
        simp [moved, here, skipped]
      rw [same]
      exact ih found later
    · rename_i goes
      have taken : moves holder.instanceId ev = true := decide_eq_true goes
      have same : moved s.heap holder.instanceId ((entry :: rest).map (·.2)) =
          entry.2 :: moved s.heap holder.instanceId (rest.map (·.2)) := by
        simp [moved, here, taken]
      have bound := (List.getElem?_eq_some_iff.mp found).1
      have still : ∀ other ∈ rest, ∃ ev', Function.update s.heap entry.2 (some { ev with
          ref := ev.ref + 1, instanceId := holder.instanceId }) other.2 = some ev' := by
        intro other member
        by_cases this : other.2 = entry.2
        · simp [this]
        · obtain ⟨old, alive⟩ := later other member
          exact ⟨old, (Function.update_of_ne this _ _).trans alive⟩
      rw [@ih { s with
        heap := Function.update s.heap entry.2 (some { ev with
          ref := ev.ref + 1, instanceId := holder.instanceId })
        holders := s.holders.set h { holder with events := holder.events.pushBack entry.2 } }
        { holder with events := holder.events.pushBack entry.2 } (by simp [bound]) still]
      have moves_same : moved (Function.update s.heap entry.2 (some { ev with
          ref := ev.ref + 1, instanceId := holder.instanceId })) holder.instanceId
            (rest.map (·.2)) = moved s.heap holder.instanceId (rest.map (·.2)) :=
        moved_write here rfl
      simp only [moves_same, same, relocated_cons here, List.set_set]
      rfl

end EventReferences
