import DreamHeroes.EventTurns
import Mathlib.Algebra.Group.Int.Defs

/- ServerFrame::run: each turn reads the clock, lets the handlers run and updates the holder of
   the server with the time since the last reading. -/
namespace ServerFrames

open EventTables EventReferences EventTurns WalkedLists LabelledRuns

/-- The cast of `(u32)(time_elapse.total_milliseconds())`. -/
def u32 (milliseconds : Int) : Nat := (milliseconds % 2 ^ 32).toNat

/-- Of a duration in microseconds, the fraction cut off. -/
def totalMilliseconds (elapsed : Int) : Int := elapsed.tdiv 1000

/- nDiff: what runOnce was called with, until it hands it to the update. -/
structure Frame where
  tables : Tables
  nLastTime : Int
  nDiff : Option Nat

/-- The holder m_EventHold of the server is the only one. -/
def start (now : Int) : Frame := ⟨EventTables.start.newHolder worldInstance, now, none⟩

inductive Event where
  | turn (now : Int)
  | call (a : Act)
  | update
  | visit
  | finish
  deriving DecidableEq, Repr

/-- What handlers and callbacks do to the events. -/
def handles : Act → Bool
  | .newObject | .addEvent .. | .removeEvents .. | .removeByPointer .. | .destroy .. => true
  | _ => false

namespace Frame

def perform (f : Frame) (a : Act) : Except Fault Frame := do
  pure { f with tables := ← f.tables.act a }

/-- The loop comes round once the update of its last turn is over. -/
def act (f : Frame) : Event → Except Fault Frame
  | .turn now =>
      if f.nDiff.isSome ∨ f.tables.updating.isSome then .ok f
      else
        let elapsed := totalMilliseconds (now - f.nLastTime)
        .ok { f with
          tables := { f.tables with history := f.tables.history ++ [.measured elapsed] }
          nLastTime := now
          nDiff := some (u32 elapsed) }
  | .call a => if handles a then f.perform a else .ok f
  | .update =>
      match f.nDiff with
      | none => .ok f
      | some nDiff => perform { f with nDiff := none } (.update 0 nDiff)
  | .visit => f.perform .visit
  | .finish => f.perform .finish

end Frame

def step (state : Except Fault Frame) (event : Event) : Except Fault Frame := do
  (← state).act event

/-- The elapsed time measured since the event was added or last fired, backward steps left out. -/
def measuredSince (ptr : EventPtr) (history : List Moment) : Nat :=
  history.foldl (fun total moment =>
    match moment with
    | .measured milliseconds => total + milliseconds.toNat
    | .added q _ | .executed q => if q = ptr then 0 else total
    | .removed _ => total) 0

/-- Each callback comes when the time of its event has been measured. -/
def NeverEarly (history : List Moment) : Prop :=
  EachAfter (fun before moment => ∀ ptr ev, moment = .executed ptr →
    .added ptr ev ∈ before → ev.msTime ≤ measuredSince ptr before) history

def historyOf : Except Fault Frame → List Moment
  | .ok f => f.tables.history
  | .error _ => []

def OnTime (state : Except Fault Frame) : Prop := NeverEarly (historyOf state)

/-- The update under way, or to come in this turn, takes no time off an event added now. -/
def ChargesNothing (f : Frame) : Prop :=
  match f.nDiff, f.tables.updating with
  | some nDiff, _ => nDiff = 0
  | none, some (_, timeDifference) =>
      timeDifference = 0 ∨ ∀ holder ∈ f.tables.holders, holder.events.ahead = []
  | none, none => True

instance (f : Frame) : Decidable (ChargesNothing f) := by
  unfold ChargesNothing
  split <;> infer_instance

/-- The clock is not read back, and no event is added that is charged for time before. -/
def Fair : Except Fault Frame → Event → Prop
  | .ok f, .turn now => 0 ≤ totalMilliseconds (now - f.nLastTime)
  | .ok f, .call (.addEvent ..) => ChargesNothing f
  | _, _ => True

instance (state : Except Fault Frame) (event : Event) : Decidable (Fair state event) := by
  unfold Fair
  split <;> infer_instance

variable {f : Frame} {s s' : Tables} {ptr q : EventPtr} {holder : EventableObjectHolder}
  {history : List Moment} {a : Act}

@[simp] theorem measuredSince_measured {milliseconds : Int} :
    measuredSince ptr (history ++ [.measured milliseconds]) =
      measuredSince ptr history + milliseconds.toNat := by
  simp [measuredSince]

@[simp] theorem measuredSince_added {ev : TimedEvent} :
    measuredSince ptr (history ++ [.added q ev]) =
      if q = ptr then 0 else measuredSince ptr history := by
  simp [measuredSince]

@[simp] theorem measuredSince_executed :
    measuredSince ptr (history ++ [.executed q]) =
      if q = ptr then 0 else measuredSince ptr history := by
  simp [measuredSince]

@[simp] theorem measuredSince_removed {ptrs : List EventPtr} :
    measuredSince ptr (history ++ ptrs.map .removed) = measuredSince ptr history := by
  induction ptrs generalizing history with
  | nil => simp
  | cons q rest ih =>
    have later := @ih (history ++ [.removed q])
    simpa [measuredSince] using later

/-- The time an update is still to take off the event. -/
def pending (updating : Option (HolderPtr × Nat)) (ahead : List EventPtr) (ptr : EventPtr) : Nat :=
  match updating with
  | some (_, timeDifference) => if ptr ∈ ahead then timeDifference else 0
  | none => 0

/-- What every fair run keeps of the one list. early is what the coming update takes off all. -/
structure Timed (early : Option Nat) (s : Tables) (holder : EventableObjectHolder) : Prop where
  held : Held s
  one : s.holders = [holder]
  nodup : holder.events.toList.Nodup
  known : ∀ ptr added, .added ptr added ∈ s.history → ptr < s.nextEvent
  times : ∀ ptr added ev, .added ptr added ∈ s.history → s.heap ptr = some ev →
    ev.deleted = false → ev.msTime = added.msTime
  quiet : s.updating = none → holder.events.current = none
  idle : early ≠ none → s.updating = none
  charged : ∀ ptr ev, s.heap ptr = some ev → ev.deleted = false →
    holder.events.current ≠ some ptr →
    ev.msTime + (early.getD 0 + pending s.updating holder.events.ahead ptr) ≤
      ev.currTime + measuredSince ptr s.history
  never : NeverEarly s.history

/-- The one holder of a run is at the first place. -/
theorem only_holder {h : HolderPtr} {found : EventableObjectHolder} (one : s.holders = [holder])
    (here : s.holders[h]? = some found) : h = 0 ∧ found = holder := by
  rw [one] at here
  cases h with
  | zero => exact ⟨rfl, (Option.some.inj here).symm⟩
  | succ h => cases here

variable {early : Option Nat} {heap : Heap} {ev : TimedEvent} {ptrs : List EventPtr}

theorem not_listed (held : Held s) (one : s.holders = [holder]) :
    s.nextEvent ∉ holder.events.toList := by
  intro listed
  have found : s.holders[0]? = some holder := by rw [one]; rfl
  obtain ⟨ev, here⟩ := held.counted.alive (held_of_listed found listed)
  rw [held.fresh _ le_rfl] at here
  cases here

theorem timed_added {o : ObjectPtr} {obj : EventableObject} {instanceId : Int} {cb : Callback}
    {type time : Nat} {repeats : Int32} {flags : Nat} (timed : Timed early s holder)
    (held : Held (afterAdding s o obj instanceId cb type time repeats flags 0 holder))
    (none : early.getD 0 = 0)
    (free : ∀ h t, s.updating = some (h, t) → t = 0 ∨ holder.events.ahead = []) :
    Timed early (afterAdding s o obj instanceId cb type time repeats flags 0 holder)
      { holder with events := holder.events.pushBack s.nextEvent } where
  held := held
  one := by simp [afterAdding, timed.one]
  nodup := by
    have absent := not_listed timed.held timed.one
    simp only [WalkedList.toList_pushBack]
    exact List.nodup_append.mpr ⟨timed.nodup, List.nodup_singleton _, by
      rintro a listed b new rfl
      exact absent (List.mem_singleton.mp new ▸ listed)⟩
  known q old' member := by
    rcases List.mem_append.mp member with old | new
    · exact Nat.lt_succ_of_lt (timed.known q old' old)
    · cases List.mem_singleton.mp new
      exact Nat.lt_succ_self _
  times q old' ev member here alive := by
    rcases List.mem_append.mp member with old | new
    · have other : q ≠ s.nextEvent := (timed.known q old' old).ne
      simp only [afterAdding, Function.update_of_ne other] at here
      exact timed.times q old' ev old here alive
    · cases List.mem_singleton.mp new
      simp only [afterAdding, Function.update_self, Option.some.injEq] at here
      simp [← here, TimedEvent.new]
  quiet idle := by simpa using timed.quiet idle
  idle := timed.idle
  charged q ev here alive elsewhere := by
    simp only [WalkedList.pushBack_current] at elsewhere
    rcases put_cases here with ⟨rfl, rfl⟩ | ⟨other, old⟩
    · have nothing : pending s.updating (holder.events.pushBack s.nextEvent).ahead
          s.nextEvent = 0 := by
        unfold pending
        split
        · rename_i h t updating
          rcases free h t updating with zero | ended
          · simp [zero]
          · simp [WalkedList.pushBack_ahead, ended]
        · rfl
      simp only [afterAdding, nothing, none, measuredSince_added, if_true]
      simp [TimedEvent.new]
    · have before := timed.charged q ev old alive elsewhere
      have same : pending s.updating (holder.events.pushBack s.nextEvent).ahead q =
          pending s.updating holder.events.ahead q := by
        unfold pending
        rw [WalkedList.pushBack_ahead]
        by_cases ended : holder.events.ahead = []
        · simp [ended]
        · simp [ended, other]
      simpa only [afterAdding, same, measuredSince_added, Ne.symm other, if_false] using before
  never := eachAfter_append timed.never fun _ _ => nofun

/-- The update drops the event at its place. -/
theorem timed_erase {left : WalkedList EventPtr} (timed : Timed early s holder)
    (held : Held { s with
      heap := heap
      holders := s.holders.set 0 { holder with events := left } })
    (drops : Drops s.heap heap [ptr]) (none : left.current = none)
    (node : holder.events.toList.Perm (ptr :: left.toList))
    (ahead : ∀ q, q ∈ left.ahead → q ∈ holder.events.ahead)
    (current : holder.events.current = .none ∨ holder.events.current = some ptr) :
    Timed early { s with
      heap := heap
      holders := s.holders.set 0 { holder with events := left } }
      { holder with events := left } where
  held := held
  one := by simp [timed.one]
  nodup := (List.nodup_cons.mp (node.nodup_iff.mp timed.nodup)).2
  known := timed.known
  times q added ev member here alive :=
    timed.times q added ev member (spared drops here alive).1 alive
  quiet _ := none
  idle := timed.idle
  charged q ev here alive _ := by
    obtain ⟨before, other⟩ := spared drops here alive
    have elsewhere : holder.events.current ≠ some q := by
      rcases current with idle | running
      · simp [idle]
      · rw [running]
        rintro ⟨⟩
        exact other (List.mem_singleton_self ptr)
    have charged := timed.charged q ev before alive elsewhere
    have less : pending s.updating left.ahead q ≤ pending s.updating holder.events.ahead q := by
      unfold pending
      split
      · by_cases member : q ∈ left.ahead
        · simp [member, ahead q member]
        · simp [member]
      · exact le_rfl
    simp only
    omega
  never := timed.never

theorem timed_taken {o : ObjectPtr} {left : Option EventableObject}
    (timed : Timed early s holder)
    (held : Held { s with
      heap := heap
      objects := s.objects.set o left
      history := s.history ++ ptrs.map .removed })
    (drops : Drops s.heap heap ptrs) :
    Timed early { s with
      heap := heap
      objects := s.objects.set o left
      history := s.history ++ ptrs.map .removed } holder where
  held := held
  one := timed.one
  nodup := timed.nodup
  known q added member := timed.known q added (by simpa using member)
  times q added ev member here alive :=
    timed.times q added ev (by simpa using member) (spared drops here alive).1 alive
  quiet := timed.quiet
  idle := timed.idle
  charged q ev here alive elsewhere := by
    simpa using timed.charged q ev (spared drops here alive).1 alive elsewhere
  never := eachAfter_append_all timed.never (by simp)

theorem timed_fired {rest : List EventPtr} {t : Nat} (timed : Timed early s holder)
    (held : Held { s with
      holders := s.holders.set 0 { holder with events := holder.events.next }
      history := s.history ++ [.executed ptr] })
    (updating : s.updating = some (0, t)) (between : holder.events.current = none)
    (next : holder.events.ahead = ptr :: rest) (here : s.heap ptr = some ev)
    (alive : ev.deleted = false) (due : ev.currTime ≤ t) :
    Timed early { s with
      holders := s.holders.set 0 { holder with events := holder.events.next }
      history := s.history ++ [.executed ptr] }
      { holder with events := holder.events.next } where
  held := held
  one := by simp [timed.one]
  nodup := by simpa only [WalkedList.toList_next between] using timed.nodup
  known q added member := timed.known q added (by simpa using member)
  times q added ev member := timed.times q added ev (by simpa using member)
  quiet idle := by simp [updating] at idle
  idle := timed.idle
  charged q ev here alive elsewhere := by
    have charged := timed.charged q ev here alive (by simp [between])
    have other : ptr ≠ q := by
      rintro rfl
      simp [WalkedList.next, next] at elsewhere
    have same : pending s.updating holder.events.next.ahead q =
        pending s.updating holder.events.ahead q := by
      simp [pending, updating, WalkedList.next, next, Ne.symm other]
    simpa only [same, measuredSince_executed, other, if_false] using charged
  never := by
    refine eachAfter_append timed.never ?_
    rintro q event ⟨⟩ added
    have charged := timed.charged ptr ev here alive (by simp [between])
    have whole : pending s.updating holder.events.ahead ptr = t := by
      simp [pending, updating, next]
    rw [whole, timed.times ptr event ev added here alive] at charged
    omega

/-- The update puts the event at its place back, and with it as much of the time as it takes off
its own. -/
theorem timed_put {left : WalkedList EventPtr} {new : TimedEvent} {t : Nat}
    (timed : Timed early s holder)
    (held : Held { s with
      heap := Function.update s.heap ptr (some new)
      holders := s.holders.set 0 { holder with events := left } })
    (updating : s.updating = some (0, t)) (here : s.heap ptr = some ev)
    (deleted : new.deleted = ev.deleted) (msTime : new.msTime = ev.msTime)
    (nodes : left.toList = holder.events.toList)
    (ahead : ∀ q, q ≠ ptr → (q ∈ left.ahead ↔ q ∈ holder.events.ahead))
    (current : holder.events.current = .none ∨ holder.events.current = some ptr)
    (charged : ev.deleted = false →
      ev.msTime + (early.getD 0 + pending s.updating left.ahead ptr) ≤
        new.currTime + measuredSince ptr s.history) :
    Timed early { s with
      heap := Function.update s.heap ptr (some new)
      holders := s.holders.set 0 { holder with events := left } }
      { holder with events := left } where
  held := held
  one := by simp [timed.one]
  nodup := by simpa only [nodes] using timed.nodup
  known := timed.known
  times q added found member put alive := by
    rcases put_cases put with ⟨rfl, rfl⟩ | ⟨_, old⟩
    · rw [msTime]
      exact timed.times q added ev member here (deleted ▸ alive)
    · exact timed.times q added found member old alive
  quiet idle := by simp [updating] at idle
  idle := timed.idle
  charged q found put alive _ := by
    rcases put_cases put with ⟨rfl, rfl⟩ | ⟨other, old⟩
    · rw [msTime]
      exact charged (deleted ▸ alive)
    · have elsewhere : holder.events.current ≠ some q := by
        rcases current with idle | running
        · simp [idle]
        · rw [running]
          rintro ⟨⟩
          exact other rfl
      have same : pending s.updating left.ahead q =
          pending s.updating holder.events.ahead q := by
        simp only [pending, ahead q other]
      simpa only [same] using timed.charged q found old alive elsewhere
  never := timed.never

theorem timed_kept {rest : List EventPtr} {t : Nat} (timed : Timed early s holder)
    (held : Held { s with
      heap := Function.update s.heap ptr (some { ev with currTime := ev.currTime - t })
      holders := s.holders.set 0 { holder with events := holder.events.next.keep } })
    (updating : s.updating = some (0, t)) (between : holder.events.current = none)
    (next : holder.events.ahead = ptr :: rest) (here : s.heap ptr = some ev)
    (later : t < ev.currTime) :
    Timed early { s with
      heap := Function.update s.heap ptr (some { ev with currTime := ev.currTime - t })
      holders := s.holders.set 0 { holder with events := holder.events.next.keep } }
      { holder with events := holder.events.next.keep } := by
  have nodes : holder.events.next.keep.toList = holder.events.toList := by
    rw [WalkedList.toList_keep, WalkedList.toList_next between]
  have passed : holder.events.next.keep.ahead = rest := by
    simp [WalkedList.next, WalkedList.keep, next]
  have once := timed.nodup
  rw [WalkedList.toList, next] at once
  have absent : ptr ∉ rest := by
    intro again
    simp [List.nodup_append, again] at once
  refine timed_put timed held updating here rfl rfl nodes (fun q other => ?_) (.inl between)
    fun alive => ?_
  · rw [passed, next, List.mem_cons, or_iff_right other]
  · have charged := timed.charged ptr ev here alive (by simp [between])
    have whole : pending s.updating holder.events.ahead ptr = t := by
      simp [pending, updating, next]
    have done : pending s.updating holder.events.next.keep.ahead ptr = 0 := by
      simp [pending, updating, passed, absent]
    rw [whole] at charged
    simp only [done]
    omega

theorem timed_rearmed {t : Nat} (timed : Timed early s holder)
    (held : Held { s with
      heap := Function.update s.heap ptr (some (rearmed ev))
      holders := s.holders.set 0 { holder with events := holder.events.keep } })
    (updating : s.updating = some (0, t)) (running : holder.events.current = some ptr)
    (here : s.heap ptr = some ev) :
    Timed early { s with
      heap := Function.update s.heap ptr (some (rearmed ev))
      holders := s.holders.set 0 { holder with events := holder.events.keep } }
      { holder with events := holder.events.keep } := by
  have once := timed.nodup
  rw [WalkedList.toList, running] at once
  have absent : ptr ∉ holder.events.ahead := by
    intro again
    simp [List.nodup_append, again] at once
  refine timed_put timed held updating here rearmed_deleted rearmed_msTime
    WalkedList.toList_keep (fun q _ => Iff.rfl) (.inr running) fun _ => ?_
  have done : pending s.updating holder.events.keep.ahead ptr = 0 := by
    simp [pending, updating, WalkedList.keep, absent]
  have quiet : early = none := by
    by_contra some
    have idle := timed.idle some
    rw [updating] at idle
    cases idle
  simp only [done, quiet, rearmed_currTime, Option.getD_none]
  omega

/-- What handlers, callbacks and the walk of the update do keeps the times. -/
theorem timed_turn (timed : Timed early s holder) (turn : Turn s a s')
    (kind : handles a = true ∨ a = .visit ∨ a = .finish)
    (free : ∀ o instanceId cb type time repeats flags,
      a = .addEvent o instanceId cb type time repeats flags →
      early.getD 0 = 0 ∧ ∀ h t, s.updating = some (h, t) → t = 0 ∨ holder.events.ahead = []) :
    ∃ holder', Timed early s' holder' := by
  have held := held_turn timed.held turn
  cases turn with
  | idle => exact ⟨holder, timed⟩
  | newHolder => simp [handles] at kind
  | newObject =>
    exact ⟨holder, held, timed.one, timed.nodup, timed.known, timed.times, timed.quiet,
      timed.idle, timed.charged, timed.never⟩
  | added callable object listed found =>
    obtain ⟨rfl, rfl⟩ := only_holder timed.one found
    obtain ⟨none, free⟩ := free _ _ _ _ _ _ _ rfl
    exact ⟨_, timed_added timed held none free⟩
  | taken removes object parts same drops => exact ⟨_, timed_taken timed held drops⟩
  | relocated => simp [handles] at kind
  | started => simp [handles] at kind
  | ended updating found between done =>
    refine ⟨holder, held, timed.one, timed.nodup, timed.known, timed.times, ?_, fun _ => rfl, ?_,
      timed.never⟩
    · obtain ⟨rfl, rfl⟩ := only_holder timed.one found
      exact fun _ => between
    · intro q ev here alive elsewhere
      have charged := timed.charged q ev here alive elsewhere
      simp only [pending]
      omega
  | discarded updating found between next here why drops =>
    obtain ⟨rfl, rfl⟩ := only_holder timed.one found
    exact ⟨_, timed_erase timed held drops rfl (perm_of_next between next)
      (fun q member => List.mem_of_mem_tail member) (.inl between)⟩
  | fired updating found between next here stays due =>
    obtain ⟨rfl, rfl⟩ := only_holder timed.one found
    exact ⟨_, timed_fired timed held updating between next here (unmarked_of_stays stays) due⟩
  | waited updating found between next here stays later =>
    obtain ⟨rfl, rfl⟩ := only_holder timed.one found
    exact ⟨_, timed_kept timed held updating between next here later⟩
  | expired updating found running here why drops =>
    obtain ⟨rfl, rfl⟩ := only_holder timed.one found
    exact ⟨_, timed_erase timed held drops rfl (WalkedList.toList_erase_perm running)
      (fun _ => id) (.inr running)⟩
  | repeated updating found running here =>
    obtain ⟨rfl, rfl⟩ := only_holder timed.one found
    exact ⟨_, timed_rearmed timed held updating running here⟩

theorem timed_update {t : Nat} (timed : Timed (some t) s holder)
    (turn : Turn s (.update 0 t) s') : ∃ holder', Timed none s' holder' := by
  have held := held_turn timed.held turn
  have later {q : EventPtr} {ev : TimedEvent} (here : s.heap q = some ev)
      (alive : ev.deleted = false) : ev.msTime + t ≤ ev.currTime + measuredSince q s.history := by
    have idle := timed.idle (by simp)
    have charged := timed.charged q ev here alive (by simp [timed.quiet idle])
    simpa only [pending, idle, Option.getD_some, Nat.add_zero] using charged
  cases turn with
  | idle =>
    refine ⟨holder, held, timed.one, timed.nodup, timed.known, timed.times, timed.quiet,
      fun some => absurd rfl some, fun q ev here alive elsewhere => ?_, timed.never⟩
    have charged := timed.charged q ev here alive elsewhere
    simp only [Option.getD_some, Option.getD_none] at charged ⊢
    omega
  | taken removes => simp [Removes] at removes
  | @started h t only idle found =>
    obtain ⟨-, rfl⟩ := only_holder timed.one found
    refine ⟨{ only with events := only.events.start }, held, by simp [timed.one],
      by simpa using timed.nodup, timed.known, timed.times, by simp,
      fun some => absurd rfl some, fun q ev here alive _ => ?_, timed.never⟩
    have charged := later here alive
    have part : pending (some (0, t)) only.events.start.ahead q ≤ t := by
      unfold pending
      split <;> grind
    simp only [Option.getD_none]
    omega

theorem timed_measured {elapsed : Int} (timed : Timed none s holder) (idle : s.updating = none)
    (forward : 0 ≤ elapsed) :
    Timed (some (u32 elapsed)) { s with history := s.history ++ [.measured elapsed] } holder where
  held := by
    have held := timed.held
    exact ⟨held.counted, held.fresh, fun q member => held.known q (by simpa using member),
      fun q ev member => held.marked q ev (by simpa using member),
      eachAfter_append held.order fun _ => nofun⟩
  one := timed.one
  nodup := timed.nodup
  known q added member := timed.known q added (by simpa using member)
  times q added ev member := timed.times q added ev (by simpa using member)
  quiet := timed.quiet
  idle _ := idle
  charged q ev here alive elsewhere := by
    have charged := timed.charged q ev here alive elsewhere
    have less : u32 elapsed ≤ elapsed.toNat := by
      unfold u32
      omega
    simp only [pending, idle, Option.getD_none, Option.getD_some, measuredSince_measured]
      at charged ⊢
    omega
  never := eachAfter_append timed.never fun _ _ => nofun

def Kept : Except Fault Frame → Prop
  | .ok f => ∃ holder, Timed f.nDiff f.tables holder
  | .error _ => True

theorem kept_perform (kept : Kept (.ok f)) (kind : handles a = true ∨ a = .visit ∨ a = .finish)
    (free : ∀ o instanceId cb type time repeats flags,
      a = .addEvent o instanceId cb type time repeats flags → ChargesNothing f) :
    Kept (f.perform a) := by
  obtain ⟨holder, timed⟩ := kept
  rcases act_turns timed.held.counted a with stopped | ⟨s', done, turn⟩
  · simp only [Frame.perform, stopped, bind, Except.bind]
    trivial
  · simp only [Frame.perform, done, bind, Except.bind, pure, Except.pure]
    refine timed_turn timed turn kind fun o instanceId cb type time repeats flags same => ?_
    have charges := free o instanceId cb type time repeats flags same
    cases early : f.nDiff with
    | some nDiff =>
      have idle := timed.idle (by simp [early])
      simp only [ChargesNothing, early] at charges
      exact ⟨charges, fun h t updating => by rw [idle] at updating; cases updating⟩
    | none =>
      refine ⟨rfl, fun h t updating => ?_⟩
      simp only [ChargesNothing, early, updating, timed.one, List.mem_singleton, forall_eq]
        at charges
      exact charges

theorem kept_step (state : Except Fault Frame) (event : Event) (kept : Kept state)
    (fair : Fair state event) : Kept (step state event) := by
  cases state with
  | error fault => trivial
  | ok f =>
    simp only [step, bind, Except.bind]
    cases event with
    | turn now =>
      simp only [Frame.act]
      split
      · exact kept
      · rename_i idle
        obtain ⟨holder, timed⟩ := kept
        simp only [not_or, Option.not_isSome_iff_eq_none] at idle
        rw [idle.1] at timed
        exact ⟨holder, timed_measured timed idle.2 fair⟩
    | call a =>
      simp only [Frame.act]
      split
      · rename_i kind
        refine kept_perform kept (.inl kind) ?_
        rintro o instanceId cb type time repeats flags rfl
        exact fair
      · exact kept
    | update =>
      simp only [Frame.act]
      split
      · exact kept
      · rename_i nDiff early
        obtain ⟨holder, timed⟩ := kept
        rw [early] at timed
        rcases act_turns timed.held.counted (.update 0 nDiff) with stopped | ⟨s', done, turn⟩
        · simp only [Frame.perform, stopped, bind, Except.bind]
          trivial
        · simp only [Frame.perform, done, bind, Except.bind, pure, Except.pure]
          exact timed_update timed turn
    | visit => exact kept_perform kept (.inr (.inl rfl)) nofun
    | finish => exact kept_perform kept (.inr (.inr rfl)) nofun

theorem kept_start (now : Int) : Kept (.ok (start now)) := by
  refine ⟨⟨worldInstance, .empty⟩, ?_⟩
  have turn : Turn EventTables.start (.newHolder worldInstance) _ := .newHolder
  have held := held_turn held_start turn
  have none : ∀ ptr added, .added ptr added ∉ (start now).tables.history := nofun
  exact {
    held := held
    one := rfl
    nodup := List.nodup_nil
    known := fun ptr added member => absurd member (none ptr added)
    times := fun ptr added _ member => absurd member (none ptr added)
    quiet := fun _ => rfl
    idle := fun _ => rfl
    charged := nofun
    never := eachAfter_nil }

/-- In a run whose clock is not read back and whose events are charged for no time before they
were added, no timer fires early. -/
theorem timers_on_time (now : Int) (events : List Event)
    (fair : EveryStep step Fair (.ok (start now)) events) :
    EveryState step OnTime (.ok (start now)) events := by
  have kept := everyState_of_everyStep kept_step (kept_start now) fair
  refine everyState_imp (fun state kept => ?_) kept
  cases state with
  | error fault => exact eachAfter_nil
  | ok f =>
    obtain ⟨holder, timed⟩ := kept
    exact timed.never

/-- A timer of 5 ms is due in the first turn that measures 6 ms. -/
theorem first_timer_on_time :
    EveryState step OnTime (.ok (start 0)) [.call .newObject,
      .call (.addEvent 0 (-1) 1 1 5 1 0), .turn 6000, .update, .visit, .finish, .visit] :=
  timers_on_time 0 _ (by decide +kernel)

/-- A timer that fires once, of the one object of the runs below. -/
def timer (cb : Callback) (time : Nat) : TimedEvent :=
  { TimedEvent.new cb 1 time 1 0 with instanceId := worldInstance }

/-- A timer of 5 s that fires as soon as the clock is read 10 ms back, and one of 5 ms that a
callback adds and the same update fires. -/
theorem timers_fire_early :
    ¬ EveryState step OnTime (.ok (start 1000000)) [.call .newObject,
      .call (.addEvent 0 (-1) 1 1 5000 1 0), .turn 990000, .update, .visit] ∧
    ¬ EveryState step OnTime (.ok (start 0)) [.call .newObject,
      .call (.addEvent 0 (-1) 1 1 5 1 0), .call (.addEvent 0 (-1) 2 1 50 1 0), .turn 6000, .update,
      .visit, .call (.addEvent 0 (-1) 3 1 5 1 0), .finish, .visit, .visit] := by
  constructor
  · intro all
    have last := everyState_last all
    have history : historyOf (run step (.ok (start 1000000)) [.call .newObject,
        .call (.addEvent 0 (-1) 1 1 5000 1 0), .turn 990000, .update, .visit]) =
        [.added 0 (timer 1 5000), .measured (-10), .executed 0] := by decide +kernel
    rw [OnTime, history] at last
    have early := last [.added 0 (timer 1 5000), .measured (-10)] (.executed 0) [] rfl 0
      (timer 1 5000) rfl (by simp)
    revert early
    decide
  · intro all
    have last := everyState_last all
    have history : historyOf (run step (.ok (start 0)) [.call .newObject,
        .call (.addEvent 0 (-1) 1 1 5 1 0), .call (.addEvent 0 (-1) 2 1 50 1 0), .turn 6000,
        .update, .visit, .call (.addEvent 0 (-1) 3 1 5 1 0), .finish, .visit, .visit]) =
        [.added 0 (timer 1 5), .added 1 (timer 2 50), .measured 6, .executed 0,
          .added 2 (timer 3 5), .executed 2] := by decide +kernel
    rw [OnTime, history] at last
    have early := last [.added 0 (timer 1 5), .added 1 (timer 2 50), .measured 6, .executed 0,
      .added 2 (timer 3 5)] (.executed 2) [] rfl 2 (timer 3 5) rfl (by simp)
    revert early
    decide

end ServerFrames
