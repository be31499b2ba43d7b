import DreamHeroes.LabelledRuns
import DreamHeroes.OrderedMaps
import DreamHeroes.WalkedLists
import Mathlib.Data.List.Sort
import Mathlib.Logic.Function.Basic

/- EventableObject, EventableObjectHolder and EventMgr: an event is shared by the table of the
   object that added it and the list of the holder that fires it. The calls of an update are
   made one after another and may add, remove and destroy before they return. -/
namespace EventTables

open OrderedMaps WalkedLists LabelledRuns

abbrev EventPtr := Nat
abbrev ObjectPtr := Nat
abbrev HolderPtr := Nat
abbrev Callback := Nat

def eventFlagDoNotExecuteInWorldContext : Nat := 0x1
def eventFlagDeletesObject : Nat := 0x2
def eventRemovalFlagAll : Nat := 0xFFFFFFFF
def worldInstance : Int := -1

/-- instanceId is not set by the constructor. -/
structure TimedEvent where
  cb : Option Callback
  eventType : Nat
  eventFlag : Nat
  msTime : Nat
  currTime : Nat
  repeats : Int32
  deleted : Bool
  instanceId : Int
  ref : Int
  deriving DecidableEq, Repr

def TimedEvent.new (callback : Callback) (type time : Nat) (repeats : Int32) (flags : Nat) :
    TimedEvent where
  cb := some callback
  eventType := type
  eventFlag := flags % 2 ^ 16
  msTime := time
  currTime := time
  repeats := repeats
  deleted := false
  instanceId := 0
  ref := 0

/-- `ev->repeats && --ev->repeats` -/
def TimedEvent.countRepeat (ev : TimedEvent) : TimedEvent :=
  if ev.repeats = 0 then ev else { ev with repeats := ev.repeats - 1 }

def TimedEvent.hasFlag (ev : TimedEvent) (flag : Nat) : Bool := ev.eventFlag &&& flag ≠ 0

/-- m_events is a multimap: its entries in key order, equal keys in the order of insertion. -/
structure EventableObject where
  eventInstanceid : Int
  events : List (Nat × EventPtr)
  holder : Option HolderPtr
  deriving DecidableEq, Repr

structure EventableObjectHolder where
  instanceId : Int
  events : WalkedList EventPtr
  deriving DecidableEq, Repr

inductive Fault where
  | freedEvent
  | noHolder
  deriving DecidableEq, Repr

/-- What the properties speak of; no function reads it. An event is added as it is made, with the
instance of its object. -/
inductive Moment where
  | added (ptr : EventPtr) (ev : TimedEvent)
  | removed (ptr : EventPtr)
  | executed (ptr : EventPtr)
  | measured (milliseconds : Int)
  deriving DecidableEq, Repr

abbrev Heap := EventPtr → Option TimedEvent

/- heap: the events that are not freed. An object is none once it is destroyed. updating: the
   holder whose update runs and its time_difference; a callback runs while the list of that
   holder has a current node. -/
structure Tables where
  heap : Heap
  nextEvent : EventPtr
  objects : List (Option EventableObject)
  holders : List EventableObjectHolder
  holderMap : OrderedMap Int HolderPtr
  updating : Option (HolderPtr × Nat)
  history : List Moment

def start : Tables := ⟨fun _ => none, 0, [], [], .empty, none, []⟩

def deref (heap : Heap) (ptr : EventPtr) : Except Fault TimedEvent :=
  match heap ptr with
  | some ev => .ok ev
  | none => .error .freedEvent

def incRef (heap : Heap) (ptr : EventPtr) : Except Fault Heap := do
  let ev ← deref heap ptr
  pure (Function.update heap ptr (some { ev with ref := ev.ref + 1 }))

def decRef (heap : Heap) (ptr : EventPtr) : Except Fault Heap := do
  let ev ← deref heap ptr
  if ev.ref - 1 ≤ 0 then pure (Function.update heap ptr none)
  else pure (Function.update heap ptr (some { ev with deleted := true, ref := ev.ref - 1 }))

def decRefAll : Heap → List EventPtr → Except Fault Heap
  | heap, [] => .ok heap
  | heap, ptr :: rest => do decRefAll (← decRef heap ptr) rest

namespace Tables

def getEventHolder (s : Tables) (instanceId : Int) : Option HolderPtr :=
  s.holderMap.find? instanceId

/-- EventableObjectHolder::EventableObjectHolder; the map keeps the holder it has. -/
def newHolder (s : Tables) (instanceId : Int) : Tables :=
  { s with
    holders := s.holders ++ [⟨instanceId, .empty⟩]
    holderMap := if (s.getEventHolder instanceId).isSome then s.holderMap
      else s.holderMap.insert instanceId s.holders.length }

def newObject (s : Tables) : Tables :=
  { s with objects := s.objects ++ [some ⟨-1, [], none⟩] }

/-- EventableObjectHolder::addEvent -/
def addEvent (s : Tables) (h : HolderPtr) (ptr : EventPtr) : Except Fault Tables :=
  match s.holders[h]? with
  | none => .error .noHolder
  | some holder => do
    let heap ← incRef s.heap ptr
    pure { s with
      heap := heap
      holders := s.holders.set h { holder with events := holder.events.pushBack ptr } }

end Tables

/-- The first lookup of eventAddEvent; instanceId is what eventGetInstanceID returns. -/
def EventableObject.locate (obj : EventableObject) (s : Tables) (instanceId : Int) :
    EventableObject :=
  if obj.holder.isNone then
    { obj with eventInstanceid := instanceId, holder := s.getEventHolder instanceId }
  else obj

def EventableObject.insertEvent (obj : EventableObject) (type : Nat) (ptr : EventPtr) :
    EventableObject :=
  { obj with events := obj.events.orderedInsert (fun a b => a.1 < b.1) (type, ptr) }

/-- The lookup for an object whose instance has no holder. -/
def EventableObject.fallBack (obj : EventableObject) (s : Tables) : EventableObject :=
  if obj.holder.isNone then
    { obj with eventInstanceid := -1, holder := s.getEventHolder (-1) }
  else obj

namespace Tables

def eventAddEvent (s : Tables) (o : ObjectPtr) (obj : EventableObject) (instanceId : Int)
    (ptr : EventPtr) : Except Fault Tables := do
  let located := obj.locate s instanceId
  let heap ← incRef s.heap ptr
  let ev ← deref heap ptr
  let heap := Function.update heap ptr (some { ev with instanceId := located.eventInstanceid })
  let obj := (located.insertEvent ev.eventType ptr).fallBack s
  match obj.holder with
  | none => .error .noHolder
  | some h => addEvent { s with heap := heap, objects := s.objects.set o (some obj) } h ptr

/-- EventMgr::addEvent -/
def newEvent (s : Tables) (o : ObjectPtr) (obj : EventableObject) (instanceId : Int)
    (ev : TimedEvent) : Except Fault Tables :=
  eventAddEvent { s with
    heap := Function.update s.heap s.nextEvent (some ev)
    nextEvent := s.nextEvent + 1
    history := s.history ++ [.added s.nextEvent
      { ev with instanceId := (obj.locate s instanceId).eventInstanceid }] }
    o obj instanceId s.nextEvent

/-- decRef of entries that leave the table of an object. -/
def take (s : Tables) (o : ObjectPtr) (obj : Option EventableObject) (ptrs : List EventPtr) :
    Except Fault Tables := do
  let heap ← decRefAll s.heap ptrs
  pure { s with
    heap := heap
    objects := s.objects.set o obj
    history := s.history ++ ptrs.map .removed }

def eventRemoveEvents (s : Tables) (o : ObjectPtr) (obj : EventableObject) (type : Nat) :
    Except Fault Tables :=
  if type = eventRemovalFlagAll then
    s.take o (some { obj with events := [] }) (obj.events.map (·.2))
  else
    s.take o (some { obj with events := obj.events.filter (·.1 ≠ type) })
      ((obj.events.filter (·.1 = type)).map (·.2))

def eventRemoveByPointer (s : Tables) (o : ObjectPtr) (obj : EventableObject) (ptr : EventPtr) :
    Except Fault Tables := do
  let ev ← deref s.heap ptr
  if (ev.eventType, ptr) ∈ obj.events then
    s.take o (some { obj with events := obj.events.erase (ev.eventType, ptr) }) [ptr]
  else pure s

/-- EventableObject::~EventableObject -/
def destroy (s : Tables) (o : ObjectPtr) (obj : EventableObject) : Except Fault Tables :=
  s.take o none (obj.events.map (·.2))

/-- EventableObjectHolder::addObject -/
def addObject (s : Tables) (h : HolderPtr) : List (Nat × EventPtr) → Except Fault Tables
  | [] => .ok s
  | entry :: rest =>
      match s.holders[h]? with
      | none => .error .noHolder
      | some holder => do
        let ev ← deref s.heap entry.2
        if ev.deleted ∨ (holder.instanceId = worldInstance ∧
            ev.hasFlag eventFlagDoNotExecuteInWorldContext) then
          addObject s h rest
        else
          let moved := { ev with ref := ev.ref + 1, instanceId := holder.instanceId }
          addObject { s with
            heap := Function.update s.heap entry.2 (some moved)
            holders := s.holders.set h
              { holder with events := holder.events.pushBack entry.2 } } h rest

def eventRelocate (s : Tables) (o : ObjectPtr) (obj : EventableObject) (instanceId : Int) :
    Except Fault Tables :=
  if s.getEventHolder instanceId = obj.holder then .ok s
  else
    match (s.getEventHolder instanceId).or (s.getEventHolder (-1)) with
    | none => .error .noHolder
    | some h =>
        match s.holders[h]? with
        | none => .error .noHolder
        | some holder =>
            addObject { s with
              objects := s.objects.set o
                (some { obj with eventInstanceid := holder.instanceId, holder := some h }) } h
              obj.events

/-- decRef and erase of the node the update is at. -/
def drop (s : Tables) (h : HolderPtr) (holder : EventableObjectHolder) (ptr : EventPtr) :
    Except Fault Tables := do
  let heap ← decRef s.heap ptr
  pure { s with
    heap := heap
    holders := s.holders.set h { holder with events := holder.events.erase } }

end Tables

/-- The events an update drops unseen. -/
def EventableObjectHolder.discards (holder : EventableObjectHolder) (ev : TimedEvent) : Bool :=
  ev.instanceId ≠ holder.instanceId ∨ ev.deleted ∨
    (holder.instanceId = worldInstance ∧ ev.hasFlag eventFlagDoNotExecuteInWorldContext)

namespace Tables

/-- One turn of the loop in EventableObjectHolder::update, up to the callback. -/
def visit (s : Tables) (h : HolderPtr) (timeDifference : Nat) (holder : EventableObjectHolder) :
    Except Fault Tables :=
  match holder.events.ahead with
  | [] => .ok { s with updating := none }
  | ptr :: _ => do
    let ev ← deref s.heap ptr
    let entered := { holder with events := holder.events.next }
    if holder.discards ev then s.drop h entered ptr
    else if ev.currTime ≤ timeDifference then
      match ev.cb with
      | none => s.drop h entered ptr
      | some _ =>
          .ok { s with
            holders := s.holders.set h entered
            history := s.history ++ [.executed ptr] }
    else
      .ok { s with
        heap := Function.update s.heap ptr
          (some { ev with currTime := ev.currTime - timeDifference })
        holders := s.holders.set h { entered with events := entered.events.keep } }

/-- The rest of the turn, once the callback of the current node has returned. -/
def finish (s : Tables) (h : HolderPtr) (holder : EventableObjectHolder) (ptr : EventPtr) :
    Except Fault Tables := do
  let ev ← deref s.heap ptr
  if ev.hasFlag eventFlagDeletesObject then s.drop h holder ptr
  else
    let counted := ev.countRepeat
    if (ev.repeats ≠ 0 ∧ counted.repeats = 0) ∨ counted.deleted then
      drop { s with heap := Function.update s.heap ptr (some counted) } h holder ptr
    else
      pure { s with
        heap := Function.update s.heap ptr (some { counted with currTime := counted.msTime })
        holders := s.holders.set h { holder with events := holder.events.keep } }

/-- Not inside an update, or inside a callback of one. -/
def callable (s : Tables) : Bool :=
  match s.updating with
  | none => true
  | some (h, _) => (s.holders[h]?.bind (·.events.current)).isSome

end Tables

inductive Act where
  | newHolder (instanceId : Int)
  | newObject
  | addEvent (o : ObjectPtr) (instanceId : Int) (cb : Callback) (type time : Nat) (repeats : Int32)
      (flags : Nat)
  | removeEvents (o : ObjectPtr) (type : Nat)
  | removeByPointer (o : ObjectPtr) (ptr : EventPtr)
  | destroy (o : ObjectPtr)
  | relocate (o : ObjectPtr) (instanceId : Int)
  | update (h : HolderPtr) (timeDifference : Nat)
  | visit
  | finish
  deriving DecidableEq, Repr

namespace Tables

def call (s : Tables) (o : ObjectPtr) (f : EventableObject → Except Fault Tables) :
    Except Fault Tables :=
  match s.callable, s.objects[o]? with
  | true, some (some obj) => f obj
  | _, _ => .ok s

/-- What has no caller leaves the tables alone: a call on an object that is destroyed or not
built, a pointer to a freed event, a callback that returns when none runs. -/
def act (s : Tables) : Act → Except Fault Tables
  | .newHolder instanceId => .ok (s.newHolder instanceId)
  | .newObject => .ok s.newObject
  | .addEvent o instanceId cb type time repeats flags =>
      s.call o fun obj => s.newEvent o obj instanceId (.new cb type time repeats flags)
  | .removeEvents o type => s.call o fun obj => s.eventRemoveEvents o obj type
  | .removeByPointer o ptr =>
      s.call o fun obj =>
        if (s.heap ptr).isSome then s.eventRemoveByPointer o obj ptr else .ok s
  | .destroy o => s.call o fun obj => s.destroy o obj
  | .relocate o instanceId => s.call o fun obj => s.eventRelocate o obj instanceId
  | .update h timeDifference =>
      match s.updating, s.holders[h]? with
      | none, some holder =>
          .ok { s with
            updating := some (h, timeDifference)
            holders := s.holders.set h { holder with events := holder.events.start } }
      | _, _ => .ok s
  | .visit =>
      match s.updating with
      | none => .ok s
      | some (h, timeDifference) =>
          match s.holders[h]? with
          | none => .ok s
          | some holder =>
              if holder.events.current.isSome then .ok s
              else s.visit h timeDifference holder
  | .finish =>
      match s.updating with
      | none => .ok s
      | some (h, _) =>
          match s.holders[h]? with
          | none => .ok s
          | some holder =>
              match holder.events.current with
              | none => .ok s
              | some ptr => s.finish h holder ptr

end Tables

def step (state : Except Fault Tables) (a : Act) : Except Fault Tables := do (← state).act a

end EventTables
