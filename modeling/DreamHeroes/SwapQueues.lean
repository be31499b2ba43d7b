import Mathlib.Data.List.Infix
import Mathlib.Logic.Function.Basic

/- A pair of queues, one that producers fill and one that a single consumer drains. A poll
   swaps them and then takes item by item, without the lock, what the drained queue holds. -/
namespace SwapQueues

/- Where the consumer is: outside of a poll, before an item, or with the front item in hand. -/
inductive Place (Item : Type) where
  | idle
  | draining (proc : Bool)
  | holding (proc : Bool) (item : Item)
  deriving DecidableEq

/- pushed and taken are history values: the items in the order of the pushes, and the items in
   the order in which the consumer got hold of them. -/
structure Queues (Item : Type) where
  queue : Bool → List Item
  current : Bool
  place : Place Item
  pushed : List Item
  taken : List Item

variable {Item : Type} {q : Queues Item} {item : Item} {old : List Item}

/-- The queue that is being drained. -/
def Place.proc : Place Item → Option Bool
  | .idle => none
  | .draining proc => some proc
  | .holding proc _ => some proc

namespace Queues

def empty : Queues Item := ⟨fun _ => [], false, .idle, [], []⟩

def push (q : Queues Item) (item : Item) : Queues Item :=
  { q with
    queue := Function.update q.queue q.current (q.queue q.current ++ [item])
    pushed := q.pushed ++ [item] }

def poll (q : Queues Item) : Queues Item :=
  match q.place with
  | .idle =>
      if q.queue q.current = [] then q
      else { q with place := .draining q.current, current := !q.current }
  | _ => q

def take (q : Queues Item) : Queues Item :=
  match q.place with
  | .draining proc =>
      match q.queue proc with
      | [] => { q with place := .idle }
      | item :: _ => { q with place := .holding proc item, taken := q.taken ++ [item] }
  | _ => q

def pop (q : Queues Item) : Queues Item :=
  match q.place with
  | .holding proc _ =>
      { q with
        queue := Function.update q.queue proc (q.queue proc).tail
        place := .draining proc }
  | _ => q

/-- What the poll that is going on will still take. -/
def behind (q : Queues Item) : List Item :=
  match q.place with
  | .idle => []
  | .draining proc => q.queue proc
  | .holding proc _ => (q.queue proc).tail

/-- The line that the two queues stand for, the next item to be taken first. -/
def waiting (q : Queues Item) : List Item := q.behind ++ q.queue q.current

end Queues

/-- The items are taken in the order of the pushes, none of them twice and none lost, and the
queue that is not filled holds nothing outside of a poll. -/
structure Accounted (q : Queues Item) : Prop where
  order : q.pushed = q.taken ++ q.waiting
  idle : q.place = .idle → q.queue (!q.current) = []
  apart : ∀ proc, q.place.proc = some proc → proc = !q.current
  front : ∀ proc item, q.place = .holding proc item → ∃ rest, q.queue proc = item :: rest

theorem accounted_empty : Accounted (Queues.empty : Queues Item) where
  order := rfl
  idle := fun _ => rfl
  apart := by
    intro proc drained
    cases drained
  front := by
    intro proc item held
    cases held

/-- A push does not reach the queue that is not filled. -/
theorem push_other (q : Queues Item) (item : Item) :
    (q.push item).queue (!q.current) = q.queue (!q.current) := by
  simp [Queues.push]

theorem push_behind (accounted : Accounted q) (item : Item) :
    (q.push item).behind = q.behind := by
  have drained : ∀ proc, q.place.proc = some proc →
      (q.push item).queue proc = q.queue proc := by
    intro proc taking
    rw [accounted.apart proc taking]
    exact push_other q item
  have same : (q.push item).place = q.place := rfl
  simp only [Queues.behind, same]
  cases place : q.place with
  | idle => rfl
  | draining proc => exact drained proc (by rw [place]; rfl)
  | holding proc held => exact congrArg List.tail (drained proc (by rw [place]; rfl))

/-- A push joins the end of the line. -/
theorem push_waiting (accounted : Accounted q) (item : Item) :
    (q.push item).waiting = q.waiting ++ [item] := by
  have filled : (q.push item).queue q.current = q.queue q.current ++ [item] := by
    simp [Queues.push]
  have same : (q.push item).current = q.current := rfl
  simp only [Queues.waiting, push_behind accounted, same, filled, List.append_assoc]

theorem accounted_push (accounted : Accounted q) (item : Item) : Accounted (q.push item) where
  order := by
    rw [push_waiting accounted]
    simp [Queues.push, accounted.order]
  idle := by
    intro idle
    exact (push_other q item).trans (accounted.idle idle)
  apart := accounted.apart
  front := by
    intro proc held holding
    obtain ⟨rest, front⟩ := accounted.front proc held holding
    have drained : q.place.proc = some proc := congrArg Place.proc holding
    refine ⟨rest, ?_⟩
    rw [accounted.apart proc drained, push_other, ← accounted.apart proc drained, front]

/-- A poll takes charge of all that waits. -/
theorem poll_waiting (accounted : Accounted q) (idle : q.place = .idle) :
    q.poll.behind = q.waiting ∧ q.poll.waiting = q.waiting := by
  have none := accounted.idle idle
  by_cases empty : q.queue q.current = []
  · simp [Queues.poll, Queues.waiting, Queues.behind, idle, empty]
  · simp [Queues.poll, Queues.waiting, Queues.behind, idle, empty, none]

theorem accounted_poll (accounted : Accounted q) : Accounted q.poll := by
  cases place : q.place with
  | idle =>
    have line := (poll_waiting accounted place).2
    by_cases empty : q.queue q.current = []
    · simpa [Queues.poll, place, empty] using accounted
    · have swapped : q.poll = { q with place := .draining q.current, current := !q.current } := by
        simp [Queues.poll, place, empty]
      rw [swapped] at line ⊢
      refine ⟨?_, ?_, ?_, ?_⟩
      · rw [line]
        exact accounted.order
      · intro idle
        cases idle
      · intro proc drained
        cases drained
        simp
      · intro proc held holding
        cases holding
  | draining proc => simpa [Queues.poll, place] using accounted
  | holding proc held => simpa [Queues.poll, place] using accounted

/-- The consumer ends its poll or gets hold of the first of the line. -/
theorem take_cases (q : Queues Item) :
    (∃ proc, q.place = .draining proc ∧ q.queue proc = [] ∧ q.take = { q with place := .idle }) ∨
    (∃ proc item rest, q.place = .draining proc ∧ q.queue proc = item :: rest ∧
      q.take = { q with place := .holding proc item, taken := q.taken ++ [item] }) ∨
    (∀ proc, q.place ≠ .draining proc) ∧ q.take = q := by
  cases place : q.place with
  | idle => exact .inr (.inr ⟨by simp, by simp [Queues.take, place]⟩)
  | draining proc =>
    cases front : q.queue proc with
    | nil => exact .inl ⟨proc, rfl, front, by simp [Queues.take, place, front]⟩
    | cons item rest =>
      exact .inr (.inl ⟨proc, item, rest, rfl, front, by simp [Queues.take, place, front]⟩)
  | holding proc held => exact .inr (.inr ⟨by simp, by simp [Queues.take, place]⟩)

/-- What a take moves from the line to the taken items. -/
theorem take_behind (q : Queues Item) :
    q.take.taken ++ q.take.behind = q.taken ++ q.behind := by
  rcases take_cases q with ⟨proc, draining, none, took⟩ | ⟨proc, item, rest, draining, front, took⟩
    | ⟨_, same⟩
  · rw [took]
    simp [Queues.behind, draining, none]
  · rw [took]
    simp [Queues.behind, draining, front]
  · rw [same]

theorem accounted_take (accounted : Accounted q) : Accounted q.take := by
  have line : q.pushed = (q.take.taken ++ q.take.behind) ++ q.queue q.current := by
    rw [take_behind, List.append_assoc]
    exact accounted.order
  rcases take_cases q with ⟨proc, draining, none, took⟩ | ⟨proc, item, rest, draining, front, took⟩
    | ⟨_, same⟩
  · have drained := accounted.apart proc (by rw [draining]; rfl)
    rw [took] at line ⊢
    refine ⟨?_, ?_, ?_, ?_⟩
    · rw [List.append_assoc] at line
      exact line
    · intro _
      exact drained ▸ none
    · intro _ impossible
      cases impossible
    · intro _ _ impossible
      cases impossible
  · rw [took] at line ⊢
    refine ⟨?_, ?_, ?_, ?_⟩
    · rw [List.append_assoc] at line
      exact line
    · intro impossible
      cases impossible
    · intro other drained
      cases drained
      exact accounted.apart proc (by rw [draining]; rfl)
    · intro other held holding
      cases holding
      exact ⟨rest, front⟩
  · rw [same]
    exact accounted

theorem pop_behind (q : Queues Item) : q.pop.behind = q.behind := by
  cases place : q.place with
  | idle => simp [Queues.pop, place]
  | draining proc => simp [Queues.pop, place]
  | holding proc held => simp [Queues.pop, Queues.behind, place]

theorem accounted_pop (accounted : Accounted q) : Accounted q.pop := by
  cases place : q.place with
  | idle => simpa [Queues.pop, place] using accounted
  | draining proc => simpa [Queues.pop, place] using accounted
  | holding proc held =>
    have drained := accounted.apart proc (by rw [place]; rfl)
    have line := pop_behind q
    have popped : q.pop = { q with
        queue := Function.update q.queue proc (q.queue proc).tail
        place := .draining proc } := by
      simp [Queues.pop, place]
    have filled : Function.update q.queue proc (q.queue proc).tail q.current =
        q.queue q.current := by
      apply Function.update_of_ne
      rw [drained]
      simp
    rw [popped] at line ⊢
    refine ⟨?_, ?_, ?_, ?_⟩
    · simp only [Queues.waiting, line, filled]
      exact accounted.order
    · intro impossible
      cases impossible
    · intro other draining
      cases draining
      exact drained
    · intro _ _ impossible
      cases impossible

/- What was pushed before a poll is taken when the poll ends. -/

/-- The items are taken, or the poll that is going on will take them. -/
def Claimed (old : List Item) (q : Queues Item) : Prop := old <+: q.taken ++ q.behind

theorem claimed_push (accounted : Accounted q) (claimed : Claimed old q) :
    Claimed old (q.push item) := by
  unfold Claimed
  rw [push_behind accounted]
  exact claimed

theorem claimed_poll (claimed : Claimed old q) : Claimed old q.poll := by
  cases place : q.place with
  | idle =>
    have same : q.poll.taken = q.taken := by
      simp only [Queues.poll, place]
      split <;> rfl
    have none : q.behind = [] := by simp [Queues.behind, place]
    unfold Claimed at claimed ⊢
    rw [none, List.append_nil] at claimed
    rw [same]
    exact claimed.trans (List.prefix_append _ _)
  | draining proc => simpa [Queues.poll, place] using claimed
  | holding proc held => simpa [Queues.poll, place] using claimed

theorem claimed_take (claimed : Claimed old q) : Claimed old q.take := by
  unfold Claimed
  rw [take_behind]
  exact claimed

theorem claimed_pop (claimed : Claimed old q) : Claimed old q.pop := by
  have same : q.pop.taken = q.taken := by
    unfold Queues.pop
    split <;> rfl
  unfold Claimed
  rw [pop_behind, same]
  exact claimed

/-- A poll that begins claims all that was pushed before it. -/
theorem claimed_begin (accounted : Accounted q) (idle : q.place = .idle) :
    Claimed q.pushed q.poll := by
  have same : q.poll.taken = q.taken := by
    simp only [Queues.poll, idle]
    split <;> rfl
  unfold Claimed
  rw [same, (poll_waiting accounted idle).1, ← accounted.order]

theorem claimed_idle (claimed : Claimed old q) (idle : q.place = .idle) : old <+: q.taken := by
  simpa [Claimed, Queues.behind, idle] using claimed

end SwapQueues
