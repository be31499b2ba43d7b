import Mathlib.Algebra.GroupWithZero.Nat

/- A std::list while one loop walks it. The loop takes `it2 = itr++` first, so the node it works
   on may be erased and nodes may be appended; an iterator that is end() stays end(). -/
namespace WalkedLists

/- kept: nodes the loop is done with; current: the node at it2; ahead: the nodes from itr on;
   late: nodes appended when itr was end() already. -/
structure WalkedList (α : Type) where
  kept : List α
  current : Option α
  ahead : List α
  late : List α
  ended : ahead = [] ∨ late = []
  deriving DecidableEq, Repr

namespace WalkedList

variable {α : Type}

def empty : WalkedList α := ⟨[], none, [], [], .inl rfl⟩

/-- The nodes in list order. -/
def toList (list : WalkedList α) : List α :=
  list.kept ++ list.current.toList ++ list.ahead ++ list.late

def pushBack (list : WalkedList α) (a : α) : WalkedList α :=
  match list with
  | ⟨kept, current, [], late, _⟩ => ⟨kept, current, [], late ++ [a], .inl rfl⟩
  | ⟨kept, current, next :: rest, _, _⟩ => ⟨kept, current, next :: rest ++ [a], [], .inr rfl⟩

/-- The loop starts: itr is begin(). -/
def start (list : WalkedList α) : WalkedList α := ⟨[], none, list.toList, [], .inr rfl⟩

/-- `it2 = itr++` -/
def next (list : WalkedList α) : WalkedList α :=
  ⟨list.kept, list.ahead.head?, list.ahead.tail, list.late, by
    rcases list.ended with done | none
    · exact .inl (by simp [done])
    · exact .inr none⟩

/-- The loop is done with the node at it2. -/
def keep (list : WalkedList α) : WalkedList α :=
  ⟨list.kept ++ list.current.toList, none, list.ahead, list.late, list.ended⟩

/-- Erases the node at it2. -/
def erase (list : WalkedList α) : WalkedList α :=
  ⟨list.kept, none, list.ahead, list.late, list.ended⟩

variable {list : WalkedList α} {a : α}

@[simp] theorem toList_empty : (empty : WalkedList α).toList = [] := rfl

@[simp] theorem toList_pushBack : (list.pushBack a).toList = list.toList ++ [a] := by
  obtain ⟨kept, current, ahead, late, ended⟩ := list
  cases ahead with
  | nil => simp [pushBack, toList]
  | cons next rest =>
    have none : late = [] := by simpa using ended
    simp [pushBack, toList, none]

@[simp] theorem pushBack_current : (list.pushBack a).current = list.current := by
  obtain ⟨kept, current, ahead, late, ended⟩ := list
  cases ahead <;> rfl

theorem pushBack_ahead :
    (list.pushBack a).ahead = if list.ahead = [] then [] else list.ahead ++ [a] := by
  obtain ⟨kept, current, ahead, late, ended⟩ := list
  cases ahead <;> rfl

@[simp] theorem toList_start : list.start.toList = list.toList := by simp [start, toList]

theorem toList_next (idle : list.current = none) : list.next.toList = list.toList := by
  simp only [next, toList, idle]
  cases list.ahead <;> simp

@[simp] theorem toList_keep : list.keep.toList = list.toList := by simp [keep, toList]

theorem toList_erase_perm (here : list.current = some a) :
    list.toList.Perm (a :: list.erase.toList) := by
  simp only [toList, erase, here, Option.toList_some, Option.toList_none, List.append_nil,
    List.append_assoc, List.singleton_append]
  exact List.perm_middle

theorem mem_of_current (here : list.current = some a) : a ∈ list.toList :=
  (toList_erase_perm here).mem_iff.mpr List.mem_cons_self

theorem ahead_subset : list.ahead ⊆ list.toList := by
  intro a member
  simp [toList, member]

end WalkedList

/-- Changing one element of a list changes a sum over it by as much. -/
theorem sum_map_set {β : Type} {l : List β} {i : Nat} {old : β} (f : β → Nat) (new : β)
    (here : l[i]? = some old) : ((l.set i new).map f).sum + f old = (l.map f).sum + f new := by
  induction l generalizing i with
  | nil => cases here
  | cons first rest ih =>
    cases i with
    | zero =>
      simp only [List.getElem?_cons_zero, Option.some.injEq] at here
      subst here
      simp only [List.set_cons_zero, List.map_cons, List.sum_cons]
      omega
    | succ i =>
      have later := ih (by simpa using here)
      simp only [List.set_cons_succ, List.map_cons, List.sum_cons]
      omega

end WalkedLists
