import Mathlib.Data.List.Infix
import Mathlib.Data.List.Nodup

/- A line of jobs: a job is accepted into a queue, fetched by one of several servers, yielded
   as a result, taken with a batch of results and finished. -/
namespace TaskLines

structure Line (Job : Type) where
  accepted : List Job
  queued : List Job
  held : List Job
  results : List Job
  batch : List Job
  finished : List Job

variable {Job : Type} {l l' : Line Job} {job : Job}

/-- The accepted jobs that are not finished, the oldest first if there is one server. -/
def Line.pending (l : Line Job) : List Job := l.batch ++ l.results ++ l.held ++ l.queued

inductive Move : Line Job → Line Job → Prop where
  | stay (l : Line Job) : Move l l
  | accept (l : Line Job) (job : Job) :
      Move l { l with accepted := l.accepted ++ [job], queued := l.queued ++ [job] }
  | fetch {l : Line Job} {job : Job} {rest held : List Job} (first : l.queued = job :: rest)
      (perm : held.Perm (job :: l.held)) : Move l { l with queued := rest, held := held }
  | yield {l : Line Job} {job : Job} {held : List Job} (perm : l.held.Perm (job :: held)) :
      Move l { l with held := held, results := l.results ++ [job] }
  | take {l : Line Job} (free : l.batch = []) :
      Move l { l with batch := l.results, results := [] }
  | finish {l : Line Job} {job : Job} {rest : List Job} (first : l.batch = job :: rest) :
      Move l { l with batch := rest, finished := l.finished ++ [job] }

/-- Every accepted job is in exactly one place. -/
def Conserved (l : Line Job) : Prop := l.accepted.Perm (l.finished ++ l.pending)

/-- The jobs are finished in the order they were accepted. -/
def InOrder (l : Line Job) : Prop := l.accepted = l.finished ++ l.pending

theorem conserved_move (move : Move l l') (conserved : Conserved l) : Conserved l' := by
  unfold Conserved Line.pending at conserved ⊢
  cases move with
  | stay => exact conserved
  | accept job =>
    have longer := conserved.append_right [job]
    simpa using longer
  | fetch first perm =>
    rw [first] at conserved
    refine conserved.trans ?_
    simp only [List.append_assoc]
    refine List.Perm.append_left _ (List.Perm.append_left _ (List.Perm.append_left _ ?_))
    exact List.perm_middle.trans (perm.symm.append_right _)
  | yield perm =>
    refine conserved.trans ?_
    simp only [List.append_assoc]
    refine List.Perm.append_left _ (List.Perm.append_left _ (List.Perm.append_left _ ?_))
    exact perm.append_right _
  | take free => simpa [free] using conserved
  | finish first => simpa [first] using conserved

/-- A server that fetches a job when there is only room for one held none before. -/
theorem perm_single {held : List Job} (perm : held.Perm (job :: l.held))
    (single : held.length ≤ 1) : l.held = [] ∧ held = [job] := by
  have length := perm.length_eq
  simp only [List.length_cons] at length
  have none : l.held = [] := List.eq_nil_of_length_eq_zero (by omega)
  rw [none] at perm
  exact ⟨none, List.perm_singleton.mp perm⟩

theorem inOrder_move (move : Move l l') (before : l.held.length ≤ 1) (after : l'.held.length ≤ 1)
    (inOrder : InOrder l) : InOrder l' := by
  unfold InOrder Line.pending at inOrder ⊢
  cases move with
  | stay => exact inOrder
  | accept job => simp [inOrder]
  | fetch first perm =>
    obtain ⟨none, one⟩ := perm_single perm after
    simp [inOrder, first, none, one]
  | yield perm =>
    have length := perm.length_eq
    simp only [List.length_cons] at length
    rename_i job held
    have none : held = [] := List.eq_nil_of_length_eq_zero (by omega)
    subst none
    simp [inOrder, List.perm_singleton.mp perm]
  | take free => simp [inOrder, free]
  | finish first => simp [inOrder, first]

/-- Nothing but a new job makes a job pending once every job is finished. -/
theorem pending_nil_move (move : Move l l') (none : l.pending = [])
    (same : l'.accepted = l.accepted) :
    l'.pending = [] := by
  obtain ⟨batch, results, held, queued⟩ : l.batch = [] ∧ l.results = [] ∧ l.held = [] ∧
      l.queued = [] := by simpa [Line.pending] using none
  cases move with
  | stay => exact none
  | accept job => simp at same
  | fetch first _ => simp [queued] at first
  | yield perm => simp [held] at perm
  | take _ => simp [Line.pending, results, held, queued]
  | finish first => simp [batch] at first

/-- Nor does anything but a new job give the servers work once they have none. -/
theorem drained_move (move : Move l l') (queued : l.queued = []) (held : l.held = [])
    (same : l'.accepted = l.accepted) : l'.queued = [] ∧ l'.held = [] := by
  cases move with
  | stay => exact ⟨queued, held⟩
  | accept job => simp at same
  | fetch first _ => simp [queued] at first
  | yield perm => simp [held] at perm
  | take _ => exact ⟨queued, held⟩
  | finish _ => exact ⟨queued, held⟩

theorem finished_prefix (inOrder : InOrder l) : l.finished <+: l.accepted := by
  rw [inOrder]
  exact List.prefix_append _ _

/-- An accepted job is finished exactly if it is not pending. -/
theorem conserved_pending_iff (conserved : Conserved l) (distinct : l.accepted.Nodup) :
    l.pending = [] ↔ ∀ job ∈ l.accepted, job ∈ l.finished := by
  have once := conserved.nodup_iff.mp distinct
  constructor
  · intro none job member
    have placed := conserved.mem_iff.mp member
    simpa [none] using placed
  · intro finished
    refine List.eq_nil_iff_forall_not_mem.mpr ?_
    intro job member
    have accepted : job ∈ l.accepted := conserved.mem_iff.mpr (by simp [member])
    exact (List.nodup_append.mp once).2.2 job (finished job accepted) job member rfl

end TaskLines
