import Mathlib.Data.List.Perm.Subperm
import Mathlib.Data.List.Nodup

/- Substitution tables: an element of one list stands for the element at its position in
   another. That two tables have the same elements is read off two numbers. -/
namespace Substitutions

/-- A number with the bit of each element. -/
def mask (l : List Nat) : Nat := l.foldl (fun bits n => bits ||| 1 <<< n) 0

theorem testBit_foldl (l : List Nat) (bits n : Nat) :
    (l.foldl (fun bits n => bits ||| 1 <<< n) bits).testBit n =
      (bits.testBit n || decide (n ∈ l)) := by
  induction l generalizing bits with
  | nil => simp
  | cons first rest ih =>
    rw [List.foldl_cons, ih, Nat.testBit_or, Nat.one_shiftLeft, Nat.testBit_two_pow, Bool.or_assoc]
    congr 1
    by_cases here : first = n
    · simp [here]
    · simp [here, Ne.symm here]

theorem testBit_mask (l : List Nat) (n : Nat) : (mask l).testBit n = decide (n ∈ l) := by
  rw [mask, testBit_foldl]
  simp

/-- A list as long as one without duplicates, with the same mask, is a permutation of it. -/
theorem perm_of_mask {src dst : List Nat} (nodup : src.Nodup) (length : dst.length = src.length)
    (same : mask dst = mask src) : src.Perm dst := by
  have inside : src ⊆ dst := by
    intro n member
    have bit : (mask dst).testBit n = true := by
      rw [same, testBit_mask]
      simpa using member
    rw [testBit_mask] at bit
    simpa using bit
  exact (List.subperm_of_subset nodup inside).perm_of_length_le (Nat.le_of_eq length)

/-- Lists of one length that are laid out one after another are sliced out by their offsets. -/
theorem slice_flatten {α : Type} {rows : List (List α)} {size i : Nat} {row : List α}
    (sizes : ∀ row ∈ rows, row.length = size) (here : rows[i]? = some row) :
    (rows.flatten.drop (i * size)).take size = row := by
  induction rows generalizing i with
  | nil => cases here
  | cons first rest ih =>
    obtain ⟨length, later⟩ := List.forall_mem_cons.mp sizes
    rw [List.flatten_cons]
    cases i with
    | zero =>
      cases here
      rw [Nat.zero_mul, List.drop_zero, ← length, List.take_left]
    | succ i =>
      have skip : (i + 1) * size = first.length + i * size := by
        rw [length, Nat.add_mul, Nat.one_mul, Nat.add_comm]
      rw [skip, ← List.drop_drop, List.drop_left]
      exact ih later here

section Across

variable {α : Type} {src dst : List α} {a b : α} {s r : List α}

/-- Two tables of the same elements, none of them twice. -/
structure Paired (src dst : List α) : Prop where
  nodup : src.Nodup
  perm : src.Perm dst

theorem Paired.symm (paired : Paired src dst) : Paired dst src :=
  ⟨paired.perm.nodup_iff.mp paired.nodup, paired.perm.symm⟩

variable [DecidableEq α]

/-- The element of dst at the first position of a in src. -/
def across (src dst : List α) (a : α) : Option α := (src.idxOf? a).bind fun i => dst[i]?

theorem idxOf?_iff {l : List α} (nodup : l.Nodup) {i : Nat} :
    l.idxOf? a = some i ↔ l[i]? = some a := by
  rw [List.idxOf?_eq_some_iff, List.getElem?_eq_some_iff]
  constructor
  · intro ⟨inside, here, _⟩
    exact ⟨inside, here⟩
  · intro ⟨inside, here⟩
    refine ⟨inside, here, ?_⟩
    intro j before same
    have twice : j = i := nodup.getElem_inj_iff.mp (same.trans here.symm)
    omega

theorem across_eq_some (nodup : src.Nodup) :
    across src dst a = some b ↔ ∃ i : Nat, src[i]? = some a ∧ dst[i]? = some b := by
  rw [across, Option.bind_eq_some_iff]
  constructor
  · intro ⟨i, here, there⟩
    exact ⟨i, (idxOf?_iff nodup).mp here, there⟩
  · intro ⟨i, here, there⟩
    exact ⟨i, (idxOf?_iff nodup).mpr here, there⟩

theorem across_symm (paired : Paired src dst) :
    across src dst a = some b ↔ across dst src b = some a := by
  rw [across_eq_some paired.nodup, across_eq_some paired.symm.nodup]
  constructor
  · intro ⟨i, here, there⟩
    exact ⟨i, there, here⟩
  · intro ⟨i, there, here⟩
    exact ⟨i, here, there⟩

theorem across_mem (found : across src dst a = some b) : b ∈ dst := by
  obtain ⟨i, _, here⟩ := Option.bind_eq_some_iff.mp found
  exact List.mem_of_getElem? here

theorem across_eq_none (length : src.length = dst.length) :
    across src dst a = none ↔ a ∉ src := by
  rw [across, Option.bind_eq_none_iff]
  constructor
  · intro none member
    obtain ⟨i, found⟩ := Option.isSome_iff_exists.mp (List.isSome_idxOf?.mpr member)
    obtain ⟨inside, _⟩ := List.idxOf?_eq_some_iff.mp found
    have outside := List.getElem?_eq_none_iff.mp (none i found)
    omega
  · intro absent i found
    rw [List.idxOf?_eq_none_iff.mpr absent] at found
    cases found

/-- Every element of a list, if all of them stand in src. -/
def acrossAll (src dst s : List α) : Option (List α) := s.mapM (across src dst)

theorem acrossAll_cons : acrossAll src dst (a :: s) =
    (across src dst a).bind fun b => (acrossAll src dst s).map fun t => b :: t := by
  rw [acrossAll, acrossAll, List.mapM_cons]
  cases across src dst a with
  | none => rfl
  | some b => exact Option.map_eq_bind.symm

theorem acrossAll_cons_some : acrossAll src dst (a :: s) = some r ↔
    ∃ b t, across src dst a = some b ∧ acrossAll src dst s = some t ∧ b :: t = r := by
  simp only [acrossAll_cons, Option.bind_eq_some_iff, Option.map_eq_some_iff]
  constructor
  · intro ⟨b, here, t, rest, same⟩
    exact ⟨b, t, here, rest, same⟩
  · intro ⟨b, t, here, rest, same⟩
    exact ⟨b, here, t, rest, same⟩

theorem acrossAll_symm (paired : Paired src dst) (found : acrossAll src dst s = some r) :
    acrossAll dst src r = some s := by
  induction s generalizing r with
  | nil =>
    cases found
    rfl
  | cons a s ih =>
    obtain ⟨b, t, here, rest, rfl⟩ := acrossAll_cons_some.mp found
    exact acrossAll_cons_some.mpr ⟨a, s, (across_symm paired).mp here, ih rest, rfl⟩

theorem acrossAll_length (found : acrossAll src dst s = some r) : r.length = s.length := by
  induction s generalizing r with
  | nil =>
    cases found
    rfl
  | cons a s ih =>
    obtain ⟨b, t, _, rest, rfl⟩ := acrossAll_cons_some.mp found
    rw [List.length_cons, List.length_cons, ih rest]

theorem acrossAll_isSome (length : src.length = dst.length) :
    (∃ r, acrossAll src dst s = some r) ↔ ∀ a ∈ s, a ∈ src := by
  induction s with
  | nil => simp [acrossAll]
  | cons a s ih =>
    constructor
    · intro ⟨r, found⟩
      obtain ⟨b, t, here, rest, _⟩ := acrossAll_cons_some.mp found
      have first : a ∈ src := by
        by_contra absent
        rw [(across_eq_none length).mpr absent] at here
        cases here
      exact List.forall_mem_cons.mpr ⟨first, ih.mp ⟨t, rest⟩⟩
    · intro all
      obtain ⟨first, later⟩ := List.forall_mem_cons.mp all
      obtain ⟨t, rest⟩ := ih.mpr later
      cases here : across src dst a with
      | none => exact absurd first ((across_eq_none length).mp here)
      | some b => exact ⟨b :: t, acrossAll_cons_some.mpr ⟨b, t, here, rest, rfl⟩⟩

end Across

end Substitutions
