import Mathlib.Data.List.Basic
import Mathlib.Order.Lattice

/- A search for the least loaded of some items that is content with the first one below a
   limit. The test against the limit is made only where a new least one is found. -/
namespace LeastLoaded

variable {A L : Type} [LinearOrder L]

def search (load : A → L) (limit : L) : List A → Option A → Option A
  | [], best => best
  | a :: rest, none => if load a < limit then some a else search load limit rest (some a)
  | a :: rest, some b =>
      if load a < load b then
        if load a < limit then some a else search load limit rest (some a)
      else search load limit rest (some b)

variable {load : A → L} {limit : L} {items : List A} {best : Option A} {a : A}

theorem search_none :
    search load limit items best = none ↔ items = [] ∧ best = none := by
  induction items generalizing best with
  | nil => simp [search]
  | cons a rest ih =>
    cases best with
    | none =>
      unfold search
      split
      · simp
      · simp [ih]
    | some b =>
      unfold search
      split
      · split
        · simp
        · simp [ih]
      · simp [ih]

/-- What the search holds is never below the limit, so an item that is below it is less than what
is held and is not skipped. -/
theorem search_below (held : ∀ b, best = some b → limit ≤ load b)
    (first : items.find? (fun a => load a < limit) = some a) :
    search load limit items best = some a := by
  induction items generalizing best with
  | nil => cases first
  | cons c rest ih =>
    by_cases below : load c < limit
    · have same : c = a := by simpa [below] using first
      subst same
      cases best with
      | none => simp [search, below]
      | some b => simp [search, below, lt_of_lt_of_le below (held b rfl)]
    · have later : rest.find? (fun a => load a < limit) = some a := by simpa [below] using first
      have stays : ∀ b, some c = some b → limit ≤ load b := by
        rintro b ⟨⟩
        exact not_lt.mp below
      cases best with
      | none =>
        simp only [search, below, if_false]
        exact ih stays later
      | some b =>
        simp only [search, below, if_false]
        split
        · exact ih stays later
        · exact ih held later

/-- Where no item is below the limit, what is found is one of the items or what was held, and none
of them is less. -/
theorem search_least (full : ∀ c ∈ items, limit ≤ load c)
    (found : search load limit items best = some a) :
    (a ∈ items ∨ best = some a) ∧ (∀ c ∈ items, load a ≤ load c) ∧
      ∀ b, best = some b → load a ≤ load b := by
  induction items generalizing best with
  | nil =>
    refine ⟨.inr found, by simp, ?_⟩
    rintro b rfl
    exact le_of_eq (congrArg load (Option.some.inj found).symm)
  | cons c rest ih =>
    have above : ¬ load c < limit := not_lt.mpr (full c List.mem_cons_self)
    have others : ∀ d ∈ rest, limit ≤ load d := fun d later =>
      full d (List.mem_cons_of_mem c later)
    cases best with
    | none =>
      simp only [search, above, if_false] at found
      obtain ⟨source, least, start⟩ := ih others found
      refine ⟨.inl ?_, ?_, by simp⟩
      · rcases source with later | here
        · exact List.mem_cons_of_mem c later
        · exact Option.some.inj here ▸ List.mem_cons_self
      · exact List.forall_mem_cons.mpr ⟨start c rfl, least⟩
    | some b =>
      simp only [search, above, if_false] at found
      split at found
      · rename_i less
        obtain ⟨source, least, start⟩ := ih others found
        refine ⟨.inl ?_, List.forall_mem_cons.mpr ⟨start c rfl, least⟩, ?_⟩
        · rcases source with later | here
          · exact List.mem_cons_of_mem c later
          · exact Option.some.inj here ▸ List.mem_cons_self
        · rintro b' ⟨⟩
          exact le_trans (start c rfl) (le_of_lt less)
      · rename_i notLess
        obtain ⟨source, least, start⟩ := ih others found
        refine ⟨?_, List.forall_mem_cons.mpr ⟨?_, least⟩, start⟩
        · rcases source with later | held
          · exact .inl (List.mem_cons_of_mem c later)
          · exact .inr held
        · exact le_trans (start b rfl) (not_lt.mp notLess)

end LeastLoaded
