import Mathlib.Order.Lattice
import Mathlib.Data.List.Basic

/- Finite maps as lists of entries in increasing key order, the way std::map iterates. -/
namespace OrderedMaps

variable {K V : Type} [LinearOrder K]

structure OrderedMap (K V : Type) [LinearOrder K] where
  entries : List (K × V)
  sorted : entries.Pairwise fun a b => a.1 < b.1

def insertEntry (k : K) (v : V) : List (K × V) → List (K × V)
  | [] => [(k, v)]
  | entry :: rest =>
      if k < entry.1 then (k, v) :: entry :: rest
      else if k = entry.1 then (k, v) :: rest
      else entry :: insertEntry k v rest

def lookup (k : K) (entries : List (K × V)) : Option V :=
  (entries.find? fun entry => entry.1 = k).map (·.2)

theorem mem_insertEntry {k : K} {v : V} {entries : List (K × V)} {entry : K × V}
    (member : entry ∈ insertEntry k v entries) : entry = (k, v) ∨ entry ∈ entries := by
  induction entries with
  | nil => simpa [insertEntry] using member
  | cons first rest ih =>
    unfold insertEntry at member
    split at member
    · simpa using member
    · split at member
      · rcases List.mem_cons.mp member with same | later
        · exact .inl same
        · exact .inr (List.mem_cons_of_mem first later)
      · rcases List.mem_cons.mp member with same | later
        · exact .inr (same ▸ List.mem_cons_self)
        · rcases ih later with same | old
          · exact .inl same
          · exact .inr (List.mem_cons_of_mem first old)

theorem insertEntry_sorted {k : K} {v : V} {entries : List (K × V)}
    (sorted : entries.Pairwise fun a b => a.1 < b.1) :
    (insertEntry k v entries).Pairwise fun a b => a.1 < b.1 := by
  induction entries with
  | nil => simp [insertEntry]
  | cons first rest ih =>
    obtain ⟨above, tail⟩ := List.pairwise_cons.mp sorted
    unfold insertEntry
    split
    · rename_i before
      refine List.pairwise_cons.mpr ⟨?_, sorted⟩
      intro entry member
      rcases List.mem_cons.mp member with same | later
      · exact same ▸ before
      · exact lt_trans before (above entry later)
    · split
      · rename_i same
        exact List.pairwise_cons.mpr ⟨fun entry later => same ▸ above entry later, tail⟩
      · rename_i notBefore notSame
        refine List.pairwise_cons.mpr ⟨?_, ih tail⟩
        intro entry member
        rcases mem_insertEntry member with rfl | old
        · exact lt_of_le_of_ne (le_of_not_gt notBefore) (Ne.symm notSame)
        · exact above entry old

theorem lookup_insertEntry (k key : K) (v : V) (entries : List (K × V)) :
    lookup key (insertEntry k v entries) = if k = key then some v else lookup key entries := by
  induction entries with
  | nil => by_cases here : k = key <;> simp [insertEntry, lookup, here]
  | cons first rest ih =>
    unfold insertEntry
    split
    · by_cases here : k = key <;> simp [lookup, here]
    · split
      · rename_i same
        by_cases here : k = key
        · simp [lookup, here]
        · have other : ¬ first.1 = key := same ▸ here
          simp [lookup, here, other]
      · by_cases first' : first.1 = key
        · rename_i notSame
          have other : ¬ k = key := fun here => notSame (here.trans first'.symm)
          simp [lookup, first', other]
        · simp only [lookup] at ih
          simp [lookup, first', ih]

namespace OrderedMap

def empty : OrderedMap K V := ⟨[], List.Pairwise.nil⟩

def find? (m : OrderedMap K V) (k : K) : Option V := lookup k m.entries

def insert (m : OrderedMap K V) (k : K) (v : V) : OrderedMap K V :=
  ⟨insertEntry k v m.entries, insertEntry_sorted m.sorted⟩

def filter (m : OrderedMap K V) (keep : K → V → Bool) : OrderedMap K V :=
  ⟨m.entries.filter fun entry => keep entry.1 entry.2, m.sorted.filter _⟩

def erase (m : OrderedMap K V) (k : K) : OrderedMap K V := m.filter fun key _ => key ≠ k

variable {m : OrderedMap K V} {k key : K} {v : V}

@[simp] theorem find?_insert :
    (m.insert k v).find? key = if k = key then some v else m.find? key :=
  lookup_insertEntry k key v m.entries

theorem find?_eq_some : m.find? k = some v ↔ (k, v) ∈ m.entries := by
  obtain ⟨entries, sorted⟩ := m
  simp only [find?]
  induction entries with
  | nil => simp [lookup]
  | cons first rest ih =>
    obtain ⟨above, tail⟩ := List.pairwise_cons.mp sorted
    by_cases here : first.1 = k
    · have absent : (k, v) ∉ rest := by
        intro later
        exact lt_irrefl k (here ▸ above (k, v) later)
      obtain ⟨firstKey, firstValue⟩ := first
      simp only at here
      subst here
      simp [lookup, absent, eq_comm]
    · have other : (k, v) ≠ first := by
        rintro rfl
        exact here rfl
      simpa [lookup, here, other] using ih tail

@[simp] theorem find?_filter {keep : K → V → Bool} :
    (m.filter keep).find? k = (m.find? k).filter (keep k) := by
  apply Option.ext
  intro v
  rw [Option.filter_eq_some_iff, find?_eq_some, find?_eq_some]
  simp [filter]

@[simp] theorem find?_erase : (m.erase k).find? key = if k = key then none else m.find? key := by
  by_cases here : k = key
  · cases m.find? key <;> simp [erase, here]
  · have other : ¬ key = k := fun same => here same.symm
    cases value : m.find? key <;> simp [erase, here, value, other]

theorem erase_absent (absent : m.find? k = none) : m.erase k = m := by
  have same : m.entries.filter (fun entry => decide (entry.1 ≠ k)) = m.entries := by
    rw [List.filter_eq_self]
    intro entry member
    simp only [decide_eq_true_eq]
    intro here
    have found : m.find? k = some entry.2 := find?_eq_some.mpr (here ▸ member)
    rw [absent] at found
    cases found
  unfold erase filter
  congr

end OrderedMap

end OrderedMaps
