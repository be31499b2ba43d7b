import DreamHeroes.OrderedMaps

/- The container template obj_map: a std::map whose addData does not overwrite. -/
namespace ObjMap

open OrderedMaps

variable {K V : Type} [LinearOrder K]

def getData (m : OrderedMap K V) (k : K) : Option V := m.find? k

def hasData (m : OrderedMap K V) (k : K) : Bool := (m.find? k).isSome

def addData (m : OrderedMap K V) (k : K) (v : V) : OrderedMap K V :=
  match m.find? k with
  | none => m.insert k v
  | some _ => m

def eraseData (m : OrderedMap K V) (k : K) : OrderedMap K V := m.erase k

variable {m : OrderedMap K V} {k key : K} {v value : V}

@[simp] theorem getData_addData :
    getData (addData m k v) key =
      if k = key then some ((getData m k).getD v) else getData m key := by
  unfold addData getData
  split
  · rename_i absent
    simp [absent]
  · rename_i old present
    by_cases here : k = key
    · simp [← here, present]
    · simp [here]

theorem getData_addData_some (found : getData (addData m k v) key = some value) :
    getData m key = some value ∨ k = key ∧ v = value := by
  rw [getData_addData] at found
  split at found
  · rename_i same
    subst same
    cases old : getData m k with
    | none =>
      rw [old] at found
      exact .inr ⟨rfl, Option.some.inj found⟩
    | some present =>
      rw [old] at found
      exact .inl found
  · exact .inl found

theorem addData_keeps (present : getData m key = some value) :
    getData (addData m k v) key = some value := by
  rw [getData_addData]
  split
  · rename_i same
    rw [same, present]
    rfl
  · exact present

/-- An added entry is the only one that can be new. -/
theorem getData_addData_of_ne (other : v ≠ value) :
    getData (addData m k v) key = some value ↔ getData m key = some value := by
  constructor
  · intro found
    rcases getData_addData_some found with old | ⟨_, same⟩
    · exact old
    · exact absurd same other
  · exact addData_keeps

theorem getData_addData_present {old : V} (present : getData m k = some old) :
    getData (addData m k v) key = getData m key := by
  rw [getData_addData]
  split
  · rename_i same
    simp [← same, present]
  · rfl

@[simp] theorem getData_eraseData :
    getData (eraseData m k) key = if k = key then none else getData m key := by
  simp [getData, eraseData]

theorem getData_of_eraseData (found : getData (eraseData m k) key = some value) :
    getData m key = some value := by
  rw [getData_eraseData] at found
  split at found
  · cases found
  · exact found

theorem eraseData_absent (absent : getData m k = none) : eraseData m k = m :=
  OrderedMap.erase_absent absent

variable [DecidableEq V]

/- The branch compiled under WIN32. The other branch advances an erased iterator. -/
def eraseValue (m : OrderedMap K V) (v : V) : OrderedMap K V := m.filter fun _ value => value ≠ v

/-- The first key in map order that holds the value. -/
def getKey (m : OrderedMap K V) (v : V) : Option K :=
  (m.entries.find? fun entry => entry.2 = v).map (·.1)

@[simp] theorem getData_eraseValue :
    getData (eraseValue m v) key = some value ↔ getData m key = some value ∧ value ≠ v := by
  simp [getData, eraseValue, Option.filter_eq_some_iff]

theorem getData_eraseValue_none :
    getData (eraseValue m v) key = none ↔ getData m key = none ∨ getData m key = some v := by
  simp only [getData, eraseValue, OrderedMap.find?_filter]
  cases m.find? key <;> simp

end ObjMap
