import Mathlib.Tactic.ByContra

/- Things with at most one holder each, while they are moved from one holder to another and new
   holders come with things of their own. -/
namespace SoleHolders

variable {Holder Key : Type}

/-- No key has two holders. -/
def Sole (holds : Holder → Key → Prop) : Prop := ∀ key x y, holds x key → holds y key → x = y

/-- A key is taken from one holder, if there is that one, and given to another. -/
def moved (holds : Holder → Key → Prop) (source : Option Holder) (target : Holder) (k : Key)
    (x : Holder) (key : Key) : Prop :=
  (key ≠ k ∧ holds x key) ∨ (key = k ∧ (x = target ∨ (holds x k ∧ source ≠ some x)))

/-- A new holder has brought its keys. -/
def joined (holds : Holder → Key → Prop) (new : Holder) (brought : Key → Prop) (x : Holder)
    (key : Key) : Prop :=
  holds x key ∨ (x = new ∧ brought key)

variable {holds holds' : Holder → Key → Prop} {source : Option Holder} {target new : Holder}
  {k : Key} {brought : Key → Prop}

theorem sole_congr (same : ∀ x key, holds' x key ↔ holds x key) : Sole holds' ↔ Sole holds := by
  simp only [Sole, same]

/-- A move keeps holders sole exactly if nobody but its source and its target held the key. -/
theorem sole_moved_iff (sole : Sole holds) :
    Sole (moved holds source target k) ↔ ∀ x, holds x k → x = target ∨ source = some x := by
  constructor
  · intro after x holder
    by_contra neither
    rw [not_or] at neither
    have kept : moved holds source target k x k := .inr ⟨rfl, .inr ⟨holder, neither.2⟩⟩
    have given : moved holds source target k target k := .inr ⟨rfl, .inl rfl⟩
    exact neither.1 (after k x target kept given)
  · intro known key x y first second
    have only : ∀ z, moved holds source target k z k → z = target := by
      rintro z (⟨other, _⟩ | ⟨_, given | ⟨holder, left⟩⟩)
      · exact absurd rfl other
      · exact given
      · exact (known z holder).resolve_right left
    by_cases here : key = k
    · subst here
      rw [only x first, only y second]
    · have old : ∀ z, moved holds source target k z key → holds z key := by
        rintro z (⟨_, holder⟩ | ⟨same, _⟩)
        · exact holder
        · exact absurd same here
      exact sole key x y (old x first) (old y second)

/-- A newcomer keeps holders sole exactly if nobody holds what it brings. -/
theorem sole_joined_iff (sole : Sole holds) (fresh : ∀ key, ¬ holds new key) :
    Sole (joined holds new brought) ↔ ∀ key, brought key → ∀ x, ¬ holds x key := by
  constructor
  · intro after key brings x holder
    have same := after key x new (.inl holder) (.inr ⟨rfl, brings⟩)
    exact fresh key (same ▸ holder)
  · intro free key x y first second
    rcases first with holder | ⟨rfl, brings⟩
    · rcases second with other | ⟨_, brings⟩
      · exact sole key x y holder other
      · exact absurd holder (free key brings x)
    · rcases second with other | ⟨rfl, _⟩
      · exact absurd other (free key brings y)
      · rfl

end SoleHolders
