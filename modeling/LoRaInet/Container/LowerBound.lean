import Mathlib.Data.List.Basic

namespace container

variable {A : Type} {less : A → Bool} {l : List A}

/-- `std::lower_bound` on the `count` elements from `first` on, which halves them. -/
def lowerBound (less : A → Bool) (l : List A) (first count : ℕ) : ℕ :=
  if 0 < count then
    if l[first + count / 2]?.any less then
      lowerBound less l (first + count / 2 + 1) (count - count / 2 - 1)
    else lowerBound less l first (count / 2)
  else first
termination_by count
decreasing_by all_goals omega

/-- The elements before the index are less, and the others are not. -/
def Splits (less : A → Bool) (l : List A) (i : ℕ) : Prop :=
  ∀ j a, l[j]? = some a → (less a = true ↔ j < i)

end container
