import Mathlib.Data.Nat.Init

/-!
# A limit that can be set and a count that can be cleared

Something may be done as long as the count of how often it was done is below a limit, and
two commands interfere: one sets the limit, the other clears the count.  A `Meter` keeps
the books: the count and the limit, and over the whole time how often the count was
cleared, the highest limit and the total.

As long as nothing is spent beyond the limit, the total is at most the highest limit for
each time between two clearings (`Meter.Fair.total_le`), wherever the count stood at
first and however often the limit was moved, also below the count.
-/

namespace HealthSafety.Lib

structure Meter where
  spent : Nat
  limit : Nat
  cleared : Nat
  highest : Nat
  total : Nat

namespace Meter

/-- The books are opened with this count and this limit. -/
def opening (spent limit : Nat) : Meter := ⟨spent, limit, 0, limit, 0⟩

def spend (y : Meter) (n : Nat) : Meter := { y with spent := y.spent + n, total := y.total + n }

def clear (y : Meter) : Meter := { y with spent := 0, cleared := y.cleared + 1 }

def setLimit (y : Meter) (limit : Nat) : Meter :=
  { y with limit := limit, highest := max y.highest limit }

/-- What was spent is covered.  The count may be above the highest limit, if it was there at
first; then nothing has been spent since the last clearing. -/
structure Fair (y : Meter) : Prop where
  limit_le : y.limit ≤ y.highest
  total_le_add : y.total ≤ y.highest * y.cleared + y.spent
  covered : y.spent ≤ y.highest ∨ y.total ≤ y.highest * y.cleared

namespace Fair

variable {y : Meter}

theorem opening (spent limit : Nat) : Fair (Meter.opening spent limit) where
  limit_le := Nat.le_refl limit
  total_le_add := Nat.zero_le _
  covered := .inr (Nat.zero_le _)

theorem spend (h : y.Fair) {n : Nat} (hn : n = 0 ∨ y.spent + n ≤ y.limit) : (y.spend n).Fair := by
  have hlimit := h.limit_le
  have htotal := h.total_le_add
  refine ⟨hlimit, ?_, ?_⟩
  · show y.total + n ≤ y.highest * y.cleared + (y.spent + n)
    omega
  · rcases hn with rfl | hn
    · exact h.covered
    · refine .inl ?_
      show y.spent + n ≤ y.highest
      omega

/-- **The total is at most the highest limit, once for each time the count was cleared and
once for the beginning.** -/
theorem total_le (h : y.Fair) : y.total ≤ y.highest * (y.cleared + 1) := by
  have htotal := h.total_le_add
  have hcovered := h.covered
  rw [Nat.mul_succ]
  omega

theorem clear (h : y.Fair) : y.clear.Fair where
  limit_le := h.limit_le
  total_le_add := Nat.le_add_right_of_le h.total_le
  covered := .inl (Nat.zero_le _)

theorem setLimit (h : y.Fair) (limit : Nat) : (y.setLimit limit).Fair := by
  have hle : y.highest ≤ max y.highest limit := Nat.le_max_left _ _
  have hmul : y.highest * y.cleared ≤ max y.highest limit * y.cleared :=
    Nat.mul_le_mul_right _ hle
  have htotal := h.total_le_add
  refine ⟨Nat.le_max_right _ _, ?_, ?_⟩
  · show y.total ≤ max y.highest limit * y.cleared + y.spent
    omega
  · show y.spent ≤ max y.highest limit ∨ y.total ≤ max y.highest limit * y.cleared
    have hcovered := h.covered
    omega

end Fair

end Meter

end HealthSafety.Lib
