import Mathlib.Data.Nat.Init

/-!
# Timeouts

A countdown is started at `c`, counts down in every step that is quiet, starts again
in every step that is not, and stops for good when it reaches zero (`timer`).  It is
at zero after `n` steps if and only if `c` steps in a row have been quiet
(`timer_eq_zero_iff`), so it expires in the first step that completes such a row
(`expires_iff`), and in no other.
-/

namespace HealthSafety.Lib.Timeout

variable (quiet : Nat → Prop) (c : Nat)

/-- The countdown after `n` steps. -/
def timer [DecidablePred quiet] : Nat → Nat
  | 0 => c
  | n + 1 => if timer n = 0 then 0 else if quiet n then timer n - 1 else c

/-- The last `c` of the first `n` steps were quiet. -/
def Silent (n : Nat) : Prop := c ≤ n ∧ ∀ j, n - c ≤ j → j < n → quiet j

/-- The first `n` steps are the first that end with `c` quiet ones. -/
def FirstSilent (n : Nat) : Prop := Silent quiet c n ∧ ∀ k < n, ¬ Silent quiet c k

variable {quiet c}

theorem Silent.mono {b n : Nat} (h : Silent quiet c n) (hb : b ≤ c) : Silent quiet b n :=
  ⟨Nat.le_trans hb h.1, fun j hj => h.2 j (by omega)⟩

theorem silent_zero (n : Nat) : Silent quiet 0 n :=
  ⟨Nat.zero_le n, fun j hj hlt => by omega⟩

theorem silent_succ_of_quiet {n : Nat} (h : quiet n) :
    Silent quiet (c + 1) (n + 1) ↔ Silent quiet c n := by
  constructor
  · rintro ⟨hle, hall⟩
    exact ⟨Nat.le_of_succ_le_succ hle, fun j hj hlt => hall j (by omega) (by omega)⟩
  · rintro ⟨hle, hall⟩
    refine ⟨Nat.succ_le_succ hle, fun j hj hlt => ?_⟩
    rcases Nat.lt_succ_iff_lt_or_eq.mp hlt with hlt | rfl
    · exact hall j (by omega) hlt
    · exact h

theorem silent_succ_sub_iff {n : Nat} (h : quiet n) (k : Nat) :
    Silent quiet (c - k) (n + 1) ↔ Silent quiet (c - (k + 1)) n := by
  by_cases hk : c ≤ k
  · rw [show c - (k + 1) = 0 by omega, show c - k = 0 by omega]
    exact iff_of_true (silent_zero _) (silent_zero n)
  · rw [show c - k = c - (k + 1) + 1 by omega]
    exact silent_succ_of_quiet h

theorem not_silent_succ {n : Nat} (hc : 0 < c) (h : ¬ quiet n) : ¬ Silent quiet c (n + 1) :=
  fun hs => h (hs.2 n (by omega) (Nat.lt_succ_self n))

theorem silent_succ_sub_of_not_quiet {n : Nat} (h : ¬ quiet n) (k : Nat) :
    Silent quiet (c - k) (n + 1) ↔ c ≤ k := by
  by_cases hk : c ≤ k
  · rw [show c - k = 0 by omega]
    exact iff_of_true (silent_zero _) hk
  · exact iff_of_false (not_silent_succ (by omega) h) hk

variable [DecidablePred quiet]

theorem timer_congr {quiet' : Nat → Prop} [DecidablePred quiet'] (n : Nat)
    (hq : ∀ j < n, quiet j ↔ quiet' j) : timer quiet c n = timer quiet' c n := by
  induction n with
  | zero => rfl
  | succ n ih =>
    rw [timer, timer, ih fun j hj => hq j (Nat.lt_succ_of_lt hj)]
    simp only [hq n (Nat.lt_succ_self n)]

theorem timer_le_iff (hc : 0 < c) (n : Nat) :
    ∀ k, timer quiet c n ≤ k ↔ (∃ m ≤ n, Silent quiet c m) ∨ Silent quiet (c - k) n := by
  induction n with
  | zero =>
    intro k
    constructor
    · intro h
      refine .inr ⟨?_, fun j hj hlt => absurd hlt (Nat.not_lt_zero j)⟩
      exact Nat.le_of_eq (Nat.sub_eq_zero_of_le h)
    · rintro (⟨m, hm, hle, -⟩ | ⟨hle, -⟩)
      · omega
      · show c ≤ k
        omega
  | succ n ih =>
    intro k
    by_cases hzero : timer quiet c n = 0
    · have hrow : ∃ m ≤ n, Silent quiet c m := by
        rcases (ih 0).mp (Nat.le_of_eq hzero) with h | h
        · exact h
        · exact ⟨n, Nat.le_refl _, h⟩
      obtain ⟨m, hm, hs⟩ := hrow
      refine iff_of_true ?_ (.inl ⟨m, Nat.le_succ_of_le hm, hs⟩)
      rw [timer, if_pos hzero]
      exact Nat.zero_le k
    have hnone : ¬ ∃ m ≤ n, Silent quiet c m := fun h =>
      hzero (Nat.le_zero.mp ((ih 0).mpr (.inl h)))
    have hlast : (∃ m ≤ n + 1, Silent quiet c m) ∨ Silent quiet (c - k) (n + 1) ↔
        Silent quiet (c - k) (n + 1) := by
      refine or_iff_right_of_imp ?_
      rintro ⟨m, hm, hs⟩
      rcases Nat.le_succ_iff.mp hm with hm | rfl
      · exact absurd ⟨m, hm, hs⟩ hnone
      · exact hs.mono (Nat.sub_le c k)
    rw [timer, if_neg hzero, hlast]
    by_cases hq : quiet n
    · have hpred : timer quiet c n - 1 ≤ k ↔ timer quiet c n ≤ k + 1 := by omega
      rw [if_pos hq, silent_succ_sub_iff hq, hpred, ih (k + 1)]
      exact or_iff_right hnone
    · rw [if_neg hq]
      exact (silent_succ_sub_of_not_quiet hq k).symm

/-- **The countdown is over if and only if `c` steps in a row have been quiet.** -/
theorem timer_eq_zero_iff (hc : 0 < c) (n : Nat) :
    timer quiet c n = 0 ↔ ∃ m ≤ n, Silent quiet c m := by
  rw [← Nat.le_zero, timer_le_iff hc]
  exact or_iff_left_of_imp fun h => ⟨n, Nat.le_refl _, h⟩

/-- **The countdown gets to zero in the first step that ends such a row.** -/
theorem expires_iff (hc : 0 < c) (n : Nat) :
    timer quiet c n = 1 ∧ quiet n ↔ FirstSilent quiet c (n + 1) := by
  have hstep : timer quiet c n = 1 ∧ quiet n ↔
      timer quiet c n ≠ 0 ∧ timer quiet c (n + 1) = 0 := by
    rw [timer]
    by_cases hzero : timer quiet c n = 0
    · simp [hzero]
    by_cases hq : quiet n
    · simp only [hzero, hq, if_false, if_true, and_true, ne_eq, not_false_eq_true, true_and]
      omega
    · simp only [hzero, hq, if_false, and_false, ne_eq, not_false_eq_true, true_and, false_iff]
      omega
  rw [hstep, ne_eq, timer_eq_zero_iff hc, timer_eq_zero_iff hc]
  constructor
  · rintro ⟨hnone, m, hm, hs⟩
    rcases Nat.le_succ_iff.mp hm with hm | rfl
    · exact absurd ⟨m, hm, hs⟩ hnone
    · exact ⟨hs, fun k hk hks => hnone ⟨k, Nat.le_of_lt_succ hk, hks⟩⟩
  · rintro ⟨hs, hfirst⟩
    exact ⟨fun ⟨m, hm, hms⟩ => hfirst m (Nat.lt_succ_of_le hm) hms, n + 1, Nat.le_refl _, hs⟩

end HealthSafety.Lib.Timeout
