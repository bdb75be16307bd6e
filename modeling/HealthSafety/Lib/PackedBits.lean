import Mathlib.Logic.Function.Basic

/-!
# Packed bits

A row of `n` words of `w` bits each, read as one row of bits: bit `i` is bit
`i % w` of word `i / w`.  Setting or clearing bit `i` with a mask changes that bit
and no other (`bit_set`, `bit_clear`).
-/

namespace HealthSafety.Lib.PackedBits

variable {n w : Nat}

/-- Bit `i`; there are none past the last word. -/
def bit (a : Fin n → BitVec w) (i : Nat) : Bool :=
  if h : i / w < n then (a ⟨i / w, h⟩).getLsbD (i % w) else false

/-- The mask of bit `i` in its word. -/
def mask (w i : Nat) : BitVec w := 1#w <<< (i % w)

def set (a : Fin n → BitVec w) (i : Nat) (h : i / w < n) : Fin n → BitVec w :=
  Function.update a ⟨i / w, h⟩ (a ⟨i / w, h⟩ ||| mask w i)

def clear (a : Fin n → BitVec w) (i : Nat) (h : i / w < n) : Fin n → BitVec w :=
  Function.update a ⟨i / w, h⟩ (a ⟨i / w, h⟩ &&& ~~~(mask w i))

/-- The row is its bits. -/
theorem ext {a b : Fin n → BitVec w} (h : ∀ i, bit a i = bit b i) : a = b := by
  funext k
  ext j hj
  have hdiv : (j + w * k) / w = k := by
    rw [Nat.add_mul_div_left _ _ (Nat.zero_lt_of_lt hj), Nat.div_eq_of_lt hj, Nat.zero_add]
  have hmod : (j + w * k) % w = j := by
    rw [Nat.add_mul_mod_self_left, Nat.mod_eq_of_lt hj]
  have hlt : (j + w * k) / w < n := by rw [hdiv]; exact k.isLt
  have hk : (⟨(j + w * k) / w, hlt⟩ : Fin n) = k := Fin.ext hdiv
  have hbit := h (j + w * k)
  rwa [bit, bit, dif_pos hlt, dif_pos hlt, hk, hmod, BitVec.getLsbD_eq_getElem hj,
    BitVec.getLsbD_eq_getElem hj] at hbit

theorem bit_zero (i : Nat) : bit (fun _ : Fin n => 0#w) i = false := by
  unfold bit
  split <;> simp

theorem getLsbD_mask {i j : Nat} (hj : j < w) : (mask w i).getLsbD j = decide (j = i % w) := by
  have hi : i % w < w := Nat.mod_lt i (Nat.zero_lt_of_lt hj)
  by_cases h : j = i % w
  · subst h
    simp [mask, hj]
  · simp only [mask, BitVec.getLsbD_shiftLeft, hj, BitVec.getLsbD_one, h]
    have : ¬ (j - i % w = 0 ∧ ¬ j < i % w) := by omega
    simp only [decide_true, Bool.true_and, decide_false]
    by_cases hlt : j < i % w
    · simp [hlt]
    · simp [hlt, show j - i % w ≠ 0 by omega]

/-- Two positions in one word are equal if they are the same bit of it. -/
theorem eq_iff_of_div_eq {i j : Nat} (h : j / w = i / w) : j = i ↔ j % w = i % w := by
  constructor
  · rintro rfl
    rfl
  · intro hm
    rw [← Nat.div_add_mod j w, ← Nat.div_add_mod i w, h, hm]

theorem bit_set (hw : 0 < w) (a : Fin n → BitVec w) {i : Nat} (h : i / w < n) (j : Nat) :
    bit (set a i h) j = (decide (j = i) || bit a j) := by
  have hj := Nat.mod_lt j hw
  by_cases hword : j / w = i / w
  · have hlt : j / w < n := hword ▸ h
    have hidx : (⟨j / w, hlt⟩ : Fin n) = ⟨i / w, h⟩ := Fin.ext hword
    simp only [bit, dif_pos hlt, set, hidx, Function.update_self, BitVec.getLsbD_or,
      getLsbD_mask hj, ← eq_iff_of_div_eq hword]
    rw [Bool.or_comm]
  · have hne : j ≠ i := fun h => hword (by rw [h])
    simp only [bit, hne, decide_false, Bool.false_or]
    by_cases hlt : j / w < n
    · simp [hlt, set, Function.update_of_ne, hword]
    · simp [hlt]

theorem bit_clear (hw : 0 < w) (a : Fin n → BitVec w) {i : Nat} (h : i / w < n) (j : Nat) :
    bit (clear a i h) j = (decide (j ≠ i) && bit a j) := by
  have hj := Nat.mod_lt j hw
  by_cases hword : j / w = i / w
  · have hlt : j / w < n := hword ▸ h
    have hidx : (⟨j / w, hlt⟩ : Fin n) = ⟨i / w, h⟩ := Fin.ext hword
    simp only [bit, dif_pos hlt, clear, hidx, Function.update_self, BitVec.getLsbD_and,
      BitVec.getLsbD_not, hj, getLsbD_mask hj, ← eq_iff_of_div_eq hword, decide_true,
      Bool.true_and, ne_eq, decide_not]
    rw [Bool.and_comm]
  · have hne : j ≠ i := fun h => hword (by rw [h])
    simp only [bit, hne, ne_eq, not_false_eq_true, decide_true, Bool.true_and]
    by_cases hlt : j / w < n
    · simp [hlt, clear, Function.update_of_ne, hword]
    · simp [hlt]

end HealthSafety.Lib.PackedBits
