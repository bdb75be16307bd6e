import Mathlib.Algebra.BigOperators.Group.Finset.Basic
import Mathlib.Algebra.Order.BigOperators.Group.Finset
import Mathlib.Data.Finset.Lattice.Fold
import Mathlib.Data.Fintype.Basic
import Mathlib.Data.List.Induction

/-!
# Rings

Values are written into `P` slots one after another, and behind the last slot the
first one is written again.  `age P next i` is the number of writes since slot `i`
was written, when slot `next` is the next one to be written; the ages below `A` are
each the age of one slot (`age_bijOn`).  A ring `Holds` the values `l` if every slot
has the value that was written as many writes ago as its age says.  Then the supremum
over all slots is that of the last `P` values (`Holds.sup_eq`), and the sum over the
slots younger than `A` is that of the last `A` values (`Holds.sum_eq`).

A write can be skipped: the slot keeps its value and the next one is the slot behind
it.  `effective P h` is what a ring holds after writes and skips `h`.
-/

namespace HealthSafety.Lib.Ring

/-- The slot behind `i`. -/
def succ (P i : Nat) : Nat := if i + 1 < P then i + 1 else 0

/-- The number of writes since slot `i` was written. -/
def age (P next i : Nat) : Nat := if i < next then next - 1 - i else next + P - 1 - i

variable {P next i : Nat}

theorem succ_lt (hP : 0 < P) : succ P i < P := by
  unfold succ
  split <;> omega

theorem age_lt (hn : next < P) (hi : i < P) : age P next i < P := by
  unfold age
  split <;> omega

/-- The slot of an age is found the same way. -/
theorem age_age (hn : next < P) (hi : i < P) : age P next (age P next i) = i := by
  unfold age
  split_ifs <;> omega

theorem age_oldest (hn : next < P) : age P next next = P - 1 := by
  unfold age
  split <;> omega

theorem age_succ_self (hi : i < P) : age P (succ P i) i = 0 := by
  unfold age succ
  split_ifs <;> omega

theorem age_succ_of_ne (hn : next < P) (hi : i < P) (h : i ≠ next) :
    age P (succ P next) i = age P next i + 1 := by
  unfold age succ
  split_ifs <;> omega

theorem age_succ (hn : next < P) (hi : i < P) :
    age P (succ P next) i = if i ≤ next then next - i else next + P - i := by
  unfold age succ
  split_ifs <;> omega

/-- **Every age below `A` is the age of one slot, and of one only.** -/
theorem age_bijOn {A : Nat} (hn : next < P) (hA : A ≤ P) :
    Set.BijOn (fun i : Fin P => age P next i) {i | age P next i < A} (Set.Iio A) := by
  refine ⟨fun i hi => hi, fun i _ j _ h => ?_, fun a ha => ?_⟩
  · have h : age P next i = age P next j := h
    have := age_age hn i.isLt
    rw [h, age_age hn j.isLt] at this
    exact Fin.ext this.symm
  · have ha : a < A := ha
    have haP : a < P := by omega
    have hself : age P next (age P next a) = a := age_age hn haP
    refine ⟨⟨age P next a, age_lt hn haP⟩, ?_, hself⟩
    show age P next (age P next a) < A
    omega

theorem card_age_lt {A : Nat} (hn : next < P) (hA : A ≤ P) :
    (Finset.univ.filter fun i : Fin P => age P next i < A).card = A := by
  have hbij := age_bijOn hn hA
  have hcard := Finset.card_nbij (s := Finset.univ.filter fun i : Fin P => age P next i < A)
    (t := Finset.range A) (fun i => age P next i) (fun i hi => by simpa using hi)
    (by simpa using hbij.injOn) (by simpa using hbij.surjOn)
  rwa [Finset.card_range] at hcard

/-! ### What a ring holds -/

section Holds

variable {α : Type} [Zero α] {l : List α} {x : α}

/-- The value written `j` writes before the last one, `0` if there is none. -/
def ago (l : List α) (j : Nat) : α := l.reverse.getD j 0

@[simp] theorem ago_nil (j : Nat) : ago ([] : List α) j = 0 := rfl

@[simp] theorem ago_append_zero : ago (l ++ [x]) 0 = x := by simp [ago]

@[simp] theorem ago_append_succ (j : Nat) : ago (l ++ [x]) (j + 1) = ago l j := by simp [ago]

theorem ago_of_length_le {j : Nat} (h : l.length ≤ j) : ago l j = 0 := by
  rw [ago, List.getD_eq_getElem?_getD, List.getElem?_eq_none (by simpa using h), Option.getD_none]

theorem ago_mem_or_eq_zero (l : List α) (j : Nat) : ago l j ∈ l ∨ ago l j = 0 := by
  rw [ago, List.getD_eq_getElem?_getD]
  rcases hget : l.reverse[j]? with _ | v
  · exact Or.inr rfl
  · exact Or.inl (List.mem_reverse.mp (List.mem_of_getElem? hget))

variable {ring : Fin P → α}

/-- Every slot has the value that its age says. -/
def Holds (ring : Fin P → α) (next : Nat) (l : List α) : Prop :=
  ∀ i : Fin P, ring i = ago l (age P next i)

theorem Holds.nil : Holds (fun _ : Fin P => (0 : α)) next [] := fun _ => (ago_nil _).symm

theorem Holds.write (h : Holds ring next l) (hn : next < P) (x : α) :
    Holds (Function.update ring ⟨next, hn⟩ x) (succ P next) (l ++ [x]) := by
  intro i
  by_cases hi : i = ⟨next, hn⟩
  · subst hi
    rw [Function.update_self, age_succ_self hn, ago_append_zero]
  · have hne : i.val ≠ next := fun h => hi (Fin.ext h)
    rw [Function.update_of_ne hi, age_succ_of_ne hn i.isLt hne, ago_append_succ]
    exact h i

/-- A skipped write leaves the ring as if the oldest value had been written again. -/
theorem Holds.skip (h : Holds ring next l) (hn : next < P) :
    Holds ring (succ P next) (l ++ [ago l (P - 1)]) := by
  have hold : ago l (P - 1) = ring ⟨next, hn⟩ := by
    rw [h ⟨next, hn⟩, age_oldest hn]
  have hwrite := h.write hn (ago l (P - 1))
  rwa [hold, Function.update_eq_self, ← hold] at hwrite

end Holds

theorem Holds.sup_eq {α : Type} [Zero α] [SemilatticeSup α] [OrderBot α] {ring : Fin P → α}
    {l : List α} (h : Holds ring next l) (hn : next < P) :
    Finset.univ.sup ring = (Finset.range P).sup (ago l) := by
  apply le_antisymm
  · refine Finset.sup_le fun i _ => ?_
    rw [h i]
    exact Finset.le_sup (Finset.mem_range.mpr (age_lt hn i.isLt))
  · refine Finset.sup_le fun j hj => ?_
    have hj : j < P := Finset.mem_range.mp hj
    have hring := h ⟨age P next j, age_lt hn hj⟩
    rw [age_age hn hj] at hring
    rw [← hring]
    exact Finset.le_sup (Finset.mem_univ _)

theorem Holds.sum_eq {α : Type} [AddCommMonoid α] {ring : Fin P → α} {l : List α} {A : Nat}
    (h : Holds ring next l) (hn : next < P) (hA : A ≤ P) :
    ∑ i ∈ Finset.univ.filter (fun i : Fin P => age P next i < A), ring i =
      ∑ j ∈ Finset.range A, ago l j := by
  have hbij := age_bijOn hn hA
  refine Finset.sum_nbij (fun i : Fin P => age P next i) (fun i hi => ?_) ?_ ?_ fun i _ => h i
  · simpa using hi
  · simpa using hbij.injOn
  · simpa using hbij.surjOn

/-! ### Skipped writes -/

/-- Values bounded by `M` add up to at most as many times `M` as there are of them. -/
theorem sum_ago_le {α : Type} [AddCommMonoid α] [PartialOrder α] [IsOrderedAddMonoid α]
    {l : List α} {M : α} (hM : 0 ≤ M) (h : ∀ v ∈ l, v ≤ M) (A : Nat) :
    ∑ j ∈ Finset.range A, ago l j ≤ A • M := by
  have hle (j : Nat) : ago l j ≤ M := by
    rcases ago_mem_or_eq_zero l j with hmem | hzero
    · exact h _ hmem
    · rw [hzero]
      exact hM
  have hsum := Finset.sum_le_card_nsmul (Finset.range A) (ago l) M fun j _ => hle j
  rwa [Finset.card_range] at hsum

section Effective

variable {α : Type} [Zero α] {h h' : List (Option α)} {j k : Nat}

/-- The values a ring holds after these writes, where `none` is a skipped one. -/
def effective (P : Nat) (h : List (Option α)) : List α :=
  h.foldl (fun l x => l ++ [x.getD (ago l (P - 1))]) []

@[simp] theorem effective_nil : effective P ([] : List (Option α)) = [] := rfl

theorem effective_append (x : Option α) :
    effective P (h ++ [x]) = effective P h ++ [x.getD (ago (effective P h) (P - 1))] := by
  simp [effective]

theorem length_effective : (effective P h).length = h.length := by
  induction h using List.reverseRecOn with
  | nil => rfl
  | append_singleton h x ih => simp [effective_append, ih]

theorem ago_effective_of_length_le (hj : h.length ≤ j) : ago (effective P h) j = 0 :=
  ago_of_length_le (by rwa [length_effective])

/-- A ring holds nothing but what was written and the zeros it started with. -/
theorem mem_effective {v : α} (hv : v ∈ effective P h) : some v ∈ h ∨ v = 0 := by
  induction h using List.reverseRecOn generalizing v with
  | nil => simp at hv
  | append_singleton h x ih =>
    have hold {v : α} (hv : v ∈ effective P h) : some v ∈ h ++ [x] ∨ v = 0 :=
      (ih hv).imp_left (List.mem_append_left [x])
    rw [effective_append] at hv
    rcases List.mem_append.mp hv with hv | hv
    · exact hold hv
    have hv : v = x.getD (ago (effective P h) (P - 1)) := List.mem_singleton.mp hv
    subst hv
    rcases x with _ | v
    · exact (ago_mem_or_eq_zero _ _).elim hold Or.inr
    · exact Or.inl (List.mem_append_right _ List.mem_cons_self)

/-- When no write was skipped, the ring holds what was written. -/
theorem effective_map_some (l : List α) : effective P (l.map some) = l := by
  induction l using List.reverseRecOn with
  | nil => rfl
  | append_singleton l x ih => rw [List.map_append, List.map_singleton, effective_append, ih]; rfl

theorem ago_effective_written {v : α} (hj : h.reverse[j]? = some (some v)) :
    ago (effective P h) j = v := by
  induction h using List.reverseRecOn generalizing j with
  | nil => simp at hj
  | append_singleton h x ih =>
    rw [effective_append]
    cases j with
    | zero =>
      have hx : x = some v := by simpa using hj
      rw [ago_append_zero, hx, Option.getD_some]
    | succ j =>
      rw [ago_append_succ]
      exact ih (by simpa using hj)

/-- A skipped write leaves what was written a whole trip round the ring before. -/
theorem ago_effective_skipped (hP : 0 < P) (hj : h.reverse[j]? = some none) :
    ago (effective P h) j = ago (effective P h) (j + P) := by
  induction h using List.reverseRecOn generalizing j with
  | nil => simp at hj
  | append_singleton h x ih =>
    rw [effective_append]
    cases j with
    | zero =>
      have hx : x = none := by simpa using hj
      obtain ⟨p, rfl⟩ : ∃ p, P = p + 1 := ⟨P - 1, by omega⟩
      rw [Nat.zero_add, ago_append_zero, ago_append_succ, hx, Option.getD_none,
        Nat.add_sub_cancel]
    | succ j =>
      rw [ago_append_succ, Nat.add_right_comm, ago_append_succ]
      exact ih (by simpa using hj)

/-- The last `k` entries, the last one first. -/
def recent {β : Type} (k : Nat) (h : List β) : List β := h.reverse.take k

theorem recent_getElem? {β : Type} {h : List β} (hj : j < k) :
    (recent k h)[j]? = h.reverse[j]? := by
  rw [recent, List.getElem?_take_of_lt hj]

/-- What the ring holds of the last `k` writes depends on these writes only, if none of them
was skipped after its slot had been written. -/
theorem ago_effective_congr (hP : 0 < P) (hlen : h.length = h'.length)
    (hrecent : recent k h = recent k h')
    (hfirst : ∀ j < k, h.reverse[j]? = some none → h.length ≤ j + P) (hj : j < k) :
    ago (effective P h) j = ago (effective P h') j := by
  have hsame : h'.reverse[j]? = h.reverse[j]? := by
    rw [← recent_getElem? hj, ← hrecent, recent_getElem? hj]
  rcases hget : h.reverse[j]? with _ | _ | v
  · have hlen' : h.length ≤ j := by simpa using hget
    rw [ago_effective_of_length_le hlen', ago_effective_of_length_le (hlen ▸ hlen')]
  · have hold := hfirst j hj hget
    have hskip : ago (effective P h) j = ago (effective P h) (j + P) :=
      ago_effective_skipped hP hget
    have hskip' : ago (effective P h') j = ago (effective P h') (j + P) :=
      ago_effective_skipped hP (hsame.trans hget)
    rw [hskip, hskip', ago_effective_of_length_le hold, ago_effective_of_length_le (hlen ▸ hold)]
  · rw [ago_effective_written hget, ago_effective_written (hsame.trans hget)]

end Effective

end HealthSafety.Lib.Ring
