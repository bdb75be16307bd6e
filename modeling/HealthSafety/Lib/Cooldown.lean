import Mathlib.Data.List.Induction
import Mathlib.Data.Nat.Init

/-!
# Cooldowns

Something may be sent, and after it is sent it may not be sent again for a number
of ticks.  A log of beats (`send`, `tick`, `clear` and what is neither) has an
`age`: the ticks since the last send, unless that send has been cleared since.
A counter that is set to `c` by a send, counts down to zero by ticks and is cleared
with the log always stands at `remaining c` of the age, and it is zero if and only
if the last `c` ticks contain no send (`remaining_eq_zero_iff`).
-/

namespace HealthSafety.Lib.Cooldown

inductive Beat
  | send
  | tick
  | clear
  | idle
  deriving DecidableEq

variable {ω : Type} (beat : ω → Beat)

/-- The age after one more beat. -/
def next : Option Nat → Beat → Option Nat
  | _, .send => some 0
  | o, .tick => o.map (· + 1)
  | _, .clear => none
  | o, .idle => o

/-- The ticks since the last send that has not been cleared. -/
def age (l : List ω) : Option Nat := l.foldl (fun o x => next o (beat x)) none

/-- What is left of a cooldown `c` at this age. -/
def remaining (c : Nat) : Option Nat → Nat
  | none => 0
  | some n => c - n

def ticks (l : List ω) : Nat := l.countP fun x => beat x = .tick

theorem age_append_singleton (l : List ω) (x : ω) :
    age beat (l ++ [x]) = next (age beat l) (beat x) := by
  rw [age, List.foldl_append]
  rfl

theorem age_append_idle {l l' : List ω} (h : ∀ x ∈ l', beat x = .idle) :
    age beat (l ++ l') = age beat l := by
  induction l' using List.reverseRecOn with
  | nil => rw [List.append_nil]
  | append_singleton l' x ih =>
    have hx : beat x = .idle := h x (by simp)
    rw [← List.append_assoc, age_append_singleton, hx,
      ih fun y hy => h y (List.mem_append_left _ hy)]
    rfl

theorem remaining_tick (c : Nat) (o : Option Nat) :
    remaining c (next o .tick) = remaining c o - 1 := by
  cases o with
  | none => rfl
  | some n => show c - (n + 1) = c - n - 1; omega

@[simp] theorem remaining_send (c : Nat) (o : Option Nat) : remaining c (next o .send) = c := rfl

@[simp] theorem remaining_clear (c : Nat) (o : Option Nat) : remaining c (next o .clear) = 0 := rfl

theorem ticks_append_singleton (l : List ω) (y : ω) :
    ticks beat (l ++ [y]) = ticks beat l + if beat y = .tick then 1 else 0 := by
  rw [ticks, ticks, List.countP_append, List.countP_singleton]
  simp only [decide_eq_true_eq]

/-- Every send of the log that has not been cleared lies at least `c` ticks back. -/
def Quiet (c : Nat) (l : List ω) : Prop :=
  ∀ before x after, l = before ++ x :: after → beat x = .send →
    (∀ y ∈ after, beat y ≠ .clear) → c ≤ ticks beat after

theorem quiet_nil (c : Nat) : Quiet beat c [] := by
  intro before x after h
  simp at h

theorem quiet_append_singleton (c : Nat) (l : List ω) (y : ω) :
    Quiet beat c (l ++ [y]) ↔ (beat y = .send → c = 0) ∧
      (beat y = .clear ∨ Quiet beat (c - if beat y = .tick then 1 else 0) l) := by
  constructor
  · intro h
    refine ⟨fun hy => ?_, ?_⟩
    · simpa [ticks] using h l y [] rfl hy (by simp)
    · by_cases hclear : beat y = .clear
      · exact .inl hclear
      · refine .inr fun before x after hl hx hafter => ?_
        have hafter' : ∀ z ∈ after ++ [y], beat z ≠ .clear := by
          intro z hz
          rcases List.mem_append.mp hz with hz | hz
          · exact hafter z hz
          · rwa [List.mem_singleton.mp hz]
        have hle := h before x (after ++ [y]) (by rw [hl]; simp) hx hafter'
        rw [ticks_append_singleton] at hle
        exact Nat.sub_le_iff_le_add.mpr hle
  · rintro ⟨hsend, hrest⟩ before x after hl hx hafter
    rcases List.eq_nil_or_concat after with rfl | ⟨after, z, rfl⟩
    · obtain ⟨rfl, hxy⟩ := List.append_inj' hl rfl
      obtain ⟨rfl, -⟩ := List.cons.inj hxy
      rw [hsend hx]
      exact Nat.zero_le _
    · rw [List.concat_eq_append] at hl hafter ⊢
      rw [← List.cons_append, ← List.append_assoc] at hl
      obtain ⟨rfl, hyz⟩ := List.append_inj' hl rfl
      obtain ⟨rfl, -⟩ := List.cons.inj hyz
      rcases hrest with hclear | hquiet
      · exact absurd hclear (hafter y (by simp))
      · have hle := hquiet before x after rfl hx fun z hz => hafter z (List.mem_append_left _ hz)
        rw [ticks_append_singleton]
        exact Nat.sub_le_iff_le_add.mp hle

theorem quiet_zero (l : List ω) : Quiet beat 0 l := fun _ _ _ _ _ _ => Nat.zero_le _

theorem remaining_le_iff (l : List ω) :
    ∀ c k : Nat, remaining c (age beat l) ≤ k ↔ Quiet beat (c - k) l := by
  induction l using List.reverseRecOn with
  | nil =>
    intro c k
    exact iff_of_true (Nat.zero_le _) (quiet_nil beat _)
  | append_singleton l x ih =>
    intro c k
    rw [age_append_singleton, quiet_append_singleton]
    cases hx : beat x with
    | send =>
      rw [remaining_send]
      constructor
      · intro h
        have hzero : c - k = 0 := Nat.sub_eq_zero_of_le h
        rw [hzero]
        exact ⟨fun _ => rfl, .inr (quiet_zero beat l)⟩
      · rintro ⟨h, -⟩
        exact Nat.le_of_sub_eq_zero (h rfl)
    | tick =>
      have hpred : remaining c (age beat l) - 1 ≤ k ↔ remaining c (age beat l) ≤ k + 1 := by omega
      rw [remaining_tick, hpred, ih c (k + 1)]
      simp [Nat.sub_sub]
    | clear => simp
    | idle => simpa [next] using ih c k

/-- **The cooldown has run out if and only if no send lies within it.** -/
theorem remaining_eq_zero_iff (c : Nat) (l : List ω) :
    remaining c (age beat l) = 0 ↔ Quiet beat c l := by
  rw [← Nat.le_zero, remaining_le_iff, Nat.sub_zero]

end HealthSafety.Lib.Cooldown
