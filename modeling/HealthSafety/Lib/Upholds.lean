import HealthSafety.Lib.Prog

/-!
# Invariants up to a stop

`Upholds A P B m` says that from a state with `A`, every entry that `m` logs satisfies `P`,
and if `m` returns it leaves a state with `B`.  A program that is cut short owes no state
to what would come behind it, so an invariant may be broken where it stops (compare `Logs`,
which asks for `B` there too).
-/

namespace HealthSafety.Lib

variable {σ ω ε α β ι : Type}

/-- From a state with `A`, `m` logs only what satisfies `P`, and returns only with `B`. -/
def Upholds (A : σ → Prop) (P : ω → Prop) (B : σ → Prop) (m : Prog σ ω ε α) : Prop :=
  ∀ s, A s → (∀ x ∈ (m s).log, P x) ∧ ∀ a, (m s).val = .ok a → B (m s).state

namespace Upholds

variable {A A' B B' C : σ → Prop} {P : ω → Prop}

theorem mono {m : Prog σ ω ε α} (hm : Upholds A P B m) (hA : ∀ s, A' s → A s)
    (hB : ∀ s, B s → B' s) : Upholds A' P B' m := by
  intro s hs
  obtain ⟨hlog, hstate⟩ := hm s (hA s hs)
  exact ⟨hlog, fun a ha => hB _ (hstate a ha)⟩

theorem pure (a : α) : Upholds A P A (pure a : Prog σ ω ε α) := by
  intro s hs
  exact ⟨List.forall_mem_nil _, fun _ _ => hs⟩

theorem bind {m : Prog σ ω ε α} {f : α → Prog σ ω ε β} (hm : Upholds A P B m)
    (hf : ∀ a, Upholds B P C (f a)) : Upholds A P C (m >>= f) := by
  intro s hs
  obtain ⟨hlog, hB⟩ := hm s hs
  rcases h : m s with ⟨e | a, t, l⟩
  · rw [Prog.bind_error h]
    rw [h] at hlog
    exact ⟨hlog, fun _ ha => by cases ha⟩
  · rw [h] at hlog hB
    obtain ⟨hlog', hC⟩ := hf a t (hB a rfl)
    rw [Prog.bind_ok h]
    exact ⟨List.forall_mem_append.mpr ⟨hlog, hlog'⟩, hC⟩

theorem ite {c : Prop} {_ : Decidable c} {m m' : Prog σ ω ε α} (h : Upholds A P B m)
    (h' : Upholds A P B m') : Upholds A P B (if c then m else m') := by
  split
  · exact h
  · exact h'

theorem each {body : ι → Prog σ ω ε Unit} (xs : List ι) (h : ∀ x ∈ xs, Upholds A P A (body x)) :
    Upholds A P A (Prog.each xs body) := by
  induction xs with
  | nil => exact pure ()
  | cons x xs ih =>
    rw [Prog.each_cons]
    exact bind (h x List.mem_cons_self) fun _ => ih fun y hy => h y (List.mem_cons_of_mem x hy)

end Upholds

end HealthSafety.Lib
