import HealthSafety.Lib.Prog

/-!
# Stops that tell why

A program that stops early leaves its log behind.  `TellsWhy why m s` says that whenever
`m`, started in `s`, stops for a reason `e`, the last entry of its log is one with `why e`.
So what a log must not contain excludes a reason to stop.
-/

namespace HealthSafety.Lib

variable {σ ω ε α β ι : Type}

/-- Whenever `m` stops, the last entry of its log tells the reason. -/
def TellsWhy (why : ε → ω → Prop) (m : Prog σ ω ε α) (s : σ) : Prop :=
  ∀ e, (m s).val = .error e → ∃ l x, (m s).log = l ++ [x] ∧ why e x

namespace TellsWhy

variable {why : ε → ω → Prop} {s : σ}

theorem of_ok {m : Prog σ ω ε α} {a : α} (h : (m s).val = .ok a) : TellsWhy why m s := by
  intro e he
  rw [h] at he
  cases he

theorem pure (a : α) (s : σ) : TellsWhy why (pure a : Prog σ ω ε α) s := of_ok rfl

theorem emit (w : ω) (s : σ) : TellsWhy why (Prog.emit w : Prog σ ω ε Unit) s := of_ok rfl

theorem modify (f : σ → σ) (s : σ) : TellsWhy why (Prog.modify f : Prog σ ω ε Unit) s := of_ok rfl

/-- A stop right behind the entry that explains it. -/
theorem emit_stop {w : ω} {e : ε} (h : why e w) (s : σ) :
    TellsWhy why (Prog.emit w >>= fun _ => (Prog.stop e : Prog σ ω ε α)) s := by
  intro _ he
  rw [Prog.emit_bind] at he ⊢
  cases he
  exact ⟨[], w, rfl, h⟩

theorem bind {m : Prog σ ω ε α} {f : α → Prog σ ω ε β} (hm : TellsWhy why m s)
    (hf : ∀ a, (m s).val = .ok a → TellsWhy why (f a) (m s).state) : TellsWhy why (m >>= f) s := by
  intro _ he
  rcases h : m s with ⟨e | a, t, l⟩
  · have hlast := hm e (by rw [h])
    rw [h] at hlast
    rw [Prog.bind_error h] at he ⊢
    cases he
    exact hlast
  · have hf' := hf a (by rw [h])
    rw [h] at hf'
    rw [Prog.bind_ok h] at he ⊢
    obtain ⟨l', x, hl', hx⟩ := hf' _ he
    refine ⟨l ++ l', x, ?_, hx⟩
    rw [hl', List.append_assoc]

theorem get_bind {f : σ → Prog σ ω ε β} (h : TellsWhy why (f s) s) :
    TellsWhy why (Prog.get >>= f) s := by
  intro e he
  rw [Prog.get_bind] at he ⊢
  exact h e he

theorem ite {c : Prop} {_ : Decidable c} {m m' : Prog σ ω ε α} (h : c → TellsWhy why m s)
    (h' : ¬ c → TellsWhy why m' s) : TellsWhy why (if c then m else m') s := by
  split
  · exact h ‹_›
  · exact h' ‹_›

theorem when {c : Prop} {_ : Decidable c} {m : Prog σ ω ε Unit} (h : c → TellsWhy why m s) :
    TellsWhy why (Prog.when c m) s := ite h fun _ => pure () s

theorem each {body : ι → Prog σ ω ε Unit} (xs : List ι)
    (h : ∀ x ∈ xs, ∀ s, TellsWhy why (body x) s) : ∀ s, TellsWhy why (Prog.each xs body) s := by
  induction xs with
  | nil => exact pure ()
  | cons x xs ih =>
    intro s
    rw [Prog.each_cons]
    exact bind (h x List.mem_cons_self s)
      fun _ _ => ih (fun y hy => h y (List.mem_cons_of_mem x hy)) _

theorem fold {body : β → ι → Prog σ ω ε β} (xs : List ι) (h : ∀ b x s, TellsWhy why (body b x) s) :
    ∀ b s, TellsWhy why (Prog.fold body b xs) s := by
  induction xs with
  | nil => exact pure
  | cons x xs ih =>
    intro b s
    rw [Prog.fold_cons]
    exact bind (h b x s) fun b' _ => ih b' _

end TellsWhy

end HealthSafety.Lib
