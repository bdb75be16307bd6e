import HealthSafety.Lib.Prog

/-!
# Counting what a program does

`Costs p m n` says that the log of `m` holds at most `n` entries with `p`, from whatever
state `m` is started and however it ends.  The bounds add up along a sequence, a branch
costs what its dearer side costs, and a loop costs its length times a round
(`Costs.each`, `Costs.fold`).

`Paced p q r n l` is about the stretches of a log: up to the first entry with `r`, no
stretch without an entry with `q` holds more than `n` entries with `p`.  A log that is
cheap as a whole is paced, and one piece of work after another is, if each is ended by
an entry with `q` (`Paced.append_served`).
-/

namespace HealthSafety.Lib

variable {σ ω ε α β ι : Type}

/-- At most `n` entries of the log of `m` have `p`. -/
def Costs (p : ω → Bool) (m : Prog σ ω ε α) (n : Nat) : Prop := ∀ s, (m s).log.countP p ≤ n

namespace Costs

variable {p : ω → Bool} {m m' : Prog σ ω ε α} {a b n : Nat}

theorem mono (h : Costs p m a) (hn : a ≤ n) : Costs p m n := fun s => Nat.le_trans (h s) hn

theorem pure (x : α) : Costs p (pure x : Prog σ ω ε α) n := fun _ => Nat.zero_le n

theorem stop (e : ε) : Costs p (Prog.stop e : Prog σ ω ε α) n := fun _ => Nat.zero_le n

theorem modify (f : σ → σ) : Costs p (Prog.modify f : Prog σ ω ε Unit) n := fun _ => Nat.zero_le n

theorem emit (w : ω) : Costs p (Prog.emit w : Prog σ ω ε Unit) 1 := fun _ => List.countP_le_length

theorem emit_of_not {w : ω} (h : p w = false) : Costs p (Prog.emit w : Prog σ ω ε Unit) n := by
  intro s
  show List.countP p [w] ≤ n
  rw [List.countP_cons_of_neg (by rw [h]; decide), List.countP_nil]
  exact Nat.zero_le n

theorem bind {f : α → Prog σ ω ε β} (hm : Costs p m a) (hf : ∀ x, Costs p (f x) b)
    (h : a + b ≤ n) : Costs p (m >>= f) n := by
  intro s
  have hms := hm s
  rcases hrun : m s with ⟨e | x, t, l⟩
  · rw [hrun] at hms
    rw [Prog.bind_error hrun]
    show l.countP p ≤ n
    have hms' : l.countP p ≤ a := hms
    omega
  · rw [hrun] at hms
    have hms' : l.countP p ≤ a := hms
    have hfs := hf x t
    rw [Prog.bind_ok hrun]
    show (l ++ (f x t).log).countP p ≤ n
    rw [List.countP_append]
    omega

/-- Before something that costs nothing. -/
theorem bind_free {f : α → Prog σ ω ε β} (hm : Costs p m 0) (hf : ∀ x, Costs p (f x) n) :
    Costs p (m >>= f) n := bind hm hf (Nat.le_of_eq (Nat.zero_add n))

/-- Before something else, behind which nothing costs. -/
theorem bind_last {f : α → Prog σ ω ε β} (hm : Costs p m n) (hf : ∀ x, Costs p (f x) 0) :
    Costs p (m >>= f) n := bind hm hf (Nat.le_refl n)

theorem bind_pure {f : α → β} (hm : Costs p m n) :
    Costs p (m >>= fun x => Pure.pure (f x)) n := bind_last hm fun x => pure (f x)

theorem get_bind {f : σ → Prog σ ω ε β} (h : ∀ s, Costs p (f s) n) :
    Costs p (Prog.get >>= f) n := by
  intro s
  rw [Prog.get_bind]
  exact h s s

theorem modify_bind {g : σ → σ} {f : Unit → Prog σ ω ε β} (h : Costs p (f ()) n) :
    Costs p (Prog.modify g >>= f) n := by
  intro s
  rw [Prog.modify_bind]
  exact h (g s)

theorem ite {c : Prop} {_ : Decidable c} (h : Costs p m n) (h' : Costs p m' n) :
    Costs p (if c then m else m') n := by
  split
  · exact h
  · exact h'

theorem when {c : Prop} {_ : Decidable c} {m : Prog σ ω ε Unit} (h : Costs p m n) :
    Costs p (Prog.when c m) n := ite h (pure ())

/-! ### Loops -/

theorem each {body : ι → Prog σ ω ε Unit} (xs : List ι) (h : ∀ x ∈ xs, Costs p (body x) n) :
    Costs p (Prog.each xs body) (xs.length * n) := by
  induction xs with
  | nil => exact pure ()
  | cons x xs ih =>
    rw [Prog.each_cons, List.length_cons]
    have hsum : n + xs.length * n = (xs.length + 1) * n := by rw [Nat.succ_mul, Nat.add_comm]
    refine bind (h x List.mem_cons_self) (fun _ => ih fun y hy => h y ?_) (Nat.le_of_eq hsum)
    exact List.mem_cons_of_mem x hy

theorem fold {body : β → ι → Prog σ ω ε β} (h : ∀ b x, Costs p (body b x) n) (xs : List ι)
    (b : β) : Costs p (Prog.fold body b xs) (xs.length * n) := by
  induction xs generalizing b with
  | nil => exact pure b
  | cons x xs ih =>
    rw [Prog.fold_cons, List.length_cons]
    have hsum : n + xs.length * n = (xs.length + 1) * n := by rw [Nat.succ_mul, Nat.add_comm]
    exact bind (h b x) (fun b' => ih b') (Nat.le_of_eq hsum)

end Costs

/-! ### Stretches of a log -/

/-- Up to the first entry with `r`, a stretch without `q` has at most `n` entries with `p`. -/
def Paced (p q r : ω → Bool) (n : Nat) (l : List ω) : Prop :=
  ∀ a b c, l = a ++ b ++ c → (∀ x ∈ a ++ b, r x = false) → (∀ x ∈ b, q x = false) → b.countP p ≤ n

namespace Paced

variable {p q r : ω → Bool} {n n' : Nat} {l l' : List ω}

theorem of_countP (h : l.countP p ≤ n) : Paced p q r n l := by
  intro a b c hl _ _
  rw [hl, List.countP_append, List.countP_append] at h
  omega

theorem mono (h : Paced p q r n l) (hn : n ≤ n') : Paced p q r n' l :=
  fun a b c hl hr hq => Nat.le_trans (h a b c hl hr hq) hn

/-- A stretch of two logs is one of the first, one of the second, or the end of the first
and the beginning of the second. -/
theorem stretch_append {a b c : List ω} (h : l ++ l' = a ++ b ++ c) :
    (∃ d, l = a ++ b ++ d) ∨ (∃ d, l' = d ++ b ++ c ∧ a = l ++ d) ∨
      ∃ d e, l = a ++ d ∧ l' = e ++ c ∧ b = d ++ e := by
  rw [List.append_assoc] at h
  obtain ⟨d, rfl, hd⟩ | ⟨d, rfl, hd⟩ := List.append_eq_append_iff.mp h
  · exact .inr (.inl ⟨d, by rw [hd, List.append_assoc], rfl⟩)
  · obtain ⟨e, rfl, he⟩ | ⟨e, rfl, rfl⟩ := List.append_eq_append_iff.mp hd
    · exact .inl ⟨e, by rw [List.append_assoc]⟩
    · exact .inr (.inr ⟨d, e, rfl, rfl, rfl⟩)

/-- Before a paced log there may be any other one: its entries add to the bound. -/
theorem append_left (hl : l.countP p ≤ n) (h : Paced p q r n' l') :
    Paced p q r (n + n') (l ++ l') := by
  intro a b c heq hr hq
  obtain ⟨d, rfl⟩ | ⟨d, rfl, rfl⟩ | ⟨d, e, rfl, rfl, rfl⟩ := stretch_append heq
  · rw [List.countP_append, List.countP_append] at hl
    omega
  · have hrest : b.countP p ≤ n' := by
      refine h d b c rfl (fun x hx => hr x ?_) hq
      rw [List.append_assoc]
      exact List.mem_append_right l hx
    omega
  · have hrest : e.countP p ≤ n' := by
      refine h [] e c rfl (fun x hx => hr x ?_) fun x hx => hq x (List.mem_append_right d hx)
      exact List.mem_append_right a (List.mem_append_right d hx)
    rw [List.countP_append] at hl ⊢
    omega

/-- And behind it. -/
theorem append_right (h : Paced p q r n l) (hl : l'.countP p ≤ n') :
    Paced p q r (n + n') (l ++ l') := by
  intro a b c heq hr hq
  obtain ⟨d, rfl⟩ | ⟨d, rfl, rfl⟩ | ⟨d, e, rfl, rfl, rfl⟩ := stretch_append heq
  · have hfirst := h a b d rfl hr hq
    omega
  · rw [List.countP_append, List.countP_append] at hl
    omega
  · have hfirst : d.countP p ≤ n := by
      refine h a d [] (List.append_nil _).symm (fun x hx => hr x ?_)
        fun x hx => hq x (List.mem_append_left e hx)
      rw [← List.append_assoc]
      exact List.mem_append_left e hx
    rw [List.countP_append] at hl ⊢
    omega

/-- Work that is ended by an entry with `q` does not add to what follows it. -/
theorem append_served {w : ω} (hl : (l ++ [w]).countP p ≤ n) (hw : q w = true)
    (h : Paced p q r n l') : Paced p q r n (l ++ [w] ++ l') := by
  intro a b c heq hr hq
  obtain ⟨d, hd⟩ | ⟨d, rfl, rfl⟩ | ⟨d, e, hd, rfl, rfl⟩ := stretch_append heq
  · rw [hd, List.countP_append, List.countP_append] at hl
    omega
  · refine h d b c rfl (fun x hx => hr x ?_) hq
    rw [List.append_assoc]
    exact List.mem_append_right _ hx
  · -- the stretch reaches into what follows, so all it has of the work is nothing
    have hnil : d = [] := by
      rcases List.eq_nil_or_concat d with hnil | ⟨d', x, rfl⟩
      · exact hnil
      · rw [List.concat_eq_append, ← List.append_assoc] at hd
        obtain ⟨-, hx⟩ := List.append_inj' hd rfl
        cases hx
        have hmem : w ∈ d'.concat w ++ e := by
          rw [List.concat_eq_append]
          exact List.mem_append_left e (List.mem_append_right d' (List.mem_singleton_self w))
        rw [hq w hmem] at hw
        cases hw
    subst hnil
    refine h [] e c rfl (fun x hx => hr x (List.mem_append_right a hx)) hq

/-- Nothing behind an entry with `r` counts. -/
theorem append_ended (hl : l.countP p ≤ n) {x : ω} (hx : x ∈ l) (hrx : r x = true) (l' : List ω) :
    Paced p q r n (l ++ l') := by
  intro a b c heq hr hq
  have hends (d : List ω) (hd : ∀ y ∈ d, y ∈ a ++ b) (hxd : x ∈ d) : False := by
    rw [hr x (hd x hxd)] at hrx
    cases hrx
  obtain ⟨d, rfl⟩ | ⟨d, rfl, rfl⟩ | ⟨d, e, rfl, rfl, rfl⟩ := stretch_append heq
  · rw [List.countP_append, List.countP_append] at hl
    omega
  · refine absurd hx (fun h => hends l (fun y hy => ?_) h)
    exact List.mem_append_left b (List.mem_append_left d hy)
  · refine absurd hx (fun h => hends (a ++ d) (fun y hy => ?_) h)
    rw [← List.append_assoc]
    exact List.mem_append_left e hy

end Paced

end HealthSafety.Lib
