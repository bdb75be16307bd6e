import HealthSafety.Lib.Trace

/-!
# Observers

An `Observer` reads a log one entry after the other.  It keeps a state of its own and
says of each entry, from the state it has reached, whether it accepts it.  A program
`Follows` an observer if its log is accepted and takes the observer from what is seen of
the state before (`view`) to what is seen of the state after; `Follows P` says so as long
as `P` holds of what is seen, and that it goes on to hold.  This is a law.

`Since on off l` says that an entry of `l` is `on` and that none behind it is `off`.
`since_of_after` and `after_of_since` tie it to a property of the observer's state.
-/

namespace HealthSafety.Lib

variable {π σ ω ε α : Type}

structure Observer (π ω : Type) where
  step : π → ω → π
  accepts : π → ω → Prop

namespace Observer

variable (O : Observer π ω)

/-- The state in which the observer is after a log. -/
def after (p : π) (l : List ω) : π := l.foldl O.step p

/-- The observer accepts every entry of the log. -/
def Accepts (p : π) : List ω → Prop
  | [] => True
  | x :: l => O.accepts p x ∧ Accepts (O.step p x) l

@[simp] theorem after_nil (p : π) : O.after p [] = p := rfl

@[simp] theorem after_cons (p : π) (x : ω) (l : List ω) :
    O.after p (x :: l) = O.after (O.step p x) l := rfl

theorem after_append (p : π) (l l' : List ω) :
    O.after p (l ++ l') = O.after (O.after p l) l' := List.foldl_append

@[simp] theorem accepts_nil (p : π) : O.Accepts p [] := trivial

@[simp] theorem accepts_cons (p : π) (x : ω) (l : List ω) :
    O.Accepts p (x :: l) ↔ O.accepts p x ∧ O.Accepts (O.step p x) l := Iff.rfl

theorem accepts_append (p : π) (l l' : List ω) :
    O.Accepts p (l ++ l') ↔ O.Accepts p l ∧ O.Accepts (O.after p l) l' := by
  induction l generalizing p with
  | nil => simp
  | cons x l ih => simp [ih, and_assoc]

variable {O}

/-- What the observer has accepted, it has accepted at its place. -/
theorem Accepts.at {p : π} {before after : List ω} {x : ω}
    (h : O.Accepts p (before ++ x :: after)) : O.accepts (O.after p before) x :=
  ((O.accepts_append p before (x :: after)).mp h).2.1

/-! ### Entries of no interest -/

/-- In the states with `A` the observer accepts the entry and takes no notice of it. -/
def Ignores (O : Observer π ω) (A : π → Prop) (x : ω) : Prop :=
  ∀ p, A p → O.accepts p x ∧ O.step p x = p

theorem after_of_ignored {A : π → Prop} {p : π} (hp : A p) {l : List ω}
    (h : ∀ x ∈ l, O.Ignores A x) : O.Accepts p l ∧ O.after p l = p := by
  induction l with
  | nil => exact ⟨trivial, rfl⟩
  | cons x l ih =>
    obtain ⟨hacc, hstep⟩ := h x List.mem_cons_self p hp
    have hrest := ih fun y hy => h y (List.mem_cons_of_mem x hy)
    rw [accepts_cons, after_cons, hstep]
    exact ⟨⟨hacc, hrest.1⟩, hrest.2⟩

/-! ### Programs that follow an observer -/

section

variable {P : π → Prop} {view : σ → π}

/-- As long as `P` holds of what is seen, the observer accepts the log, and it gets to what
is seen afterwards. -/
def Follows (O : Observer π ω) (P : π → Prop) (view : σ → π) (s : σ) (l : List ω) (t : σ) : Prop :=
  P (view s) → O.Accepts (view s) l ∧ O.after (view s) l = view t ∧ P (view t)

theorem Follows.law (O : Observer π ω) (P : π → Prop) (view : σ → π) :
    Law (O.Follows P view) := by
  refine ⟨fun s hs => ⟨trivial, rfl, hs⟩, fun {s t u l l'} hst htu hs => ?_⟩
  obtain ⟨hacc, hafter, ht⟩ := hst hs
  obtain ⟨hacc', hafter', hu⟩ := htu ht
  rw [accepts_append, after_append, hafter]
  exact ⟨⟨hacc, hacc'⟩, hafter', hu⟩

/-- A log of ignored entries, and a state that looks the same. -/
theorem Follows.of_ignored {A : π → Prop} {s t : σ} {l : List ω} (hs : A (view s))
    (hl : ∀ x ∈ l, O.Ignores A x) (ht : view t = view s) : O.Follows P view s l t := by
  intro hP
  obtain ⟨hacc, hafter⟩ := after_of_ignored hs hl
  rw [hafter, ht]
  exact ⟨hacc, rfl, hP⟩

/-- An entry and the change it announces, before everything else. -/
theorem Follows.cons {s u t : σ} {x : ω} {l : List ω} (hacc : P (view s) → O.accepts (view s) x)
    (hstep : O.step (view s) x = view u) (hP : P (view s) → P (view u))
    (h : O.Follows P view u l t) : O.Follows P view s (x :: l) t := by
  intro hs
  rw [accepts_cons, after_cons, hstep]
  obtain ⟨hacc', hafter, ht⟩ := h (hP hs)
  exact ⟨⟨hacc hs, hacc'⟩, hafter, ht⟩

theorem Follows.mono {P' : π → Prop} {s t : σ} {l : List ω} (h : O.Follows P' view s l t)
    (hs : P (view s) → P' (view s)) (ht : P (view s) → P' (view t) → P (view t)) :
    O.Follows P view s l t := by
  intro hP
  obtain ⟨hacc, hafter, hP'⟩ := h (hs hP)
  exact ⟨hacc, hafter, ht hP hP'⟩

theorem follows_emit {A : π → Prop} {s : σ} {x : ω} (hs : A (view s)) (hx : O.Ignores A x) :
    Moves (O.Follows P view) (Prog.emit x : Prog σ ω ε Unit) s :=
  Follows.of_ignored hs (List.forall_mem_singleton.mpr hx) rfl

theorem follows_modify {f : σ → σ} {s : σ} (h : view (f s) = view s) :
    Moves (O.Follows P view) (Prog.modify f : Prog σ ω ε Unit) s := by
  intro hs
  show O.Accepts (view s) [] ∧ O.after (view s) [] = view (f s) ∧ P (view (f s))
  rw [h]
  exact ⟨trivial, rfl, hs⟩

end

end Observer

/-! ### Since -/

/-- An entry is `on`, and none behind it is `off`. -/
def Since (on off : ω → Prop) (l : List ω) : Prop :=
  ∃ before x behind, l = before ++ x :: behind ∧ on x ∧ ∀ y ∈ behind, ¬ off y

theorem Since.append {on off : ω → Prop} {l l' : List ω} (h : Since on off l') :
    Since on off (l ++ l') := by
  obtain ⟨before, x, behind, rfl, hx, hbehind⟩ := h
  exact ⟨l ++ before, x, behind, (List.append_assoc _ _ _).symm, hx, hbehind⟩

/-- A property that only `on` brings about and that `off` ends holds since an `on`, or has
held from the start. -/
theorem since_of_after {O : Observer π ω} {A : π → Prop} {on off : ω → Prop}
    (hon : ∀ p x, ¬ A p → A (O.step p x) → on x)
    (hoff : ∀ p x, A (O.step p x) → off x → on x) {p : π} {l : List ω} (h : A (O.after p l)) :
    Since on off l ∨ A p ∧ ∀ x ∈ l, ¬ off x := by
  induction l generalizing p with
  | nil => exact .inr ⟨h, by simp⟩
  | cons x l ih =>
    rcases ih h with hl | ⟨hx, hl⟩
    · exact .inl (Since.append (l := [x]) hl)
    · by_cases honx : on x
      · exact .inl ⟨[], x, l, rfl, honx, hl⟩
      · refine .inr ⟨?_, List.forall_mem_cons.mpr ⟨fun ho => honx (hoff p x hx ho), hl⟩⟩
        exact Classical.byContradiction fun hp => honx (hon p x hp hx)

/-- A property that `on` brings about and that only `off` ends holds since an `on`. -/
theorem after_of_since {O : Observer π ω} {A : π → Prop} {on off : ω → Prop}
    (hon : ∀ p x, on x → A (O.step p x)) (hoff : ∀ p x, A p → ¬ off x → A (O.step p x))
    {l : List ω} (h : Since on off l) (p : π) : A (O.after p l) := by
  obtain ⟨before, x, behind, rfl, hx, hbehind⟩ := h
  rw [O.after_append, O.after_cons]
  generalize hq : O.step (O.after p before) x = q
  have hA : A q := hq ▸ hon _ x hx
  clear hq
  induction behind generalizing q with
  | nil => exact hA
  | cons y behind ih =>
    rw [O.after_cons]
    exact ih (fun z hz => hbehind z (List.mem_cons_of_mem y hz)) _
      (hoff q y hA (hbehind y List.mem_cons_self))

end HealthSafety.Lib
