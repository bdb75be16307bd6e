import Mathlib.Logic.Basic

/-!
# Programs with a state, a log and an early stop

A `Prog σ ω ε α` runs on a state `σ`, writes a log of `ω` and either returns an
`α` or stops early with a reason `ε`.  The state and the log survive the stop,
so a loop that is cut short still shows what it did before.

A two-state relation with a log in the middle, `R s l t`, is a `Law` when it
holds of doing nothing and composes.  `Moves R m s` says that running `m` from
`s` is an `R`-move, whether it returns or stops, and the rules below push a law
through `bind`, through the branches and through the loops.  `Chain A` is the
least law above a relation `A` of single moves: once a program is shown to be a
chain (`Moves (Chain A)`), every law of the single moves is a law of the program
(`Chain.lift`).

`Ends E m s` is the other half: the reasons for which `m` may stop from `s`.
-/

namespace HealthSafety.Lib

/-- What a run leaves: the value or the reason it stopped, the state, the log. -/
structure Out (σ ω ε α : Type) where
  val : Except ε α
  state : σ
  log : List ω

def Prog (σ ω ε α : Type) : Type := σ → Out σ ω ε α

namespace Prog

variable {σ ω ε α β ι : Type}

instance : Monad (Prog σ ω ε) where
  pure a := fun s => ⟨.ok a, s, []⟩
  bind m f := fun s =>
    match m s with
    | ⟨.ok a, t, l⟩ =>
      match f a t with
      | ⟨v, u, l'⟩ => ⟨v, u, l ++ l'⟩
    | ⟨.error e, t, l⟩ => ⟨.error e, t, l⟩

/-- Read the state. -/
def get : Prog σ ω ε σ := fun s => ⟨.ok s, s, []⟩

/-- Change the state. -/
def modify (f : σ → σ) : Prog σ ω ε Unit := fun s => ⟨.ok (), f s, []⟩

/-- Write one entry to the log. -/
def emit (w : ω) : Prog σ ω ε Unit := fun s => ⟨.ok (), s, [w]⟩

/-- Stop here. -/
def stop (e : ε) : Prog σ ω ε α := fun s => ⟨.error e, s, []⟩

/-- Run `m` if `c` holds. -/
def when (c : Prop) [Decidable c] (m : Prog σ ω ε Unit) : Prog σ ω ε Unit :=
  if c then m else pure ()

/-- Run `body` on every item of a list, in order. -/
def each (xs : List ι) (body : ι → Prog σ ω ε Unit) : Prog σ ω ε Unit :=
  match xs with
  | [] => pure ()
  | x :: xs => body x >>= fun _ => each xs body

/-- Run `body` on every item of a list, in order, handing the local variables on. -/
def fold (body : β → ι → Prog σ ω ε β) (b : β) (xs : List ι) : Prog σ ω ε β :=
  match xs with
  | [] => pure b
  | x :: xs => body b x >>= fun b' => fold body b' xs

/-! ### Running the pieces -/

@[simp] theorem pure_apply (a : α) (s : σ) : (pure a : Prog σ ω ε α) s = ⟨.ok a, s, []⟩ := rfl

@[simp] theorem stop_apply (e : ε) (s : σ) : (stop e : Prog σ ω ε α) s = ⟨.error e, s, []⟩ := rfl

@[simp] theorem get_apply (s : σ) : (get : Prog σ ω ε σ) s = ⟨.ok s, s, []⟩ := rfl

@[simp] theorem modify_apply (f : σ → σ) (s : σ) :
    (modify f : Prog σ ω ε Unit) s = ⟨.ok (), f s, []⟩ := rfl

@[simp] theorem emit_apply (w : ω) (s : σ) :
    (emit w : Prog σ ω ε Unit) s = ⟨.ok (), s, [w]⟩ := rfl

@[simp] theorem when_pos {c : Prop} [Decidable c] (h : c) (m : Prog σ ω ε Unit) :
    when c m = m := if_pos h

@[simp] theorem when_neg {c : Prop} [Decidable c] (h : ¬ c) (m : Prog σ ω ε Unit) :
    when c m = pure () := if_neg h

theorem bind_ok {m : Prog σ ω ε α} {f : α → Prog σ ω ε β} {s t : σ} {a : α} {l : List ω}
    (h : m s = ⟨.ok a, t, l⟩) :
    (m >>= f) s = ⟨(f a t).val, (f a t).state, l ++ (f a t).log⟩ := by
  show (match m s with | ⟨.ok a, t, l⟩ => _ | ⟨.error e, t, l⟩ => _) = _
  rw [h]

theorem bind_error {m : Prog σ ω ε α} {f : α → Prog σ ω ε β} {s t : σ} {e : ε} {l : List ω}
    (h : m s = ⟨.error e, t, l⟩) : (m >>= f) s = ⟨.error e, t, l⟩ := by
  show (match m s with | ⟨.ok a, t, l⟩ => _ | ⟨.error e, t, l⟩ => _) = _
  rw [h]

/-- The value of a sequence, when all that is known is what its first part returns. -/
theorem bind_val {m : Prog σ ω ε α} {f : α → Prog σ ω ε β} {s : σ} {a : α}
    (h : (m s).val = .ok a) : ((m >>= f) s).val = (f a (m s).state).val := by
  rcases hm : m s with ⟨e | b, t, l⟩
  · rw [hm] at h
    cases h
  · rw [hm] at h
    cases h
    rw [bind_ok hm]

@[simp] theorem pure_bind' (a : α) (f : α → Prog σ ω ε β) : (pure a >>= f) = f a := by
  funext s
  rw [bind_ok (pure_apply a s)]
  simp

@[simp] theorem get_bind (f : σ → Prog σ ω ε β) (s : σ) : (get >>= f) s = f s s := by
  rw [bind_ok (get_apply s)]
  simp

@[simp] theorem modify_bind (g : σ → σ) (f : Unit → Prog σ ω ε β) (s : σ) :
    (modify g >>= f) s = f () (g s) := by
  rw [bind_ok (modify_apply g s)]
  simp

@[simp] theorem emit_bind (w : ω) (f : Unit → Prog σ ω ε β) (s : σ) :
    (emit w >>= f) s = ⟨(f () s).val, (f () s).state, w :: (f () s).log⟩ := by
  rw [bind_ok (emit_apply w s)]
  rfl

@[simp] theorem stop_bind (e : ε) (f : α → Prog σ ω ε β) (s : σ) :
    (stop e >>= f) s = ⟨.error e, s, []⟩ := bind_error (stop_apply e s)

theorem bind_assoc' {γ : Type} (m : Prog σ ω ε α) (f : α → Prog σ ω ε β) (g : β → Prog σ ω ε γ) :
    (m >>= f) >>= g = m >>= fun a => f a >>= g := by
  funext s
  rcases hm : m s with ⟨e | a, t, l⟩
  · rw [bind_error hm, bind_error (bind_error hm)]
  · rw [bind_ok hm]
    rcases hf : f a t with ⟨e | b, u, l'⟩
    · have h : (m >>= f) s = ⟨.error e, u, l ++ l'⟩ := by rw [bind_ok hm, hf]
      rw [bind_error h, bind_error hf]
    · have h : (m >>= f) s = ⟨.ok b, u, l ++ l'⟩ := by rw [bind_ok hm, hf]
      rw [bind_ok h, bind_ok hf, List.append_assoc]

/-- Another value changes nothing else. -/
theorem bind_pure_apply (m : Prog σ ω ε α) (f : α → β) (s : σ) :
    (m >>= fun a => pure (f a)) s = ⟨(m s).val.map f, (m s).state, (m s).log⟩ := by
  rcases h : m s with ⟨e | a, t, l⟩
  · rw [bind_error h]
    rfl
  · rw [bind_ok h, pure_apply, List.append_nil]
    rfl

theorem discard_apply (m : Prog σ ω ε α) (s : σ) :
    (m >>= fun _ => pure ()) s = ⟨(m s).val.map fun _ => (), (m s).state, (m s).log⟩ :=
  bind_pure_apply m (fun _ => ()) s

theorem bind_pure_unit (m : Prog σ ω ε Unit) : (m >>= fun _ => pure ()) = m := by
  funext s
  rw [discard_apply]
  rcases m s with ⟨e | u, t, l⟩ <;> rfl

@[simp] theorem each_nil (body : ι → Prog σ ω ε Unit) : each [] body = pure () := rfl

theorem each_cons (x : ι) (xs : List ι) (body : ι → Prog σ ω ε Unit) :
    each (x :: xs) body = body x >>= fun _ => each xs body := rfl

@[simp] theorem fold_nil (body : β → ι → Prog σ ω ε β) (b : β) : fold body b [] = pure b := rfl

theorem fold_cons (body : β → ι → Prog σ ω ε β) (b : β) (x : ι) (xs : List ι) :
    fold body b (x :: xs) = body b x >>= fun b' => fold body b' xs := rfl

theorem fold_append (body : β → ι → Prog σ ω ε β) (b : β) (xs ys : List ι) :
    fold body b (xs ++ ys) = fold body b xs >>= fun b' => fold body b' ys := by
  induction xs generalizing b with
  | nil => rfl
  | cons x xs ih =>
    rw [List.cons_append, fold_cons, fold_cons, bind_assoc']
    simp only [ih]

theorem each_append (body : ι → Prog σ ω ε Unit) (xs ys : List ι) :
    each (xs ++ ys) body = each xs body >>= fun _ => each ys body := by
  induction xs with
  | nil => rw [List.nil_append, each_nil, pure_bind']
  | cons x xs ih => rw [List.cons_append, each_cons, each_cons, bind_assoc', ih]

/-- A loop whose local variables change nothing else can do without them. -/
theorem discard_fold {body : β → ι → Prog σ ω ε β} {body' : ι → Prog σ ω ε Unit}
    (h : ∀ b x, (body b x >>= fun _ => pure ()) = body' x) (xs : List ι) :
    ∀ b, (fold body b xs >>= fun _ => pure ()) = each xs body' := by
  induction xs with
  | nil => exact fun b => pure_bind' b _
  | cons x xs ih =>
    intro b
    rw [fold_cons, bind_assoc', each_cons, ← h b x, bind_assoc']
    exact congrArg (body b x >>= ·) (funext fun b' => by rw [ih b', pure_bind'])

/-- A loop whose body only changes the state and logs `P`, as long as `I` holds. -/
theorem each_logs {body : ι → Prog σ ω ε Unit} {f : σ → ι → σ} {I : σ → Prop} {P : ω → Prop}
    (hbody : ∀ x s, I s → ∃ l, body x s = ⟨.ok (), f s x, l⟩ ∧ ∀ w ∈ l, P w)
    (hI : ∀ x s, I s → I (f s x)) (xs : List ι) :
    ∀ s, I s → ∃ l, each xs body s = ⟨.ok (), xs.foldl f s, l⟩ ∧ ∀ w ∈ l, P w := by
  induction xs with
  | nil => exact fun s _ => ⟨[], rfl, by simp⟩
  | cons x xs ih =>
    intro s hs
    obtain ⟨l₁, h₁, hP₁⟩ := hbody x s hs
    obtain ⟨l₂, h₂, hP₂⟩ := ih (f s x) (hI x s hs)
    refine ⟨l₁ ++ l₂, by rw [each_cons, bind_ok h₁, h₂]; rfl, ?_⟩
    exact List.forall_mem_append.mpr ⟨hP₁, hP₂⟩

/-- A loop whose body only changes the state, as long as `I` holds. -/
theorem each_apply {body : ι → Prog σ ω ε Unit} {f : σ → ι → σ} {I : σ → Prop}
    (hbody : ∀ x s, I s → ∃ l, body x s = ⟨.ok (), f s x, l⟩) (hI : ∀ x s, I s → I (f s x))
    (xs : List ι) (s : σ) (hs : I s) : ∃ l, each xs body s = ⟨.ok (), xs.foldl f s, l⟩ := by
  obtain ⟨l, h, -⟩ := each_logs (P := fun _ => True)
    (fun x s hs => (hbody x s hs).imp fun _ h => ⟨h, fun _ _ => trivial⟩) hI xs s hs
  exact ⟨l, h⟩

/-- A fold that returns has had every item: what the item logs on its turn is in
the log. -/
theorem exists_mem_fold_log {body : β → ι → Prog σ ω ε β} {I : σ → Prop} {P : ω → Prop} {x : ι}
    (hI : ∀ b y s, I s → I (body b y s).state)
    (hP : ∀ b s, I s → ∃ w ∈ (body b x s).log, P w) :
    ∀ (xs : List ι) (b b' : β) (s : σ), I s → (fold body b xs s).val = .ok b' → x ∈ xs →
      ∃ w ∈ (fold body b xs s).log, P w := by
  intro xs
  induction xs with
  | nil => intro b b' s _ _ hx; cases hx
  | cons y ys ih =>
    intro b b' s hs hval hx
    rw [fold_cons] at hval ⊢
    rcases h : body b y s with ⟨e | b₁, t, l⟩
    · rw [bind_error h] at hval
      cases hval
    · rw [bind_ok h] at hval ⊢
      rcases List.mem_cons.mp hx with rfl | hx
      · obtain ⟨w, hw, hPw⟩ := hP b s hs
        rw [h] at hw
        exact ⟨w, List.mem_append_left _ hw, hPw⟩
      · have ht : I t := by simpa [h] using hI b y s hs
        obtain ⟨w, hw, hPw⟩ := ih b₁ b' t ht hval hx
        exact ⟨w, List.mem_append_right _ hw, hPw⟩

theorem mem_fold_log {body : β → ι → Prog σ ω ε β} {I : σ → Prop} {w : ω} {x : ι}
    (hI : ∀ b y s, I s → I (body b y s).state) (hw : ∀ b s, I s → w ∈ (body b x s).log)
    (xs : List ι) (b b' : β) (s : σ) (hs : I s) (hval : (fold body b xs s).val = .ok b')
    (hx : x ∈ xs) : w ∈ (fold body b xs s).log := by
  obtain ⟨_, hmem, rfl⟩ := exists_mem_fold_log (P := (· = w)) hI
    (fun b s hs => ⟨w, hw b s hs, rfl⟩) xs b b' s hs hval hx
  exact hmem

theorem mem_bind_log {m : Prog σ ω ε α} {f : α → Prog σ ω ε β} {w : ω} {s : σ}
    (hw : w ∈ (m s).log) : w ∈ ((m >>= f) s).log := by
  rcases h : m s with ⟨e | a, t, l⟩
  · rw [bind_error h]
    rwa [h] at hw
  · rw [bind_ok h]
    rw [h] at hw
    exact List.mem_append_left _ hw

/-- The log of a sequence begins with that of its first part. -/
theorem bind_log_begins (m : Prog σ ω ε α) (f : α → Prog σ ω ε β) (s : σ) :
    (m s).log <+: ((m >>= f) s).log := by
  rcases h : m s with ⟨e | a, t, l⟩
  · exact ⟨[], by rw [bind_error h, List.append_nil]⟩
  · exact ⟨_, by rw [bind_ok h]⟩

/-- What the first item of a fold logs is in the log. -/
theorem mem_fold_log_head {body : β → ι → Prog σ ω ε β} {w : ω} {x : ι} {xs : List ι} {b : β}
    {s : σ} (hw : w ∈ (body b x s).log) : w ∈ (fold body b (x :: xs) s).log := by
  rw [fold_cons]
  exact mem_bind_log hw

theorem mem_each_log_head {body : ι → Prog σ ω ε Unit} {w : ω} {x : ι} {xs : List ι} {s : σ}
    (hw : w ∈ (body x s).log) : w ∈ (each (x :: xs) body s).log := by
  rw [each_cons]
  exact mem_bind_log hw

end Prog

/-! ### Laws -/

variable {σ ω ε α β ι : Type}

/-- A relation between two states and the log in between that holds of doing
nothing and composes. -/
structure Law (R : σ → List ω → σ → Prop) : Prop where
  nil : ∀ s, R s [] s
  append : ∀ {s t u l l'}, R s l t → R t l' u → R s (l ++ l') u

/-- Running `m` from `s` is an `R`-move, whether `m` returns or stops. -/
def Moves (R : σ → List ω → σ → Prop) (m : Prog σ ω ε α) (s : σ) : Prop :=
  R s (m s).log (m s).state

namespace Moves

variable {R : σ → List ω → σ → Prop}

theorem mono {R' : σ → List ω → σ → Prop} (h : ∀ s l t, R s l t → R' s l t)
    {m : Prog σ ω ε α} {s : σ} (hm : Moves R m s) : Moves R' m s := h _ _ _ hm

theorem pure (hR : Law R) (a : α) (s : σ) : Moves R (pure a : Prog σ ω ε α) s := hR.nil s

theorem stop (hR : Law R) (e : ε) (s : σ) : Moves R (Prog.stop e : Prog σ ω ε α) s := hR.nil s

theorem bind (hR : Law R) {m : Prog σ ω ε α} {f : α → Prog σ ω ε β} {s : σ} (hm : Moves R m s)
    (hf : ∀ a, (m s).val = .ok a → Moves R (f a) (m s).state) : Moves R (m >>= f) s := by
  unfold Moves at *
  rcases h : m s with ⟨e | a, t, l⟩
  · rw [Prog.bind_error h]
    simpa [h] using hm
  · rw [Prog.bind_ok h]
    have hf' := hf a (by rw [h])
    rw [h] at hm hf'
    exact hR.append hm hf'

theorem get_bind {f : σ → Prog σ ω ε β} {s : σ} (h : Moves R (f s) s) :
    Moves R (Prog.get >>= f) s := by
  unfold Moves
  rw [Prog.get_bind]
  exact h

theorem ite {c : Prop} [Decidable c] {m m' : Prog σ ω ε α} {s : σ} (h : c → Moves R m s)
    (h' : ¬ c → Moves R m' s) : Moves R (if c then m else m') s := by
  split
  · exact h ‹_›
  · exact h' ‹_›

theorem when (hR : Law R) {c : Prop} [Decidable c] {m : Prog σ ω ε Unit} {s : σ}
    (h : c → Moves R m s) : Moves R (Prog.when c m) s :=
  ite h fun _ => hR.nil s

theorem each (hR : Law R) {body : ι → Prog σ ω ε Unit} (xs : List ι)
    (h : ∀ x ∈ xs, ∀ s, Moves R (body x) s) : ∀ s, Moves R (Prog.each xs body) s := by
  induction xs with
  | nil => intro s; exact hR.nil s
  | cons x xs ih =>
    intro s
    rw [Prog.each_cons]
    exact bind hR (h x List.mem_cons_self s)
      (fun _ _ => ih (fun y hy => h y (List.mem_cons_of_mem x hy)) _)

theorem fold (hR : Law R) {body : β → ι → Prog σ ω ε β} (xs : List ι)
    (h : ∀ x ∈ xs, ∀ b s, Moves R (body b x) s) : ∀ b s, Moves R (Prog.fold body b xs) s := by
  induction xs with
  | nil => intro b s; exact hR.nil s
  | cons x xs ih =>
    intro b s
    rw [Prog.fold_cons]
    exact bind hR (h x List.mem_cons_self b s)
      (fun b' _ => ih (fun y hy => h y (List.mem_cons_of_mem x hy)) b' _)

end Moves

/-! ### Chains of single moves -/

/-- A finite sequence of `A`-moves, with their logs laid end to end. -/
inductive Chain (A : σ → List ω → σ → Prop) : σ → List ω → σ → Prop
  | nil (s : σ) : Chain A s [] s
  | cons {s t u : σ} {l l' : List ω} (h : A s l t) (rest : Chain A t l' u) : Chain A s (l ++ l') u

namespace Chain

variable {A : σ → List ω → σ → Prop}

theorem single {s t : σ} {l : List ω} (h : A s l t) : Chain A s l t := by
  simpa using Chain.cons h (.nil t)

theorem trans {s t u : σ} {l l' : List ω} (h : Chain A s l t) (g : Chain A t l' u) :
    Chain A s (l ++ l') u := by
  induction h with
  | nil => exact g
  | cons h _ ih => rw [List.append_assoc]; exact .cons h (ih g)

theorem law (A : σ → List ω → σ → Prop) : Law (Chain A) := ⟨.nil, trans⟩

/-- **A law of the single moves is a law of the chains.** -/
theorem lift {R : σ → List ω → σ → Prop} (hR : Law R) (hA : ∀ s l t, A s l t → R s l t)
    {s t : σ} {l : List ω} (h : Chain A s l t) : R s l t := by
  induction h with
  | nil s => exact hR.nil s
  | cons h _ ih => exact hR.append (hA _ _ _ h) ih

theorem mono {B : σ → List ω → σ → Prop} (hAB : ∀ s l t, A s l t → B s l t) {s t : σ}
    {l : List ω} (h : Chain A s l t) : Chain B s l t :=
  h.lift (law B) fun _ _ _ h => single (hAB _ _ _ h)

end Chain

theorem Moves.lift {A R : σ → List ω → σ → Prop} (hR : Law R) (hA : ∀ s l t, A s l t → R s l t)
    {m : Prog σ ω ε α} {s : σ} (h : Moves (Chain A) m s) : Moves R m s := Chain.lift hR hA h

/-! ### Before, log, after -/

/-- From a state with `A`, `m` leaves one with `B`, returning or not, and every
entry of its log satisfies `P`. -/
def Logs (A : σ → Prop) (P : ω → Prop) (B : σ → Prop) (m : Prog σ ω ε α) : Prop :=
  ∀ s, A s → B (m s).state ∧ ∀ x ∈ (m s).log, P x

namespace Logs

variable {A B C : σ → Prop} {P : ω → Prop}

theorem pure (h : ∀ s, A s → B s) (a : α) : Logs A P B (pure a : Prog σ ω ε α) :=
  fun s hs => ⟨h s hs, fun _ hx => by cases hx⟩

theorem bind (hBC : ∀ s, B s → C s) {m : Prog σ ω ε α} {f : α → Prog σ ω ε β} (hm : Logs A P B m)
    (hf : ∀ a, Logs B P C (f a)) : Logs A P C (m >>= f) := by
  intro s hs
  obtain ⟨hB, hP⟩ := hm s hs
  rcases h : m s with ⟨e | a, t, l⟩
  · rw [Prog.bind_error h]
    rw [h] at hB hP
    exact ⟨hBC t hB, hP⟩
  · rw [Prog.bind_ok h]
    rw [h] at hB hP
    obtain ⟨hC, hQ⟩ := hf a t hB
    exact ⟨hC, fun x hx => (List.mem_append.mp hx).elim (hP x) (hQ x)⟩

theorem ite {c : Prop} [Decidable c] {m m' : Prog σ ω ε α} (h : Logs A P B m)
    (h' : Logs A P B m') : Logs A P B (if c then m else m') := by
  split
  · exact h
  · exact h'

theorem emit {w : ω} (h : P w) : Logs A P A (Prog.emit w : Prog σ ω ε Unit) :=
  fun _ hs => ⟨hs, fun _ hx => List.mem_singleton.mp hx ▸ h⟩

theorem modify {f : σ → σ} (h : ∀ s, A s → A (f s)) : Logs A P A (Prog.modify f : Prog σ ω ε Unit) :=
  fun s hs => ⟨h s hs, fun _ hx => by cases hx⟩

theorem each {body : ι → Prog σ ω ε Unit} (xs : List ι) (h : ∀ x ∈ xs, Logs A P A (body x)) :
    Logs A P A (Prog.each xs body) := by
  induction xs with
  | nil => exact pure (fun _ h => h) ()
  | cons x xs ih =>
    rw [Prog.each_cons]
    exact bind (fun _ h => h) (h x List.mem_cons_self)
      fun _ => ih fun y hy => h y (List.mem_cons_of_mem x hy)

theorem fold {body : β → ι → Prog σ ω ε β} (h : ∀ b x, Logs A P A (body b x)) (xs : List ι) :
    ∀ b, Logs A P A (Prog.fold body b xs) := by
  induction xs with
  | nil => exact fun b => pure (fun _ h => h) b
  | cons x xs ih =>
    intro b
    rw [Prog.fold_cons]
    exact bind (fun _ h => h) (h b x) ih

theorem get_bind {f : σ → Prog σ ω ε β} (h : ∀ s, A s → Logs (· = s) P B (f s)) :
    Logs A P B (Prog.get >>= f) := by
  intro s hs
  rw [Prog.get_bind]
  exact h s hs s rfl

end Logs

/-! ### Reasons to stop -/

/-- From `s`, `m` returns a value with `Q` or stops for a reason in `E`. -/
def Ends (E : ε → Prop) (Q : α → σ → Prop) (m : Prog σ ω ε α) (s : σ) : Prop :=
  match (m s).val with
  | .ok a => Q a (m s).state
  | .error e => E e

namespace Ends

variable {E : ε → Prop} {Q : α → σ → Prop}

theorem bind {m : Prog σ ω ε α} {f : α → Prog σ ω ε β} {Q' : β → σ → Prop} {s : σ}
    (hm : Ends E Q m s) (hf : ∀ a t, Q a t → Ends E Q' (f a) t) : Ends E Q' (m >>= f) s := by
  unfold Ends at *
  rcases h : m s with ⟨e | a, t, l⟩
  · rw [Prog.bind_error h]
    simpa [h] using hm
  · rw [Prog.bind_ok h]
    rw [h] at hm
    exact hf a t hm

theorem fold {body : β → ι → Prog σ ω ε β} {P : σ → Prop} (xs : List ι)
    (h : ∀ x ∈ xs, ∀ b s, P s → Ends E (fun _ => P) (body b x) s) :
    ∀ b s, P s → Ends E (fun _ => P) (Prog.fold body b xs) s := by
  induction xs with
  | nil => intro b s hs; exact hs
  | cons x xs ih =>
    intro b s hs
    rw [Prog.fold_cons]
    exact bind (h x List.mem_cons_self b s hs)
      (fun b' t ht => ih (fun y hy => h y (List.mem_cons_of_mem x hy)) b' t ht)

end Ends

end HealthSafety.Lib
