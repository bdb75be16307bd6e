import HealthSafety.Lib.Prog
import Mathlib.Data.List.Destutter

/-!
# Two runs that look alike

A `Look` says what is seen of a run: a view of the state, some of the entries of the log,
and the reasons for which a run may be cut short.  `Follows L m m'` compares two programs:
started in states that look alike, they return the same, leave states that look alike and
logs in which the same is seen; or else `m` was cut short, and up to there the same is
seen.

The rules compare `m` and `m'` clause by clause.  A program of which nothing is seen
(`Silent`) follows the program that does nothing, so a loop follows the same loop over
fewer items, as long as its body is silent on the items that are left out
(`Follows.each_filter`).
-/

namespace HealthSafety.Lib

variable {σ ω ε ν α β ι : Type}

/-- What is seen of a run. -/
structure Look (σ ω ε ν : Type) where
  view : σ → ν
  seen : ω → Bool
  excused : ε → Prop

/-- The first outcome looks like the second one, or was cut short on the way to it. -/
def Matches (L : Look σ ω ε ν) (o o' : Out σ ω ε α) : Prop :=
  (o.val = o'.val ∧ L.view o.state = L.view o'.state ∧
    o.log.filter L.seen = o'.log.filter L.seen) ∨
  ∃ e, o.val = .error e ∧ L.excused e ∧ o.log.filter L.seen <+: o'.log.filter L.seen

/-- From states that look alike, `m` looks like `m'`. -/
def Follows (L : Look σ ω ε ν) (m m' : Prog σ ω ε α) : Prop :=
  ∀ s s', L.view s = L.view s' → Matches L (m s) (m' s')

/-- Nothing is seen of `m`, unless it is cut short. -/
structure Silent (L : Look σ ω ε ν) (m : Prog σ ω ε α) : Prop where
  view : ∀ s, L.view (m s).state = L.view s
  unseen : ∀ s, (m s).log.filter L.seen = []
  excused : ∀ s e, (m s).val = .error e → L.excused e

variable {L : Look σ ω ε ν}

/-! ### Programs of which nothing is seen -/

namespace Silent

theorem pure (a : α) : Silent L (pure a : Prog σ ω ε α) :=
  ⟨fun _ => rfl, fun _ => rfl, fun _ _ he => by cases he⟩

theorem emit {w : ω} (h : L.seen w = false) : Silent L (Prog.emit w : Prog σ ω ε Unit) := by
  refine ⟨fun _ => rfl, fun _ => ?_, fun _ _ he => by cases he⟩
  exact List.filter_cons_of_neg (by rw [h]; decide)

theorem modify {f : σ → σ} (h : ∀ s, L.view (f s) = L.view s) :
    Silent L (Prog.modify f : Prog σ ω ε Unit) :=
  ⟨h, fun _ => rfl, fun _ _ he => by cases he⟩

theorem stop {e : ε} (h : L.excused e) : Silent L (Prog.stop e : Prog σ ω ε α) := by
  refine ⟨fun _ => rfl, fun _ => rfl, ?_⟩
  intro _ e' he
  cases he
  exact h

theorem bind {m : Prog σ ω ε α} {f : α → Prog σ ω ε β} (hm : Silent L m)
    (hf : ∀ a, Silent L (f a)) : Silent L (m >>= f) := by
  refine ⟨fun s => ?_, fun s => ?_, fun s e he => ?_⟩ <;> rcases h : m s with ⟨e' | a, t, l⟩
  · rw [Prog.bind_error h]
    simpa only [h] using hm.view s
  · rw [Prog.bind_ok h]
    have hview := hm.view s
    rw [h] at hview
    exact ((hf a).view t).trans hview
  · rw [Prog.bind_error h]
    simpa only [h] using hm.unseen s
  · rw [Prog.bind_ok h]
    have hunseen := hm.unseen s
    rw [h] at hunseen
    rw [List.filter_append, hunseen, (hf a).unseen t, List.nil_append]
  · rw [Prog.bind_error h] at he
    cases he
    exact hm.excused s e (by rw [h])
  · rw [Prog.bind_ok h] at he
    exact (hf a).excused t e he

theorem get_bind {f : σ → Prog σ ω ε β} (h : ∀ d, Silent L (f d)) :
    Silent L (Prog.get >>= f) := by
  refine ⟨fun s => ?_, fun s => ?_, fun s e he => ?_⟩
  · rw [Prog.get_bind]
    exact (h s).view s
  · rw [Prog.get_bind]
    exact (h s).unseen s
  · rw [Prog.get_bind] at he
    exact (h s).excused s e he

theorem ite {c : Prop} {_ : Decidable c} {m m' : Prog σ ω ε α} (h : Silent L m)
    (h' : Silent L m') : Silent L (if c then m else m') := by
  split
  · exact h
  · exact h'

theorem when {c : Prop} {_ : Decidable c} {m : Prog σ ω ε Unit} (h : Silent L m) :
    Silent L (Prog.when c m) := ite h (pure ())

theorem each {body : ι → Prog σ ω ε Unit} (xs : List ι) (h : ∀ x ∈ xs, Silent L (body x)) :
    Silent L (Prog.each xs body) := by
  induction xs with
  | nil => exact pure ()
  | cons x xs ih =>
    rw [Prog.each_cons]
    exact bind (h x List.mem_cons_self) fun _ => ih fun y hy => h y (List.mem_cons_of_mem x hy)

theorem fold {body : β → ι → Prog σ ω ε β} (h : ∀ b x, Silent L (body b x)) (xs : List ι) :
    ∀ b, Silent L (Prog.fold body b xs) := by
  induction xs with
  | nil => exact pure
  | cons x xs ih =>
    intro b
    rw [Prog.fold_cons]
    exact bind (h b x) ih

/-- A sequence that returns looks like what comes behind its silent first part. -/
theorem skip {m : Prog σ ω ε α} (hm : Silent L m) {f : α → Prog σ ω ε β} {s : σ} {b : β}
    (h : ((m >>= f) s).val = .ok b) :
    ∃ a t, L.view t = L.view s ∧ ((m >>= f) s).val = (f a t).val ∧
      ((m >>= f) s).state = (f a t).state ∧
      ((m >>= f) s).log.filter L.seen = (f a t).log.filter L.seen := by
  have hview := hm.view s
  have hunseen := hm.unseen s
  rcases hrun : m s with ⟨e | a, t, l⟩
  · rw [Prog.bind_error hrun] at h
    cases h
  · rw [hrun] at hview hunseen
    rw [Prog.bind_ok hrun]
    refine ⟨a, t, hview, rfl, rfl, ?_⟩
    rw [List.filter_append, hunseen, List.nil_append]

/-- Who sees less sees nothing either. -/
theorem mono {ν' : Type} {L' : Look σ ω ε ν'} {m : Prog σ ω ε α} (h : Silent L m)
    (hview : ∀ s t, L.view s = L.view t → L'.view s = L'.view t)
    (hseen : ∀ w, L.seen w = false → L'.seen w = false)
    (hexc : ∀ e, L.excused e → L'.excused e) : Silent L' m := by
  refine ⟨fun s => hview _ _ (h.view s), fun s => ?_, fun s e he => hexc e (h.excused s e he)⟩
  rw [List.filter_eq_nil_iff]
  intro w hw hseen'
  have hall := List.filter_eq_nil_iff.mp (h.unseen s) w hw
  rw [hseen w (Bool.eq_false_iff.mpr hall)] at hseen'
  cases hseen'

end Silent

/-- From the states that look like `s`, nothing is seen of `m`, unless it is cut short. -/
structure SilentFrom (L : Look σ ω ε ν) (m : Prog σ ω ε α) (s : σ) : Prop where
  view : ∀ t, L.view t = L.view s → L.view (m t).state = L.view t
  unseen : ∀ t, L.view t = L.view s → (m t).log.filter L.seen = []
  excused : ∀ t e, L.view t = L.view s → (m t).val = .error e → L.excused e

theorem Silent.silentFrom {m : Prog σ ω ε α} (h : Silent L m) (s : σ) : SilentFrom L m s :=
  ⟨fun t _ => h.view t, fun t _ => h.unseen t, fun t e _ => h.excused t e⟩

/-- What returns, and shows nothing. -/
theorem SilentFrom.of_apply {m : Prog σ ω ε α} {s : σ}
    (h : ∀ t, L.view t = L.view s → ∃ a u l, m t = ⟨.ok a, u, l⟩ ∧ L.view u = L.view t ∧
      ∀ w ∈ l, L.seen w = false) : SilentFrom L m s := by
  refine ⟨fun t ht => ?_, fun t ht => ?_, fun t e ht he => ?_⟩ <;>
    obtain ⟨a, u, l, hrun, hview, hl⟩ := h t ht
  · rw [hrun]
    exact hview
  · rw [hrun]
    exact List.filter_eq_nil_iff.mpr fun w hw => by rw [hl w hw]; decide
  · rw [hrun] at he
    cases he

/-! ### Programs that look alike -/

theorem Matches.refl (o : Out σ ω ε α) : Matches L o o := .inl ⟨rfl, rfl, rfl⟩

/-- Two sequences look alike if their first parts do, and what comes behind looks alike where
the first one went on. -/
theorem Matches.bind {m m' : Prog σ ω ε α} {f f' : α → Prog σ ω ε β} {s s' : σ}
    (h : Matches L (m s) (m' s'))
    (hf : ∀ a t t', m s = ⟨.ok a, t, (m s).log⟩ → L.view t = L.view t' →
      Matches L (f a t) (f' a t')) : Matches L ((m >>= f) s) ((m' >>= f') s') := by
  rcases hrun : m s with ⟨v, t, l⟩
  rcases hrun' : m' s' with ⟨v', t', l'⟩
  rw [hrun] at h hf
  rw [hrun'] at h
  rcases h with ⟨hval, hview, hlog⟩ | ⟨e, hval, he, hlog⟩
  · change v = v' at hval
    change l.filter L.seen = l'.filter L.seen at hlog
    subst hval
    rcases v with e | a
    · rw [Prog.bind_error hrun, Prog.bind_error hrun']
      exact .inl ⟨rfl, hview, hlog⟩
    rw [Prog.bind_ok hrun, Prog.bind_ok hrun']
    rcases hf a t t' rfl hview with ⟨hval₂, hview₂, hlog₂⟩ | ⟨e, hval₂, he, hlog₂⟩
    · refine .inl ⟨hval₂, hview₂, ?_⟩
      rw [List.filter_append, List.filter_append, hlog, hlog₂]
    · refine .inr ⟨e, hval₂, he, ?_⟩
      rw [List.filter_append, List.filter_append, hlog]
      exact (List.prefix_append_right_inj _).mpr hlog₂
  · change v = .error e at hval
    change l.filter L.seen <+: l'.filter L.seen at hlog
    subst hval
    have hbegins := (Prog.bind_log_begins m' f' s').filter L.seen
    rw [hrun'] at hbegins
    rw [Prog.bind_error hrun]
    exact .inr ⟨e, rfl, he, hlog.trans hbegins⟩

/-- What shows nothing looks like doing nothing. -/
theorem SilentFrom.matches_pure {m : Prog σ ω ε Unit} {s s' : σ} (h : SilentFrom L m s)
    (hs : L.view s = L.view s') : Matches L (m s) ((pure () : Prog σ ω ε Unit) s') := by
  have hunseen := h.unseen s rfl
  cases hval : (m s).val with
  | ok a => exact .inl ⟨hval, (h.view s rfl).trans hs, hunseen⟩
  | error e => exact .inr ⟨e, hval, h.excused s e rfl hval, hunseen ▸ List.nil_prefix⟩

/-- A loop does the same over fewer items from the states with `I`, if there its body shows
nothing for the items that are left out. -/
theorem Matches.each_filter {body : ι → Prog σ ω ε Unit} {p : ι → Bool} {I : σ → Prop}
    (h : ∀ x, p x = true → Follows L (body x) (body x))
    (hkeep : ∀ x s, I s → I (body x s).state)
    (h' : ∀ x s, p x = false → I s → SilentFrom L (body x) s) (xs : List ι) :
    ∀ s s', I s → L.view s = L.view s' →
      Matches L (Prog.each xs body s) (Prog.each (xs.filter p) body s') := by
  induction xs with
  | nil => exact fun s s' _ hs => .inl ⟨rfl, hs, rfl⟩
  | cons x xs ih =>
    intro s s' hI hs
    have hrest (a : Unit) (t t' : σ) (hrun : body x s = ⟨.ok a, t, (body x s).log⟩)
        (ht : L.view t = L.view t') :
        Matches L (Prog.each xs body t) (Prog.each (xs.filter p) body t') := by
      have hkept := hkeep x s hI
      rw [hrun] at hkept
      exact ih t t' hkept ht
    rw [Prog.each_cons]
    cases hp : p x with
    | true =>
      rw [List.filter_cons_of_pos hp, Prog.each_cons]
      exact (h x hp s s' hs).bind hrest
    | false =>
      have hskip := ((h' x s hp hI).matches_pure hs).bind hrest
      rw [Prog.pure_bind'] at hskip
      rw [List.filter_cons_of_neg (by rw [hp]; decide)]
      exact hskip

namespace Follows

theorem pure (a : α) : Follows L (pure a : Prog σ ω ε α) (pure a) :=
  fun _ _ h => .inl ⟨rfl, h, rfl⟩

theorem stop (e : ε) : Follows L (Prog.stop e : Prog σ ω ε α) (Prog.stop e) :=
  fun _ _ h => .inl ⟨rfl, h, rfl⟩

theorem emit (w : ω) : Follows L (Prog.emit w : Prog σ ω ε Unit) (Prog.emit w) :=
  fun _ _ h => .inl ⟨rfl, h, rfl⟩

theorem modify {f f' : σ → σ} (h : ∀ s s', L.view s = L.view s' → L.view (f s) = L.view (f' s')) :
    Follows L (Prog.modify f : Prog σ ω ε Unit) (Prog.modify f') :=
  fun s s' hs => .inl ⟨rfl, h s s' hs, rfl⟩

theorem bind {m m' : Prog σ ω ε α} {f f' : α → Prog σ ω ε β} (hm : Follows L m m')
    (hf : ∀ a, Follows L (f a) (f' a)) : Follows L (m >>= f) (m' >>= f') :=
  fun s s' hs => (hm s s' hs).bind fun a _ t' _ hview => hf a _ t' hview

/-- What comes first is the same in both runs. -/
theorem after {f f' : α → Prog σ ω ε β} (hf : ∀ a, Follows L (f a) (f' a)) (m : Prog σ ω ε α)
    (s : σ) : Matches L ((m >>= f) s) ((m >>= f') s) :=
  (Matches.refl (m s)).bind fun a _ t' _ hview => hf a _ t' hview

/-- What is read of the state makes no difference, since it is in the view. -/
theorem get_bind {f f' : σ → Prog σ ω ε β} (hf : ∀ d d', L.view d = L.view d' → f' d = f' d')
    (h : ∀ d, Follows L (f d) (f' d)) : Follows L (Prog.get >>= f) (Prog.get >>= f') := by
  intro s s' hs
  rw [Prog.get_bind, Prog.get_bind, ← hf s s' hs]
  exact h s s s' hs

theorem ite {c : Prop} {_ : Decidable c} {m m' n n' : Prog σ ω ε α} (h : Follows L m n)
    (h' : Follows L m' n') : Follows L (if c then m else m') (if c then n else n') := by
  split
  · exact h
  · exact h'

theorem when {c : Prop} {_ : Decidable c} {m m' : Prog σ ω ε Unit} (h : Follows L m m') :
    Follows L (Prog.when c m) (Prog.when c m') := ite h (pure ())

theorem fold {body body' : β → ι → Prog σ ω ε β}
    (h : ∀ b x, Follows L (body b x) (body' b x)) (xs : List ι) :
    ∀ b, Follows L (Prog.fold body b xs) (Prog.fold body' b xs) := by
  induction xs with
  | nil => exact pure
  | cons x xs ih =>
    intro b
    rw [Prog.fold_cons, Prog.fold_cons]
    exact bind (h b x) ih

/-- **A loop follows the same loop over fewer items**, if its body is silent on the items
that are left out. -/
theorem each_filter {body : ι → Prog σ ω ε Unit} {p : ι → Bool}
    (h : ∀ x, p x = true → Follows L (body x) (body x))
    (h' : ∀ x, p x = false → Silent L (body x)) (xs : List ι) :
    Follows L (Prog.each xs body) (Prog.each (xs.filter p) body) :=
  fun s s' hs => Matches.each_filter (I := fun _ => True) h (fun _ _ _ => trivial)
    (fun x s hp _ => (h' x hp).silentFrom s) xs s s' trivial hs

theorem each {body : ι → Prog σ ω ε Unit} (xs : List ι)
    (h : ∀ x ∈ xs, Follows L (body x) (body x)) :
    Follows L (Prog.each xs body) (Prog.each xs body) := by
  induction xs with
  | nil => exact pure ()
  | cons x xs ih =>
    rw [Prog.each_cons]
    exact bind (h x List.mem_cons_self) fun _ => ih fun y hy => h y (List.mem_cons_of_mem x hy)

end Follows

/-! ### Seeing less -/

/-- The same look, with some of the entries of the log out of sight. -/
def Look.hide (L : Look σ ω ε ν) (p : ω → Bool) : Look σ ω ε ν :=
  { L with seen := fun w => !p w && L.seen w }

theorem Matches.hide {o o' : Out σ ω ε α} (h : Matches L o o') (p : ω → Bool) :
    Matches (L.hide p) o o' := by
  have hfilter (l : List ω) : l.filter (L.hide p).seen = (l.filter L.seen).filter fun w => !p w :=
    List.filter_filter.symm
  rcases h with ⟨hval, hview, hlog⟩ | ⟨e, hval, he, hlog⟩
  · refine .inl ⟨hval, hview, ?_⟩
    rw [hfilter, hfilter, hlog]
  · refine .inr ⟨e, hval, he, ?_⟩
    rw [hfilter, hfilter]
    exact hlog.filter _

theorem Follows.hide {m m' : Prog σ ω ε α} (h : Follows L m m') (p : ω → Bool) :
    Follows (L.hide p) m m' := fun s s' hs => (h s s' hs).hide p

/-! ### Repeats -/

theorem Matches.trans {o o' o'' : Out σ ω ε α} (h : Matches L o o') (h' : Matches L o' o'') :
    Matches L o o'' := by
  rcases h with ⟨hval, hview, hlog⟩ | ⟨e, hval, he, hlog⟩
  · rw [Matches, hval, hview, hlog]
    exact h'
  · refine .inr ⟨e, hval, he, hlog.trans ?_⟩
    rcases h' with ⟨-, -, hlog'⟩ | ⟨-, -, -, hlog'⟩
    · exact hlog' ▸ List.prefix_rfl
    · exact hlog'

theorem Follows.trans {m m' m'' : Prog σ ω ε α} (h : Follows L m m') (h' : Follows L m' m'') :
    Follows L m m'' := fun s s' hs => (h s s rfl).trans (h' s s' hs)

/-- What is not seen behind `m` can be left out there. -/
theorem Follows.absorb {m m' k : Prog σ ω ε Unit} (hm : Follows L m m) (hk : Follows L k k)
    (h : ∀ s, (m s).val = .ok () → SilentFrom L m' (m s).state) :
    Follows L (m >>= fun _ => m' >>= fun _ => k) (m >>= fun _ => k) := by
  intro s s' hs
  refine (hm s s' hs).bind fun u t t' hrun hview => ?_
  have hfrom : SilentFrom L m' t := by
    have hs := h s
    rw [hrun] at hs
    exact hs rfl
  have hskip : Matches L ((m' >>= fun _ => k) t)
      (((Pure.pure () : Prog σ ω ε Unit) >>= fun _ => k) t') :=
    (hfrom.matches_pure hview).bind fun _ t₂ t₂' _ hview₂ => hk t₂ t₂' hview₂
  rwa [Prog.pure_bind'] at hskip

section

variable {body : ι → Prog σ ω ε Unit} {R : ι → ι → Prop} [DecidableRel R]

theorem Follows.each_destutter'
    (hrep : ∀ x y s, ¬ R x y → (body x s).val = .ok () → SilentFrom L (body y) (body x s).state)
    (xs : List ι) : ∀ x, (∀ y ∈ x :: xs, Follows L (body y) (body y)) →
      Follows L (Prog.each (x :: xs) body) (Prog.each (xs.destutter' R x) body) := by
  induction xs with
  | nil => exact fun x h => each [x] h
  | cons y ys ih =>
    intro x h
    have hx : Follows L (body x) (body x) := h x List.mem_cons_self
    have hys : ∀ z ∈ ys, Follows L (body z) (body z) :=
      fun z hz => h z (List.mem_cons_of_mem x (List.mem_cons_of_mem y hz))
    by_cases hR : R x y
    · rw [List.destutter'_cons_pos _ hR, Prog.each_cons, Prog.each_cons]
      exact bind hx fun _ => ih y fun z hz => h z (List.mem_cons_of_mem x hz)
    · rw [List.destutter'_cons_neg _ hR]
      refine trans ?_ (ih x (List.forall_mem_cons.mpr ⟨hx, hys⟩))
      rw [Prog.each_cons, Prog.each_cons, Prog.each_cons]
      exact absorb hx (each ys hys) fun s => hrep x y s hR

/-- **A loop follows the same loop without repeats**, if nothing is seen of an item that
comes right behind the one it repeats. -/
theorem Follows.each_destutter
    (hrep : ∀ x y s, ¬ R x y → (body x s).val = .ok () → SilentFrom L (body y) (body x s).state)
    {xs : List ι} (h : ∀ x ∈ xs, Follows L (body x) (body x)) :
    Follows L (Prog.each xs body) (Prog.each (xs.destutter R) body) := by
  cases xs with
  | nil => exact each [] h
  | cons x xs => exact each_destutter' hrep xs x h

end

end HealthSafety.Lib
