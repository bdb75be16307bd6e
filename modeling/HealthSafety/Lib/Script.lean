import HealthSafety.Lib.Prog
import Mathlib.Logic.Function.Iterate

/-!
# Scripts

A `Deed` is what an action does, seen from outside: what can be observed of it, what it
leaves to the next action, and whether it returns.  `perform act xs` is the actions of a
list one after another, up to the first that does not return; the actions of lists in a
list are those of the one long list (`perform_flatMap`).

`Performs m k d` says that a program does this: from the state in which `k` has been
carried over it logs what the deed shows, stops or returns as the deed does, and changes
nothing in the state but what is carried over.  A loop whose body does the actions
performs the list, whatever local variables it hands from one round to the next
(`Performs.fold`, `Performs.each`).
-/

namespace HealthSafety.Lib

variable {κ η ι ι' : Type}

/-- What an action does. -/
structure Deed (κ η : Type) where
  shown : List η
  after : κ
  returns : Bool

namespace Deed

/-- Nothing is done. -/
def idle (k : κ) : Deed κ η := ⟨[], k, true⟩

/-- One deed after another, if the first one returns. -/
def andThen (d : Deed κ η) (f : κ → Deed κ η) : Deed κ η :=
  if d.returns = true then
    ⟨d.shown ++ (f d.after).shown, (f d.after).after, (f d.after).returns⟩
  else d

theorem andThen_of_returns {d : Deed κ η} (h : d.returns = true) (f : κ → Deed κ η) :
    d.andThen f = ⟨d.shown ++ (f d.after).shown, (f d.after).after, (f d.after).returns⟩ := if_pos h

theorem andThen_of_not_returns {d : Deed κ η} (h : d.returns = false) (f : κ → Deed κ η) :
    d.andThen f = d := if_neg (by rw [h]; decide)

@[simp] theorem andThen_idle (d : Deed κ η) : d.andThen idle = d := by
  cases h : d.returns with
  | true => rw [andThen_of_returns h, idle, List.append_nil, ← h]
  | false => exact andThen_of_not_returns h _

theorem andThen_assoc (d : Deed κ η) (f g : κ → Deed κ η) :
    (d.andThen f).andThen g = d.andThen fun k => (f k).andThen g := by
  cases h : d.returns with
  | false => rw [andThen_of_not_returns h, andThen_of_not_returns h, andThen_of_not_returns h]
  | true =>
    rw [andThen_of_returns h, andThen_of_returns h]
    cases hf : (f d.after).returns with
    | false => rw [andThen_of_not_returns rfl, andThen_of_not_returns hf, hf]
    | true => rw [andThen_of_returns rfl, andThen_of_returns hf, List.append_assoc]

theorem exists_shown_andThen (d : Deed κ η) (f : κ → Deed κ η) :
    ∃ post, (d.andThen f).shown = d.shown ++ post := by
  cases h : d.returns with
  | true => exact ⟨(f d.after).shown, by rw [andThen_of_returns h]⟩
  | false => exact ⟨[], by rw [andThen_of_not_returns h, List.append_nil]⟩

end Deed

/-! ### Lists of actions -/

/-- The actions of a list, one after another. -/
def perform (act : ι → κ → Deed κ η) : List ι → κ → Deed κ η
  | [], k => .idle k
  | x :: xs, k => (act x k).andThen (perform act xs)

variable {act : ι → κ → Deed κ η} {xs ys : List ι} {k : κ}

theorem perform_cons (x : ι) : perform act (x :: xs) k = (act x k).andThen (perform act xs) := rfl

theorem perform_singleton (x : ι) : perform act [x] k = act x k := Deed.andThen_idle _

theorem perform_append :
    perform act (xs ++ ys) k = (perform act xs k).andThen (perform act ys) := by
  induction xs generalizing k with
  | nil => rfl
  | cons x xs ih =>
    have hrest : perform act (xs ++ ys) = fun k => (perform act xs k).andThen (perform act ys) :=
      funext fun k => ih
    rw [List.cons_append, perform_cons, perform_cons, hrest, Deed.andThen_assoc]

/-- An action that is got to shows what it does behind what the ones before it show. -/
theorem perform_reached (h : (perform act xs k).returns = true) (x : ι) (ys : List ι) :
    ∃ post, (perform act (xs ++ x :: ys) k).shown =
      (perform act xs k).shown ++ (act x (perform act xs k).after).shown ++ post := by
  rw [perform_append, Deed.andThen_of_returns h, perform_cons]
  obtain ⟨post, hpost⟩ := (act x (perform act xs k).after).exists_shown_andThen (perform act ys)
  exact ⟨post, by rw [hpost, List.append_assoc]⟩

/-- **Lists of actions in a list are one long list of actions.** -/
theorem perform_flatMap (g : ι' → List ι) (zs : List ι') :
    perform act (zs.flatMap g) k = perform (fun z => perform act (g z)) zs k := by
  induction zs generalizing k with
  | nil => rfl
  | cons z zs ih =>
    have hrest : perform act (zs.flatMap g) = perform (fun z => perform act (g z)) zs :=
      funext fun k => ih
    rw [List.flatMap_cons, perform_append, perform_cons, hrest]

/-! ### Counting -/

/-- The number of actions that are begun. -/
def begun (act : ι → κ → Deed κ η) : List ι → κ → Nat
  | [], _ => 0
  | x :: xs, k => if (act x k).returns = true then begun act xs (act x k).after + 1 else 1

/-- When the last action returns, all have been begun. -/
theorem begun_of_returns (h : (perform act xs k).returns = true) : begun act xs k = xs.length := by
  induction xs generalizing k with
  | nil => rfl
  | cons x xs ih =>
    rw [perform_cons] at h
    cases hx : (act x k).returns with
    | false => rw [Deed.andThen_of_not_returns hx, hx] at h; cases h
    | true =>
      rw [Deed.andThen_of_returns hx] at h
      rw [begun, if_pos hx, ih h, List.length_cons]

/-- An action that also counts. -/
def counting {ν : Type} (tick : ν → ν) (act : ι → κ → Deed κ η) (x : ι) (k : ν × κ) :
    Deed (ν × κ) η :=
  ⟨(act x k.2).shown, (tick k.1, (act x k.2).after), (act x k.2).returns⟩

theorem perform_counting {ν : Type} (tick : ν → ν) (n : ν) :
    perform (counting tick act) xs (n, k) = ⟨(perform act xs k).shown,
      (tick^[begun act xs k] n, (perform act xs k).after), (perform act xs k).returns⟩ := by
  induction xs generalizing n k with
  | nil => rfl
  | cons x xs ih =>
    rw [perform_cons, perform_cons, begun]
    cases hx : (act x k).returns with
    | false =>
      have hx' : (counting tick act x (n, k)).returns = false := hx
      rw [Deed.andThen_of_not_returns hx, Deed.andThen_of_not_returns hx', if_neg (by decide)]
      rfl
    | true =>
      have hx' : (counting tick act x (n, k)).returns = true := hx
      rw [Deed.andThen_of_returns hx, Deed.andThen_of_returns hx', if_pos rfl]
      simp only [counting, ih, Function.iterate_succ_apply]

/-! ### Programs that do deeds -/

variable {σ ω ε α β : Type} {obs : ω → Option η} {put : κ → σ} {e : ε}

/-- With `k` carried over, `m` does `d`: of its log `obs` shows what `d` shows, the state
is changed only in what is carried over, and `m` stops with `e` if `d` does not return. -/
def Performs (obs : ω → Option η) (put : κ → σ) (e : ε) (m : Prog σ ω ε α) (k : κ)
    (d : Deed κ η) : Prop :=
  ∃ a l, m (put k) = ⟨if d.returns = true then .ok a else .error e, put d.after, l⟩ ∧
    l.filterMap obs = d.shown

namespace Performs

theorem pure (a : α) : Performs obs put e (pure a : Prog σ ω ε α) k (.idle k) := ⟨a, [], rfl, rfl⟩

theorem shown {w : ω} {c : η} (h : obs w = some c) :
    Performs obs put e (Prog.emit w) k ⟨[c], k, true⟩ :=
  ⟨(), [w], rfl, List.filterMap_cons_some h⟩

theorem bind {m : Prog σ ω ε α} {f : α → Prog σ ω ε β} {d : Deed κ η} {g : κ → Deed κ η}
    (hm : Performs obs put e m k d) (hf : ∀ a k, Performs obs put e (f a) k (g k)) :
    Performs obs put e (m >>= f) k (d.andThen g) := by
  obtain ⟨a, l, hrun, hshown⟩ := hm
  obtain ⟨b, l', hrun', hshown'⟩ := hf a d.after
  cases hret : d.returns with
  | false =>
    rw [hret] at hrun
    refine ⟨b, l, ?_, ?_⟩
    · rw [Deed.andThen_of_not_returns hret, hret, Prog.bind_error hrun]
      rfl
    · rw [Deed.andThen_of_not_returns hret, hshown]
  | true =>
    rw [hret] at hrun
    refine ⟨b, l ++ l', ?_, ?_⟩
    · rw [Deed.andThen_of_returns hret, Prog.bind_ok hrun, hrun']
    · rw [Deed.andThen_of_returns hret, List.filterMap_append, hshown, hshown']

/-- What is behind the program does not show. -/
theorem andPure {m : Prog σ ω ε α} {d : Deed κ η} (hm : Performs obs put e m k d) (f : α → β) :
    Performs obs put e (m >>= fun a => Pure.pure (f a)) k d := by
  have h := hm.bind fun a k => Performs.pure (f a)
  rwa [show (d.andThen fun k => Deed.idle k) = d from Deed.andThen_idle d] at h

theorem fold {body : β → ι → Prog σ ω ε β}
    (hbody : ∀ b x k, Performs obs put e (body b x) k (act x k)) (b : β) (xs : List ι)
    (k : κ) : Performs obs put e (Prog.fold body b xs) k (perform act xs k) := by
  induction xs generalizing b k with
  | nil => exact .pure b
  | cons x xs ih => exact (hbody b x k).bind fun b k => ih b k

theorem each {body : ι → Prog σ ω ε Unit} (hbody : ∀ x k, Performs obs put e (body x) k (act x k))
    (xs : List ι) (k : κ) : Performs obs put e (Prog.each xs body) k (perform act xs k) := by
  induction xs generalizing k with
  | nil => exact .pure ()
  | cons x xs ih => exact (hbody x k).bind fun _ k => ih k

end Performs

end HealthSafety.Lib
