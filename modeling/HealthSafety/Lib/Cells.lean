import HealthSafety.Lib.Script
import Mathlib.Data.List.Nodup

/-!
# Actions with a cell of their own

A loop over the entries of a table often keeps something for each entry, a counter or a
flag, which only the entry itself reads and writes.  `inCell` is an action that works in
such a cell: it sees what its cell holds and what the actions before it left over, and
moves the cell on.  In a list without repetitions every action finds its cell as it was
before the first one (`perform_inCell`), so the actions meet only in what is carried over.

`marking` is an action that leaves a mark of its own; the marks of a list are those of the
actions that were begun (`perform_marking`).
-/

namespace HealthSafety.Lib

variable {κ η ι γ ν : Type} {xs : List ι}

theorem perform_congr {act act' : ι → κ → Deed κ η} (h : ∀ x ∈ xs, act x = act' x) (k : κ) :
    perform act xs k = perform act' xs k ∧ begun act xs k = begun act' xs k := by
  induction xs generalizing k with
  | nil => exact ⟨rfl, rfl⟩
  | cons x xs ih =>
    have hrest (k : κ) := ih (fun y hy => h y (List.mem_cons_of_mem x hy)) k
    have hperform : perform act xs = perform act' xs := funext fun k => (hrest k).1
    rw [perform_cons, perform_cons, begun, begun, h x List.mem_cons_self, hperform, (hrest _).2]
    exact ⟨rfl, rfl⟩

/-! ### Cells -/

/-- An action that works in the cell of its item. -/
def inCell [DecidableEq ι] (act : ι → γ → κ → Deed κ η) (next : ι → γ → γ) (x : ι)
    (k : κ × (ι → γ)) : Deed (κ × (ι → γ)) η :=
  ⟨(act x (k.2 x) k.1).shown,
    ((act x (k.2 x) k.1).after, Function.update k.2 x (next x (k.2 x))),
    (act x (k.2 x) k.1).returns⟩

/-- **Every action finds its cell as it was before the first one**, and the cells of the
actions that are begun are moved on. -/
theorem perform_inCell [DecidableEq ι] {act : ι → γ → κ → Deed κ η} {next : ι → γ → γ}
    (hxs : xs.Nodup) (k : κ) (f : ι → γ) :
    perform (inCell act next) xs (k, f) = ⟨(perform (fun x => act x (f x)) xs k).shown,
      ((perform (fun x => act x (f x)) xs k).after,
        fun x => if x ∈ xs.take (begun (fun x => act x (f x)) xs k) then next x (f x) else f x),
      (perform (fun x => act x (f x)) xs k).returns⟩ := by
  induction xs generalizing k f with
  | nil => rfl
  | cons x xs ih =>
    obtain ⟨hx, hxs⟩ := List.nodup_cons.mp hxs
    let f' := Function.update f x (next x (f x))
    have hother {y : ι} (hy : y ∈ xs) : f' y = f y := by
      refine Function.update_of_ne (fun heq => hx ?_) _ _
      rw [← heq]
      exact hy
    have hsame (k : κ) : perform (fun y => act y (f' y)) xs k = perform (fun y => act y (f y)) xs k ∧
        begun (fun y => act y (f' y)) xs k = begun (fun y => act y (f y)) xs k :=
      perform_congr (fun y hy => by rw [hother hy]) k
    have hfirst : inCell act next x (k, f) =
        ⟨(act x (f x) k).shown, ((act x (f x) k).after, f'), (act x (f x) k).returns⟩ := rfl
    rw [perform_cons, perform_cons, hfirst, begun]
    cases hret : (act x (f x) k).returns with
    | false =>
      rw [Deed.andThen_of_not_returns rfl, Deed.andThen_of_not_returns hret, if_neg (by decide),
        hret]
      congr 2
      funext y
      by_cases hy : y = x
      · subst hy
        simp [f']
      · simp [f', hy]
    | true =>
      have hnext := ih hxs (act x (f x) k).after f'
      rw [(hsame _).1, (hsame _).2] at hnext
      generalize begun (fun y => act y (f y)) xs (act x (f x) k).after = n at hnext ⊢
      have hcells : (fun y => if y ∈ xs.take n then next y (f' y) else f' y) =
          fun y => if y ∈ (x :: xs).take (n + 1) then next y (f y) else f y := by
        funext y
        rw [List.take_succ_cons]
        by_cases hy : y = x
        · subst hy
          rw [if_neg fun h => hx (List.mem_of_mem_take h), if_pos List.mem_cons_self]
          exact Function.update_self _ _ _
        · have hf : f' y = f y := Function.update_of_ne hy _ _
          rw [hf]
          simp only [List.mem_cons, hy, false_or]
      rw [Deed.andThen_of_returns rfl, Deed.andThen_of_returns hret, if_pos rfl, hnext, hcells]

/-! ### Marks -/

/-- An action that leaves a mark. -/
def marking (mark : ι → ν → ν) (act : ι → κ → Deed κ η) (x : ι) (k : ν × κ) : Deed (ν × κ) η :=
  ⟨(act x k.2).shown, (mark x k.1, (act x k.2).after), (act x k.2).returns⟩

theorem perform_marking {act : ι → κ → Deed κ η} (mark : ι → ν → ν) (n : ν) (k : κ) :
    perform (marking mark act) xs (n, k) = ⟨(perform act xs k).shown,
        ((xs.take (begun act xs k)).foldl (fun n x => mark x n) n, (perform act xs k).after),
        (perform act xs k).returns⟩ ∧
      begun (marking mark act) xs (n, k) = begun act xs k := by
  induction xs generalizing n k with
  | nil => exact ⟨rfl, rfl⟩
  | cons x xs ih =>
    have hfirst : marking mark act x (n, k) =
        ⟨(act x k).shown, (mark x n, (act x k).after), (act x k).returns⟩ := rfl
    rw [perform_cons, perform_cons, begun, begun, hfirst]
    cases hret : (act x k).returns with
    | false =>
      rw [Deed.andThen_of_not_returns rfl, Deed.andThen_of_not_returns hret, if_neg (by decide),
        hret]
      exact ⟨rfl, rfl⟩
    | true =>
      obtain ⟨hperform, hbegun⟩ := ih (mark x n) (act x k).after
      rw [Deed.andThen_of_returns rfl, Deed.andThen_of_returns hret, if_pos rfl, if_pos rfl,
        hperform, hbegun, List.take_succ_cons, List.foldl_cons]
      exact ⟨rfl, rfl⟩

end HealthSafety.Lib
