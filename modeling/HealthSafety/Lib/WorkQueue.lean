import Mathlib.Data.Fintype.Card
import Mathlib.Logic.Hydra
import Mathlib.Order.WellFounded

/-!
# Queues that feed themselves

A worker takes the first item of a queue, handles it and appends what comes of it;
the loop ends when the queue is empty.  If what comes of an item lies below it in a
well-founded order, or else a rank of the worker's state goes down, the loop ends
(`terminates_of_feeds`): the queue is a multiset in which one item is replaced by
smaller ones.  If some items are live and what comes of a live item contains a live
one, it does not (`not_terminates_of_live`).

Between finitely many items "below" may be any relation without a cycle
(`wellFounded_of_acyclic`), and the items that lead to a cycle are live
(`exists_leads_of_cycle`).
-/

namespace HealthSafety.Lib.WorkQueue

open Relation

variable {σ α β ρ : Type}

/-- A merge of two lists that keeps the order of each. -/
inductive Interleaved : List α → List α → List α → Prop
  | nil : Interleaved [] [] []
  | left {a : α} {xs ys zs : List α} (h : Interleaved xs ys zs) : Interleaved (a :: xs) ys (a :: zs)
  | right {a : α} {xs ys zs : List α} (h : Interleaved xs ys zs) :
      Interleaved xs (a :: ys) (a :: zs)

theorem Interleaved.right_nil (xs : List α) : Interleaved xs [] xs := by
  induction xs with
  | nil => exact .nil
  | cons a xs ih => exact .left ih

theorem Interleaved.eq_of_nil {xs zs : List α} (h : Interleaved xs [] zs) : zs = xs := by
  generalize hys : ([] : List α) = ys at h
  induction h with
  | nil => rfl
  | left _ ih => rw [ih hys]
  | right => cases hys

/-- One round: the first item is handled, and what comes of it is appended. -/
def Round (handle : σ → α → σ → List α → Prop) (x y : σ × List α) : Prop :=
  ∃ a queue new, x.2 = a :: queue ∧ handle x.1 a y.1 new ∧ y.2 = queue ++ new

/-- No infinite sequence of steps starts at `x`. -/
def Terminates (step : β → β → Prop) (x : β) : Prop :=
  ¬ ∃ f : Nat → β, f 0 = x ∧ ∀ n, step (f n) (f (n + 1))

theorem terminates_iff_acc {step : β → β → Prop} {x : β} :
    Terminates step x ↔ Acc (fun y x => step x y) x := by
  rw [Terminates, ← not_acc_iff_exists_descending_chain (r := fun y x => step x y), not_not]

/-- The steps go on as long as there is one that stays in `G`. -/
theorem not_terminates {step : β → β → Prop} {G : β → Prop}
    (h : ∀ x, G x → ∃ y, step x y ∧ G y) {x : β} (hx : G x) : ¬ Terminates step x := by
  rw [terminates_iff_acc]
  intro hacc
  induction hacc with
  | intro x _ ih =>
    obtain ⟨y, hstep, hy⟩ := h x hx
    exact ih y hstep hy

variable {handle : σ → α → σ → List α → Prop} {I : σ → Prop}

/-- **A queue ends if every round lowers the rank of the state, or keeps it and appends
only items below the one that is handled.** -/
theorem terminates_of_feeds {lt : ρ → ρ → Prop} (hlt : WellFounded lt) {feeds : α → α → Prop}
    (hfeeds : WellFounded feeds) (rank : σ → ρ)
    (h : ∀ s a t new, I s → handle s a t new →
      I t ∧ (lt (rank t) (rank s) ∨ rank t = rank s ∧ ∀ b ∈ new, feeds b a))
    {s : σ} (hs : I s) (queue : List α) : Terminates (Round handle) (s, queue) := by
  rintro ⟨f, hf₀, hf⟩
  have hI (n : Nat) : I (f n).1 := by
    induction n with
    | zero =>
      rw [hf₀]
      exact hs
    | succ n ih =>
      obtain ⟨a, queue, new, -, hhandle, -⟩ := hf n
      exact (h _ _ _ _ ih hhandle).1
  let g (n : Nat) : ρ × Multiset α := (rank (f n).1, ((f n).2 : Multiset α))
  have hdown (n : Nat) : Prod.Lex lt (CutExpand feeds) (g (n + 1)) (g n) := by
    obtain ⟨a, queue, new, hqueue, hhandle, hnew⟩ := hf n
    rcases (h _ _ _ _ (hI n) hhandle).2 with hrank | ⟨hrank, hbelow⟩
    · exact .left _ _ hrank
    · simp only [g, hrank, hqueue, hnew]
      refine .right _ ⟨(new : Multiset α), a, fun b hb => hbelow b (Multiset.mem_coe.mp hb), ?_⟩
      rw [← Multiset.coe_add, ← Multiset.cons_coe, ← Multiset.singleton_add]
      ac_rfl
  exact (wellFounded_iff_isEmpty_descending_chain.mp (hlt.prod_lex hfeeds.cutExpand)).false
    ⟨g, hdown⟩

/-- **A queue with a live item does not end if every item can be handled so that a live one
leaves a live one behind.** -/
theorem not_terminates_of_live {live : α → Prop}
    (h : ∀ s a, I s → ∃ t new, handle s a t new ∧ I t ∧ (live a → ∃ b ∈ new, live b))
    {s : σ} (hs : I s) {queue : List α} (hq : ∃ a ∈ queue, live a) :
    ¬ Terminates (Round handle) (s, queue) := by
  refine not_terminates (G := fun x => I x.1 ∧ ∃ a ∈ x.2, live a) ?_ ⟨hs, hq⟩
  rintro ⟨s, queue⟩ ⟨hs, b, hb, hlive⟩
  cases queue with
  | nil => cases hb
  | cons a queue =>
    obtain ⟨t, new, hhandle, ht, hnew⟩ := h s a hs
    refine ⟨(t, queue ++ new), ⟨a, queue, new, rfl, hhandle, rfl⟩, ht, ?_⟩
    rcases List.mem_cons.mp hb with rfl | hb
    · obtain ⟨c, hc, hlive⟩ := hnew hlive
      exact ⟨c, List.mem_append_right _ hc, hlive⟩
    · exact ⟨b, List.mem_append_left _ hb, hlive⟩

/-! ### Cycles -/

variable {leads : β → β → Prop}

theorem wellFounded_of_acyclic [Finite β] (h : ∀ a, ¬ TransGen leads a a) :
    WellFounded fun b a => leads a b := by
  have hirrefl : Std.Irrefl (TransGen fun b a => leads a b) :=
    ⟨fun a ha => h a (transGen_swap.mp ha)⟩
  have htrans : IsTrans β (TransGen fun b a => leads a b) := inferInstance
  have hwf := Finite.wellFounded_of_trans_of_irrefl (TransGen fun b a => leads a b)
  have hsub : Subrelation (fun b a => leads a b) (TransGen fun b a => leads a b) :=
    fun hab => .single hab
  exact hsub.wf hwf

/-- What leads to a cycle leads to something that does. -/
theorem exists_leads_of_cycle {a c : β} (hc : TransGen leads c c) (ha : TransGen leads a c) :
    ∃ b, leads a b ∧ TransGen leads b c := by
  obtain ⟨b, hab, hbc⟩ := TransGen.head'_iff.mp ha
  refine ⟨b, hab, ?_⟩
  rcases reflTransGen_iff_eq_or_transGen.mp hbc with rfl | hbc
  · exact hc
  · exact hbc

end HealthSafety.Lib.WorkQueue
