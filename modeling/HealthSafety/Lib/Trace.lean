import HealthSafety.Lib.Prog

/-!
# Logs with their history

`Along P l` says that every entry of the log `l`, together with what was logged
before it, satisfies `P`.  To prove it of a chain of moves one needs an invariant
between the history and the state; a move that keeps both, whatever the history, is
`KeepsAlong`, and this is a law.  `Ahead Q l` is about what is logged behind an entry.
`Latch on p` is the law of a condition that the entries with `p` end for good.

`Logged m s before x` says that the run of `m` from `s` logs `x` right behind `before`.  An
entry of a sequence or of a loop is an entry of one of its parts, in the run of that part
from the state in which it starts (`Logged.bind`, `Logged.fold`, `Logged.each`).
-/

namespace HealthSafety.Lib

variable {σ ω ε α β ι : Type}

/-- An entry of two logs, one behind the other, is an entry of one of them. -/
theorem append_eq_split {l l' before after : List ω} {x : ω} (h : l ++ l' = before ++ x :: after) :
    (∃ rest, l = before ++ x :: rest ∧ after = rest ++ l') ∨
      ∃ rest, before = l ++ rest ∧ l' = rest ++ x :: after := by
  rcases List.append_eq_append_iff.mp h with ⟨rest, hbefore, hl'⟩ | ⟨rest, hl, hx⟩
  · exact .inr ⟨rest, hbefore, hl'⟩
  · cases rest with
    | nil =>
      rw [List.append_nil] at hl
      exact .inr ⟨[], by rw [hl, List.append_nil], hx.symm⟩
    | cons y rest =>
      obtain ⟨rfl, hafter⟩ := List.cons.inj hx
      exact .inl ⟨rest, hl, hafter⟩

/-- Every entry of the log satisfies `P`, given what was logged before it. -/
def Along (P : List ω → ω → Prop) (l : List ω) : Prop :=
  ∀ before x after, l = before ++ x :: after → P before x

namespace Along

variable {P : List ω → ω → Prop}

theorem nil : Along P [] := by
  intro before x after h
  simp at h

theorem append {l l' : List ω} (h : Along P l) (h' : Along (fun before => P (l ++ before)) l') :
    Along P (l ++ l') := by
  intro before x after heq
  rcases append_eq_split heq with ⟨rest, hl, -⟩ | ⟨rest, rfl, hl'⟩
  · exact h before x rest hl
  · exact h' rest x after hl'

/-- Entries of no interest need no history. -/
theorem of_forall {l : List ω} (h : ∀ x ∈ l, ∀ before, P before x) : Along P l := by
  rintro before x after rfl
  exact h x (by simp) before

theorem single {x : ω} (h : P [] x) : Along P [x] := by
  intro before y after heq
  cases before with
  | nil =>
    obtain ⟨rfl, -⟩ := List.cons.inj heq
    exact h
  | cons z before => simp at heq

theorem mono {P' : List ω → ω → Prop} (h : ∀ before x, P before x → P' before x) {l : List ω}
    (hl : Along P l) : Along P' l := fun before x after heq => h before x (hl before x after heq)

/-- What needs no more of the history than its end. -/
theorem law (hP : ∀ h before x, P before x → P (h ++ before) x) :
    Law fun (_ : σ) (l : List ω) (_ : σ) => Along P l :=
  ⟨fun _ => nil, fun {_ _ _ l _} h h' => h.append (h'.mono (hP l))⟩

end Along

/-- Every entry with `p` satisfies `P`, given what was logged before it. -/
def AlongOn (p : ω → Bool) (P : List ω → ω → Prop) (l : List ω) : Prop :=
  Along (fun before x => p x = true → P before x) l

theorem not_mem_of_free {p : ω → Bool} {l : List ω} (h : ∀ y ∈ l, p y = false) {x : ω}
    (hx : p x = true) : x ∉ l :=
  fun hmem => Bool.false_ne_true ((h x hmem).symm.trans hx)

namespace AlongOn

variable {p : ω → Bool} {P : List ω → ω → Prop} {l l' : List ω}

theorem law (hP : ∀ h before x, P before x → P (h ++ before) x) :
    Law fun (_ : σ) (l : List ω) (_ : σ) => AlongOn p P l :=
  Along.law fun h before x hx hp => hP h before x (hx hp)

theorem of_free (h : ∀ x ∈ l, p x = false) : AlongOn p P l := by
  refine Along.of_forall fun x hx _ hp => ?_
  rw [h x hx] at hp
  cases hp

theorem of_single {x : ω} (h : ∀ y ∈ l, p y = false) (hx : P l x) (h' : ∀ y ∈ l', p y = false) :
    AlongOn p P (l ++ x :: l') := by
  have hlast : Along (fun before y => p y = true → P (l ++ before) y) [x] := by
    refine .single fun _ => ?_
    rwa [List.append_nil]
  exact (of_free h).append (hlast.append (of_free h'))

/-- Behind entries without `p`. -/
theorem behind (h : ∀ y ∈ l, p y = false) (h' : AlongOn p (fun before => P (l ++ before)) l') :
    AlongOn p P (l ++ l') := (of_free h).append h'

end AlongOn

/-- Every entry of the log satisfies `Q`, given what is logged behind it. -/
def Ahead (Q : ω → List ω → Prop) (l : List ω) : Prop :=
  ∀ before x after, l = before ++ x :: after → Q x after

namespace Ahead

variable {Q : ω → List ω → Prop}

theorem append (hQ : ∀ x l l', Q x l → Q x (l ++ l')) {l l' : List ω} (h : Ahead Q l)
    (h' : Ahead Q l') : Ahead Q (l ++ l') := by
  intro before x after heq
  rcases append_eq_split heq with ⟨rest, hl, rfl⟩ | ⟨rest, -, hl'⟩
  · exact hQ x rest l' (h before x rest hl)
  · exact h' rest x after hl'

theorem of_forall {l : List ω} (h : ∀ x ∈ l, ∀ after, Q x after) : Ahead Q l := by
  rintro before x after rfl
  exact h x (by simp) after

theorem law (hQ : ∀ x l l', Q x l → Q x (l ++ l')) :
    Law fun (_ : σ) (l : List ω) (_ : σ) => Ahead Q l :=
  ⟨fun _ => of_forall (by simp), append hQ⟩

end Ahead

/-- An invariant between the history and the state, kept by a move that logs `l`. -/
def KeepsAlong (I : List ω → σ → Prop) (P : List ω → ω → Prop) (s : σ) (l : List ω) (t : σ) :
    Prop :=
  ∀ h, I h s → I (h ++ l) t ∧ Along (fun before => P (h ++ before)) l

theorem KeepsAlong.law (I : List ω → σ → Prop) (P : List ω → ω → Prop) :
    Law (KeepsAlong I P) := by
  refine ⟨fun s h hs => ⟨by simpa using hs, .nil⟩, fun {s t u l l'} hst htu h hs => ?_⟩
  obtain ⟨ht, hl⟩ := hst h hs
  obtain ⟨hu, hl'⟩ := htu (h ++ l) ht
  rw [List.append_assoc] at hu
  exact ⟨hu, hl.append (by simpa only [List.append_assoc] using hl')⟩

/-- `on` holds afterwards if it held before and no entry with `p` was logged. -/
def Latch (on : σ → Prop) (p : ω → Bool) (s : σ) (l : List ω) (t : σ) : Prop :=
  on t ↔ on s ∧ l.countP p = 0

theorem Latch.law (on : σ → Prop) (p : ω → Bool) : Law (Latch on p) := by
  refine ⟨fun s => by simp [Latch], fun {s t u l l'} hst htu => ?_⟩
  unfold Latch at hst htu ⊢
  rw [htu, hst, List.countP_append, Nat.add_eq_zero_iff, and_assoc]

/-! ### Entries and the runs they stand in -/

/-- The run of `m` from `s` logs `x` right behind `before`. -/
def Logged (m : Prog σ ω ε α) (s : σ) (before : List ω) (x : ω) : Prop :=
  ∃ after, (m s).log = before ++ x :: after

namespace Logged

variable {m : Prog σ ω ε α} {f : α → Prog σ ω ε β} {s : σ} {before : List ω} {x : ω}

theorem mem (h : Logged m s before x) : x ∈ (m s).log := by
  obtain ⟨after, hlog⟩ := h
  rw [hlog]
  exact List.mem_append_right before List.mem_cons_self

theorem not_nil (h : (m s).log = []) : ¬ Logged m s before x :=
  fun hx => List.not_mem_nil (h ▸ hx.mem)

theorem along {P : List ω → ω → Prop} (h : Logged m s before x) (hP : Along P (m s).log) :
    P before x := by
  obtain ⟨after, hlog⟩ := h
  exact hP before x after hlog

/-- An entry of a sequence is an entry of its first part, or of its second part if the first
one returns. -/
theorem bind (h : Logged (m >>= f) s before x) : Logged m s before x ∨
    ∃ a t l rest, m s = ⟨.ok a, t, l⟩ ∧ before = l ++ rest ∧ Logged (f a) t rest x := by
  obtain ⟨after, hlog⟩ := h
  rcases hm : m s with ⟨e | a, t, l⟩
  · rw [Prog.bind_error hm] at hlog
    exact .inl ⟨after, by rw [hm]; exact hlog⟩
  · rw [Prog.bind_ok hm] at hlog
    rcases append_eq_split hlog with ⟨rest, hl, -⟩ | ⟨rest, hbefore, hl⟩
    · exact .inl ⟨rest, by rw [hm]; exact hl⟩
    · exact .inr ⟨a, t, l, rest, rfl, hbefore, after, hl⟩

/-- The first part of a sequence logs nothing like it. -/
theorem bind_last (h : Logged (m >>= f) s before x) (hm : x ∉ (m s).log) :
    ∃ a t l rest, m s = ⟨.ok a, t, l⟩ ∧ before = l ++ rest ∧ Logged (f a) t rest x :=
  h.bind.resolve_left fun hx => hm hx.mem

/-- The second part logs nothing like it. -/
theorem bind_first (h : Logged (m >>= f) s before x) (hf : ∀ a t, x ∉ (f a t).log) :
    Logged m s before x :=
  h.bind.resolve_right fun ⟨a, t, _, _, _, _, hx⟩ => hf a t hx.mem

/-- An entry of the first part is an entry of the sequence. -/
theorem left (h : Logged m s before x) : Logged (m >>= f) s before x := by
  obtain ⟨after, hlog⟩ := h
  obtain ⟨rest, hrest⟩ := Prog.bind_log_begins m f s
  exact ⟨after ++ rest, by rw [← hrest, hlog, List.append_assoc, List.cons_append]⟩

/-- An entry of the second part is an entry of the sequence, behind the first part. -/
theorem right {a : α} {t : σ} {l : List ω} (hm : m s = ⟨.ok a, t, l⟩)
    (h : Logged (f a) t before x) : Logged (m >>= f) s (l ++ before) x := by
  obtain ⟨after, hlog⟩ := h
  exact ⟨after, by rw [Prog.bind_ok hm, hlog, List.append_assoc]⟩

/-- An entry of a loop with local variables is an entry of one turn of it. -/
theorem fold {body : β → ι → Prog σ ω ε β} {b : β} {xs : List ι}
    (h : Logged (Prog.fold body b xs) s before x) : ∃ ys y zs, xs = ys ++ y :: zs ∧
      ∃ b' t l rest, Prog.fold body b ys s = ⟨.ok b', t, l⟩ ∧ before = l ++ rest ∧
        Logged (body b' y) t rest x := by
  induction xs generalizing b s before with
  | nil => exact absurd h (not_nil rfl)
  | cons y xs ih =>
    rw [Prog.fold_cons] at h
    rcases h.bind with hx | ⟨b₁, t, l, rest, hrun, hbefore, hx⟩
    · exact ⟨[], y, xs, rfl, b, s, [], before, rfl, rfl, hx⟩
    · obtain ⟨ys, z, zs, rfl, b', u, l', rest', hrun', hrest, hx'⟩ := ih hx
      refine ⟨y :: ys, z, zs, rfl, b', u, l ++ l', rest', ?_, ?_, hx'⟩
      · rw [Prog.fold_cons, Prog.bind_ok hrun, hrun']
      · rw [hbefore, hrest, List.append_assoc]

/-- An entry of a loop is an entry of one turn of it. -/
theorem each {body : ι → Prog σ ω ε Unit} {xs : List ι}
    (h : Logged (Prog.each xs body) s before x) : ∃ ys y zs, xs = ys ++ y :: zs ∧
      ∃ t l rest, Prog.each ys body s = ⟨.ok (), t, l⟩ ∧ before = l ++ rest ∧
        Logged (body y) t rest x := by
  induction xs generalizing s before with
  | nil => exact absurd h (not_nil rfl)
  | cons y xs ih =>
    rw [Prog.each_cons] at h
    rcases h.bind with hx | ⟨_, t, l, rest, hrun, hbefore, hx⟩
    · exact ⟨[], y, xs, rfl, s, [], before, rfl, rfl, hx⟩
    · obtain ⟨ys, z, zs, rfl, u, l', rest', hrun', hrest, hx'⟩ := ih hx
      refine ⟨y :: ys, z, zs, rfl, u, l ++ l', rest', ?_, ?_, hx'⟩
      · rw [Prog.each_cons, Prog.bind_ok hrun, hrun']
      · rw [hbefore, hrest, List.append_assoc]

end Logged

end HealthSafety.Lib
