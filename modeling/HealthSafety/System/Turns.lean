import HealthSafety.Lib.Trace
import HealthSafety.Model.Main

/-!
# The turns of a run

`HS_AppMain` is its start, one turn of the main loop after another, and its end.  A law of
the passes, the start and the end is a law of the run (`appMain_moves`).

`InTurn` ties an entry of the log to a turn: the run comes to that turn, its pass starts in a
certain state, and the entry stands in the part of the log that this pass writes.  Every entry
that neither the start nor the end can log stands in a turn (`appMain_inTurn`).
-/

namespace HealthSafety

open Lib

variable {cfg : Config} {s : AppData cfg} {timeOut : Status}

/-! ### The loop -/

theorem mainLoop_go {t : TurnIn cfg} {v : MainVars} (h : runLoop t.stop v.runStatus = none)
    (ts : List (TurnIn cfg)) :
    mainLoop timeOut (t :: ts) v = mainBody timeOut t v >>= mainLoop timeOut ts := by
  rw [mainLoop, h]

theorem mainLoop_stop {t : TurnIn cfg} {v : MainVars} {exitStatus : ExitStatus}
    (h : runLoop t.stop v.runStatus = some exitStatus) (ts : List (TurnIn cfg)) :
    mainLoop timeOut (t :: ts) v = pure (some (v, exitStatus)) := by
  rw [mainLoop, h]

theorem runStatus_of_runLoop {stop : ExternalStop} {runStatus : RunStatus}
    (h : runLoop stop runStatus = none) : runStatus = .appRun := by
  cases stop <;> cases runStatus <;> first | rfl | cases h

/-! ### Laws of a run -/

section

variable {R : AppData cfg → List (Label cfg) → AppData cfg → Prop}

theorem mainLoop_moves (hR : Law R) (timeOut : Status) (ts : List (TurnIn cfg))
    (hpass : ∀ t ∈ ts, ∀ s, Moves R (processMain t.cycle) s) (v : MainVars) (s : AppData cfg) :
    Moves R (mainLoop timeOut ts v) s := by
  induction ts generalizing v s with
  | nil => exact Moves.pure hR _ s
  | cons t ts ih =>
    have hbody : Moves R (mainBody timeOut t v) s := by
      refine Moves.ite (fun _ => Moves.bind hR ?_ fun _ _ => Moves.pure hR _ _)
        fun _ => Moves.pure hR _ _
      exact hpass t List.mem_cons_self s
    unfold mainLoop
    split
    · exact Moves.bind hR hbody fun v' _ =>
        ih (fun u hu => hpass u (List.mem_cons_of_mem t hu)) v' _
    · exact Moves.pure hR _ s

/-- A law of the passes, the start and the end is a law of the whole run. -/
theorem appMain_moves (hR : Law R) {i : MainIn cfg} {n : Nat}
    (hstart : ∀ s, Moves R (mainStart i.init i.start) s)
    (hpass : ∀ k < n, ∀ s, Moves R (processMain (i.turn k).cycle) s)
    (hend : ∀ v s, Moves R (mainEnd i.stopped v) s) (timeOut : Status) (s : AppData cfg) :
    Moves R (appMain timeOut i n) s := by
  refine Moves.bind hR (hstart s) fun _ _ =>
    Moves.bind hR (mainLoop_moves hR timeOut _ (fun t ht s => ?_) _ _) fun out _ => ?_
  · obtain ⟨k, hk, rfl⟩ := List.mem_map.mp ht
    exact hpass k (List.mem_range.mp hk) s
  · rcases out with _ | ⟨v, exitStatus⟩
    · exact Moves.pure hR _ _
    · exact Moves.bind hR (hend v _) fun _ _ => Moves.pure hR _ _

end

/-! ### The turn of an entry -/

/-- In the run of `HS_AppMain` from `s`, turn `k` logs the entry `x` right behind `before`: the
run has come through the first `k` turns, and the pass of turn `k` starts in the state `t` and
has logged `pre` before the entry. -/
structure InTurn (timeOut : Status) (i : MainIn cfg) (s : AppData cfg) (k : Nat)
    (before : List (Label cfg)) (x : Label cfg) (t : AppData cfg) (pre : List (Label cfg)) :
    Prop where
  start : ∃ l, appMain timeOut i k s = ⟨.ok none, t, l⟩ ∧ before = l ++ pre
  logged : Logged (appMain timeOut i (k + 1)) s before x
  pass : Logged (processMain (i.turn k).cycle) t pre x

section

variable {before : List (Label cfg)} {x : Label cfg}

theorem mainBody_logged {t : TurnIn cfg} {v : MainVars}
    (h : Logged (mainBody timeOut t v) s before x) : Logged (processMain t.cycle) s before x := by
  unfold mainBody at h
  split at h
  · exact h.bind_first fun _ _ => List.not_mem_nil
  · exact absurd h (Logged.not_nil rfl)

/-- What the loop logs, the pass of one of its turns logs, behind those before it. -/
theorem mainLoop_logged {ts : List (TurnIn cfg)} {v : MainVars}
    (h : Logged (mainLoop timeOut ts v) s before x) : ∃ (k : Nat) (hk : k < ts.length) (t : _)
      (l pre : _), mainLoop timeOut (ts.take k) v s = ⟨.ok none, t, l⟩ ∧ before = l ++ pre ∧
        Logged (mainLoop timeOut (ts.take (k + 1)) v) s before x ∧
        Logged (processMain ts[k].cycle) t pre x := by
  induction ts generalizing v s before with
  | nil => exact absurd h (Logged.not_nil rfl)
  | cons t ts ih =>
    cases hrl : runLoop t.stop v.runStatus with
    | some exitStatus =>
      rw [mainLoop_stop hrl] at h
      exact absurd h (Logged.not_nil rfl)
    | none =>
      rw [mainLoop_go hrl] at h
      rcases h.bind with hx | ⟨v', u, l, rest, hrun, hbefore, hx⟩
      · refine ⟨0, Nat.zero_lt_succ _, s, [], before, rfl, rfl, ?_, mainBody_logged hx⟩
        rw [List.take_succ_cons, mainLoop_go hrl]
        exact hx.left
      · obtain ⟨k, hk, u', l', pre, hloop, hrest, hlogged, hpass⟩ := ih hx
        refine ⟨k + 1, Nat.succ_lt_succ hk, u', l ++ l', pre, ?_, ?_, ?_, hpass⟩
        · rw [List.take_succ_cons, mainLoop_go hrl, Prog.bind_ok hrun, hloop]
        · rw [hbefore, hrest, List.append_assoc]
        · rw [List.take_succ_cons, mainLoop_go hrl, hbefore]
          exact .right hrun hlogged

theorem take_turns (f : Nat → TurnIn cfg) {k n : Nat} (h : k ≤ n) :
    ((List.range n).map f).take k = (List.range k).map f := by
  rw [← List.map_take, List.take_range, Nat.min_eq_left h]

/-- **An entry that neither the start nor the end logs stands in the pass of a turn.** -/
theorem appMain_inTurn {i : MainIn cfg} {n : Nat}
    (hstart : ∀ s, x ∉ (mainStart i.init i.start s).log)
    (hend : ∀ v s, x ∉ (mainEnd i.stopped v s).log)
    (h : Logged (appMain timeOut i n) s before x) :
    ∃ k < n, ∃ t pre, InTurn timeOut i s k before x t pre := by
  obtain ⟨start, u, l₀, rest, hrun, hbefore, hx⟩ := h.bind_last (hstart s)
  have hloop : Logged (mainLoop timeOut ((List.range n).map i.turn) ⟨start.1, start.2, 0⟩) u
      rest x := by
    refine hx.bind_first fun out t => ?_
    rcases out with _ | ⟨v, exitStatus⟩
    · exact List.not_mem_nil
    · dsimp only
      rw [Prog.bind_pure_apply]
      exact hend v t
  obtain ⟨k, hk, t, l, pre, hturns, hrest, hlogged, hpass⟩ := mainLoop_logged hloop
  have hkn : k < n := by rwa [List.length_map, List.length_range] at hk
  rw [take_turns _ (Nat.le_of_lt hkn)] at hturns
  rw [take_turns _ hkn] at hlogged
  rw [List.getElem_map, List.getElem_range] at hpass
  refine ⟨k, hkn, t, pre, ⟨l₀ ++ l, ?_, ?_⟩, ?_, hpass⟩
  · rw [appMain, Prog.bind_ok hrun, Prog.bind_ok hturns]
    dsimp only
    rw [Prog.pure_apply, List.append_nil]
  · rw [hbefore, hrest, List.append_assoc]
  · rw [hbefore]
    exact .right hrun hlogged.left

end

end HealthSafety
