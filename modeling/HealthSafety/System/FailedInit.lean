import HealthSafety.System.EventPipe
import HealthSafety.System.Turns

/-!
# A failed initialization

When `HS_AppInit` fails, `HS_AppMain` skips the startup and leaves its run status at
`CFE_ES_RunStatus_APP_RUN`, although it ends the main loop when an event subscription
fails.  So the main loop is entered, and the status of `HS_AppInit` is overwritten by
that of the wakeup pipe.

`HS_AppMain` then runs no pass and exits with another run status only if the first
turn ends the loop by itself: the environment asks for a stop with a status of its own,
or the wakeup pipe fails (`failed_init_stays_out_iff`).
-/

namespace HealthSafety

open Lib

variable {cfg : Config} {s : AppData cfg} {timeOut : Status}

/-- `HS_AppMain` comes to its end without a pass of the main loop, and does not exit with
`CFE_ES_RunStatus_APP_RUN`. -/
def StaysOut (timeOut : Status) (i : MainIn cfg) (s : AppData cfg) : Prop :=
  ∃ n v exitStatus, (appMain timeOut i n s).val = .ok (some (v, exitStatus)) ∧
    v.passes = 0 ∧ exitStatus ≠ .own .appRun

/-! ### The loop -/

theorem mainBody_passes {t : TurnIn cfg} {v v' : MainVars}
    (h : (mainBody timeOut t v s).val = .ok v') : v.passes ≤ v'.passes ∧
      (Wakes cfg timeOut t.wakeup → v.passes < v'.passes) := by
  unfold mainBody at h
  split at h
  · rcases hrun : processMain t.cycle s with ⟨e | status, u, l⟩
    · rw [Prog.bind_error hrun] at h
      cases h
    · rw [Prog.bind_ok hrun] at h
      cases h
      exact ⟨Nat.le_succ _, fun _ => Nat.lt_succ_self _⟩
  · cases h
    exact ⟨Nat.le_refl _, fun hw => absurd hw ‹_›⟩

/-- The loop only adds passes. -/
theorem mainLoop_passes (ts : List (TurnIn cfg)) :
    ∀ {s : AppData cfg} {v v' : MainVars} {exitStatus : ExitStatus},
      (mainLoop timeOut ts v s).val = .ok (some (v', exitStatus)) → v.passes ≤ v'.passes := by
  induction ts with
  | nil => intro s v v' exitStatus h; cases h
  | cons t ts ih =>
    intro s v v' exitStatus h
    cases hrl : runLoop t.stop v.runStatus with
    | some e =>
      rw [mainLoop_stop hrl] at h
      cases h
      exact Nat.le_refl _
    | none =>
      rw [mainLoop_go hrl] at h
      rcases hrun : mainBody timeOut t v s with ⟨e | v₁, u, l⟩
      · rw [Prog.bind_error hrun] at h
        cases h
      · rw [Prog.bind_ok hrun] at h
        have hbody : (mainBody timeOut t v s).val = .ok v₁ := by rw [hrun]
        exact (mainBody_passes hbody).1.trans (ih h)

theorem sysMonCleanup_val (stopped : Bool) (s : AppData cfg) :
    (sysMonCleanup stopped s).val = .ok () := by
  by_cases h : s.sysMonPspModuleId = 0 <;> cases stopped <;> simp [sysMonCleanup, h]

theorem mainEnd_val (stopped : Bool) (v : MainVars) (s : AppData cfg) :
    (mainEnd stopped v s).val = .ok () := by
  rw [mainEnd]
  by_cases h : v.status = success
  · rw [Prog.when_neg (not_not.mpr h), Prog.pure_bind', sysMonCleanup_val]
  · rw [Prog.when_pos h, Prog.bind_assoc', Prog.emit_bind]
    exact (Prog.bind_val rfl).trans (sysMonCleanup_val stopped _)

/-- After a failed `HS_AppInit`, the main loop runs from its status. -/
theorem appMain_of_failed {i : MainIn cfg} {status : Status}
    (hinit : (appInit i.init s).val = .ok status) (hst : status ≠ success) (n : Nat) :
    (appMain timeOut i n s).val =
      (mainLoop timeOut ((List.range n).map i.turn) ⟨status, .appRun, 0⟩
        (appInit i.init s).state).val := by
  have hstart : (mainStart i.init i.start s).val = .ok (status, .appRun) ∧
      (mainStart i.init i.start s).state = (appInit i.init s).state := by
    rcases hrun : appInit i.init s with ⟨v, t, l⟩
    rw [hrun] at hinit
    subst hinit
    rw [mainStart, Prog.bind_ok hrun, if_neg hst]
    exact ⟨rfl, rfl⟩
  rw [appMain, Prog.bind_val hstart.1, hstart.2]
  rcases hrun : mainLoop timeOut ((List.range n).map i.turn) ⟨status, .appRun, 0⟩
      (appInit i.init s).state with ⟨e | _ | ⟨v, exitStatus⟩, t, l⟩
  · rw [Prog.bind_error hrun]
  · rw [Prog.bind_ok hrun]
    rfl
  · rw [Prog.bind_ok hrun]
    exact Prog.bind_val (mainEnd_val i.stopped v t)

/-! ### The first turn decides -/

/-- The first turn ends the main loop by itself: an external stop writes its status, or there
is none and the wakeup pipe fails. -/
def FirstTurnEnds (cfg : Config) (timeOut : Status) (t : TurnIn cfg) : Prop :=
  t.stop = .written ∨ (t.stop = .absent ∧ ¬ Wakes cfg timeOut t.wakeup)

/-- Whatever the turns are, the loop makes a pass or exits with
`CFE_ES_RunStatus_APP_RUN`, unless the first turn ends it. -/
theorem firstTurnEnds_of_mainLoop {t : TurnIn cfg} {ts : List (TurnIn cfg)} {status : Status}
    {v : MainVars} {exitStatus : ExitStatus}
    (h : (mainLoop timeOut (t :: ts) ⟨status, .appRun, 0⟩ s).val = .ok (some (v, exitStatus)))
    (hv : v.passes = 0) (he : exitStatus ≠ .own .appRun) : FirstTurnEnds cfg timeOut t := by
  cases hstop : t.stop with
  | written => exact .inl hstop
  | kept =>
    have hrl : runLoop t.stop .appRun = some (.own .appRun) := by rw [hstop]; rfl
    rw [mainLoop_stop hrl] at h
    cases h
    exact absurd rfl he
  | absent =>
    refine .inr ⟨hstop, fun hw => ?_⟩
    have hrl : runLoop t.stop .appRun = none := by rw [hstop]; rfl
    rw [mainLoop_go hrl] at h
    rcases hrun : mainBody timeOut t ⟨status, .appRun, 0⟩ s with ⟨e | v₁, u, l⟩
    · rw [Prog.bind_error hrun] at h
      cases h
    · rw [Prog.bind_ok hrun] at h
      have hbody : (mainBody timeOut t ⟨status, .appRun, 0⟩ s).val = .ok v₁ := by rw [hrun]
      have hone := (mainBody_passes hbody).2 hw
      have hle := mainLoop_passes ts h
      omega

theorem mainLoop_of_firstTurnEnds {t : TurnIn cfg} (t' : TurnIn cfg) {status : Status}
    (h : FirstTurnEnds cfg timeOut t) : ∃ v exitStatus,
      (mainLoop timeOut [t, t'] ⟨status, .appRun, 0⟩ s).val = .ok (some (v, exitStatus)) ∧
        v.passes = 0 ∧ exitStatus ≠ .own .appRun := by
  rcases h with hstop | ⟨hstop, hw⟩
  · have hrl : runLoop t.stop .appRun = some .requested := by rw [hstop]; rfl
    rw [mainLoop_stop hrl]
    exact ⟨_, _, rfl, rfl, by decide⟩
  · have hrl : runLoop t.stop .appRun = none := by rw [hstop]; rfl
    have hwakeup : t.wakeup ≠ success := fun h => hw (.inl h)
    rw [mainLoop_go hrl, mainBody, if_neg hw, Prog.pure_bind', MainVars.next, if_pos hwakeup]
    cases hstop' : t'.stop with
    | written =>
      have hrl' : runLoop t'.stop .appError = some .requested := by rw [hstop']; rfl
      rw [mainLoop_stop hrl']
      exact ⟨_, _, rfl, rfl, by decide⟩
    | absent =>
      have hrl' : runLoop t'.stop .appError = some (.own .appError) := by rw [hstop']; rfl
      rw [mainLoop_stop hrl']
      exact ⟨_, _, rfl, rfl, by decide⟩
    | kept =>
      have hrl' : runLoop t'.stop .appError = some (.own .appError) := by rw [hstop']; rfl
      rw [mainLoop_stop hrl']
      exact ⟨_, _, rfl, rfl, by decide⟩

theorem firstTurnEnds_of_staysOut {i : MainIn cfg} {status : Status}
    (hinit : (appInit i.init s).val = .ok status) (hst : status ≠ success)
    (h : StaysOut timeOut i s) : FirstTurnEnds cfg timeOut (i.turn 0) := by
  obtain ⟨n, v, exitStatus, hrun, hv, he⟩ := h
  rw [appMain_of_failed hinit hst] at hrun
  cases n with
  | zero => cases hrun
  | succ n =>
    rw [List.range_succ_eq_map, List.map_cons] at hrun
    exact firstTurnEnds_of_mainLoop hrun hv he

/-- **After a failed `HS_AppInit`, `HS_AppMain` runs no pass and exits with a run status other
than `CFE_ES_RunStatus_APP_RUN` if and only if the first turn ends the main loop.** -/
theorem failed_init_stays_out_iff {i : MainIn cfg} {status : Status}
    (hinit : (appInit i.init s).val = .ok status) (hst : status ≠ success) :
    StaysOut timeOut i s ↔ FirstTurnEnds cfg timeOut (i.turn 0) := by
  refine ⟨firstTurnEnds_of_staysOut hinit hst, fun h => ?_⟩
  obtain ⟨v, exitStatus, hrun, hv, he⟩ := mainLoop_of_firstTurnEnds (i.turn 1) h
  exact ⟨2, v, exitStatus, (appMain_of_failed hinit hst 2).trans hrun, hv, he⟩

/-- `CFE_SB_TIME_OUT` of cFE. -/
def sbTimeOut : Status := 0xCA000001 - 0x100000000

/-- A turn with empty pipes, woken with this status. -/
def idleTurn (wakeup : Status) : TurnIn .small where
  stop := .absent
  wakeup := wakeup
  cycle :=
    { acquire := emptyTables
      utilization := ⟨success, 0, true⟩
      apps := fun _ => ⟨⟨success, 0, true⟩, ⟨success, 0, true⟩, success, true⟩
      events := []
      eventsEnd := failed
      cmds := []
      cmdsEnd := failed }

/-- Every call of `HS_AppInit` succeeds but the last one: the monitoring device does not
start. -/
def deviceFails : InitIn .small :=
  { InitIn.ok emptyTables with sysMon := ⟨true, 1, false, 0, 0, failed⟩ }

/-- The main function after that, when the wakeup pipe always answers with this status. -/
def deviceFailsMain (wakeup : Status) : MainIn .small where
  init := deviceFails
  start := ⟨success, success⟩
  turn := fun _ => idleTurn wakeup
  stopped := true

/-- When the wakeup pipe fails too, `HS_AppMain` ends. -/
theorem failed_init_stays_out_deaf :
    StaysOut sbTimeOut (deviceFailsMain (-5)) (initialData .small) :=
  (failed_init_stays_out_iff rfl (by decide)).mpr
    (.inr ⟨rfl, by decide⟩)

/-- When the wakeup arrives, a pass is run without the device. -/
theorem failed_init_runs : ¬ ∀ (i : MainIn .small) (s : AppData .small) (status : Status),
    (appInit i.init s).val = .ok status → status ≠ success → StaysOut sbTimeOut i s := by
  intro h
  have hstays := h (deviceFailsMain success) (initialData .small) (-1) rfl (by decide)
  have hinit : (appInit (deviceFailsMain success).init (initialData .small)).val = .ok (-1) := rfl
  rcases firstTurnEnds_of_staysOut hinit (by decide) hstays with hstop | ⟨-, hw⟩
  · cases hstop
  · exact hw (.inl rfl)

end HealthSafety
