import HealthSafety.Lib.PackedBits
import HealthSafety.Step.Frames

/-!
# The refresh of the application monitor

`HS_AppMonStatusRefresh` walks the application monitor table and starts every row
afresh (`appMonStatusRefresh_apply`): the last execution count is 0, the
countdown stands at the cycle count and the enable bit is set if the row is
monitored, and both are 0 if it is not (`Refreshed`).
-/

namespace HealthSafety

open Lib

variable {cfg : Config} {s : AppData cfg} {amt : AMT cfg}

/-- The row has an action and a cycle count. -/
def AMTEntry.Monitored (row : AMTEntry) : Prop :=
  ¬ (row.cycleCount = 0 ∨ row.actionType = amtActNoact)

instance (row : AMTEntry) : Decidable row.Monitored := inferInstanceAs (Decidable (¬ _))

theorem setEnable_eq (e : Fin cfg.enableWords → BitVec 32) (i : Fin cfg.maxMonitoredApps) :
    setEnable e i = PackedBits.set e i (cfg.enableWord_lt i) := rfl

theorem clearEnable_eq (e : Fin cfg.enableWords → BitVec 32) (i : Fin cfg.maxMonitoredApps) :
    clearEnable e i = PackedBits.clear e i (cfg.enableWord_lt i) := rfl

/-- Where the countdown of a row starts. -/
def AMTEntry.start (row : AMTEntry) : UInt16 := if row.Monitored then row.cycleCount else 0

/-- `HS_AppData` after one row of the refresh. -/
def AppData.refreshRow (amt : AMT cfg) (s : AppData cfg) (i : Fin cfg.maxMonitoredApps) :
    AppData cfg :=
  { s with
    appMonLastExeCount := Function.update s.appMonLastExeCount i 0
    appMonCheckInCountdown := Function.update s.appMonCheckInCountdown i (amt i).start
    appMonEnables := if (amt i).Monitored then setEnable s.appMonEnables i else s.appMonEnables }

theorem readAmt_apply (hs : s.amTablePtr = some amt) (reader : Reader)
    (i : Fin cfg.maxMonitoredApps) :
    readAmt reader i s = ⟨.ok (amt i), s, [.mark (.rowRead reader (.amt i (amt i)))]⟩ := by
  simp [readAmt, hs]

theorem readAmt_null (hs : s.amTablePtr = none) (reader : Reader)
    (i : Fin cfg.maxMonitoredApps) :
    readAmt reader i s =
      ⟨.error (.nullRead .amt reader), s, [.mark (.nullRead .amt reader)]⟩ := by
  simp [readAmt, hs, Prog.bind_assoc']

theorem finRange_apps (cfg : Config) : ∃ i is, List.finRange cfg.maxMonitoredApps = i :: is := by
  refine List.exists_cons_of_ne_nil ?_
  rw [ne_eq, List.finRange_eq_nil_iff]
  exact Nat.ne_of_gt cfg.verified.monitoredApps_pos

theorem refreshApp_apply (hs : s.amTablePtr = some amt) (i : Fin cfg.maxMonitoredApps) :
    ∃ l, refreshApp i s = ⟨.ok (), s.refreshRow amt i, l⟩ := by
  let s' : AppData cfg :=
    { s with appMonLastExeCount := Function.update s.appMonLastExeCount i 0 }
  have hs' : s'.amTablePtr = some amt := hs
  rw [refreshApp, Prog.modify_bind, Prog.bind_ok (readAmt_apply hs' _ i)]
  by_cases h : (amt i).cycleCount = 0 ∨ (amt i).actionType = amtActNoact
  · have hm : ¬ (amt i).Monitored := not_not.mpr h
    exact ⟨_, by rw [if_pos h, AppData.refreshRow, AMTEntry.start, if_neg hm, if_neg hm]; rfl⟩
  · have hm : (amt i).Monitored := h
    exact ⟨_, by rw [if_neg h, AppData.refreshRow, AMTEntry.start, if_pos hm, if_pos hm]; rfl⟩

/-! ### All rows -/

theorem bit_refreshRow (i : Fin cfg.maxMonitoredApps) (s : AppData cfg) (j : Nat) :
    PackedBits.bit (s.refreshRow amt i).appMonEnables j = true ↔
      (i.val = j ∧ (amt i).Monitored) ∨ PackedBits.bit s.appMonEnables j = true := by
  by_cases hm : (amt i).Monitored
  · simp only [AppData.refreshRow, if_pos hm, setEnable_eq]
    rw [PackedBits.bit_set (by decide), Bool.or_eq_true, decide_eq_true_eq, and_iff_left hm,
      eq_comm]
  · simp [AppData.refreshRow, hm]

theorem refreshRow_foldl (amt : AMT cfg) (is : List (Fin cfg.maxMonitoredApps)) :
    ∀ s : AppData cfg,
      (is.foldl (AppData.refreshRow amt) s).appMonLastExeCount =
        (fun i => if i ∈ is then 0 else s.appMonLastExeCount i) ∧
      (is.foldl (AppData.refreshRow amt) s).appMonCheckInCountdown =
        (fun i => if i ∈ is then (amt i).start else s.appMonCheckInCountdown i) ∧
      ∀ j, PackedBits.bit (is.foldl (AppData.refreshRow amt) s).appMonEnables j = true ↔
        (∃ i ∈ is, i.val = j ∧ (amt i).Monitored) ∨ PackedBits.bit s.appMonEnables j = true := by
  induction is with
  | nil => intro s; simp
  | cons i is ih =>
    intro s
    obtain ⟨hlast, hcount, hbit⟩ := ih (s.refreshRow amt i)
    refine ⟨?_, ?_, fun j => ?_⟩
    · rw [List.foldl_cons, hlast]
      funext i'
      by_cases h : i' ∈ is <;> by_cases h' : i' = i <;>
        simp [h, h', AppData.refreshRow]
    · rw [List.foldl_cons, hcount]
      funext i'
      by_cases h : i' ∈ is
      · simp [h]
      · by_cases h' : i' = i
        · subst h'
          simp [h, AppData.refreshRow]
        · simp [h, h', AppData.refreshRow]
    · rw [List.foldl_cons, hbit j, bit_refreshRow]
      simp only [List.mem_cons, exists_eq_or_imp]
      exact or_left_comm.trans or_assoc.symm

/-- The application monitor starts afresh on the table. -/
structure Refreshed (amt : AMT cfg) (t : AppData cfg) : Prop where
  last : ∀ i, t.appMonLastExeCount i = 0
  countdown : ∀ i, t.appMonCheckInCountdown i = (amt i).start
  bit : ∀ j, PackedBits.bit t.appMonEnables j = true ↔
    ∃ i : Fin cfg.maxMonitoredApps, i.val = j ∧ (amt i).Monitored

theorem Refreshed.of_watch {t u : AppData cfg} (h : Refreshed amt t) (hw : u.watch = t.watch) :
    Refreshed amt u := by
  have hc : u.appMonCheckInCountdown = t.appMonCheckInCountdown := congrArg WatchView.countdown hw
  have he : u.appMonEnables = t.appMonEnables := congrArg WatchView.enables hw
  have hl : u.appMonLastExeCount = t.appMonLastExeCount := congrArg WatchView.last hw
  exact ⟨by rw [hl]; exact h.last, by rw [hc]; exact h.countdown, by rw [he]; exact h.bit⟩

/-- **The refresh returns, with every row started afresh.** -/
theorem appMonStatusRefresh_apply (hs : s.amTablePtr = some amt) :
    ∃ t l, appMonStatusRefresh s = ⟨.ok (), t, l⟩ ∧ Refreshed amt t := by
  let s' : AppData cfg := { s with appMonEnables := fun _ => 0 }
  obtain ⟨l, h⟩ := Prog.each_apply (f := AppData.refreshRow amt)
    (I := fun s => s.amTablePtr = some amt) (fun i s hs => refreshApp_apply hs i)
    (fun _ _ hs => hs) (List.finRange cfg.maxMonitoredApps) s' hs
  refine ⟨_, l, by rw [appMonStatusRefresh, Prog.modify_bind]; exact h, ?_⟩
  obtain ⟨hlast, hcount, hbit⟩ := refreshRow_foldl amt (List.finRange cfg.maxMonitoredApps) s'
  refine ⟨fun i => ?_, fun i => ?_, fun j => ?_⟩
  · rw [hlast]
    exact if_pos (List.mem_finRange i)
  · rw [hcount]
    exact if_pos (List.mem_finRange i)
  · rw [hbit j]
    have hzero : PackedBits.bit s'.appMonEnables j = false := PackedBits.bit_zero j
    simp [hzero]

/-- Without a table the refresh stops at its first row. -/
theorem appMonStatusRefresh_null (hs : s.amTablePtr = none) :
    ∃ t, appMonStatusRefresh s = ⟨.error (.nullRead .amt .appMonStatusRefresh), t,
      [.mark (.nullRead .amt .appMonStatusRefresh)]⟩ := by
  obtain ⟨i, is, his⟩ := finRange_apps cfg
  let s' : AppData cfg := { s with
    appMonEnables := fun _ => 0
    appMonLastExeCount := Function.update s.appMonLastExeCount i 0 }
  have hs' : s'.amTablePtr = none := hs
  have hrow : refreshApp i { s with appMonEnables := fun _ => 0 } =
      ⟨.error (.nullRead .amt .appMonStatusRefresh), s',
        [.mark (.nullRead .amt .appMonStatusRefresh)]⟩ := by
    rw [refreshApp, Prog.modify_bind]
    exact Prog.bind_error (readAmt_null hs' .appMonStatusRefresh i)
  exact ⟨s', by rw [appMonStatusRefresh, Prog.modify_bind, his, Prog.each_cons,
    Prog.bind_error hrow]⟩

/-! ### The command that refreshes -/

theorem enableAppMonCmd_refreshed (hs : s.amTablePtr = some amt) :
    Refreshed amt (enableAppMonCmd s).state := by
  let s' : AppData cfg := { s with cmdCount := s.cmdCount + 1 }
  have hs' : s'.amTablePtr = some amt := hs
  obtain ⟨t, l, ht, href⟩ := appMonStatusRefresh_apply hs'
  rw [enableAppMonCmd, Prog.emit_bind, countCmd, Prog.modify_bind, Prog.bind_ok ht]
  exact href.of_watch rfl

theorem enableAppMonCmd_null (hs : s.amTablePtr = none) :
    ∃ t, enableAppMonCmd s = ⟨.error (.nullRead .amt .appMonStatusRefresh), t,
      [.mark (.handler .enableAppMon), .mark (.nullRead .amt .appMonStatusRefresh)]⟩ := by
  let s' : AppData cfg := { s with cmdCount := s.cmdCount + 1 }
  have hs' : s'.amTablePtr = none := hs
  obtain ⟨t, ht⟩ := appMonStatusRefresh_null hs'
  refine ⟨t, ?_⟩
  rw [enableAppMonCmd, Prog.emit_bind, countCmd, Prog.modify_bind, Prog.bind_error ht]

end HealthSafety
