import HealthSafety.Step.MonitorEvent
import HealthSafety.System.UtilBounds

/-!
# Hogging

A read of the utilization is hot if the clamped sample reaches
`HS_UTIL_PER_INTERVAL_HOGGING` while the hogging indicator is enabled.  `HogRun` is a
history of reads and of the two hogging commands, with the number of hogging events that
each of them sent; `streak` counts the hot reads since the last read that was not hot.
`HS_AppData.CurrentCPUHoggingTime` is that number (`HogRun.hoggingTime`), and the event is
sent by the read that brings it to `MaxCPUHoggingTime`, and by nothing else
(`hogging_once_per_streak`).  A history of calls of `HS_MonitorUtilization` is one of these,
with the samples that the device gives (`monitorUtilization_once_per_streak`).
-/

namespace HealthSafety

open Lib

variable {cfg : Config} {s t : AppData cfg}

/-! ### Histories -/

/-- What the hogging indicator sees. -/
inductive HogEntry
  | hot
  | cold
  | failed
  | command
  deriving DecidableEq

/-- What a read is that returns `sample`. -/
def hotness (s : AppData cfg) (sample : Int) : HogEntry :=
  if sample < 0 then .failed
  else if (cfg.utilPerIntervalHogging : Int) ≤ min sample cfg.cpuUtilizationMax ∧
      s.currentCPUHogState = .enabled then .hot
  else .cold

/-- The hot reads since the last cold one, in a history that starts with its last entry:
failed reads and commands neither extend nor end a streak. -/
def streak : List HogEntry → Nat
  | [] => 0
  | .hot :: past => streak past + 1
  | .cold :: _ => 0
  | .failed :: past => streak past
  | .command :: past => streak past

/-- The hogging events of a log. -/
def hogReports (l : List (Label cfg)) : Nat := (sentEvents l).count .cpumonHoggingErr

/-- The reads and commands since the counter was at zero, the last one first, with the
hogging events each of them sent; the limit is `max`.  Whatever else HS does in between
leaves the counter and the limit alone. -/
inductive HogRun (max : UInt32) : List (HogEntry × Nat) → AppData cfg → Prop
  | start {s : AppData cfg} (hs : s.currentCPUHoggingTime = 0) (hmax : s.maxCPUHoggingTime = max) :
      HogRun max [] s
  | call {h : List (HogEntry × Nat)} {s : AppData cfg} (prior : HogRun max h s) (sample : Int) :
      HogRun max ((hotness s sample, hogReports (monitorSample sample s).log) :: h)
        (monitorSample sample s).state
  | enable {h : List (HogEntry × Nat)} {s : AppData cfg} (prior : HogRun max h s) :
      HogRun max ((.command, hogReports (enableCpuHogCmd s).log) :: h) (enableCpuHogCmd s).state
  | disable {h : List (HogEntry × Nat)} {s : AppData cfg} (prior : HogRun max h s) :
      HogRun max ((.command, hogReports (disableCpuHogCmd s).log) :: h) (disableCpuHogCmd s).state
  | aside {h : List (HogEntry × Nat)} {s t : AppData cfg} (prior : HogRun max h s)
      (ht : t.currentCPUHoggingTime = s.currentCPUHoggingTime)
      (hmax : t.maxCPUHoggingTime = s.maxCPUHoggingTime) : HogRun max h t

/-! ### One read -/

/-- The counter after an entry. -/
def HogEntry.next : HogEntry → UInt32 → UInt32
  | .hot, time => time + 1
  | .cold, _ => 0
  | .failed, time => time
  | .command, time => time

theorem recordUtilization_read {this : UInt32} {sample : Int} (hneg : ¬ sample < 0)
    (s : AppData cfg) :
    (recordUtilization this sample s).state.currentCPUHoggingTime =
        hoggingTime (min sample cfg.cpuUtilizationMax) s ∧
      (recordUtilization this sample s).state.maxCPUHoggingTime = s.maxCPUHoggingTime ∧
      (recordUtilization this sample s).log =
        (checkHogging (min sample cfg.cpuUtilizationMax) s).log := by
  have hutil : (if (cfg.cpuUtilizationMax : Int) < sample then (cfg.cpuUtilizationMax : Int)
      else sample) = min sample cfg.cpuUtilizationMax := by
    split <;> omega
  have hhog := checkHogging_eq (if (cfg.cpuUtilizationMax : Int) < sample
    then (cfg.cpuUtilizationMax : Int) else sample) s
  rw [← hutil, recordUtilization, if_neg hneg, Prog.bind_ok hhog, hhog]
  by_cases hthis : this.toNat < cfg.utilPeakNumInterval
  · rw [dif_pos hthis, Prog.modify_bind, Prog.get_bind]
    exact ⟨rfl, rfl, List.append_nil _⟩
  · rw [dif_neg hthis]
    exact ⟨rfl, rfl, List.append_nil _⟩

theorem recordUtilization_hogging (this : UInt32) (sample : Int) (s : AppData cfg) :
    (recordUtilization this sample s).state.currentCPUHoggingTime =
        (hotness s sample).next s.currentCPUHoggingTime ∧
      (recordUtilization this sample s).state.maxCPUHoggingTime = s.maxCPUHoggingTime ∧
      hogReports (recordUtilization this sample s).log =
        if hotness s sample = .hot ∧ s.currentCPUHoggingTime + 1 = s.maxCPUHoggingTime then 1
        else 0 := by
  by_cases hneg : sample < 0
  · have hfailed : hotness s sample = .failed := if_pos hneg
    rw [hfailed, recordUtilization, if_pos hneg]
    exact ⟨rfl, rfl, rfl⟩
  obtain ⟨htime, hmax, hlog⟩ := @recordUtilization_read _ this _ hneg s
  have hcheck : (checkHogging (min sample cfg.cpuUtilizationMax) s).log =
      if ((cfg.utilPerIntervalHogging : Int) ≤ min sample cfg.cpuUtilizationMax ∧
          s.currentCPUHogState = .enabled) ∧ s.currentCPUHoggingTime + 1 = s.maxCPUHoggingTime then
        [.call (.sendEvent .cpumonHoggingErr .error []), .call .writeToSysLog]
      else [] := by
    rw [checkHogging_eq]
  rw [htime, hmax, hlog, hcheck, hoggingTime]
  by_cases hutil : (cfg.utilPerIntervalHogging : Int) ≤ min sample cfg.cpuUtilizationMax ∧
      s.currentCPUHogState = .enabled
  · have hhot : hotness s sample = .hot := by rw [hotness, if_neg hneg, if_pos hutil]
    rw [hhot]
    refine ⟨if_pos hutil, rfl, ?_⟩
    by_cases hlimit : s.currentCPUHoggingTime + 1 = s.maxCPUHoggingTime
    · rw [if_pos ⟨hutil, hlimit⟩, if_pos ⟨rfl, hlimit⟩]
      rfl
    · rw [if_neg fun h => hlimit h.2, if_neg fun h => hlimit h.2]
      rfl
  · have hcold : hotness s sample = .cold := by rw [hotness, if_neg hneg, if_neg hutil]
    rw [hcold]
    refine ⟨if_neg hutil, rfl, ?_⟩
    rw [if_neg fun h => hutil h.1]
    rfl

/-- **One read**: a hot one counts up, and reports if that brings the counter to the limit;
a cold one clears the counter; a failed one leaves it. -/
theorem monitorSample_hogging (sample : Int) (s : AppData cfg) :
    (monitorSample sample s).state.currentCPUHoggingTime =
        (hotness s sample).next s.currentCPUHoggingTime ∧
      (monitorSample sample s).state.maxCPUHoggingTime = s.maxCPUHoggingTime ∧
      hogReports (monitorSample sample s).log =
        if hotness s sample = .hot ∧ s.currentCPUHoggingTime + 1 = s.maxCPUHoggingTime then 1
        else 0 := by
  rw [monitorSample_eq]
  exact recordUtilization_hogging s.currentCPUUtilIndex sample s.advanceUtil

theorem switchCmd_hogging {set : AppData cfg → AppData cfg} {eid : EventId} {hd : Handler}
    (heid : eid ≠ .cpumonHoggingErr)
    (hset : ∀ s, (set s).currentCPUHoggingTime = s.currentCPUHoggingTime ∧
      (set s).maxCPUHoggingTime = s.maxCPUHoggingTime) (s : AppData cfg) :
    (switchCmd hd set eid s).state.currentCPUHoggingTime = s.currentCPUHoggingTime ∧
      (switchCmd hd set eid s).state.maxCPUHoggingTime = s.maxCPUHoggingTime ∧
      hogReports (switchCmd hd set eid s).log = 0 := by
  rw [switchCmd, Prog.emit_bind, countCmd, Prog.modify_bind, Prog.modify_bind]
  refine ⟨(hset _).1, (hset _).2, ?_⟩
  show [eid].count .cpumonHoggingErr = 0
  rw [List.count_singleton]
  simpa using heid

theorem enableCpuHogCmd_hogging (s : AppData cfg) :
    (enableCpuHogCmd s).state.currentCPUHoggingTime = s.currentCPUHoggingTime ∧
      (enableCpuHogCmd s).state.maxCPUHoggingTime = s.maxCPUHoggingTime ∧
      hogReports (enableCpuHogCmd s).log = 0 :=
  switchCmd_hogging (by decide) (fun _ => ⟨rfl, rfl⟩) s

theorem disableCpuHogCmd_hogging (s : AppData cfg) :
    (disableCpuHogCmd s).state.currentCPUHoggingTime = s.currentCPUHoggingTime ∧
      (disableCpuHogCmd s).state.maxCPUHoggingTime = s.maxCPUHoggingTime ∧
      hogReports (disableCpuHogCmd s).log = 0 :=
  switchCmd_hogging (by decide) (fun _ => ⟨rfl, rfl⟩) s

/-! ### Whole histories -/

variable {max : UInt32} {h : List (HogEntry × Nat)}

/-- The counter is the number of hot reads in the streak, and the limit stays. -/
theorem HogRun.counter (hrun : HogRun max h s) :
    s.currentCPUHoggingTime = UInt32.ofNat (streak (h.map Prod.fst)) ∧
      s.maxCPUHoggingTime = max := by
  induction hrun with
  | start hs hmax => exact ⟨hs, hmax⟩
  | @call h s prior sample ih =>
    obtain ⟨htime, hlimit, -⟩ := monitorSample_hogging sample s
    rw [htime, hlimit, List.map_cons, ih.1]
    refine ⟨?_, ih.2⟩
    cases hotness s sample with
    | hot =>
      show _ = UInt32.ofNat (streak (h.map Prod.fst) + 1)
      rw [UInt32.ofNat_add]
      rfl
    | cold | failed | command => rfl
  | enable prior ih =>
    obtain ⟨htime, hlimit, -⟩ := enableCpuHogCmd_hogging _
    exact ⟨htime.trans ih.1, hlimit.trans ih.2⟩
  | disable prior ih =>
    obtain ⟨htime, hlimit, -⟩ := disableCpuHogCmd_hogging _
    exact ⟨htime.trans ih.1, hlimit.trans ih.2⟩
  | aside prior ht hmax ih => exact ⟨ht.trans ih.1, hmax.trans ih.2⟩

theorem sysMonGetCpuUtilization_silent (r : Reply Int) (s : AppData cfg) :
    sentEvents (sysMonGetCpuUtilization r s).log = [] := by
  unfold sysMonGetCpuUtilization
  rw [Prog.get_bind]
  by_cases hid : s.sysMonPspModuleId = 0
  · rw [if_pos hid]
    rfl
  · rw [if_neg hid, Prog.emit_bind]
    split <;> rfl

/-- The entry after a history sends the event if it is hot and makes the streak as long as
the limit. -/
theorem hogReports_of_counter {time : UInt32} {past : List HogEntry} {e : HogEntry}
    (htime : time = UInt32.ofNat (streak past)) (hfits : streak (e :: past) < 2 ^ 32) :
    (e = .hot ∧ time + 1 = max) ↔ (e = .hot ∧ streak (e :: past) = max.toNat) := by
  refine and_congr_right fun he => ?_
  subst he
  have hnext : time + 1 = UInt32.ofNat (streak (.hot :: past)) := by
    show _ = UInt32.ofNat (streak past + 1)
    rw [htime, UInt32.ofNat_add]
    rfl
  rw [hnext, ← UInt32.toNat_inj, UInt32.toNat_ofNat_of_lt' hfits]

/-- The law of one entry of a history. -/
theorem HogRun.reports (hrun : HogRun max h s) {newer past : List (HogEntry × Nat)} {e : HogEntry}
    {n : Nat} (hentry : h = newer ++ (e, n) :: past)
    (hfits : streak (e :: past.map Prod.fst) < 2 ^ 32) :
    n = if e = .hot ∧ streak (e :: past.map Prod.fst) = max.toNat then 1 else 0 := by
  induction hrun generalizing newer with
  | start hs hmax => simp at hentry
  | @call h s prior sample ih =>
    rcases newer with - | ⟨x, newer⟩
    · obtain ⟨hhead, rfl⟩ := List.cons.inj hentry
      obtain ⟨rfl, rfl⟩ := Prod.mk.inj hhead
      obtain ⟨htime, hlimit⟩ := prior.counter
      rw [(monitorSample_hogging sample s).2.2, hlimit]
      exact if_congr (hogReports_of_counter htime hfits) rfl rfl
    · exact ih (List.cons.inj hentry).2
  | @enable h s prior ih =>
    rcases newer with - | ⟨x, newer⟩
    · obtain ⟨hhead, rfl⟩ := List.cons.inj hentry
      obtain ⟨rfl, rfl⟩ := Prod.mk.inj hhead
      rw [(enableCpuHogCmd_hogging s).2.2]
      rfl
    · exact ih (List.cons.inj hentry).2
  | @disable h s prior ih =>
    rcases newer with - | ⟨x, newer⟩
    · obtain ⟨hhead, rfl⟩ := List.cons.inj hentry
      obtain ⟨rfl, rfl⟩ := Prod.mk.inj hhead
      rw [(disableCpuHogCmd_hogging s).2.2]
      rfl
    · exact ih (List.cons.inj hentry).2
  | aside prior ht hmax ih => exact ih hentry

/-- **The hogging event is sent once for each streak**: by the hot read that makes the
streak as long as `MaxCPUHoggingTime`, and by no other read and no command, as long as the
streak is shorter than `2 ^ 32`. -/
theorem hogging_once_per_streak (hrun : HogRun max h s) {newer past : List (HogEntry × Nat)}
    {e : HogEntry} {n : Nat} (hentry : h = newer ++ (e, n) :: past)
    (hfits : streak (e :: past.map Prod.fst) < 2 ^ 32) :
    n = if e = .hot ∧ streak (e :: past.map Prod.fst) = max.toNat then 1 else 0 :=
  hrun.reports hentry hfits

/-- The default configuration as HS starts, with a limit of two hot reads. -/
def limitTwo : AppData .small := { initialData .small with maxCPUHoggingTime := 2 }

/-- A hot read, a failed one, and the indicator switched off and on again. -/
def oneHot : AppData .small :=
  (enableCpuHogCmd (disableCpuHogCmd (monitorSample (-1)
    (monitorSample 9000 limitTwo).state).state).state).state

theorem hogging_once_per_streak_oneHot :
    hogReports (monitorSample 9000 oneHot).log = 1 ∧
      hogReports (monitorSample 9000 (monitorSample 9000 oneHot).state).log = 0 := by
  have hrun : HogRun 2 _ oneHot :=
    ((((HogRun.start (s := limitTwo) rfl rfl).call 9000).call (-1)).disable).enable
  have hcalls := (hrun.call 9000).call 9000
  have hsecond := hogging_once_per_streak hcalls (List.append_assoc [_] [] _).symm
    (by decide +kernel)
  have hthird := hogging_once_per_streak hcalls (List.nil_append _).symm (by decide +kernel)
  exact ⟨hsecond.trans (by decide +kernel), hthird.trans (by decide +kernel)⟩

/-! ### Reads from the device -/

/-- A history of calls of `HS_MonitorUtilization`, each with the answer of the device, and of
the two commands. -/
inductive DeviceRun (max : UInt32) : List (HogEntry × Nat) → AppData cfg → Prop
  | start {s : AppData cfg} (hs : s.currentCPUHoggingTime = 0) (hmax : s.maxCPUHoggingTime = max) :
      DeviceRun max [] s
  | call {h : List (HogEntry × Nat)} {s : AppData cfg} (prior : DeviceRun max h s)
      (r : Reply Int) {sample : Int} (hread : (sysMonGetCpuUtilization r s).val = .ok sample) :
      DeviceRun max ((hotness s sample, hogReports (monitorUtilization r s).log) :: h)
        (monitorUtilization r s).state
  | enable {h : List (HogEntry × Nat)} {s : AppData cfg} (prior : DeviceRun max h s) :
      DeviceRun max ((.command, hogReports (enableCpuHogCmd s).log) :: h) (enableCpuHogCmd s).state
  | disable {h : List (HogEntry × Nat)} {s : AppData cfg} (prior : DeviceRun max h s) :
      DeviceRun max ((.command, hogReports (disableCpuHogCmd s).log) :: h) (disableCpuHogCmd s).state
  | aside {h : List (HogEntry × Nat)} {s t : AppData cfg} (prior : DeviceRun max h s)
      (ht : t.currentCPUHoggingTime = s.currentCPUHoggingTime)
      (hmax : t.maxCPUHoggingTime = s.maxCPUHoggingTime) : DeviceRun max h t

/-- `HS_MonitorUtilization` extends a history by a read of what the device gives. -/
theorem HogRun.monitorUtilization (prior : HogRun max h s) (r : Reply Int) :
    ∃ sample, (sysMonGetCpuUtilization r s).val = .ok sample ∧
      HogRun max ((hotness s sample, hogReports (monitorUtilization r s).log) :: h)
        (monitorUtilization r s).state := by
  obtain ⟨sample, hval, hrun⟩ := monitorUtilization_sample r s
  refine ⟨sample, hval, ?_⟩
  have hlog : hogReports (HealthSafety.monitorUtilization r s).log =
      hogReports (monitorSample sample s).log := by
    rw [hrun, hogReports, sentEvents_append, sysMonGetCpuUtilization_silent]
    rfl
  rw [hlog, hrun]
  exact prior.call sample

/-- The reads of the device are reads with some sample. -/
theorem DeviceRun.hogRun (hrun : DeviceRun max h s) : HogRun max h s := by
  induction hrun with
  | start hs hmax => exact .start hs hmax
  | call prior r hread ih =>
    obtain ⟨sample, hval, hnext⟩ := ih.monitorUtilization r
    rw [hread] at hval
    cases hval
    exact hnext
  | enable prior ih => exact ih.enable
  | disable prior ih => exact ih.disable
  | aside prior ht hmax ih => exact ih.aside ht hmax

/-- **The law of the hogging event for `HS_MonitorUtilization` itself**: of its calls, that one
sends the event whose reading of the device makes the streak as long as
`MaxCPUHoggingTime`, and no other. -/
theorem monitorUtilization_once_per_streak (hrun : DeviceRun max h s)
    {newer past : List (HogEntry × Nat)} {e : HogEntry} {n : Nat}
    (hentry : h = newer ++ (e, n) :: past)
    (hfits : streak (e :: past.map Prod.fst) < 2 ^ 32) :
    n = if e = .hot ∧ streak (e :: past.map Prod.fst) = max.toNat then 1 else 0 :=
  hrun.hogRun.reports hentry hfits

end HealthSafety
