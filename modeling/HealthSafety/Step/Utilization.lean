import Mathlib.Algebra.BigOperators.Fin
import Mathlib.Order.Lattice.Nat
import HealthSafety.Lib.Ring
import HealthSafety.Step.Frames

/-!
# One call of the utilization monitor

`reading` is what `HS_MonitorUtilization` gets from the device.  The state after a
call is `monitorUtilization_failed` if there is no reading and
`monitorUtilization_read` if there is one; `utilLoop_peak` and `utilLoop_sum` say
what the loop over the slots computes, and `averaged_iff` that its index conditions
select the slots written by the last `HS_UTIL_AVERAGE_NUM_INTERVAL` calls.
-/

namespace HealthSafety

open Lib

variable {cfg : Config}

/-! ### The sample -/

/-- The sample of a call, at most `HS_CPU_UTILIZATION_MAX`; `none` if the read failed. -/
def reading (r : Reply Int) (s : AppData cfg) : Option Nat :=
  match (sysMonGetCpuUtilization r s).val with
  | .ok value => if value < 0 then none else some (min value.toNat cfg.cpuUtilizationMax)
  | .error _ => none

variable {r : Reply Int} {s : AppData cfg}

theorem sysMonGetCpuUtilization_apply (r : Reply Int) (s : AppData cfg) :
    ∃ value l, sysMonGetCpuUtilization r s = ⟨.ok value, s, l⟩ ∧
      ∀ t : AppData cfg, t.sysMonPspModuleId = s.sysMonPspModuleId →
        sysMonGetCpuUtilization r t = ⟨.ok value, t, l⟩ := by
  unfold sysMonGetCpuUtilization
  by_cases hid : s.sysMonPspModuleId = 0
  · refine ⟨-1, [], ?_, fun t ht => ?_⟩
    · rw [Prog.get_bind, if_pos hid, Prog.pure_apply]
    · rw [Prog.get_bind, if_pos (ht.trans hid), Prog.pure_apply]
  by_cases hr : r.status = success
  · refine ⟨scaledSample cfg (r.value 0), [.call .iodriver], ?_, fun t ht => ?_⟩
    · rw [Prog.get_bind, if_neg hid, Prog.emit_bind, if_pos hr, Prog.pure_apply]
    · rw [Prog.get_bind, if_neg (ht ▸ hid), Prog.emit_bind, if_pos hr, Prog.pure_apply]
  · refine ⟨-1, [.call .iodriver], ?_, fun t ht => ?_⟩
    · rw [Prog.get_bind, if_neg hid, Prog.emit_bind, if_neg hr, Prog.pure_apply]
    · rw [Prog.get_bind, if_neg (ht ▸ hid), Prog.emit_bind, if_neg hr, Prog.pure_apply]

theorem reading_le {v : Nat} (h : reading r s = some v) : v ≤ cfg.cpuUtilizationMax := by
  unfold reading at h
  split at h
  · split at h
    · cases h
    · cases h
      exact Nat.min_le_right _ _
  · cases h

theorem reading_lt {v : Nat} (h : reading r s = some v) : v < 2 ^ 32 := by
  have := reading_le h
  have := cfg.verified.utilizationMax_le
  omega

/-! ### The loop over the slots -/

theorem toNat_ofNat_of_le {n : Nat} (h : n ≤ 4294967295) : (UInt32.ofNat n).toNat = n :=
  UInt32.toNat_ofNat_of_lt' (Nat.lt_succ_of_le h)

theorem utilStep_peak (this : UInt32) (tracker : Fin cfg.utilPeakNumInterval → UInt32)
    (acc : UInt32 × UInt32) (i : Fin cfg.utilPeakNumInterval) :
    (utilStep cfg this tracker acc i).1.toNat = max acc.1.toNat (tracker i).toNat := by
  show (if acc.1 < tracker i then tracker i else acc.1).toNat = _
  by_cases h : acc.1 < tracker i
  · rw [if_pos h]
    rw [UInt32.lt_iff_toNat_lt] at h
    omega
  · rw [if_neg h]
    rw [UInt32.lt_iff_toNat_lt] at h
    omega

theorem utilFold_peak (this : UInt32) (tracker : Fin cfg.utilPeakNumInterval → UInt32)
    (slots : List (Fin cfg.utilPeakNumInterval)) (acc : UInt32 × UInt32) :
    (slots.foldl (utilStep cfg this tracker) acc).1.toNat =
      max acc.1.toNat (slots.toFinset.sup fun i => (tracker i).toNat) := by
  induction slots generalizing acc with
  | nil => simp
  | cons i slots ih =>
    rw [List.foldl_cons, ih, utilStep_peak, List.toFinset_cons, Finset.sup_insert, max_assoc]

/-- What the loop computes: `PeakUtil` and `CombinedUtil`. -/
def utilLoop (cfg : Config) (this : UInt32) (tracker : Fin cfg.utilPeakNumInterval → UInt32) :
    UInt32 × UInt32 :=
  (List.finRange cfg.utilPeakNumInterval).foldl (utilStep cfg this tracker) (0, 0)

theorem utilLoop_peak (this : UInt32) (tracker : Fin cfg.utilPeakNumInterval → UInt32) :
    (utilLoop cfg this tracker).1.toNat = Finset.univ.sup fun i => (tracker i).toNat := by
  rw [utilLoop, utilFold_peak, List.toFinset_finRange]
  exact Nat.max_eq_right (Nat.zero_le _)

theorem utilStep_sum (this : UInt32) (tracker : Fin cfg.utilPeakNumInterval → UInt32)
    (acc : UInt32 × UInt32) (i : Fin cfg.utilPeakNumInterval) :
    (utilStep cfg this tracker acc i).2 = acc.2 +
      UInt32.ofNat (if averaged cfg this (UInt32.ofNat i) then (tracker i).toNat else 0) := by
  show (if averaged cfg this (UInt32.ofNat i) then acc.2 + tracker i else acc.2) = _
  by_cases h : averaged cfg this (UInt32.ofNat i) = true
  · rw [if_pos h, if_pos h, UInt32.ofNat_toNat]
  · rw [if_neg h, if_neg h]
    exact (UInt32.add_zero _).symm

theorem utilFold_sum (this : UInt32) (tracker : Fin cfg.utilPeakNumInterval → UInt32)
    (slots : List (Fin cfg.utilPeakNumInterval)) (acc : UInt32 × UInt32) :
    (slots.foldl (utilStep cfg this tracker) acc).2 = acc.2 +
      UInt32.ofNat (slots.map fun i : Fin cfg.utilPeakNumInterval =>
        if averaged cfg this (UInt32.ofNat i) then (tracker i).toNat else 0).sum := by
  induction slots generalizing acc with
  | nil => exact (UInt32.add_zero _).symm
  | cons i slots ih =>
    rw [List.foldl_cons, ih, utilStep_sum, List.map_cons, List.sum_cons, UInt32.ofNat_add,
      UInt32.add_assoc]

/-- **The index conditions of the loop select the youngest slots.** -/
theorem averaged_iff {this : UInt32} (hthis : this.toNat < cfg.utilPeakNumInterval)
    (i : Fin cfg.utilPeakNumInterval) :
    averaged cfg this (UInt32.ofNat i) = true ↔
      Ring.age cfg.utilPeakNumInterval (Ring.succ cfg.utilPeakNumInterval this.toNat) i <
        cfg.utilAverageNumInterval := by
  have hpeak := cfg.verified.peak_le
  have haverage := cfg.verified.average_le
  have hi := i.isLt
  have hslot : (UInt32.ofNat i.val).toNat = i := toNat_ofNat_of_le (by omega)
  have hA : (UInt32.ofNat cfg.utilAverageNumInterval).toNat = cfg.utilAverageNumInterval :=
    toNat_ofNat_of_le (by omega)
  have hP : (UInt32.ofNat cfg.utilPeakNumInterval).toNat = cfg.utilPeakNumInterval :=
    toNat_ofNat_of_le (by omega)
  rw [Ring.age_succ hthis hi]
  unfold averaged
  by_cases hle : UInt32.ofNat cfg.utilAverageNumInterval ≤ this
  · rw [if_pos hle, decide_eq_true_iff, UInt32.lt_iff_toNat_lt, UInt32.le_iff_toNat_le,
      UInt32.toNat_sub_of_le _ _ hle, hslot, hA]
    rw [UInt32.le_iff_toNat_le, hA] at hle
    split <;> omega
  · have hge : this ≤ UInt32.ofNat cfg.utilAverageNumInterval := by
      rw [UInt32.le_iff_toNat_le] at hle ⊢
      omega
    have hdiff : UInt32.ofNat cfg.utilAverageNumInterval - this ≤
        UInt32.ofNat cfg.utilPeakNumInterval := by
      rw [UInt32.le_iff_toNat_le, UInt32.toNat_sub_of_le _ _ hge, hA, hP]
      omega
    rw [if_neg hle, decide_eq_true_iff, UInt32.lt_iff_toNat_lt, UInt32.le_iff_toNat_le,
      UInt32.toNat_sub_of_le _ _ hdiff, UInt32.toNat_sub_of_le _ _ hge, hslot, hA, hP]
    rw [UInt32.le_iff_toNat_le, hA] at hle
    split <;> omega

theorem utilLoop_sum {this : UInt32} (hthis : this.toNat < cfg.utilPeakNumInterval)
    (tracker : Fin cfg.utilPeakNumInterval → UInt32) :
    (utilLoop cfg this tracker).2 =
      UInt32.ofNat (∑ i ∈ Finset.univ.filter (fun i : Fin cfg.utilPeakNumInterval =>
        Ring.age cfg.utilPeakNumInterval (Ring.succ cfg.utilPeakNumInterval this.toNat) i <
          cfg.utilAverageNumInterval), (tracker i).toNat) := by
  rw [← Finset.filter_congr fun i _ => averaged_iff hthis i, utilLoop, utilFold_sum,
    Finset.sum_filter, Fin.sum_univ_def]
  exact UInt32.zero_add _

/-! ### A call -/

/-- The write index after a call. -/
def nextUtilIndex (s : AppData cfg) : UInt32 :=
  if cfg.utilPeakNumInterval ≤ (s.currentCPUUtilIndex + 1).toNat then 0
  else s.currentCPUUtilIndex + 1

theorem toNat_nextUtilIndex (hs : s.currentCPUUtilIndex.toNat < cfg.utilPeakNumInterval) :
    (nextUtilIndex s).toNat = Ring.succ cfg.utilPeakNumInterval s.currentCPUUtilIndex.toNat := by
  have hpeak := cfg.verified.peak_le
  have hadd : (s.currentCPUUtilIndex + 1).toNat = s.currentCPUUtilIndex.toNat + 1 := by
    rw [UInt32.toNat_add, UInt32.toNat_one, Nat.mod_eq_of_lt (by omega)]
  unfold nextUtilIndex Ring.succ
  rw [hadd]
  by_cases h : cfg.utilPeakNumInterval ≤ s.currentCPUUtilIndex.toNat + 1
  · rw [if_pos h, if_neg (by omega), UInt32.toNat_zero]
  · rw [if_neg h, if_pos (by omega), hadd]

/-- `HS_AppData` when the device is read. -/
def AppData.advanceUtil (s : AppData cfg) : AppData cfg :=
  { s with currentCPUUtilIndex := nextUtilIndex s }

/-- `HS_MonitorUtilization` behind the read of the device. -/
def recordUtilization (this : UInt32) (sample : Int) : HsM cfg Unit := do
  if sample < 0 then
    modifyApp fun d => { d with utilCpuAvg := 0xFFFFFFFF, utilCpuPeak := 0xFFFFFFFF }
  else
    let util : Int := if (cfg.cpuUtilizationMax : Int) < sample then cfg.cpuUtilizationMax else sample
    checkHogging util
    if h : this.toNat < cfg.utilPeakNumInterval then
      modifyApp fun d => { d with
        utilizationTracker :=
          Function.update d.utilizationTracker ⟨this.toNat, h⟩ (UInt32.ofNat util.toNat) }
      let d ← appData
      let acc := (List.finRange cfg.utilPeakNumInterval).foldl
        (utilStep cfg this d.utilizationTracker) (0, 0)
      modifyApp fun d => { d with
        utilCpuAvg := acc.2 / UInt32.ofNat cfg.utilAverageNumInterval
        utilCpuPeak := acc.1 }
    else
      halt .outOfBounds

theorem monitorUtilization_eq (r : Reply Int) (s : AppData cfg) :
    monitorUtilization r s =
      (sysMonGetCpuUtilization r >>= recordUtilization s.currentCPUUtilIndex) s.advanceUtil := by
  unfold monitorUtilization AppData.advanceUtil nextUtilIndex
  rw [Prog.get_bind, Prog.modify_bind, Prog.get_bind]
  by_cases h : cfg.utilPeakNumInterval ≤ (s.currentCPUUtilIndex + 1).toNat
  · rw [Prog.when_pos h, Prog.modify_bind, if_pos h]
    rfl
  · rw [Prog.when_neg h, Prog.pure_bind', if_neg h]
    rfl

/-- `CurrentCPUHoggingTime` after a read. -/
def hoggingTime (util : Int) (s : AppData cfg) : UInt32 :=
  if (cfg.utilPerIntervalHogging : Int) ≤ util ∧ s.currentCPUHogState = .enabled then
    s.currentCPUHoggingTime + 1
  else 0

theorem checkHogging_eq (util : Int) (s : AppData cfg) :
    checkHogging util s = ⟨.ok (), { s with currentCPUHoggingTime := hoggingTime util s },
      if ((cfg.utilPerIntervalHogging : Int) ≤ util ∧ s.currentCPUHogState = .enabled) ∧
          s.currentCPUHoggingTime + 1 = s.maxCPUHoggingTime then
        [.call (.sendEvent .cpumonHoggingErr .error []), .call .writeToSysLog]
      else []⟩ := by
  unfold checkHogging hoggingTime
  rw [Prog.get_bind]
  by_cases hutil : (cfg.utilPerIntervalHogging : Int) ≤ util ∧ s.currentCPUHogState = .enabled
  · rw [if_pos hutil, if_pos hutil, Prog.modify_bind, Prog.get_bind]
    by_cases htime : s.currentCPUHoggingTime + 1 = s.maxCPUHoggingTime
    · rw [if_pos htime, Prog.emit_bind, if_pos ⟨hutil, htime⟩]
      rfl
    · rw [if_neg htime, Prog.pure_apply, if_neg fun h => htime h.2]
  · rw [if_neg hutil, if_neg hutil, if_neg fun h => hutil h.1]
    rfl

theorem checkHogging_apply (util : Int) (s : AppData cfg) :
    ∃ t l, checkHogging util s = ⟨.ok (), t, l⟩ ∧ t.utilization = s.utilization ∧
      t.sysMonPspModuleId = s.sysMonPspModuleId :=
  ⟨_, _, checkHogging_eq util s, rfl, rfl⟩

theorem monitorUtilization_failed (h : reading r s = none) :
    (monitorUtilization r s).state.utilization =
        ⟨nextUtilIndex s, s.utilizationTracker, 0xFFFFFFFF, 0xFFFFFFFF⟩ ∧
      (monitorUtilization r s).state.sysMonPspModuleId = s.sysMonPspModuleId := by
  obtain ⟨value, l, hs, hall⟩ := sysMonGetCpuUtilization_apply r s
  have hneg : value < 0 := by
    rw [reading, hs] at h
    by_contra hge
    simp [hge] at h
  rw [monitorUtilization_eq, Prog.bind_ok (hall s.advanceUtil rfl), recordUtilization, if_pos hneg]
  exact ⟨rfl, rfl⟩

theorem monitorUtilization_read {v : Nat}
    (hs : s.currentCPUUtilIndex.toNat < cfg.utilPeakNumInterval) (h : reading r s = some v) :
    ∃ tracker, tracker = Function.update s.utilizationTracker ⟨_, hs⟩ (UInt32.ofNat v) ∧
      (monitorUtilization r s).state.utilization =
        ⟨nextUtilIndex s, tracker,
          (utilLoop cfg s.currentCPUUtilIndex tracker).2 / UInt32.ofNat cfg.utilAverageNumInterval,
          (utilLoop cfg s.currentCPUUtilIndex tracker).1⟩ ∧
      (monitorUtilization r s).state.sysMonPspModuleId = s.sysMonPspModuleId := by
  obtain ⟨value, l, hval, hall⟩ := sysMonGetCpuUtilization_apply r s
  have hv : ¬ value < 0 ∧ min value.toNat cfg.cpuUtilizationMax = v := by
    rw [reading, hval] at h
    by_cases hneg : value < 0
    · simp [hneg] at h
    · exact ⟨hneg, by simpa [hneg] using h⟩
  have hutil : (if (cfg.cpuUtilizationMax : Int) < value then (cfg.cpuUtilizationMax : Int)
      else value).toNat = v := by
    rw [← hv.2]
    split <;> omega
  rw [monitorUtilization_eq, Prog.bind_ok (hall s.advanceUtil rfl), recordUtilization, if_neg hv.1]
  obtain ⟨t, l', hhog, ht, hid⟩ := checkHogging_apply (if (cfg.cpuUtilizationMax : Int) < value
    then (cfg.cpuUtilizationMax : Int) else value) s.advanceUtil
  have hindex : t.currentCPUUtilIndex = nextUtilIndex s := congrArg UtilView.index ht
  have htracker : t.utilizationTracker = s.utilizationTracker := congrArg UtilView.tracker ht
  rw [Prog.bind_ok hhog, dif_pos hs, Prog.modify_bind, Prog.get_bind, hutil, ← hindex, ← htracker]
  exact ⟨_, rfl, rfl, hid⟩

end HealthSafety
