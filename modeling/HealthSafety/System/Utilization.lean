import Mathlib.Algebra.Order.BigOperators.Group.Finset
import HealthSafety.Step.Utilization
import HealthSafety.System.World

/-!
# The utilization windows

`Recorded h s`: since HS was started the utilization monitor has been called
`h.length` times, with the readings `h`, and has left `s`; whatever else HS does
keeps this (`Recorded.op`), so that it holds in every state of a run
(`World.Run.recorded`).  `UtilizationTracker` is then a ring that holds `h`, and what the
last call has published is computed from it (`Recorded.tracks`).  As long as every read
succeeds, these are the true windows (`utilization_windows`).
-/

namespace HealthSafety

open Lib

variable {cfg : Config} {h : List (Option Nat)} {s t : AppData cfg}

/-! ### Histories -/

/-- The readings of the utilization monitor since HS was started, the last one at the end. -/
inductive Recorded : List (Option Nat) → AppData cfg → Prop
  | start {s : AppData cfg} (hs : s.utilization = (initialData cfg).utilization) : Recorded [] s
  | call {h : List (Option Nat)} {s : AppData cfg} (prior : Recorded h s) (r : Reply Int) :
      Recorded (h ++ [reading r s]) (monitorUtilization r s).state
  | aside {h : List (Option Nat)} {s t : AppData cfg} (prior : Recorded h s)
      (ht : t.utilization = s.utilization) : Recorded h t

namespace Recorded

theorem appInit (i : InitIn cfg) (s : AppData cfg) : Recorded [] (appInit i s).state := by
  rw [appInit_eq]
  exact .start ((initRest_does i _).utilization_eq)

theorem checkUtilization (prior : Recorded h s) (r : Reply Int) :
    Recorded (if s.utilizationCycleCounter = 0 then h ++ [reading r s] else h)
      (checkUtilization r s).state := by
  unfold HealthSafety.checkUtilization
  rw [Prog.get_bind]
  by_cases hcount : s.utilizationCycleCounter = 0
  · rw [Prog.when_pos hcount, if_pos hcount, Prog.bind_assoc']
    have hcall := prior.call r
    rcases hrun : monitorUtilization r s with ⟨e | u, t, l⟩
    · rw [hrun] at hcall
      rw [Prog.bind_error hrun]
      exact hcall
    · rw [hrun] at hcall
      rw [Prog.bind_ok hrun, Prog.modify_bind]
      exact hcall.aside rfl
  · rw [Prog.when_neg hcount, if_neg hcount, Prog.pure_bind']
    exact prior.aside rfl

/-- Every operation of HS extends the history by at most one reading, or starts it anew. -/
theorem op (prior : Recorded h s) (op : Op cfg) :
    ∃ h', (h' = [] ∨ h <+: h') ∧ Recorded h' (op.run s).state := by
  have hkeep (hks : ∀ k ∈ op.kinds, k.keepsUtilization = true) :
      ∃ h', (h' = [] ∨ h <+: h') ∧ Recorded h' (op.run s).state :=
    ⟨h, Or.inr (List.prefix_refl h), prior.aside ((op.does s).utilization_eq hks)⟩
  cases op with
  | appInit i =>
    rw [Op.run_appInit]
    exact ⟨[], Or.inl rfl, .appInit i s⟩
  | checkUtilization r =>
    refine ⟨_, Or.inr ?_, prior.checkUtilization r⟩
    split
    · exact List.prefix_append h _
    · exact List.prefix_refl h
  | appPipe msg r =>
    have hcmd : ∀ k ∈ anyCmdKinds, k.keepsUtilization = true := by decide
    exact hkeep fun k hk => hcmd k (cmdKinds_subset cfg msg hk)
  | _ => exact hkeep (by simp only [Op.kinds]; decide)

end Recorded

/-- In every state of a run the utilization monitor has a history. -/
theorem World.Run.recorded {P : World cfg → Op cfg → Prop} {w : World cfg}
    {l : List (Label cfg)} (hrun : World.Run P (World.off cfg) l w) : ∃ h, Recorded h w.app := by
  refine hrun.invariant (I := fun w => ∃ h, Recorded h w.app) (fun w op _ _ hw => ?_)
    ⟨[], .start rfl⟩
  obtain ⟨h, hw⟩ := hw
  obtain ⟨h', -, hw'⟩ := hw.op op
  exact ⟨h', hw'⟩

/-! ### The tracker is a ring that holds the history -/

/-- What the utilization monitor keeps and publishes after these readings. -/
structure Tracks (h : List (Option Nat)) (v : UtilView cfg) : Prop where
  index_lt : v.index.toNat < cfg.utilPeakNumInterval
  holds : Ring.Holds (fun i => (v.tracker i).toNat) v.index.toNat
    (Ring.effective cfg.utilPeakNumInterval h)
  peak (hlast : h.getLast? ≠ some none) : v.peak.toNat =
    (Finset.range cfg.utilPeakNumInterval).sup
      (Ring.ago (Ring.effective cfg.utilPeakNumInterval h))
  average (hlast : h.getLast? ≠ some none) : v.average =
    UInt32.ofNat (∑ j ∈ Finset.range cfg.utilAverageNumInterval,
      Ring.ago (Ring.effective cfg.utilPeakNumInterval h) j) /
      UInt32.ofNat cfg.utilAverageNumInterval

theorem Tracks.start : Tracks [] (initialData cfg).utilization where
  index_lt := cfg.verified.peak_pos
  holds := Ring.Holds.nil
  peak _ := ((Finset.sup_eq_bot_iff _ _).mpr fun _ _ => Ring.ago_nil _).symm
  average _ := by simp [initialData, AppData.utilization]

theorem Tracks.failed {r : Reply Int} (ht : Tracks h s.utilization) (hr : reading r s = none) :
    Tracks (h ++ [none]) (monitorUtilization r s).state.utilization := by
  rw [(monitorUtilization_failed hr).1]
  have hindex := toNat_nextUtilIndex ht.index_lt
  refine ⟨?_, ?_, fun hlast => absurd (by simp) hlast, fun hlast => absurd (by simp) hlast⟩
  · rw [hindex]
    exact Ring.succ_lt cfg.verified.peak_pos
  · rw [hindex, Ring.effective_append, Option.getD_none]
    exact ht.holds.skip ht.index_lt

theorem Tracks.read {r : Reply Int} {v : Nat} (ht : Tracks h s.utilization)
    (hr : reading r s = some v) :
    Tracks (h ++ [some v]) (monitorUtilization r s).state.utilization := by
  have hs : s.currentCPUUtilIndex.toNat < cfg.utilPeakNumInterval := ht.index_lt
  obtain ⟨tracker, htracker, hafter, -⟩ := monitorUtilization_read hs hr
  have hindex := toNat_nextUtilIndex hs
  have hlt : (nextUtilIndex s).toNat < cfg.utilPeakNumInterval := by
    rw [hindex]
    exact Ring.succ_lt cfg.verified.peak_pos
  have hv : (UInt32.ofNat v).toNat = v := UInt32.toNat_ofNat_of_lt' (reading_lt hr)
  have hholds : Ring.Holds (fun i => (tracker i).toNat) (nextUtilIndex s).toNat
      (Ring.effective cfg.utilPeakNumInterval (h ++ [some v])) := by
    have hwrite := ht.holds.write hs v
    have hupdate : (fun i => (tracker i).toNat) = Function.update
        (fun i => (s.utilizationTracker i).toNat) ⟨_, hs⟩ v := by
      have hcomp := Function.comp_update UInt32.toNat s.utilizationTracker ⟨_, hs⟩
        (UInt32.ofNat v)
      rw [hv] at hcomp
      rw [htracker]
      exact hcomp
    rw [hindex, Ring.effective_append, Option.getD_some, hupdate]
    exact hwrite
  rw [hafter]
  refine ⟨hlt, hholds, fun _ => ?_, fun _ => ?_⟩
  · rw [← hholds.sup_eq hlt]
    exact utilLoop_peak _ _
  · rw [← hholds.sum_eq hlt cfg.verified.average_le, hindex, utilLoop_sum hs]

theorem Recorded.tracks (hrec : Recorded h s) : Tracks h s.utilization := by
  induction hrec with
  | start hs =>
    rw [hs]
    exact .start
  | @call h s prior r ih =>
    rcases hr : reading r s with _ | v
    · exact ih.failed hr
    · exact ih.read hr
  | aside prior ht ih =>
    rw [ht]
    exact ih

/-! ### Calls -/

/-- One call after another. -/
def monitorAll (rs : List (Reply Int)) (s : AppData cfg) : AppData cfg :=
  rs.foldl (fun s r => (monitorUtilization r s).state) s

/-- The readings of these calls. -/
def readings : List (Reply Int) → AppData cfg → List (Option Nat)
  | [], _ => []
  | r :: rs, s => reading r s :: readings rs (monitorUtilization r s).state

theorem Recorded.monitorAll (prior : Recorded h s) (rs : List (Reply Int)) :
    Recorded (h ++ readings rs s) (monitorAll rs s) := by
  induction rs generalizing h s with
  | nil =>
    rw [readings, List.append_nil]
    exact prior
  | cons r rs ih =>
    have hnext := ih (prior.call r)
    rw [List.append_assoc] at hnext
    exact hnext

/-- `HS_AppData` as HS starts with a monitoring device. -/
def withDevice (cfg : Config) : AppData cfg := { initialData cfg with sysMonPspModuleId := 1 }

theorem recorded_withDevice : Recorded [] (withDevice cfg) := .start rfl

/-- The device gives a sample. -/
def sampled (x : Int) : Reply Int := ⟨success, x, true⟩

/-- The device cannot be read. -/
def unread : Reply Int := ⟨-1, 0, false⟩

/-- The default configuration with a ring of three slots, two of them averaged. -/
def Config.threeSlots : Config where
  toParams := { Params.default with
    utilPeakNumInterval := 3
    utilAverageNumInterval := 2 }
  verified := by constructor <;> decide

/-! ### Every read succeeds -/

theorem Recorded.le_max (hrec : Recorded h s) {v : Nat} (hv : some v ∈ h) :
    v ≤ cfg.cpuUtilizationMax := by
  induction hrec with
  | start hs => cases hv
  | call prior r ih =>
    rcases List.mem_append.mp hv with hv | hv
    · exact ih hv
    · exact reading_le (List.mem_singleton.mp hv).symm
  | aside prior ht ih => exact ih hv

theorem getLast?_map_some (samples : List Nat) : (samples.map some).getLast? ≠ some none := by
  rw [List.getLast?_map]
  cases samples.getLast? <;> simp

/-- **As long as every read succeeds, what is published are the true windows**: `UtilCpuPeak`
is the maximum of the last `HS_UTIL_PEAK_NUM_INTERVAL` samples, `UtilCpuAvg` the mean of the
last `HS_UTIL_AVERAGE_NUM_INTERVAL`, a sample before the first call counting as 0.  For every
position of the write index, the loop adds one slot of each age below
`HS_UTIL_AVERAGE_NUM_INTERVAL` and no other. -/
theorem utilization_windows
    (hmax : cfg.utilAverageNumInterval * cfg.cpuUtilizationMax < 2 ^ 32)
    {samples : List Nat} {s : AppData cfg} (hrec : Recorded (samples.map some) s) :
    s.utilCpuPeak.toNat = (Finset.range cfg.utilPeakNumInterval).sup (Ring.ago samples) ∧
      s.utilCpuAvg.toNat =
        (∑ j ∈ Finset.range cfg.utilAverageNumInterval, Ring.ago samples j) /
          cfg.utilAverageNumInterval ∧
      ∀ this : Fin cfg.utilPeakNumInterval, Set.BijOn
        (fun slot : Fin cfg.utilPeakNumInterval =>
          Ring.age cfg.utilPeakNumInterval (Ring.succ cfg.utilPeakNumInterval this) slot)
        {slot | averaged cfg (UInt32.ofNat this) (UInt32.ofNat slot) = true}
        (Set.Iio cfg.utilAverageNumInterval) := by
  have htracks := hrec.tracks
  have hlast := getLast?_map_some samples
  have heff : Ring.effective cfg.utilPeakNumInterval (samples.map some) = samples :=
    Ring.effective_map_some samples
  have hpeak := cfg.verified.peak_le
  have haverage := cfg.verified.average_le
  refine ⟨?_, ?_, fun this => ?_⟩
  · rw [← heff]
    exact htracks.peak hlast
  · have hsum := Ring.sum_ago_le (Nat.zero_le cfg.cpuUtilizationMax)
      (fun v hv => hrec.le_max (List.mem_map_of_mem hv)) cfg.utilAverageNumInterval
    rw [smul_eq_mul] at hsum
    have hval := htracks.average hlast
    rw [heff] at hval
    show s.utilization.average.toNat = _
    rw [hval, UInt32.toNat_div, UInt32.toNat_ofNat_of_lt' (Nat.lt_of_le_of_lt hsum hmax),
      toNat_ofNat_of_le (by omega)]
  · have hthis : (UInt32.ofNat this.val).toNat = this := toNat_ofNat_of_le (by omega)
    have hbij := Ring.age_bijOn
      (Ring.succ_lt (i := this.val) cfg.verified.peak_pos) haverage
    convert hbij using 2
    funext slot
    rw [averaged_iff (by omega), hthis]

/-- Five calls that read 100%, 50%, 0%, 100% and 0%. -/
def fiveCalls : AppData .threeSlots :=
  monitorAll [sampled 0xFFFF00, sampled 0x7FFF00, sampled 0, sampled 0xFFFF00, sampled 0]
    (withDevice .threeSlots)

theorem fiveCalls_recorded : Recorded ([10000, 4999, 0, 10000, 0].map some) fiveCalls := by
  have hread : readings [sampled 0xFFFF00, sampled 0x7FFF00, sampled 0, sampled 0xFFFF00,
      sampled 0] (withDevice .threeSlots) = [10000, 4999, 0, 10000, 0].map some := by
    decide +kernel
  have hstart : Recorded [] (withDevice .threeSlots) := recorded_withDevice
  have hrec := hstart.monitorAll [sampled 0xFFFF00, sampled 0x7FFF00, sampled 0, sampled 0xFFFF00,
    sampled 0]
  rw [hread] at hrec
  exact hrec

theorem utilization_windows_fiveCalls :
    Recorded ([10000, 4999, 0, 10000, 0].map some) fiveCalls ∧
      fiveCalls.utilCpuPeak.toNat =
        (Finset.range 3).sup (Ring.ago [10000, 4999, 0, 10000, 0]) ∧
      fiveCalls.utilCpuAvg.toNat =
        (∑ j ∈ Finset.range 2, Ring.ago [10000, 4999, 0, 10000, 0] j) / 2 := by
  have hmain := utilization_windows (by decide) fiveCalls_recorded
  exact ⟨fiveCalls_recorded, hmain.1, hmain.2.1⟩

end HealthSafety
