import HealthSafety.System.Utilization

/-!
# The bounds of the utilization

`monitorSample` is `HS_MonitorUtilization` with what `HS_SysMonGetCpuUtilization` returned
as an argument (`monitorUtilization_sample`), so that `Sampled` is about every value of
the device: negative ones, which stand for a failed read, and values above
`HS_CPU_UTILIZATION_MAX`.  In every state these calls reach the write index is in range,
no slot exceeds the maximum, and what is published is either unknown or an average below
the peak (`utilization_bounded`).
-/

namespace HealthSafety

open Lib

variable {cfg : Config} {s t : AppData cfg}

/-! ### Calls -/

/-- `HS_MonitorUtilization` when `HS_SysMonGetCpuUtilization` returns `sample`. -/
def monitorSample (sample : Int) : HsM cfg Unit := do
  let d ← appData
  let this := d.currentCPUUtilIndex
  modifyApp fun d => { d with currentCPUUtilIndex := d.currentCPUUtilIndex + 1 }
  let d ← appData
  Prog.when (cfg.utilPeakNumInterval ≤ d.currentCPUUtilIndex.toNat)
    (modifyApp fun d => { d with currentCPUUtilIndex := 0 })
  recordUtilization this sample

theorem monitorSample_eq (sample : Int) (s : AppData cfg) :
    monitorSample sample s = recordUtilization s.currentCPUUtilIndex sample s.advanceUtil := by
  unfold monitorSample AppData.advanceUtil nextUtilIndex
  rw [Prog.get_bind, Prog.modify_bind, Prog.get_bind]
  by_cases h : cfg.utilPeakNumInterval ≤ (s.currentCPUUtilIndex + 1).toNat
  · rw [Prog.when_pos h, Prog.modify_bind, if_pos h]
  · rw [Prog.when_neg h, Prog.pure_bind', if_neg h]

/-- A call of the utilization monitor is one with what the device gives. -/
theorem monitorUtilization_sample (r : Reply Int) (s : AppData cfg) :
    ∃ sample, (sysMonGetCpuUtilization r s).val = .ok sample ∧
      monitorUtilization r s = ⟨(monitorSample sample s).val, (monitorSample sample s).state,
        (sysMonGetCpuUtilization r s).log ++ (monitorSample sample s).log⟩ := by
  obtain ⟨sample, l, hs, hall⟩ := sysMonGetCpuUtilization_apply r s
  refine ⟨sample, by rw [hs], ?_⟩
  rw [monitorUtilization_eq, Prog.bind_ok (hall s.advanceUtil rfl), monitorSample_eq, hs]

/-- The states that calls of the utilization monitor reach, with whatever HS does in
between. -/
inductive Sampled : AppData cfg → Prop
  | start {s : AppData cfg} (hs : s.utilization = (initialData cfg).utilization) : Sampled s
  | call {s : AppData cfg} (prior : Sampled s) (sample : Int) :
      Sampled (monitorSample sample s).state
  | aside {s t : AppData cfg} (prior : Sampled s) (ht : t.utilization = s.utilization) : Sampled t

theorem Recorded.sampled {h : List (Option Nat)} (hrec : Recorded h s) : Sampled s := by
  induction hrec with
  | start hs => exact .start hs
  | @call h s prior r ih =>
    obtain ⟨sample, -, hrun⟩ := monitorUtilization_sample r s
    rw [hrun]
    exact ih.call sample
  | aside prior ht ih => exact ih.aside ht

/-! ### The invariant -/

/-- The write index is in range, no slot exceeds the maximum, and what is published is
unknown or an average below the peak. -/
structure UtilView.Bounded (v : UtilView cfg) : Prop where
  index_lt : v.index.toNat < cfg.utilPeakNumInterval
  slot_le : ∀ i, (v.tracker i).toNat ≤ cfg.cpuUtilizationMax
  published : v.average = 0xFFFFFFFF ∧ v.peak = 0xFFFFFFFF ∨
    v.average.toNat ≤ v.peak.toNat ∧ v.peak.toNat ≤ cfg.cpuUtilizationMax

theorem UtilView.Bounded.start : (initialData cfg).utilization.Bounded where
  index_lt := cfg.verified.peak_pos
  slot_le _ := Nat.zero_le _
  published := .inr ⟨le_rfl, Nat.zero_le _⟩

/-- The loop publishes an average below the peak: it adds
`HS_UTIL_AVERAGE_NUM_INTERVAL` slots, each of them at most the peak. -/
theorem utilLoop_bounded (hmax : cfg.utilAverageNumInterval * cfg.cpuUtilizationMax < 2 ^ 32)
    {this : UInt32} (hthis : this.toNat < cfg.utilPeakNumInterval)
    {tracker : Fin cfg.utilPeakNumInterval → UInt32}
    (hslot : ∀ i, (tracker i).toNat ≤ cfg.cpuUtilizationMax) :
    ((utilLoop cfg this tracker).2 / UInt32.ofNat cfg.utilAverageNumInterval).toNat ≤
        (utilLoop cfg this tracker).1.toNat ∧
      (utilLoop cfg this tracker).1.toNat ≤ cfg.cpuUtilizationMax := by
  have hpeak := cfg.verified.peak_le
  have haverage := cfg.verified.average_le
  have hpos := cfg.verified.average_pos
  have hle : (utilLoop cfg this tracker).1.toNat ≤ cfg.cpuUtilizationMax := by
    rw [utilLoop_peak]
    exact Finset.sup_le fun i _ => hslot i
  refine ⟨?_, hle⟩
  have hnext := Ring.succ_lt (i := this.toNat) cfg.verified.peak_pos
  have hsum := Finset.sum_le_card_nsmul
    (Finset.univ.filter fun i : Fin cfg.utilPeakNumInterval =>
      Ring.age cfg.utilPeakNumInterval (Ring.succ cfg.utilPeakNumInterval this.toNat) i <
        cfg.utilAverageNumInterval)
    (fun i => (tracker i).toNat) (utilLoop cfg this tracker).1.toNat fun i _ => by
      rw [utilLoop_peak]
      exact Finset.le_sup (f := fun i => (tracker i).toNat) (Finset.mem_univ i)
  rw [Ring.card_age_lt hnext haverage, smul_eq_mul] at hsum
  have hfits := Nat.le_trans hsum (Nat.mul_le_mul_left cfg.utilAverageNumInterval hle)
  rw [utilLoop_sum hthis, UInt32.toNat_div, UInt32.toNat_ofNat_of_lt' (Nat.lt_of_le_of_lt hfits hmax),
    toNat_ofNat_of_le (by omega)]
  exact Nat.div_le_of_le_mul hsum

/-- What a call leaves: the index behind the old one, and either nothing published or the
new sample in its slot and the loop's two results. -/
theorem monitorSample_apply (sample : Int) (s : AppData cfg)
    (hs : s.currentCPUUtilIndex.toNat < cfg.utilPeakNumInterval) :
    ∃ t l, monitorSample sample s = ⟨.ok (), t, l⟩ ∧
      (t.utilization = ⟨nextUtilIndex s, s.utilizationTracker, 0xFFFFFFFF, 0xFFFFFFFF⟩ ∨
        ∃ v tracker, v ≤ cfg.cpuUtilizationMax ∧
          tracker = Function.update s.utilizationTracker ⟨_, hs⟩ (UInt32.ofNat v) ∧
          t.utilization = ⟨nextUtilIndex s, tracker,
            (utilLoop cfg s.currentCPUUtilIndex tracker).2 /
              UInt32.ofNat cfg.utilAverageNumInterval,
            (utilLoop cfg s.currentCPUUtilIndex tracker).1⟩) := by
  rw [monitorSample_eq, recordUtilization]
  by_cases hneg : sample < 0
  · rw [if_pos hneg]
    exact ⟨_, _, rfl, .inl rfl⟩
  rw [if_neg hneg]
  obtain ⟨t, l, hhog, ht, -⟩ := checkHogging_apply (if (cfg.cpuUtilizationMax : Int) < sample
    then (cfg.cpuUtilizationMax : Int) else sample) s.advanceUtil
  have hindex : t.currentCPUUtilIndex = nextUtilIndex s := congrArg UtilView.index ht
  have htracker : t.utilizationTracker = s.utilizationTracker := congrArg UtilView.tracker ht
  rw [Prog.bind_ok hhog, dif_pos hs, Prog.modify_bind, Prog.get_bind, ← hindex, ← htracker]
  exact ⟨_, _, rfl, .inr ⟨_, _, by split <;> omega, rfl, rfl⟩⟩

/-- Every call keeps the invariant. -/
theorem UtilView.Bounded.call
    (hmax : cfg.utilAverageNumInterval * cfg.cpuUtilizationMax < 2 ^ 32)
    (h : s.utilization.Bounded) (sample : Int) :
    (monitorSample sample s).state.utilization.Bounded := by
  have hs : s.currentCPUUtilIndex.toNat < cfg.utilPeakNumInterval := h.index_lt
  have hnext : (nextUtilIndex s).toNat < cfg.utilPeakNumInterval := by
    rw [toNat_nextUtilIndex hs]
    exact Ring.succ_lt cfg.verified.peak_pos
  obtain ⟨t, l, hrun, hfailed | ⟨v, tracker, hv, htracker, hread⟩⟩ := monitorSample_apply sample s hs
  · rw [hrun, hfailed]
    exact ⟨hnext, h.slot_le, .inl ⟨rfl, rfl⟩⟩
  · have hslot : ∀ i, (tracker i).toNat ≤ cfg.cpuUtilizationMax := by
      intro i
      rw [htracker]
      by_cases hi : i = ⟨_, hs⟩
      · have hfits := cfg.verified.utilizationMax_le
        rw [hi, Function.update_self, toNat_ofNat_of_le (by omega)]
        exact hv
      · rw [Function.update_of_ne hi]
        exact h.slot_le i
    rw [hrun, hread]
    exact ⟨hnext, hslot, .inr (utilLoop_bounded hmax hs hslot)⟩

theorem Sampled.bounded (hmax : cfg.utilAverageNumInterval * cfg.cpuUtilizationMax < 2 ^ 32)
    (h : Sampled s) : s.utilization.Bounded := by
  induction h with
  | start hs =>
    rw [hs]
    exact .start
  | call prior sample ih => exact ih.call hmax sample
  | aside prior ht ih =>
    rw [ht]
    exact ih

/-- **The utilization stays within its bounds**, whatever the device gives: the write index
is below `HS_UTIL_PEAK_NUM_INTERVAL`, so that no call indexes `UtilizationTracker` out of
bounds; no slot exceeds `HS_CPU_UTILIZATION_MAX`; and the published average and peak are
both unknown, or the average is at most the peak and the peak at most the maximum. -/
theorem utilization_bounded
    (hmax : cfg.utilAverageNumInterval * cfg.cpuUtilizationMax < 2 ^ 32) (h : Sampled s) :
    s.currentCPUUtilIndex.toNat < cfg.utilPeakNumInterval ∧
      (∀ sample, (monitorSample sample s).val = .ok ()) ∧
      (∀ i, (s.utilizationTracker i).toNat ≤ cfg.cpuUtilizationMax) ∧
      (s.utilCpuAvg = 0xFFFFFFFF ∧ s.utilCpuPeak = 0xFFFFFFFF ∨
        s.utilCpuAvg.toNat ≤ s.utilCpuPeak.toNat ∧
          s.utilCpuPeak.toNat ≤ cfg.cpuUtilizationMax) := by
  have hb := h.bounded hmax
  have hs : s.currentCPUUtilIndex.toNat < cfg.utilPeakNumInterval := hb.index_lt
  refine ⟨hs, fun sample => ?_, hb.slot_le, hb.published⟩
  obtain ⟨t, l, hrun, -⟩ := monitorSample_apply sample s hs
  rw [hrun]

/-- A failed read, a value above the maximum, and three in range that go round the ring. -/
def mixedSamples : AppData .threeSlots :=
  ([-1, 123456, 5000, 0, 2500] : List Int).foldl (fun s x => (monitorSample x s).state)
    (initialData .threeSlots)

theorem utilization_bounded_mixedSamples :
    mixedSamples.currentCPUUtilIndex.toNat < 3 ∧
      (mixedSamples.utilCpuAvg = 0xFFFFFFFF ∧ mixedSamples.utilCpuPeak = 0xFFFFFFFF ∨
        mixedSamples.utilCpuAvg.toNat ≤ mixedSamples.utilCpuPeak.toNat ∧
          mixedSamples.utilCpuPeak.toNat ≤ 10000) := by
  have hmain := @utilization_bounded .threeSlots mixedSamples (by decide)
    (((((Sampled.start rfl).call (-1)).call 123456).call 5000).call 0 |>.call 2500)
  exact ⟨hmain.1, hmain.2.2.2⟩

end HealthSafety
