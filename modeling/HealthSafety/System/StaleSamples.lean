import HealthSafety.System.Utilization

/-!
# Failed reads of the utilization

`HS_MonitorUtilization` moves its write index on before it knows whether the read
succeeds.  The slot of a failed read then keeps the sample of the trip round the ring
before, and the next successful read publishes it as one of the last
`HS_UTIL_PEAK_NUM_INTERVAL` (`stale_sample_published`).  What is published depends on
the last intervals alone if and only if each of the last reads that failed is one of
the first since HS was started (`windows_forget_iff`); the average depends on fewer
intervals, and for it only those reads matter (`sameAverage_of_failsEarly`).
-/

namespace HealthSafety

open Lib

variable {cfg : Config} {h h' : List (Option Nat)} {s s' : AppData cfg}

/-! ### What a device can give -/

/-- The least 16-bit load that is a positive utilization. -/
def leastLoad (cfg : Config) : Nat := (65534 + cfg.cpuUtilizationMax) / cfg.cpuUtilizationMax

theorem leastLoad_bounds (cfg : Config) : 65535 ≤ leastLoad cfg * cfg.cpuUtilizationMax ∧
    leastLoad cfg * cfg.cpuUtilizationMax ≤ max 131068 cfg.cpuUtilizationMax := by
  have hpos := cfg.verified.utilizationMax_pos
  have hdiv := Nat.div_add_mod (65534 + cfg.cpuUtilizationMax) cfg.cpuUtilizationMax
  have hmod := Nat.mod_lt (65534 + cfg.cpuUtilizationMax) hpos
  rw [Nat.mul_comm] at hdiv
  refine ⟨?_, ?_⟩
  · unfold leastLoad
    omega
  by_cases hbig : 65535 ≤ cfg.cpuUtilizationMax
  · have hone : leastLoad cfg = 1 :=
      Nat.div_eq_of_lt_le (by omega) (by omega)
    rw [hone]
    omega
  · unfold leastLoad
    omega

theorem scaledSample_leastLoad (cfg : Config) :
    1 ≤ scaledSample cfg (256 * leastLoad cfg) := by
  obtain ⟨hle, hge⟩ := leastLoad_bounds cfg
  have hmax := cfg.verified.utilizationMax_le
  have hshift : (256 * (leastLoad cfg : Int)) >>> (8 : Nat) = leastLoad cfg := by
    rw [Int.shiftRight_eq_div_pow]
    omega
  have hcast : (leastLoad cfg : Int) * cfg.cpuUtilizationMax =
      ((leastLoad cfg * cfg.cpuUtilizationMax : Nat) : Int) := by push_cast; rfl
  unfold scaledSample
  rw [hshift, hcast]
  generalize leastLoad cfg * cfg.cpuUtilizationMax = product at hle hge
  have hproduct : (if cfg.cpuUtilizationMax < 2 ^ 31 then (product : Int).bmod (2 ^ 32)
      else product) = product := by
    split
    · exact Int.bmod_eq_of_le_mul_two (by omega) (by omega)
    · rfl
  show 1 ≤ ((if cfg.cpuUtilizationMax < 2 ^ 31 then (product : Int).bmod (2 ^ 32)
      else product).tdiv 0xFFFF).bmod (2 ^ 32)
  rw [hproduct, Int.tdiv_eq_ediv_of_nonneg (by omega),
    Int.bmod_eq_of_le_mul_two (by omega) (by omega)]
  omega

theorem scaledSample_zero (cfg : Config) : scaledSample cfg 0 = 0 := by
  simp [scaledSample]

/-- The reading it gives. -/
def leastUtil (cfg : Config) : Nat :=
  min (scaledSample cfg (256 * leastLoad cfg)).toNat cfg.cpuUtilizationMax

theorem leastUtil_pos (cfg : Config) : 1 ≤ leastUtil cfg := by
  have hscaled := scaledSample_leastLoad cfg
  have hmax := cfg.verified.utilizationMax_pos
  unfold leastUtil
  omega

theorem reading_sampled {x : Int} (hid : s.sysMonPspModuleId ≠ 0) (hx : 0 ≤ scaledSample cfg x) :
    reading (sampled x) s = some (min (scaledSample cfg x).toNat cfg.cpuUtilizationMax) := by
  have hrun : sysMonGetCpuUtilization (sampled x) s =
      ⟨.ok (scaledSample cfg x), s, [.call .iodriver]⟩ := by
    unfold sysMonGetCpuUtilization
    rw [Prog.get_bind, if_neg hid, Prog.emit_bind,
      if_pos (show (sampled x).status = success from rfl)]
    rfl
  rw [reading, hrun]
  exact if_neg (by omega)

theorem reading_unread (hid : s.sysMonPspModuleId ≠ 0) : reading unread s = none := by
  have hrun : sysMonGetCpuUtilization unread s = ⟨.ok (-1), s, [.call .iodriver]⟩ := by
    unfold sysMonGetCpuUtilization
    rw [Prog.get_bind, if_neg hid, Prog.emit_bind, if_neg (by decide)]
    rfl
  rw [reading, hrun]
  exact if_pos (by decide)

theorem monitorUtilization_device (r : Reply Int)
    (hs : s.currentCPUUtilIndex.toNat < cfg.utilPeakNumInterval) :
    (monitorUtilization r s).state.sysMonPspModuleId = s.sysMonPspModuleId := by
  rcases hr : reading r s with _ | v
  · exact (monitorUtilization_failed hr).2
  · obtain ⟨-, -, -, hid⟩ := monitorUtilization_read hs hr
    exact hid

/-- A device can give every history of these readings. -/
theorem exists_recorded (h : List (Option Nat)) (hh : ∀ v, some v ∈ h → v = 0 ∨ v = leastUtil cfg) :
    ∃ s : AppData cfg, Recorded h s ∧ s.sysMonPspModuleId ≠ 0 := by
  induction h using List.reverseRecOn with
  | nil => exact ⟨withDevice cfg, recorded_withDevice, show (1 : UInt32) ≠ 0 by decide⟩
  | append_singleton h x ih =>
    obtain ⟨s, hrec, hid⟩ := ih fun v hv => hh v (List.mem_append_left _ hv)
    have hread : ∃ r, reading r s = x := by
      rcases x with _ | v
      · exact ⟨unread, reading_unread hid⟩
      rcases hh v (List.mem_append_right _ List.mem_cons_self) with rfl | rfl
      · refine ⟨sampled 0, ?_⟩
        rw [reading_sampled hid (by rw [scaledSample_zero]), scaledSample_zero]
        simp
      · have hscaled := scaledSample_leastLoad cfg
        exact ⟨_, reading_sampled hid (by omega)⟩
    obtain ⟨r, rfl⟩ := hread
    refine ⟨_, hrec.call r, ?_⟩
    rw [monitorUtilization_device r hrec.tracks.index_lt]
    exact hid

/-! ### Reads fail -/

/-- Which of the last `k` reads succeeded. -/
def outcomes (k : Nat) (h : List (Option Nat)) : List Bool :=
  (Ring.recent k h).map Option.isSome

/-- `h'` is as long as `h`, and of the last `k` reads the same ones succeeded. -/
def SameReads (k : Nat) (h h' : List (Option Nat)) : Prop :=
  h'.length = h.length ∧ outcomes k h' = outcomes k h

/-- If the histories agree on the last `HS_UTIL_PEAK_NUM_INTERVAL` intervals, the same
`UtilCpuPeak` is published; if they agree on the last `HS_UTIL_AVERAGE_NUM_INTERVAL`, the same
`UtilCpuAvg`. -/
def SameWindows (cfg : Config) (h h' : List (Option Nat)) : Prop :=
  ∀ s s' : AppData cfg, Recorded h s → Recorded h' s' →
    (Ring.recent cfg.utilPeakNumInterval h = Ring.recent cfg.utilPeakNumInterval h' →
      s.utilCpuPeak = s'.utilCpuPeak) ∧
    (Ring.recent cfg.utilAverageNumInterval h = Ring.recent cfg.utilAverageNumInterval h' →
      s.utilCpuAvg = s'.utilCpuAvg)

/-- If the histories agree on the last `HS_UTIL_AVERAGE_NUM_INTERVAL` intervals, the same
`UtilCpuAvg` is published. -/
def SameAverage (cfg : Config) (h h' : List (Option Nat)) : Prop :=
  ∀ s s' : AppData cfg, Recorded h s → Recorded h' s' →
    Ring.recent cfg.utilAverageNumInterval h = Ring.recent cfg.utilAverageNumInterval h' →
      s.utilCpuAvg = s'.utilCpuAvg

/-- Of the last `k` reads, only such failed as are among the first
`HS_UTIL_PEAK_NUM_INTERVAL` since HS was started. -/
def FailsEarly (cfg : Config) (k : Nat) (h : List (Option Nat)) : Prop :=
  ∀ j < k, h.reverse[j]? = some none → h.length ≤ j + cfg.utilPeakNumInterval

theorem peak_eq_of_recent (hrec : Recorded h s) (hrec' : Recorded h' s')
    (hlen : h.length = h'.length) (hlast : h.getLast? ≠ some none)
    (hlast' : h'.getLast? ≠ some none) (hearly : FailsEarly cfg cfg.utilPeakNumInterval h)
    (hrecent : Ring.recent cfg.utilPeakNumInterval h = Ring.recent cfg.utilPeakNumInterval h') :
    s.utilCpuPeak = s'.utilCpuPeak := by
  apply UInt32.toNat_inj.mp
  have hpeak := hrec.tracks.peak hlast
  have hpeak' := hrec'.tracks.peak hlast'
  refine hpeak.trans (Eq.trans ?_ hpeak'.symm)
  exact Finset.sup_congr rfl fun j hj => Ring.ago_effective_congr cfg.verified.peak_pos hlen
    hrecent hearly (Finset.mem_range.mp hj)

theorem average_eq_of_recent (hrec : Recorded h s) (hrec' : Recorded h' s')
    (hlen : h.length = h'.length) (hlast : h.getLast? ≠ some none)
    (hlast' : h'.getLast? ≠ some none) (hearly : FailsEarly cfg cfg.utilAverageNumInterval h)
    (hrecent : Ring.recent cfg.utilAverageNumInterval h =
      Ring.recent cfg.utilAverageNumInterval h') :
    s.utilCpuAvg = s'.utilCpuAvg := by
  have havg := hrec.tracks.average hlast
  have havg' := hrec'.tracks.average hlast'
  have hsum := Finset.sum_congr rfl fun j hj => Ring.ago_effective_congr cfg.verified.peak_pos
    hlen hrecent hearly (Finset.mem_range.mp hj)
  rw [hsum, ← havg'] at havg
  exact havg

section

variable {k : Nat}

theorem getElem?_outcomes {j : Nat} (hj : j < k) :
    (outcomes k h)[j]? = h.reverse[j]?.map Option.isSome := by
  rw [outcomes, List.getElem?_map, Ring.recent_getElem? hj]

theorem SameReads.failsEarly (hreads : SameReads k h h') (hearly : FailsEarly cfg k h) :
    FailsEarly cfg k h' := by
  intro j hj hnone
  rw [hreads.1]
  apply hearly j hj
  have hout := getElem?_outcomes (h := h) hj
  rw [← hreads.2, getElem?_outcomes hj, hnone] at hout
  rcases hget : h.reverse[j]? with _ | _ | v
  · rw [hget] at hout
    cases hout
  · rfl
  · rw [hget] at hout
    cases hout

theorem SameReads.getLast?_ne {v : Nat} (hk : 0 < k) (hreads : SameReads k h h')
    (hlast : h.getLast? = some (some v)) : h'.getLast? ≠ some none := by
  intro hnone
  have hout := getElem?_outcomes (h := h) hk
  rw [← hreads.2, getElem?_outcomes hk] at hout
  rw [← List.head?_reverse, List.head?_eq_getElem?] at hlast hnone
  rw [hlast, hnone] at hout
  cases hout

end

/-- The same reads as in `h`: before the last ones the samples are `v`, from then on 0. -/
def idleAfter (cfg : Config) (h : List (Option Nat)) (v : Nat) : List (Option Nat) :=
  ((Ring.recent cfg.utilPeakNumInterval h).map (Option.map fun _ => 0) ++
    List.replicate (h.length - cfg.utilPeakNumInterval) (some v)).reverse

theorem mem_idleAfter {v x : Nat} (hx : some x ∈ idleAfter cfg h v) : x = 0 ∨ x = v := by
  rcases List.mem_append.mp (List.mem_reverse.mp hx) with hx | hx
  · obtain ⟨y, -, hy⟩ := List.mem_map.mp hx
    obtain ⟨z, -, hz⟩ := Option.map_eq_some_iff.mp hy
    exact Or.inl hz.symm
  · exact Or.inr (Option.some.inj (List.eq_of_mem_replicate hx))

theorem length_recent (hlong : cfg.utilPeakNumInterval ≤ h.length) :
    (Ring.recent cfg.utilPeakNumInterval h).length = cfg.utilPeakNumInterval := by
  rw [Ring.recent, List.length_take, List.length_reverse]
  omega

theorem recent_idleAfter (hlong : cfg.utilPeakNumInterval ≤ h.length) (v : Nat) :
    Ring.recent cfg.utilPeakNumInterval (idleAfter cfg h v) =
      (Ring.recent cfg.utilPeakNumInterval h).map (Option.map fun _ => 0) := by
  have hlen := length_recent hlong
  rw [idleAfter, Ring.recent, List.reverse_reverse, List.take_append_of_le_length (by simp [hlen]),
    List.take_of_length_le (by simp [hlen])]

theorem sameReads_idleAfter (hlong : cfg.utilPeakNumInterval ≤ h.length) (v : Nat) :
    SameReads cfg.utilPeakNumInterval h (idleAfter cfg h v) := by
  refine ⟨?_, ?_⟩
  · rw [idleAfter, List.length_reverse, List.length_append, List.length_map, length_recent hlong,
      List.length_replicate]
    omega
  · rw [outcomes, recent_idleAfter hlong v, List.map_map, outcomes]
    congr 1
    funext x
    cases x <;> rfl

theorem idleAfter_skipped (hlong : cfg.utilPeakNumInterval ≤ h.length) (v : Nat) {j : Nat}
    (hj : j < cfg.utilPeakNumInterval) (hnone : h.reverse[j]? = some none) :
    (idleAfter cfg h v).reverse[j]? = some none := by
  rw [← Ring.recent_getElem? hj, recent_idleAfter hlong v, List.getElem?_map, Ring.recent_getElem? hj,
    hnone]
  rfl

theorem idleAfter_old (hlong : cfg.utilPeakNumInterval ≤ h.length) (v : Nat) {j : Nat}
    (hj : j + cfg.utilPeakNumInterval < h.length) :
    (idleAfter cfg h v).reverse[j + cfg.utilPeakNumInterval]? = some (some v) := by
  have hlen := length_recent hlong
  rw [idleAfter, List.reverse_reverse, List.getElem?_append_right (by simp [hlen]),
    List.getElem?_replicate, if_pos (by simp [hlen]; omega)]

/-- Without samples before the last ones, the peak is 0. -/
theorem peak_idleAfter_zero {v : Nat} (hlast : h.getLast? = some (some v))
    (hlong : cfg.utilPeakNumInterval ≤ h.length) (hrec : Recorded (idleAfter cfg h 0) s) :
    s.utilCpuPeak.toNat = 0 := by
  have hne := (sameReads_idleAfter hlong 0).getLast?_ne cfg.verified.peak_pos hlast
  refine (hrec.tracks.peak hne).trans ?_
  refine (Finset.sup_eq_bot_iff _ _).mpr fun i _ => ?_
  rcases Ring.ago_mem_or_eq_zero (Ring.effective cfg.utilPeakNumInterval (idleAfter cfg h 0)) i with
    hmem | hzero
  · exact (Ring.mem_effective hmem).elim (fun hx => (mem_idleAfter hx).elim id id) id
  · exact hzero

/-- A read that fails when its slot has a sample before the last ones makes that sample
count. -/
theorem le_peak_idleAfter {v j : Nat} (hlast : h.getLast? = some (some v))
    (hold : j + cfg.utilPeakNumInterval < h.length) (hj : j < cfg.utilPeakNumInterval)
    (hnone : h.reverse[j]? = some none) (x : Nat) (hrec : Recorded (idleAfter cfg h x) s) :
    x ≤ s.utilCpuPeak.toNat := by
  have hlong : cfg.utilPeakNumInterval ≤ h.length := by omega
  have hwritten := idleAfter_old hlong x hold
  have hskip := idleAfter_skipped hlong x hj hnone
  calc x
    _ = Ring.ago (Ring.effective cfg.utilPeakNumInterval (idleAfter cfg h x)) j :=
      ((Ring.ago_effective_skipped cfg.verified.peak_pos hskip).trans
        (Ring.ago_effective_written hwritten)).symm
    _ ≤ _ := Finset.le_sup (Finset.mem_range.mpr hj)
    _ = s.utilCpuPeak.toNat :=
      (hrec.tracks.peak ((sameReads_idleAfter hlong x).getLast?_ne cfg.verified.peak_pos hlast)).symm

/-- The average needs no more than the last `HS_UTIL_AVERAGE_NUM_INTERVAL` reads. -/
theorem sameAverage_of_failsEarly {h₁ h₂ : List (Option Nat)} {v : Nat}
    (hlast : h.getLast? = some (some v)) (hearly : FailsEarly cfg cfg.utilAverageNumInterval h)
    (hreads₁ : SameReads cfg.utilAverageNumInterval h h₁)
    (hreads₂ : SameReads cfg.utilAverageNumInterval h h₂) : SameAverage cfg h₁ h₂ := by
  intro s₁ s₂ hrec₁ hrec₂
  have hA := cfg.verified.average_pos
  exact average_eq_of_recent hrec₁ hrec₂ (hreads₁.1.trans hreads₂.1.symm)
    (hreads₁.getLast?_ne hA hlast) (hreads₂.getLast?_ne hA hlast) (hreads₁.failsEarly hearly)

/-- **What is published after failed reads is that of the last intervals if and only if each
of the last reads that failed is one of the first.**  For the average alone it is enough that
this holds of the last `HS_UTIL_AVERAGE_NUM_INTERVAL` reads, and only these have to be the
same. -/
theorem windows_forget_iff {v : Nat} (hlast : h.getLast? = some (some v)) :
    ((∀ h₁ h₂, SameReads cfg.utilPeakNumInterval h h₁ → SameReads cfg.utilPeakNumInterval h h₂ →
        SameWindows cfg h₁ h₂) ↔ FailsEarly cfg cfg.utilPeakNumInterval h) ∧
      (FailsEarly cfg cfg.utilAverageNumInterval h →
        ∀ h₁ h₂, SameReads cfg.utilAverageNumInterval h h₁ →
          SameReads cfg.utilAverageNumInterval h h₂ → SameAverage cfg h₁ h₂) := by
  have hP := cfg.verified.peak_pos
  have hA := cfg.verified.average_le
  refine ⟨⟨?_, ?_⟩, fun hearly h₁ h₂ => sameAverage_of_failsEarly hlast hearly⟩
  · intro hlaw j hj hnone
    by_contra hold
    have hlong : cfg.utilPeakNumInterval ≤ h.length := by omega
    obtain ⟨s, hrec, -⟩ := @exists_recorded cfg (idleAfter cfg h 0)
      fun x hx => Or.inl ((mem_idleAfter hx).elim id id)
    obtain ⟨s', hrec', -⟩ := @exists_recorded cfg (idleAfter cfg h (leastUtil cfg))
      fun x hx => mem_idleAfter hx
    have hsame := (hlaw _ _ (sameReads_idleAfter hlong 0) (sameReads_idleAfter hlong _) s s' hrec
      hrec').1 ((recent_idleAfter hlong 0).trans (recent_idleAfter hlong _).symm)
    have hquiet := peak_idleAfter_zero hlast hlong hrec
    have hstale := le_peak_idleAfter hlast (Nat.lt_of_not_le hold) hj hnone _ hrec'
    have hpos := leastUtil_pos cfg
    rw [← hsame] at hstale
    omega
  · intro hearly h₁ h₂ hreads₁ hreads₂ s₁ s₂ hrec₁ hrec₂
    have hlen : h₁.length = h₂.length := hreads₁.1.trans hreads₂.1.symm
    have hearly₁ := hreads₁.failsEarly hearly
    refine ⟨?_, ?_⟩
    · exact peak_eq_of_recent hrec₁ hrec₂ hlen (hreads₁.getLast?_ne hP hlast)
        (hreads₂.getLast?_ne hP hlast) hearly₁
    · exact average_eq_of_recent hrec₁ hrec₂ hlen (hreads₁.getLast?_ne hP hlast)
        (hreads₂.getLast?_ne hP hlast) fun j hj => hearly₁ j (by omega)

theorem windows_forget_iff_threeSlots :
    let h := [some 10000, some 0, some 0, none, some 0]
    h.getLast? = some (some 0) ∧
      ((∀ h₁ h₂, SameReads 3 h h₁ → SameReads 3 h h₂ → SameWindows .threeSlots h₁ h₂) ↔
        FailsEarly .threeSlots 3 h) ∧
      (FailsEarly .threeSlots 2 h →
        ∀ h₁ h₂, SameReads 2 h h₁ → SameReads 2 h h₂ → SameAverage .threeSlots h₁ h₂) :=
  ⟨rfl, @windows_forget_iff .threeSlots _ _ rfl⟩

/-- A full load in the first interval, or none, and then four intervals without load, of which
the third cannot be read. -/
def staleCalls (first : Int) : List (Reply Int) :=
  [sampled first, sampled 0, sampled 0, unread, sampled 0]

/-- **The peak of the last three intervals is a sample of five intervals ago.** -/
theorem stale_sample_published :
    ¬ ∀ (cfg : Config) (h h' : List (Option Nat)) (v v' : Nat), h.getLast? = some (some v) →
      h'.getLast? = some (some v') → h.length = h'.length → SameWindows cfg h h' := by
  intro hlaw
  have hread : readings (staleCalls 0xFFFF00) (withDevice .threeSlots) =
      [some 10000, some 0, some 0, none, some 0] := by decide +kernel
  have hread' : readings (staleCalls 0) (withDevice .threeSlots) =
      [some 0, some 0, some 0, none, some 0] := by decide +kernel
  have hpeak : (monitorAll (staleCalls 0xFFFF00) (withDevice .threeSlots)).utilCpuPeak = 10000 := by
    decide +kernel
  have hpeak' : (monitorAll (staleCalls 0) (withDevice .threeSlots)).utilCpuPeak = 0 := by
    decide +kernel
  have hstart : Recorded [] (withDevice .threeSlots) := recorded_withDevice
  have hrec := hstart.monitorAll (staleCalls 0xFFFF00)
  have hrec' := hstart.monitorAll (staleCalls 0)
  rw [hread] at hrec
  rw [hread'] at hrec'
  have hsame := (hlaw .threeSlots [some 10000, some 0, some 0, none, some 0]
    [some 0, some 0, some 0, none, some 0] 0 0 rfl rfl rfl _ _ hrec hrec').1 rfl
  rw [hpeak, hpeak'] at hsame
  exact absurd hsame (by decide)

end HealthSafety
