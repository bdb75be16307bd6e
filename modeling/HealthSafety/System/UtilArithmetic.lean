import HealthSafety.System.StaleSamples

/-!
# The arithmetic of the utilization

A 24-bit sample is to be scaled to `0 .. HS_CPU_UTILIZATION_MAX`, and the samples of the
last intervals are to be added up (`UtilArithmetic`).  `hs_verify.h` admits every maximum
up to `2^32 - 1`, but the product is computed in an `int` and the sum in a `uint32`: with
a maximum of 100000 a fully loaded processor reads as unknown (`full_load_unknown`).  The
arithmetic is exact if and only if the maximum is at most 32768 and the sum of
`HS_UTIL_AVERAGE_NUM_INTERVAL` full loads fits (`utilArithmetic_iff`).
-/

namespace HealthSafety

open Lib

variable {cfg : Config} {s : AppData cfg} {r : Reply Int}

/-! ### Samples of 24 bits -/

/-- The device gives a sample of 24 bits if it gives one. -/
def Metered (r : Reply Int) : Prop := r.status = success → 0 ≤ r.out ∧ r.out ≤ 0xFFFFFF

theorem metered_sampled {x : Nat} (hx : x ≤ 0xFFFFFF) : Metered (sampled x) := by
  intro _
  show 0 ≤ (x : Int) ∧ (x : Int) ≤ 0xFFFFFF
  omega

/-- The states that calls with samples of 24 bits reach, with whatever HS does in between. -/
inductive MeteredRun : AppData cfg → Prop
  | start {s : AppData cfg} (hs : s.utilization = (initialData cfg).utilization) : MeteredRun s
  | call {s : AppData cfg} (prior : MeteredRun s) {r : Reply Int} (hr : Metered r) :
      MeteredRun (monitorUtilization r s).state
  | aside {s t : AppData cfg} (prior : MeteredRun s) (ht : t.utilization = s.utilization) :
      MeteredRun t

theorem MeteredRun.recorded (h : MeteredRun s) : ∃ h, Recorded h s := by
  induction h with
  | start hs => exact ⟨[], .start hs⟩
  | call prior hr ih =>
    obtain ⟨h, hrec⟩ := ih
    exact ⟨_, hrec.call _⟩
  | aside prior ht ih =>
    obtain ⟨h, hrec⟩ := ih
    exact ⟨h, hrec.aside ht⟩

/-- The sum of the slots that a call adds up, as the call leaves them. -/
def slotSum (r : Reply Int) (s : AppData cfg) : Nat :=
  ∑ i ∈ Finset.univ.filter (fun i : Fin cfg.utilPeakNumInterval =>
    averaged cfg s.currentCPUUtilIndex (UInt32.ofNat i) = true),
    ((monitorUtilization r s).state.utilizationTracker i).toNat

/-- What the call computes instead: `CombinedUtil`. -/
def combinedUtil (r : Reply Int) (s : AppData cfg) : UInt32 :=
  (utilLoop cfg s.currentCPUUtilIndex (monitorUtilization r s).state.utilizationTracker).2

/-- The arithmetic of the utilization is exact. -/
structure UtilArithmetic (cfg : Config) : Prop where
  /-- `HS_SysMonGetCpuUtilization` returns the scaled sample, rounded down. -/
  value : ∀ (s : AppData cfg) (x : Nat), s.sysMonPspModuleId ≠ 0 → x ≤ 0xFFFFFF →
    (sysMonGetCpuUtilization (sampled x) s).val =
      .ok (((x >>> 8) * cfg.cpuUtilizationMax / 0xFFFF : Nat) : Int)
  range : ∀ x : Nat, x ≤ 0xFFFFFF →
    0 ≤ scaledSample cfg x ∧ scaledSample cfg x ≤ cfg.cpuUtilizationMax
  monotone : ∀ x y : Nat, x ≤ y → y ≤ 0xFFFFFF → scaledSample cfg x ≤ scaledSample cfg y
  zero : scaledSample cfg 0 = 0
  full : scaledSample cfg 0xFFFFFF = cfg.cpuUtilizationMax
  /-- `CombinedUtil` is the sum of the slots, so that no addition wraps. -/
  sum : ∀ (s : AppData cfg) (r : Reply Int), MeteredRun s → Metered r → reading r s ≠ none →
    (combinedUtil r s).toNat = slotSum r s

/-! ### Scaling -/

theorem sysMonGetCpuUtilization_sampled (hid : s.sysMonPspModuleId ≠ 0) (x : Int) :
    (sysMonGetCpuUtilization (sampled x) s).val = .ok (scaledSample cfg x) := by
  unfold sysMonGetCpuUtilization
  rw [Prog.get_bind, if_neg hid, Prog.emit_bind,
    if_pos (show (sampled x).status = success from rfl)]
  rfl

/-- With a maximum of at most 32768 the product fits into an `int`. -/
theorem product_lt (hmax : cfg.cpuUtilizationMax ≤ 32768) {x : Nat} (hx : x ≤ 0xFFFFFF) :
    (x >>> 8) * cfg.cpuUtilizationMax < 2 ^ 31 := by
  have hshift : x >>> 8 ≤ 65535 := by
    rw [Nat.shiftRight_eq_div_pow]
    omega
  have := Nat.mul_le_mul hshift hmax
  omega

theorem scaledSample_exact (hmax : cfg.cpuUtilizationMax ≤ 32768) {x : Nat} (hx : x ≤ 0xFFFFFF) :
    scaledSample cfg x = (((x >>> 8) * cfg.cpuUtilizationMax / 0xFFFF : Nat) : Int) := by
  have hlt := product_lt hmax hx
  have hcast : ((x : Int) >>> (8 : Nat)) * cfg.cpuUtilizationMax =
      (((x >>> 8) * cfg.cpuUtilizationMax : Nat) : Int) := by
    push_cast
    rfl
  unfold scaledSample
  rw [hcast]
  generalize (x >>> 8) * cfg.cpuUtilizationMax = product at hlt
  have hproduct : (if cfg.cpuUtilizationMax < 2 ^ 31 then (product : Int).bmod (2 ^ 32)
      else product) = product := by
    rw [if_pos (by omega), Int.bmod_eq_of_le_mul_two (by omega) (by omega)]
  show ((if cfg.cpuUtilizationMax < 2 ^ 31 then (product : Int).bmod (2 ^ 32)
    else product).tdiv 0xFFFF).bmod (2 ^ 32) = _
  rw [hproduct, Int.tdiv_eq_ediv_of_nonneg (by omega),
    Int.bmod_eq_of_le_mul_two (by omega) (by omega)]
  rfl

/-- With a greater maximum a full load is not scaled to it: the product wraps, or what the
wider product gives does not fit into the result. -/
theorem scaledSample_full_lt (hmax : 32768 < cfg.cpuUtilizationMax) :
    scaledSample cfg 0xFFFFFF < cfg.cpuUtilizationMax := by
  have hle := cfg.verified.utilizationMax_le
  have hshift : (0xFFFFFF : Int) >>> (8 : Nat) = 65535 := by decide
  unfold scaledSample
  rw [hshift]
  generalize cfg.cpuUtilizationMax = max at hmax hle
  by_cases hint : max < 2 ^ 31
  · have hlow := Int.le_bmod (x := 65535 * max) (m := 2 ^ 32) (by decide)
    have hhigh := Int.bmod_lt (x := 65535 * max) (m := 2 ^ 32) (by decide)
    show ((if max < 2 ^ 31 then ((65535 : Int) * max).bmod (2 ^ 32)
      else (65535 : Int) * max).tdiv 0xFFFF).bmod (2 ^ 32) < max
    rw [if_pos hint]
    generalize ((65535 : Int) * max).bmod (2 ^ 32) = product at hlow hhigh
    have hleast : (-2147483648 : Int).tdiv 0xFFFF ≤ product.tdiv 0xFFFF :=
      Int.tdiv_le_tdiv (by decide) (by omega)
    have hgreatest : product.tdiv 0xFFFF ≤ (2147483647 : Int).tdiv 0xFFFF :=
      Int.tdiv_le_tdiv (by decide) (by omega)
    rw [show (-2147483648 : Int).tdiv 0xFFFF = -32768 by decide] at hleast
    rw [show (2147483647 : Int).tdiv 0xFFFF = 32768 by decide] at hgreatest
    rw [Int.bmod_eq_of_le_mul_two (by omega) (by omega)]
    omega
  · show ((if max < 2 ^ 31 then ((65535 : Int) * max).bmod (2 ^ 32)
      else (65535 : Int) * max).tdiv 0xFFFF).bmod (2 ^ 32) < max
    have hquot : ((65535 : Int) * max).tdiv 0xFFFF = max := by
      rw [Int.tdiv_eq_ediv_of_nonneg (by omega)]
      omega
    rw [if_neg hint, hquot]
    have hhigh := Int.bmod_lt (x := max) (m := 2 ^ 32) (by decide)
    omega

/-- Up to that maximum a full load is scaled to it. -/
theorem scaledSample_full (hmax : cfg.cpuUtilizationMax ≤ 32768) :
    scaledSample cfg 0xFFFFFF = cfg.cpuUtilizationMax := by
  have hexact := scaledSample_exact hmax (x := 0xFFFFFF) le_rfl
  have hfull : (0xFFFFFF >>> 8) * cfg.cpuUtilizationMax / 0xFFFF = cfg.cpuUtilizationMax := by
    rw [show 0xFFFFFF >>> 8 = 0xFFFF by decide]
    exact Nat.mul_div_cancel_left _ (by decide)
  rw [hfull] at hexact
  exact hexact

/-- Up to that maximum a greater load is not scaled to a smaller value. -/
theorem scaledSample_mono (hmax : cfg.cpuUtilizationMax ≤ 32768) {x y : Nat} (hxy : x ≤ y)
    (hy : y ≤ 0xFFFFFF) : scaledSample cfg x ≤ scaledSample cfg y := by
  have hle : (x >>> 8) * cfg.cpuUtilizationMax / 0xFFFF ≤
      (y >>> 8) * cfg.cpuUtilizationMax / 0xFFFF := by
    rw [Nat.shiftRight_eq_div_pow, Nat.shiftRight_eq_div_pow]
    exact Nat.div_le_div_right (Nat.mul_le_mul_right _ (Nat.div_le_div_right hxy))
  rw [scaledSample_exact hmax hy, scaledSample_exact hmax (Nat.le_trans hxy hy)]
  omega

/-! ### Adding up -/

/-- The slots that a call adds up are those written last. -/
theorem slotSum_eq {h : List (Option Nat)} (hrec : Recorded h s) {v : Nat}
    (hr : reading r s = some v) :
    slotSum r s = ∑ j ∈ Finset.range cfg.utilAverageNumInterval,
      Ring.ago (Ring.effective cfg.utilPeakNumInterval (h ++ [some v])) j := by
  have hs : s.currentCPUUtilIndex.toNat < cfg.utilPeakNumInterval := hrec.tracks.index_lt
  have hafter := hrec.tracks.read hr
  obtain ⟨tracker, -, hview, -⟩ := monitorUtilization_read hs hr
  have hindex : (monitorUtilization r s).state.utilization.index.toNat =
      Ring.succ cfg.utilPeakNumInterval s.currentCPUUtilIndex.toNat := by
    rw [hview]
    exact toNat_nextUtilIndex hs
  rw [← hafter.holds.sum_eq hafter.index_lt cfg.verified.average_le, hindex, slotSum,
    Finset.filter_congr fun i _ => averaged_iff hs i]
  rfl

theorem combinedUtil_eq {h : List (Option Nat)} (hrec : Recorded h s) :
    combinedUtil r s = UInt32.ofNat (slotSum r s) := by
  have hs : s.currentCPUUtilIndex.toNat < cfg.utilPeakNumInterval := hrec.tracks.index_lt
  rw [combinedUtil, utilLoop_sum hs, slotSum, Finset.filter_congr fun i _ => averaged_iff hs i]

theorem slotSum_le {h : List (Option Nat)} (hrec : Recorded h s) {v : Nat}
    (hr : reading r s = some v) :
    slotSum r s ≤ cfg.utilAverageNumInterval * cfg.cpuUtilizationMax := by
  have hcall := hrec.call r
  rw [hr] at hcall
  have hle : ∀ x ∈ Ring.effective cfg.utilPeakNumInterval (h ++ [some v]),
      x ≤ cfg.cpuUtilizationMax := by
    intro x hx
    rcases Ring.mem_effective hx with hsome | hzero
    · exact hcall.le_max hsome
    · omega
  rw [slotSum_eq hrec hr]
  exact Ring.sum_ago_le (Nat.zero_le _) hle cfg.utilAverageNumInterval

/-- Full loads, as many as one likes. -/
theorem exists_full_loads (hfull : scaledSample cfg 0xFFFFFF = cfg.cpuUtilizationMax) (n : Nat) :
    ∃ s : AppData cfg, MeteredRun s ∧
      Recorded ((List.replicate n cfg.cpuUtilizationMax).map some) s ∧
      s.sysMonPspModuleId ≠ 0 := by
  induction n with
  | zero => exact ⟨withDevice cfg, .start rfl, recorded_withDevice, show (1 : UInt32) ≠ 0 by decide⟩
  | succ n ih =>
    obtain ⟨s, hmet, hrec, hid⟩ := ih
    have hread : reading (sampled 0xFFFFFF) s = some cfg.cpuUtilizationMax := by
      rw [reading_sampled hid (by omega), hfull]
      simp
    refine ⟨_, hmet.call (metered_sampled (x := 0xFFFFFF) le_rfl), ?_, ?_⟩
    · have hcall := hrec.call (sampled 0xFFFFFF)
      rw [hread] at hcall
      rw [List.replicate_succ', List.map_append]
      exact hcall
    · rw [monitorUtilization_device _ hrec.tracks.index_lt]
      exact hid

theorem ago_replicate {n j : Nat} (v : Nat) (hj : j < n) : Ring.ago (List.replicate n v) j = v := by
  rw [Ring.ago, List.reverse_replicate, List.getD_eq_getElem?_getD, List.getElem?_replicate,
    if_pos hj, Option.getD_some]

/-- When every sample is a full load, the sum is the greatest there is. -/
theorem exists_slotSum_eq (hfull : scaledSample cfg 0xFFFFFF = cfg.cpuUtilizationMax) :
    ∃ s : AppData cfg, MeteredRun s ∧
      reading (sampled 0xFFFFFF) s = some cfg.cpuUtilizationMax ∧
      slotSum (sampled 0xFFFFFF) s = cfg.utilAverageNumInterval * cfg.cpuUtilizationMax := by
  obtain ⟨s, hmet, hrec, hid⟩ := exists_full_loads hfull cfg.utilAverageNumInterval
  have hread : reading (sampled 0xFFFFFF) s = some cfg.cpuUtilizationMax := by
    rw [reading_sampled hid (by omega), hfull]
    simp
  refine ⟨s, hmet, hread, ?_⟩
  have heff : Ring.effective cfg.utilPeakNumInterval
      ((List.replicate cfg.utilAverageNumInterval cfg.cpuUtilizationMax).map some ++
        [some cfg.cpuUtilizationMax]) =
      List.replicate (cfg.utilAverageNumInterval + 1) cfg.cpuUtilizationMax := by
    rw [List.replicate_succ', ← Ring.effective_map_some (P := cfg.utilPeakNumInterval)
      (List.replicate _ _ ++ _), List.map_append]
    rfl
  rw [slotSum_eq hrec hread, heff, Finset.sum_congr rfl fun j hj =>
    ago_replicate cfg.cpuUtilizationMax (Nat.lt_succ_of_lt (Finset.mem_range.mp hj)),
    Finset.sum_const, Finset.card_range, smul_eq_mul]

/-! ### When the arithmetic is exact -/

/-- **The arithmetic is exact if and only if the maximum is at most 32768 and
`HS_UTIL_AVERAGE_NUM_INTERVAL` full loads fit into 32 bits.** -/
theorem utilArithmetic_iff : UtilArithmetic cfg ↔
    cfg.cpuUtilizationMax ≤ 32768 ∧
      cfg.utilAverageNumInterval * cfg.cpuUtilizationMax < 2 ^ 32 := by
  constructor
  · intro h
    have hmax : cfg.cpuUtilizationMax ≤ 32768 := by
      by_contra hgt
      have hlt := scaledSample_full_lt (Nat.lt_of_not_le hgt)
      rw [h.full] at hlt
      exact lt_irrefl _ hlt
    obtain ⟨s, hmet, hread, hslots⟩ := exists_slotSum_eq h.full
    have hsum := h.sum s (sampled 0xFFFFFF) hmet (metered_sampled (x := 0xFFFFFF) le_rfl)
      (by simp [hread])
    rw [hslots] at hsum
    refine ⟨hmax, ?_⟩
    rw [← hsum]
    exact UInt32.toNat_lt _
  · rintro ⟨hmax, hfits⟩
    refine ⟨fun s x hid hx => ?_, fun x hx => ⟨?_, ?_⟩, fun x y => scaledSample_mono hmax,
      scaledSample_zero cfg, scaledSample_full hmax, fun s r hmet _ hr => ?_⟩
    · rw [sysMonGetCpuUtilization_sampled hid, scaledSample_exact hmax hx]
    · rw [scaledSample_exact hmax hx]
      exact Int.natCast_nonneg _
    · rw [← scaledSample_full hmax]
      exact scaledSample_mono hmax hx le_rfl
    · obtain ⟨h, hrec⟩ := hmet.recorded
      rcases hread : reading r s with _ | v
      · exact absurd hread hr
      · have hle := slotSum_le hrec hread
        rw [combinedUtil_eq hrec, UInt32.toNat_ofNat_of_lt' (Nat.lt_of_le_of_lt hle hfits)]

/-- The default configuration with 100000 steps for full utilization. -/
def Config.fineUtil : Config where
  toParams := { Params.default with
    cpuUtilizationMax := 100000
    utilPerIntervalHogging := 75000 }
  verified := by constructor <;> decide

/-- **A full load reads as unknown.**  With 100000 steps the greatest sample is scaled to a
negative value, which the utilization monitor takes for a failed read. -/
theorem full_load_unknown : ¬ ∀ cfg : Config, UtilArithmetic cfg := by
  intro h
  have hvalue : scaledSample .fineUtil 0xFFFFFF = -31074 := by decide
  have hfull := (h .fineUtil).full
  rw [hvalue] at hfull
  exact absurd hfull (by decide)

end HealthSafety
