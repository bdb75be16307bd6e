import HealthSafety.Step.Aloof
import HealthSafety.Step.Utilization
import HealthSafety.System.Watchdog

/-!
# The two periods

HS puts out a sign of life every `HS_CPU_ALIVE_PERIOD` passes, and samples the utilization
every `HS_CPU_UTILIZATION_CYCLES_PER_INTERVAL` passes.  One counter counts up, and only
while the aliveness output is on; the other one counts down.

`Timed` counts the completed passes since HS was initialized.  Whatever the tables, the
events and the commands are, and however often the output is switched off and on, both
periods are kept exactly (`periods_kept`).
-/

namespace HealthSafety

open Lib

variable {cfg : Config} {s : AppData cfg} {l : List (Label cfg)} {passes alive : Nat}

/-! ### Counting -/

/-- The signs of life that were put out. -/
def outputs (l : List (Label cfg)) : Nat :=
  l.countP fun x => match x with
    | .call .printf => true
    | _ => false

/-- The calls to the device. -/
def samples (l : List (Label cfg)) : Nat :=
  l.countP fun x => match x with
    | .call .iodriver => true
    | _ => false

/-- The number of passes from one sample to the next; the counter is decremented after
it was set. -/
def utilizationPeriod (cfg : Config) : Nat := (cfg.cpuUtilizationCyclesPerInterval - 1).toNat + 1

/-- The completed passes since HS was initialized, those that found the aliveness output
on, and what was logged. -/
inductive Timed : Nat → Nat → List (Label cfg) → AppData cfg → Prop
  | start {l : List (Label cfg)} {s : AppData cfg} (h : Booted l s) : Timed 0 0 [] s
  | pass {passes alive : Nat} {l : List (Label cfg)} {s : AppData cfg}
      (h : Timed passes alive l s) (c : CycleIn cfg) {status : Status}
      (hval : (processMain c s).val = .ok status) :
      Timed (passes + 1) (if s.currentAlivenessState = .enabled then alive + 1 else alive)
        (l ++ (processMain c s).log) (processMain c s).state

section

variable {passes alive : Nat} {l : List (Label cfg)} {s : AppData cfg} {status : Status}

theorem Timed.pass_on (h : Timed passes alive l s) (c : CycleIn cfg)
    (hval : (processMain c s).val = .ok status) (hon : s.currentAlivenessState = .enabled) :
    Timed (passes + 1) (alive + 1) (l ++ (processMain c s).log) (processMain c s).state := by
  have hnext := h.pass c hval
  rwa [if_pos hon] at hnext

theorem Timed.pass_off (h : Timed passes alive l s) (c : CycleIn cfg)
    (hval : (processMain c s).val = .ok status) (hoff : s.currentAlivenessState ≠ .enabled) :
    Timed (passes + 1) alive (l ++ (processMain c s).log) (processMain c s).state := by
  have hnext := h.pass c hval
  rwa [if_neg hoff] at hnext

end

theorem countP_seen {p : Label cfg → Bool} (hp : ∀ x, p x = true → x.ofDials = true)
    (l : List (Label cfg)) : (l.filter Label.ofDials).countP p = l.countP p := by
  rw [List.countP_filter]
  refine List.countP_congr fun x _ => ?_
  rw [Bool.and_eq_true]
  exact ⟨fun h => h.1, fun h => ⟨h, hp x h⟩⟩

theorem outputs_seen (l : List (Label cfg)) : outputs (l.filter Label.ofDials) = outputs l := by
  refine countP_seen (fun x hx => ?_) l
  split at hx
  · rfl
  · cases hx

theorem samples_seen (l : List (Label cfg)) : samples (l.filter Label.ofDials) = samples l := by
  refine countP_seen (fun x hx => ?_) l
  split at hx
  · rfl
  · cases hx

theorem dialLook_seen (switch : Bool) : (dialLook cfg switch false).seen = Label.ofDials := by
  funext x
  show (x.ofDials || (x.isOrder && false)) = x.ofDials
  rw [Bool.and_false, Bool.or_false]

/-! ### The utilization monitor -/

/-- The counter after a pass. -/
def nextCycleCounter (s : AppData cfg) : UInt32 :=
  if s.utilizationCycleCounter = 0 then cfg.cpuUtilizationCyclesPerInterval - 1
  else s.utilizationCycleCounter - 1

/-- The call to the device, if it is time and there is one. -/
def sampleLog (s : AppData cfg) : List (Label cfg) :=
  if s.utilizationCycleCounter = 0 ∧ s.sysMonPspModuleId ≠ 0 then [.call .iodriver] else []

theorem recordUtilization_aloof (this : UInt32) (sample : Int) :
    Aloof true false (recordUtilization this sample : HsM cfg Unit) := by
  refine .ite (.modify fun _ => rfl) (.bind ?_ fun _ => ?_)
  · refine .get_bind fun _ => .ite ?_ (.modify fun _ => rfl)
    refine .bind (.modify fun _ => rfl) fun _ => .get_bind fun _ => .ite ?_ (.pure _)
    exact .bind (.emit rfl) fun _ => .emit rfl
  · split
    · exact .bind (.modify fun _ => rfl) fun _ => .get_bind fun _ => .modify fun _ => rfl
    · exact halt_aloof _

theorem sysMonGetCpuUtilization_log (r : Reply Int) (s : AppData cfg) :
    ∃ sample, sysMonGetCpuUtilization r s =
      ⟨.ok sample, s, if s.sysMonPspModuleId ≠ 0 then [.call .iodriver] else []⟩ := by
  unfold sysMonGetCpuUtilization
  rw [Prog.get_bind]
  by_cases hid : s.sysMonPspModuleId = 0
  · rw [if_pos hid, if_neg (not_not.mpr hid)]
    exact ⟨_, rfl⟩
  · rw [if_neg hid, if_pos hid, Prog.emit_bind]
    split <;> exact ⟨_, rfl⟩

theorem monitorUtilization_dials (r : Reply Int) (s : AppData cfg) :
    (dialLook cfg true false).view (monitorUtilization r s).state =
        (dialLook cfg true false).view s ∧
      (monitorUtilization r s).log.filter Label.ofDials =
        if s.sysMonPspModuleId ≠ 0 then [.call .iodriver] else [] := by
  obtain ⟨sample, hrun⟩ := sysMonGetCpuUtilization_log r s.advanceUtil
  have hid : s.advanceUtil.sysMonPspModuleId = s.sysMonPspModuleId := rfl
  have hrest : Aloof true false
      (recordUtilization s.currentCPUUtilIndex sample : HsM cfg Unit) :=
    recordUtilization_aloof _ _
  have hunseen := hrest.unseen s.advanceUtil
  rw [dialLook_seen] at hunseen
  rw [monitorUtilization_eq, Prog.bind_ok hrun]
  refine ⟨(hrest.view s.advanceUtil).trans rfl, ?_⟩
  rw [List.filter_append, hunseen, List.append_nil, hid]
  split <;> rfl

theorem checkUtilization_dials {r : Reply Int} {a : Unit}
    (hval : (checkUtilization r s).val = .ok a) :
    (dialLook cfg true false).view (checkUtilization r s).state =
        (⟨s.alivenessCounter, nextCycleCounter s, s.sysMonPspModuleId⟩,
          some s.currentAlivenessState) ∧
      (checkUtilization r s).log.filter Label.ofDials = sampleLog s := by
  unfold checkUtilization at hval ⊢
  unfold nextCycleCounter sampleLog
  rw [Prog.get_bind] at hval ⊢
  by_cases h : s.utilizationCycleCounter = 0
  · obtain ⟨hview, hlog⟩ := monitorUtilization_dials r s
    rw [Prog.when_pos h, Prog.bind_assoc'] at hval ⊢
    rcases hrun : monitorUtilization r s with ⟨e | u, t, l⟩
    · rw [Prog.bind_error hrun] at hval
      cases hval
    · rw [hrun] at hview hlog
      have hdials : t.dials = s.dials := congrArg Prod.fst hview
      have hswitch : some t.currentAlivenessState = some s.currentAlivenessState :=
        congrArg Prod.snd hview
      rw [Prog.bind_ok hrun, Prog.modify_bind, if_pos h]
      refine ⟨?_, ?_⟩
      · exact congrArg₂ Prod.mk (congrArg (fun d : Dials =>
          (⟨d.alivenessCounter, cfg.cpuUtilizationCyclesPerInterval - 1, d.sysMonPspModuleId⟩ :
            Dials)) hdials) hswitch
      · show (l ++ []).filter Label.ofDials = _
        rw [List.append_nil]
        exact hlog.trans (if_congr (and_iff_right h).symm rfl rfl)
  · rw [Prog.when_neg h, Prog.pure_bind', if_neg h, if_neg fun hs => h hs.1]
    exact ⟨rfl, rfl⟩

/-! ### The aliveness output -/

/-- It is time for a sign of life. -/
def Due (s : AppData cfg) : Prop :=
  s.currentAlivenessState = .enabled ∧ cfg.cpuAlivePeriod ≤ (s.alivenessCounter + 1).toNat

instance (s : AppData cfg) : Decidable (Due s) := inferInstanceAs (Decidable (_ ∧ _))

/-- The counter after a pass. -/
def nextAlivenessCounter (s : AppData cfg) : UInt32 :=
  if Due s then 0
  else if s.currentAlivenessState = .enabled then s.alivenessCounter + 1
  else s.alivenessCounter

theorem outputAliveness_apply (s : AppData cfg) :
    outputAliveness s = ⟨.ok (), { s with alivenessCounter := nextAlivenessCounter s },
      if Due s then [.call .printf] else []⟩ := by
  unfold outputAliveness
  rw [Prog.get_bind]
  by_cases hon : s.currentAlivenessState = .enabled
  · rw [Prog.when_pos hon, Prog.modify_bind, Prog.get_bind]
    by_cases hdue : cfg.cpuAlivePeriod ≤ (s.alivenessCounter + 1).toNat
    · have hnow : Due s := ⟨hon, hdue⟩
      have hnext : nextAlivenessCounter s = 0 := if_pos hnow
      rw [Prog.when_pos hdue, if_pos hnow, hnext]
      rfl
    · have hnot : ¬ Due s := fun h => hdue h.2
      have hnext : nextAlivenessCounter s = s.alivenessCounter + 1 :=
        (if_neg hnot).trans (if_pos hon)
      rw [Prog.when_neg hdue, if_neg hnot, hnext]
      rfl
  · have hnot : ¬ Due s := fun h => hon h.1
    have hnext : nextAlivenessCounter s = s.alivenessCounter :=
      (if_neg hnot).trans (if_neg hon)
    rw [Prog.when_neg hon, if_neg hnot, hnext]
    rfl

theorem due_congr {t : AppData cfg} (hswitch : t.currentAlivenessState = s.currentAlivenessState)
    (hcounter : t.alivenessCounter = s.alivenessCounter) : Due t ↔ Due s := by
  unfold Due
  rw [hswitch, hcounter]

theorem nextAlivenessCounter_congr {t : AppData cfg}
    (hswitch : t.currentAlivenessState = s.currentAlivenessState)
    (hcounter : t.alivenessCounter = s.alivenessCounter) :
    nextAlivenessCounter t = nextAlivenessCounter s := by
  unfold nextAlivenessCounter
  rw [hswitch, hcounter, if_congr (due_congr hswitch hcounter) rfl rfl]

/-! ### A pass -/

theorem dials_of_view {t : AppData cfg} {d : Dials} {v : SwitchState}
    (h : (dialLook cfg true false).view t = (d, some v)) :
    t.dials = d ∧ t.currentAlivenessState = v :=
  ⟨congrArg Prod.fst h, Option.some.inj (congrArg Prod.snd h)⟩

/-- A pass behind the aliveness output. -/
def passEnd (c : CycleIn cfg) : HsM cfg Status := do
  let status ← processCommands c
  serviceWatchdog
  pure status

theorem passEnd_aloof (c : CycleIn cfg) : Aloof false false (passEnd c) :=
  .bind (processCommands_aloof c) fun _ => .bind serviceWatchdog_aloof fun _ => .pure _

/-- A pass behind the utilization monitor. -/
def afterSampling (c : CycleIn cfg) : HsM cfg Status := do
  checkApplications c.apps
  outputAliveness
  passEnd c

/-- Behind the utilization monitor only the sign of life is seen. -/
theorem afterSampling_dials {c : CycleIn cfg} {status : Status}
    (hval : (afterSampling c s).val = .ok status) :
    (afterSampling c s).state.dials =
        ⟨nextAlivenessCounter s, s.utilizationCycleCounter, s.sysMonPspModuleId⟩ ∧
      (afterSampling c s).log.filter Label.ofDials = if Due s then [.call .printf] else [] := by
  have hcheck : Aloof true false (checkApplications c.apps) := checkApplications_aloof _
  obtain ⟨-, t, hview, -, hstate, hlog⟩ := hcheck.skip hval
  obtain ⟨hdials, hswitch⟩ := dials_of_view hview
  have hcounter : t.alivenessCounter = s.alivenessCounter :=
    congrArg Dials.alivenessCounter hdials
  have hdue : Due t ↔ Due s := due_congr hswitch hcounter
  have hnext : nextAlivenessCounter t = nextAlivenessCounter s :=
    nextAlivenessCounter_congr hswitch hcounter
  have hunseen := (passEnd_aloof c).unseen { t with alivenessCounter := nextAlivenessCounter t }
  have hkept := (passEnd_aloof c).dials { t with alivenessCounter := nextAlivenessCounter t }
  rw [dialLook_seen] at hlog hunseen
  unfold afterSampling
  rw [hstate, hlog, Prog.bind_ok (outputAliveness_apply t)]
  refine ⟨hkept.trans ?_, ?_⟩
  · have hcycle : t.utilizationCycleCounter = s.utilizationCycleCounter :=
      congrArg Dials.utilizationCycleCounter hdials
    have hid : t.sysMonPspModuleId = s.sysMonPspModuleId :=
      congrArg Dials.sysMonPspModuleId hdials
    rw [AppData.dials, hnext, hcycle, hid]
  · rw [List.filter_append, hunseen, List.append_nil, if_congr hdue rfl rfl]
    split <;> rfl

/-- From the utilization monitor on, a sample and a sign of life are seen. -/
theorem sampling_dials {c : CycleIn cfg} {status : Status}
    (hval : ((checkUtilization c.utilization >>= fun _ => afterSampling c) s).val = .ok status) :
    ((checkUtilization c.utilization >>= fun _ => afterSampling c) s).state.dials =
        ⟨nextAlivenessCounter s, nextCycleCounter s, s.sysMonPspModuleId⟩ ∧
      ((checkUtilization c.utilization >>= fun _ => afterSampling c) s).log.filter
          Label.ofDials = sampleLog s ++ if Due s then [.call .printf] else [] := by
  rcases hrun : checkUtilization c.utilization s with ⟨e | u, t, l⟩
  · rw [Prog.bind_error hrun] at hval
    cases hval
  obtain ⟨hview, hlog⟩ : _ ∧ l.filter Label.ofDials = sampleLog s := by
    have hutil := checkUtilization_dials (s := s) (r := c.utilization) (a := u) (by rw [hrun])
    rwa [hrun] at hutil
  obtain ⟨hdials, hswitch⟩ := dials_of_view hview
  have halive : t.alivenessCounter = s.alivenessCounter := congrArg Dials.alivenessCounter hdials
  have hcycle : t.utilizationCycleCounter = nextCycleCounter s :=
    congrArg Dials.utilizationCycleCounter hdials
  have hid : t.sysMonPspModuleId = s.sysMonPspModuleId :=
    congrArg Dials.sysMonPspModuleId hdials
  rw [Prog.bind_ok hrun] at hval ⊢
  obtain ⟨hrest, hlogRest⟩ := afterSampling_dials hval
  refine ⟨hrest.trans ?_, ?_⟩
  · rw [nextAlivenessCounter_congr hswitch halive, hcycle, hid]
  · rw [List.filter_append, hlog, hlogRest, if_congr (due_congr hswitch halive) rfl rfl]

/-- **What is seen of a completed pass**: the sample and the sign of life that are due. -/
theorem processMain_dials {c : CycleIn cfg} {status : Status}
    (hval : (processMain c s).val = .ok status) :
    (processMain c s).state.dials =
        ⟨nextAlivenessCounter s, nextCycleCounter s, s.sysMonPspModuleId⟩ ∧
      (processMain c s).log.filter Label.ofDials =
        sampleLog s ++ if Due s then [.call .printf] else [] := by
  have heq : processMain c = acquirePointers c.acquire >>= fun _ =>
    decrementCooldowns >>= fun _ => checkUtilization c.utilization >>= fun _ =>
      afterSampling c := rfl
  rw [heq] at hval ⊢
  have hacquire : Aloof true false (acquirePointers c.acquire) := acquirePointers_aloof _
  have hcool : Aloof true false (@decrementCooldowns cfg) := decrementCooldowns_aloof
  obtain ⟨-, s₁, hview₁, hval₁, hstate₁, hlog₁⟩ := hacquire.skip hval
  rw [hval₁] at hval
  obtain ⟨-, s₂, hview₂, hval₂, hstate₂, hlog₂⟩ := hcool.skip hval
  rw [hval₂] at hval
  obtain ⟨hdials, hswitch⟩ := dials_of_view (hview₂.trans hview₁)
  have halive : s₂.alivenessCounter = s.alivenessCounter := congrArg Dials.alivenessCounter hdials
  have hcycle : s₂.utilizationCycleCounter = s.utilizationCycleCounter :=
    congrArg Dials.utilizationCycleCounter hdials
  have hid : s₂.sysMonPspModuleId = s.sysMonPspModuleId :=
    congrArg Dials.sysMonPspModuleId hdials
  obtain ⟨hrest, hlogRest⟩ := sampling_dials hval
  rw [dialLook_seen] at hlog₁ hlog₂
  rw [hstate₁, hlog₁, hstate₂, hlog₂, hlogRest]
  refine ⟨hrest.trans ?_, ?_⟩
  · rw [nextAlivenessCounter_congr hswitch halive, nextCycleCounter, hcycle, hid,
      nextCycleCounter]
  · rw [sampleLog, hcycle, hid, sampleLog, if_congr (due_congr hswitch halive) rfl rfl]

/-! ### Runs -/

theorem Booted.counters (h : Booted l s) :
    s.alivenessCounter = 0 ∧ s.utilizationCycleCounter = 0 := by
  have hview : (startLook cfg).view s = (0, 0) := by
    induction h with
    | appInit i s =>
      rw [appInit_eq]
      exact (initRest_aloof i).view (initialData cfg)
    | startup j _ ih => exact ((startup_aloof j).forgetDevice.view _).trans ih
  exact ⟨congrArg Prod.fst hview, congrArg Prod.snd hview⟩

/-- The counters tell how far the current periods have gone. -/
structure InPeriod (passes alive : Nat) (l : List (Label cfg)) (s : AppData cfg) : Prop where
  alive_eq : outputs l * cfg.cpuAlivePeriod + s.alivenessCounter.toNat = alive
  alive_lt : s.alivenessCounter.toNat < cfg.cpuAlivePeriod
  sampled_eq : s.sysMonPspModuleId ≠ 0 →
    samples l * utilizationPeriod cfg = passes + s.utilizationCycleCounter.toNat
  unsampled : s.sysMonPspModuleId = 0 → samples l = 0
  cycle_lt : s.utilizationCycleCounter.toNat < utilizationPeriod cfg

theorem InPeriod.start (h : Booted l s) : InPeriod 0 0 [] s := by
  obtain ⟨halive, hcycle⟩ := h.counters
  have hpos := cfg.verified.alivePeriod_pos
  refine ⟨?_, ?_, fun _ => ?_, fun _ => rfl, ?_⟩
  · rw [halive]
    exact Nat.zero_mul _
  · rw [halive]
    exact hpos
  · rw [hcycle]
    exact Nat.zero_mul _
  · rw [hcycle]
    exact Nat.succ_pos _

/-- A pass with a sign of life ends a period, and one without goes on with it. -/
theorem aliveness_step (hlt : s.alivenessCounter.toNat < cfg.cpuAlivePeriod) :
    (if Due s then 1 else 0) * cfg.cpuAlivePeriod + (nextAlivenessCounter s).toNat =
        s.alivenessCounter.toNat + (if s.currentAlivenessState = .enabled then 1 else 0) ∧
      (nextAlivenessCounter s).toNat < cfg.cpuAlivePeriod := by
  have hpos := cfg.verified.alivePeriod_pos
  have hle := cfg.verified.alivePeriod_le
  have hadd : (s.alivenessCounter + 1).toNat = s.alivenessCounter.toNat + 1 := by
    rw [UInt32.toNat_add, UInt32.toNat_one, Nat.mod_eq_of_lt (by omega)]
  unfold nextAlivenessCounter
  by_cases hdue : Due s
  · have hge := hdue.2
    rw [hadd] at hge
    rw [if_pos hdue, if_pos hdue, if_pos hdue.1, UInt32.toNat_zero]
    omega
  rw [if_neg hdue, if_neg hdue]
  by_cases hon : s.currentAlivenessState = .enabled
  · have hnot : ¬ cfg.cpuAlivePeriod ≤ (s.alivenessCounter + 1).toNat := fun h => hdue ⟨hon, h⟩
    rw [hadd] at hnot
    rw [if_pos hon, if_pos hon, hadd]
    omega
  · rw [if_neg hon, if_neg hon]
    omega

/-- A pass with a sample starts a period, and one without goes on with it. -/
theorem sampling_step (hlt : s.utilizationCycleCounter.toNat < utilizationPeriod cfg) :
    (if s.utilizationCycleCounter = 0 then 1 else 0) * utilizationPeriod cfg +
        s.utilizationCycleCounter.toNat = (nextCycleCounter s).toNat + 1 ∧
      (nextCycleCounter s).toNat < utilizationPeriod cfg := by
  unfold nextCycleCounter
  by_cases h : s.utilizationCycleCounter = 0
  · rw [if_pos h, if_pos h, h, UInt32.toNat_zero, utilizationPeriod]
    omega
  · have hpos : s.utilizationCycleCounter.toNat ≠ 0 := fun h0 => h (UInt32.toNat_inj.mp h0)
    have hsub : (s.utilizationCycleCounter - 1).toNat = s.utilizationCycleCounter.toNat - 1 := by
      refine UInt32.toNat_sub_of_le _ _ (UInt32.le_iff_toNat_le.mpr ?_)
      rw [UInt32.toNat_one]
      omega
    rw [if_neg h, if_neg h, hsub]
    omega

theorem outputs_append (l l' : List (Label cfg)) : outputs (l ++ l') = outputs l + outputs l' :=
  List.countP_append

theorem samples_append (l l' : List (Label cfg)) : samples (l ++ l') = samples l + samples l' :=
  List.countP_append

/-- Every pass keeps the counters in step. -/
theorem InPeriod.pass (h : InPeriod passes alive l s) {c : CycleIn cfg} {status : Status}
    (hval : (processMain c s).val = .ok status) :
    InPeriod (passes + 1) (if s.currentAlivenessState = .enabled then alive + 1 else alive)
      (l ++ (processMain c s).log) (processMain c s).state := by
  obtain ⟨hdials, hlog⟩ := processMain_dials hval
  have halive : (processMain c s).state.alivenessCounter = nextAlivenessCounter s :=
    congrArg Dials.alivenessCounter hdials
  have hcycle : (processMain c s).state.utilizationCycleCounter = nextCycleCounter s :=
    congrArg Dials.utilizationCycleCounter hdials
  have hid : (processMain c s).state.sysMonPspModuleId = s.sysMonPspModuleId :=
    congrArg Dials.sysMonPspModuleId hdials
  have houtputs : outputs (processMain c s).log = if Due s then 1 else 0 := by
    rw [← outputs_seen, hlog, outputs_append, sampleLog]
    split <;> split <;> rfl
  have hsamples : samples (processMain c s).log =
      if s.utilizationCycleCounter = 0 ∧ s.sysMonPspModuleId ≠ 0 then 1 else 0 := by
    rw [← samples_seen, hlog, samples_append, sampleLog]
    split <;> split <;> rfl
  obtain ⟨haliveStep, haliveLt⟩ := aliveness_step h.alive_lt
  obtain ⟨hcycleStep, hcycleLt⟩ := sampling_step h.cycle_lt
  have haliveEq := h.alive_eq
  refine ⟨?_, by rwa [halive], fun hne => ?_, fun heq => ?_, by rwa [hcycle]⟩
  · rw [outputs_append, houtputs, halive, Nat.add_mul]
    by_cases hon : s.currentAlivenessState = .enabled
    · rw [if_pos hon] at haliveStep ⊢
      omega
    · rw [if_neg hon] at haliveStep ⊢
      omega
  · rw [hid] at hne
    have hsampledEq := h.sampled_eq hne
    rw [samples_append, hsamples, hcycle, Nat.add_mul,
      if_congr (and_iff_left hne) rfl rfl]
    omega
  · rw [hid] at heq
    rw [samples_append, hsamples, h.unsampled heq, if_neg fun hs => hs.2 heq]

theorem Timed.inPeriod (h : Timed passes alive l s) : InPeriod passes alive l s := by
  induction h with
  | start h => exact .start h
  | pass h c hval ih => exact ih.pass hval

/-- **Both periods are kept exactly.**  However many passes HS has made since it was
initialized, and whatever happened in them, it has put out one sign of life for every
`HS_CPU_ALIVE_PERIOD` passes that found the aliveness output on, and has sampled the
utilization in the first pass and then once in every
`HS_CPU_UTILIZATION_CYCLES_PER_INTERVAL` passes, if there is a device. -/
theorem periods_kept (h : Timed passes alive l s) :
    outputs l = alive / cfg.cpuAlivePeriod ∧
      samples l = if s.sysMonPspModuleId = 0 then 0
        else (passes + (utilizationPeriod cfg - 1)) / utilizationPeriod cfg := by
  obtain ⟨halive, halive_lt, hsampled, hnone, hcycle_lt⟩ := h.inPeriod
  refine ⟨?_, ?_⟩
  · refine (Nat.div_eq_of_lt_le ?_ ?_).symm
    · omega
    · rw [Nat.succ_mul]
      omega
  · split
    · exact hnone ‹_›
    · have heq := hsampled ‹_›
      refine (Nat.div_eq_of_lt_le ?_ ?_).symm
      · omega
      · rw [Nat.succ_mul]
        omega

/-- The small configuration with a sign of life and a sample in every second pass. -/
def Config.shortPeriods : Config where
  toParams := { Config.small.toParams with
    cpuAlivePeriod := 2
    cpuUtilizationCyclesPerInterval := 2 }
  verified := by constructor <;> decide

/-- Tables without an entry in use. -/
def noEntries : AcquireIn .shortPeriods :=
  .ok (fun _ => ⟨[], 0, 0, 0⟩) (fun _ => ⟨[], 0, 0, 0⟩) (fun _ => ⟨0, 0, ⟨0, 0⟩⟩)
    (fun _ => ⟨[], 0, 0⟩)

/-- The answers to `HS_AppInit` where a device is found. -/
def deviceIn : InitIn .shortPeriods :=
  { InitIn.ok noEntries with sysMon := ⟨true, 1, true, 0, 0, failed⟩ }

/-- A pass with these messages on the command pipe. -/
def quietPass (cmds : List (Option CmdMsg × CmdReplies .shortPeriods)) :
    CycleIn .shortPeriods where
  acquire := noEntries
  utilization := ⟨success, 0, true⟩
  apps := fun _ => ⟨⟨success, 0, true⟩, ⟨success, 0, true⟩, success, true⟩
  events := []
  eventsEnd := failed
  cmds := cmds
  cmdsEnd := failed

/-- A command that switches the aliveness output off. -/
def alivenessOff : CmdMsg := ⟨0x18AE, 7, 8, 0⟩

/-- Three passes through a whole period.  The second one gives the sign of life and then
switches it off; the first and the third one sample the utilization. -/
theorem periods_kept_onePeriod :
    let s₀ := (appInit deviceIn (initialData .shortPeriods)).state
    let o₁ := processMain (quietPass []) s₀
    let o₂ := processMain (quietPass [(some alivenessOff, .ok _)]) o₁.state
    let o₃ := processMain (quietPass []) o₂.state
    o₂.state.currentAlivenessState = .disabled ∧
      outputs (o₁.log ++ o₂.log ++ o₃.log) = 1 ∧ samples (o₁.log ++ o₂.log ++ o₃.log) = 2 := by
  intro s₀ o₁ o₂ o₃
  have hstart : Timed 0 0 [] s₀ := .start (.appInit deviceIn (initialData .shortPeriods))
  have h₁ : o₁.val = .ok success := by decide +kernel
  have h₂ : o₂.val = .ok success := by decide +kernel
  have h₃ : o₃.val = .ok success := by decide +kernel
  have hon₀ : s₀.currentAlivenessState = .enabled := by decide +kernel
  have hon₁ : o₁.state.currentAlivenessState = .enabled := by decide +kernel
  have hoff : o₂.state.currentAlivenessState = .disabled := by decide +kernel
  have hdevice : o₃.state.sysMonPspModuleId ≠ 0 := by decide +kernel
  have hrun : Timed 3 2 ([] ++ o₁.log ++ o₂.log ++ o₃.log) o₃.state :=
    ((hstart.pass_on (quietPass []) h₁ hon₀).pass_on (quietPass [(some alivenessOff, .ok _)])
      h₂ hon₁).pass_off (quietPass []) h₃ (by rw [hoff]; decide)
  clear_value o₁ o₂ o₃
  obtain ⟨houtputs, hsamples⟩ := periods_kept hrun
  rw [if_neg hdevice] at hsamples
  exact ⟨hoff, houtputs, hsamples⟩

end HealthSafety
