import HealthSafety.System.Resets

/-!
# The watchdog

Both monitors clear the flag `ServiceWatchdogFlag` before they call
`CFE_ES_ResetCFE`, so that the watchdog resets the processor if the call returns.
Only `HS_AppInit` sets the flag again, and `HS_ProcessMain` services the watchdog at
its end, if the flag is set.

So a pass of the main loop services the watchdog once as long as no such call has been
made since `HS_AppInit`, and never again afterwards (`watchdog_serviced_iff`).
-/

namespace HealthSafety

open Lib

variable {cfg : Config} {s t : AppData cfg} {l : List (Label cfg)}

def Label.isService : Label cfg → Bool
  | .call .watchdogService => true
  | _ => false

/-- The number of times the watchdog is serviced. -/
def services (l : List (Label cfg)) : Nat := l.countP Label.isService

theorem services_append (l l' : List (Label cfg)) :
    services (l ++ l') = services l + services l' := List.countP_append

/-! ### The flag -/

def FlagSet (s : AppData cfg) : Prop := s.serviceWatchdogFlag = .enabled

instance (s : AppData cfg) : Decidable (FlagSet s) := inferInstanceAs (Decidable (_ = _))

/-- The flag stays set until `CFE_ES_ResetCFE` is called. -/
theorem Act.flag {k : Kind} (hboot : k ≠ .boot) (h : Act k s l t) :
    Latch FlagSet Label.isReset s l t := by
  by_cases hk : k = .reset
  · subst hk
    cases h with
    | reset h =>
      have hone : (resetLog s).countP Label.isReset = 1 := resets_resetLog s
      unfold Latch
      rw [hone]
      simp [FlagSet, AppData.countReset]
  · have hflag : t.serviceWatchdogFlag = s.serviceWatchdogFlag := by
      cases h with
      | aside h => exact h.serviceWatchdogFlag
      | reset => exact absurd rfl hk
      | boot => exact absurd rfl hboot
      | _ => rfl
    have hnone : l.countP Label.isReset = 0 :=
      List.countP_eq_zero.mpr fun x hx => by simp [isReset_eq hk (h.mem_kinds hx)]
    unfold Latch FlagSet
    rw [hflag, hnone]
    simp

/-- Apart from `HS_AppInit`, a program that ends with the flag set started with it and has
made no call to `CFE_ES_ResetCFE`. -/
theorem Does.flag {α : Type} {ks : List Kind} {m : HsM cfg α} (h : Does ks m s)
    (hks : ∀ k ∈ ks, k ≠ .boot) :
    FlagSet (m s).state ↔ FlagSet s ∧ resets (m s).log = 0 :=
  h.law (Latch.law _ _) fun k hk _ _ _ ha => ha.flag (hks k hk)

/-! ### A pass of the main loop -/

/-- The pass up to the watchdog. -/
def passWork (c : CycleIn cfg) : HsM cfg Status := do
  acquirePointers c.acquire
  decrementCooldowns
  checkUtilization c.utilization
  checkApplications c.apps
  outputAliveness
  processCommands c

theorem processMain_eq (c : CycleIn cfg) :
    processMain c = passWork c >>= fun status => serviceWatchdog >>= fun _ => pure status := by
  simp only [processMain, passWork, Prog.bind_assoc']

/-- The kinds of acts of a pass up to the watchdog. -/
def workKinds : List Kind :=
  .tick :: .util :: (acquireKinds ++ appMonKinds ++ eventKinds ++ anyCmdKinds)

theorem passWork_does (c : CycleIn cfg) (s : AppData cfg) : Does workKinds (passWork c) s := by
  refine Does.bind ((acquirePointers_does _ s).mono (by decide)) fun _ s => ?_
  refine Does.bind ((decrementCooldowns_does s).mono (by decide)) fun _ s => ?_
  refine Does.bind ((checkUtilization_does _ s).mono (by decide)) fun _ s => ?_
  refine Does.bind ((checkApplications_does _ s).mono (by decide)) fun _ s => ?_
  refine Does.bind ((outputAliveness_does s).mono (by decide)) fun _ s => ?_
  exact (processCommands_does c s).mono (by decide)

/-- Nothing but the end of a pass services the watchdog. -/
theorem passWork_services (c : CycleIn cfg) (s : AppData cfg) :
    services (passWork c s).log = 0 := by
  refine List.countP_eq_zero.mpr fun x hx => ?_
  obtain ⟨k, hk, hkx⟩ := (passWork_does c s).kind_of_mem hx
  have hne : ∀ k ∈ workKinds, k ≠ .watchdog := by decide
  unfold Label.isService
  split
  · exact absurd (List.mem_singleton.mp hkx) (hne k hk)
  · decide

theorem serviceWatchdog_apply (s : AppData cfg) :
    serviceWatchdog s = ⟨.ok (), s,
      if FlagSet s then [.call .watchdogService] else []⟩ := by
  by_cases h : s.serviceWatchdogFlag = .enabled <;> simp [serviceWatchdog, FlagSet, h]

/-- A completed pass services the watchdog once if the flag was set before it and
`CFE_ES_ResetCFE` is not called in it, else not at all. -/
theorem processMain_services {c : CycleIn cfg} {status : Status}
    (h : (processMain c s).val = .ok status) :
    services (processMain c s).log =
      if FlagSet s ∧ resets (processMain c s).log = 0 then 1 else 0 := by
  rw [processMain_eq] at h ⊢
  rcases hrun : passWork c s with ⟨e | st, t, l⟩
  · rw [Prog.bind_error hrun] at h
    cases h
  · have hflag : FlagSet t ↔ FlagSet s ∧ resets l = 0 := by
      simpa only [hrun] using (passWork_does c s).flag (by decide)
    have hnone : services l = 0 := by simpa only [hrun] using passWork_services c s
    rw [Prog.bind_ok hrun, Prog.bind_ok (serviceWatchdog_apply t), Prog.pure_apply]
    simp only [List.append_nil, services_append, resets_append, hnone, Nat.zero_add]
    by_cases ht : FlagSet t
    · have hs := hflag.mp ht
      rw [if_pos ht, if_pos ⟨hs.1, by rw [hs.2]; rfl⟩]
      rfl
    · rw [if_neg ht, if_neg fun hs => ht (hflag.mpr ⟨hs.1, Nat.eq_zero_of_add_eq_zero_right hs.2⟩)]
      rfl

/-! ### Runs -/

/-- HS after `HS_AppInit`, whatever it returned, and possibly the startup; with the log
since then. -/
inductive Booted : List (Label cfg) → AppData cfg → Prop
  | appInit (i : InitIn cfg) (s : AppData cfg) : Booted (appInit i s).log (appInit i s).state
  | startup {l : List (Label cfg)} {s : AppData cfg} (j : StartIn) (h : Booted l s) :
      Booted (l ++ (startup j s).log) (startup j s).state

/-- Completed passes of the main loop, with the log of each. -/
inductive Passes : AppData cfg → List (List (Label cfg)) → AppData cfg → Prop
  | nil (s : AppData cfg) : Passes s [] s
  | cons {s t : AppData cfg} {ls : List (List (Label cfg))} (c : CycleIn cfg) {status : Status}
      (hval : (processMain c s).val = .ok status) (rest : Passes (processMain c s).state ls t) :
      Passes s ((processMain c s).log :: ls) t

/-- `HS_AppInit` sets the flag, and nothing in it takes it back. -/
theorem appInit_flag (i : InitIn cfg) (s : AppData cfg) :
    FlagSet (appInit i s).state ∧ resets (appInit i s).log = 0 := by
  have hrest := initRest_does i (initialData cfg)
  have hnone : resets (initRest i (initialData cfg)).log = 0 :=
    resets_eq_zero_of_kinds (by decide) fun x hx => hrest.kind_of_mem hx
  rw [appInit_eq]
  exact ⟨(hrest.flag (by decide)).mpr ⟨rfl, hnone⟩, hnone⟩

/-- The flag is set as long as `CFE_ES_ResetCFE` has not been called since `HS_AppInit`. -/
theorem Booted.flag (h : Booted l s) : FlagSet s ↔ resets l = 0 := by
  induction h with
  | appInit i s => exact iff_of_true (appInit_flag i s).1 (appInit_flag i s).2
  | startup j _ ih =>
    rw [(startup_does j _).flag (by decide), ih, resets_append, Nat.add_eq_zero_iff]

/-- The flag and the calls to `CFE_ES_ResetCFE` decide what the passes do. -/
theorem Passes.services {ls : List (List (Label cfg))} (h : Passes s ls t)
    {before after : List (List (Label cfg))} (hls : ls = before ++ l :: after) :
    ∀ l₀, (FlagSet s ↔ resets l₀ = 0) →
      services l = if resets (l₀ ++ before.flatten ++ l) = 0 then 1 else 0 := by
  induction h generalizing before with
  | nil => simp at hls
  | @cons s t ls c status hval _ ih =>
    intro l₀ hs
    cases before with
    | nil =>
      obtain ⟨rfl, -⟩ := List.cons.inj hls
      rw [processMain_services hval]
      simp only [hs, List.flatten_nil, List.append_nil, resets_append, Nat.add_eq_zero_iff]
    | cons l₁ before =>
      obtain ⟨rfl, hls'⟩ := List.cons.inj hls
      have hflag := (processMain_does c s).flag (by decide)
      have hnext : FlagSet (processMain c s).state ↔ resets (l₀ ++ (processMain c s).log) = 0 := by
        rw [hflag, hs, resets_append, Nat.add_eq_zero_iff]
      have htail := ih hls' (l₀ ++ (processMain c s).log) hnext
      rw [htail, List.flatten_cons, ← List.append_assoc]

/-- **After `HS_AppInit`, a completed pass of the main loop services the watchdog exactly
once if `CFE_ES_ResetCFE` has not been called since, in this pass or before, and not at all
otherwise.** -/
theorem watchdog_serviced_iff {l₀ : List (Label cfg)} {ls : List (List (Label cfg))}
    (h₀ : Booted l₀ s) (h : Passes s ls t) {before after : List (List (Label cfg))}
    (hls : ls = before ++ l :: after) :
    services l = if resets (l₀ ++ before.flatten ++ l) = 0 then 1 else 0 :=
  h.services hls l₀ h₀.flag

/-- A pass with an event that resets the processor, and a call to `CFE_ES_ResetCFE` that
returns. -/
def resetCycle : CycleIn .small where
  acquire := resetOnEvent
  utilization := ⟨success, 0, true⟩
  apps := fun _ => ⟨⟨success, 0, true⟩, ⟨success, 0, true⟩, success, true⟩
  events := [(some ⟨[65], 7⟩, fun _ => ⟨⟨success, 0, true⟩, success, success, true⟩)]
  eventsEnd := failed
  cmds := []
  cmdsEnd := failed

theorem watchdog_serviced_iff_reset :
    let s := (appInit (.ok resetOnEvent) (initialData .small)).state
    services (processMain resetCycle s).log = 0 ∧ resets (processMain resetCycle s).log = 1 := by
  intro s
  have hval : (processMain resetCycle s).val = .ok success := rfl
  have hserved := watchdog_serviced_iff (.appInit (.ok resetOnEvent) (initialData .small))
    (.cons resetCycle hval (.nil _)) (@List.nil_append _ [(processMain resetCycle s).log]).symm
  exact ⟨hserved, rfl⟩

end HealthSafety
