import HealthSafety.Lib.Stops
import HealthSafety.System.Commands
import HealthSafety.System.UtilBounds
import HealthSafety.System.Watchdog
import HealthSafety.Tables.CommandReads

/-!
# Passes run to their end

HS can stop in the middle of its work for three reasons: `CFE_ES_ResetCFE` does not return,
a row is read through a missing table address, or `UtilizationTracker` is indexed out of
bounds.  `StopsBehind` names the label behind which it stops for the first two; one lemma
for each function says that there is no other way, except in the utilization monitor, whose
index stays in range in every state HS reaches (`Booted.indexed`, `Passes.indexed`).

So a pass of the main loop is completed, or it ends with a processor reset, or it ends in
one of two commands that read a table without a look at its flag (`pass_ends`); and if the
tables of the two monitors are there, only the first two can happen (`pass_completes`).
-/

namespace HealthSafety

open Lib

variable {cfg : Config} {s t : AppData cfg}

/-- The label behind which HS stops. -/
inductive StopsBehind : Stop → Label cfg → Prop
  | reset : StopsBehind .reboot (.call (.resetCFE .disabled))
  | missing (tbl : TableId) (reader : Reader) :
      StopsBehind (.nullRead tbl reader) (.mark (.nullRead tbl reader))

abbrev Tells {α : Type} (m : HsM cfg α) (s : AppData cfg) : Prop := TellsWhy StopsBehind m s

/-! ### Table rows and the two shared actions -/

theorem procReset_tells (returns : Bool) (s : AppData cfg) : Tells (procReset returns) s := by
  by_cases h : s.cdsData.resetsPerformed < s.cdsData.maxResets
  · intro e he
    rw [procReset_of_lt h] at he ⊢
    cases returns with
    | true => cases he
    | false =>
      cases he
      refine ⟨copyLog s (.of (s.cdsData.resetsPerformed + 1) s.cdsData.maxResets) ++
        [.call .taskDelay, .call .writeToSysLog], _, ?_, .reset⟩
      rw [resetLog, List.append_assoc]
      rfl
  · exact .of_ok (by rw [procReset_of_not_lt h])

theorem deref_tells {α : Type} (tbl : TableId) (reader : Reader) (p : Option α) (s : AppData cfg) :
    Tells (deref tbl reader p) s := by
  cases p with
  | none => exact .emit_stop (.missing tbl reader) s
  | some a => exact .pure a s

theorem readAmt_tells (reader : Reader) (i : Fin cfg.maxMonitoredApps) (s : AppData cfg) :
    Tells (readAmt reader i) s :=
  .get_bind (.bind (deref_tells _ _ _ s) fun _ _ => .bind (.emit _ _) fun _ _ => .pure _ _)

theorem readEmt_tells (reader : Reader) (i : Fin cfg.maxMonitoredEvents) (s : AppData cfg) :
    Tells (readEmt reader i) s :=
  .get_bind (.bind (deref_tells _ _ _ s) fun _ _ => .bind (.emit _ _) fun _ _ => .pure _ _)

theorem readXct_tells (reader : Reader) (i : Fin cfg.maxExecCntSlots) (s : AppData cfg) :
    Tells (readXct reader i) s :=
  .get_bind (.bind (deref_tells _ _ _ s) fun _ _ => .bind (.emit _ _) fun _ _ => .pure _ _)

theorem msgAction_tells (reader : Reader) (eid : EventId) (args : List EvtArg) (n : UInt32)
    (s : AppData cfg) : Tells (msgAction reader eid args n) s := by
  obtain hn | ⟨idx, hn, h | ⟨hs, hc, hm | ⟨mat, hm⟩⟩⟩ := msgAction_cases s n
  · exact .of_ok (by rw [msgAction_invalid hn])
  · exact .of_ok (by rw [msgAction_off h hn])
  · intro e he
    rw [msgAction_null hs hc hm hn] at he ⊢
    cases he
    exact ⟨[], _, rfl, .missing _ _⟩
  · by_cases he : (mat idx).enableState = matStateDisabled
    · exact .of_ok (by rw [msgAction_rowOff hs hc hm he hn])
    · exact .of_ok (by rw [msgAction_sent hs hc hm he hn])

/-! ### The monitors -/

theorem resolveApp_tells (i : Fin cfg.maxMonitoredApps) (row : AMTEntry) (lk : AppLookup)
    (v : AppMonVars) (s : AppData cfg) : Tells (resolveApp i row lk v) s := by
  refine .bind (.emit _ s) fun _ _ => .ite (fun _ => ?_) (fun _ => ?_)
  · exact .bind (.emit _ _) fun _ _ => .pure _ _
  · refine .bind (.get_bind ?_) fun _ _ => .pure _ _
    exact .ite (fun _ => .emit _ _) (fun _ => .emit _ _)

theorem appMonAction_tells (i : Fin cfg.maxMonitoredApps) (row : AMTEntry) (lk : AppLookup)
    (status : Status) (appId : UInt32) (s : AppData cfg) :
    Tells (appMonAction i row lk status appId) s := by
  refine .bind (.emit _ s) fun _ _ => .ite (fun _ => ?_) fun _ => .ite (fun _ => ?_) fun _ =>
    .ite (fun _ => .emit _ _) (fun _ => msgAction_tells _ _ _ _ _)
  · exact .bind (.emit _ _) fun _ _ => procReset_tells _ _
  · refine .bind (.emit _ _) fun _ _ => .ite (fun _ => ?_) (fun _ => .emit _ _)
    exact .bind (.emit _ _) fun _ _ => .ite (fun _ => .emit _ _) (fun _ => .pure _ _)

theorem countdownApp_tells (i : Fin cfg.maxMonitoredApps) (row : AMTEntry) (lk : AppLookup)
    (status : Status) (v : AppMonVars) (s : AppData cfg) :
    Tells (countdownApp i row lk status v) s := by
  refine .get_bind (.ite (fun _ => .modify _ _) (fun _ => .bind (.modify _ _) fun _ _ => ?_))
  exact .get_bind (.when fun _ => .bind (.modify _ _) fun _ _ => appMonAction_tells _ _ _ _ _ _)

theorem monitorApp_tells (lks : Fin cfg.maxMonitoredApps → AppLookup) (v : AppMonVars)
    (i : Fin cfg.maxMonitoredApps) (s : AppData cfg) : Tells (monitorApp lks v i) s := by
  refine .bind (readAmt_tells _ _ s) fun _ _ => .get_bind (.ite (fun _ => ?_) (fun _ => .pure _ _))
  refine .bind (resolveApp_tells _ _ _ _ _) fun _ _ => ?_
  exact .bind (countdownApp_tells _ _ _ _ _ _) fun _ _ => .pure _ _

theorem checkApplications_tells (lks : Fin cfg.maxMonitoredApps → AppLookup) (s : AppData cfg) :
    Tells (checkApplications lks) s := by
  refine .get_bind (.when fun _ => ?_)
  exact .bind (.fold _ (monitorApp_tells lks) _ s) fun _ _ => .pure _ _

theorem appCommand_tells (row : EMTEntry) (lk : EvtLookup) (appId : UInt32)
    (okEid errEid : EventId) (cmd : UInt32 → Call cfg) (cmdStatus : Status) (s : AppData cfg) :
    Tells (appCommand row lk appId okEid errEid cmd cmdStatus) s := by
  refine .bind (.emit _ s) fun _ _ => .bind (.ite (fun _ => ?_) (fun _ => .emit _ _)) fun _ _ =>
    .pure _ _
  refine .bind (.emit _ _) fun _ _ => .bind (.emit _ _) fun _ _ => ?_
  exact .ite (fun _ => .emit _ _) (fun _ => .pure _ _)

theorem eventAction_tells (i : Fin cfg.maxMonitoredEvents) (row : EMTEntry) (lk : EvtLookup)
    (appId : UInt32) (s : AppData cfg) : Tells (eventAction i row lk appId) s := by
  refine .bind (.emit _ s) fun _ _ => .ite (fun _ => ?_) fun _ =>
    .ite (fun _ => appCommand_tells _ _ _ _ _ _ _ _) fun _ =>
    .ite (fun _ => appCommand_tells _ _ _ _ _ _ _ _) (fun _ => ?_)
  · refine .bind (.emit _ _) fun _ _ => ?_
    exact .bind (procReset_tells _ _) fun _ _ => .pure _ _
  · exact .bind (msgAction_tells _ _ _ _ _) fun _ _ => .pure _ _

theorem monitorEventRow_tells (ev : EvtMsg) (lks : Fin cfg.maxMonitoredEvents → EvtLookup)
    (appId : UInt32) (i : Fin cfg.maxMonitoredEvents) (s : AppData cfg) :
    Tells (monitorEventRow ev lks appId i) s :=
  .bind (readEmt_tells _ _ s) fun _ _ =>
    .ite (fun _ => eventAction_tells _ _ _ _ _) (fun _ => .pure _ _)

theorem receiveEvent_tells (ev : EvtMsg) (lks : Fin cfg.maxMonitoredEvents → EvtLookup)
    (s : AppData cfg) : Tells (receiveEvent ev lks) s := by
  refine .bind (.modify _ s) fun _ _ => ?_
  exact .bind (.fold _ (monitorEventRow_tells ev lks) _ _) fun _ _ => .pure _ _

/-- The utilization monitor returns as long as its index is in range. -/
theorem checkUtilization_tells (r : Reply Int) {s : AppData cfg}
    (h : s.currentCPUUtilIndex.toNat < cfg.utilPeakNumInterval) :
    Tells (checkUtilization r) s := by
  refine .get_bind (.bind (.when fun _ => .bind ?_ fun _ _ => .modify _ _) fun _ _ => .modify _ _)
  obtain ⟨sample, -, hrun⟩ := monitorUtilization_sample r s
  obtain ⟨t, l, hsample, -⟩ := monitorSample_apply sample s h
  exact .of_ok (a := ()) (by rw [hrun, hsample])

/-! ### Commands -/

theorem countInvalidEvent_tells (status : Fin cfg.maxMonitoredEvents → Status)
    (i : Fin cfg.maxMonitoredEvents) (s : AppData cfg) : Tells (countInvalidEvent status i) s := by
  refine .bind (readEmt_tells _ _ s) fun _ _ => .ite (fun _ => ?_) (fun _ => .pure _ _)
  exact .bind (.emit _ _) fun _ _ => .ite (fun _ => .modify _ _) (fun _ => .pure _ _)

theorem exeCount_tells (row : XCTEntry) (lk : ExeLookup) (s : AppData cfg) :
    Tells (exeCount row lk) s := by
  refine .ite (fun _ => ?_) fun _ => .ite (fun _ => ?_) fun _ =>
    .ite (fun _ => .pure _ s) (fun _ => .bind (.emit _ _) fun _ _ => .pure _ _)
  · refine .bind (.emit _ _) fun _ _ => .ite (fun _ => ?_) (fun _ => .pure _ _)
    exact .bind (.emit _ _) fun _ _ => .pure _ _
  · refine .bind (.emit _ _) fun _ _ => .ite (fun _ => ?_) (fun _ => .pure _ _)
    exact .bind (.emit _ _) fun _ _ => .pure _ _

theorem reportExeCount_tells (lks : Fin cfg.maxExecCntSlots → ExeLookup)
    (i : Fin cfg.maxExecCntSlots) (s : AppData cfg) : Tells (reportExeCount lks i) s := by
  refine .get_bind (.ite (fun _ => ?_) (fun _ => .modify _ _))
  refine .bind (readXct_tells _ _ s) fun _ _ => ?_
  exact .bind (exeCount_tells _ _ _) fun _ _ => .modify _ _

theorem sendHkCmd_tells (r : HkIn cfg) (s : AppData cfg) : Tells (sendHkCmd r) s := by
  refine .bind (.emit _ s) fun _ _ => .bind (.modify _ _) fun _ _ => ?_
  refine .bind (.each _ (fun _ _ => countInvalidEvent_tells _ _) _) fun _ _ => ?_
  refine .bind (.modify _ _) fun _ _ => ?_
  refine .bind (.each _ (fun _ _ => reportExeCount_tells _ _) _) fun _ _ => ?_
  exact .get_bind (.emit _ _)

theorem appMonStatusRefresh_tells (s : AppData cfg) : Tells appMonStatusRefresh s := by
  refine .bind (.modify _ s) fun _ _ => .each _ (fun _ _ s => .bind (.modify _ s) fun _ _ => ?_) _
  exact .bind (readAmt_tells _ _ _) fun _ _ => .ite (fun _ => .modify _ _) (fun _ => .modify _ _)

theorem setCDSData_tells (a b : UInt16) (s : AppData cfg) : Tells (setCDSData a b) s :=
  .of_ok (by rw [setCDSData_apply])

theorem eventMonCmd_tells (h : Handler) (target : SwitchState) (first second : Status → Call cfg)
    (firstStatus secondStatus : Status) (firstEid secondEid eid : EventId) (s : AppData cfg) :
    Tells (eventMonCmd h target
      (bothCalls first second firstStatus secondStatus firstEid secondEid) eid) s := by
  have hboth (s : AppData cfg) :
      Tells (bothCalls first second firstStatus secondStatus firstEid secondEid) s := by
    refine .bind (.emit _ s) fun _ _ => .ite (fun _ => ?_) (fun _ => ?_)
    · exact .bind (.emit _ _) fun _ _ => .bind (.when fun _ => .emit _ _) fun _ _ => .pure _ _
    · exact .bind (.emit _ _) fun _ _ => .pure _ _
  refine .bind (.emit _ s) fun _ _ => .bind ?_ fun _ _ => ?_
  · exact .get_bind (.ite (fun _ => .pure _ _) (fun _ => hboth _))
  · refine .ite (fun _ => ?_) (fun _ => .modify _ _)
    exact .bind (.modify _ _) fun _ _ => .bind (.modify _ _) fun _ _ => .emit _ _

theorem switchCmd_tells (h : Handler) (set : AppData cfg → AppData cfg) (eid : EventId)
    (s : AppData cfg) : Tells (switchCmd h set eid) s :=
  .bind (.emit _ s) fun _ _ => .bind (.modify _ _) fun _ _ => .bind (.modify _ _) fun _ _ =>
    .emit _ _

theorem handler_tells (msg : CmdMsg) (r : CmdReplies cfg) (h : Handler) (s : AppData cfg) :
    Tells (h.run msg r) s := by
  cases h with
  | sendHk => exact sendHkCmd_tells _ s
  | noop =>
    exact .bind (.emit _ s) fun _ _ => .bind (.modify _ _) fun _ _ => .emit _ _
  | reset => exact .bind (.emit _ s) fun _ _ => .bind (.modify _ _) fun _ _ => .emit _ _
  | enableAppMon =>
    refine .bind (.emit _ s) fun _ _ => .bind (.modify _ _) fun _ _ => ?_
    refine .bind (appMonStatusRefresh_tells _) fun _ _ => ?_
    exact .bind (.modify _ _) fun _ _ => .emit _ _
  | enableEventMon => exact eventMonCmd_tells _ _ _ _ _ _ _ _ _ s
  | disableEventMon => exact eventMonCmd_tells _ _ _ _ _ _ _ _ _ s
  | resetResetsPerformed =>
    refine .bind (.emit _ s) fun _ _ => .bind (.modify _ _) fun _ _ => .get_bind ?_
    exact .bind (setCDSData_tells _ _ _) fun _ _ => .emit _ _
  | setMaxResets =>
    refine .bind (.emit _ s) fun _ _ => .bind (.modify _ _) fun _ _ => .get_bind ?_
    exact .bind (setCDSData_tells _ _ _) fun _ _ => .get_bind (.emit _ _)
  | _ => exact switchCmd_tells _ _ _ s

theorem appPipe_tells (msg : CmdMsg) (r : CmdReplies cfg) (s : AppData cfg) :
    Tells (appPipe msg r) s := by
  cases hacc : accepted cfg msg with
  | some h =>
    rw [appPipe_of_accepted hacc]
    exact handler_tells msg r h s
  | none =>
    obtain ⟨eid, args, hrun⟩ := appPipe_rejects hacc r s
    exact .of_ok (by rw [hrun])

/-! ### The index of the utilization monitor -/

/-- The write index of the utilization monitor is in range. -/
def Indexed (s : AppData cfg) : Prop := s.currentCPUUtilIndex.toNat < cfg.utilPeakNumInterval

theorem Indexed.of_utilization (hs : Indexed s) (h : t.utilization = s.utilization) :
    Indexed t := by
  have hindex : t.currentCPUUtilIndex = s.currentCPUUtilIndex := congrArg UtilView.index h
  unfold Indexed
  rw [hindex]
  exact hs

/-- The index stays in range from `s` to `t`. -/
def KeepsIndexed (s : AppData cfg) (_ : List (Label cfg)) (t : AppData cfg) : Prop :=
  Indexed s → Indexed t

theorem KeepsIndexed.law : Law (@KeepsIndexed cfg) :=
  ⟨fun _ h => h, fun hst htu hs => htu (hst hs)⟩

theorem Does.keepsIndexed {α : Type} {ks : List Kind} {m : HsM cfg α} (h : Does ks m s)
    (hks : ∀ k ∈ ks, k.keepsUtilization = true) : Moves KeepsIndexed m s :=
  fun hs => hs.of_utilization (h.utilization_eq hks)

theorem checkUtilization_keepsIndexed (r : Reply Int) (s : AppData cfg) :
    Moves KeepsIndexed (checkUtilization r) s := by
  refine Moves.get_bind (Moves.bind KeepsIndexed.law (Moves.when KeepsIndexed.law fun _ => ?_)
    fun _ _ hs => hs)
  refine Moves.bind KeepsIndexed.law (fun hs => ?_) fun _ _ hs => hs
  obtain ⟨sample, -, hrun⟩ := monitorUtilization_sample r s
  obtain ⟨t, l, hsample, hview⟩ := monitorSample_apply sample s hs
  have hindex : t.currentCPUUtilIndex = nextUtilIndex s := by
    rcases hview with hview | ⟨v, tracker, -, -, hview⟩ <;> exact congrArg UtilView.index hview
  rw [hrun, hsample]
  unfold Indexed
  rw [hindex, toNat_nextUtilIndex hs]
  exact Ring.succ_lt cfg.verified.peak_pos

theorem processMain_keepsIndexed (c : CycleIn cfg) (s : AppData cfg) :
    Moves KeepsIndexed (processMain c) s := by
  refine Moves.bind KeepsIndexed.law ((acquirePointers_does _ s).keepsIndexed (by decide))
    fun _ _ => Moves.bind KeepsIndexed.law
      ((decrementCooldowns_does _).keepsIndexed (by decide)) fun _ _ => ?_
  refine Moves.bind KeepsIndexed.law (checkUtilization_keepsIndexed _ _) fun _ _ =>
    Moves.bind KeepsIndexed.law ((checkApplications_does _ _).keepsIndexed (by decide))
      fun _ _ => ?_
  refine Moves.bind KeepsIndexed.law ((outputAliveness_does _).keepsIndexed (by decide))
    fun _ _ => Moves.bind KeepsIndexed.law ((processCommands_does c _).keepsIndexed (by decide))
      fun _ _ => ?_
  exact Moves.bind KeepsIndexed.law ((serviceWatchdog_does _).keepsIndexed (by decide))
    fun _ _ => Moves.pure KeepsIndexed.law _ _

theorem Booted.indexed {l : List (Label cfg)} (h : Booted l s) : Indexed s := by
  induction h with
  | appInit i s =>
    have hstart : Indexed (initialData cfg) := cfg.verified.peak_pos
    rw [appInit_eq]
    exact hstart.of_utilization ((initRest_does i _).utilization_eq (by decide))
  | startup j _ ih => exact ih.of_utilization ((startup_does j _).utilization_eq (by decide))

theorem Passes.indexed {ls : List (List (Label cfg))} (h : Passes s ls t) (hs : Indexed s) :
    Indexed t := by
  induction h with
  | nil => exact hs
  | cons c hval rest ih => exact ih (processMain_keepsIndexed c _ hs)

/-! ### A pass -/

/-- `HS_ProcessMain` behind the table acquisition. -/
def passRest (c : CycleIn cfg) : HsM cfg Status := do
  decrementCooldowns
  checkUtilization c.utilization
  checkApplications c.apps
  outputAliveness
  let status ← processCommands c
  serviceWatchdog
  pure status

theorem processMain_apply (c : CycleIn cfg) (s : AppData cfg) : ∃ t l,
    acquirePointers c.acquire s = ⟨.ok (), t, l⟩ ∧ MonitorsLoaded c.acquire t ∧
      processMain c s = ⟨(passRest c t).val, (passRest c t).state, l ++ (passRest c t).log⟩ := by
  obtain ⟨t, l, hrun, -⟩ := acquirePointers_apply c.acquire s
  have hloaded := acquirePointers_monitorsLoaded c.acquire s
  rw [hrun] at hloaded
  exact ⟨t, l, hrun, hloaded, Prog.bind_ok hrun⟩

theorem drainEvents_tells (c : CycleIn cfg) (s : AppData cfg) : Tells (drainEvents c) s := by
  refine .get_bind (.ite (fun _ => ?_) (fun _ => .pure _ s))
  refine .bind (.each _ (fun e _ s => ?_) s) fun _ _ => .pure _ _
  cases e.1 with
  | none => exact .pure () s
  | some ev => exact receiveEvent_tells _ _ s

theorem drainCommands_tells (c : CycleIn cfg) (s : AppData cfg) : Tells (drainCommands c) s := by
  refine .bind (.each _ (fun m _ s => ?_) s) fun _ _ => .pure _ _
  cases m.1 with
  | none => exact .pure () s
  | some msg => exact appPipe_tells _ _ s

theorem processCommands_tells (c : CycleIn cfg) (s : AppData cfg) : Tells (processCommands c) s := by
  refine .bind (drainEvents_tells c s) fun _ _ => .ite (fun _ => ?_) (fun _ => .pure _ _)
  exact .bind (drainCommands_tells c _) fun _ _ => .pure _ _

theorem passRest_tells (c : CycleIn cfg) (hs : Indexed s) : Tells (passRest c) s := by
  have hnext : Indexed (decrementCooldowns s).state :=
    (decrementCooldowns_does s).keepsIndexed (by decide) hs
  refine .bind (.of_ok (a := ()) rfl) fun _ _ => .bind (checkUtilization_tells _ hnext)
    fun _ _ => .bind (checkApplications_tells _ _) fun _ _ => ?_
  refine .bind ?_ fun _ _ => .bind (processCommands_tells c _) fun _ _ => ?_
  · refine .get_bind (.when fun _ => .bind (.modify _ _) fun _ _ => .get_bind (.when fun _ => ?_))
    exact .bind (.emit _ _) fun _ _ => .modify _ _
  · exact .bind (.get_bind (.when fun _ => .emit _ _)) fun _ _ => .pure _ _

/-- A command of the pass reads a table that the pass could not acquire. -/
def Unguarded (c : CycleIn cfg) : Prop :=
  ∃ msg r, (some msg, r) ∈ c.cmds ∧
    (accepted cfg msg = some .sendHk ∧ c.acquire.emt.status < success ∨
      accepted cfg msg = some .enableAppMon ∧ c.acquire.amt.status < success)

/-- A missing table is read by such a command only. -/
def ReadsGuarded (c : CycleIn cfg) (x : Label cfg) : Prop :=
  ∀ tbl reader, x = .mark (.nullRead tbl reader) → Unguarded c

/-- The act reads no row except for a monitor. -/
def Kind.readsAsMonitor : Kind → Bool
  | .read reader _ => reader.isMonitor
  | _ => true

theorem readsGuarded_of_monitor {c : CycleIn cfg} {x : Label cfg} (hx : FromAcquired c.acquire x)
    {k : Kind} (hkx : k ∈ x.kinds) (hk : k.readsAsMonitor = true) : ReadsGuarded c x := by
  rintro tbl reader rfl
  rw [Label.kinds, List.mem_singleton] at hkx
  subst hkx
  have hnot := hx.null tbl reader rfl
  rw [show reader.isMonitor = true from hk] at hnot
  cases hnot

section

variable {α : Type} {c : CycleIn cfg} {m : HsM cfg α} {A B : AppData cfg → Prop}

theorem Does.logs_readsGuarded {ks : List Kind} (h : ∀ s, Does ks m s)
    (hlogs : Logs A (FromAcquired c.acquire) B m)
    (hks : ∀ k ∈ ks, k.readsAsMonitor = true := by decide) : Logs A (ReadsGuarded c) B m := by
  intro s hs
  obtain ⟨hB, hall⟩ := hlogs s hs
  refine ⟨hB, fun x hx => ?_⟩
  obtain ⟨k, hk, hkx⟩ := (h s).kind_of_mem hx
  exact readsGuarded_of_monitor (hall x hx) hkx (hks k hk)

end

theorem drainCommands_readsGuarded (c : CycleIn cfg) :
    Logs (fun t : AppData cfg => t.tables = .of c.acquire) (ReadsGuarded c)
      (fun t => t.tables = .of c.acquire) (drainCommands c) := by
  refine Logs.bind (fun _ h => h) (Logs.each _ fun m hm => ?_) fun _ => Logs.pure (fun _ h => h) _
  obtain ⟨_ | msg, r⟩ := m
  · exact Logs.pure (fun _ h => h) ()
  · intro s hs
    refine ⟨((appPipe_does msg r s).tables_eq fun _ => keepsTables_of_mem_cmdKinds).trans hs, ?_⟩
    rintro x hx tbl reader rfl
    exact ⟨msg, r, hm, unguarded_of_nullRead hs hx⟩

theorem passRest_readsGuarded (c : CycleIn cfg) :
    Logs (MonitorsLoaded c.acquire) (ReadsGuarded c) (fun t => t.tables = .of c.acquire)
      (passRest c) := by
  have htab (t : AppData cfg) (h : MonitorsLoaded c.acquire t) : t.tables = .of c.acquire :=
    h.tables
  refine Logs.bind htab (Does.logs_readsGuarded decrementCooldowns_does
      (Does.logs_monitorsLoaded decrementCooldowns_does safeWith_of_mem)) fun _ =>
    Logs.bind htab (Does.logs_readsGuarded (checkUtilization_does _)
      (Does.logs_monitorsLoaded (checkUtilization_does _) safeWith_of_mem)) fun _ =>
    Logs.bind htab (Does.logs_readsGuarded (checkApplications_does _)
      (checkApplications_logs _)) fun _ =>
    Logs.bind htab (Does.logs_readsGuarded outputAliveness_does
      (Does.logs_monitorsLoaded outputAliveness_does safeWith_of_mem)) fun _ =>
    Logs.bind (fun _ h => h) (Logs.bind (fun _ h => h)
      (Does.logs_readsGuarded (drainEvents_does c) (drainEvents_logs c)) fun _ => ?_) fun _ => ?_
  · exact Logs.ite (Logs.bind (fun _ h => h) (drainCommands_readsGuarded c)
      fun _ => Logs.pure (fun _ h => h) _) (Logs.pure (fun _ h => h) _)
  · exact Logs.bind (fun _ h => h) (Does.logs_readsGuarded serviceWatchdog_does
      (Does.logs_fromAcquired serviceWatchdog_does safeWith_of_mem)) fun _ =>
      Logs.pure (fun _ h => h) _

/-- The three ways a pass of the main loop can end. -/
def PassEnds (c : CycleIn cfg) (s : AppData cfg) : Prop :=
  (∃ status, (processMain c s).val = .ok status) ∨
  ((processMain c s).val = .error .reboot ∧
    ∃ l, (processMain c s).log = l ++ [.call (.resetCFE .disabled)]) ∨
  (∃ tbl reader, (processMain c s).val = .error (.nullRead tbl reader)) ∧ Unguarded c

theorem Indexed.passEnds (hs : Indexed s) (c : CycleIn cfg) : PassEnds c s := by
  obtain ⟨t, l, hacq, hloaded, hrun⟩ := processMain_apply c s
  have ht : Indexed t := by
    have hkeep := (acquirePointers_does c.acquire s).keepsIndexed (by decide) hs
    rwa [hacq] at hkeep
  have htells := passRest_tells c ht
  have hguarded := (passRest_readsGuarded c t hloaded).2
  unfold PassEnds
  rw [hrun]
  cases hval : (passRest c t).val with
  | ok status => exact .inl ⟨status, rfl⟩
  | error e =>
    obtain ⟨l', x, hlog, hx⟩ := htells e hval
    cases hx with
    | reset => exact .inr (.inl ⟨rfl, l ++ l', by simp only [hlog, List.append_assoc]⟩)
    | missing tbl reader =>
      refine .inr (.inr ⟨⟨tbl, reader, rfl⟩, hguarded _ ?_ tbl reader rfl⟩)
      rw [hlog]
      exact List.mem_append_right l' (List.mem_singleton_self _)

/-- **In every state HS reaches, a pass of the main loop is completed, or it ends with the call
to `CFE_ES_ResetCFE`, or it ends in a housekeeping request or an EnableAppMon command of
this pass that reads a table the pass could not acquire.** -/
theorem pass_ends {s₀ : AppData cfg} {l₀ : List (Label cfg)} {ls : List (List (Label cfg))}
    (h₀ : Booted l₀ s₀) (h : Passes s₀ ls s) (c : CycleIn cfg) : PassEnds c s :=
  (h.indexed h₀.indexed).passEnds c

/-- A housekeeping request in a pass without the event monitor table. -/
def hkWithoutEmt : CycleIn .small where
  acquire := acquireWithoutEmt
  utilization := ⟨success, 0, true⟩
  apps := fun _ => ⟨⟨success, 0, true⟩, ⟨success, 0, true⟩, success, true⟩
  events := []
  eventsEnd := failed
  cmds := [(some hkRequest, repliesOk)]
  cmdsEnd := failed

theorem pass_ends_hkWithoutEmt :
    (processMain hkWithoutEmt (appInit (.ok resetOnEvent) (initialData .small)).state).val =
        .error (.nullRead .emt .sendHkCmd) ∧ Unguarded hkWithoutEmt := by
  have hends := pass_ends (.appInit (.ok resetOnEvent) (initialData .small)) (.nil _) hkWithoutEmt
  rcases hends with ⟨status, hval⟩ | ⟨hval, -⟩ | ⟨-, h⟩
  · cases hval
  · cases hval
  · exact ⟨rfl, h⟩

/-- With the tables of the two monitors a pass is completed, unless it resets the processor. -/
theorem Indexed.pass_completes (hs : Indexed s) {c : CycleIn cfg}
    (hamt : success ≤ c.acquire.amt.status) (hemt : success ≤ c.acquire.emt.status) :
    (∃ status, (processMain c s).val = .ok status) ∨
      (processMain c s).val = .error .reboot ∧
        ∃ l, (processMain c s).log = l ++ [.call (.resetCFE .disabled)] := by
  refine (hs.passEnds c).imp_right fun h => h.resolve_right ?_
  rintro ⟨-, msg, r, -, ⟨-, hfail⟩ | ⟨-, hfail⟩⟩
  · exact absurd hemt (Int.not_le.mpr hfail)
  · exact absurd hamt (Int.not_le.mpr hfail)

end HealthSafety
