import HealthSafety.Lib.Cost
import HealthSafety.System.FailedInit
import HealthSafety.System.Watchdog

/-!
# The work between two services of the watchdog

The hardware watchdog resets the processor if HS does not service it in time, so what HS
does between two services must be bounded.  The work is counted in the calls of the log.
Every function logs a bounded number of them: the two monitors a number for each row of
their tables, for each event in the case of the event monitor, and a message on the command
pipe at most as many as the housekeeping request, which looks up every row of two tables.

The numbers are about the log, not about all that the source calls.  The log leaves out what
each message costs to fetch and to check (`CFE_SB_ReceiveBuffer`, `CFE_MSG_GetMsgId`,
`CFE_MSG_GetFcnCode`, `CFE_MSG_GetSize`), the `CFE_SB_TimeStampMsg` before the housekeeping
packet is sent, `CFE_MSG_Init`, `CFE_PSP_IODriver_FindByName`, the performance log,
`CFE_ES_RunLoop`, `CFE_ES_ExitApp`, the delay at the top of a turn, conversions of message
ids, pointers and strings, and what the table services do in the calls that it has.

`passCalls` is the bound for a pass of the main loop, and `work_between_services` the one
for a run of `HS_AppMain`: as long as no processor reset has been asked for, HS never logs
more calls without servicing the watchdog than those of one pass, of the initialization and
of the exit together.
-/

namespace HealthSafety

open Lib

variable {cfg : Config} {s t : AppData cfg}

def Label.isCall : Label cfg → Bool
  | .call _ => true
  | .mark _ => false

/-- The program logs at most `n` calls. -/
abbrev Calls {α : Type} (m : HsM cfg α) (n : Nat) : Prop := Costs Label.isCall m n

theorem call_bind_calls {α : Type} {f : Unit → HsM cfg α} {n : Nat} (c : Call cfg)
    (h : Calls (f ()) n) : Calls (call c >>= f) (n + 1) :=
  .bind (.emit _) (fun _ => h) (Nat.le_of_eq (Nat.add_comm 1 n))

theorem call_calls (c : Call cfg) (n : Nat) : Calls (call c) (n + 1) :=
  Costs.mono (.emit _) (Nat.succ_le_succ (Nat.zero_le n))

theorem mark_calls (m : Mark cfg) : Calls (mark m) 0 := .emit_of_not rfl

theorem mark_bind_calls {α : Type} {f : Unit → HsM cfg α} {n : Nat} (m : Mark cfg)
    (h : Calls (f ()) n) : Calls (mark m >>= f) n := .bind_free (mark_calls m) fun _ => h

/-! ### Table rows and the two shared actions -/

theorem deref_calls {α : Type} (tbl : TableId) (reader : Reader) (p : Option α) :
    Calls (deref tbl reader p : HsM cfg α) 0 := by
  cases p with
  | none => exact mark_bind_calls _ (.stop _)
  | some a => exact .pure a

theorem readAmt_calls (reader : Reader) (i : Fin cfg.maxMonitoredApps) :
    Calls (readAmt reader i) 0 :=
  .get_bind fun _ => .bind_free (deref_calls _ _ _) fun _ => mark_bind_calls _ (.pure _)

theorem readEmt_calls (reader : Reader) (i : Fin cfg.maxMonitoredEvents) :
    Calls (readEmt reader i) 0 :=
  .get_bind fun _ => .bind_free (deref_calls _ _ _) fun _ => mark_bind_calls _ (.pure _)

theorem readMat_calls (reader : Reader) (i : Fin cfg.maxMsgActTypes) :
    Calls (readMat reader i) 0 :=
  .get_bind fun _ => .bind_free (deref_calls _ _ _) fun _ => mark_bind_calls _ (.pure _)

theorem readXct_calls (reader : Reader) (i : Fin cfg.maxExecCntSlots) :
    Calls (readXct reader i) 0 :=
  .get_bind fun _ => .bind_free (deref_calls _ _ _) fun _ => mark_bind_calls _ (.pure _)

theorem setCDSData_calls (a b : UInt16) : Calls (setCDSData a b : HsM cfg Unit) 1 :=
  .modify_bind (.get_bind fun _ => .ite (call_calls _ 0) (.pure _))

theorem procReset_calls (returns : Bool) : Calls (procReset returns : HsM cfg Unit) 4 := by
  refine .get_bind fun s => .ite ?_ (call_calls _ 3)
  refine .bind (setCDSData_calls _ _) (fun _ => ?_) (Nat.le_refl (1 + 3))
  refine call_bind_calls _ (call_bind_calls _ (.modify_bind (.get_bind fun _ => ?_)))
  exact call_bind_calls _ (.ite (.stop _) (.pure _))

theorem msgAction_calls (reader : Reader) (eid : EventId) (args : List EvtArg) (n : UInt32) :
    Calls (msgAction reader eid args n : HsM cfg Unit) 2 := by
  have hmark (m : Mark cfg) : Calls (mark m) 2 := (mark_calls m).mono (by omega)
  refine .get_bind fun s => ?_
  split
  · refine .ite (.ite ?_ (hmark _)) (hmark _)
    refine .bind_free (readMat_calls _ _) fun row => .ite (mark_bind_calls _ ?_) (hmark _)
    exact call_bind_calls _ (.modify_bind (.ite (call_calls _ 0) (.pure _)))
  · exact hmark _

/-! ### The application monitor -/

theorem resolveApp_calls (i : Fin cfg.maxMonitoredApps) (row : AMTEntry) (lk : AppLookup)
    (v : AppMonVars) : Calls (resolveApp i row lk v) 2 := by
  refine call_bind_calls _ (.ite (call_bind_calls _ (.pure _)) (.bind_pure (.get_bind fun s => ?_)))
  exact .ite (call_calls _ 0) (call_calls _ 0)

theorem appMonAction_calls (i : Fin cfg.maxMonitoredApps) (row : AMTEntry) (lk : AppLookup)
    (status : Status) (appId : UInt32) : Calls (appMonAction i row lk status appId) 5 := by
  refine mark_bind_calls _ (.ite ?_ (.ite ?_ (.ite (call_calls _ 4) ?_)))
  · exact call_bind_calls _ (procReset_calls _)
  · refine call_bind_calls _ (.ite (call_bind_calls _ ?_) (call_calls _ 3))
    exact .ite (call_calls _ 2) (.pure _)
  · exact (msgAction_calls _ _ _ _).mono (by omega)

theorem countdownApp_calls (i : Fin cfg.maxMonitoredApps) (row : AMTEntry) (lk : AppLookup)
    (status : Status) (v : AppMonVars) : Calls (countdownApp i row lk status v) 5 := by
  refine .get_bind fun s => .ite (.modify _) (.modify_bind (.get_bind fun s => .when ?_))
  exact .modify_bind (appMonAction_calls _ _ _ _ _)

theorem monitorApp_calls (lks : Fin cfg.maxMonitoredApps → AppLookup) (v : AppMonVars)
    (i : Fin cfg.maxMonitoredApps) : Calls (monitorApp lks v i) 7 := by
  refine .bind_free (readAmt_calls _ _) fun row => .get_bind fun s => .ite ?_ (.pure _)
  refine .bind (resolveApp_calls _ _ _ _) (fun r => ?_) (Nat.le_refl (2 + 5))
  exact .bind_pure (countdownApp_calls _ _ _ _ _)

theorem checkApplications_calls (lks : Fin cfg.maxMonitoredApps → AppLookup) :
    Calls (checkApplications lks) (cfg.maxMonitoredApps * 7) := by
  have hloop := Costs.fold (monitorApp_calls lks) (List.finRange cfg.maxMonitoredApps) ⟨0, 0⟩
  rw [List.length_finRange] at hloop
  exact .get_bind fun s => .when (.bind_pure hloop)

/-! ### The event monitor -/

theorem appCommand_calls (row : EMTEntry) (lk : EvtLookup) (appId : UInt32)
    (okEid errEid : EventId) (cmd : UInt32 → Call cfg) (cmdStatus : Status) :
    Calls (appCommand row lk appId okEid errEid cmd cmdStatus) 4 := by
  refine call_bind_calls _ (.bind_pure (.ite ?_ (call_calls _ 2)))
  exact call_bind_calls _ (call_bind_calls _ (.ite (call_calls _ 0) (.pure _)))

theorem eventAction_calls (i : Fin cfg.maxMonitoredEvents) (row : EMTEntry) (lk : EvtLookup)
    (appId : UInt32) : Calls (eventAction i row lk appId) 5 := by
  refine mark_bind_calls _ (.ite ?_ (.ite ?_ (.ite ?_ ?_)))
  · exact call_bind_calls _ (.bind_pure (procReset_calls _))
  · exact (appCommand_calls _ _ _ _ _ _ _).mono (by omega)
  · exact (appCommand_calls _ _ _ _ _ _ _).mono (by omega)
  · exact .bind_pure ((msgAction_calls _ _ _ _).mono (by omega))

theorem monitorEventRow_calls (ev : EvtMsg) (lks : Fin cfg.maxMonitoredEvents → EvtLookup)
    (appId : UInt32) (i : Fin cfg.maxMonitoredEvents) :
    Calls (monitorEventRow ev lks appId i) 5 :=
  .bind_free (readEmt_calls _ _) fun _ => .ite (eventAction_calls _ _ _ _) (.pure _)

theorem receiveEvent_calls (ev : EvtMsg) (lks : Fin cfg.maxMonitoredEvents → EvtLookup) :
    Calls (receiveEvent ev lks) (cfg.maxMonitoredEvents * 5) := by
  have hloop := Costs.fold (monitorEventRow_calls ev lks) (List.finRange cfg.maxMonitoredEvents) 0
  rw [List.length_finRange] at hloop
  exact .modify_bind (.bind_pure hloop)

/-! ### The utilization monitor and the aliveness -/

theorem checkHogging_calls (util : Int) : Calls (checkHogging util : HsM cfg Unit) 2 := by
  refine .get_bind fun s => .ite (.modify_bind (.get_bind fun s => .ite ?_ (.pure _))) (.modify _)
  exact call_bind_calls _ (call_calls _ 0)

theorem monitorUtilization_calls (r : Reply Int) :
    Calls (monitorUtilization r : HsM cfg Unit) 3 := by
  have hsample : Calls (sysMonGetCpuUtilization r : HsM cfg Int) 1 :=
    .get_bind fun s => .ite (.pure _) (call_bind_calls _ (.ite (.pure _) (.pure _)))
  refine .get_bind fun s => .modify_bind (.get_bind fun s => ?_)
  refine .bind_free (.when (.modify _)) fun _ => ?_
  refine .bind hsample (fun sample => .ite (.modify _) ?_) (Nat.le_refl (1 + 2))
  refine .bind_last (checkHogging_calls _) fun _ => ?_
  split
  · exact .modify_bind (.get_bind fun s => .modify _)
  · exact .stop _

theorem checkUtilization_calls (r : Reply Int) : Calls (checkUtilization r : HsM cfg Unit) 3 := by
  refine .get_bind fun s => .bind_last (.when ?_) fun _ => .modify _
  exact .bind_last (monitorUtilization_calls r) fun _ => .modify _

theorem outputAliveness_calls : Calls (outputAliveness : HsM cfg Unit) 1 := by
  refine .get_bind fun s => .when (.modify_bind (.get_bind fun s => .when ?_))
  exact call_bind_calls _ (.modify _)

/-! ### The tables -/

theorem getTable_bind_calls {tbl : TableId} {status : Status} {set : AppData cfg → AppData cfg}
    {f : Unit → HsM cfg Unit} {n : Nat} (h : Calls (f ()) n) :
    Calls (getTable tbl status set >>= f) (n + 3) := by
  refine .bind (a := 3) ?_ (fun _ => h) (Nat.le_of_eq (Nat.add_comm 3 n))
  exact call_bind_calls _ (call_bind_calls _ (call_bind_calls _ (.modify _)))

theorem appMonStatusRefresh_calls : Calls (appMonStatusRefresh : HsM cfg Unit) 0 := by
  refine .modify_bind (Costs.mono (.each _ (n := 0) fun i _ => .modify_bind ?_) (by omega))
  exact .bind_free (readAmt_calls _ _) fun row => .ite (.modify _) (.modify _)

theorem acquireAppMon_calls (r : TblReply (AMT cfg)) : Calls (acquireAppMon r) 4 := by
  refine getTable_bind_calls (.bind_free (.when appMonStatusRefresh_calls) fun _ => ?_)
  exact .ite (.get_bind fun s => .when (call_bind_calls _ (.modify _))) (.modify _)

theorem dropEvents_calls (unsubLong unsubShort : Status) :
    Calls (dropEvents unsubLong unsubShort : HsM cfg Unit) 4 := by
  have hreport (m : HsM cfg Unit) {n : Nat} (hm : Calls m n) (c : Call cfg) (p : Prop)
      [Decidable p] : Calls (Prog.when p (call c) >>= fun _ => m) (n + 1) :=
    .bind (.when (call_calls c 0)) (fun _ => hm) (Nat.le_of_eq (Nat.add_comm 1 n))
  refine call_bind_calls _ (hreport _ (call_bind_calls _ ?_) _ _)
  exact .when (call_calls _ 0)

theorem acquireEventMon_calls (r : TblReply (EMT cfg)) (unsubLong unsubShort : Status) :
    Calls (acquireEventMon r unsubLong unsubShort) 8 := by
  refine getTable_bind_calls (.ite (.get_bind fun s => .when ?_) (.modify _))
  exact call_bind_calls _ (.bind_last (.when (dropEvents_calls _ _)) fun _ => .modify _)

theorem acquireMsgActs_calls (r : TblReply (MAT cfg)) : Calls (acquireMsgActs r) 4 := by
  refine getTable_bind_calls (.bind_free (.when (.modify _)) fun _ => ?_)
  exact .ite (.get_bind fun s => .when (call_bind_calls _ (.modify _))) (.modify _)

theorem acquireExeCount_calls (r : TblReply (XCT cfg)) : Calls (acquireExeCount r) 4 := by
  refine getTable_bind_calls ?_
  exact .ite (.get_bind fun s => .when (call_bind_calls _ (.modify _))) (.modify _)

theorem acquirePointers_calls (r : AcquireIn cfg) : Calls (acquirePointers r) 20 := by
  refine .bind (acquireAppMon_calls _) (fun _ => ?_) (Nat.le_refl (4 + 16))
  refine .bind (acquireEventMon_calls _ _ _) (fun _ => ?_) (Nat.le_refl (8 + 8))
  exact .bind (acquireMsgActs_calls _) (fun _ => acquireExeCount_calls _) (Nat.le_refl (4 + 4))

/-! ### The commands -/

/-- The most calls that a message on the command pipe logs. -/
def cmdCalls (cfg : Config) : Nat := cfg.maxMonitoredEvents + cfg.maxExecCntSlots * 2 + 1

theorem le_cmdCalls (cfg : Config) : 4 ≤ cmdCalls cfg := by
  have hevents := cfg.verified.monitoredEvents_pos
  have hslots := cfg.verified.execCntSlots_pos
  unfold cmdCalls
  omega

theorem countInvalidEvent_calls (status : Fin cfg.maxMonitoredEvents → Status)
    (i : Fin cfg.maxMonitoredEvents) : Calls (countInvalidEvent status i) 1 := by
  refine .bind_free (readEmt_calls _ _) fun row => .ite (call_bind_calls _ ?_) (.pure _)
  exact .ite (.modify _) (.pure _)

theorem exeCount_calls (row : XCTEntry) (lk : ExeLookup) : Calls (exeCount row lk : HsM cfg _) 2 := by
  refine .ite (call_bind_calls _ ?_) (.ite (call_bind_calls _ ?_) (.ite (.pure _) ?_))
  · exact .ite (call_bind_calls _ (.pure _)) (.pure _)
  · exact .ite (call_bind_calls _ (.pure _)) (.pure _)
  · exact call_bind_calls _ (.pure _)

theorem reportExeCount_calls (lks : Fin cfg.maxExecCntSlots → ExeLookup)
    (i : Fin cfg.maxExecCntSlots) : Calls (reportExeCount lks i) 2 := by
  refine .get_bind fun s => .ite (.bind_free (readXct_calls _ _) fun row => ?_) (.modify _)
  exact .bind_last (exeCount_calls _ _) fun _ => .modify _

theorem sendHkCmd_calls (r : HkIn cfg) : Calls (sendHkCmd r) (cmdCalls cfg) := by
  have hevents := Costs.each (List.finRange cfg.maxMonitoredEvents)
    fun i _ => countInvalidEvent_calls r.appIDByName i
  have hslots := Costs.each (List.finRange cfg.maxExecCntSlots)
    fun i _ => reportExeCount_calls r.exe i
  rw [List.length_finRange] at hevents hslots
  have hsend : Calls (appData >>= fun d : AppData cfg => call (.transmitHk d.hkPacket)) 1 :=
    .get_bind fun s => call_calls _ 0
  have hsum : cfg.maxMonitoredEvents * 1 + (cfg.maxExecCntSlots * 2 + 1) ≤ cmdCalls cfg := by
    rw [cmdCalls]
    omega
  refine mark_bind_calls _ (.modify_bind (.bind hevents (fun _ => .modify_bind ?_) hsum))
  exact .bind hslots (fun _ => hsend) (Nat.le_refl _)

theorem eventMonCmd_calls (h : Handler) (target : SwitchState) (first second : Status → Call cfg)
    (firstStatus secondStatus : Status) (firstEid secondEid eid : EventId) :
    Calls (eventMonCmd h target
      (bothCalls first second firstStatus secondStatus firstEid secondEid) eid) 4 := by
  have hboth : Calls (bothCalls first second firstStatus secondStatus firstEid secondEid) 3 := by
    refine call_bind_calls _ (.ite (call_bind_calls _ ?_) (call_bind_calls _ (.pure _)))
    exact .bind_pure (.when (call_calls _ 0))
  refine mark_bind_calls _ (.bind (.get_bind fun s => .ite (.pure _) hboth) (fun status => ?_)
    (Nat.le_refl (3 + 1)))
  exact .ite (.modify_bind (.modify_bind (call_calls _ 0))) (.modify _)

theorem switchCmd_calls (h : Handler) (set : AppData cfg → AppData cfg) (eid : EventId) :
    Calls (switchCmd h set eid) 1 :=
  mark_bind_calls _ (.modify_bind (.modify_bind (call_calls _ 0)))

theorem handler_calls (msg : CmdMsg) (r : CmdReplies cfg) (h : Handler) :
    Calls (h.run msg r) (cmdCalls cfg) := by
  have hle := le_cmdCalls cfg
  cases h with
  | sendHk => exact sendHkCmd_calls _
  | noop => exact .mono (mark_bind_calls _ (.modify_bind (call_calls _ 3))) hle
  | reset => exact .mono (mark_bind_calls _ (.modify_bind (call_calls _ 3))) hle
  | enableAppMon =>
    refine .mono (mark_bind_calls _ (.modify_bind ?_)) hle
    exact .bind_free appMonStatusRefresh_calls fun _ => .modify_bind (call_calls _ 3)
  | enableEventMon => exact (eventMonCmd_calls _ _ _ _ _ _ _ _ _).mono hle
  | disableEventMon => exact (eventMonCmd_calls _ _ _ _ _ _ _ _ _).mono hle
  | resetResetsPerformed =>
    refine .mono (mark_bind_calls _ (.modify_bind (.get_bind fun s => ?_))) hle
    exact .bind (setCDSData_calls _ _) (fun _ => call_calls _ 2) (Nat.le_refl (1 + 3))
  | setMaxResets =>
    refine .mono (mark_bind_calls _ (.modify_bind (.get_bind fun s => ?_))) hle
    refine .bind (setCDSData_calls _ _) (fun _ => ?_) (Nat.le_refl (1 + 3))
    exact .get_bind fun s => call_calls _ 2
  | _ => exact (switchCmd_calls _ _ _).mono (by omega)

theorem appPipe_calls (msg : CmdMsg) (r : CmdReplies cfg) :
    Calls (appPipe msg r) (cmdCalls cfg) := by
  have hle := le_cmdCalls cfg
  cases hacc : accepted cfg msg with
  | some h =>
    rw [appPipe_of_accepted hacc]
    exact handler_calls msg r h
  | none =>
    obtain heq | ⟨n, -, heq⟩ := appPipe_of_not_accepted hacc r
    · rw [heq, rejectMsg]
      exact Costs.mono (.ite (call_bind_calls _ (.modify _)) (.modify_bind (call_calls _ 3))) hle
    · rw [heq, verifyMsgLength]
      refine Costs.mono (.bind_pure (.ite (.ite ?_ ?_) (.pure _))) hle
      · exact call_bind_calls _ (.pure _)
      · exact call_bind_calls _ (.bind_pure (.modify _))

/-! ### A pass of the main loop -/

/-- The most calls that a pass logs. -/
def passCalls (c : CycleIn cfg) : Nat :=
  25 + cfg.maxMonitoredApps * 7 + c.events.length * (cfg.maxMonitoredEvents * 5) +
    c.cmds.length * cmdCalls cfg

theorem processCommands_calls (c : CycleIn cfg) :
    Calls (processCommands c)
      (c.events.length * (cfg.maxMonitoredEvents * 5) + c.cmds.length * cmdCalls cfg) := by
  refine .bind ?_ (fun status => .ite (.bind_pure (.bind_pure (.each _ fun m _ => ?_))) (.pure _))
    (Nat.le_refl _)
  · refine .get_bind fun s => .ite (.bind_pure (.each _ fun e _ => ?_)) (.pure _)
    obtain ⟨_ | ev, lks⟩ := e
    · exact .pure ()
    · exact receiveEvent_calls ev lks
  · obtain ⟨_ | msg, r⟩ := m
    · exact .pure ()
    · exact appPipe_calls msg r

theorem processMain_calls (c : CycleIn cfg) : Calls (processMain c) (passCalls c) := by
  have hservice : Calls (serviceWatchdog : HsM cfg Unit) 1 :=
    .get_bind fun s => .when (call_calls _ 0)
  have hrest : Calls (processCommands c >>= fun status => serviceWatchdog >>= fun _ => pure status)
      (c.events.length * (cfg.maxMonitoredEvents * 5) + c.cmds.length * cmdCalls cfg + 1) :=
    .bind (processCommands_calls c) (fun _ => .bind_pure hservice) (Nat.le_refl _)
  have hsum : 20 + (3 + (cfg.maxMonitoredApps * 7 + (1 +
      (c.events.length * (cfg.maxMonitoredEvents * 5) + c.cmds.length * cmdCalls cfg + 1)))) ≤
        passCalls c := by
    rw [passCalls]
    omega
  refine .bind (acquirePointers_calls _) (fun _ => .bind_free ?_ fun _ => ?_) hsum
  · exact .bind_free (mark_calls _) fun _ => .modify _
  refine .bind (checkUtilization_calls _) (fun _ => ?_) (Nat.le_refl _)
  refine .bind (checkApplications_calls _) (fun _ => ?_) (Nat.le_refl _)
  exact .bind outputAliveness_calls (fun _ => hrest) (Nat.le_refl _)

/-! ### Initialization, startup and exit -/

theorem attempt_calls {rest : HsM cfg Status} {n : Nat} (c : Call cfg) (status : Status)
    (eid : EventId) (h : Calls rest (n + 1)) : Calls (attempt c status eid rest) (n + 2) :=
  call_bind_calls _ (.ite (call_bind_calls _ (.pure _)) h)

theorem sbInit_calls (i : SbIn) : Calls (sbInit i : HsM cfg Status) 7 := by
  refine .modify_bind (attempt_calls _ _ _ (attempt_calls _ _ _ (attempt_calls _ _ _ ?_)))
  exact attempt_calls _ _ _ (attempt_calls _ _ _ (attempt_calls _ _ _ (.pure _)))

theorem loadTable_bind_calls {tbl : TableId} {status : Status} {eid : EventId}
    {disable : HsM cfg Unit} {f : Unit → HsM cfg Unit} {n k : Nat} (hd : Calls disable k)
    (hf : Calls (f ()) n) : Calls (loadTable tbl status eid disable >>= f) (n + (k + 2)) := by
  have hload : Calls (loadTable tbl status eid disable) (k + 2) :=
    call_bind_calls _ (.when (call_bind_calls _ hd))
  exact .bind hload (fun _ => hf) (Nat.le_of_eq (Nat.add_comm _ _))

theorem loadTables_calls (load : TableId → Status) : Calls (loadTables load : HsM cfg Unit) 10 := by
  refine loadTable_bind_calls (n := 8) (k := 0) (.modify _) ?_
  refine loadTable_bind_calls (n := 5) (k := 1) (.modify_bind (call_bind_calls _ (.modify _))) ?_
  refine loadTable_bind_calls (n := 2) (k := 1) (.modify_bind (call_bind_calls _ (.modify _))) ?_
  exact call_bind_calls _ (.when (call_bind_calls _ (.modify _)))

theorem tblInit_calls (i : TblIn cfg) : Calls (tblInit i) 34 := by
  refine attempt_calls _ _ _ (attempt_calls _ _ _ (attempt_calls _ _ _ (attempt_calls _ _ _ ?_)))
  refine .bind (loadTables_calls _) (fun _ => .bind_pure (acquirePointers_calls _)) ?_
  exact Nat.le_refl (10 + 20)

theorem sysMonInit_calls (r : SysMonIn) : Calls (sysMonInit r : HsM cfg Status) 6 := by
  refine .ite (call_bind_calls _ (.pure _)) (.modify_bind (call_bind_calls _ (call_bind_calls _ ?_)))
  refine .ite (call_bind_calls _ (.pure _)) (call_bind_calls _ ?_)
  refine .bind (.when (call_calls _ 0)) (fun _ => .modify_bind ?_) (Nat.le_refl (1 + 2))
  exact call_bind_calls _ (.bind_last (.when (call_calls _ 0)) fun _ => .modify_bind (.pure _))

theorem cdsInit_calls (registerCDS : Status) (restoreFromCDS : Reply CDSData) :
    Calls (cdsInit registerCDS restoreFromCDS : HsM cfg Unit) 4 := by
  have hset (n : Nat) : Calls (initializeCDS : HsM cfg Unit) (n + 1) :=
    (setCDSData_calls _ _).mono (Nat.succ_le_succ (Nat.zero_le n))
  refine call_bind_calls _ (.ite (call_bind_calls _ (.modify_bind (.ite ?_ ?_))) (.ite (hset 2) ?_))
  · exact .get_bind fun s => .when (call_bind_calls _ (hset 0))
  · exact call_bind_calls _ (hset 0)
  · exact .modify_bind (hset 2)

theorem appInit_calls (i : InitIn cfg) : Calls (appInit i) 53 := by
  have hsys : Calls (sysMonInit i.sysMon >>= fun status => if status ≠ success then
      (sendEvent .sysmonInitErr .error [.num status] >>= fun _ => pure status : HsM cfg Status)
      else sendEvent .initInf .information [.num 2, .num 4, .num 99, .num 0] >>= fun _ =>
        pure status) 7 := by
    refine .bind (sysMonInit_calls _) (fun _ => ?_) (Nat.le_refl (6 + 1))
    exact .ite (call_bind_calls _ (.pure _)) (call_bind_calls _ (.pure _))
  have hint : Calls (interfaceInit i) 48 := by
    refine .bind (sbInit_calls _) (fun _ => .ite (.pure _) ?_) (Nat.le_refl (7 + 41))
    exact .bind (tblInit_calls _) (fun _ => .ite (.pure _) hsys) (Nat.le_refl (34 + 7))
  refine mark_bind_calls _ (.modify_bind (call_bind_calls _ (.ite ?_ ?_)))
  · exact call_bind_calls _ (.pure _)
  · exact .bind (cdsInit_calls _ _) (fun _ => hint) (Nat.le_refl (4 + 48))

theorem mainStart_calls (i : InitIn cfg) (j : StartIn) : Calls (mainStart i j) 61 := by
  refine .bind (appInit_calls i) (fun status => .ite ?_ (.pure _)) (Nat.le_refl (53 + 8))
  refine call_bind_calls _ (call_bind_calls _ (call_bind_calls _ (call_bind_calls _
    (call_bind_calls _ (.get_bind fun s => .ite ?_ (.pure _))))))
  refine call_bind_calls _ (.ite (call_bind_calls _ (.pure _)) (call_bind_calls _ ?_))
  exact .ite (call_bind_calls _ (.pure _)) (.pure _)

theorem mainEnd_calls (stopped : Bool) (v : MainVars) :
    Calls (mainEnd stopped v : HsM cfg Unit) 4 := by
  refine .bind (.when (call_bind_calls _ (call_calls _ 0))) (fun _ => ?_) (Nat.le_refl (2 + 2))
  exact .get_bind fun s => .when (call_bind_calls _ (.when (call_calls _ 0)))

/-! ### Between two services -/

/-- The log is paced by the services of the watchdog, up to the first processor reset. -/
abbrev Serviced (n : Nat) (l : List (Label cfg)) : Prop :=
  Paced Label.isCall Label.isService Label.isReset n l

/-- The most calls of a pass among the turns. -/
def mostPassCalls (ts : List (TurnIn cfg)) : Nat := (ts.map fun t => passCalls t.cycle).foldr max 0

theorem mostPassCalls_cons (t : TurnIn cfg) (ts : List (TurnIn cfg)) :
    mostPassCalls (t :: ts) = max (passCalls t.cycle) (mostPassCalls ts) := rfl

/-- A pass that returns without a processor reset ends with a service of the watchdog. -/
theorem processMain_served {c : CycleIn cfg} {status : Status} (hs : FlagSet s)
    (hval : (processMain c s).val = .ok status) (hreset : resets (processMain c s).log = 0) :
    ∃ l, (processMain c s).log = l ++ [.call .watchdogService] := by
  have hend : FlagSet (processMain c s).state :=
    ((processMain_does c s).flag (by decide)).mpr ⟨hs, hreset⟩
  rw [processMain_eq] at hval hend ⊢
  rcases hrun : passWork c s with ⟨e | st, t, l⟩
  · rw [Prog.bind_error hrun] at hval
    cases hval
  · rw [Prog.bind_ok hrun, Prog.bind_ok (serviceWatchdog_apply t), Prog.pure_apply] at hend ⊢
    have ht : FlagSet t := hend
    exact ⟨l, by rw [if_pos ht, List.append_nil]⟩

variable {timeOut : Status}

theorem mainLoop_serviced (ts : List (TurnIn cfg)) :
    ∀ {s : AppData cfg}, FlagSet s → ∀ v : MainVars,
      Serviced (mostPassCalls ts) (mainLoop timeOut ts v s).log := by
  induction ts with
  | nil => exact fun _ v => .of_countP (Nat.le_refl 0)
  | cons t ts ih =>
    intro s hs v
    rw [mostPassCalls_cons]
    cases hrl : runLoop t.stop v.runStatus with
    | some e =>
      rw [mainLoop_stop hrl]
      exact .of_countP (Nat.zero_le _)
    | none =>
      rw [mainLoop_go hrl, mainBody]
      by_cases hw : Wakes cfg timeOut t.wakeup
      · rw [if_pos hw, Prog.bind_assoc']
        have hpass := (processMain_calls t.cycle s).trans (Nat.le_max_left _ (mostPassCalls ts))
        have hserved := @processMain_served cfg s t.cycle
        have hflag := (processMain_does t.cycle s).flag (by decide)
        rcases hrun : processMain t.cycle s with ⟨e | status, u, l⟩
        · rw [Prog.bind_error hrun]
          rw [hrun] at hpass
          exact .of_countP hpass
        · rw [hrun] at hpass hserved hflag
          rw [Prog.bind_ok hrun, Prog.pure_bind']
          by_cases hreset : resets l = 0
          · obtain ⟨l', hl'⟩ := hserved hs rfl hreset
            have hl : l = l' ++ [.call .watchdogService] := hl'
            have hnext := ih (hflag.mpr ⟨hs, hreset⟩) (v.next status (v.passes + 1))
            show Serviced _ (l ++ _)
            rw [hl] at hpass ⊢
            exact .append_served hpass rfl (hnext.mono (Nat.le_max_right _ _))
          · obtain ⟨x, hx, hxr⟩ := List.countP_pos_iff.mp (Nat.pos_of_ne_zero hreset)
            exact .append_ended hpass hx hxr _
      · rw [if_neg hw, Prog.pure_bind']
        exact (ih hs _).mono (Nat.le_max_right _ _)

/-- Up to the main loop the watchdog stays in service. -/
theorem mainStart_flag (i : InitIn cfg) (j : StartIn) (s : AppData cfg) :
    FlagSet (mainStart i j s).state := by
  have hinit := (appInit_flag i s).1
  rcases hrun : appInit i s with ⟨e | status, t, l⟩
  · rw [hrun] at hinit
    rw [mainStart, Prog.bind_error hrun]
    exact hinit
  · rw [hrun] at hinit
    rw [mainStart, Prog.bind_ok hrun]
    by_cases hst : status = success
    · rw [if_pos hst]
      have hdoes := startup_does j t
      refine (hdoes.flag (by decide)).mpr ⟨hinit, ?_⟩
      exact resets_eq_zero_of_kinds (by decide) fun x hx => hdoes.kind_of_mem hx
    · rw [if_neg hst]
      exact hinit

/-- **HS never works long without servicing the watchdog.**  In every run of `HS_AppMain`,
up to the first call to `CFE_ES_ResetCFE`, a stretch of the log without a service of the
watchdog has at most as many calls as one pass of the main loop, the initialization with
the startup, and the exit together log.  What the log leaves out is not counted. -/
theorem work_between_services (timeOut : Status) (i : MainIn cfg) (n : Nat) (s : AppData cfg) :
    Serviced (61 + (mostPassCalls ((List.range n).map i.turn) + 4))
      (appMain timeOut i n s).log := by
  have hstart := mainStart_calls i.init i.start s
  have hflag := mainStart_flag i.init i.start s
  rcases hrun : mainStart i.init i.start s with ⟨e | start, t, l⟩
  · rw [hrun] at hstart
    rw [appMain, Prog.bind_error hrun]
    exact .of_countP (Nat.le_trans hstart (Nat.le_add_right _ _))
  · rw [hrun] at hstart hflag
    rw [appMain, Prog.bind_ok hrun]
    refine .append_left hstart ?_
    have hloop := @mainLoop_serviced cfg timeOut ((List.range n).map i.turn) t hflag
      ⟨start.1, start.2, 0⟩
    rcases hrun' : mainLoop timeOut ((List.range n).map i.turn) ⟨start.1, start.2, 0⟩ t with
      ⟨e | out, u, l'⟩
    · rw [hrun'] at hloop
      rw [Prog.bind_error hrun']
      exact hloop.mono (Nat.le_add_right _ _)
    · rw [hrun'] at hloop
      rw [Prog.bind_ok hrun']
      refine hloop.append_right ?_
      obtain _ | ⟨v, exitStatus⟩ := out
      · exact Nat.zero_le 4
      · exact Costs.bind_pure (mainEnd_calls i.stopped v) u

end HealthSafety
