import HealthSafety.Model.Monitors

/-!
# The commands and the table acquisition

`hs_cmds.c`: the housekeeping request, the twelve ground commands, and the
acquisition of the four tables at the start of a cycle.  Every handler returns
`CFE_SUCCESS`, which its caller drops, so the handlers here return nothing.

`HS_SendHkCmd` hands its locals `TaskId`, `TaskInfo` and `CounterId` from one row
to the next, but reads each of them only after the call that sets it has
succeeded; they are the answers themselves here.
-/

namespace HealthSafety

open Lib

variable {cfg : Config}

/-! ### Housekeeping request -/

/-- The answers to the calls made for one row of the execution counter table:
`CFE_ES_GetTaskIDByName`, `CFE_ES_GetTaskInfo` (its execution counter),
`CFE_ES_GetGenCounterIDByName` and `CFE_ES_GetGenCount`. -/
structure ExeLookup where
  taskIDByName : Reply UInt32
  taskInfo : Reply UInt32
  genCounterIDByName : Reply UInt32
  genCount : Reply UInt32

/-- The answers for one housekeeping request; of the event monitor rows, the
status of `CFE_ES_GetAppIDByName`. -/
structure HkIn (cfg : Config) where
  appIDByName : Fin cfg.maxMonitoredEvents → Status
  exe : Fin cfg.maxExecCntSlots → ExeLookup

abbrev invalidExecount : UInt32 := 0xFFFFFFFF

/-- The fields of the packet that are copied at the start of `HS_SendHkCmd`. -/
def HkTlmPayload.update (p : HkTlmPayload cfg) (d : AppData cfg) : HkTlmPayload cfg :=
  { p with
    cmdCount := d.cmdCount
    cmdErrCount := d.cmdErrCount
    currentAppMonState := d.currentAppMonState
    currentEventMonState := d.currentEventMonState
    currentAlivenessState := d.currentAlivenessState
    currentCPUHogState := d.currentCPUHogState
    resetsPerformed := d.cdsData.resetsPerformed
    maxResets := d.cdsData.maxResets
    eventsMonitoredCount := d.eventsMonitoredCount
    msgActExec := d.msgActExec
    invalidEventMonCount := 0 }

/-- Write the housekeeping packet. -/
def modifyHk (f : AppData cfg → HkTlmPayload cfg) : HsM cfg Unit :=
  modifyApp fun d => { d with hkPacket := f d }

/-- Count a row of the event monitor table whose application does not resolve. -/
def countInvalidEvent (status : Fin cfg.maxMonitoredEvents → Status)
    (i : Fin cfg.maxMonitoredEvents) : HsM cfg Unit := do
  let row ← readEmt .sendHkCmd i
  if row.actionType ≠ emtActNoact then
    call (.getAppIDByName row.appName)
    if status i ≠ success then
      modifyHk fun d =>
        { d.hkPacket with invalidEventMonCount := d.hkPacket.invalidEventMonCount + 1 }

/-- The status flags `HS_LOADED_XCT`, `HS_LOADED_MAT`, `HS_LOADED_AMT`,
`HS_LOADED_EMT` and `HS_CDS_IN_USE`. -/
def statusFlags (d : AppData cfg) : UInt8 :=
  (if d.exeCountState = .enabled then 0x01 else 0) |||
  (if d.msgActsState = .enabled then 0x02 else 0) |||
  (if d.appMonLoaded = .enabled then 0x04 else 0) |||
  (if d.eventMonLoaded = .enabled then 0x08 else 0) |||
  (if d.cdsState = .enabled then 0x10 else 0)

/-- The resource type switch of `HS_SendHkCmd`; it leaves `ExeCount`. -/
def exeCount (row : XCTEntry) (lk : ExeLookup) : HsM cfg UInt32 :=
  if row.resourceType = xctTypeAppMain ∨ row.resourceType = xctTypeAppChild then do
    call (.getTaskIDByName row.resourceName)
    if lk.taskIDByName.status = success then
      call (.getTaskInfo lk.taskIDByName.out)
      pure (if lk.taskInfo.status = success then lk.taskInfo.out else invalidExecount)
    else
      pure invalidExecount
  else if row.resourceType = xctTypeDevice ∨ row.resourceType = xctTypeIsr then do
    call (.getGenCounterIDByName row.resourceName)
    if lk.genCounterIDByName.status = success then
      call (.getGenCount lk.genCounterIDByName.out)
      pure (lk.genCount.value invalidExecount)
    else
      pure invalidExecount
  else if row.resourceType = xctTypeNotype then
    pure invalidExecount
  else do
    sendEvent .hkreqResourceDbg .debug [.num row.resourceType.toNat]
    pure invalidExecount

/-- The body of the last loop of `HS_SendHkCmd`. -/
def reportExeCount (lks : Fin cfg.maxExecCntSlots → ExeLookup) (i : Fin cfg.maxExecCntSlots) :
    HsM cfg Unit := do
  let d ← appData
  if d.exeCountState = .enabled then
    let row ← readXct .sendHkCmd i
    let count ← exeCount row (lks i)
    modifyHk fun d =>
      { d.hkPacket with exeCounts := Function.update d.hkPacket.exeCounts i count }
  else
    modifyHk fun d =>
      { d.hkPacket with exeCounts := Function.update d.hkPacket.exeCounts i invalidExecount }

/-- `HS_SendHkCmd`. -/
def sendHkCmd (r : HkIn cfg) : HsM cfg Unit := do
  mark (.handler .sendHk)
  modifyHk fun d => d.hkPacket.update d
  Prog.each (List.finRange cfg.maxMonitoredEvents) (countInvalidEvent r.appIDByName)
  modifyHk fun d => { d.hkPacket with
    statusFlags := statusFlags d
    appMonEnables := d.appMonEnables
    utilCpuAvg := d.utilCpuAvg
    utilCpuPeak := d.utilCpuPeak }
  Prog.each (List.finRange cfg.maxExecCntSlots) (reportExeCount r.exe)
  let d ← appData
  call (.transmitHk d.hkPacket)

/-! ### Status refresh -/

/-- The body of the second loop of `HS_AppMonStatusRefresh`. -/
def refreshApp (i : Fin cfg.maxMonitoredApps) : HsM cfg Unit := do
  modifyApp fun d => { d with
    appMonLastExeCount := Function.update d.appMonLastExeCount i 0 }
  let row ← readAmt .appMonStatusRefresh i
  if row.cycleCount = 0 ∨ row.actionType = amtActNoact then
    modifyApp fun d => { d with
      appMonCheckInCountdown := Function.update d.appMonCheckInCountdown i 0 }
  else
    modifyApp fun d => { d with
      appMonCheckInCountdown := Function.update d.appMonCheckInCountdown i row.cycleCount
      appMonEnables := setEnable d.appMonEnables i }

/-- `HS_AppMonStatusRefresh`. -/
def appMonStatusRefresh : HsM cfg Unit := do
  modifyApp fun d => { d with appMonEnables := fun _ => 0 }
  Prog.each (List.finRange cfg.maxMonitoredApps) refreshApp

/-- `HS_MsgActsStatusRefresh`. -/
def msgActsStatusRefresh : HsM cfg Unit :=
  modifyApp fun d => { d with msgActCooldown := fun _ => 0 }

/-! ### Ground commands -/

/-- `HS_ResetCounters`. -/
def resetCounters : HsM cfg Unit :=
  modifyApp fun d => { d with
    cmdCount := 0
    cmdErrCount := 0
    eventsMonitoredCount := 0
    msgActExec := 0 }

/-- `HS_AppData.CmdCount++`. -/
def countCmd : HsM cfg Unit :=
  modifyApp fun d => { d with cmdCount := d.cmdCount + 1 }

/-- `HS_AppData.CmdErrCount++`. -/
def countCmdErr : HsM cfg Unit :=
  modifyApp fun d => { d with cmdErrCount := d.cmdErrCount + 1 }

/-- `HS_NoopCmd`; the arguments of the event are the version numbers. -/
def noopCmd : HsM cfg Unit := do
  mark (.handler .noop)
  countCmd
  sendEvent .noopInf .information [.num 2, .num 4, .num 99, .num 0]

/-- `HS_ResetCmd`. -/
def resetCmd : HsM cfg Unit := do
  mark (.handler .reset)
  resetCounters
  sendEvent .resetInf .debug []

/-- `HS_EnableAppMonCmd`. -/
def enableAppMonCmd : HsM cfg Unit := do
  mark (.handler .enableAppMon)
  countCmd
  appMonStatusRefresh
  modifyApp fun d => { d with currentAppMonState := .enabled }
  sendEvent .enableAppmonDbg .debug []

/-- A command that sets one switch of `HS_AppData` and reports it. -/
def switchCmd (h : Handler) (set : AppData cfg → AppData cfg) (eid : EventId) : HsM cfg Unit := do
  mark (.handler h)
  countCmd
  modifyApp set
  sendEvent eid .debug []

/-- `HS_DisableAppMonCmd`. -/
def disableAppMonCmd : HsM cfg Unit :=
  switchCmd .disableAppMon (fun d => { d with currentAppMonState := .disabled }) .disableAppmonDbg

/-- `HS_EnableAlivenessCmd`. -/
def enableAlivenessCmd : HsM cfg Unit :=
  switchCmd .enableAliveness (fun d => { d with currentAlivenessState := .enabled })
    .enableAlivenessDbg

/-- `HS_DisableAlivenessCmd`. -/
def disableAlivenessCmd : HsM cfg Unit :=
  switchCmd .disableAliveness (fun d => { d with currentAlivenessState := .disabled })
    .disableAlivenessDbg

/-- `HS_EnableCpuHogCmd`. -/
def enableCpuHogCmd : HsM cfg Unit :=
  switchCmd .enableCpuHog (fun d => { d with currentCPUHogState := .enabled }) .enableCpuhogDbg

/-- `HS_DisableCpuHogCmd`. -/
def disableCpuHogCmd : HsM cfg Unit :=
  switchCmd .disableCpuHog (fun d => { d with currentCPUHogState := .disabled }) .disableCpuhogDbg

/-- Two bus calls, the second made only if the first one succeeded; a failure is
reported with its status, and the status of the last call made is the result. -/
def bothCalls (first second : Status → Call cfg) (firstStatus secondStatus : Status)
    (firstEid secondEid : EventId) : HsM cfg Status := do
  call (first firstStatus)
  if firstStatus = success then
    call (second secondStatus)
    Prog.when (secondStatus ≠ success) (sendEvent secondEid .error [.num secondStatus])
    pure secondStatus
  else
    sendEvent firstEid .error [.num firstStatus]
    pure firstStatus

/-- Make the bus calls, unless the switch already stands at `target`. -/
def eventMonCalls (target : SwitchState) (calls : HsM cfg Status) : HsM cfg Status := do
  let d ← appData
  if d.currentEventMonState = target then
    pure success
  else
    calls

/-- The two event monitor commands: make the bus calls, and on success set the
switch. -/
def eventMonCmd (h : Handler) (target : SwitchState) (calls : HsM cfg Status) (eid : EventId) :
    HsM cfg Unit := do
  mark (.handler h)
  let status ← eventMonCalls target calls
  if status = success then
    countCmd
    modifyApp fun d => { d with currentEventMonState := target }
    sendEvent eid .debug []
  else
    countCmdErr

/-- `HS_EnableEventMonCmd`. -/
def enableEventMonCmd (subLong subShort : Status) : HsM cfg Unit :=
  eventMonCmd .enableEventMon .enabled
    (bothCalls (.subscribeEx .long) (.subscribeEx .short) subLong subShort
      .eventmonLongSub .eventmonShortSub)
    .enableEventmonDbg

/-- `HS_DisableEventMonCmd`. -/
def disableEventMonCmd (unsubLong unsubShort : Status) : HsM cfg Unit :=
  eventMonCmd .disableEventMon .disabled
    (bothCalls (.unsubscribe .long) (.unsubscribe .short) unsubLong unsubShort
      .eventmonLongUnsub .eventmonShortUnsub)
    .disableEventmonDbg

/-- `HS_ResetResetsPerformedCmd`. -/
def resetResetsPerformedCmd : HsM cfg Unit := do
  mark (.handler .resetResetsPerformed)
  countCmd
  let d ← appData
  setCDSData 0 d.cdsData.maxResets
  sendEvent .resetResetsDbg .debug []

/-- `HS_SetMaxResetsCmd`. -/
def setMaxResetsCmd (maxResets : UInt16) : HsM cfg Unit := do
  mark (.handler .setMaxResets)
  countCmd
  let d ← appData
  setCDSData d.cdsData.resetsPerformed maxResets
  let d ← appData
  sendEvent .setMaxResetsDbg .debug [.num d.cdsData.maxResets.toNat]

/-! ### Acquire table pointers -/

/-- The answers to the calls of `HS_AcquirePointers`. -/
structure AcquireIn (cfg : Config) where
  amt : TblReply (AMT cfg)
  emt : TblReply (EMT cfg)
  mat : TblReply (MAT cfg)
  xct : TblReply (XCT cfg)
  unsubLong : Status
  unsubShort : Status

/-- Release, manage and get the address of a table. -/
def getTable (tbl : TableId) (status : Status) (set : AppData cfg → AppData cfg) :
    HsM cfg Unit := do
  call (.releaseAddress tbl)
  call (.manage tbl)
  call (.getAddress tbl status)
  modifyApp set

/-- Record whether the application monitor table is there. -/
def recordAppMon (status : Status) : HsM cfg Unit := do
  if status < success then
    let d ← appData
    Prog.when (d.appMonLoaded = .enabled ∨ d.currentAppMonState = .enabled) do
      sendEvent .appmonGetaddrErr .error [.num status]
      modifyApp fun d => { d with currentAppMonState := .disabled, appMonLoaded := .disabled }
  else
    modifyApp fun d => { d with appMonLoaded := .enabled }

/-- The application monitor part of `HS_AcquirePointers`. -/
def acquireAppMon (r : TblReply (AMT cfg)) : HsM cfg Unit := do
  getTable .amt r.status fun d => { d with amTablePtr := r.ptr }
  Prog.when (r.status = cfg.tblInfoUpdated) appMonStatusRefresh
  recordAppMon r.status

/-- Drop the event subscriptions when the event monitor table is lost. -/
def dropEvents (unsubLong unsubShort : Status) : HsM cfg Unit := do
  call (.unsubscribe .long unsubLong)
  Prog.when (unsubLong ≠ success) (sendEvent .badEmtLongUnsub .error [.num unsubLong])
  call (.unsubscribe .short unsubShort)
  Prog.when (unsubShort ≠ success) (sendEvent .badEmtShortUnsub .error [.num unsubShort])

/-- The event monitor part of `HS_AcquirePointers`. -/
def acquireEventMon (r : TblReply (EMT cfg)) (unsubLong unsubShort : Status) : HsM cfg Unit := do
  getTable .emt r.status fun d => { d with emTablePtr := r.ptr }
  if r.status < success then
    let d ← appData
    Prog.when (d.eventMonLoaded = .enabled ∨ d.currentEventMonState = .enabled) do
      sendEvent .eventmonGetaddrErr .error [.num r.status]
      Prog.when (d.currentEventMonState = .enabled) (dropEvents unsubLong unsubShort)
      modifyApp fun d => { d with currentEventMonState := .disabled, eventMonLoaded := .disabled }
  else
    modifyApp fun d => { d with eventMonLoaded := .enabled }

/-- The message actions part of `HS_AcquirePointers`. -/
def acquireMsgActs (r : TblReply (MAT cfg)) : HsM cfg Unit := do
  getTable .mat r.status fun d => { d with maTablePtr := r.ptr }
  Prog.when (r.status = cfg.tblInfoUpdated) msgActsStatusRefresh
  if r.status < success then
    let d ← appData
    Prog.when (d.msgActsState = .enabled) do
      sendEvent .msgactsGetaddrErr .error [.num r.status]
      modifyApp fun d => { d with msgActsState := .disabled }
  else
    modifyApp fun d => { d with msgActsState := .enabled }

/-- The execution counter part of `HS_AcquirePointers`. -/
def acquireExeCount (r : TblReply (XCT cfg)) : HsM cfg Unit := do
  getTable .xct r.status fun d => { d with xcTablePtr := r.ptr }
  if r.status < success then
    let d ← appData
    Prog.when (d.exeCountState = .enabled) do
      sendEvent .execountGetaddrErr .error [.num r.status]
      modifyApp fun d => { d with exeCountState := .disabled }
  else
    modifyApp fun d => { d with exeCountState := .enabled }

/-- `HS_AcquirePointers`. -/
def acquirePointers (r : AcquireIn cfg) : HsM cfg Unit := do
  acquireAppMon r.amt
  acquireEventMon r.emt r.unsubLong r.unsubShort
  acquireMsgActs r.mat
  acquireExeCount r.xct

end HealthSafety
