import HealthSafety.Model.State
import Mathlib.Data.List.FinRange
import Mathlib.Algebra.Group.Nat.Defs
import Mathlib.Data.Int.DivMod

/-!
# The monitors

`hs_monitors.c`, `hs_utils.c` and `hs_sysmon.c`: the application monitor, the
event monitor, the utilization monitor, the four table validators and the
critical data.

The answers of the calls a monitor makes come in as arguments, one record for
each row of the table it walks: a row makes each call at most once, so this
loses nothing.  The two blocks that the monitors share word for word, the
processor reset and the message action, are stated once (`procReset`,
`msgAction`).
-/

namespace HealthSafety

open Lib

variable {cfg : Config}

/-! ### hs_utils.c -/

/-- `HS_AMTActionIsValid`. -/
def amtActionIsValid (cfg : Config) (actionType : UInt16) : Bool :=
  if actionType < amtActNoact then false
  else if amtActLastNonmsg.toNat + cfg.maxMsgActTypes < actionType.toNat then false
  else true

/-- `HS_EMTActionIsValid`. -/
def emtActionIsValid (cfg : Config) (actionType : UInt16) : Bool :=
  if actionType < emtActNoact then false
  else if emtActLastNonmsg.toNat + cfg.maxMsgActTypes < actionType.toNat then false
  else true

/-! ### Critical data -/

/-- What `HS_SetCDSData` puts into `HS_AppData.CDSData`. -/
def CDSData.of (resetsPerformed maxResets : UInt16) : CDSData where
  resetsPerformed := resetsPerformed
  resetsPerformedNot := ~~~resetsPerformed
  maxResets := maxResets
  maxResetsNot := ~~~maxResets

/-- `HS_SetCDSData`. -/
def setCDSData (resetsPerformed maxResets : UInt16) : HsM cfg Unit := do
  modifyApp fun d => { d with cdsData := .of resetsPerformed maxResets }
  let d ← appData
  if d.cdsState = .enabled then
    call (.copyToCDS d.cdsData)

/-! ### The two shared actions -/

/-- `CFE_ES_ResetCFE(CFE_PSP_RST_TYPE_PROCESSOR)`, which reboots unless it returns. -/
def resetCFE (returns : Bool) : HsM cfg Unit := do
  let d ← appData
  call (.resetCFE d.serviceWatchdogFlag)
  if returns = false then
    halt .reboot

/-- "Perform a reset if we can". -/
def procReset (returns : Bool) : HsM cfg Unit := do
  let d ← appData
  if d.cdsData.resetsPerformed < d.cdsData.maxResets then
    setCDSData (d.cdsData.resetsPerformed + 1) d.cdsData.maxResets
    call .taskDelay
    call .writeToSysLog
    modifyApp fun d => { d with serviceWatchdogFlag := .disabled }
    resetCFE returns
  else
    sendEvent .resetLimitErr .error []

/-- The `default` case of the action switches: a message action, asked for by a
monitor that reports it as `eid`. -/
def msgAction (reader : Reader) (eid : EventId) (args : List EvtArg) (msgActsIndex : UInt32) :
    HsM cfg Unit := do
  let d ← appData
  if h : msgActsIndex.toNat < cfg.maxMsgActTypes then
    let idx : Fin cfg.maxMsgActTypes := ⟨msgActsIndex.toNat, h⟩
    let asked (sent : Bool) := mark (.msgAct idx d.msgActsState (d.maTablePtr.map (· idx)) sent)
    if d.msgActsState = .enabled then
      if d.msgActCooldown idx = 0 then
        let row ← readMat reader idx
        if row.enableState ≠ matStateDisabled then
          asked true
          call (.transmitMsg idx row)
          modifyApp fun d => { d with
            msgActExec := d.msgActExec + 1
            msgActCooldown := Function.update d.msgActCooldown idx row.cooldown }
          if row.enableState ≠ matStateNoevent then
            sendEvent eid .error (args ++ [.num msgActsIndex.toNat])
        else asked false
      else asked false
    else asked false
  else
    mark (.msgAct msgActsIndex.toNat d.msgActsState none false)

/-! ### Application monitor -/

/-- The answers to the calls made for one row of the application monitor table:
`CFE_ES_GetAppIDByName`, `CFE_ES_GetAppInfo` (its execution counter),
`CFE_ES_RestartApp`, and whether `CFE_ES_ResetCFE` returns. -/
structure AppLookup where
  appIDByName : Reply UInt32
  appInfo : Reply UInt32
  restartApp : Status
  resetReturns : Bool

/-- The local variables `AppId` and `AppInfo.ExecutionCounter`, kept across rows. -/
structure AppMonVars where
  appId : UInt32
  executionCounter : UInt32

/-- Report that the application was not found: as an error event the first time
since the countdown was set, as a debug event the next times. -/
def appnameEvent (i : Fin cfg.maxMonitoredApps) (row : AMTEntry) : HsM cfg Unit := do
  let d ← appData
  if d.appMonCheckInCountdown i = row.cycleCount then
    sendEvent .appmonAppnameErr .error [.str row.appName]
  else
    sendEvent .appmonAppnameDbg .debug [.str row.appName]

/-- Look the application and its execution counter up. -/
def resolveApp (i : Fin cfg.maxMonitoredApps) (row : AMTEntry) (lk : AppLookup) (v : AppMonVars) :
    HsM cfg (Status × AppMonVars) := do
  call (.getAppIDByName row.appName)
  let appId := lk.appIDByName.value v.appId
  if lk.appIDByName.status = success then
    call (.getAppInfo appId)
    pure (lk.appInfo.status, ⟨appId, lk.appInfo.value v.executionCounter⟩)
  else
    appnameEvent i row
    pure (lk.appIDByName.status, ⟨appId, v.executionCounter⟩)

/-- The action switch of `HS_MonitorApplications`. -/
def appMonAction (i : Fin cfg.maxMonitoredApps) (row : AMTEntry) (lk : AppLookup) (status : Status)
    (appId : UInt32) : HsM cfg Unit := do
  mark (.amtAction i)
  if row.actionType = amtActProcReset then
    sendEvent .appmonProcErr .error [.str row.appName]
    procReset lk.resetReturns
  else if row.actionType = amtActAppRestart then
    sendEvent .appmonRestartErr .error [.str row.appName]
    if status = success then
      call (.restartApp appId)
      if lk.restartApp ≠ success then
        sendEvent .appmonNotRestartedErr .error [.str row.appName, .num lk.restartApp]
    else
      sendEvent .appmonNotRestartedErr .error [.str row.appName, .num status]
  else if row.actionType = amtActEvent then
    sendEvent .appmonFailErr .error [.str row.appName]
  else
    msgAction .monitorApplications .appmonMsgactsErr [.str row.appName]
      (row.actionType.toUInt32 - amtActLastNonmsg.toUInt32 - 1)

/-- `1 << (TableIndex % HS_BITS_PER_APPMON_ENABLE)` as a 32-bit word. -/
def enableBit (i : Nat) : BitVec 32 := 1#32 <<< (i % 32)

/-- Unset the enabled bit of a row. -/
def clearEnable (enables : Fin cfg.enableWords → BitVec 32) (i : Fin cfg.maxMonitoredApps) :
    Fin cfg.enableWords → BitVec 32 :=
  let w : Fin cfg.enableWords := ⟨i / 32, cfg.enableWord_lt i⟩
  Function.update enables w (enables w &&& ~~~(enableBit i))

/-- Set the enabled bit of a row. -/
def setEnable (enables : Fin cfg.enableWords → BitVec 32) (i : Fin cfg.maxMonitoredApps) :
    Fin cfg.enableWords → BitVec 32 :=
  let w : Fin cfg.enableWords := ⟨i / 32, cfg.enableWord_lt i⟩
  Function.update enables w (enables w ||| enableBit i)

/-- Set the countdown of a row that was looked up with this result: start it again if
the execution counter has changed, count down if not, and act when it gets to zero. -/
def countdownApp (i : Fin cfg.maxMonitoredApps) (row : AMTEntry) (lk : AppLookup)
    (status : Status) (v : AppMonVars) : HsM cfg Unit := do
  let d ← appData
  if status = success ∧ d.appMonLastExeCount i ≠ v.executionCounter then
    modifyApp fun d => { d with
      appMonCheckInCountdown := Function.update d.appMonCheckInCountdown i row.cycleCount
      appMonLastExeCount := Function.update d.appMonLastExeCount i v.executionCounter }
  else
    modifyApp fun d => { d with
      appMonCheckInCountdown :=
        Function.update d.appMonCheckInCountdown i (d.appMonCheckInCountdown i - 1) }
    let d ← appData
    Prog.when (d.appMonCheckInCountdown i = 0) do
      modifyApp fun d => { d with appMonEnables := clearEnable d.appMonEnables i }
      appMonAction i row lk status v.appId

/-- The body of the loop of `HS_MonitorApplications`. -/
def monitorApp (lks : Fin cfg.maxMonitoredApps → AppLookup) (v : AppMonVars)
    (i : Fin cfg.maxMonitoredApps) : HsM cfg AppMonVars := do
  let row ← readAmt .monitorApplications i
  let d ← appData
  if row.actionType ≠ amtActNoact ∧ d.appMonCheckInCountdown i ≠ 0 then
    let r ← resolveApp i row (lks i) v
    countdownApp i row (lks i) r.1 r.2
    pure r.2
  else
    pure v

/-- `HS_MonitorApplications`. -/
def monitorApplications (lks : Fin cfg.maxMonitoredApps → AppLookup) : HsM cfg Unit := do
  let _ ← Prog.fold (monitorApp lks) ⟨0, 0⟩ (List.finRange cfg.maxMonitoredApps)

/-! ### Event monitor -/

/-- The answers to the calls made for one row of the event monitor table. -/
structure EvtLookup where
  appIDByName : Reply UInt32
  restartApp : Status
  deleteApp : Status
  resetReturns : Bool

/-- Restart or delete an application whose name was looked up with this status. -/
def commandApp (row : EMTEntry) (status : Status) (appId : UInt32) (okEid errEid : EventId)
    (cmd : UInt32 → Call cfg) (cmdStatus : Status) : HsM cfg Unit := do
  if status = success then
    sendEvent okEid .error [.str row.appName, .num row.eventID.toNat]
    call (cmd appId)
    if cmdStatus ≠ success then
      sendEvent errEid .error [.str row.appName, .num cmdStatus]
  else
    sendEvent errEid .error [.str row.appName, .num status]

/-- Restart or delete the application of a row, if it is still there. -/
def appCommand (row : EMTEntry) (lk : EvtLookup) (appId : UInt32) (okEid errEid : EventId)
    (cmd : UInt32 → Call cfg) (cmdStatus : Status) : HsM cfg UInt32 := do
  call (.getAppIDByName row.appName)
  let appId := lk.appIDByName.value appId
  commandApp row lk.appIDByName.status appId okEid errEid cmd cmdStatus
  pure appId

/-- The action switch of `HS_MonitorEvent`; it hands the local `AppId` on. -/
def eventAction (i : Fin cfg.maxMonitoredEvents) (row : EMTEntry) (lk : EvtLookup)
    (appId : UInt32) : HsM cfg UInt32 := do
  mark (.emtAction i)
  if row.actionType = emtActProcReset then
    sendEvent .eventmonProcErr .error [.str row.appName, .num row.eventID.toNat]
    procReset lk.resetReturns
    pure appId
  else if row.actionType = emtActAppRestart then
    appCommand row lk appId .eventmonRestartErr .eventmonNotRestartedErr .restartApp lk.restartApp
  else if row.actionType = emtActAppDelete then
    appCommand row lk appId .eventmonDeleteErr .eventmonNotDeletedErr .deleteApp lk.deleteApp
  else
    msgAction .monitorEvent .eventmonMsgactsErr [.str row.appName, .num row.eventID.toNat]
      (row.actionType.toUInt32 - emtActLastNonmsg.toUInt32 - 1)
    pure appId

/-- The test of `HS_MonitorEvent` for one row. -/
def EMTEntry.Hit (cfg : Config) (row : EMTEntry) (ev : EvtMsg) : Prop :=
  row.actionType ≠ emtActNoact ∧ row.eventID = ev.eventID ∧
    strncmpEq cfg.osMaxApiName row.appName ev.appName = true

instance (cfg : Config) (row : EMTEntry) (ev : EvtMsg) : Decidable (row.Hit cfg ev) :=
  inferInstanceAs (Decidable (_ ∧ _ ∧ _))

/-- The body of the loop of `HS_MonitorEvent`. -/
def monitorEventRow (ev : EvtMsg) (lks : Fin cfg.maxMonitoredEvents → EvtLookup) (appId : UInt32)
    (i : Fin cfg.maxMonitoredEvents) : HsM cfg UInt32 := do
  let row ← readEmt .monitorEvent i
  if row.Hit cfg ev then
    eventAction i row (lks i) appId
  else
    pure appId

/-- `HS_MonitorEvent`. -/
def monitorEvent (ev : EvtMsg) (lks : Fin cfg.maxMonitoredEvents → EvtLookup) : HsM cfg Unit := do
  let _ ← Prog.fold (monitorEventRow ev lks) 0 (List.finRange cfg.maxMonitoredEvents)

/-! ### hs_sysmon.c -/

/-- The answers to the calls of `HS_SysMonInit`: whether the device was found and
its id, the status of starting it, and the two lookups. -/
structure SysMonIn where
  found : Bool
  moduleId : UInt32
  setRunning : Bool
  subsystem : Int
  subchannel : Int
  externalFail : {s : Status // s ≠ success}

/-- The id a lookup of `HS_SysMonInit` leaves: the answer as a `uint16`, 0 if it
failed. -/
def lookupId (statusCode : Int) : UInt16 :=
  if statusCode < 0 then 0 else UInt16.ofNat statusCode.toNat

/-- `HS_SysMonInit`. -/
def sysMonInit (r : SysMonIn) : HsM cfg Status := do
  if r.found = false then
    call .writeToSysLog
    pure success
  else
    modifyApp fun d => { d with sysMonPspModuleId := r.moduleId }
    call .writeToSysLog
    call .iodriver
    if r.setRunning = false then
      call .writeToSysLog
      pure r.externalFail.val
    else
      call .iodriver
      Prog.when (r.subsystem < 0) (call .writeToSysLog)
      modifyApp fun d => { d with sysMonSubsystemId := lookupId r.subsystem }
      call .iodriver
      Prog.when (r.subchannel < 0) (call .writeToSysLog)
      modifyApp fun d => { d with sysMonSubchannelId := lookupId r.subchannel }
      pure success

/-- The value of `((Sample >> 8) * HS_CPU_UTILIZATION_MAX) / 0xFFFF`.  The literal
is an `int` up to `2^31 - 1` and makes the product a 64-bit one above; the
result is stored in an `int32`. -/
def scaledSample (cfg : Config) (sample : Int) : Int :=
  let product := (sample >>> (8 : Nat)) * cfg.cpuUtilizationMax
  let product := if cfg.cpuUtilizationMax < 2 ^ 31 then product.bmod (2 ^ 32) else product
  (product.tdiv 0xFFFF).bmod (2 ^ 32)

/-- `HS_SysMonGetCpuUtilization`; `r` answers the read of the device. -/
def sysMonGetCpuUtilization (r : Reply Int) : HsM cfg Int := do
  let d ← appData
  if d.sysMonPspModuleId = 0 then
    pure (-1)
  else
    call .iodriver
    if r.status = success then
      pure (scaledSample cfg (r.value 0))
    else
      pure (-1)

/-! ### Utilization monitor -/

/-- Whether the loop of `HS_MonitorUtilization` adds a slot to `CombinedUtil`. -/
def averaged (cfg : Config) (this slot : UInt32) : Bool :=
  let average := UInt32.ofNat cfg.utilAverageNumInterval
  let peak := UInt32.ofNat cfg.utilPeakNumInterval
  if average ≤ this then
    decide (this - average < slot ∧ slot ≤ this)
  else
    decide (slot ≤ this ∨ peak - (average - this) < slot)

/-- The body of that loop: `PeakUtil` and `CombinedUtil`. -/
def utilStep (cfg : Config) (this : UInt32) (tracker : Fin cfg.utilPeakNumInterval → UInt32)
    (acc : UInt32 × UInt32) (i : Fin cfg.utilPeakNumInterval) : UInt32 × UInt32 :=
  (if acc.1 < tracker i then tracker i else acc.1,
    if averaged cfg this (UInt32.ofNat i) then acc.2 + tracker i else acc.2)

/-- Count the hogging intervals and report the `MaxCPUHoggingTime`-th one. -/
def checkHogging (util : Int) : HsM cfg Unit := do
  let d ← appData
  if (cfg.utilPerIntervalHogging : Int) ≤ util ∧ d.currentCPUHogState = .enabled then
    modifyApp fun d => { d with currentCPUHoggingTime := d.currentCPUHoggingTime + 1 }
    let d ← appData
    if d.currentCPUHoggingTime = d.maxCPUHoggingTime then
      sendEvent .cpumonHoggingErr .error []
      call .writeToSysLog
  else
    modifyApp fun d => { d with currentCPUHoggingTime := 0 }

/-- `HS_MonitorUtilization`. -/
def monitorUtilization (r : Reply Int) : HsM cfg Unit := do
  let d ← appData
  let this := d.currentCPUUtilIndex
  modifyApp fun d => { d with currentCPUUtilIndex := d.currentCPUUtilIndex + 1 }
  let d ← appData
  Prog.when (cfg.utilPeakNumInterval ≤ d.currentCPUUtilIndex.toNat)
    (modifyApp fun d => { d with currentCPUUtilIndex := 0 })
  let sample ← sysMonGetCpuUtilization r
  if sample < 0 then
    modifyApp fun d => { d with utilCpuAvg := 0xFFFFFFFF, utilCpuPeak := 0xFFFFFFFF }
  else
    let util : Int := if (cfg.cpuUtilizationMax : Int) < sample then cfg.cpuUtilizationMax else sample
    checkHogging util
    if h : this.toNat < cfg.utilPeakNumInterval then
      modifyApp fun d => { d with
        utilizationTracker :=
          Function.update d.utilizationTracker ⟨this.toNat, h⟩ (UInt32.ofNat util.toNat) }
      let d ← appData
      let acc := (List.finRange cfg.utilPeakNumInterval).foldl
        (utilStep cfg this d.utilizationTracker) (0, 0)
      modifyApp fun d => { d with
        utilCpuAvg := acc.2 / UInt32.ofNat cfg.utilAverageNumInterval
        utilCpuPeak := acc.1 }
    else
      halt .outOfBounds

/-! ### Table validation -/

/-- How a validator counts an entry. -/
inductive EntryClass
  | unused
  | good
  | bad (err : Int)
  deriving DecidableEq

/-- The accumulators of a validator. -/
structure ValCounts where
  result : Int
  good : Nat
  bad : Nat
  unused : Nat

/-- The loop body the four validators share: count the entry, and report the
first bad one. -/
def validateEntry {n : Nat} (classify : Fin n → EntryClass) (errEid : EventId)
    (errArgs : Fin n → List EvtArg) (acc : ValCounts) (i : Fin n) : HsM cfg ValCounts :=
  match classify i with
  | .unused => pure { acc with unused := acc.unused + 1 }
  | .good => pure { acc with good := acc.good + 1 }
  | .bad err =>
    let acc := { acc with bad := acc.bad + 1 }
    if acc.result = success then do
      sendEvent errEid .error (.num i.val :: .num err :: errArgs i)
      pure { acc with result := err }
    else
      pure acc

/-- A validator: refuse a null table, else walk it and report the totals. -/
def validateTable {n : Nat} {α : Type} (nullEid errEid infEid : EventId)
    (classify : α → EntryClass) (errArgs : α → List EvtArg) (tableData : Option (Fin n → α)) :
    HsM cfg Int :=
  match tableData with
  | none => do
    sendEvent nullEid .error []
    pure (-1)
  | some t => do
    let acc ← Prog.fold (validateEntry (fun i => classify (t i)) errEid (fun i => errArgs (t i)))
      ⟨success, 0, 0, 0⟩ (List.finRange n)
    sendEvent infEid .information [.num acc.good, .num acc.bad, .num acc.unused]
    pure acc.result

/-- The checks of `HS_ValidateAMTable` (`HS_AMTVAL_ERR_NUL` is `-2`,
`HS_AMTVAL_ERR_ACT` is `-1`). -/
def amtClass (cfg : Config) (row : AMTEntry) : EntryClass :=
  if row.cycleCount = 0 ∨ row.actionType = amtActNoact then .unused
  else if row.nullTerm ≠ 0 then .bad (-2)
  else if amtActionIsValid cfg row.actionType = false then .bad (-1)
  else .good

/-- `HS_ValidateAMTable`. -/
def validateAMTable (tableData : Option (AMT cfg)) : HsM cfg Int :=
  validateTable .amTblNullErr .amtvalErr .amtvalInf (amtClass cfg)
    (fun row => [.num row.actionType.toNat, .str (badName cfg row.appName)]) tableData

/-- The checks of `HS_ValidateEMTable` (`HS_EMTVAL_ERR_NUL`, `HS_EMTVAL_ERR_ACT`). -/
def emtClass (cfg : Config) (row : EMTEntry) : EntryClass :=
  if row.eventID = 0 ∨ row.actionType = emtActNoact then .unused
  else if row.nullTerm ≠ 0 then .bad (-2)
  else if emtActionIsValid cfg row.actionType = false then .bad (-1)
  else .good

/-- `HS_ValidateEMTable`. -/
def validateEMTable (tableData : Option (EMT cfg)) : HsM cfg Int :=
  validateTable .emTblNullErr .emtvalErr .emtvalInf (emtClass cfg)
    (fun row => [.num row.actionType.toNat, .num row.eventID.toNat,
      .str (badName cfg row.appName)]) tableData

/-- The checks of `HS_ValidateXCTable` (`HS_XCTVAL_ERR_NUL`, `HS_XCTVAL_ERR_TYPE`).
The local `ResourceType` is a `uint16`, the field a `uint32`. -/
def xctClass (row : XCTEntry) : EntryClass :=
  let resourceType : UInt16 := row.resourceType.toUInt16
  if resourceType.toUInt32 = xctTypeNotype then .unused
  else if row.nullTerm ≠ 0 then .bad (-2)
  else if resourceType.toUInt32 ≠ xctTypeAppMain ∧ resourceType.toUInt32 ≠ xctTypeAppChild ∧
      resourceType.toUInt32 ≠ xctTypeDevice ∧ resourceType.toUInt32 ≠ xctTypeIsr then .bad (-1)
  else .good

/-- `HS_ValidateXCTable`. -/
def validateXCTable (tableData : Option (XCT cfg)) : HsM cfg Int :=
  validateTable .xcTblNullErr .xctvalErr .xctvalInf xctClass
    (fun row => [.num row.resourceType.toUInt16.toNat, .str (badName cfg row.resourceName)])
    tableData

/-- The checks of `HS_ValidateMATable` (`HS_MATVAL_ERR_ENA` is `-3`, `HS_MATVAL_ERR_ID`
is `-1`, `HS_MATVAL_ERR_LEN` is `-2`). -/
def matClass (cfg : Config) (row : MATEntry) : EntryClass :=
  if row.enableState = matStateDisabled then .unused
  else if row.enableState ≠ matStateEnabled ∧ row.enableState ≠ matStateNoevent then .bad (-3)
  else if cfg.isValidMsgId row.msgBuf.msgId = false then .bad (-1)
  else if cfg.sbMaxMsgSize < row.msgBuf.size then .bad (-2)
  else .good

/-- `HS_ValidateMATable`. -/
def validateMATable (tableData : Option (MAT cfg)) : HsM cfg Int :=
  validateTable .maTblNullErr .matvalErr .matvalInf (matClass cfg)
    (fun row => [.num row.msgBuf.size, .num row.msgBuf.msgId.toNat]) tableData

end HealthSafety
