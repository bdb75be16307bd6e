import HealthSafety.Lib.Prog
import HealthSafety.Model.Tables
import Mathlib.Logic.Function.Basic

/-!
# The state of HS and the calls it makes

`AppData` is the global `HS_AppData` of `hs_app.h`.  The functions of HS are
programs on it (`HsM`): their log is the list of calls (`Call`) in the order they are
made, with a few marks between them that say where in the source a call stands.
A program stops early in three ways (`Stop`): `CFE_ES_ResetCFE` reboots the
processor, a table is read through a missing address, or an array is indexed out
of bounds.

The log leaves out the calls that only fetch, describe or stamp a message
(`CFE_SB_ReceiveBuffer`, `CFE_MSG_Init`, `CFE_MSG_GetMsgId`, `CFE_MSG_GetFcnCode`,
`CFE_MSG_GetSize`, `CFE_SB_TimeStampMsg`), the performance log (`CFE_ES_PerfLogEntry`,
`CFE_ES_PerfLogExit`), the frame of the main loop (`CFE_ES_RunLoop`, `CFE_ES_ExitApp` and the
`OS_TaskDelay` at the top of a turn), `CFE_PSP_IODriver_FindByName` and the conversions of
message ids, pointers and strings.  What they answer comes in with the arguments.

The marks change nothing and exist for the statements only.  The call to
`CFE_ES_ResetCFE` carries `HS_AppData.ServiceWatchdogFlag` as it stands when the
call is made.
-/

namespace HealthSafety

/-! ### Events -/

/-- The event ids of `hs_eventids.h`. -/
inductive EventId
  | initInf | appExit | cdsRestoreErr | crPipeErr | crEventPipeErr | crWakeupPipeErr
  | subLongEvsErr | subReqErr | subCmdErr | amtRegErr | emtRegErr | xctRegErr | matRegErr
  | amtLdErr | emtLdErr | xctLdErr | matLdErr | cdsCorruptErr | ccErr | midErr | hkreqLenErr
  | cmdLenErr | noopInf | resetInf | enableAppmonDbg | disableAppmonDbg | enableEventmonDbg
  | disableEventmonDbg | enableAlivenessDbg | disableAlivenessDbg | resetResetsDbg
  | setMaxResetsDbg | appmonGetaddrErr | eventmonGetaddrErr | execountGetaddrErr
  | msgactsGetaddrErr | resetLimitErr | appmonAppnameErr | appmonRestartErr
  | appmonNotRestartedErr | appmonFailErr | appmonProcErr | appmonMsgactsErr
  | eventmonMsgactsErr | eventmonProcErr | eventmonRestartErr | eventmonNotRestartedErr
  | eventmonDeleteErr | eventmonNotDeletedErr | amtvalInf | amtvalErr | emtvalInf | emtvalErr
  | xctvalInf | xctvalErr | matvalInf | matvalErr | disableAppmonErr | disableEventmonErr
  | subWakeupErr | cpumonHoggingErr | enableCpuhogDbg | disableCpuhogDbg | eventmonLongSub
  | eventmonShortSub | eventmonLongUnsub | eventmonShortUnsub | badEmtLongUnsub
  | badEmtShortUnsub | appmonAppnameDbg | hkreqResourceDbg | sysmonInitErr | amTblNullErr
  | emTblNullErr | xcTblNullErr | maTblNullErr | subShortEvsErr
  deriving DecidableEq, Repr

/-- The numbers the macros stand for. -/
def EventId.code : EventId → UInt16
  | initInf => 1 | appExit => 2 | cdsRestoreErr => 3 | crPipeErr => 4 | crEventPipeErr => 5
  | crWakeupPipeErr => 6 | subLongEvsErr => 7 | subReqErr => 8 | subCmdErr => 9 | amtRegErr => 10
  | emtRegErr => 11 | xctRegErr => 12 | matRegErr => 13 | amtLdErr => 14 | emtLdErr => 15
  | xctLdErr => 16 | matLdErr => 17 | cdsCorruptErr => 18 | ccErr => 19 | midErr => 20
  | hkreqLenErr => 21 | cmdLenErr => 22 | noopInf => 23 | resetInf => 24 | enableAppmonDbg => 25
  | disableAppmonDbg => 26 | enableEventmonDbg => 27 | disableEventmonDbg => 28
  | enableAlivenessDbg => 29 | disableAlivenessDbg => 30 | resetResetsDbg => 31
  | setMaxResetsDbg => 32 | appmonGetaddrErr => 33 | eventmonGetaddrErr => 34
  | execountGetaddrErr => 35 | msgactsGetaddrErr => 36 | resetLimitErr => 37
  | appmonAppnameErr => 38 | appmonRestartErr => 39 | appmonNotRestartedErr => 40
  | appmonFailErr => 41 | appmonProcErr => 42 | appmonMsgactsErr => 43 | eventmonMsgactsErr => 44
  | eventmonProcErr => 45 | eventmonRestartErr => 46 | eventmonNotRestartedErr => 47
  | eventmonDeleteErr => 48 | eventmonNotDeletedErr => 49 | amtvalInf => 50 | amtvalErr => 51
  | emtvalInf => 52 | emtvalErr => 53 | xctvalInf => 54 | xctvalErr => 55 | matvalInf => 56
  | matvalErr => 57 | disableAppmonErr => 58 | disableEventmonErr => 59 | subWakeupErr => 60
  | cpumonHoggingErr => 61 | enableCpuhogDbg => 64 | disableCpuhogDbg => 65
  | eventmonLongSub => 66 | eventmonShortSub => 67 | eventmonLongUnsub => 68
  | eventmonShortUnsub => 69 | badEmtLongUnsub => 70 | badEmtShortUnsub => 71
  | appmonAppnameDbg => 72 | hkreqResourceDbg => 73 | sysmonInitErr => 74 | amTblNullErr => 75
  | emTblNullErr => 76 | xcTblNullErr => 77 | maTblNullErr => 78 | subShortEvsErr => 79

inductive EventType
  | debug
  | information
  | error
  | critical
  deriving DecidableEq, Repr

/-- A value substituted into the text of an event. -/
inductive EvtArg
  | str (name : Name)
  | num (n : Int)
  deriving DecidableEq

/-! ### Data -/

/-- `HS_CDSData_t`. -/
structure CDSData where
  resetsPerformed : UInt16
  resetsPerformedNot : UInt16
  maxResets : UInt16
  maxResetsNot : UInt16
  deriving DecidableEq

/-- `HS_HkTlm_Payload_t`. -/
structure HkTlmPayload (cfg : Config) where
  cmdCount : UInt8
  cmdErrCount : UInt8
  currentAppMonState : SwitchState
  currentEventMonState : SwitchState
  currentAlivenessState : SwitchState
  currentCPUHogState : SwitchState
  statusFlags : UInt8
  resetsPerformed : UInt16
  maxResets : UInt16
  eventsMonitoredCount : UInt32
  invalidEventMonCount : UInt32
  appMonEnables : Fin cfg.enableWords → BitVec 32
  msgActExec : UInt32
  utilCpuAvg : UInt32
  utilCpuPeak : UInt32
  exeCounts : Fin cfg.maxExecCntSlots → UInt32

/-- `HS_AppData_t`, less the pipe, table and CDS handles, the run status and the
spare bytes.  The table pointers hold the table they point to. -/
structure AppData (cfg : Config) where
  serviceWatchdogFlag : SwitchState
  currentAppMonState : SwitchState
  currentEventMonState : SwitchState
  currentAlivenessState : SwitchState
  exeCountState : SwitchState
  msgActsState : SwitchState
  cdsState : SwitchState
  appMonLoaded : SwitchState
  eventMonLoaded : SwitchState
  currentCPUHogState : SwitchState
  cmdCount : UInt8
  cmdErrCount : UInt8
  eventsMonitoredCount : UInt32
  msgActCooldown : Fin cfg.maxMsgActTypes → UInt16
  appMonCheckInCountdown : Fin cfg.maxMonitoredApps → UInt16
  appMonEnables : Fin cfg.enableWords → BitVec 32
  appMonLastExeCount : Fin cfg.maxMonitoredApps → UInt32
  alivenessCounter : UInt32
  msgActExec : UInt32
  sysMonPspModuleId : UInt32
  sysMonSubsystemId : UInt16
  sysMonSubchannelId : UInt16
  utilizationCycleCounter : UInt32
  currentCPUHoggingTime : UInt32
  maxCPUHoggingTime : UInt32
  currentCPUUtilIndex : UInt32
  utilizationTracker : Fin cfg.utilPeakNumInterval → UInt32
  utilCpuAvg : UInt32
  utilCpuPeak : UInt32
  xcTablePtr : Option (XCT cfg)
  amTablePtr : Option (AMT cfg)
  emTablePtr : Option (EMT cfg)
  maTablePtr : Option (MAT cfg)
  cdsData : CDSData
  hkPacket : HkTlmPayload cfg

/-! ### Calls, marks and stops -/

inductive Pipe
  | cmd
  | event
  | wakeup
  deriving DecidableEq, Repr

/-- The two message ids of the event services: `CFE_EVS_LONG_EVENT_MSG_MID` and
`CFE_EVS_SHORT_EVENT_MSG_MID`. -/
inductive EvsMid
  | long
  | short
  deriving DecidableEq, Repr

/-- The other message ids HS subscribes to. -/
inductive HsMid
  | sendHk
  | cmd
  | wakeup
  deriving DecidableEq, Repr

/-- The calls HS makes, as far as the log has them. -/
inductive Call (cfg : Config)
  | sendEvent (eid : EventId) (type : EventType) (args : List EvtArg)
  | evsRegister
  | registerCDS
  | restoreFromCDS
  | copyToCDS (data : CDSData)
  | resetCFE (watchdogFlag : SwitchState)
  | taskDelay
  | writeToSysLog
  | waitForStartupSync
  | createPipe (pipe : Pipe)
  | subscribe (mid : HsMid)
  | subscribeEx (mid : EvsMid) (status : Status)
  | unsubscribe (mid : EvsMid) (status : Status)
  | tblRegister (tbl : TableId)
  | tblLoad (tbl : TableId)
  | releaseAddress (tbl : TableId)
  | manage (tbl : TableId)
  | getAddress (tbl : TableId) (status : Status)
  | getAppIDByName (name : Name)
  | getAppInfo (appId : UInt32)
  | restartApp (appId : UInt32)
  | deleteApp (appId : UInt32)
  | getTaskIDByName (name : Name)
  | getTaskInfo (taskId : UInt32)
  | getGenCounterIDByName (name : Name)
  | getGenCount (counterId : UInt32)
  | transmitMsg (idx : Fin cfg.maxMsgActTypes) (row : MATEntry)
  | transmitHk (payload : HkTlmPayload cfg)
  | iodriver
  | watchdogSet
  | watchdogService
  | watchdogEnable
  | printf

/-- The commands of HS. -/
inductive Handler
  | sendHk | noop | reset | enableAppMon | disableAppMon | enableEventMon | disableEventMon
  | enableAliveness | disableAliveness | resetResetsPerformed | setMaxResets | enableCpuHog
  | disableCpuHog
  deriving DecidableEq, Repr

/-- The functions that read table rows. -/
inductive Reader
  | monitorApplications
  | monitorEvent
  | appMonStatusRefresh
  | sendHkCmd
  deriving DecidableEq, Repr

/-- A row of a table, with its index. -/
inductive TableRow (cfg : Config)
  | amt (i : Fin cfg.maxMonitoredApps) (row : AMTEntry)
  | emt (i : Fin cfg.maxMonitoredEvents) (row : EMTEntry)
  | mat (i : Fin cfg.maxMsgActTypes) (row : MATEntry)
  | xct (i : Fin cfg.maxExecCntSlots) (row : XCTEntry)

/-- Places in the source. -/
inductive Mark (cfg : Config)
  /-- `HS_AppInit` clears `HS_AppData`. -/
  | boot
  /-- `HS_ProcessMain` counts the cooldowns down. -/
  | tick
  /-- A function reads a table row. -/
  | rowRead (reader : Reader) (row : TableRow cfg)
  /-- A function reads a row of a table that is not there. -/
  | nullRead (tbl : TableId) (reader : Reader)
  /-- `HS_MonitorApplications` enters the action switch of a row. -/
  | amtAction (i : Fin cfg.maxMonitoredApps)
  /-- `HS_MonitorEvent` enters the action switch of a row. -/
  | emtAction (i : Fin cfg.maxMonitoredEvents)
  /-- A message action is asked for: the state of the table and its row, and whether the
  message is sent. -/
  | msgAct (idx : Nat) (state : SwitchState) (row : Option MATEntry) (sent : Bool)
  /-- A command handler starts. -/
  | handler (h : Handler)

inductive Label (cfg : Config)
  | call (c : Call cfg)
  | mark (m : Mark cfg)

inductive Stop
  /-- `CFE_ES_ResetCFE` did not return. -/
  | reboot
  /-- A row was read through a missing table address. -/
  | nullRead (tbl : TableId) (reader : Reader)
  /-- `UtilizationTracker` was indexed out of bounds. -/
  | outOfBounds
  deriving DecidableEq, Repr

/-! ### Programs -/

open Lib

abbrev HsM (cfg : Config) := Prog (AppData cfg) (Label cfg) Stop

section

variable {cfg : Config}

/-- Read `HS_AppData`. -/
abbrev appData : HsM cfg (AppData cfg) := Prog.get

/-- Write `HS_AppData`. -/
abbrev modifyApp (f : AppData cfg → AppData cfg) : HsM cfg Unit := Prog.modify f

abbrev call (c : Call cfg) : HsM cfg Unit := Prog.emit (.call c)

abbrev mark (m : Mark cfg) : HsM cfg Unit := Prog.emit (.mark m)

abbrev halt {α : Type} (e : Stop) : HsM cfg α := Prog.stop e

/-- `CFE_EVS_SendEvent`. -/
abbrev sendEvent (eid : EventId) (type : EventType) (args : List EvtArg) : HsM cfg Unit :=
  call (.sendEvent eid type args)

/-- Follow a table pointer. -/
def deref {α : Type} (tbl : TableId) (reader : Reader) : Option α → HsM cfg α
  | some t => pure t
  | none => do
    mark (.nullRead tbl reader)
    halt (.nullRead tbl reader)

/-- `HS_AppData.AMTablePtr[i]`. -/
def readAmt (reader : Reader) (i : Fin cfg.maxMonitoredApps) : HsM cfg AMTEntry := do
  let d ← appData
  let amt ← deref .amt reader d.amTablePtr
  mark (.rowRead reader (.amt i (amt i)))
  pure (amt i)

/-- `HS_AppData.EMTablePtr[i]`. -/
def readEmt (reader : Reader) (i : Fin cfg.maxMonitoredEvents) : HsM cfg EMTEntry := do
  let d ← appData
  let emt ← deref .emt reader d.emTablePtr
  mark (.rowRead reader (.emt i (emt i)))
  pure (emt i)

/-- `HS_AppData.MATablePtr[i]`. -/
def readMat (reader : Reader) (i : Fin cfg.maxMsgActTypes) : HsM cfg MATEntry := do
  let d ← appData
  let mat ← deref .mat reader d.maTablePtr
  mark (.rowRead reader (.mat i (mat i)))
  pure (mat i)

/-- `HS_AppData.XCTablePtr[i]`. -/
def readXct (reader : Reader) (i : Fin cfg.maxExecCntSlots) : HsM cfg XCTEntry := do
  let d ← appData
  let xct ← deref .xct reader d.xcTablePtr
  mark (.rowRead reader (.xct i (xct i)))
  pure (xct i)

@[simp] theorem deref_some {α : Type} (tbl : TableId) (reader : Reader) (t : α) :
    (deref tbl reader (some t) : HsM cfg α) = pure t := rfl

@[simp] theorem deref_none {α : Type} (tbl : TableId) (reader : Reader) :
    (deref tbl reader (none : Option α) : HsM cfg α) =
      mark (.nullRead tbl reader) >>= fun _ => halt (.nullRead tbl reader) := rfl

end

end HealthSafety
