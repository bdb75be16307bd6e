import HealthSafety.Model.Dispatch

/-!
# Initialization and the main loop

`hs_app.c`: `HS_AppInit` with its two helpers, the part of `HS_AppMain` before
the main loop, and one pass of the loop, `HS_ProcessMain`.

The answers of the environment come in as arguments.  A pass is given the list
of messages that `CFE_SB_ReceiveBuffer` returns from each pipe before it fails;
a message is `none` where the call succeeds and leaves a null buffer.
-/

namespace HealthSafety

open Lib

variable {cfg : Config}

/-! ### Initial data -/

def HkTlmPayload.zero (cfg : Config) : HkTlmPayload cfg where
  cmdCount := 0
  cmdErrCount := 0
  currentAppMonState := .disabled
  currentEventMonState := .disabled
  currentAlivenessState := .disabled
  currentCPUHogState := .disabled
  statusFlags := 0
  resetsPerformed := 0
  maxResets := 0
  eventsMonitoredCount := 0
  invalidEventMonCount := 0
  appMonEnables := fun _ => 0
  msgActExec := 0
  utilCpuAvg := 0
  utilCpuPeak := 0
  exeCounts := fun _ => 0

/-- `HS_AppData` after the assignments at the start of `HS_AppInit`. -/
def initialData (cfg : Config) : AppData cfg where
  serviceWatchdogFlag := .enabled
  currentAppMonState := cfg.appMonDefaultState
  currentEventMonState := cfg.eventMonDefaultState
  currentAlivenessState := cfg.alivenessDefaultState
  exeCountState := .enabled
  msgActsState := .enabled
  cdsState := .enabled
  appMonLoaded := .enabled
  eventMonLoaded := .enabled
  currentCPUHogState := cfg.cpuHogDefaultState
  cmdCount := 0
  cmdErrCount := 0
  eventsMonitoredCount := 0
  msgActCooldown := fun _ => 0
  appMonCheckInCountdown := fun _ => 0
  appMonEnables := fun _ => 0
  appMonLastExeCount := fun _ => 0
  alivenessCounter := 0
  msgActExec := 0
  sysMonPspModuleId := 0
  sysMonSubsystemId := 0
  sysMonSubchannelId := 0
  utilizationCycleCounter := 0
  currentCPUHoggingTime := 0
  maxCPUHoggingTime := UInt32.ofNat cfg.utilHoggingTimeout
  currentCPUUtilIndex := 0
  utilizationTracker := fun _ => 0
  utilCpuAvg := 0
  utilCpuPeak := 0
  xcTablePtr := none
  amTablePtr := none
  emTablePtr := none
  maTablePtr := none
  cdsData := ⟨0, 0, 0, 0⟩
  hkPacket := .zero cfg

/-! ### Initialization -/

/-- The statuses of the calls of `HS_SbInit`. -/
structure SbIn where
  cmdPipe : Status
  eventPipe : Status
  wakeupPipe : Status
  subSendHk : Status
  subCmd : Status
  subWakeup : Status

/-- The answers to the calls of `HS_TblInit`. -/
structure TblIn (cfg : Config) where
  register : TableId → Status
  load : TableId → Status
  acquire : AcquireIn cfg

/-- The answers to the calls of `HS_AppInit`. -/
structure InitIn (cfg : Config) where
  evsRegister : Status
  registerCDS : Status
  restoreFromCDS : Reply CDSData
  sb : SbIn
  tbl : TblIn cfg
  sysMon : SysMonIn

/-- Make a call; when it fails, report its status and return it. -/
def attempt (c : Call cfg) (status : Status) (eid : EventId) (rest : HsM cfg Status) :
    HsM cfg Status := do
  call c
  if status ≠ success then
    sendEvent eid .error [.num status]
    pure status
  else
    rest

/-- `HS_SbInit`. -/
def sbInit (s : SbIn) : HsM cfg Status := do
  modifyHk fun _ => .zero cfg
  attempt (.createPipe .cmd) s.cmdPipe .crPipeErr <|
    attempt (.createPipe .event) s.eventPipe .crEventPipeErr <|
    attempt (.createPipe .wakeup) s.wakeupPipe .crWakeupPipeErr <|
    attempt (.subscribe .sendHk) s.subSendHk .subReqErr <|
    attempt (.subscribe .cmd) s.subCmd .subCmdErr <|
    attempt (.subscribe .wakeup) s.subWakeup .subWakeupErr <|
    pure success

/-- Load a table from its file; `disable` says what to do without it. -/
def loadTable (tbl : TableId) (status : Status) (eid : EventId) (disable : HsM cfg Unit) :
    HsM cfg Unit := do
  call (.tblLoad tbl)
  Prog.when (status ≠ success) do
    sendEvent eid .error [.num status]
    disable

/-- The four loads of `HS_TblInit`. -/
def loadTables (load : TableId → Status) : HsM cfg Unit := do
  loadTable .xct (load .xct) .xctLdErr do
    modifyApp fun d => { d with
      exeCountState := .disabled
      hkPacket := { d.hkPacket with exeCounts := fun _ => invalidExecount } }
  loadTable .amt (load .amt) .amtLdErr do
    modifyApp fun d => { d with currentAppMonState := .disabled }
    sendEvent .disableAppmonErr .error []
    modifyApp fun d => { d with appMonLoaded := .disabled }
  loadTable .emt (load .emt) .emtLdErr do
    modifyApp fun d => { d with currentEventMonState := .disabled }
    sendEvent .disableEventmonErr .error []
    modifyApp fun d => { d with eventMonLoaded := .disabled }
  loadTable .mat (load .mat) .matLdErr do
    modifyApp fun d => { d with msgActsState := .disabled }

/-- `HS_TblInit`. -/
def tblInit (t : TblIn cfg) : HsM cfg Status :=
  attempt (.tblRegister .amt) (t.register .amt) .amtRegErr <|
    attempt (.tblRegister .emt) (t.register .emt) .emtRegErr <|
    attempt (.tblRegister .mat) (t.register .mat) .matRegErr <|
    attempt (.tblRegister .xct) (t.register .xct) .xctRegErr do
      loadTables t.load
      acquirePointers t.acquire
      pure success

/-- The test of `HS_AppInit` for a corrupt image. -/
def CDSData.corrupt (c : CDSData) : Prop :=
  c.resetsPerformed ≠ ~~~c.resetsPerformedNot ∨ c.maxResets ≠ ~~~c.maxResetsNot

instance (c : CDSData) : Decidable c.corrupt := inferInstanceAs (Decidable (_ ∨ _))

/-- `HS_SetCDSData(0, HS_MAX_RESTART_ACTIONS)`. -/
def initializeCDS : HsM cfg Unit := setCDSData 0 (UInt16.ofNat cfg.maxRestartActions)

/-- The critical data store section of `HS_AppInit`. -/
def cdsInit (registerCDS : Status) (restoreFromCDS : Reply CDSData) : HsM cfg Unit := do
  call .registerCDS
  if registerCDS = cfg.cdsAlreadyExists then
    call .restoreFromCDS
    modifyApp fun d => { d with cdsData := restoreFromCDS.value d.cdsData }
    if restoreFromCDS.status = success then
      let d ← appData
      Prog.when d.cdsData.corrupt do
        sendEvent .cdsCorruptErr .error []
        initializeCDS
    else
      sendEvent .cdsRestoreErr .error [.num restoreFromCDS.status]
      initializeCDS
  else if registerCDS = success then
    initializeCDS
  else
    modifyApp fun d => { d with cdsState := .disabled }
    initializeCDS

/-- The rest of `HS_AppInit`: the bus, the tables and the system monitor. -/
def interfaceInit (i : InitIn cfg) : HsM cfg Status := do
  let status ← sbInit i.sb
  if status ≠ success then
    pure status
  else
    let status ← tblInit i.tbl
    if status ≠ success then
      pure status
    else
      let status ← sysMonInit i.sysMon
      if status ≠ success then
        sendEvent .sysmonInitErr .error [.num status]
        pure status
      else
        sendEvent .initInf .information [.num 2, .num 4, .num 99, .num 0]
        pure status

/-- `HS_AppInit`. -/
def appInit (i : InitIn cfg) : HsM cfg Status := do
  mark .boot
  modifyApp fun _ => initialData cfg
  call .evsRegister
  if i.evsRegister ≠ success then
    call .writeToSysLog
    pure i.evsRegister
  else
    cdsInit i.registerCDS i.restoreFromCDS
    interfaceInit i

/-! ### Startup -/

/-- `CFE_ES_RunStatus_APP_RUN` and `CFE_ES_RunStatus_APP_ERROR`. -/
inductive RunStatus
  | appRun
  | appError
  deriving DecidableEq, Repr

/-- The statuses of the two event subscriptions of `HS_AppMain`. -/
structure StartIn where
  subLong : Status
  subShort : Status

/-- The event subscriptions of `HS_AppMain`, with `Status` and `RunStatus` after
them. -/
def subscribeEvents (s : StartIn) : HsM cfg (Status × RunStatus) := do
  call (.subscribeEx .long s.subLong)
  if s.subLong ≠ success then
    sendEvent .subLongEvsErr .error [.num s.subLong]
    pure (s.subLong, .appError)
  else
    call (.subscribeEx .short s.subShort)
    if s.subShort ≠ success then
      sendEvent .subShortEvsErr .error [.num s.subShort]
      pure (s.subShort, .appError)
    else
      pure (success, .appRun)

/-- `HS_AppMain` between a successful `HS_AppInit` and the main loop. -/
def startup (s : StartIn) : HsM cfg (Status × RunStatus) := do
  call .waitForStartupSync
  call .watchdogSet
  call .watchdogService
  call .watchdogEnable
  call .watchdogService
  let d ← appData
  if d.currentEventMonState = .enabled then
    subscribeEvents s
  else
    pure (success, .appRun)

/-! ### The main loop -/

/-- The answers to the calls of one `HS_ProcessMain`. -/
structure CycleIn (cfg : Config) where
  acquire : AcquireIn cfg
  utilization : Reply Int
  apps : Fin cfg.maxMonitoredApps → AppLookup
  events : List (Option EvtMsg × (Fin cfg.maxMonitoredEvents → EvtLookup))
  eventsEnd : {s : Status // s ≠ success}
  cmds : List (Option CmdMsg × CmdReplies cfg)
  cmdsEnd : {s : Status // s ≠ success}

/-- Decrement the cooldowns of the message actions. -/
def decrementCooldowns : HsM cfg Unit := do
  mark .tick
  modifyApp fun d => { d with
    msgActCooldown := fun i => if d.msgActCooldown i ≠ 0 then d.msgActCooldown i - 1 else 0 }

/-- The utilization monitor runs once in `HS_CPU_UTILIZATION_CYCLES_PER_INTERVAL`
cycles. -/
def checkUtilization (r : Reply Int) : HsM cfg Unit := do
  let d ← appData
  Prog.when (d.utilizationCycleCounter = 0) do
    monitorUtilization r
    modifyApp fun d => { d with utilizationCycleCounter := cfg.cpuUtilizationCyclesPerInterval }
  modifyApp fun d => { d with utilizationCycleCounter := d.utilizationCycleCounter - 1 }

/-- The application monitor runs if it is enabled. -/
def checkApplications (lks : Fin cfg.maxMonitoredApps → AppLookup) : HsM cfg Unit := do
  let d ← appData
  Prog.when (d.currentAppMonState = .enabled) (monitorApplications lks)

/-- Output aliveness. -/
def outputAliveness : HsM cfg Unit := do
  let d ← appData
  Prog.when (d.currentAlivenessState = .enabled) do
    modifyApp fun d => { d with alivenessCounter := d.alivenessCounter + 1 }
    let d ← appData
    Prog.when (cfg.cpuAlivePeriod ≤ d.alivenessCounter.toNat) do
      call .printf
      modifyApp fun d => { d with alivenessCounter := 0 }

/-- Pass one event to the event monitor. -/
def receiveEvent (ev : EvtMsg) (lks : Fin cfg.maxMonitoredEvents → EvtLookup) : HsM cfg Unit := do
  modifyApp fun d => { d with eventsMonitoredCount := d.eventsMonitoredCount + 1 }
  monitorEvent ev lks

/-- The event loop of `HS_ProcessCommands`, with the status it leaves. -/
def drainEvents (c : CycleIn cfg) : HsM cfg Status := do
  let d ← appData
  if d.currentEventMonState = .enabled then
    Prog.each c.events fun e =>
      match e.1 with
      | some ev => receiveEvent ev e.2
      | none => pure ()
    pure c.eventsEnd.val
  else
    pure success

/-- The command loop of `HS_ProcessCommands`, with the status it leaves. -/
def drainCommands (c : CycleIn cfg) : HsM cfg Status := do
  Prog.each c.cmds fun m =>
    match m.1 with
    | some msg => appPipe msg m.2
    | none => pure ()
  pure c.cmdsEnd.val

/-- It is good to not get a message. -/
def ignoreNoMessage (cfg : Config) (status : Status) : Status :=
  if status = cfg.sbNoMessage then success else status

/-- `HS_ProcessCommands`. -/
def processCommands (c : CycleIn cfg) : HsM cfg Status := do
  let status ← drainEvents c
  if ignoreNoMessage cfg status = success then
    let status ← drainCommands c
    pure (ignoreNoMessage cfg status)
  else
    pure (ignoreNoMessage cfg status)

/-- Service the watchdog. -/
def serviceWatchdog : HsM cfg Unit := do
  let d ← appData
  Prog.when (d.serviceWatchdogFlag = .enabled) (call .watchdogService)

/-- `HS_ProcessMain`. -/
def processMain (c : CycleIn cfg) : HsM cfg Status := do
  acquirePointers c.acquire
  decrementCooldowns
  checkUtilization c.utilization
  checkApplications c.apps
  outputAliveness
  let status ← processCommands c
  serviceWatchdog
  pure status

end HealthSafety
