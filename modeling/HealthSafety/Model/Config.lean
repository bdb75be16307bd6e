import Mathlib.Logic.Basic

/-!
# The configuration

The sizes and limits of `default_hs_interface_cfg.h` and
`default_hs_internal_cfg.h`, together with what HS takes from cFE: the sizes of
two cFE types, the two message ids of the command pipe, four status codes and
the message-id check.  Nothing here is fixed.  `Params` carries the values and
`Config` adds the checks of `hs_verify.h` (and, last, what cFE documents about
its own constants), so every theorem is about all configurations that compile.
-/

namespace HealthSafety

/-- `CFE_Status_t`: negative codes are errors, positive ones informational. -/
abbrev Status := Int

/-- `CFE_SUCCESS`. -/
abbrev success : Status := 0

/-- The bytes of a name buffer (`char[CFE_MISSION_MAX_API_LEN]`). -/
abbrev Name := List UInt8

/-- `HS_STATE_DISABLED` and `HS_STATE_ENABLED`. -/
inductive SwitchState
  | disabled
  | enabled
  deriving DecidableEq, Repr

/-- The macros of `default_hs_interface_cfg.h` (the first five), those of
`default_hs_internal_cfg.h` (up to `utilAverageNumInterval`), and from cFE:
`CFE_MISSION_SB_MAX_SB_MSG_SIZE`, `OS_MAX_API_NAME`, size and alignment of
`CFE_SB_Buffer_t`, `sizeof(CFE_MSG_CommandHeader_t)`, `HS_CMD_MID`,
`HS_SEND_HK_MID`, the name EVS puts on the events HS sends, and
`CFE_TBL_INFO_UPDATED`, `CFE_ES_CDS_ALREADY_EXISTS`, `CFE_SB_NO_MESSAGE` and
`CFE_SB_IsValidMsgId`. -/
structure Params where
  maxExecCntSlots : Nat
  maxMsgActTypes : Nat
  maxMsgActSize : Nat
  maxMonitoredApps : Nat
  maxMonitoredEvents : Nat
  cpuAlivePeriod : Nat
  maxRestartActions : Nat
  appMonDefaultState : SwitchState
  eventMonDefaultState : SwitchState
  alivenessDefaultState : SwitchState
  cpuHogDefaultState : SwitchState
  cpuUtilizationCyclesPerInterval : UInt32
  cpuUtilizationMax : Nat
  utilPerIntervalHogging : Nat
  utilHoggingTimeout : Nat
  utilPeakNumInterval : Nat
  utilAverageNumInterval : Nat
  sbMaxMsgSize : Nat
  osMaxApiName : Nat
  sbBufferSize : Nat
  sbBufferAlign : Nat
  cmdHeaderSize : Nat
  cmdMid : UInt32
  sendHkMid : UInt32
  hsName : Name
  tblInfoUpdated : Status
  cdsAlreadyExists : Status
  sbNoMessage : Status
  isValidMsgId : UInt32 → Bool

/-- The preprocessor checks of `hs_verify.h`, and the documented facts about the
cFE constants that the code relies on. -/
structure Params.Verified (p : Params) : Prop where
  execCntSlots_pos : 1 ≤ p.maxExecCntSlots
  execCntSlots_le : p.maxExecCntSlots ≤ 4294967295
  msgActTypes_pos : 1 ≤ p.maxMsgActTypes
  msgActTypes_le : p.maxMsgActTypes ≤ 65531
  msgActSize_pos : 1 ≤ p.maxMsgActSize
  msgActSize_le : p.maxMsgActSize ≤ p.sbMaxMsgSize
  monitoredApps_pos : 1 ≤ p.maxMonitoredApps
  monitoredApps_le : p.maxMonitoredApps ≤ 4294967295
  monitoredEvents_pos : 1 ≤ p.maxMonitoredEvents
  monitoredEvents_le : p.maxMonitoredEvents ≤ 4294967295
  alivePeriod_pos : 1 ≤ p.cpuAlivePeriod
  alivePeriod_le : p.cpuAlivePeriod ≤ 4294967295
  restartActions_le : p.maxRestartActions ≤ 65535
  utilizationMax_pos : 1 ≤ p.cpuUtilizationMax
  utilizationMax_le : p.cpuUtilizationMax ≤ 4294967295
  hogging_pos : 1 ≤ p.utilPerIntervalHogging
  hogging_le : p.utilPerIntervalHogging ≤ p.cpuUtilizationMax
  hoggingTimeout_pos : 1 ≤ p.utilHoggingTimeout
  hoggingTimeout_le : p.utilHoggingTimeout ≤ 4294967295
  peak_pos : 1 ≤ p.utilPeakNumInterval
  peak_le : p.utilPeakNumInterval ≤ 4294967295
  average_pos : 1 ≤ p.utilAverageNumInterval
  average_le : p.utilAverageNumInterval ≤ p.utilPeakNumInterval
  bufferAlign_pos : 1 ≤ p.sbBufferAlign
  mid_ne : p.sendHkMid ≠ p.cmdMid
  infoUpdated_pos : 0 < p.tblInfoUpdated
  alreadyExists_ne : p.cdsAlreadyExists ≠ success
  noMessage_ne : p.sbNoMessage ≠ success

/-- A configuration the headers accept. -/
structure Config extends Params where
  verified : toParams.Verified

namespace Config

variable (cfg : Config)

/-- Words of `AppMonEnables`: `((HS_MAX_MONITORED_APPS - 1) / HS_BITS_PER_APPMON_ENABLE) + 1`. -/
def enableWords : Nat := (cfg.maxMonitoredApps - 1) / 32 + 1

theorem enableWord_lt (i : Fin cfg.maxMonitoredApps) : i.val / 32 < cfg.enableWords := by
  have h := Nat.div_le_div_right (c := 32) (Nat.le_pred_of_lt i.isLt)
  exact Nat.lt_succ_of_le h

/-- `sizeof(HS_MATMsgBuf_t)`: the union of `uint8 Message[HS_MAX_MSG_ACT_SIZE]` and
`CFE_SB_Buffer_t`, rounded up to the alignment of the latter. -/
def matMsgBufSize : Nat :=
  (max cfg.maxMsgActSize cfg.sbBufferSize + cfg.sbBufferAlign - 1) / cfg.sbBufferAlign *
    cfg.sbBufferAlign

/-- `sizeof(HS_SetMaxResetsCmd_t)`: the header and a payload of two `uint16`. -/
def setMaxResetsCmdSize : Nat := cfg.cmdHeaderSize + 4

end Config

/-- The values of the `default_*.h` headers; the last lines are those of a cFE
build with CCSDS headers. -/
def Params.default : Params where
  maxExecCntSlots := 32
  maxMsgActTypes := 8
  maxMsgActSize := 16
  maxMonitoredApps := 32
  maxMonitoredEvents := 16
  cpuAlivePeriod := 5
  maxRestartActions := 3
  appMonDefaultState := .enabled
  eventMonDefaultState := .enabled
  alivenessDefaultState := .enabled
  cpuHogDefaultState := .enabled
  cpuUtilizationCyclesPerInterval := 30
  cpuUtilizationMax := 10000
  utilPerIntervalHogging := 7500
  utilHoggingTimeout := 5
  utilPeakNumInterval := 64
  utilAverageNumInterval := 4
  sbMaxMsgSize := 32768
  osMaxApiName := 20
  sbBufferSize := 8
  sbBufferAlign := 8
  cmdHeaderSize := 8
  cmdMid := 0x18AE
  sendHkMid := 0x18AF
  hsName := [72, 83]
  tblInfoUpdated := 0x4C00000E
  cdsAlreadyExists := 0x4400000D
  sbNoMessage := -1
  isValidMsgId := fun mid => mid != 0

/-- The default headers pass the checks of `hs_verify.h`. -/
def Config.default : Config where
  toParams := .default
  verified := by constructor <;> decide

/-- The default configuration with one entry in every table. -/
def Config.small : Config where
  toParams := { Params.default with
    maxExecCntSlots := 1
    maxMsgActTypes := 1
    maxMonitoredApps := 1
    maxMonitoredEvents := 1
    utilPeakNumInterval := 1
    utilAverageNumInterval := 1 }
  verified := by constructor <;> decide

end HealthSafety
