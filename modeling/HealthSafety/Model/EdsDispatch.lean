import HealthSafety.Model.Dispatch

/-!
# The command pipe of the EDS build

`hs_eds_dispatch.c`: the table that names a function for each command of `HS.xml`, and
`HS_TaskPipe`, which hands every message to the generated dispatcher and then reports
what that returns.  The dispatcher is generated from `HS.xml` and is not part of HS, so
it is a parameter here.  `FollowsXml` says what HS relies on: for an unknown message id, an
undefined function code or a wrong size it returns an error of its own and does
nothing else, and otherwise it calls the function that the table names.
-/

namespace HealthSafety

open Lib

variable {cfg : Config}

/-! ### The containers of `HS.xml` -/

/-- The commands derived from `CMD`. -/
inductive EdsCommand
  | noopCmd | resetCmd | enableAppMonCmd | disableAppMonCmd | enableEventMonCmd | disableEventMonCmd
  | enableAlivenessCmd | disableAlivenessCmd | resetResetsPerformedCmd | setMaxResetsCmd
  | enableCpuHogCmd | disableCpuHogCmd
  deriving DecidableEq, Repr

namespace EdsCommand

/-- The value constraint on `Sec.FunctionCode`. -/
def functionCode : EdsCommand → UInt16
  | noopCmd => 0
  | resetCmd => 1
  | enableAppMonCmd => 2
  | disableAppMonCmd => 3
  | enableEventMonCmd => 4
  | disableEventMonCmd => 5
  | enableAlivenessCmd => 6
  | disableAlivenessCmd => 7
  | resetResetsPerformedCmd => 8
  | setMaxResetsCmd => 9
  | enableCpuHogCmd => 10
  | disableCpuHogCmd => 11

/-- The size of the container: the header, and for `SetMaxResetsCmd` a
`SetMaxResets_Payload` of two `uint16`. -/
def size (cfg : Config) : EdsCommand → Nat
  | setMaxResetsCmd => cfg.cmdHeaderSize + (2 + 2)
  | _ => cfg.cmdHeaderSize

end EdsCommand

/-! ### The dispatch table -/

/-- A command function. -/
abbrev Indication (cfg : Config) := CmdMsg → HsM cfg Status

/-- The member `CMD` of the dispatch table. -/
structure CmdIndications (cfg : Config) where
  disableAlivenessCmd : Indication cfg
  disableAppMonCmd : Indication cfg
  disableCpuHogCmd : Indication cfg
  disableEventMonCmd : Indication cfg
  enableAlivenessCmd : Indication cfg
  enableAppMonCmd : Indication cfg
  enableCpuHogCmd : Indication cfg
  enableEventMonCmd : Indication cfg
  noopCmd : Indication cfg
  resetCmd : Indication cfg
  resetResetsPerformedCmd : Indication cfg
  setMaxResetsCmd : Indication cfg

/-- `EdsDispatchTable_HS_Application_CFE_SB_Telecommand_t`. -/
structure EdsDispatchTable (cfg : Config) where
  cmd : CmdIndications cfg
  sendHk : Indication cfg

/-- The member of the table with the name of the command. -/
def CmdIndications.indication (t : CmdIndications cfg) : EdsCommand → Indication cfg
  | .noopCmd => t.noopCmd
  | .resetCmd => t.resetCmd
  | .enableAppMonCmd => t.enableAppMonCmd
  | .disableAppMonCmd => t.disableAppMonCmd
  | .enableEventMonCmd => t.enableEventMonCmd
  | .disableEventMonCmd => t.disableEventMonCmd
  | .enableAlivenessCmd => t.enableAlivenessCmd
  | .disableAlivenessCmd => t.disableAlivenessCmd
  | .resetResetsPerformedCmd => t.resetResetsPerformedCmd
  | .setMaxResetsCmd => t.setMaxResetsCmd
  | .enableCpuHogCmd => t.enableCpuHogCmd
  | .disableCpuHogCmd => t.disableCpuHogCmd

/-- The functions of `hs_cmds.c` return `CFE_SUCCESS`. -/
def returnsSuccess (m : HsM cfg Unit) : HsM cfg Status := do
  m
  pure success

/-- `HS_TC_DISPATCH_TABLE`, while the calls of the functions are answered by `r`. -/
def tcDispatchTable (r : CmdReplies cfg) : EdsDispatchTable cfg where
  cmd := {
    disableAlivenessCmd := fun _ => returnsSuccess HealthSafety.disableAlivenessCmd
    disableAppMonCmd := fun _ => returnsSuccess HealthSafety.disableAppMonCmd
    disableCpuHogCmd := fun _ => returnsSuccess HealthSafety.disableCpuHogCmd
    disableEventMonCmd := fun _ =>
      returnsSuccess (HealthSafety.disableEventMonCmd r.unsubLong r.unsubShort)
    enableAlivenessCmd := fun _ => returnsSuccess HealthSafety.enableAlivenessCmd
    enableAppMonCmd := fun _ => returnsSuccess HealthSafety.enableAppMonCmd
    enableCpuHogCmd := fun _ => returnsSuccess HealthSafety.enableCpuHogCmd
    enableEventMonCmd := fun _ =>
      returnsSuccess (HealthSafety.enableEventMonCmd r.subLong r.subShort)
    noopCmd := fun _ => returnsSuccess HealthSafety.noopCmd
    resetCmd := fun _ => returnsSuccess HealthSafety.resetCmd
    resetResetsPerformedCmd := fun _ => returnsSuccess HealthSafety.resetResetsPerformedCmd
    setMaxResetsCmd := fun msg => returnsSuccess (HealthSafety.setMaxResetsCmd msg.maxResets) }
  sendHk := fun _ => returnsSuccess (sendHkCmd r.hk)

/-! ### The generated dispatcher -/

/-- `CFE_STATUS_UNKNOWN_MSG_ID` and `CFE_STATUS_WRONG_MSG_LENGTH`, two different errors. -/
structure EdsStatus where
  unknownMsgId : Status
  wrongMsgLength : Status
  unknownMsgId_ne : unknownMsgId ≠ success
  wrongMsgLength_ne : wrongMsgLength ≠ success
  ne : unknownMsgId ≠ wrongMsgLength

/-- The type of `EdsDispatch_HS_Application_Telecommand`. -/
abbrev EdsDispatch (cfg : Config) := CmdMsg → EdsDispatchTable cfg → HsM cfg Status

/-- The dispatcher does what `HS.xml` says, for any table. -/
structure FollowsXml (st : EdsStatus) (dispatch : EdsDispatch cfg) : Prop where
  unknownId : ∀ msg tbl, msg.msgId ≠ cfg.cmdMid → msg.msgId ≠ cfg.sendHkMid →
    dispatch msg tbl = pure st.unknownMsgId
  undefinedCode : ∀ msg tbl, msg.msgId = cfg.cmdMid →
    (∀ c : EdsCommand, c.functionCode ≠ msg.fcnCode) →
      ∃ err, err ≠ success ∧ err ≠ st.unknownMsgId ∧ err ≠ st.wrongMsgLength ∧
        dispatch msg tbl = pure err
  wrongSize : ∀ msg tbl (c : EdsCommand), msg.msgId = cfg.cmdMid →
    c.functionCode = msg.fcnCode → c.size cfg ≠ msg.size →
      dispatch msg tbl = pure st.wrongMsgLength
  wrongHkSize : ∀ msg tbl, msg.msgId = cfg.sendHkMid → cfg.cmdHeaderSize ≠ msg.size →
    dispatch msg tbl = pure st.wrongMsgLength
  calls : ∀ msg tbl (c : EdsCommand), msg.msgId = cfg.cmdMid →
    c.functionCode = msg.fcnCode → c.size cfg = msg.size →
      dispatch msg tbl = tbl.cmd.indication c msg
  callsHk : ∀ msg tbl, msg.msgId = cfg.sendHkMid → cfg.cmdHeaderSize = msg.size →
    dispatch msg tbl = tbl.sendHk msg

/-! ### The pipe -/

/-- What `HS_TaskPipe` does with the status of the dispatcher. -/
def reportStatus (st : EdsStatus) (msg : CmdMsg) (status : Status) : HsM cfg Unit :=
  if status ≠ success then
    if status = st.unknownMsgId then do
      sendEvent .midErr .error [.num msg.msgId.toNat]
      countCmdErr
    else if status = st.wrongMsgLength then
      if msg.msgId = cfg.sendHkMid then
        sendEvent .hkreqLenErr .error
          [.num msg.msgId.toNat, .num msg.fcnCode.toNat, .num msg.size]
      else do
        sendEvent .cmdLenErr .error
          [.num msg.msgId.toNat, .num msg.fcnCode.toNat, .num msg.size]
        countCmdErr
    else do
      sendEvent .ccErr .error [.num msg.msgId.toNat, .num msg.fcnCode.toNat]
      countCmdErr
  else
    pure ()

/-- `HS_TaskPipe`. -/
def taskPipe (st : EdsStatus) (dispatch : EdsDispatch cfg) (msg : CmdMsg) (r : CmdReplies cfg) :
    HsM cfg Unit := do
  let status ← dispatch msg (tcDispatchTable r)
  reportStatus st msg status

end HealthSafety
