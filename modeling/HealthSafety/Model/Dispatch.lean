import HealthSafety.Model.Cmds
import Mathlib.Tactic.IntervalCases

/-!
# The command pipe

`hs_dispatch.c`: the length check and the two switches of `HS_AppPipe`.  Every
`HS_*VerifyDispatch` is the same two lines with its own structure size and its
own handler (`verifyDispatch`).  `Handler.size` and `Handler.run` put these in a
table, `selectHandler` reads the two switches, and `appPipe_eq` says that
`HS_AppPipe` is the check of the selected row.
-/

namespace HealthSafety

open Lib

variable {cfg : Config}

/-- The answers to the calls one message on the command pipe can cause: the
status of the bus calls of the event monitor commands and the lookups of a
housekeeping request. -/
structure CmdReplies (cfg : Config) where
  subLong : Status
  subShort : Status
  unsubLong : Status
  unsubShort : Status
  hk : HkIn cfg

/-! ### Function codes -/

abbrev noopCC : UInt16 := 0
abbrev resetCC : UInt16 := 1
abbrev enableAppMonCC : UInt16 := 2
abbrev disableAppMonCC : UInt16 := 3
abbrev enableEventMonCC : UInt16 := 4
abbrev disableEventMonCC : UInt16 := 5
abbrev enableAlivenessCC : UInt16 := 6
abbrev disableAlivenessCC : UInt16 := 7
abbrev resetResetsPerformedCC : UInt16 := 8
abbrev setMaxResetsCC : UInt16 := 9
abbrev enableCpuHogCC : UInt16 := 10
abbrev disableCpuHogCC : UInt16 := 11

/-! ### Length check -/

/-- `HS_VerifyMsgLength`. -/
def verifyMsgLength (msg : CmdMsg) (expectedLength : Nat) : HsM cfg Bool := do
  let args : List EvtArg :=
    [.num msg.msgId.toNat, .num msg.fcnCode.toNat, .num msg.size, .num expectedLength]
  if expectedLength ≠ msg.size then
    if msg.msgId = cfg.sendHkMid then
      sendEvent .hkreqLenErr .error args
      pure false
    else
      sendEvent .cmdLenErr .error args
      countCmdErr
      pure false
  else
    pure true

/-- The body of the `HS_*VerifyDispatch` functions. -/
def verifyDispatch (msg : CmdMsg) (expectedLength : Nat) (handler : HsM cfg Unit) :
    HsM cfg Unit := do
  let ok ← verifyMsgLength msg expectedLength
  Prog.when (ok = true) handler

/-- `HS_SendHkVerifyDispatch`. -/
def sendHkVerifyDispatch (msg : CmdMsg) (r : HkIn cfg) : HsM cfg Unit :=
  verifyDispatch msg cfg.cmdHeaderSize (sendHkCmd r)

/-- `HS_NoopVerifyDispatch`. -/
def noopVerifyDispatch (msg : CmdMsg) : HsM cfg Unit :=
  verifyDispatch msg cfg.cmdHeaderSize noopCmd

/-- `HS_ResetVerifyDispatch`. -/
def resetVerifyDispatch (msg : CmdMsg) : HsM cfg Unit :=
  verifyDispatch msg cfg.cmdHeaderSize resetCmd

/-- `HS_EnableAppMonVerifyDispatch`. -/
def enableAppMonVerifyDispatch (msg : CmdMsg) : HsM cfg Unit :=
  verifyDispatch msg cfg.cmdHeaderSize enableAppMonCmd

/-- `HS_DisableAppMonVerifyDispatch`. -/
def disableAppMonVerifyDispatch (msg : CmdMsg) : HsM cfg Unit :=
  verifyDispatch msg cfg.cmdHeaderSize disableAppMonCmd

/-- `HS_EnableEventMonVerifyDispatch`. -/
def enableEventMonVerifyDispatch (msg : CmdMsg) (subLong subShort : Status) : HsM cfg Unit :=
  verifyDispatch msg cfg.cmdHeaderSize (enableEventMonCmd subLong subShort)

/-- `HS_DisableEventMonVerifyDispatch`. -/
def disableEventMonVerifyDispatch (msg : CmdMsg) (unsubLong unsubShort : Status) : HsM cfg Unit :=
  verifyDispatch msg cfg.cmdHeaderSize (disableEventMonCmd unsubLong unsubShort)

/-- `HS_EnableAlivenessVerifyDispatch`. -/
def enableAlivenessVerifyDispatch (msg : CmdMsg) : HsM cfg Unit :=
  verifyDispatch msg cfg.cmdHeaderSize enableAlivenessCmd

/-- `HS_DisableAlivenessVerifyDispatch`. -/
def disableAlivenessVerifyDispatch (msg : CmdMsg) : HsM cfg Unit :=
  verifyDispatch msg cfg.cmdHeaderSize disableAlivenessCmd

/-- `HS_ResetResetsPerformedVerifyDispatch`. -/
def resetResetsPerformedVerifyDispatch (msg : CmdMsg) : HsM cfg Unit :=
  verifyDispatch msg cfg.cmdHeaderSize resetResetsPerformedCmd

/-- `HS_SetMaxResetsVerifyDispatch`. -/
def setMaxResetsVerifyDispatch (msg : CmdMsg) : HsM cfg Unit :=
  verifyDispatch msg cfg.setMaxResetsCmdSize (setMaxResetsCmd msg.maxResets)

/-- `HS_EnableCpuHogVerifyDispatch`. -/
def enableCpuHogVerifyDispatch (msg : CmdMsg) : HsM cfg Unit :=
  verifyDispatch msg cfg.cmdHeaderSize enableCpuHogCmd

/-- `HS_DisableCpuHogVerifyDispatch`. -/
def disableCpuHogVerifyDispatch (msg : CmdMsg) : HsM cfg Unit :=
  verifyDispatch msg cfg.cmdHeaderSize disableCpuHogCmd

/-- `HS_AppPipe`. -/
def appPipe (msg : CmdMsg) (r : CmdReplies cfg) : HsM cfg Unit :=
  if msg.msgId = cfg.sendHkMid then
    sendHkVerifyDispatch msg r.hk
  else if msg.msgId = cfg.cmdMid then
    if msg.fcnCode = noopCC then noopVerifyDispatch msg
    else if msg.fcnCode = resetCC then resetVerifyDispatch msg
    else if msg.fcnCode = enableAppMonCC then enableAppMonVerifyDispatch msg
    else if msg.fcnCode = disableAppMonCC then disableAppMonVerifyDispatch msg
    else if msg.fcnCode = enableEventMonCC then
      enableEventMonVerifyDispatch msg r.subLong r.subShort
    else if msg.fcnCode = disableEventMonCC then
      disableEventMonVerifyDispatch msg r.unsubLong r.unsubShort
    else if msg.fcnCode = enableAlivenessCC then enableAlivenessVerifyDispatch msg
    else if msg.fcnCode = disableAlivenessCC then disableAlivenessVerifyDispatch msg
    else if msg.fcnCode = resetResetsPerformedCC then resetResetsPerformedVerifyDispatch msg
    else if msg.fcnCode = setMaxResetsCC then setMaxResetsVerifyDispatch msg
    else if msg.fcnCode = enableCpuHogCC then enableCpuHogVerifyDispatch msg
    else if msg.fcnCode = disableCpuHogCC then disableCpuHogVerifyDispatch msg
    else do
      sendEvent .ccErr .error [.num msg.msgId.toNat, .num msg.fcnCode.toNat]
      countCmdErr
  else do
    countCmdErr
    sendEvent .midErr .error [.num msg.msgId.toNat]

/-! ### The table of the handlers -/

/-- The size of the structure a handler's message is cast to. -/
def Handler.size (cfg : Config) : Handler → Nat
  | .setMaxResets => cfg.setMaxResetsCmdSize
  | _ => cfg.cmdHeaderSize

/-- The handler functions. -/
def Handler.run (msg : CmdMsg) (r : CmdReplies cfg) : Handler → HsM cfg Unit
  | .sendHk => sendHkCmd r.hk
  | .noop => noopCmd
  | .reset => resetCmd
  | .enableAppMon => enableAppMonCmd
  | .disableAppMon => disableAppMonCmd
  | .enableEventMon => enableEventMonCmd r.subLong r.subShort
  | .disableEventMon => disableEventMonCmd r.unsubLong r.unsubShort
  | .enableAliveness => enableAlivenessCmd
  | .disableAliveness => disableAlivenessCmd
  | .resetResetsPerformed => resetResetsPerformedCmd
  | .setMaxResets => setMaxResetsCmd msg.maxResets
  | .enableCpuHog => enableCpuHogCmd
  | .disableCpuHog => disableCpuHogCmd

/-- The function codes, in order. -/
def cmdHandlers : List Handler :=
  [.noop, .reset, .enableAppMon, .disableAppMon, .enableEventMon, .disableEventMon,
    .enableAliveness, .disableAliveness, .resetResetsPerformed, .setMaxResets, .enableCpuHog,
    .disableCpuHog]

/-- The handler the two switches lead to. -/
def selectHandler (cfg : Config) (msg : CmdMsg) : Option Handler :=
  if msg.msgId = cfg.sendHkMid then some .sendHk
  else if msg.msgId = cfg.cmdMid then cmdHandlers[msg.fcnCode.toNat]?
  else none

/-- What `HS_AppPipe` does with a message that no handler is for. -/
def rejectMsg (msg : CmdMsg) : HsM cfg Unit :=
  if msg.msgId = cfg.cmdMid then do
    sendEvent .ccErr .error [.num msg.msgId.toNat, .num msg.fcnCode.toNat]
    countCmdErr
  else do
    countCmdErr
    sendEvent .midErr .error [.num msg.msgId.toNat]

/-- The handler that runs on a message: the selected one, if the length fits. -/
def accepted (cfg : Config) (msg : CmdMsg) : Option Handler :=
  (selectHandler cfg msg).filter fun h => h.size cfg = msg.size

theorem verifyDispatch_of_eq {msg : CmdMsg} {n : Nat} (h : n = msg.size) (m : HsM cfg Unit) :
    verifyDispatch msg n m = m := by
  funext s
  simp [verifyDispatch, verifyMsgLength, h]

theorem verifyDispatch_of_ne {msg : CmdMsg} {n : Nat} (h : n ≠ msg.size) (m : HsM cfg Unit) :
    verifyDispatch msg n m = verifyMsgLength msg n >>= fun _ => pure () := by
  funext s
  by_cases hk : msg.msgId = cfg.sendHkMid
  · simp [verifyDispatch, verifyMsgLength, h, hk, Prog.bind_assoc']
  · simp [verifyDispatch, verifyMsgLength, h, hk, countCmdErr, Prog.bind_assoc']

/-- **`HS_AppPipe` is the length check of the selected handler.** -/
theorem appPipe_eq (msg : CmdMsg) (r : CmdReplies cfg) :
    appPipe msg r = match selectHandler cfg msg with
      | some h => verifyDispatch msg (h.size cfg) (h.run msg r)
      | none => rejectMsg msg := by
  unfold appPipe selectHandler
  by_cases hk : msg.msgId = cfg.sendHkMid
  · simp only [if_pos hk]
    rfl
  by_cases hc : msg.msgId = cfg.cmdMid
  · simp only [if_neg hk, if_pos hc]
    by_cases h : msg.fcnCode.toNat < 12
    · generalize hn : msg.fcnCode.toNat = n at h
      have hcode : msg.fcnCode = UInt16.ofNat n := by rw [← hn, UInt16.ofNat_toNat]
      rw [hcode]
      interval_cases n <;> rfl
    · have hsel : cmdHandlers[msg.fcnCode.toNat]? = none :=
        List.getElem?_eq_none (by simpa [cmdHandlers] using Nat.le_of_not_lt h)
      have hne (c : UInt16) (hc : c.toNat < 12) : msg.fcnCode ≠ c := by
        rintro rfl
        exact h hc
      rw [hsel]
      simp only [if_neg (hne _ (by decide : noopCC.toNat < 12)),
        if_neg (hne _ (by decide : resetCC.toNat < 12)),
        if_neg (hne _ (by decide : enableAppMonCC.toNat < 12)),
        if_neg (hne _ (by decide : disableAppMonCC.toNat < 12)),
        if_neg (hne _ (by decide : enableEventMonCC.toNat < 12)),
        if_neg (hne _ (by decide : disableEventMonCC.toNat < 12)),
        if_neg (hne _ (by decide : enableAlivenessCC.toNat < 12)),
        if_neg (hne _ (by decide : disableAlivenessCC.toNat < 12)),
        if_neg (hne _ (by decide : resetResetsPerformedCC.toNat < 12)),
        if_neg (hne _ (by decide : setMaxResetsCC.toNat < 12)),
        if_neg (hne _ (by decide : enableCpuHogCC.toNat < 12)),
        if_neg (hne _ (by decide : disableCpuHogCC.toNat < 12)), rejectMsg, if_pos hc]
  · simp only [if_neg hk, if_neg hc, rejectMsg]

theorem appPipe_of_accepted {msg : CmdMsg} {h : Handler} (hm : accepted cfg msg = some h)
    (r : CmdReplies cfg) : appPipe msg r = h.run msg r := by
  obtain ⟨hsel, hsize⟩ := Option.filter_eq_some_iff.mp hm
  rw [appPipe_eq, hsel]
  exact verifyDispatch_of_eq (by simpa using hsize) _

/-- A message that is not accepted is reported, and only counted. -/
theorem appPipe_of_not_accepted {msg : CmdMsg} (hm : accepted cfg msg = none)
    (r : CmdReplies cfg) :
    appPipe msg r = rejectMsg msg ∨
      ∃ n, n ≠ msg.size ∧ appPipe msg r = verifyMsgLength msg n >>= fun _ => pure () := by
  rw [appPipe_eq]
  cases hsel : selectHandler cfg msg with
  | none => exact .inl rfl
  | some h =>
    have hsize : h.size cfg ≠ msg.size := by
      intro hs
      simp [accepted, hsel, hs] at hm
    exact .inr ⟨_, hsize, verifyDispatch_of_ne hsize _⟩

end HealthSafety
