import HealthSafety.Model.EdsDispatch
import HealthSafety.Step.MonitorEvent

/-!
# The two command pipes

HS has two functions for its command pipe: `HS_AppPipe`, two switches with a length check
behind each case, and `HS_TaskPipe`, which leaves all of that to a generated dispatcher
and sorts the errors afterwards.  If the dispatcher follows `HS.xml`, they do the same
with every message (`pipes_agree`): the same command function runs or none, the same
event reports the message, and `HS_AppData` ends up the same.
-/

namespace HealthSafety

open Lib

variable {cfg : Config} {st : EdsStatus} {dispatch : EdsDispatch cfg} {msg : CmdMsg}

/-! ### The two tables -/

namespace EdsCommand

/-- The function that the table names for a command. -/
def handler : EdsCommand → Handler
  | noopCmd => .noop
  | resetCmd => .reset
  | enableAppMonCmd => .enableAppMon
  | disableAppMonCmd => .disableAppMon
  | enableEventMonCmd => .enableEventMon
  | disableEventMonCmd => .disableEventMon
  | enableAlivenessCmd => .enableAliveness
  | disableAlivenessCmd => .disableAliveness
  | resetResetsPerformedCmd => .resetResetsPerformed
  | setMaxResetsCmd => .setMaxResets
  | enableCpuHogCmd => .enableCpuHog
  | disableCpuHogCmd => .disableCpuHog

/-- The table by names and the table by function codes have the same functions. -/
theorem indication_eq (c : EdsCommand) (msg : CmdMsg) (r : CmdReplies cfg) :
    (tcDispatchTable r).cmd.indication c msg = returnsSuccess (c.handler.run msg r) := by
  cases c <;> rfl

theorem size_eq (c : EdsCommand) : c.size cfg = c.handler.size cfg := by
  cases c <;> rfl

theorem cmdHandlers_functionCode (c : EdsCommand) :
    cmdHandlers[c.functionCode.toNat]? = some c.handler := by
  cases c <;> rfl

/-- The commands in the order of their function codes. -/
def inOrder : List EdsCommand :=
  [noopCmd, resetCmd, enableAppMonCmd, disableAppMonCmd, enableEventMonCmd, disableEventMonCmd,
    enableAlivenessCmd, disableAlivenessCmd, resetResetsPerformedCmd, setMaxResetsCmd,
    enableCpuHogCmd, disableCpuHogCmd]

/-- `HS.xml` and `hs_fcncodes.h` define the same function codes. -/
theorem exists_functionCode {code : UInt16} {h : Handler}
    (hcode : cmdHandlers[code.toNat]? = some h) : ∃ c : EdsCommand, c.functionCode = code := by
  have hlt : code.toNat < 12 := (List.getElem?_eq_some_iff.mp hcode).1
  have hall : ∀ n : Fin 12, (inOrder.get n).functionCode = UInt16.ofNat n := by decide
  exact ⟨inOrder.get ⟨code.toNat, hlt⟩, (hall ⟨code.toNat, hlt⟩).trans UInt16.ofNat_toNat⟩

end EdsCommand

/-! ### What has to be the same -/

/-- The label without the arguments of its event. -/
def Label.withoutArgs : Label cfg → Label cfg
  | .call (.sendEvent eid type _) => .call (.sendEvent eid type [])
  | x => x

/-- The command function that starts at a label. -/
def Label.starts : Label cfg → Option Handler
  | .mark (.handler h) => some h
  | _ => none

/-- The command functions that start in a log. -/
def startedHandlers (l : List (Label cfg)) : List Handler := l.filterMap Label.starts

/-- Two runs end alike in the same `HS_AppData`; the same command functions start in them,
they send the same events, and their other calls are the same. -/
structure Agree (o o' : Out (AppData cfg) (Label cfg) Stop Unit) : Prop where
  val : o.val = o'.val
  state : o.state = o'.state
  handlers : startedHandlers o.log = startedHandlers o'.log
  events : sentEvents o.log = sentEvents o'.log
  calls : o.log.map Label.withoutArgs = o'.log.map Label.withoutArgs

theorem Label.sent_withoutArgs (x : Label cfg) : x.withoutArgs.sent = x.sent := by
  unfold Label.withoutArgs
  split <;> rfl

theorem Label.starts_withoutArgs (x : Label cfg) : x.withoutArgs.starts = x.starts := by
  unfold Label.withoutArgs
  split <;> rfl

theorem filterMap_withoutArgs {α : Type} {f : Label cfg → Option α}
    (hf : ∀ x : Label cfg, f x.withoutArgs = f x) {l l' : List (Label cfg)}
    (h : l.map Label.withoutArgs = l'.map Label.withoutArgs) : l.filterMap f = l'.filterMap f := by
  have hmap (l : List (Label cfg)) : (l.map Label.withoutArgs).filterMap f = l.filterMap f := by
    rw [List.filterMap_map]
    exact congrArg (l.filterMap ·) (funext hf)
  rw [← hmap l, h, hmap l']

theorem Agree.of_calls {o o' : Out (AppData cfg) (Label cfg) Stop Unit} (hval : o.val = o'.val)
    (hstate : o.state = o'.state)
    (h : o.log.map Label.withoutArgs = o'.log.map Label.withoutArgs) : Agree o o' where
  val := hval
  state := hstate
  handlers := filterMap_withoutArgs Label.starts_withoutArgs h
  events := filterMap_withoutArgs Label.sent_withoutArgs h
  calls := h

theorem Agree.of_eq {o o' : Out (AppData cfg) (Label cfg) Stop Unit} (h : o = o') : Agree o o' :=
  h ▸ .of_calls rfl rfl rfl

/-! ### The outcomes of the dispatcher -/

theorem taskPipe_of_error {r : CmdReplies cfg} {status : Status}
    (h : dispatch msg (tcDispatchTable r) = pure status) :
    taskPipe st dispatch msg r = reportStatus st msg status := by
  rw [taskPipe, h, Prog.pure_bind']

theorem taskPipe_of_call {r : CmdReplies cfg} {m : HsM cfg Unit}
    (h : dispatch msg (tcDispatchTable r) = returnsSuccess m) :
    taskPipe st dispatch msg r = m := by
  rw [taskPipe, h, returnsSuccess, Prog.bind_assoc']
  simp only [Prog.pure_bind']
  exact Prog.bind_pure_unit m

/-- A length error is reported by both pipes as that of a request or of a command. -/
theorem agree_wrongLength {n : Nat} (hn : n ≠ msg.size) (m : HsM cfg Unit) (s : AppData cfg) :
    Agree (reportStatus st msg st.wrongMsgLength s) (verifyDispatch msg n m s) := by
  rw [verifyDispatch_of_ne hn]
  have hne : st.wrongMsgLength ≠ st.unknownMsgId := st.ne.symm
  by_cases hk : msg.msgId = cfg.sendHkMid
  · refine .of_calls ?_ ?_ ?_ <;>
      simp [reportStatus, verifyMsgLength, st.wrongMsgLength_ne, hne, hk, hn, Label.withoutArgs,
        Prog.bind_assoc']
  · refine .of_calls ?_ ?_ ?_ <;>
      simp [reportStatus, verifyMsgLength, st.wrongMsgLength_ne, hne, hk, hn, Label.withoutArgs,
        countCmdErr, Prog.bind_assoc']

/-- An undefined function code is reported by both in the same words. -/
theorem reportStatus_undefined {err : Status} (hc : msg.msgId = cfg.cmdMid) (h0 : err ≠ success)
    (hid : err ≠ st.unknownMsgId) (hlen : err ≠ st.wrongMsgLength) :
    (reportStatus st msg err : HsM cfg Unit) = rejectMsg msg := by
  rw [reportStatus, if_pos h0, if_neg hid, if_neg hlen, rejectMsg, if_pos hc]

/-- For an unknown message id the one pipe counts before it reports, the other after. -/
theorem agree_unknownId (hc : msg.msgId ≠ cfg.cmdMid) (s : AppData cfg) :
    Agree (reportStatus st msg st.unknownMsgId s) (rejectMsg msg s) := by
  refine .of_calls ?_ ?_ ?_ <;>
    simp [reportStatus, rejectMsg, st.unknownMsgId_ne, hc, countCmdErr]

/-! ### The pipes -/

/-- The pipes agree on a message whose function is found, with the right length or not. -/
theorem agree_dispatched {r : CmdReplies cfg} {n : Nat} {m : HsM cfg Unit}
    (hcall : n = msg.size → dispatch msg (tcDispatchTable r) = returnsSuccess m)
    (hlength : n ≠ msg.size → dispatch msg (tcDispatchTable r) = pure st.wrongMsgLength)
    (s : AppData cfg) : Agree (taskPipe st dispatch msg r s) (verifyDispatch msg n m s) := by
  by_cases hsize : n = msg.size
  · rw [taskPipe_of_call (hcall hsize), verifyDispatch_of_eq hsize]
    exact .of_eq rfl
  · rw [taskPipe_of_error (hlength hsize)]
    exact agree_wrongLength hsize m s

/-- **The two command pipes agree** on every message, in every state, and whatever the calls
of the command functions are answered. -/
theorem pipes_agree (h : FollowsXml st dispatch) (msg : CmdMsg) (r : CmdReplies cfg)
    (s : AppData cfg) : Agree (taskPipe st dispatch msg r s) (appPipe msg r s) := by
  rw [appPipe_eq, selectHandler]
  by_cases hk : msg.msgId = cfg.sendHkMid
  · rw [if_pos hk]
    exact agree_dispatched (h.callsHk msg _ hk) (h.wrongHkSize msg _ hk) s
  rw [if_neg hk]
  by_cases hc : msg.msgId = cfg.cmdMid
  · rw [if_pos hc]
    by_cases hcode : ∃ c : EdsCommand, c.functionCode = msg.fcnCode
    · obtain ⟨c, hcode⟩ := hcode
      rw [← hcode, c.cmdHandlers_functionCode]
      have hcall (hsize : c.size cfg = msg.size) :=
        (h.calls msg (tcDispatchTable r) c hc hcode hsize).trans (c.indication_eq msg r)
      have hlength := h.wrongSize msg (tcDispatchTable r) c hc hcode
      rw [c.size_eq] at hcall hlength
      exact agree_dispatched hcall hlength s
    · have hnone : cmdHandlers[msg.fcnCode.toNat]? = none := by
        by_contra hsome
        obtain ⟨hd, hhd⟩ := Option.ne_none_iff_exists'.mp hsome
        exact hcode (EdsCommand.exists_functionCode hhd)
      obtain ⟨err, h0, hid, hlen, hdispatch⟩ :=
        h.undefinedCode msg (tcDispatchTable r) hc fun c hcc => hcode ⟨c, hcc⟩
      rw [hnone, taskPipe_of_error hdispatch, reportStatus_undefined hc h0 hid hlen]
      exact .of_eq rfl
  · rw [if_neg hc, taskPipe_of_error (h.unknownId msg _ hc hk)]
    exact agree_unknownId hc s

/-! ### A dispatcher -/

/-- A dispatcher that reads `HS.xml` as it is; `badCode` is its error for an undefined
function code. -/
def xmlDispatch (st : EdsStatus) (badCode : Status) : EdsDispatch cfg := fun msg tbl =>
  if msg.msgId = cfg.sendHkMid then
    if cfg.cmdHeaderSize = msg.size then tbl.sendHk msg else pure st.wrongMsgLength
  else if msg.msgId = cfg.cmdMid then
    match EdsCommand.inOrder.find? fun c => c.functionCode = msg.fcnCode with
    | some c => if c.size cfg = msg.size then tbl.cmd.indication c msg else pure st.wrongMsgLength
    | none => pure badCode
  else
    pure st.unknownMsgId

/-- No two commands have the same function code. -/
theorem EdsCommand.find?_functionCode (c : EdsCommand) :
    EdsCommand.inOrder.find? (fun d => d.functionCode = c.functionCode) = some c := by
  cases c <;> rfl

theorem xmlDispatch_follows {badCode : Status} (h0 : badCode ≠ success)
    (hid : badCode ≠ st.unknownMsgId) (hlen : badCode ≠ st.wrongMsgLength) :
    FollowsXml st (xmlDispatch st badCode : EdsDispatch cfg) where
  unknownId msg tbl hc hk := by
    rw [xmlDispatch, if_neg hk, if_neg hc]
  undefinedCode msg tbl hc hcode := by
    have hk : msg.msgId ≠ cfg.sendHkMid := hc.trans_ne cfg.verified.mid_ne.symm
    have hnone : EdsCommand.inOrder.find? (fun c => c.functionCode = msg.fcnCode) = none :=
      List.find?_eq_none.mpr fun c _ => by simpa using hcode c
    refine ⟨badCode, h0, hid, hlen, ?_⟩
    rw [xmlDispatch, if_neg hk, if_pos hc, hnone]
  wrongSize msg tbl c hc hcode hsize := by
    have hk : msg.msgId ≠ cfg.sendHkMid := hc.trans_ne cfg.verified.mid_ne.symm
    rw [xmlDispatch, if_neg hk, if_pos hc, ← hcode, c.find?_functionCode]
    exact if_neg hsize
  wrongHkSize msg tbl hk hsize := by
    rw [xmlDispatch, if_pos hk, if_neg hsize]
  calls msg tbl c hc hcode hsize := by
    have hk : msg.msgId ≠ cfg.sendHkMid := hc.trans_ne cfg.verified.mid_ne.symm
    rw [xmlDispatch, if_neg hk, if_pos hc, ← hcode, c.find?_functionCode]
    exact if_pos hsize
  callsHk msg tbl hk hsize := by
    rw [xmlDispatch, if_pos hk, if_pos hsize]

/-- Two errors of the dispatcher. -/
def edsStatus : EdsStatus where
  unknownMsgId := -3
  wrongMsgLength := -2
  unknownMsgId_ne := by decide
  wrongMsgLength_ne := by decide
  ne := by decide

/-- A command that sets the limit of resets to 5. -/
def setMaxResetsRequest : CmdMsg := ⟨0x18AE, 9, 12, 5⟩

/-- Answers to which every call fails. -/
def repliesFailed : CmdReplies .small where
  subLong := -1
  subShort := -1
  unsubLong := -1
  unsubShort := -1
  hk := ⟨fun _ => -1, fun _ => ⟨⟨-1, 0, false⟩, ⟨-1, 0, false⟩, ⟨-1, 0, false⟩, ⟨-1, 0, false⟩⟩⟩

theorem pipes_agree_setMaxResets :
    let o := taskPipe edsStatus (xmlDispatch edsStatus (-4)) setMaxResetsRequest repliesFailed
      (initialData .small)
    startedHandlers o.log = [.setMaxResets] ∧ sentEvents o.log = [.setMaxResetsDbg] ∧
      o.state.cdsData.maxResets = 5 := by
  have hfollows : FollowsXml edsStatus (xmlDispatch edsStatus (-4) : EdsDispatch .small) :=
    xmlDispatch_follows (by decide) (by decide) (by decide)
  have h := pipes_agree hfollows setMaxResetsRequest repliesFailed (initialData .small)
  have hmax := congrArg (fun s : AppData .small => s.cdsData.maxResets) h.state
  exact ⟨h.handlers.trans rfl, h.events.trans rfl, hmax.trans rfl⟩

end HealthSafety
