import HealthSafety.Lib.Alike
import HealthSafety.Model.Main

/-!
# Idle traffic changes nothing

Much of what arrives on the command pipe asks HS to do nothing: housekeeping requests,
no-ops, requests to clear the counters, and messages that are rejected.  HS answers them,
but goes on as if they had not arrived: the run in which they are left out
(`MainIn.quiet`) does the same (`idle_traffic_harmless`).

The two runs differ in what is only reported, so `AppData.course` is the rest of
`HS_AppData`, and in the answers (`Label.answers`).  The log does not tell for whom an
application name is looked up, so all calls to `CFE_ES_GetAppIDByName` are hidden with the
answers, those of the two monitors too; what the monitors do with the ids stays in sight.
One lemma for each function says that it reads nothing else (`OnCourse`).  A
housekeeping request may read a table that is not there; then the run ends, and has done
the same up to there.
-/

namespace HealthSafety

open Lib

variable {cfg : Config} {α β ι : Type}

/-! ### What is seen of a run -/

/-- `HS_AppData` less what is only reported: the housekeeping packet and the counters of
commands, events and message actions. -/
def AppData.course (s : AppData cfg) : AppData cfg :=
  { s with
    cmdCount := 0
    cmdErrCount := 0
    eventsMonitoredCount := 0
    msgActExec := 0
    hkPacket := .zero cfg }

/-- The commands that ask HS to do nothing. -/
def Handler.isIdle : Handler → Bool
  | .sendHk => true
  | .noop => true
  | .reset => true
  | _ => false

/-- The events that only answer such a command or a rejected message. -/
def EventId.answers : EventId → Bool
  | .noopInf => true
  | .resetInf => true
  | .hkreqResourceDbg => true
  | .hkreqLenErr => true
  | .cmdLenErr => true
  | .ccErr => true
  | .midErr => true
  | _ => false

/-- The lookups and the packet of a housekeeping request, and the events.  The monitors look
up application names with the same call, so their lookups count as answers, too. -/
def Call.answers : Call cfg → Bool
  | .sendEvent eid _ _ => eid.answers
  | .getAppIDByName _ => true
  | .getTaskIDByName _ => true
  | .getTaskInfo _ => true
  | .getGenCounterIDByName _ => true
  | .getGenCount _ => true
  | .transmitHk _ => true
  | _ => false

def Mark.answers : Mark cfg → Bool
  | .rowRead reader _ => reader = .sendHkCmd
  | .nullRead _ reader => reader = .sendHkCmd
  | .handler h => h.isIdle
  | _ => false

def Label.answers : Label cfg → Bool
  | .call c => c.answers
  | .mark m => m.answers

/-- The run is cut short by a housekeeping request. -/
def HkStop (e : Stop) : Prop := ∃ tbl, e = .nullRead tbl .sendHkCmd

/-- What HS does, apart from answering and from looking up application names. -/
def doings (cfg : Config) : Look (AppData cfg) (Label cfg) Stop (AppData cfg) where
  view := AppData.course
  seen := fun x => !x.answers
  excused := HkStop

/-! ### Programs that do not look at what is only reported -/

/-- What `m` does depends on the course only. -/
abbrev OnCourse (m : HsM cfg α) : Prop := Follows (doings cfg) m m

/-- What is written depends on the course only, or is not in it. -/
theorem Lib.Follows.set {f : AppData cfg → AppData cfg}
    (h : ∀ d, (f d).course = (f d.course).course) : OnCourse (modifyApp f) := by
  refine Follows.modify fun s s' hs => ?_
  have hs' : s.course = s'.course := hs
  show (f s).course = (f s').course
  rw [h s, h s', hs']

/-- What is read is in the course. -/
theorem Lib.Follows.read {f : AppData cfg → HsM cfg β} (hf : ∀ d, f d = f d.course)
    (h : ∀ d, OnCourse (f d)) : OnCourse (appData >>= f) := by
  refine Follows.get_bind (fun d d' hd => ?_) h
  have hd' : d.course = d'.course := hd
  rw [hf d, hf d', hd']

/-! ### The monitors -/

theorem deref_onCourse (tbl : TableId) (reader : Reader) (p : Option α) :
    OnCourse (deref tbl reader p : HsM cfg α) := by
  cases p with
  | some t => exact .pure t
  | none => exact .bind (.emit _) fun _ => .stop _

theorem readAmt_onCourse (reader : Reader) (i : Fin cfg.maxMonitoredApps) :
    OnCourse (readAmt reader i) :=
  .read (fun _ => rfl) fun _ =>
    .bind (deref_onCourse _ _ _) fun _ => .bind (.emit _) fun _ => .pure _

theorem readEmt_onCourse (reader : Reader) (i : Fin cfg.maxMonitoredEvents) :
    OnCourse (readEmt reader i) :=
  .read (fun _ => rfl) fun _ =>
    .bind (deref_onCourse _ _ _) fun _ => .bind (.emit _) fun _ => .pure _

theorem readMat_onCourse (reader : Reader) (i : Fin cfg.maxMsgActTypes) :
    OnCourse (readMat reader i) :=
  .read (fun _ => rfl) fun _ =>
    .bind (deref_onCourse _ _ _) fun _ => .bind (.emit _) fun _ => .pure _

theorem setCDSData_onCourse (a b : UInt16) : OnCourse (setCDSData a b : HsM cfg Unit) :=
  .bind (.set fun _ => rfl) fun _ =>
    .read (fun _ => rfl) fun _ => .ite (.emit _) (.pure _)

theorem procReset_onCourse (returns : Bool) : OnCourse (procReset returns : HsM cfg Unit) := by
  refine .read (fun _ => rfl) fun _ => .ite ?_ (.emit _)
  refine .bind (setCDSData_onCourse _ _) fun _ => .bind (.emit _) fun _ => .bind (.emit _) fun _ =>
    .bind (.set fun _ => rfl) fun _ => .read (fun _ => rfl) fun _ => ?_
  exact .bind (.emit _) fun _ => .ite (.stop _) (.pure _)

theorem msgAction_onCourse (reader : Reader) (eid : EventId) (args : List EvtArg) (n : UInt32) :
    OnCourse (msgAction reader eid args n : HsM cfg Unit) := by
  refine .read (fun _ => rfl) fun d => ?_
  split
  · refine .ite (.ite ?_ (.emit _)) (.emit _)
    refine .bind (readMat_onCourse _ _) fun row => .ite ?_ (.emit _)
    refine .bind (.emit _) fun _ => .bind (.emit _) fun _ => ?_
    exact .bind (.set fun _ => rfl) fun _ => .ite (.emit _) (.pure _)
  · exact .emit _

theorem resolveApp_onCourse (i : Fin cfg.maxMonitoredApps) (row : AMTEntry) (lk : AppLookup)
    (v : AppMonVars) : OnCourse (resolveApp i row lk v) := by
  refine .bind (.emit _) fun _ => .ite (.bind (.emit _) fun _ => .pure _) ?_
  refine .bind (.read (fun _ => rfl) fun _ => ?_) fun _ => .pure _
  exact .ite (.emit _) (.emit _)

theorem appMonAction_onCourse (i : Fin cfg.maxMonitoredApps) (row : AMTEntry) (lk : AppLookup)
    (status : Status) (appId : UInt32) : OnCourse (appMonAction i row lk status appId) := by
  refine .bind (.emit _) fun _ => .ite ?_ (.ite ?_ (.ite (.emit _) (msgAction_onCourse _ _ _ _)))
  · exact .bind (.emit _) fun _ => procReset_onCourse _
  · refine .bind (.emit _) fun _ => .ite ?_ (.emit _)
    exact .bind (.emit _) fun _ => .ite (.emit _) (.pure _)

theorem countdownApp_onCourse (i : Fin cfg.maxMonitoredApps) (row : AMTEntry) (lk : AppLookup)
    (status : Status) (v : AppMonVars) : OnCourse (countdownApp i row lk status v) := by
  refine .read (fun _ => rfl) fun _ => .ite (.set fun _ => rfl) ?_
  refine .bind (.set fun _ => rfl) fun _ => .read (fun _ => rfl) fun _ => .when ?_
  exact .bind (.set fun _ => rfl) fun _ => appMonAction_onCourse _ _ _ _ _

theorem monitorApp_onCourse (lks : Fin cfg.maxMonitoredApps → AppLookup) (v : AppMonVars)
    (i : Fin cfg.maxMonitoredApps) : OnCourse (monitorApp lks v i) := by
  refine .bind (readAmt_onCourse _ _) fun _ => .read (fun _ => rfl) fun _ => .ite ?_ (.pure _)
  exact .bind (resolveApp_onCourse _ _ _ _) fun _ =>
    .bind (countdownApp_onCourse _ _ _ _ _) fun _ => .pure _

theorem checkApplications_onCourse (lks : Fin cfg.maxMonitoredApps → AppLookup) :
    OnCourse (checkApplications lks) :=
  .read (fun _ => rfl) fun _ => .when <|
    .bind (.fold (monitorApp_onCourse lks) _ _) fun _ => .pure _

theorem appCommand_onCourse (row : EMTEntry) (lk : EvtLookup) (appId : UInt32)
    (okEid errEid : EventId) (cmd : UInt32 → Call cfg) (cmdStatus : Status) :
    OnCourse (appCommand row lk appId okEid errEid cmd cmdStatus) := by
  refine .bind (.emit _) fun _ => .bind (.ite ?_ (.emit _)) fun _ => .pure _
  exact .bind (.emit _) fun _ => .bind (.emit _) fun _ => .ite (.emit _) (.pure _)

theorem eventAction_onCourse (i : Fin cfg.maxMonitoredEvents) (row : EMTEntry) (lk : EvtLookup)
    (appId : UInt32) : OnCourse (eventAction i row lk appId) := by
  refine .bind (.emit _) fun _ => .ite ?_ (.ite ?_ (.ite ?_ ?_))
  · exact .bind (.emit _) fun _ => .bind (procReset_onCourse _) fun _ => .pure _
  · exact appCommand_onCourse _ _ _ _ _ _ _
  · exact appCommand_onCourse _ _ _ _ _ _ _
  · exact .bind (msgAction_onCourse _ _ _ _) fun _ => .pure _

theorem receiveEvent_onCourse (ev : EvtMsg) (lks : Fin cfg.maxMonitoredEvents → EvtLookup) :
    OnCourse (receiveEvent ev lks) := by
  refine .bind (.set fun _ => rfl) fun _ => .bind (.fold (fun appId i => ?_) _ _)
    fun _ => .pure _
  exact .bind (readEmt_onCourse _ _) fun _ => .ite (eventAction_onCourse _ _ _ _) (.pure _)

theorem drainEvents_onCourse (c : CycleIn cfg) : OnCourse (drainEvents c) := by
  refine .read (fun _ => rfl) fun _ => .ite (.bind (.each _ fun e _ => ?_) fun _ => .pure _)
    (.pure _)
  obtain ⟨_ | ev, lks⟩ := e
  · exact .pure _
  · exact receiveEvent_onCourse ev lks

theorem checkHogging_onCourse (util : Int) : OnCourse (checkHogging util : HsM cfg Unit) := by
  refine .read (fun _ => rfl) fun _ => .ite ?_ (.set fun _ => rfl)
  refine .bind (.set fun _ => rfl) fun _ => .read (fun _ => rfl) fun _ => ?_
  exact .ite (.bind (.emit _) fun _ => .emit _) (.pure _)

theorem monitorUtilization_onCourse (r : Reply Int) :
    OnCourse (monitorUtilization r : HsM cfg Unit) := by
  refine .read (fun _ => rfl) fun _ => .bind (.set fun _ => rfl) fun _ =>
    .read (fun _ => rfl) fun _ => .bind (.when (.set fun _ => rfl)) fun _ => ?_
  refine .bind ?_ fun sample => .ite (.set fun _ => rfl) ?_
  · refine .read (fun _ => rfl) fun _ => .ite (.pure _) ?_
    exact .bind (.emit _) fun _ => .ite (.pure _) (.pure _)
  · refine .bind (checkHogging_onCourse _) fun _ => ?_
    split
    · exact .bind (.set fun _ => rfl) fun _ =>
        .read (fun _ => rfl) fun _ => .set fun _ => rfl
    · exact .stop _

theorem checkUtilization_onCourse (r : Reply Int) : OnCourse (checkUtilization r : HsM cfg Unit) :=
  .read (fun _ => rfl) fun _ =>
    .bind (.when (.bind (monitorUtilization_onCourse r) fun _ => .set fun _ => rfl)) fun _ =>
      .set fun _ => rfl

theorem outputAliveness_onCourse : OnCourse (outputAliveness : HsM cfg Unit) := by
  refine .read (fun _ => rfl) fun _ => .when (.bind (.set fun _ => rfl) fun _ => ?_)
  exact .read (fun _ => rfl) fun _ => .when (.bind (.emit _) fun _ => .set fun _ => rfl)

/-! ### The tables -/

theorem appMonStatusRefresh_onCourse : OnCourse (appMonStatusRefresh : HsM cfg Unit) := by
  refine .bind (.set fun _ => rfl) fun _ => .each _ fun i _ => ?_
  refine .bind (.set fun _ => rfl) fun _ => .bind (readAmt_onCourse _ _) fun _ => ?_
  exact .ite (.set fun _ => rfl) (.set fun _ => rfl)

theorem getTable_onCourse (tbl : TableId) (status : Status) {set : AppData cfg → AppData cfg}
    (h : ∀ d, (set d).course = (set d.course).course) : OnCourse (getTable tbl status set) :=
  .bind (.emit _) fun _ => .bind (.emit _) fun _ => .bind (.emit _) fun _ => .set h

theorem acquireAppMon_onCourse (r : TblReply (AMT cfg)) : OnCourse (acquireAppMon r) := by
  refine .bind (getTable_onCourse _ _ fun _ => rfl) fun _ =>
    .bind (.when appMonStatusRefresh_onCourse) fun _ => .ite ?_ (.set fun _ => rfl)
  exact .read (fun _ => rfl) fun _ =>
    .when (.bind (.emit _) fun _ => .set fun _ => rfl)

theorem acquireEventMon_onCourse (r : TblReply (EMT cfg)) (unsubLong unsubShort : Status) :
    OnCourse (acquireEventMon r unsubLong unsubShort) := by
  refine .bind (getTable_onCourse _ _ fun _ => rfl) fun _ => .ite ?_ (.set fun _ => rfl)
  refine .read (fun _ => rfl) fun _ => .when (.bind (.emit _) fun _ => .bind (.when ?_)
    fun _ => .set fun _ => rfl)
  exact .bind (.emit _) fun _ => .bind (.when (.emit _)) fun _ =>
    .bind (.emit _) fun _ => .when (.emit _)

theorem acquireMsgActs_onCourse (r : TblReply (MAT cfg)) : OnCourse (acquireMsgActs r) := by
  refine .bind (getTable_onCourse _ _ fun _ => rfl) fun _ => .bind (.when (.set fun _ => rfl))
    fun _ => .ite ?_ (.set fun _ => rfl)
  exact .read (fun _ => rfl) fun _ => .when (.bind (.emit _) fun _ => .set fun _ => rfl)

theorem acquireExeCount_onCourse (r : TblReply (XCT cfg)) : OnCourse (acquireExeCount r) := by
  refine .bind (getTable_onCourse _ _ fun _ => rfl) fun _ => .ite ?_ (.set fun _ => rfl)
  exact .read (fun _ => rfl) fun _ => .when (.bind (.emit _) fun _ => .set fun _ => rfl)

theorem acquirePointers_onCourse (r : AcquireIn cfg) : OnCourse (acquirePointers r) :=
  .bind (acquireAppMon_onCourse _) fun _ => .bind (acquireEventMon_onCourse _ _ _) fun _ =>
    .bind (acquireMsgActs_onCourse _) fun _ => acquireExeCount_onCourse _

/-! ### The commands that change something -/

theorem switchCmd_onCourse (h : Handler) {set : AppData cfg → AppData cfg} (eid : EventId)
    (hset : ∀ d, (set d).course = (set d.course).course) : OnCourse (switchCmd h set eid) :=
  .bind (.emit _) fun _ => .bind (.set fun _ => rfl) fun _ => .bind (.set hset) fun _ => .emit _

theorem bothCalls_onCourse (first second : Status → Call cfg)
    (firstStatus secondStatus : Status) (firstEid secondEid : EventId) :
    OnCourse (bothCalls first second firstStatus secondStatus firstEid secondEid) := by
  refine .bind (.emit _) fun _ => .ite (.bind (.emit _) fun _ => ?_) ?_
  · exact .bind (.when (.emit _)) fun _ => .pure _
  · exact .bind (.emit _) fun _ => .pure _

theorem eventMonCmd_onCourse (h : Handler) (target : SwitchState) {calls : HsM cfg Status}
    (hcalls : OnCourse calls) (eid : EventId) : OnCourse (eventMonCmd h target calls eid) := by
  refine .bind (.emit _) fun _ => .bind ?_ fun _ => .ite ?_ (.set fun _ => rfl)
  · exact .read (fun _ => rfl) fun _ => .ite (.pure _) hcalls
  · exact .bind (.set fun _ => rfl) fun _ => .bind (.set fun _ => rfl) fun _ => .emit _

theorem handler_onCourse (msg : CmdMsg) (r : CmdReplies cfg) {h : Handler} (hh : h.isIdle = false) :
    OnCourse (h.run msg r) := by
  cases h with
  | sendHk | noop | reset => cases hh
  | enableAppMon =>
    exact .bind (.emit _) fun _ => .bind (.set fun _ => rfl) fun _ =>
      .bind appMonStatusRefresh_onCourse fun _ => .bind (.set fun _ => rfl) fun _ => .emit _
  | enableEventMon => exact eventMonCmd_onCourse _ _ (bothCalls_onCourse _ _ _ _ _ _) _
  | disableEventMon => exact eventMonCmd_onCourse _ _ (bothCalls_onCourse _ _ _ _ _ _) _
  | resetResetsPerformed =>
    exact .bind (.emit _) fun _ => .bind (.set fun _ => rfl) fun _ =>
      .read (fun _ => rfl) fun _ => .bind (setCDSData_onCourse _ _) fun _ => .emit _
  | setMaxResets =>
    exact .bind (.emit _) fun _ => .bind (.set fun _ => rfl) fun _ =>
      .read (fun _ => rfl) fun _ => .bind (setCDSData_onCourse _ _) fun _ =>
        .read (fun _ => rfl) fun _ => .emit _
  | disableAppMon | enableAliveness | disableAliveness | enableCpuHog | disableCpuHog =>
    exact switchCmd_onCourse _ _ fun _ => rfl

/-! ### The traffic that changes nothing -/

/-- Only an answer is seen of `m`. -/
abbrev Answers (m : HsM cfg α) : Prop := Silent (doings cfg) m

theorem deref_answers (tbl : TableId) (p : Option α) :
    Answers (deref tbl .sendHkCmd p : HsM cfg α) := by
  cases p with
  | some t => exact .pure t
  | none => exact .bind (.emit rfl) fun _ => .stop ⟨tbl, rfl⟩

theorem exeCount_answers (row : XCTEntry) (lk : ExeLookup) :
    Answers (exeCount row lk : HsM cfg UInt32) := by
  refine .ite (.bind (.emit rfl) fun _ => .ite (.bind (.emit rfl) fun _ => .pure _) (.pure _)) ?_
  refine .ite (.bind (.emit rfl) fun _ => .ite (.bind (.emit rfl) fun _ => .pure _) (.pure _)) ?_
  exact .ite (.pure _) (.bind (.emit rfl) fun _ => .pure _)

/-- A housekeeping request is only answered, if it finds the tables. -/
theorem sendHkCmd_answers (r : HkIn cfg) : Answers (sendHkCmd r) := by
  refine .bind (.emit rfl) fun _ => .bind (.modify fun _ => rfl) fun _ =>
    .bind (.each _ fun i _ => ?_) fun _ => .bind (.modify fun _ => rfl) fun _ =>
    .bind (.each _ fun i _ => ?_) fun _ => .get_bind fun _ => .emit rfl
  · refine .bind (.get_bind fun _ => .bind (deref_answers _ _) fun _ =>
      .bind (.emit rfl) fun _ => .pure _) fun _ => .ite (.bind (.emit rfl) fun _ => ?_) (.pure _)
    exact .ite (.modify fun _ => rfl) (.pure _)
  · refine .get_bind fun _ => .ite (.bind (.get_bind fun _ => ?_) fun _ => ?_)
      (.modify fun _ => rfl)
    · exact .bind (deref_answers _ _) fun _ => .bind (.emit rfl) fun _ => .pure _
    · exact .bind (exeCount_answers _ _) fun _ => .modify fun _ => rfl

/-- The message asks HS to do nothing: it is rejected, or its command does nothing. -/
def CmdMsg.isIdle (cfg : Config) (msg : CmdMsg) : Bool := (accepted cfg msg).all Handler.isIdle

theorem appPipe_answers {msg : CmdMsg} (hmsg : msg.isIdle cfg = true) (r : CmdReplies cfg) :
    Answers (appPipe msg r) := by
  cases hacc : accepted cfg msg with
  | some h =>
    rw [appPipe_of_accepted hacc]
    rw [CmdMsg.isIdle, hacc] at hmsg
    cases h with
    | sendHk => exact sendHkCmd_answers r.hk
    | noop =>
      exact .bind (.emit rfl) fun _ => .bind (.modify fun _ => rfl) fun _ => .emit rfl
    | reset =>
      exact .bind (.emit rfl) fun _ => .bind (.modify fun _ => rfl) fun _ => .emit rfl
    | _ => cases hmsg
  | none =>
    rcases appPipe_of_not_accepted hacc r with hrun | ⟨n, -, hrun⟩ <;> rw [hrun]
    · exact .ite (.bind (.emit rfl) fun _ => .modify fun _ => rfl)
        (.bind (.modify fun _ => rfl) fun _ => .emit rfl)
    · refine .bind (.ite (.ite ?_ ?_) (.pure _)) fun _ => .pure _
      · exact .bind (.emit rfl) fun _ => .pure _
      · exact .bind (.emit rfl) fun _ => .bind (.modify fun _ => rfl) fun _ => .pure _

theorem appPipe_onCourse {msg : CmdMsg} (hmsg : msg.isIdle cfg = false) (r : CmdReplies cfg) :
    OnCourse (appPipe msg r) := by
  cases hacc : accepted cfg msg with
  | some h =>
    rw [appPipe_of_accepted hacc]
    rw [CmdMsg.isIdle, hacc] at hmsg
    exact handler_onCourse msg r hmsg
  | none =>
    rw [CmdMsg.isIdle, hacc] at hmsg
    cases hmsg

/-! ### Runs with other answers -/

/-- `h` changes what a cycle gets. -/
def TurnIn.withCycle (h : CycleIn cfg → CycleIn cfg) (t : TurnIn cfg) : TurnIn cfg :=
  { t with cycle := h t.cycle }

def MainIn.withCycles (h : CycleIn cfg → CycleIn cfg) (i : MainIn cfg) : MainIn cfg :=
  { i with turn := fun k => (i.turn k).withCycle h }

theorem mainEnd_onCourse (stopped : Bool) (v : MainVars) :
    OnCourse (mainEnd stopped v : HsM cfg Unit) := by
  refine .bind (.when (.bind (.emit _) fun _ => .emit _)) fun _ => .read (fun _ => rfl) fun _ => ?_
  exact .when (.bind (.emit _) fun _ => .when (.emit _))

/-- What arrives on the command pipe in a cycle. -/
abbrev Cmds (cfg : Config) : Type := List (Option CmdMsg × CmdReplies cfg)

/-- `g` changes what arrives on the command pipe. -/
def CycleIn.traffic (g : Cmds cfg → Cmds cfg) (c : CycleIn cfg) : CycleIn cfg :=
  { c with cmds := g c.cmds }

def TurnIn.traffic (g : Cmds cfg → Cmds cfg) (t : TurnIn cfg) : TurnIn cfg :=
  { t with cycle := t.cycle.traffic g }

def MainIn.traffic (g : Cmds cfg → Cmds cfg) (i : MainIn cfg) : MainIn cfg :=
  { i with turn := fun k => (i.turn k).traffic g }

section

variable {L : Look (AppData cfg) (Label cfg) Stop (AppData cfg)} {g : Cmds cfg → Cmds cfg}

/-- Who looks at HS with `L` sees no more than what HS does. -/
def SeesDoings (L : Look (AppData cfg) (Label cfg) Stop (AppData cfg)) : Prop :=
  ∀ {α : Type} {m : HsM cfg α}, OnCourse m → Follows L m m

theorem processMain_follows (hL : SeesDoings L) {c : CycleIn cfg}
    (hc : Follows L (drainCommands c) (drainCommands (c.traffic g))) :
    Follows L (processMain c) (processMain (c.traffic g)) := by
  refine .bind (hL (acquirePointers_onCourse _)) fun _ => .bind ?_ fun _ =>
    .bind (hL (checkUtilization_onCourse _)) fun _ =>
    .bind (hL (checkApplications_onCourse _)) fun _ =>
    .bind (hL outputAliveness_onCourse) fun _ => .bind ?_ fun _ => .bind ?_ fun _ => .pure _
  · exact .bind (.emit _) fun _ => hL (.set fun _ => rfl)
  · exact .bind (hL (drainEvents_onCourse c)) fun _ =>
      .ite (.bind hc fun _ => .pure _) (.pure _)
  · exact hL (.read (fun _ => rfl) fun _ => .when (.emit _))

/-- What a cycle makes of the other answers, the main loop makes of them. -/
theorem mainLoop_follows {h : CycleIn cfg → CycleIn cfg}
    (hh : ∀ c, Follows L (processMain c) (processMain (h c))) (timeOut : Status)
    (ts : List (TurnIn cfg)) :
    ∀ v, Follows L (mainLoop timeOut ts v) (mainLoop timeOut (ts.map (TurnIn.withCycle h)) v) := by
  induction ts with
  | nil => exact fun v => .pure none
  | cons t ts ih =>
    intro v
    rw [List.map_cons, mainLoop, mainLoop]
    have hstop : (t.withCycle h).stop = t.stop := rfl
    rw [hstop]
    cases runLoop t.stop v.runStatus with
    | some exitStatus => exact .pure _
    | none =>
      refine .bind ?_ ih
      exact .ite (.bind (hh _) fun _ => .pure _) (.pure _)

/-- **What a cycle makes of the other answers, a whole run makes of them.** -/
theorem appMain_matches_cycles (hL : SeesDoings L) {h : CycleIn cfg → CycleIn cfg}
    (hh : ∀ c, Follows L (processMain c) (processMain (h c))) (timeOut : Status)
    (i : MainIn cfg) (n : Nat) (s : AppData cfg) :
    Matches L (appMain timeOut i n s) (appMain timeOut (i.withCycles h) n s) := by
  have hturns : (List.range n).map (i.withCycles h).turn =
      ((List.range n).map i.turn).map (TurnIn.withCycle h) := by
    rw [List.map_map]
    rfl
  refine Follows.after (fun start => ?_) (mainStart i.init i.start) s
  rw [hturns]
  refine .bind (mainLoop_follows hh timeOut _ _) fun out => ?_
  rcases out with _ | ⟨v, exitStatus⟩
  · exact .pure none
  · exact .bind (hL (mainEnd_onCourse i.stopped v)) fun _ => .pure _

/-- What the command loops make of the traffic, a whole run makes of it. -/
theorem appMain_matches (hL : SeesDoings L)
    (hg : ∀ c, Follows L (drainCommands c) (drainCommands (c.traffic g))) (timeOut : Status)
    (i : MainIn cfg) (n : Nat) (s : AppData cfg) :
    Matches L (appMain timeOut i n s) (appMain timeOut (i.traffic g) n s) :=
  appMain_matches_cycles hL (fun c => processMain_follows hL (hg c)) timeOut i n s

end

/-! ### The runs without idle traffic -/

/-- The buffer asks HS to do something. -/
def isCommand (cfg : Config) (buf : Option CmdMsg) : Bool := !buf.all (CmdMsg.isIdle cfg)

/-- The cycle without idle traffic. -/
def CycleIn.quiet (c : CycleIn cfg) : CycleIn cfg :=
  { c with cmds := c.cmds.filter fun m => isCommand cfg m.1 }

def TurnIn.quiet (t : TurnIn cfg) : TurnIn cfg := { t with cycle := t.cycle.quiet }

/-- The same answers of the environment, less the idle traffic. -/
def MainIn.quiet (i : MainIn cfg) : MainIn cfg := { i with turn := fun k => (i.turn k).quiet }

theorem drainCommands_follows (c : CycleIn cfg) :
    Follows (doings cfg) (drainCommands c) (drainCommands c.quiet) := by
  refine .bind (.each_filter (fun m hm => ?_) (fun m hm => ?_) _) fun _ => .pure _ <;>
    obtain ⟨_ | msg, r⟩ := m
  · exact .pure _
  · refine appPipe_onCourse ?_ r
    simpa [isCommand] using hm
  · exact .pure _
  · refine appPipe_answers ?_ r
    simpa [isCommand] using hm

/-- **Idle traffic changes nothing.**  Take any run of `HS_AppMain`, and leave out of what
arrives on the command pipe every housekeeping request, no-op, request to clear the
counters and rejected message.  HS returns the same, with the same `HS_AppData` less what
is only reported, and does the same in between, in the same order, apart from answering and
from looking up application names (`doings`); or a housekeeping request of the run has read
a table that is not there, and up to there HS has done the same. -/
theorem idle_traffic_harmless (timeOut : Status) (i : MainIn cfg) (n : Nat) (s : AppData cfg) :
    Matches (doings cfg) (appMain timeOut i n s) (appMain timeOut i.quiet n s) :=
  appMain_matches (g := List.filter fun m => isCommand cfg m.1) (fun h => h)
    drainCommands_follows timeOut i n s

end HealthSafety
