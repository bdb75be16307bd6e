import HealthSafety.Lib.Alike
import HealthSafety.Model.Main
import HealthSafety.Step.Functions

/-!
# What most functions leave alone

The counters of the aliveness output and of the utilization monitor, the device they may
use, and the orders to restart or delete an application are the business of a few
functions.  One lemma for each of the others says that it leaves them alone (`Aloof`).

Only the two aliveness commands touch the aliveness switch, and only the monitors give
orders, so both can be left out of what is watched (`dialLook`).
-/

namespace HealthSafety

open Lib

variable {cfg : Config} {α β ι : Type} {switch orders : Bool}

/-! ### What is watched -/

/-- The two counters and the device. -/
structure Dials where
  alivenessCounter : UInt32
  utilizationCycleCounter : UInt32
  sysMonPspModuleId : UInt32

def AppData.dials (s : AppData cfg) : Dials where
  alivenessCounter := s.alivenessCounter
  utilizationCycleCounter := s.utilizationCycleCounter
  sysMonPspModuleId := s.sysMonPspModuleId

/-- The aliveness output, the calls to the device and the report at the end. -/
def Label.ofDials : Label cfg → Bool
  | .call .printf => true
  | .call .iodriver => true
  | .call (.sendEvent eid _ _) => eid = .appExit
  | _ => false

/-- The orders to restart or delete an application. -/
def Label.isOrder : Label cfg → Bool
  | .call (.restartApp _) => true
  | .call (.deleteApp _) => true
  | _ => false

/-- The dials, and if asked for the aliveness switch and the orders. -/
def dialLook (cfg : Config) (switch orders : Bool) :
    Look (AppData cfg) (Label cfg) Stop (Dials × Option SwitchState) where
  view := fun s => (s.dials, if switch then some s.currentAlivenessState else none)
  seen := fun x => x.ofDials || (x.isOrder && orders)
  excused := fun _ => True

/-- `m` leaves alone what is watched. -/
abbrev Aloof (switch orders : Bool) (m : HsM cfg α) : Prop := Silent (dialLook cfg switch orders) m

theorem Lib.Silent.dials {m : HsM cfg α} (h : Aloof switch orders m) (s : AppData cfg) :
    (m s).state.dials = s.dials := congrArg Prod.fst (h.view s)

theorem halt_aloof (e : Stop) : Aloof switch orders (halt e : HsM cfg α) := .stop trivial

/-! ### The monitors -/

theorem deref_aloof (tbl : TableId) (reader : Reader) (p : Option α) :
    Aloof switch orders (deref tbl reader p : HsM cfg α) := by
  cases p with
  | some t => exact .pure t
  | none => exact .bind (.emit rfl) fun _ => halt_aloof _

theorem readAmt_aloof (reader : Reader) (i : Fin cfg.maxMonitoredApps) :
    Aloof switch orders (readAmt reader i) :=
  .get_bind fun _ => .bind (deref_aloof _ _ _) fun _ => .bind (.emit rfl) fun _ => .pure _

theorem readEmt_aloof (reader : Reader) (i : Fin cfg.maxMonitoredEvents) :
    Aloof switch orders (readEmt reader i) :=
  .get_bind fun _ => .bind (deref_aloof _ _ _) fun _ => .bind (.emit rfl) fun _ => .pure _

theorem readMat_aloof (reader : Reader) (i : Fin cfg.maxMsgActTypes) :
    Aloof switch orders (readMat reader i) :=
  .get_bind fun _ => .bind (deref_aloof _ _ _) fun _ => .bind (.emit rfl) fun _ => .pure _

theorem readXct_aloof (reader : Reader) (i : Fin cfg.maxExecCntSlots) :
    Aloof switch orders (readXct reader i) :=
  .get_bind fun _ => .bind (deref_aloof _ _ _) fun _ => .bind (.emit rfl) fun _ => .pure _

theorem setCDSData_aloof (a b : UInt16) : Aloof switch orders (setCDSData a b : HsM cfg Unit) :=
  .bind (.modify fun _ => rfl) fun _ => .get_bind fun _ => .ite (.emit rfl) (.pure _)

theorem procReset_aloof (returns : Bool) :
    Aloof switch orders (procReset returns : HsM cfg Unit) := by
  refine .get_bind fun _ => .ite ?_ (.emit rfl)
  refine .bind (setCDSData_aloof _ _) fun _ => .bind (.emit rfl) fun _ =>
    .bind (.emit rfl) fun _ => .bind (.modify fun _ => rfl) fun _ => .get_bind fun _ => ?_
  exact .bind (.emit rfl) fun _ => .ite (halt_aloof _) (.pure _)

theorem sendEvent_aloof {eid : EventId} (h : eid ≠ .appExit) (type : EventType)
    (args : List EvtArg) : Aloof switch orders (sendEvent eid type args : HsM cfg Unit) := by
  refine .emit ?_
  show (decide (eid = .appExit) || false) = false
  rw [decide_eq_false h]
  rfl

theorem msgAction_aloof (reader : Reader) {eid : EventId} (h : eid ≠ .appExit)
    (args : List EvtArg) (n : UInt32) :
    Aloof switch orders (msgAction reader eid args n : HsM cfg Unit) := by
  refine .get_bind fun d => ?_
  split
  · refine .ite (.ite ?_ (.emit rfl)) (.emit rfl)
    refine .bind (readMat_aloof _ _) fun row => .ite ?_ (.emit rfl)
    refine .bind (.emit rfl) fun _ => .bind (.emit rfl) fun _ => ?_
    exact .bind (.modify fun _ => rfl) fun _ => .ite (sendEvent_aloof h _ _) (.pure _)
  · exact .emit rfl

theorem resolveApp_aloof (i : Fin cfg.maxMonitoredApps) (row : AMTEntry) (lk : AppLookup)
    (v : AppMonVars) : Aloof switch orders (resolveApp i row lk v) := by
  refine .bind (.emit rfl) fun _ => .ite (.bind (.emit rfl) fun _ => .pure _) ?_
  exact .bind (.get_bind fun _ => .ite (.emit rfl) (.emit rfl)) fun _ => .pure _

theorem appMonAction_aloof (i : Fin cfg.maxMonitoredApps) (row : AMTEntry) (lk : AppLookup)
    (status : Status) (appId : UInt32) :
    Aloof switch false (appMonAction i row lk status appId) := by
  refine .bind (.emit rfl) fun _ =>
    .ite ?_ (.ite ?_ (.ite (.emit rfl) (msgAction_aloof _ (by decide) _ _)))
  · exact .bind (.emit rfl) fun _ => procReset_aloof _
  · refine .bind (.emit rfl) fun _ => .ite ?_ (.emit rfl)
    exact .bind (.emit rfl) fun _ => .ite (.emit rfl) (.pure _)

theorem monitorApp_aloof (lks : Fin cfg.maxMonitoredApps → AppLookup) (v : AppMonVars)
    (i : Fin cfg.maxMonitoredApps) : Aloof switch false (monitorApp lks v i) := by
  refine .bind (readAmt_aloof _ _) fun row => .get_bind fun _ => .ite ?_ (.pure _)
  refine .bind (resolveApp_aloof _ _ _ _) fun _ => .bind ?_ fun _ => .pure _
  refine .get_bind fun _ => .ite (.modify fun _ => rfl) (.bind (.modify fun _ => rfl) fun _ => ?_)
  exact .get_bind fun _ => .when (.bind (.modify fun _ => rfl) fun _ =>
    appMonAction_aloof _ _ _ _ _)

theorem checkApplications_aloof (lks : Fin cfg.maxMonitoredApps → AppLookup) :
    Aloof switch false (checkApplications lks) :=
  .get_bind fun _ => .when (.bind (.fold (monitorApp_aloof lks) _ _) fun _ => .pure _)

theorem appCommand_aloof (row : EMTEntry) (lk : EvtLookup) (appId : UInt32)
    {okEid errEid : EventId} (hok : okEid ≠ .appExit) (herr : errEid ≠ .appExit)
    {cmd : UInt32 → Call cfg} (hcmd : ∀ n, (Label.call (cmd n)).ofDials = false)
    (cmdStatus : Status) :
    Aloof switch false (appCommand row lk appId okEid errEid cmd cmdStatus) := by
  refine .bind (.emit rfl) fun _ => .bind (.ite ?_ (sendEvent_aloof herr _ _)) fun _ => .pure _
  refine .bind (sendEvent_aloof hok _ _) fun _ => .bind (.emit ?_) fun _ =>
    .ite (sendEvent_aloof herr _ _) (.pure _)
  show (_ || (_ && false)) = false
  rw [hcmd, Bool.and_false]
  rfl

theorem eventAction_aloof (i : Fin cfg.maxMonitoredEvents) (row : EMTEntry) (lk : EvtLookup)
    (appId : UInt32) : Aloof switch false (eventAction i row lk appId) := by
  refine .bind (.emit rfl) fun _ => .ite ?_ (.ite ?_ (.ite ?_ ?_))
  · exact .bind (.emit rfl) fun _ => .bind (procReset_aloof _) fun _ => .pure _
  · exact appCommand_aloof _ _ _ (by decide) (by decide) (fun _ => rfl) _
  · exact appCommand_aloof _ _ _ (by decide) (by decide) (fun _ => rfl) _
  · exact .bind (msgAction_aloof _ (by decide) _ _) fun _ => .pure _

theorem receiveEvent_aloof (ev : EvtMsg) (lks : Fin cfg.maxMonitoredEvents → EvtLookup) :
    Aloof switch false (receiveEvent ev lks) := by
  refine .bind (.modify fun _ => rfl) fun _ => .bind (.fold (fun appId i => ?_) _ _)
    fun _ => .pure _
  exact .bind (readEmt_aloof _ _) fun _ => .ite (eventAction_aloof _ _ _ _) (.pure _)

theorem drainEvents_aloof (c : CycleIn cfg) : Aloof switch false (drainEvents c) := by
  refine .get_bind fun _ => .ite (.bind (.each _ fun e _ => ?_) fun _ => .pure _) (.pure _)
  obtain ⟨_ | ev, lks⟩ := e
  · exact .pure _
  · exact receiveEvent_aloof ev lks

/-! ### The tables -/

theorem appMonStatusRefresh_aloof :
    Aloof switch orders (appMonStatusRefresh : HsM cfg Unit) := by
  refine .bind (.modify fun _ => rfl) fun _ => .each _ fun i _ => ?_
  refine .bind (.modify fun _ => rfl) fun _ => .bind (readAmt_aloof _ _) fun _ => ?_
  exact .ite (.modify fun _ => rfl) (.modify fun _ => rfl)

theorem getTable_aloof (tbl : TableId) (status : Status) {set : AppData cfg → AppData cfg}
    (h : ∀ d, (dialLook cfg switch orders).view (set d) = (dialLook cfg switch orders).view d) :
    Aloof switch orders (getTable tbl status set) :=
  .bind (.emit rfl) fun _ => .bind (.emit rfl) fun _ => .bind (.emit rfl) fun _ => .modify h

/-- A loss is reported and recorded, if it is owed. -/
theorem reportLoss_aloof {p : AppData cfg → Prop} [DecidablePred p] {eid : EventId}
    (h : eid ≠ .appExit) (args : List EvtArg) {rest : AppData cfg → HsM cfg Unit}
    (hrest : ∀ d, Aloof switch orders (rest d)) :
    Aloof switch orders
      (appData >>= fun d => Prog.when (p d) (sendEvent eid .error args >>= fun _ => rest d)) :=
  .get_bind fun d => .when (.bind (sendEvent_aloof h _ _) fun _ => hrest d)

theorem acquireAppMon_aloof (r : TblReply (AMT cfg)) :
    Aloof switch orders (acquireAppMon r) := by
  refine .bind (getTable_aloof _ _ fun _ => rfl) fun _ =>
    .bind (.when appMonStatusRefresh_aloof) fun _ => .ite ?_ (.modify fun _ => rfl)
  exact reportLoss_aloof (by decide) _ fun _ => .modify fun _ => rfl

theorem acquireEventMon_aloof (r : TblReply (EMT cfg)) (unsubLong unsubShort : Status) :
    Aloof switch orders (acquireEventMon r unsubLong unsubShort) := by
  refine .bind (getTable_aloof _ _ fun _ => rfl) fun _ => .ite ?_ (.modify fun _ => rfl)
  refine reportLoss_aloof (by decide) _ fun _ => .bind (.when ?_) fun _ => .modify fun _ => rfl
  exact .bind (.emit rfl) fun _ => .bind (.when (.emit rfl)) fun _ =>
    .bind (.emit rfl) fun _ => .when (.emit rfl)

theorem acquireMsgActs_aloof (r : TblReply (MAT cfg)) :
    Aloof switch orders (acquireMsgActs r) := by
  refine .bind (getTable_aloof _ _ fun _ => rfl) fun _ => .bind (.when (.modify fun _ => rfl))
    fun _ => .ite ?_ (.modify fun _ => rfl)
  exact reportLoss_aloof (by decide) _ fun _ => .modify fun _ => rfl

theorem acquireExeCount_aloof (r : TblReply (XCT cfg)) :
    Aloof switch orders (acquireExeCount r) := by
  refine .bind (getTable_aloof _ _ fun _ => rfl) fun _ => .ite ?_ (.modify fun _ => rfl)
  exact reportLoss_aloof (by decide) _ fun _ => .modify fun _ => rfl

theorem acquirePointers_aloof (r : AcquireIn cfg) : Aloof switch orders (acquirePointers r) :=
  .bind (acquireAppMon_aloof _) fun _ => .bind (acquireEventMon_aloof _ _ _) fun _ =>
    .bind (acquireMsgActs_aloof _) fun _ => acquireExeCount_aloof _

/-! ### The commands -/

theorem sendHkCmd_aloof (r : HkIn cfg) : Aloof switch orders (sendHkCmd r) := by
  refine .bind (.emit rfl) fun _ => .bind (.modify fun _ => rfl) fun _ =>
    .bind (.each _ fun i _ => ?_) fun _ => .bind (.modify fun _ => rfl) fun _ =>
    .bind (.each _ fun i _ => ?_) fun _ => .get_bind fun _ => .emit rfl
  · refine .bind (readEmt_aloof _ _) fun _ => .ite (.bind (.emit rfl) fun _ => ?_) (.pure _)
    exact .ite (.modify fun _ => rfl) (.pure _)
  · refine .get_bind fun _ => .ite ?_ (.modify fun _ => rfl)
    refine .bind (readXct_aloof _ _) fun _ => .bind (.ite ?_ (.ite ?_ ?_)) fun _ =>
      .modify fun _ => rfl
    · exact .bind (.emit rfl) fun _ => .ite (.bind (.emit rfl) fun _ => .pure _) (.pure _)
    · exact .bind (.emit rfl) fun _ => .ite (.bind (.emit rfl) fun _ => .pure _) (.pure _)
    · exact .ite (.pure _) (.bind (.emit rfl) fun _ => .pure _)

theorem switchCmd_aloof (h : Handler) {set : AppData cfg → AppData cfg} {eid : EventId}
    (hid : eid ≠ .appExit)
    (hset : ∀ d, (dialLook cfg switch orders).view (set d) =
      (dialLook cfg switch orders).view d) :
    Aloof switch orders (switchCmd h set eid) :=
  .bind (.emit rfl) fun _ => .bind (.modify fun _ => rfl) fun _ => .bind (.modify hset) fun _ =>
    sendEvent_aloof hid _ _

theorem eventMonCmd_aloof (h : Handler) (target : SwitchState)
    {first second : Status → Call cfg} (firstStatus secondStatus : Status)
    {firstEid secondEid eid : EventId} (hfirst : Aloof switch orders (call (first firstStatus)))
    (hsecond : Aloof switch orders (call (second secondStatus)))
    (hids : firstEid ≠ .appExit ∧ secondEid ≠ .appExit ∧ eid ≠ .appExit) :
    Aloof switch orders (eventMonCmd h target
      (bothCalls first second firstStatus secondStatus firstEid secondEid) eid) := by
  refine .bind (.emit rfl) fun _ => .bind (.get_bind fun _ => .ite (.pure _) ?_) fun _ =>
    .ite ?_ (.modify fun _ => rfl)
  · refine .bind hfirst fun _ => .ite (.bind hsecond fun _ => ?_) ?_
    · exact .bind (.when (sendEvent_aloof hids.2.1 _ _)) fun _ => .pure _
    · exact .bind (sendEvent_aloof hids.1 _ _) fun _ => .pure _
  · exact .bind (.modify fun _ => rfl) fun _ => .bind (.modify fun _ => rfl) fun _ =>
      sendEvent_aloof hids.2.2 _ _

/-- The commands leave all but the aliveness switch alone. -/
theorem handler_aloof (msg : CmdMsg) (r : CmdReplies cfg) (h : Handler) :
    Aloof false orders (h.run msg r) := by
  cases h with
  | sendHk => exact sendHkCmd_aloof r.hk
  | noop | reset =>
    exact .bind (.emit rfl) fun _ => .bind (.modify fun _ => rfl) fun _ => .emit rfl
  | enableAppMon =>
    exact .bind (.emit rfl) fun _ => .bind (.modify fun _ => rfl) fun _ =>
      .bind appMonStatusRefresh_aloof fun _ => .bind (.modify fun _ => rfl) fun _ => .emit rfl
  | enableEventMon | disableEventMon =>
    exact eventMonCmd_aloof _ _ _ _ (.emit rfl) (.emit rfl) (by decide)
  | resetResetsPerformed =>
    exact .bind (.emit rfl) fun _ => .bind (.modify fun _ => rfl) fun _ =>
      .get_bind fun _ => .bind (setCDSData_aloof _ _) fun _ => .emit rfl
  | setMaxResets =>
    exact .bind (.emit rfl) fun _ => .bind (.modify fun _ => rfl) fun _ =>
      .get_bind fun _ => .bind (setCDSData_aloof _ _) fun _ => .get_bind fun _ => .emit rfl
  | disableAppMon | enableAliveness | disableAliveness | enableCpuHog | disableCpuHog =>
    exact switchCmd_aloof _ (by decide) fun _ => rfl

theorem appPipe_aloof (msg : CmdMsg) (r : CmdReplies cfg) : Aloof false orders (appPipe msg r) := by
  cases hacc : accepted cfg msg with
  | some h =>
    rw [appPipe_of_accepted hacc]
    exact handler_aloof msg r h
  | none =>
    rcases appPipe_of_not_accepted hacc r with hrun | ⟨n, -, hrun⟩ <;> rw [hrun]
    · exact .ite (.bind (.emit rfl) fun _ => .modify fun _ => rfl)
        (.bind (.modify fun _ => rfl) fun _ => .emit rfl)
    · refine .bind (.ite (.ite ?_ ?_) (.pure _)) fun _ => .pure _
      · exact .bind (.emit rfl) fun _ => .pure _
      · exact .bind (.emit rfl) fun _ => .bind (.modify fun _ => rfl) fun _ => .pure _

theorem drainCommands_aloof (c : CycleIn cfg) : Aloof false orders (drainCommands c) := by
  refine .bind (.each _ fun m _ => ?_) fun _ => .pure _
  obtain ⟨_ | msg, r⟩ := m
  · exact .pure _
  · exact appPipe_aloof msg r

theorem processCommands_aloof (c : CycleIn cfg) : Aloof false false (processCommands c) :=
  .bind (drainEvents_aloof c) fun _ =>
    .ite (.bind (drainCommands_aloof c) fun _ => .pure _) (.pure _)

/-! ### The rest of a pass -/

theorem decrementCooldowns_aloof : Aloof switch orders (decrementCooldowns : HsM cfg Unit) :=
  .bind (.emit rfl) fun _ => .modify fun _ => rfl

theorem serviceWatchdog_aloof : Aloof switch orders (serviceWatchdog : HsM cfg Unit) :=
  .get_bind fun _ => .when (.emit rfl)

/-! ### Initialization -/

theorem startup_aloof (j : StartIn) : Aloof switch orders (startup j : HsM cfg _) := by
  refine .bind (.emit rfl) fun _ => .bind (.emit rfl) fun _ => .bind (.emit rfl) fun _ =>
    .bind (.emit rfl) fun _ => .bind (.emit rfl) fun _ => .get_bind fun _ => .ite ?_ (.pure _)
  refine .bind (.emit rfl) fun _ => .ite (.bind (.emit rfl) fun _ => .pure _) ?_
  exact .bind (.emit rfl) fun _ => .ite (.bind (.emit rfl) fun _ => .pure _) (.pure _)

theorem cdsInit_aloof (registerCDS : Status) (restoreFromCDS : Reply CDSData) :
    Aloof switch orders (cdsInit registerCDS restoreFromCDS : HsM cfg Unit) := by
  refine .bind (.emit rfl) fun _ => .ite ?_ (.ite (setCDSData_aloof _ _) ?_)
  · refine .bind (.emit rfl) fun _ => .bind (.modify fun _ => rfl) fun _ => .ite ?_ ?_
    · exact .get_bind fun _ => .when (.bind (.emit rfl) fun _ => setCDSData_aloof _ _)
    · exact .bind (.emit rfl) fun _ => setCDSData_aloof _ _
  · exact .bind (.modify fun _ => rfl) fun _ => setCDSData_aloof _ _

theorem attempt_aloof {c : Call cfg} (hc : Aloof switch orders (call c)) (status : Status)
    {eid : EventId} (h : eid ≠ .appExit) {rest : HsM cfg Status}
    (hrest : Aloof switch orders rest) : Aloof switch orders (attempt c status eid rest) :=
  .bind hc fun _ => .ite (.bind (sendEvent_aloof h _ _) fun _ => .pure _) hrest

theorem sbInit_aloof (i : SbIn) : Aloof switch orders (sbInit i : HsM cfg Status) :=
  .bind (.modify fun _ => rfl) fun _ =>
    attempt_aloof (.emit rfl) _ (by decide) <| attempt_aloof (.emit rfl) _ (by decide) <|
    attempt_aloof (.emit rfl) _ (by decide) <| attempt_aloof (.emit rfl) _ (by decide) <|
    attempt_aloof (.emit rfl) _ (by decide) <| attempt_aloof (.emit rfl) _ (by decide) <|
    .pure success

theorem loadTable_aloof (tbl : TableId) (status : Status) {eid : EventId} (h : eid ≠ .appExit)
    {disable : HsM cfg Unit} (hdisable : Aloof switch orders disable) :
    Aloof switch orders (loadTable tbl status eid disable) :=
  .bind (.emit rfl) fun _ => .when (.bind (sendEvent_aloof h _ _) fun _ => hdisable)

theorem tblInit_aloof (i : TblIn cfg) : Aloof switch orders (tblInit i) := by
  refine attempt_aloof (.emit rfl) _ (by decide) <| attempt_aloof (.emit rfl) _ (by decide) <|
    attempt_aloof (.emit rfl) _ (by decide) <| attempt_aloof (.emit rfl) _ (by decide) ?_
  refine .bind (.bind (loadTable_aloof _ _ (by decide) (.modify fun _ => rfl)) fun _ =>
    .bind (loadTable_aloof _ _ (by decide) ?_) fun _ =>
    .bind (loadTable_aloof _ _ (by decide) ?_) fun _ =>
    loadTable_aloof _ _ (by decide) (.modify fun _ => rfl)) fun _ =>
    .bind (acquirePointers_aloof _) fun _ => .pure _
  · exact .bind (.modify fun _ => rfl) fun _ => .bind (.emit rfl) fun _ => .modify fun _ => rfl
  · exact .bind (.modify fun _ => rfl) fun _ => .bind (.emit rfl) fun _ => .modify fun _ => rfl

/-- What is watched, less the device: the initialization leaves it alone. -/
def startLook (cfg : Config) : Look (AppData cfg) (Label cfg) Stop (UInt32 × UInt32) where
  view := fun s => (s.alivenessCounter, s.utilizationCycleCounter)
  seen := Label.isOrder
  excused := fun _ => True

theorem Lib.Silent.forgetDevice {m : HsM cfg α} (h : Aloof false true m) :
    Silent (startLook cfg) m := by
  refine h.mono (fun _ _ heq => congrArg (fun v : Dials × Option SwitchState =>
    (v.1.alivenessCounter, v.1.utilizationCycleCounter)) heq) (fun x hx => ?_) fun _ he => he
  have hx' : (x.ofDials || (x.isOrder && true)) = false := hx
  rw [Bool.or_eq_false_iff, Bool.and_true] at hx'
  exact hx'.2

theorem sysMonInit_aloof (r : SysMonIn) : Silent (startLook cfg) (sysMonInit r) := by
  refine .ite (.bind (.emit rfl) fun _ => .pure _) ?_
  refine .bind (.modify fun _ => rfl) fun _ => .bind (.emit rfl) fun _ =>
    .bind (.emit rfl) fun _ => .ite (.bind (.emit rfl) fun _ => .pure _) ?_
  refine .bind (.emit rfl) fun _ => .bind (.when (.emit rfl)) fun _ =>
    .bind (.modify fun _ => rfl) fun _ => .bind (.emit rfl) fun _ =>
    .bind (.when (.emit rfl)) fun _ => ?_
  exact .bind (.modify fun _ => rfl) fun _ => .pure _

theorem initRest_aloof (i : InitIn cfg) : Silent (startLook cfg) (initRest i) := by
  refine .bind (.emit rfl) fun _ => .ite (.bind (.emit rfl) fun _ => .pure _)
    (.bind (cdsInit_aloof _ _).forgetDevice fun _ => ?_)
  refine .bind (sbInit_aloof _).forgetDevice fun _ => .ite (.pure _)
    (.bind (tblInit_aloof _).forgetDevice fun _ => .ite (.pure _)
      (.bind (sysMonInit_aloof _) fun _ => ?_))
  exact .ite (.bind (.emit rfl) fun _ => .pure _) (.bind (.emit rfl) fun _ => .pure _)

end HealthSafety
