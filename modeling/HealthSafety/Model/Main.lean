import HealthSafety.Model.App

/-!
# The main function

`HS_AppMain`: initialization, startup, and the main loop until `CFE_ES_RunLoop`
returns false.  The environment answers one turn of the loop after another; the loop
is run on a list of these answers and gives nothing if they run out before it ends.

`CFE_ES_RunLoop` returns true as long as the run status is
`CFE_ES_RunStatus_APP_RUN` and no external stop was requested.  `CFE_SB_TIME_OUT` is
the parameter `timeOut`.  The performance log and the delay in a turn, which depend on
nothing and change nothing, are left out.
-/

namespace HealthSafety

open Lib

variable {cfg : Config}

/-! ### The run status -/

/-- An external stop, at a call to `CFE_ES_RunLoop`. -/
inductive ExternalStop
  /-- None was requested. -/
  | absent
  /-- It was requested, and the run status stays as it is. -/
  | kept
  /-- It was requested, and the status of the request, which is not
  `CFE_ES_RunStatus_APP_RUN`, is written over the run status. -/
  | written
  deriving DecidableEq

/-- The run status `HS_AppMain` exits with. -/
inductive ExitStatus
  | own (runStatus : RunStatus)
  | requested
  deriving DecidableEq

/-- `CFE_ES_RunLoop(&RunStatus)`: nothing while it returns true, and the run status it
leaves when it returns false. -/
def runLoop : ExternalStop → RunStatus → Option ExitStatus
  | .absent, .appRun => none
  | .absent, runStatus => some (.own runStatus)
  | .kept, runStatus => some (.own runStatus)
  | .written, _ => some .requested

/-! ### The loop -/

/-- What the environment answers in one turn of the main loop. -/
structure TurnIn (cfg : Config) where
  stop : ExternalStop
  wakeup : Status
  cycle : CycleIn cfg

/-- The locals `Status` and `RunStatus`.  `passes` counts the calls to
`HS_ProcessMain`, and is not in the source. -/
structure MainVars where
  status : Status
  runStatus : RunStatus
  passes : Nat

/-- The end of the loop body: set request to terminate main loop, unless the status is
`CFE_SUCCESS`. -/
def MainVars.next (v : MainVars) (status : Status) (passes : Nat) : MainVars where
  status := status
  runStatus := if status ≠ success then .appError else v.runStatus
  passes := passes

/-- The statuses of the wakeup pipe on which HS runs a pass. -/
def Wakes (cfg : Config) (timeOut wakeup : Status) : Prop :=
  wakeup = success ∨ wakeup = cfg.sbNoMessage ∨ wakeup = timeOut

instance (timeOut wakeup : Status) : Decidable (Wakes cfg timeOut wakeup) :=
  inferInstanceAs (Decidable (_ ∨ _ ∨ _))

/-- The body of the main loop. -/
def mainBody (timeOut : Status) (t : TurnIn cfg) (v : MainVars) : HsM cfg MainVars := do
  if Wakes cfg timeOut t.wakeup then
    let status ← processMain t.cycle
    pure (v.next status (v.passes + 1))
  else
    pure (v.next t.wakeup v.passes)

/-- The main loop. -/
def mainLoop (timeOut : Status) :
    List (TurnIn cfg) → MainVars → HsM cfg (Option (MainVars × ExitStatus))
  | [], _ => pure none
  | t :: ts, v =>
    match runLoop t.stop v.runStatus with
    | none => mainBody timeOut t v >>= mainLoop timeOut ts
    | some exitStatus => pure (some (v, exitStatus))

/-! ### The function -/

/-- `HS_AppMain` up to the main loop. -/
def mainStart (i : InitIn cfg) (j : StartIn) : HsM cfg (Status × RunStatus) := do
  let status ← appInit i
  if status = success then
    startup j
  else
    pure (status, .appRun)

/-- `HS_SysMonCleanup`; `stopped` says whether the device could be stopped. -/
def sysMonCleanup (stopped : Bool) : HsM cfg Unit := do
  let d ← appData
  Prog.when (d.sysMonPspModuleId ≠ 0) do
    call .iodriver
    Prog.when (stopped = false) (call .writeToSysLog)

/-- `HS_AppMain` after the main loop, up to `CFE_ES_ExitApp`. -/
def mainEnd (stopped : Bool) (v : MainVars) : HsM cfg Unit := do
  Prog.when (v.status ≠ success) do
    sendEvent .appExit .critical [.num v.status]
    call .writeToSysLog
  sysMonCleanup stopped

/-- What the environment answers to `HS_AppMain`. -/
structure MainIn (cfg : Config) where
  init : InitIn cfg
  start : StartIn
  turn : Nat → TurnIn cfg
  stopped : Bool

/-- `HS_AppMain` for at most `n` turns of the main loop. -/
def appMain (timeOut : Status) (i : MainIn cfg) (n : Nat) :
    HsM cfg (Option (MainVars × ExitStatus)) := do
  let start ← mainStart i.init i.start
  let out ← mainLoop timeOut ((List.range n).map i.turn) ⟨start.1, start.2, 0⟩
  match out with
  | none => pure none
  | some (v, exitStatus) => do
    mainEnd i.stopped v
    pure (some (v, exitStatus))

end HealthSafety
