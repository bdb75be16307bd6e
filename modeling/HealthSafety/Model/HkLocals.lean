import HealthSafety.Model.Cmds

/-!
# The housekeeping request with its locals

`HS_SendHkCmd` as it stands in `hs_cmds.c`, with the local variables that it hands
from one row to the next.  `sendHkCmd` of `Model/Cmds.lean` leaves them out; the two
are the same program (`sendHkWithLocals_eq` in `Tables/HkSnapshot.lean`).
-/

namespace HealthSafety

open Lib

variable {cfg : Config}

/-- The locals `ExeCount`, `TaskId`, `CounterId`, `TaskInfo.ExecutionCounter` and `Status`.
The local `AppId` is never read. -/
structure HkLocals where
  exeCount : UInt32
  taskId : UInt32
  counterId : UInt32
  executionCounter : UInt32
  status : Status

/-- The body of the first loop. -/
def countInvalidWithLocals (status : Fin cfg.maxMonitoredEvents → Status) (v : HkLocals)
    (i : Fin cfg.maxMonitoredEvents) : HsM cfg HkLocals := do
  let row ← readEmt .sendHkCmd i
  if row.actionType ≠ emtActNoact then
    call (.getAppIDByName row.appName)
    let v := { v with status := status i }
    if v.status ≠ success then
      modifyHk fun d =>
        { d.hkPacket with invalidEventMonCount := d.hkPacket.invalidEventMonCount + 1 }
    pure v
  else
    pure v

/-- The resource type switch. -/
def exeCountWithLocals (row : XCTEntry) (lk : ExeLookup) (v : HkLocals) : HsM cfg HkLocals :=
  if row.resourceType = xctTypeAppMain ∨ row.resourceType = xctTypeAppChild then do
    call (.getTaskIDByName row.resourceName)
    let v := { v with
      status := lk.taskIDByName.status
      taskId := lk.taskIDByName.value v.taskId }
    if v.status = success then
      call (.getTaskInfo v.taskId)
      let v := { v with
        status := lk.taskInfo.status
        executionCounter := lk.taskInfo.value v.executionCounter }
      pure (if v.status = success then { v with exeCount := v.executionCounter } else v)
    else
      pure v
  else if row.resourceType = xctTypeDevice ∨ row.resourceType = xctTypeIsr then do
    call (.getGenCounterIDByName row.resourceName)
    let v := { v with
      status := lk.genCounterIDByName.status
      counterId := lk.genCounterIDByName.value v.counterId }
    if v.status = success then
      call (.getGenCount v.counterId)
      pure { v with exeCount := lk.genCount.value v.exeCount }
    else
      pure v
  else if row.resourceType = xctTypeNotype then
    pure v
  else do
    sendEvent .hkreqResourceDbg .debug [.num row.resourceType.toNat]
    pure v

/-- The body of the last loop, up to the store into the packet. -/
def slotWithLocals (lks : Fin cfg.maxExecCntSlots → ExeLookup) (v : HkLocals)
    (i : Fin cfg.maxExecCntSlots) : HsM cfg HkLocals := do
  let v := { v with exeCount := invalidExecount }
  let d ← appData
  if d.exeCountState = .enabled then
    let row ← readXct .sendHkCmd i
    exeCountWithLocals row (lks i) v
  else
    pure v

/-- The body of the last loop. -/
def reportWithLocals (lks : Fin cfg.maxExecCntSlots → ExeLookup) (v : HkLocals)
    (i : Fin cfg.maxExecCntSlots) : HsM cfg HkLocals := do
  let v ← slotWithLocals lks v i
  modifyHk fun d =>
    { d.hkPacket with exeCounts := Function.update d.hkPacket.exeCounts i v.exeCount }
  pure v

/-- `HS_SendHkCmd`, with what the locals hold at first: of them only `TaskInfo` is
cleared. -/
def sendHkWithLocals (stack : HkLocals) (r : HkIn cfg) : HsM cfg Unit := do
  mark (.handler .sendHk)
  let v := { stack with executionCounter := 0 }
  modifyHk fun d => d.hkPacket.update d
  let v ← Prog.fold (countInvalidWithLocals r.appIDByName) v (List.finRange cfg.maxMonitoredEvents)
  modifyHk fun d => { d.hkPacket with
    statusFlags := statusFlags d
    appMonEnables := d.appMonEnables
    utilCpuAvg := d.utilCpuAvg
    utilCpuPeak := d.utilCpuPeak }
  let _ ← Prog.fold (reportWithLocals r.exe) v (List.finRange cfg.maxExecCntSlots)
  let d ← appData
  call (.transmitHk d.hkPacket)

end HealthSafety
