import HealthSafety.Model.HkLocals
import HealthSafety.Tables.CounterTable
import HealthSafety.Tables.EventTable

/-!
# The housekeeping packet is a snapshot

`HS_SendHkCmd` hands `TaskId`, `TaskInfo`, `CounterId` and `Status` from one slot of the
execution counter table to the next, and it fills a packet that still holds the last
request.  Neither shows: each local is read only after the call of its own slot has
set it (`sendHkWithLocals_eq`), and each field of the packet is written
(`hkSnapshot_eq`).  So the packet that is sent belongs to the state and to the
answers of this one request, and nothing else changes (`hk_packet_snapshot`).
-/

namespace HealthSafety

open Lib

variable {cfg : Config} {s : AppData cfg} {emt : EMT cfg} {xct : XCT cfg}

/-! ### The locals -/

theorem countInvalidWithLocals_eq (status : Fin cfg.maxMonitoredEvents → Status) (v : HkLocals)
    (i : Fin cfg.maxMonitoredEvents) :
    (countInvalidWithLocals status v i >>= fun _ => pure ()) = countInvalidEvent status i := by
  rw [countInvalidWithLocals, countInvalidEvent, Prog.bind_assoc']
  refine congrArg (readEmt .sendHkCmd i >>= ·) (funext fun row => ?_)
  by_cases hact : row.actionType ≠ emtActNoact
  · by_cases hst : status i ≠ success
    · simp [hact, hst, Prog.bind_assoc']
      rfl
    · simp [hact, hst, Prog.bind_assoc']
  · simp [hact]

/-- What the switch leaves in `ExeCount` does not depend on the other locals. -/
theorem exeCountWithLocals_eq (row : XCTEntry) (lk : ExeLookup) (v : HkLocals) :
    (exeCountWithLocals row lk { v with exeCount := invalidExecount } >>= fun v => pure v.exeCount :
      HsM cfg UInt32) = exeCount row lk := by
  unfold exeCountWithLocals exeCount
  by_cases happ : row.resourceType = xctTypeAppMain ∨ row.resourceType = xctTypeAppChild
  · by_cases hid : lk.taskIDByName.status = success
    · by_cases hinfo : lk.taskInfo.status = success
      · simp [happ, hid, hinfo, Prog.bind_assoc', Reply.value]
      · simp [happ, hid, hinfo, Prog.bind_assoc', Reply.value]
    · simp [happ, hid, Prog.bind_assoc']
  rw [if_neg happ, if_neg happ]
  by_cases hdev : row.resourceType = xctTypeDevice ∨ row.resourceType = xctTypeIsr
  · by_cases hid : lk.genCounterIDByName.status = success
    · simp [hdev, hid, Prog.bind_assoc', Reply.value]
    · simp [hdev, hid, Prog.bind_assoc']
  rw [if_neg hdev, if_neg hdev]
  by_cases hno : row.resourceType = xctTypeNotype
  · simp [hno]
  · simp [hno, Prog.bind_assoc']

theorem reportWithLocals_eq (lks : Fin cfg.maxExecCntSlots → ExeLookup) (v : HkLocals)
    (i : Fin cfg.maxExecCntSlots) :
    (reportWithLocals lks v i >>= fun _ => pure ()) = reportExeCount lks i := by
  have hstore (f : AppData cfg → HkTlmPayload cfg) (v : HkLocals) :
      (modifyHk f >>= fun _ => pure v >>= fun _ => pure () : HsM cfg Unit) = modifyHk f := by
    funext s
    rw [modifyHk, Prog.modify_bind, Prog.pure_bind']
    rfl
  funext s
  rw [reportWithLocals, slotWithLocals, reportExeCount, Prog.bind_assoc', Prog.bind_assoc',
    Prog.get_bind, Prog.get_bind]
  simp only [Prog.bind_assoc', hstore]
  by_cases hon : s.exeCountState = .enabled
  · rw [if_pos hon, if_pos hon, Prog.bind_assoc']
    refine congrFun (congrArg (readXct .sendHkCmd i >>= ·) (funext fun row => ?_)) s
    rw [← exeCountWithLocals_eq row (lks i) v, Prog.bind_assoc']
    simp only [Prog.pure_bind']
  · rw [if_neg hon, if_neg hon, Prog.pure_bind']

/-- **Whatever the locals hold at first, the request is the same.** -/
theorem sendHkWithLocals_eq (stack : HkLocals) (r : HkIn cfg) :
    sendHkWithLocals stack r = sendHkCmd r := by
  have hdrop {α : Type} {m : HsM cfg α} {m' : HsM cfg Unit} (h : (m >>= fun _ => pure ()) = m')
      (rest : HsM cfg Unit) : (m >>= fun _ => rest) = m' >>= fun _ => rest := by
    rw [← h, Prog.bind_assoc']
    simp only [Prog.pure_bind']
  have hevents (v : HkLocals) := Prog.discard_fold (countInvalidWithLocals_eq r.appIDByName)
    (List.finRange cfg.maxMonitoredEvents) v
  have hslots (v : HkLocals) := Prog.discard_fold (reportWithLocals_eq r.exe)
    (List.finRange cfg.maxExecCntSlots) v
  unfold sendHkWithLocals sendHkCmd
  dsimp only
  simp only [hdrop (hslots _)]
  rw [hdrop (hevents _)]

/-! ### What a packet should hold -/

/-- The execution counter that the lookups of a slot give: the type is known, and every
call succeeds. -/
def ExeLookup.counter (lk : ExeLookup) (resourceType : UInt32) : Option UInt32 :=
  if resourceType = xctTypeAppMain ∨ resourceType = xctTypeAppChild then
    if lk.taskIDByName.status = success ∧ lk.taskInfo.status = success then some lk.taskInfo.out
    else none
  else if resourceType = xctTypeDevice ∨ resourceType = xctTypeIsr then
    if lk.genCounterIDByName.status = success ∧ lk.genCount.status = success then
      some lk.genCount.out
    else none
  else none

/-- The entry has an action, and the application it names does not resolve. -/
def EMTEntry.Unresolved (row : EMTEntry) (status : Status) : Prop :=
  row.actionType ≠ emtActNoact ∧ status ≠ success

instance (row : EMTEntry) (status : Status) : Decidable (row.Unresolved status) :=
  inferInstanceAs (Decidable (_ ∧ _))

/-- How many of the entries `is` do not resolve. -/
def unresolved (emt : EMT cfg) (status : Fin cfg.maxMonitoredEvents → Status)
    (is : List (Fin cfg.maxMonitoredEvents)) : Nat :=
  is.countP fun i => decide ((emt i).Unresolved (status i))

/-- The value of a slot. -/
def slotCount (state : SwitchState) (xct : XCT cfg) (lks : Fin cfg.maxExecCntSlots → ExeLookup)
    (i : Fin cfg.maxExecCntSlots) : UInt32 :=
  (if state = .enabled then (lks i).counter (xct i).resourceType else none).getD invalidExecount

/-- The packet that belongs to a state and the answers of one request. -/
def hkSnapshot (s : AppData cfg) (emt : EMT cfg) (xct : XCT cfg) (r : HkIn cfg) :
    HkTlmPayload cfg where
  cmdCount := s.cmdCount
  cmdErrCount := s.cmdErrCount
  currentAppMonState := s.currentAppMonState
  currentEventMonState := s.currentEventMonState
  currentAlivenessState := s.currentAlivenessState
  currentCPUHogState := s.currentCPUHogState
  statusFlags := statusFlags s
  resetsPerformed := s.cdsData.resetsPerformed
  maxResets := s.cdsData.maxResets
  eventsMonitoredCount := s.eventsMonitoredCount
  invalidEventMonCount :=
    UInt32.ofNat (unresolved emt r.appIDByName (List.finRange cfg.maxMonitoredEvents))
  appMonEnables := s.appMonEnables
  msgActExec := s.msgActExec
  utilCpuAvg := s.utilCpuAvg
  utilCpuPeak := s.utilCpuPeak
  exeCounts := slotCount s.exeCountState xct r.exe

/-- The housekeeping packet in a label. -/
def Label.packet : Label cfg → Option (HkTlmPayload cfg)
  | .call (.transmitHk p) => some p
  | _ => none

/-- The housekeeping packets that a log sends. -/
def sentPackets (l : List (Label cfg)) : List (HkTlmPayload cfg) := l.filterMap Label.packet

def AppData.withHk (s : AppData cfg) (p : HkTlmPayload cfg) : AppData cfg := { s with hkPacket := p }

/-- The packet after `n` more unresolved entries. -/
def HkTlmPayload.addInvalid (p : HkTlmPayload cfg) (n : Nat) : HkTlmPayload cfg :=
  { p with invalidEventMonCount := p.invalidEventMonCount + UInt32.ofNat n }

theorem HkTlmPayload.addInvalid_zero (p : HkTlmPayload cfg) : p.addInvalid 0 = p := by
  rw [HkTlmPayload.addInvalid, show UInt32.ofNat 0 = 0 from rfl, UInt32.add_zero]

theorem HkTlmPayload.addInvalid_addInvalid (p : HkTlmPayload cfg) (m n : Nat) :
    (p.addInvalid m).addInvalid n = p.addInvalid (m + n) := by
  simp only [HkTlmPayload.addInvalid, UInt32.ofNat_add, UInt32.add_assoc]

/-- The packet after the slots `is` have been filled from `f`. -/
def HkTlmPayload.fill (p : HkTlmPayload cfg) (f : Fin cfg.maxExecCntSlots → UInt32)
    (is : List (Fin cfg.maxExecCntSlots)) : HkTlmPayload cfg :=
  { p with exeCounts := fun i => if i ∈ is then f i else p.exeCounts i }

/-! ### The loops -/

theorem countInvalidEvent_apply (hs : s.emTablePtr = some emt)
    (status : Fin cfg.maxMonitoredEvents → Status) (i : Fin cfg.maxMonitoredEvents) :
    ∃ l, countInvalidEvent status i s =
        ⟨.ok (), s.withHk (s.hkPacket.addInvalid (unresolved emt status [i])), l⟩ ∧
      ∀ x ∈ l, x.packet = none := by
  rw [countInvalidEvent, Prog.bind_ok (readEmt_apply hs _ i)]
  by_cases hact : (emt i).actionType ≠ emtActNoact
  · by_cases hst : status i ≠ success
    · have hcount : unresolved emt status [i] = 1 := by
        simp [unresolved, EMTEntry.Unresolved, hact, hst]
      rw [hcount, if_pos hact, Prog.emit_bind, if_pos hst]
      exact ⟨_, rfl, by simp [modifyHk, Label.packet]⟩
    · have hcount : unresolved emt status [i] = 0 := by
        simp [unresolved, EMTEntry.Unresolved, hst]
      rw [hcount, HkTlmPayload.addInvalid_zero, if_pos hact, Prog.emit_bind, if_neg hst]
      exact ⟨_, rfl, by simp [Label.packet]⟩
  · have hcount : unresolved emt status [i] = 0 := by
      simp [unresolved, EMTEntry.Unresolved, hact]
    rw [hcount, HkTlmPayload.addInvalid_zero, if_neg hact]
    exact ⟨_, rfl, by simp [Label.packet]⟩

theorem unresolved_cons (emt : EMT cfg) (status : Fin cfg.maxMonitoredEvents → Status)
    (i : Fin cfg.maxMonitoredEvents) (is : List (Fin cfg.maxMonitoredEvents)) :
    unresolved emt status (i :: is) = unresolved emt status [i] + unresolved emt status is :=
  @List.countP_append _ _ [i] is

theorem countInvalidEvent_loop (status : Fin cfg.maxMonitoredEvents → Status)
    (is : List (Fin cfg.maxMonitoredEvents)) :
    ∀ s : AppData cfg, s.emTablePtr = some emt →
      ∃ l, Prog.each is (countInvalidEvent status) s =
          ⟨.ok (), s.withHk (s.hkPacket.addInvalid (unresolved emt status is)), l⟩ ∧
        ∀ x ∈ l, x.packet = none := by
  induction is with
  | nil =>
    intro s _
    refine ⟨[], ?_, by simp⟩
    rw [unresolved, List.countP_nil, HkTlmPayload.addInvalid_zero]
    rfl
  | cons i is ih =>
    intro s hs
    obtain ⟨l₁, h₁, hl₁⟩ := countInvalidEvent_apply hs status i
    obtain ⟨l₂, h₂, hl₂⟩ :=
      ih (s.withHk (s.hkPacket.addInvalid (unresolved emt status [i]))) hs
    refine ⟨l₁ ++ l₂, ?_, List.forall_mem_append.mpr ⟨hl₁, hl₂⟩⟩
    rw [Prog.each_cons, Prog.bind_ok h₁, h₂, unresolved_cons emt status i is,
      ← HkTlmPayload.addInvalid_addInvalid]
    rfl

/-- The switch leaves the counter of the slot in `ExeCount`. -/
theorem exeCount_apply {lk : ExeLookup}
    (hgen : lk.genCount.status ≠ success → lk.genCount.wrote = false) (row : XCTEntry)
    (s : AppData cfg) :
    ∃ l, exeCount row lk s =
        ⟨.ok ((lk.counter row.resourceType).getD invalidExecount), s, l⟩ ∧
      ∀ x ∈ l, x.packet = none := by
  unfold exeCount ExeLookup.counter
  by_cases happ : row.resourceType = xctTypeAppMain ∨ row.resourceType = xctTypeAppChild
  · rw [if_pos happ, if_pos happ, Prog.emit_bind]
    by_cases hid : lk.taskIDByName.status = success
    · by_cases hinfo : lk.taskInfo.status = success
      · refine ⟨_, by simp [hid, hinfo]; rfl, ?_⟩
        simp [Label.packet]
      · refine ⟨_, by simp [hid, hinfo]; rfl, ?_⟩
        simp [Label.packet]
    · refine ⟨_, by simp [hid]; rfl, ?_⟩
      simp [Label.packet]
  rw [if_neg happ, if_neg happ]
  by_cases hdev : row.resourceType = xctTypeDevice ∨ row.resourceType = xctTypeIsr
  · rw [if_pos hdev, if_pos hdev, Prog.emit_bind]
    by_cases hid : lk.genCounterIDByName.status = success
    · by_cases hcount : lk.genCount.status = success
      · refine ⟨_, by simp [hid, hcount, Reply.value]; rfl, ?_⟩
        simp [Label.packet]
      · refine ⟨_, by simp [hid, hcount, Reply.value, hgen hcount]; rfl, ?_⟩
        simp [Label.packet]
    · refine ⟨_, by simp [hid]; rfl, ?_⟩
      simp [Label.packet]
  rw [if_neg hdev, if_neg hdev]
  by_cases hno : row.resourceType = xctTypeNotype
  · exact ⟨[], by simp [hno], by simp⟩
  · refine ⟨_, by simp [hno]; rfl, ?_⟩
    simp [Label.packet]

/-- The tables that the last loop reads. -/
def CountsFrom (xct : XCT cfg) (state : SwitchState) (s : AppData cfg) : Prop :=
  s.exeCountState = state ∧ (state = .enabled → s.xcTablePtr = some xct)

/-- A call of `CFE_ES_GetGenCount` that fails leaves its output alone. -/
abbrev LeavesOutput (lks : Fin cfg.maxExecCntSlots → ExeLookup) : Prop :=
  ∀ i, (lks i).genCount.status ≠ success → (lks i).genCount.wrote = false

theorem HkTlmPayload.update_exeCounts (p : HkTlmPayload cfg)
    (f : Fin cfg.maxExecCntSlots → UInt32) (i : Fin cfg.maxExecCntSlots) :
    { p with exeCounts := Function.update p.exeCounts i (f i) } = p.fill f [i] := by
  have hcounts : Function.update p.exeCounts i (f i) =
      fun j => if j ∈ [i] then f j else p.exeCounts j := by
    funext j
    by_cases hj : j = i
    · subst hj
      simp
    · simp [hj]
  rw [hcounts, HkTlmPayload.fill]

theorem reportExeCount_apply {state : SwitchState} (hs : CountsFrom xct state s)
    {lks : Fin cfg.maxExecCntSlots → ExeLookup} (hgen : LeavesOutput lks)
    (i : Fin cfg.maxExecCntSlots) :
    ∃ l, reportExeCount lks i s =
        ⟨.ok (), s.withHk (s.hkPacket.fill (slotCount state xct lks) [i]), l⟩ ∧
      ∀ x ∈ l, x.packet = none := by
  obtain ⟨hstate, hxct⟩ := hs
  rw [reportExeCount, Prog.get_bind, hstate, ← HkTlmPayload.update_exeCounts]
  by_cases hon : state = .enabled
  · obtain ⟨l, hl, hpacket⟩ := exeCount_apply (hgen i) (xct i) s
    have hslot : slotCount state xct lks i =
        ((lks i).counter (xct i).resourceType).getD invalidExecount := by
      rw [slotCount, if_pos hon]
    rw [if_pos hon, Prog.bind_ok (readXct_apply (hxct hon) _ i), Prog.bind_ok hl, hslot]
    exact ⟨_, rfl, by simpa [modifyHk, Label.packet] using hpacket⟩
  · have hslot : slotCount state xct lks i = invalidExecount := by
      rw [slotCount, if_neg hon]
      rfl
    rw [if_neg hon, hslot]
    exact ⟨[], rfl, by simp⟩

theorem HkTlmPayload.fill_nil (p : HkTlmPayload cfg) (f : Fin cfg.maxExecCntSlots → UInt32) :
    p.fill f [] = p := by
  simp [HkTlmPayload.fill]

theorem HkTlmPayload.fill_fill (p : HkTlmPayload cfg) (f : Fin cfg.maxExecCntSlots → UInt32)
    (is js : List (Fin cfg.maxExecCntSlots)) : (p.fill f is).fill f js = p.fill f (is ++ js) := by
  have hcounts : (fun i => if i ∈ js then f i else if i ∈ is then f i else p.exeCounts i) =
      fun i => if i ∈ is ++ js then f i else p.exeCounts i := by
    funext i
    by_cases hj : i ∈ js
    · simp [hj]
    · simp [hj]
  simp only [HkTlmPayload.fill, hcounts]

theorem reportExeCount_loop {state : SwitchState} {lks : Fin cfg.maxExecCntSlots → ExeLookup}
    (hgen : LeavesOutput lks) (is : List (Fin cfg.maxExecCntSlots)) :
    ∀ s : AppData cfg, CountsFrom xct state s →
      ∃ l, Prog.each is (reportExeCount lks) s =
          ⟨.ok (), s.withHk (s.hkPacket.fill (slotCount state xct lks) is), l⟩ ∧
        ∀ x ∈ l, x.packet = none := by
  induction is with
  | nil =>
    intro s _
    refine ⟨[], ?_, by simp⟩
    rw [HkTlmPayload.fill_nil]
    rfl
  | cons i is ih =>
    intro s hs
    obtain ⟨l₁, h₁, hl₁⟩ := reportExeCount_apply hs hgen i
    obtain ⟨l₂, h₂, hl₂⟩ :=
      ih (s.withHk (s.hkPacket.fill (slotCount state xct lks) [i])) hs
    refine ⟨l₁ ++ l₂, ?_, List.forall_mem_append.mpr ⟨hl₁, hl₂⟩⟩
    rw [Prog.each_cons, Prog.bind_ok h₁, h₂]
    refine congrArg (fun p => (⟨.ok (), s.withHk p, l₁ ++ l₂⟩ : Out _ _ _ _)) ?_
    exact HkTlmPayload.fill_fill s.hkPacket _ [i] is

/-! ### The request -/

/-- The fields that are copied between the two loops. -/
def AppData.copyRest (d : AppData cfg) (p : HkTlmPayload cfg) : HkTlmPayload cfg :=
  { p with
    statusFlags := statusFlags d
    appMonEnables := d.appMonEnables
    utilCpuAvg := d.utilCpuAvg
    utilCpuPeak := d.utilCpuPeak }

/-- The steps of the request leave nothing of the packet as it was. -/
theorem hkSnapshot_eq (s : AppData cfg) (emt : EMT cfg) (xct : XCT cfg) (r : HkIn cfg) :
    (s.copyRest ((s.hkPacket.update s).addInvalid (unresolved emt r.appIDByName
        (List.finRange cfg.maxMonitoredEvents)))).fill
      (slotCount s.exeCountState xct r.exe) (List.finRange cfg.maxExecCntSlots) =
      hkSnapshot s emt xct r := by
  have hcount (n : UInt32) : (0 : UInt32) + n = n := UInt32.zero_add n
  simp only [HkTlmPayload.fill, AppData.copyRest, HkTlmPayload.addInvalid,
    HkTlmPayload.update, hkSnapshot, List.mem_finRange, if_true, hcount]

/-- A request that finds its tables sends the snapshot, and leaves it in the packet. -/
theorem sendHkCmd_snapshot (hemt : s.emTablePtr = some emt)
    (hxct : s.exeCountState = .enabled → s.xcTablePtr = some xct) {r : HkIn cfg}
    (hgen : LeavesOutput r.exe) :
    ∃ l, sendHkCmd r s = ⟨.ok (), s.withHk (hkSnapshot s emt xct r),
        l ++ [.call (.transmitHk (hkSnapshot s emt xct r))]⟩ ∧ ∀ x ∈ l, x.packet = none := by
  have hstart : modifyHk (fun d => d.hkPacket.update d) s =
      ⟨.ok (), s.withHk (s.hkPacket.update s), []⟩ := rfl
  obtain ⟨l₁, h₁, hl₁⟩ := countInvalidEvent_loop r.appIDByName
    (List.finRange cfg.maxMonitoredEvents) (s.withHk (s.hkPacket.update s)) hemt
  generalize hp : (s.hkPacket.update s).addInvalid (unresolved emt r.appIDByName
    (List.finRange cfg.maxMonitoredEvents)) = p
  have hloop : Prog.each (List.finRange cfg.maxMonitoredEvents) (countInvalidEvent r.appIDByName)
      (s.withHk (s.hkPacket.update s)) = ⟨.ok (), s.withHk p, l₁⟩ := by
    rw [h₁, ← hp]
    rfl
  have hmiddle : modifyHk (fun d => { d.hkPacket with
      statusFlags := statusFlags d
      appMonEnables := d.appMonEnables
      utilCpuAvg := d.utilCpuAvg
      utilCpuPeak := d.utilCpuPeak }) (s.withHk p) = ⟨.ok (), s.withHk (s.copyRest p), []⟩ := rfl
  have hfrom : CountsFrom xct s.exeCountState (s.withHk (s.copyRest p)) := ⟨rfl, hxct⟩
  obtain ⟨l₂, h₂, hl₂⟩ := reportExeCount_loop hgen (List.finRange cfg.maxExecCntSlots) _ hfrom
  have hpacket : (s.copyRest p).fill (slotCount s.exeCountState xct r.exe)
      (List.finRange cfg.maxExecCntSlots) = hkSnapshot s emt xct r := by
    rw [← hp]
    exact hkSnapshot_eq s emt xct r
  refine ⟨.mark (.handler .sendHk) :: (l₁ ++ l₂), ?_, ?_⟩
  · rw [sendHkCmd, Prog.emit_bind, Prog.bind_ok hstart, Prog.bind_ok hloop, Prog.bind_ok hmiddle,
      Prog.bind_ok h₂, Prog.get_bind, ← hpacket]
    simp only [List.nil_append, List.cons_append, List.append_assoc]
    rfl
  · exact List.forall_mem_cons.mpr ⟨rfl, List.forall_mem_append.mpr ⟨hl₁, hl₂⟩⟩

/-! ### What the packet says -/

/-- A bit of the status flags is set if and only if its state is enabled. -/
structure FlagsSet (s : AppData cfg) (flags : UInt8) : Prop where
  xct : flags &&& 0x01 ≠ 0 ↔ s.exeCountState = .enabled
  mat : flags &&& 0x02 ≠ 0 ↔ s.msgActsState = .enabled
  amt : flags &&& 0x04 ≠ 0 ↔ s.appMonLoaded = .enabled
  emt : flags &&& 0x08 ≠ 0 ↔ s.eventMonLoaded = .enabled
  cds : flags &&& 0x10 ≠ 0 ↔ s.cdsState = .enabled
  others : flags &&& 0xE0 = 0

theorem statusFlags_set (s : AppData cfg) : FlagsSet s (statusFlags s) := by
  constructor <;> unfold statusFlags <;> cases s.exeCountState <;> cases s.msgActsState <;>
    cases s.appMonLoaded <;> cases s.eventMonLoaded <;> cases s.cdsState <;> decide

/-- The count of the entries that do not resolve does not wrap. -/
theorem unresolved_toNat (emt : EMT cfg) (status : Fin cfg.maxMonitoredEvents → Status) :
    (UInt32.ofNat (unresolved emt status (List.finRange cfg.maxMonitoredEvents))).toNat =
      unresolved emt status (List.finRange cfg.maxMonitoredEvents) := by
  have hle : unresolved emt status (List.finRange cfg.maxMonitoredEvents) ≤
      (List.finRange cfg.maxMonitoredEvents).length := List.countP_le_length
  have hmax := cfg.verified.monitoredEvents_le
  have hsize : UInt32.size = 4294967296 := rfl
  rw [List.length_finRange] at hle
  exact UInt32.toNat_ofNat_of_lt' (by omega)

theorem InCycle.emTablePtr {r : AcquireIn cfg} (h : InCycle r s) (hemt : success ≤ r.emt.status) :
    s.emTablePtr = some r.emt.table := emTablePtr_of_acquired h.tables hemt

theorem InCycle.xcTablePtr {r : AcquireIn cfg} (h : InCycle r s)
    (hon : s.exeCountState = .enabled) : s.xcTablePtr = some r.xct.table := by
  have hstate : s.exeCountState = loadedState r.xct.status :=
    congrArg TableView.exeCountState h.tables
  rw [hstate, loadedState_eq_enabled] at hon
  exact (congrArg TableView.xct h.tables).trans (TblReply.ptr_eq_some.mpr ⟨hon, rfl⟩)

/-- **The housekeeping packet is a snapshot.**  In any state of a cycle that got the event
monitor table, and whatever the locals and the old packet hold, the request sends one
packet: the snapshot of this state and these answers.  Each slot holds the counter of
its own lookups, the invalid entries are counted without wrap, the status flags are those
of the states, and outside the packet nothing changes. -/
theorem hk_packet_snapshot {r : AcquireIn cfg} (h : InCycle r s) (hemt : success ≤ r.emt.status)
    (stack : HkLocals) (hk : HkIn cfg) (hgen : LeavesOutput hk.exe) :
    ∃ p l, sendHkWithLocals stack hk s = ⟨.ok (), { s with hkPacket := p }, l⟩ ∧
      sentPackets l = [p] ∧ p = hkSnapshot s r.emt.table r.xct.table hk ∧
      (∀ i, p.exeCounts i = (if s.exeCountState = .enabled then
        (hk.exe i).counter (r.xct.table i).resourceType else none).getD 0xFFFFFFFF) ∧
      p.invalidEventMonCount.toNat =
        unresolved r.emt.table hk.appIDByName (List.finRange cfg.maxMonitoredEvents) ∧
      FlagsSet s p.statusFlags := by
  obtain ⟨l, hrun, hl⟩ := sendHkCmd_snapshot (h.emTablePtr hemt) h.xcTablePtr hgen
  refine ⟨_, _, (sendHkWithLocals_eq stack hk ▸ hrun), ?_, rfl, fun i => rfl,
    unresolved_toNat _ _, statusFlags_set s⟩
  have hnil : sentPackets l = [] := List.filterMap_eq_nil_iff.mpr hl
  rw [sentPackets, List.filterMap_append]
  rw [sentPackets] at hnil
  rw [hnil]
  rfl

/-- Tables with one device and one event monitor entry. -/
def oneDevice : AcquireIn .small where
  amt := ⟨success, fun _ => ⟨[], 0, 0, 0⟩⟩
  emt := ⟨success, fun _ => ⟨[65], 0, 1, emtActAppRestart⟩⟩
  mat := ⟨success, fun _ => ⟨0, 0, ⟨0, 0⟩⟩⟩
  xct := ⟨success, fun _ => ⟨[66], 0, xctTypeDevice⟩⟩
  unsubLong := success
  unsubShort := success

/-- The application does not resolve; the device has counted to 7. -/
def deviceReplies : HkIn .small :=
  ⟨fun _ => -1, fun _ => ⟨⟨-1, 1, true⟩, ⟨-1, 2, true⟩, ⟨success, 3, true⟩, ⟨success, 7, true⟩⟩⟩

theorem hk_packet_snapshot_oneDevice :
    ∃ p, sentPackets (sendHkWithLocals ⟨11, 12, 13, 14, 15⟩ deviceReplies
        (acquirePointers oneDevice (initialData .small)).state).log = [p] ∧
      p.exeCounts ⟨0, by decide⟩ = 7 ∧ p.invalidEventMonCount.toNat = 1 := by
  have hin : InCycle oneDevice (acquirePointers oneDevice (initialData .small)).state :=
    .acquired (initialData .small)
  obtain ⟨p, l, hrun, hsent, -, hcounts, hinvalid, -⟩ :=
    hk_packet_snapshot hin (by decide) ⟨11, 12, 13, 14, 15⟩ deviceReplies fun i h => absurd rfl h
  refine ⟨p, ?_, hcounts _, hinvalid⟩
  rw [hrun]
  exact hsent

end HealthSafety
