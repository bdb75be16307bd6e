import HealthSafety.Step.Act

/-!
# What each function of HS does

One lemma for each function, in the order of the model: the kinds of acts it
does, from any state and whatever the environment answers.
-/

namespace HealthSafety

open Lib

variable {cfg : Config}

/-! ### Critical data -/

theorem setCDSData_apply (a b : UInt16) (s : AppData cfg) :
    setCDSData a b s =
      ⟨.ok (), { s with cdsData := .of a b }, copyLog s (.of a b)⟩ := by
  by_cases h : s.cdsState = .enabled <;> simp [setCDSData, copyLog, h]

theorem setCDSData_does (a b : UInt16) (s : AppData cfg) :
    Does [.budget] (setCDSData a b) s := by
  unfold Does Moves
  rw [setCDSData_apply]
  exact Chain.single ⟨.budget, by decide, .setCDS a b⟩

theorem procReset_of_lt {s : AppData cfg} (h : s.cdsData.resetsPerformed < s.cdsData.maxResets)
    (returns : Bool) :
    procReset returns s =
      ⟨if returns then .ok () else .error .reboot, s.countReset, resetLog s⟩ := by
  have hset := setCDSData_apply (s.cdsData.resetsPerformed + 1) s.cdsData.maxResets s
  cases returns <;>
    simp [procReset, h, Prog.bind_ok hset, resetCFE, resetLog, AppData.countReset]

theorem procReset_of_not_lt {s : AppData cfg}
    (h : ¬ s.cdsData.resetsPerformed < s.cdsData.maxResets) (returns : Bool) :
    procReset returns s = ⟨.ok (), s, [.call (.sendEvent .resetLimitErr .error [])]⟩ := by
  simp [procReset, h]

theorem procReset_does (returns : Bool) (s : AppData cfg) :
    Does [.quiet, .reset] (procReset returns) s := by
  unfold Does Moves
  by_cases h : s.cdsData.resetsPerformed < s.cdsData.maxResets
  · rw [procReset_of_lt h]
    exact Chain.single ⟨.reset, by decide, .reset h⟩
  · rw [procReset_of_not_lt h]
    exact Chain.single ⟨.quiet, by decide, .plain _ rfl⟩

/-! ### Table rows -/

theorem readAmt_does (reader : Reader) (i : Fin cfg.maxMonitoredApps) (s : AppData cfg) :
    Does [.read reader .amt] (readAmt reader i) s := by
  refine Does.get_bind ?_
  cases h : s.amTablePtr with
  | none =>
    rw [deref_none, Prog.bind_assoc']
    exact Does.bind (Does.emit (.nullRead _ .amt h) (by simp)) fun _ s => Does.halt _ s
  | some amt =>
    rw [deref_some, Prog.pure_bind']
    refine Does.bind (Does.emit (k := .read reader .amt) ?_ (by simp)) fun _ s => Does.pure _ s
    exact .rowRead reader (.amt i (amt i)) (by simp [TableRow.InUse, h])

theorem readEmt_does (reader : Reader) (i : Fin cfg.maxMonitoredEvents) (s : AppData cfg) :
    Does [.read reader .emt] (readEmt reader i) s := by
  refine Does.get_bind ?_
  cases h : s.emTablePtr with
  | none =>
    rw [deref_none, Prog.bind_assoc']
    exact Does.bind (Does.emit (.nullRead _ .emt h) (by simp)) fun _ s => Does.halt _ s
  | some emt =>
    rw [deref_some, Prog.pure_bind']
    refine Does.bind (Does.emit (k := .read reader .emt) ?_ (by simp)) fun _ s => Does.pure _ s
    exact .rowRead reader (.emt i (emt i)) (by simp [TableRow.InUse, h])

theorem readXct_does (reader : Reader) (i : Fin cfg.maxExecCntSlots) {s : AppData cfg}
    (hs : s.exeCountState = .enabled) : Does [.read reader .xct] (readXct reader i) s := by
  refine Does.get_bind ?_
  cases h : s.xcTablePtr with
  | none =>
    rw [deref_none, Prog.bind_assoc']
    exact Does.bind (Does.emit (.nullRead _ .xct ⟨h, hs⟩) (by simp)) fun _ s => Does.halt _ s
  | some xct =>
    rw [deref_some, Prog.pure_bind']
    refine Does.bind (Does.emit (k := .read reader .xct) ?_ (by simp)) fun _ s => Does.pure _ s
    exact .rowRead reader (.xct i (xct i)) (by simp [TableRow.InUse, h])

/-! ### Message actions -/

/-- A loaded table behind `readMat`. -/
theorem readMat_bind {β : Type} {s : AppData cfg} {mat : MAT cfg} (hm : s.maTablePtr = some mat)
    (reader : Reader) (idx : Fin cfg.maxMsgActTypes) (f : MATEntry → HsM cfg β) :
    (readMat reader idx >>= f) s =
      ⟨(f (mat idx) s).val, (f (mat idx) s).state,
        .mark (.rowRead reader (.mat idx (mat idx))) :: (f (mat idx) s).log⟩ := by
  rw [readMat, Prog.bind_assoc', Prog.get_bind, hm, deref_some, Prog.pure_bind', Prog.bind_assoc',
    Prog.emit_bind, Prog.pure_bind']

/-- The part of `msgAction` behind the row read. -/
theorem msgAction_sent {s : AppData cfg} {mat : MAT cfg} {idx : Fin cfg.maxMsgActTypes}
    (hs : s.msgActsState = .enabled) (hc : s.msgActCooldown idx = 0)
    (hm : s.maTablePtr = some mat) (he : (mat idx).enableState ≠ matStateDisabled)
    {reader : Reader} {eid : EventId} {args : List EvtArg} {n : UInt32} (hn : n.toNat = idx) :
    msgAction reader eid args n s =
      ⟨.ok (), s.countMsgAct idx (mat idx),
        .mark (.rowRead reader (.mat idx (mat idx))) ::
          .mark (.msgAct idx .enabled (some (mat idx)) true) :: .call (.transmitMsg idx (mat idx)) ::
          if (mat idx).enableState ≠ matStateNoevent then
            [.call (.sendEvent eid .error (args ++ [.num idx.val]))] else []⟩ := by
  have hrow : s.maTablePtr.map (· idx) = some (mat idx) := by rw [hm, Option.map_some]
  obtain ⟨i, hi⟩ := idx
  subst hn
  rw [msgAction, Prog.get_bind, dif_pos hi]
  dsimp only
  rw [hrow, if_pos hs, if_pos hc, readMat_bind hm, if_pos he, hs, Prog.emit_bind, Prog.emit_bind,
    Prog.modify_bind, AppData.countMsgAct]
  split
  · rfl
  · rfl

theorem msgAction_off {s : AppData cfg} {idx : Fin cfg.maxMsgActTypes}
    (h : s.msgActsState = .disabled ∨ s.msgActCooldown idx ≠ 0)
    {reader : Reader} {eid : EventId} {args : List EvtArg} {n : UInt32} (hn : n.toNat = idx) :
    msgAction reader eid args n s =
      ⟨.ok (), s, [.mark (.msgAct idx s.msgActsState (s.maTablePtr.map (· idx)) false)]⟩ := by
  obtain ⟨i, hi⟩ := idx
  subst hn
  rw [msgAction, Prog.get_bind, dif_pos hi]
  by_cases hs : s.msgActsState = .enabled
  · have hc := h.resolve_left (hs.trans_ne (by decide))
    exact congrFun ((if_pos hs).trans (if_neg hc)) s
  · exact congrFun (if_neg hs) s

theorem msgAction_rowOff {s : AppData cfg} {mat : MAT cfg} {idx : Fin cfg.maxMsgActTypes}
    (hs : s.msgActsState = .enabled) (hc : s.msgActCooldown idx = 0)
    (hm : s.maTablePtr = some mat) (he : (mat idx).enableState = matStateDisabled)
    {reader : Reader} {eid : EventId} {args : List EvtArg} {n : UInt32} (hn : n.toNat = idx) :
    msgAction reader eid args n s =
      ⟨.ok (), s, [.mark (.rowRead reader (.mat idx (mat idx))),
        .mark (.msgAct idx s.msgActsState (s.maTablePtr.map (· idx)) false)]⟩ := by
  obtain ⟨i, hi⟩ := idx
  subst hn
  rw [msgAction, Prog.get_bind, dif_pos hi]
  dsimp only
  rw [if_pos hs, if_pos hc, readMat_bind hm, if_neg (not_not.mpr he)]
  rfl

theorem msgAction_null {s : AppData cfg} {idx : Fin cfg.maxMsgActTypes}
    (hs : s.msgActsState = .enabled) (hc : s.msgActCooldown idx = 0) (hm : s.maTablePtr = none)
    {reader : Reader} {eid : EventId} {args : List EvtArg} {n : UInt32} (hn : n.toNat = idx) :
    msgAction reader eid args n s =
      ⟨.error (.nullRead .mat reader), s, [.mark (.nullRead .mat reader)]⟩ := by
  obtain ⟨i, hi⟩ := idx
  subst hn
  rw [msgAction, Prog.get_bind, dif_pos hi]
  dsimp only
  rw [if_pos hs, if_pos hc, readMat, Prog.bind_assoc', Prog.get_bind, hm]
  rfl

theorem msgAction_invalid {s : AppData cfg} {reader : Reader} {eid : EventId}
    {args : List EvtArg} {n : UInt32} (hn : cfg.maxMsgActTypes ≤ n.toNat) :
    msgAction reader eid args n s =
      ⟨.ok (), s, [.mark (.msgAct n.toNat s.msgActsState none false)]⟩ := by
  rw [msgAction, Prog.get_bind, dif_neg (Nat.not_lt.mpr hn)]
  rfl

/-- The five ways a message action can go. -/
theorem msgAction_cases (s : AppData cfg) (n : UInt32) :
    cfg.maxMsgActTypes ≤ n.toNat ∨ ∃ idx : Fin cfg.maxMsgActTypes, n.toNat = idx ∧
      ((s.msgActsState = .disabled ∨ s.msgActCooldown idx ≠ 0) ∨
        s.msgActsState = .enabled ∧ s.msgActCooldown idx = 0 ∧
          (s.maTablePtr = none ∨ ∃ mat, s.maTablePtr = some mat)) := by
  by_cases hn : n.toNat < cfg.maxMsgActTypes
  · refine .inr ⟨⟨n.toNat, hn⟩, rfl, ?_⟩
    cases hs : s.msgActsState with
    | disabled => exact .inl (.inl rfl)
    | enabled =>
      by_cases hc : s.msgActCooldown ⟨n.toNat, hn⟩ = 0
      · refine .inr ⟨rfl, hc, ?_⟩
        cases hm : s.maTablePtr with
        | none => exact .inl rfl
        | some mat => exact .inr ⟨mat, rfl⟩
      · exact .inl (.inr hc)
  · exact .inl (Nat.le_of_not_lt hn)

theorem msgAction_does (reader : Reader) (eid : EventId) (args : List EvtArg) (n : UInt32)
    (s : AppData cfg) :
    Does [.quiet, .read reader .mat, .message] (msgAction reader eid args n) s := by
  unfold Does Moves
  obtain hn | ⟨idx, hn, h | ⟨hs, hc, hm | ⟨mat, hm⟩⟩⟩ := msgAction_cases s n
  · rw [msgAction_invalid hn]
    exact Chain.single ⟨.message, by simp, .heldInvalid _ hn⟩
  · rw [msgAction_off h hn]
    exact Chain.single ⟨.message, by simp, .held idx (h.imp_right .inl)⟩
  · rw [msgAction_null hs hc hm hn]
    exact Chain.single ⟨.read reader .mat, by simp, .nullRead reader .mat ⟨hm, hs⟩⟩
  · have hread : Acts [.quiet, .read reader .mat, .message] s
        [.mark (.rowRead reader (.mat idx (mat idx)))] s :=
      ⟨.read reader .mat, by simp, .rowRead reader (.mat idx (mat idx))
        (by simp [TableRow.InUse, hm])⟩
    by_cases he : (mat idx).enableState = matStateDisabled
    · rw [msgAction_rowOff hs hc hm he hn]
      refine .cons hread (.single (A := Acts _) ?_)
      exact ⟨.message, by simp, .held idx (.inr (.inr ⟨mat, hm, he⟩))⟩
    · rw [msgAction_sent hs hc hm he hn]
      have hsend : Acts [.quiet, .read reader .mat, .message] s
          [.mark (.msgAct idx .enabled (some (mat idx)) true), .call (.transmitMsg idx (mat idx))]
          (s.countMsgAct idx (mat idx)) := ⟨.message, by simp, .transmit idx mat hs hc hm he⟩
      by_cases hev : (mat idx).enableState ≠ matStateNoevent
      · rw [if_pos hev]
        refine .cons hread (.cons hsend (.single (A := Acts _) ?_))
        exact ⟨.quiet, by simp, .plain _ rfl⟩
      · rw [if_neg hev]
        exact .cons hread (.cons hsend (.nil _))

/-! ### The monitors -/

/-- The kinds of acts of the application monitor. -/
def appMonKinds : List Kind :=
  [.quiet, .read .monitorApplications .amt, .read .monitorApplications .mat, .reset, .message,
    .appMon, .amtAction]

/-- The kinds of acts of the event monitor. -/
def eventKinds : List Kind :=
  [.quiet, .read .monitorEvent .emt, .read .monitorEvent .mat, .reset, .message, .emtAction]

/-- The kinds of acts behind the mark of an action. -/
def actionKinds (reader : Reader) : List Kind := [.quiet, .read reader .mat, .reset, .message]

instance (reader : Reader) : HasQuiet (actionKinds reader) := ⟨List.mem_cons_self⟩

theorem resolveApp_does (i : Fin cfg.maxMonitoredApps) (row : AMTEntry) (lk : AppLookup)
    (v : AppMonVars) (s : AppData cfg) : Does [.quiet] (resolveApp i row lk v) s := by
  refine Does.bind (Does.plain rfl) fun _ s => Does.ite (fun _ => ?_) (fun _ => ?_)
  · exact Does.bind (Does.plain rfl) fun _ s => Does.pure _ s
  · refine Does.bind (Does.get_bind ?_) fun _ s => Does.pure _ s
    exact Does.ite (fun _ => Does.plain rfl) (fun _ => Does.plain rfl)

/-- The action switch of `HS_MonitorApplications` is its mark and what one action
does. -/
theorem appMonAction_eq (i : Fin cfg.maxMonitoredApps) (row : AMTEntry) (lk : AppLookup)
    (status : Status) (appId : UInt32) : ∃ m : HsM cfg Unit,
      appMonAction i row lk status appId = mark (.amtAction i) >>= (fun _ => m) ∧
        ∀ s, Does (actionKinds .monitorApplications) m s := by
  refine ⟨_, rfl, fun s => ?_⟩
  refine Does.ite (fun _ => ?_) fun _ => Does.ite (fun _ => ?_) fun _ =>
    Does.ite (fun _ => Does.plain rfl) (fun _ => (msgAction_does _ _ _ _ s).mono (by decide))
  · exact Does.bind (Does.plain rfl) fun _ s => (procReset_does _ s).mono (by decide)
  · refine Does.bind (Does.plain rfl) fun _ s => Does.ite (fun _ => ?_) (fun _ => Does.plain rfl)
    refine Does.bind (Does.plain rfl) fun _ s =>
      Does.ite (fun _ => Does.plain rfl) (fun _ => Does.pure _ s)

theorem appMonAction_does (i : Fin cfg.maxMonitoredApps) (row : AMTEntry) (lk : AppLookup)
    (status : Status) (appId : UInt32) (s : AppData cfg) :
    Does appMonKinds (appMonAction i row lk status appId) s := by
  obtain ⟨m, h, hm⟩ := appMonAction_eq i row lk status appId
  rw [h]
  exact Does.bind (Does.emit (.amtAction i) (by decide)) fun _ s => (hm s).mono (by decide)

theorem countdownApp_does (i : Fin cfg.maxMonitoredApps) (row : AMTEntry) (lk : AppLookup)
    (status : Status) (v : AppMonVars) (s : AppData cfg) :
    Does appMonKinds (countdownApp i row lk status v) s := by
  refine Does.get_bind (Does.ite (fun _ => Does.modify (.appMon _ _ _) (by decide)) (fun _ => ?_))
  refine Does.bind (Does.modify (.appMon _ _ _) (by decide)) fun _ s =>
    Does.get_bind (Does.when fun _ => ?_)
  exact Does.bind (Does.modify (.appMon _ _ _) (by decide)) fun _ s => appMonAction_does _ _ _ _ _ s

theorem monitorApp_does (lks : Fin cfg.maxMonitoredApps → AppLookup) (v : AppMonVars)
    (i : Fin cfg.maxMonitoredApps) (s : AppData cfg) :
    Does appMonKinds (monitorApp lks v i) s := by
  refine Does.bind ((readAmt_does _ _ s).mono (by decide)) fun row s => Does.get_bind ?_
  refine Does.ite (fun _ => ?_) (fun _ => Does.pure _ s)
  refine Does.bind ((resolveApp_does _ _ _ _ s).mono (by decide)) fun r s => ?_
  exact Does.bind (countdownApp_does _ _ _ _ _ s) fun _ s => Does.pure _ s

theorem monitorApplications_does (lks : Fin cfg.maxMonitoredApps → AppLookup) (s : AppData cfg) :
    Does appMonKinds (monitorApplications lks) s :=
  Does.bind (Does.fold _ (monitorApp_does lks) _ s) fun _ s => Does.pure _ s

theorem appCommand_does (row : EMTEntry) (lk : EvtLookup) (appId : UInt32)
    (okEid errEid : EventId) {cmd : UInt32 → Call cfg} (hcmd : ∀ n, (cmd n).plain = true)
    (cmdStatus : Status) (s : AppData cfg) :
    Does [.quiet] (appCommand row lk appId okEid errEid cmd cmdStatus) s := by
  refine Does.bind (Does.plain rfl) fun _ s => ?_
  refine Does.bind (Does.ite (fun _ => ?_) (fun _ => Does.plain rfl)) fun _ s => Does.pure _ s
  refine Does.bind (Does.plain rfl) fun _ s => ?_
  refine Does.bind (Does.plain (hcmd _)) fun _ s => ?_
  exact Does.ite (fun _ => Does.plain rfl) (fun _ => Does.pure _ s)

/-- The action switch of `HS_MonitorEvent` is its mark and what one action does. -/
theorem eventAction_eq (i : Fin cfg.maxMonitoredEvents) (row : EMTEntry) (lk : EvtLookup)
    (appId : UInt32) : ∃ m : HsM cfg UInt32,
      eventAction i row lk appId = mark (.emtAction i) >>= (fun _ => m) ∧
        ∀ s, Does (actionKinds .monitorEvent) m s := by
  refine ⟨_, rfl, fun s => ?_⟩
  refine Does.ite (fun _ => ?_) fun _ => Does.ite (fun _ => ?_) fun _ =>
    Does.ite (fun _ => ?_) (fun _ => ?_)
  · refine Does.bind (Does.plain rfl) fun _ s => ?_
    exact Does.bind ((procReset_does _ s).mono (by decide)) fun _ s => Does.pure _ s
  · exact (appCommand_does _ _ _ _ _ (fun _ => rfl) _ s).mono (by decide)
  · exact (appCommand_does _ _ _ _ _ (fun _ => rfl) _ s).mono (by decide)
  · exact Does.bind ((msgAction_does _ _ _ _ s).mono (by decide)) fun _ s => Does.pure _ s

theorem eventAction_does (i : Fin cfg.maxMonitoredEvents) (row : EMTEntry) (lk : EvtLookup)
    (appId : UInt32) (s : AppData cfg) : Does eventKinds (eventAction i row lk appId) s := by
  obtain ⟨m, h, hm⟩ := eventAction_eq i row lk appId
  rw [h]
  exact Does.bind (Does.emit (.emtAction i) (by decide)) fun _ s => (hm s).mono (by decide)

theorem monitorEventRow_does (ev : EvtMsg) (lks : Fin cfg.maxMonitoredEvents → EvtLookup)
    (appId : UInt32) (i : Fin cfg.maxMonitoredEvents) (s : AppData cfg) :
    Does eventKinds (monitorEventRow ev lks appId i) s := by
  refine Does.bind ((readEmt_does _ _ s).mono (by decide)) fun row s => ?_
  exact Does.ite (fun _ => eventAction_does _ _ _ _ s) (fun _ => Does.pure _ s)

theorem monitorEvent_does (ev : EvtMsg) (lks : Fin cfg.maxMonitoredEvents → EvtLookup)
    (s : AppData cfg) : Does eventKinds (monitorEvent ev lks) s :=
  Does.bind (Does.fold _ (monitorEventRow_does ev lks) _ s) fun _ s => Does.pure _ s

/-! ### System monitor and utilization -/

theorem sysMonInit_does (r : SysMonIn) (s : AppData cfg) : Does [.quiet] (sysMonInit r) s := by
  refine Does.ite (fun _ => ?_) (fun _ => ?_)
  · exact Does.bind (Does.plain rfl) fun _ s => Does.pure _ s
  refine Does.bind (Does.aside rfl) fun _ s => Does.bind (Does.plain rfl) fun _ s => ?_
  refine Does.bind (Does.plain rfl) fun _ s => Does.ite (fun _ => ?_) (fun _ => ?_)
  · exact Does.bind (Does.plain rfl) fun _ s => Does.pure _ s
  refine Does.bind (Does.plain rfl) fun _ s => ?_
  refine Does.bind (Does.when fun _ => Does.plain rfl) fun _ s =>
    Does.bind (Does.aside rfl) fun _ s => ?_
  refine Does.bind (Does.plain rfl) fun _ s =>
    Does.bind (Does.when fun _ => Does.plain rfl) fun _ s => ?_
  exact Does.bind (Does.aside rfl) fun _ s => Does.pure _ s

theorem checkHogging_does (util : Int) (s : AppData cfg) :
    Does [.quiet] (checkHogging util) s := by
  refine Does.get_bind (Does.ite (fun _ => ?_) (fun _ => Does.aside rfl))
  refine Does.bind (Does.aside rfl) fun _ s => Does.get_bind ?_
  refine Does.ite (fun _ => ?_) (fun _ => Does.pure _ s)
  exact Does.bind (Does.plain rfl) fun _ s => Does.plain rfl

theorem sysMonGetCpuUtilization_does (r : Reply Int) (s : AppData cfg) :
    Does [.quiet] (sysMonGetCpuUtilization r) s := by
  refine Does.get_bind (Does.ite (fun _ => Does.pure _ s) (fun _ => ?_))
  refine Does.bind (Does.plain rfl) fun _ s => ?_
  exact Does.ite (fun _ => Does.pure _ s) (fun _ => Does.pure _ s)

theorem monitorUtilization_does (r : Reply Int) (s : AppData cfg) :
    Does [.quiet, .util] (monitorUtilization r) s := by
  have hutil (index : AppData cfg → UInt32)
      (tracker : AppData cfg → Fin cfg.utilPeakNumInterval → UInt32)
      (average peak : AppData cfg → UInt32) (s : AppData cfg) : Does [.quiet, .util]
        (modifyApp fun d => { d with
          currentCPUUtilIndex := index d
          utilizationTracker := tracker d
          utilCpuAvg := average d
          utilCpuPeak := peak d }) s :=
    Does.modify (.util _ _ _ _) (by decide)
  refine Does.get_bind (Does.bind (hutil _ _ _ _ s) fun _ s => Does.get_bind ?_)
  refine Does.bind (Does.when fun _ => hutil _ _ _ _ s) fun _ s => ?_
  refine Does.bind ((sysMonGetCpuUtilization_does r s).mono (by decide)) fun sample s => ?_
  refine Does.ite (fun _ => hutil _ _ _ _ s) (fun _ => ?_)
  refine Does.bind ((checkHogging_does _ s).mono (by decide)) fun _ s => ?_
  split
  · exact Does.bind (hutil _ _ _ _ s) fun _ s => Does.get_bind (hutil _ _ _ _ s)
  · exact Does.halt _ s

/-! ### Commands -/

/-- The kinds of acts of a housekeeping request. -/
def hkKinds : List Kind := [.quiet, .read .sendHkCmd .emt, .read .sendHkCmd .xct]

instance : HasQuiet hkKinds := ⟨List.mem_cons_self⟩

/-- The kinds of acts of the application monitor refresh. -/
def refreshKinds : List Kind := [.quiet, .read .appMonStatusRefresh .amt, .appMon]

instance : HasQuiet refreshKinds := ⟨List.mem_cons_self⟩

theorem countInvalidEvent_does (status : Fin cfg.maxMonitoredEvents → Status)
    (i : Fin cfg.maxMonitoredEvents) (s : AppData cfg) :
    Does hkKinds (countInvalidEvent status i) s := by
  refine Does.bind ((readEmt_does _ _ s).mono (by decide)) fun row s => ?_
  refine Does.ite (fun _ => ?_) (fun _ => Does.pure _ s)
  refine Does.bind (Does.plain rfl) fun _ s => ?_
  exact Does.ite (fun _ => Does.aside rfl) (fun _ => Does.pure _ s)

theorem exeCount_does (row : XCTEntry) (lk : ExeLookup) (s : AppData cfg) :
    Does [.quiet] (exeCount row lk) s := by
  refine Does.ite (fun _ => ?_) fun _ => Does.ite (fun _ => ?_) fun _ =>
    Does.ite (fun _ => Does.pure _ s) (fun _ => Does.bind (Does.plain rfl) fun _ s => Does.pure _ s)
  · refine Does.bind (Does.plain rfl) fun _ s => Does.ite (fun _ => ?_) (fun _ => Does.pure _ s)
    exact Does.bind (Does.plain rfl) fun _ s => Does.pure _ s
  · refine Does.bind (Does.plain rfl) fun _ s => Does.ite (fun _ => ?_) (fun _ => Does.pure _ s)
    exact Does.bind (Does.plain rfl) fun _ s => Does.pure _ s

theorem reportExeCount_does (lks : Fin cfg.maxExecCntSlots → ExeLookup)
    (i : Fin cfg.maxExecCntSlots) (s : AppData cfg) : Does hkKinds (reportExeCount lks i) s := by
  refine Does.get_bind (Does.ite (fun h => ?_) (fun _ => Does.aside rfl))
  refine Does.bind ((readXct_does _ _ h).mono (by decide)) fun row s => ?_
  exact Does.bind ((exeCount_does _ _ s).mono (by decide)) fun _ s => Does.aside rfl

theorem sendHkCmd_does (r : HkIn cfg) (s : AppData cfg) : Does hkKinds (sendHkCmd r) s := by
  refine Does.bind (Does.plain rfl) fun _ s => Does.bind (Does.aside rfl) fun _ s => ?_
  refine Does.bind (Does.each _ (countInvalidEvent_does _) s) fun _ s => ?_
  refine Does.bind (Does.aside rfl) fun _ s => ?_
  refine Does.bind (Does.each _ (reportExeCount_does _) s) fun _ s => ?_
  exact Does.get_bind (Does.plain rfl)

theorem appMonStatusRefresh_does (s : AppData cfg) :
    Does refreshKinds appMonStatusRefresh s := by
  refine Does.bind (Does.modify (.appMon _ _ _) (by decide)) fun _ s => ?_
  refine Does.each _ (fun i s => Does.bind (Does.modify (.appMon _ _ _) (by decide)) fun _ s =>
    ?_) s
  refine Does.bind ((readAmt_does _ _ s).mono (by decide)) fun row s => ?_
  exact Does.ite (fun _ => Does.modify (.appMon _ _ _) (by decide))
    (fun _ => Does.modify (.appMon _ _ _) (by decide))

theorem countCmd_does (s : AppData cfg) : Does [.cmdCount] countCmd s :=
  Does.modify (.cmdCount _ _) (by decide)

theorem countCmdErr_does (s : AppData cfg) : Does [.cmdCount] countCmdErr s :=
  Does.modify (.cmdCount _ _) (by decide)

theorem resetCounters_does (s : AppData cfg) : Does [.cmdCount, .eventCount] resetCounters s :=
  Chain.cons (A := Acts _) ⟨.cmdCount, by decide, .cmdCount 0 0⟩
    (Chain.single ⟨.eventCount, by decide, .eventCount 0 0⟩)

theorem switchCmd_does {ks : List Kind} {h : Handler} {set : AppData cfg → AppData cfg}
    {eid : EventId} [HasQuiet ks] {k : Kind} (hcount : Kind.cmdCount ∈ ks) (hk : k ∈ ks)
    (hset : ∀ s, Act k s [] (set s)) (s : AppData cfg) : Does ks (switchCmd h set eid) s :=
  Does.bind (Does.plain rfl) fun _ _ => Does.bind (Does.modify (.cmdCount _ _) hcount) fun _ s =>
    Does.bind (Does.modify (hset s) hk) fun _ _ => Does.plain rfl

theorem enableAppMonCmd_does (s : AppData cfg) :
    Does (.cmdCount :: .appMonSwitch :: refreshKinds) enableAppMonCmd s := by
  refine Does.bind (Does.plain rfl) fun _ s =>
    Does.bind ((countCmd_does s).mono (by decide)) fun _ s => ?_
  refine Does.bind ((appMonStatusRefresh_does s).mono (by decide)) fun _ s => ?_
  exact Does.bind (Does.modify (.appMonSwitch _) (by decide)) fun _ s => Does.plain rfl

/-- A call of one of the two event subscription functions. -/
def Call.subscription : Call cfg → Bool
  | .subscribeEx _ _ => true
  | .unsubscribe _ _ => true
  | _ => false

theorem subscription_does {c : Call cfg} (hc : c.subscription = true) (s : AppData cfg) :
    Does [.quiet, .eventMon] (call c) s := by
  cases c <;> simp only [Call.subscription, Bool.false_eq_true] at hc
  · exact Does.emit (.subscribe _ _) (by decide)
  · exact Does.emit (.unsubscribe _ _) (by decide)

theorem bothCalls_does {first second : Status → Call cfg}
    (h₁ : ∀ n, (first n).subscription = true) (h₂ : ∀ n, (second n).subscription = true)
    (firstStatus secondStatus : Status) (firstEid secondEid : EventId) (s : AppData cfg) :
    Does [.quiet, .eventMon]
      (bothCalls first second firstStatus secondStatus firstEid secondEid) s := by
  refine Does.bind (subscription_does (h₁ _) s) fun _ s => Does.ite (fun _ => ?_) (fun _ => ?_)
  · refine Does.bind (subscription_does (h₂ _) s) fun _ s => ?_
    refine Does.bind (Does.when fun _ => Does.plain rfl) fun _ s => ?_
    exact Does.pure _ s
  · exact Does.bind (Does.plain rfl) fun _ s => Does.pure _ s

theorem eventMonCmd_does {h : Handler} {target : SwitchState} {calls : HsM cfg Status}
    {eid : EventId} (hcalls : ∀ s, Does [.quiet, .eventMon] calls s) (s : AppData cfg) :
    Does [.quiet, .eventMon, .cmdCount] (eventMonCmd h target calls eid) s := by
  have hcalls' (s : AppData cfg) :
      Does [.quiet, .eventMon, .cmdCount] (eventMonCalls target calls) s :=
    Does.get_bind (Does.ite (fun _ => Does.pure _ s) (fun _ => (hcalls s).mono (by decide)))
  refine Does.bind (Does.plain rfl) fun _ s => Does.bind (hcalls' s) fun _ s => ?_
  refine Does.ite (fun _ => ?_) (fun _ => (countCmdErr_does s).mono (by decide))
  refine Does.bind ((countCmd_does s).mono (by decide)) fun _ s => ?_
  exact Does.bind (Does.modify (.eventMonSwitch _) (by decide)) fun _ s => Does.plain rfl

theorem enableEventMonCmd_does (subLong subShort : Status) (s : AppData cfg) :
    Does [.quiet, .eventMon, .cmdCount] (enableEventMonCmd subLong subShort) s :=
  eventMonCmd_does (bothCalls_does (fun _ => rfl) (fun _ => rfl) _ _ _ _) s

theorem disableEventMonCmd_does (unsubLong unsubShort : Status) (s : AppData cfg) :
    Does [.quiet, .eventMon, .cmdCount] (disableEventMonCmd unsubLong unsubShort) s :=
  eventMonCmd_does (bothCalls_does (fun _ => rfl) (fun _ => rfl) _ _ _ _) s

theorem resetResetsPerformedCmd_does (s : AppData cfg) :
    Does [.quiet, .budget, .cmdCount] resetResetsPerformedCmd s := by
  refine Does.bind (Does.plain rfl) fun _ s =>
    Does.bind ((countCmd_does s).mono (by decide)) fun _ s => ?_
  exact Does.get_bind (Does.bind ((setCDSData_does _ _ s).mono (by decide)) fun _ s =>
    Does.plain rfl)

theorem setMaxResetsCmd_does (maxResets : UInt16) (s : AppData cfg) :
    Does [.quiet, .budget, .cmdCount] (setMaxResetsCmd maxResets) s := by
  refine Does.bind (Does.plain rfl) fun _ s =>
    Does.bind ((countCmd_does s).mono (by decide)) fun _ s => ?_
  refine Does.get_bind (Does.bind ((setCDSData_does _ _ s).mono (by decide)) fun _ s => ?_)
  exact Does.get_bind (Does.plain rfl)

/-- The kinds of acts of a handler. -/
def Handler.kinds : Handler → List Kind
  | .sendHk => hkKinds
  | .reset => [.quiet, .cmdCount, .eventCount]
  | .enableAppMon => .cmdCount :: .appMonSwitch :: refreshKinds
  | .disableAppMon => [.quiet, .appMonSwitch, .cmdCount]
  | .enableEventMon => [.quiet, .eventMon, .cmdCount]
  | .disableEventMon => [.quiet, .eventMon, .cmdCount]
  | .resetResetsPerformed => [.quiet, .budget, .cmdCount]
  | .setMaxResets => [.quiet, .budget, .cmdCount]
  | _ => [.quiet, .cmdCount]

instance (h : Handler) : HasQuiet h.kinds := ⟨by cases h <;> decide⟩

theorem handler_does (msg : CmdMsg) (r : CmdReplies cfg) (h : Handler) (s : AppData cfg) :
    Does h.kinds (h.run msg r) s := by
  have aside {h : Handler} {set : AppData cfg → AppData cfg} {eid : EventId}
      (hset : ∀ s : AppData cfg, (set s).core = s.core) (s : AppData cfg) :
      Does [.quiet, .cmdCount] (switchCmd h set eid) s :=
    switchCmd_does (by decide) (by decide) (fun s => .aside (.of_core (hset s))) s
  cases h with
  | sendHk => exact sendHkCmd_does _ s
  | noop =>
    exact Does.bind (Does.plain rfl) fun _ s =>
      Does.bind ((countCmd_does s).mono (by decide)) fun _ s => Does.plain rfl
  | reset =>
    exact Does.bind (Does.plain rfl) fun _ s =>
      Does.bind ((resetCounters_does s).mono (by decide)) fun _ s => Does.plain rfl
  | enableAppMon => exact enableAppMonCmd_does s
  | disableAppMon =>
    exact switchCmd_does (k := .appMonSwitch) (by decide) (by decide) (fun s => .appMonSwitch _) s
  | enableEventMon => exact enableEventMonCmd_does _ _ s
  | disableEventMon => exact disableEventMonCmd_does _ _ s
  | enableAliveness => exact aside (fun _ => by rfl) s
  | disableAliveness => exact aside (fun _ => by rfl) s
  | resetResetsPerformed => exact resetResetsPerformedCmd_does s
  | setMaxResets => exact setMaxResetsCmd_does _ s
  | enableCpuHog => exact aside (fun _ => by rfl) s
  | disableCpuHog => exact aside (fun _ => by rfl) s

theorem rejectMsg_does (msg : CmdMsg) (s : AppData cfg) :
    Does [.quiet, .cmdCount] (rejectMsg msg) s := by
  refine Does.ite (fun _ => ?_) (fun _ => ?_)
  · exact Does.bind (Does.plain rfl) fun _ s => (countCmdErr_does s).mono (by decide)
  · exact Does.bind ((countCmdErr_does s).mono (by decide)) fun _ s => Does.plain rfl

theorem verifyMsgLength_does (msg : CmdMsg) (n : Nat) (s : AppData cfg) :
    Does [.quiet, .cmdCount] (verifyMsgLength msg n) s := by
  refine Does.ite (fun _ => Does.ite (fun _ => ?_) (fun _ => ?_)) (fun _ => Does.pure _ s)
  · exact Does.bind (Does.plain rfl) fun _ s => Does.pure _ s
  · refine Does.bind (Does.plain rfl) fun _ s => ?_
    exact Does.bind ((countCmdErr_does s).mono (by decide)) fun _ s => Does.pure _ s

/-- The kinds of acts a message on the command pipe leads to. -/
def cmdKinds (cfg : Config) (msg : CmdMsg) : List Kind :=
  ((accepted cfg msg).map Handler.kinds).getD [.quiet, .cmdCount]

/-- What holds of the acts of the handler that is called, and of those of any message. -/
theorem forall_mem_cmdKinds {P : Kind → Prop} {msg : CmdMsg} (hquiet : P .quiet)
    (hcount : P .cmdCount) (h : ∀ hd, accepted cfg msg = some hd → ∀ k ∈ hd.kinds, P k) :
    ∀ k ∈ cmdKinds cfg msg, P k := by
  unfold cmdKinds
  cases hacc : accepted cfg msg with
  | none =>
    intro k hk
    simp only [Option.map_none, Option.getD_none, List.mem_cons, List.not_mem_nil, or_false] at hk
    rcases hk with rfl | rfl
    · exact hquiet
    · exact hcount
  | some hd => exact h hd hacc

theorem appPipe_does (msg : CmdMsg) (r : CmdReplies cfg) (s : AppData cfg) :
    Does (cmdKinds cfg msg) (appPipe msg r) s := by
  unfold cmdKinds
  cases hm : accepted cfg msg with
  | some h =>
    rw [appPipe_of_accepted hm]
    exact handler_does msg r h s
  | none =>
    obtain h | ⟨n, -, h⟩ := appPipe_of_not_accepted hm r
    · rw [h]
      exact rejectMsg_does msg s
    · rw [h]
      exact Does.bind (verifyMsgLength_does msg n s) fun _ s => Does.pure _ s

/-- The kinds of acts of all commands. -/
def anyCmdKinds : List Kind :=
  [.quiet, .read .sendHkCmd .emt, .read .sendHkCmd .xct, .read .appMonStatusRefresh .amt, .appMon,
    .appMonSwitch, .eventMon, .budget, .cmdCount, .eventCount]

theorem cmdKinds_subset (cfg : Config) (msg : CmdMsg) :
    cmdKinds cfg msg ⊆ anyCmdKinds := by
  unfold cmdKinds
  cases accepted cfg msg with
  | none => decide
  | some h => cases h <;> decide

/-! ### Table acquisition -/

theorem recordAppMon_does (status : Status) (s : AppData cfg) :
    Does [.quiet, .appMonSwitch, .tables] (recordAppMon status) s := by
  refine Does.ite (fun _ => Does.get_bind (Does.when fun _ => ?_))
    (fun _ => Does.modify (.loaded _ _ _ _) (by decide))
  refine Does.bind (Does.plain rfl) fun _ s => ?_
  show Does _ ((modifyApp fun d => { d with currentAppMonState := .disabled }) >>=
    fun _ => modifyApp fun d => { d with appMonLoaded := .disabled }) s
  exact Does.bind (Does.modify (.appMonSwitch _) (by decide)) fun _ s =>
    Does.modify (.loaded _ _ _ _) (by decide)

theorem acquireAppMon_does (r : TblReply (AMT cfg)) (s : AppData cfg) :
    Does (.appMonSwitch :: .tables :: refreshKinds) (acquireAppMon r) s := by
  have hget (s : AppData cfg) : Does (.appMonSwitch :: .tables :: refreshKinds)
      (getTable .amt r.status fun d => { d with amTablePtr := r.ptr }) s := by
    refine Does.bind (Does.plain rfl) fun _ s => Does.bind (Does.plain rfl) fun _ s => ?_
    exact Chain.single (A := Acts _) ⟨.tables, by decide, .takeAmt r⟩
  refine Does.bind (hget s) fun _ s => ?_
  refine Does.bind (Does.when fun _ => (appMonStatusRefresh_does s).mono (by decide)) fun _ s => ?_
  exact (recordAppMon_does _ s).mono (by decide)

theorem acquireEventMon_does (r : TblReply (EMT cfg)) (unsubLong unsubShort : Status)
    (s : AppData cfg) :
    Does [.quiet, .eventMon, .tables] (acquireEventMon r unsubLong unsubShort) s := by
  have hget (s : AppData cfg) : Does [.quiet, .eventMon, .tables]
      (getTable .emt r.status fun d => { d with emTablePtr := r.ptr }) s := by
    refine Does.bind (Does.plain rfl) fun _ s => Does.bind (Does.plain rfl) fun _ s => ?_
    exact Chain.single (A := Acts _) ⟨.tables, by decide, .takeEmt r⟩
  have hdrop (s : AppData cfg) : Does [.quiet, .eventMon, .tables]
      (dropEvents unsubLong unsubShort) s := by
    refine Does.bind (Does.emit (.unsubscribe _ _) (by decide)) fun _ s => ?_
    refine Does.bind (Does.when fun _ => Does.plain rfl) fun _ s => ?_
    refine Does.bind (Does.emit (.unsubscribe _ _) (by decide)) fun _ s =>
      Does.when fun _ => Does.plain rfl
  refine Does.bind (hget s) fun _ s => ?_
  refine Does.ite (fun _ => Does.get_bind (Does.when fun _ => ?_))
    (fun _ => Does.modify (.loaded _ _ _ _) (by decide))
  refine Does.bind (Does.plain rfl) fun _ s => ?_
  refine Does.bind (Does.when fun _ => hdrop s) fun _ s => ?_
  show Does _ ((modifyApp fun d => { d with currentEventMonState := .disabled }) >>=
    fun _ => modifyApp fun d => { d with eventMonLoaded := .disabled }) s
  exact Does.bind (Does.modify (.eventMonSwitch _) (by decide)) fun _ s =>
    Does.modify (.loaded _ _ _ _) (by decide)

theorem takeMat_apply (r : TblReply (MAT cfg)) (s : AppData cfg) :
    ((getTable .mat r.status fun d => { d with maTablePtr := r.ptr }) >>= fun _ =>
        Prog.when (r.status = cfg.tblInfoUpdated) msgActsStatusRefresh) s =
      ⟨.ok (), s.takeMat r,
        [.call (.releaseAddress .mat), .call (.manage .mat), .call (.getAddress .mat r.status)]⟩ := by
  by_cases h : r.status = cfg.tblInfoUpdated <;>
    simp [getTable, msgActsStatusRefresh, AppData.takeMat, h, Prog.bind_assoc']

theorem acquireMsgActs_does (r : TblReply (MAT cfg)) (s : AppData cfg) :
    Does [.quiet, .tables] (acquireMsgActs r) s := by
  have hget : Does [.quiet, .tables] ((getTable .mat r.status fun d =>
      { d with maTablePtr := r.ptr }) >>= fun _ =>
        Prog.when (r.status = cfg.tblInfoUpdated) msgActsStatusRefresh) s := by
    unfold Does Moves
    rw [takeMat_apply]
    have h₁ : Acts [.quiet, .tables] s [.call (.releaseAddress .mat)] s :=
      ⟨.quiet, by decide, .plain _ rfl⟩
    have h₂ : Acts [.quiet, .tables] s [.call (.manage .mat)] s :=
      ⟨.quiet, by decide, .plain _ rfl⟩
    have h₃ : Acts [.quiet, .tables] s [.call (.getAddress .mat r.status)] (s.takeMat r) :=
      ⟨.tables, by decide, .takeMat r⟩
    exact .cons h₁ (.cons h₂ (.single h₃))
  rw [acquireMsgActs, ← Prog.bind_assoc']
  refine Does.bind hget fun _ s => ?_
  refine Does.ite (fun _ => Does.get_bind (Does.when fun _ => ?_))
    (fun _ => Does.modify (.loaded _ _ _ _) (by decide))
  exact Does.bind (Does.plain rfl) fun _ s => Does.modify (.loaded _ _ _ _) (by decide)

theorem acquireExeCount_does (r : TblReply (XCT cfg)) (s : AppData cfg) :
    Does [.quiet, .tables] (acquireExeCount r) s := by
  have hget (s : AppData cfg) : Does [.quiet, .tables]
      (getTable .xct r.status fun d => { d with xcTablePtr := r.ptr }) s := by
    refine Does.bind (Does.plain rfl) fun _ s => Does.bind (Does.plain rfl) fun _ s => ?_
    exact Chain.single (A := Acts _) ⟨.tables, by decide, .takeXct r⟩
  refine Does.bind (hget s) fun _ s => ?_
  refine Does.ite (fun _ => Does.get_bind (Does.when fun _ => ?_))
    (fun _ => Does.modify (.loaded _ _ _ _) (by decide))
  exact Does.bind (Does.plain rfl) fun _ s => Does.modify (.loaded _ _ _ _) (by decide)

/-- The kinds of acts of the table acquisition. -/
def acquireKinds : List Kind :=
  [.quiet, .read .appMonStatusRefresh .amt, .appMon, .appMonSwitch, .eventMon, .tables]

instance : HasQuiet acquireKinds := ⟨List.mem_cons_self⟩

theorem acquirePointers_does (r : AcquireIn cfg) (s : AppData cfg) :
    Does acquireKinds (acquirePointers r) s := by
  refine Does.bind ((acquireAppMon_does _ s).mono (by decide)) fun _ s => ?_
  refine Does.bind ((acquireEventMon_does _ _ _ s).mono (by decide)) fun _ s => ?_
  refine Does.bind ((acquireMsgActs_does _ s).mono (by decide)) fun _ s => ?_
  exact (acquireExeCount_does _ s).mono (by decide)

/-! ### Initialization -/

theorem attempt_does {ks : List Kind} [HasQuiet ks] {c : Call cfg} (hc : c.plain = true)
    {status : Status} {eid : EventId} {rest : HsM cfg Status} (h : ∀ s, Does ks rest s)
    (s : AppData cfg) : Does ks (attempt c status eid rest) s := by
  refine Does.bind (Does.plain hc) fun _ s => Does.ite (fun _ => ?_) (fun _ => h s)
  exact Does.bind (Does.plain rfl) fun _ s => Does.pure _ s

theorem sbInit_does (i : SbIn) (s : AppData cfg) : Does [.quiet] (sbInit i) s := by
  refine Does.bind (Does.aside rfl) fun _ s => ?_
  exact attempt_does rfl (attempt_does rfl (attempt_does rfl (attempt_does rfl
    (attempt_does rfl (attempt_does rfl (Does.pure _)))))) s

theorem loadTable_does {ks : List Kind} [HasQuiet ks] {tbl : TableId} {status : Status}
    {eid : EventId} {disable : HsM cfg Unit} (h : ∀ s, Does ks disable s) (s : AppData cfg) :
    Does ks (loadTable tbl status eid disable) s :=
  Does.bind (Does.plain rfl) fun _ _ => Does.when fun _ =>
    Does.bind (Does.plain rfl) fun _ s => h s

theorem loadTables_does (load : TableId → Status) (s : AppData cfg) :
    Does [.quiet, .appMonSwitch, .eventMon, .tables] (loadTables load) s := by
  refine Does.bind (loadTable_does (fun s => ?_) s) fun _ s =>
    Does.bind (loadTable_does (fun s => ?_) s) fun _ s =>
    Does.bind (loadTable_does (fun s => ?_) s) fun _ s => loadTable_does (fun s => ?_) s
  · show Does _ ((modifyApp fun d => { d with exeCountState := .disabled }) >>=
      fun _ => modifyHk fun d => { d.hkPacket with exeCounts := fun _ => invalidExecount }) s
    exact Does.bind (Does.modify (.loaded _ _ _ _) (by decide)) fun _ s => Does.aside rfl
  · refine Does.bind (Does.modify (.appMonSwitch _) (by decide)) fun _ s => ?_
    exact Does.bind (Does.plain rfl) fun _ s => Does.modify (.loaded _ _ _ _) (by decide)
  · refine Does.bind (Does.modify (.eventMonSwitch _) (by decide)) fun _ s => ?_
    exact Does.bind (Does.plain rfl) fun _ s => Does.modify (.loaded _ _ _ _) (by decide)
  · exact Does.modify (.loaded _ _ _ _) (by decide)

theorem tblInit_does (t : TblIn cfg) (s : AppData cfg) :
    Does acquireKinds (tblInit t) s := by
  refine attempt_does rfl (attempt_does rfl (attempt_does rfl
    (attempt_does rfl fun s => ?_))) s
  refine Does.bind ((loadTables_does _ s).mono (by decide)) fun _ s => ?_
  exact Does.bind (acquirePointers_does _ s) fun _ s => Does.pure _ s

theorem cdsInit_does (registerCDS : Status) (restoreFromCDS : Reply CDSData) (s : AppData cfg) :
    Does [.quiet, .budget, .cds] (cdsInit registerCDS restoreFromCDS) s := by
  have hinit (s : AppData cfg) : Does [.quiet, .budget, .cds] (initializeCDS : HsM cfg Unit) s :=
    (setCDSData_does _ _ s).mono (by decide)
  refine Does.bind (Does.plain rfl) fun _ s => Does.ite (fun _ => ?_) fun _ =>
    Does.ite (fun _ => hinit s) fun _ => Does.bind (Does.modify .cdsOff (by decide)) fun _ s =>
      hinit s
  refine Does.bind (Does.plain rfl) fun _ s =>
    Does.bind (Does.modify (.restoreCDS _) (by decide)) fun _ s => ?_
  refine Does.ite (fun _ => Does.get_bind (Does.when fun _ => ?_)) (fun _ => ?_)
  · exact Does.bind (Does.plain rfl) fun _ s => hinit s
  · exact Does.bind (Does.plain rfl) fun _ s => hinit s

theorem interfaceInit_does (i : InitIn cfg) (s : AppData cfg) :
    Does acquireKinds (interfaceInit i) s := by
  refine Does.bind ((sbInit_does _ s).mono (by decide)) fun _ s => ?_
  refine Does.ite (fun _ => Does.pure _ s) (fun _ => ?_)
  refine Does.bind (tblInit_does _ s) fun _ s => ?_
  refine Does.ite (fun _ => Does.pure _ s) (fun _ => ?_)
  refine Does.bind ((sysMonInit_does _ s).mono (by decide)) fun _ s => ?_
  refine Does.ite (fun _ => ?_) (fun _ => ?_)
  · exact Does.bind (Does.plain rfl) fun _ s => Does.pure _ s
  · exact Does.bind (Does.plain rfl) fun _ s => Does.pure _ s

/-- `HS_AppInit` behind the assignments at its start. -/
def initRest (i : InitIn cfg) : HsM cfg Status := do
  call .evsRegister
  if i.evsRegister ≠ success then
    call .writeToSysLog
    pure i.evsRegister
  else
    cdsInit i.registerCDS i.restoreFromCDS
    interfaceInit i

theorem initRest_does (i : InitIn cfg) (s : AppData cfg) :
    Does (.budget :: .cds :: acquireKinds) (initRest i) s := by
  refine Does.bind (Does.plain rfl) fun _ s => Does.ite (fun _ => ?_) (fun _ => ?_)
  · exact Does.bind (Does.plain rfl) fun _ s => Does.pure _ s
  · exact Does.bind ((cdsInit_does _ _ s).mono (by decide)) fun _ s =>
      (interfaceInit_does _ s).mono (by decide)

/-- `HS_AppInit` is its rest, run on the initial data. -/
theorem appInit_eq (i : InitIn cfg) (s : AppData cfg) :
    appInit i s = ⟨(initRest i (initialData cfg)).val, (initRest i (initialData cfg)).state,
      .mark .boot :: (initRest i (initialData cfg)).log⟩ := by
  rw [appInit, Prog.emit_bind, Prog.modify_bind, initRest]

theorem appInit_does (i : InitIn cfg) (s : AppData cfg) :
    Does (.budget :: .cds :: .boot :: acquireKinds) (appInit i) s := by
  have hboot : Acts (.budget :: .cds :: .boot :: acquireKinds) s [.mark .boot] (initialData cfg) :=
    ⟨.boot, by decide, .boot⟩
  have hrest : Does (.budget :: .cds :: .boot :: acquireKinds) (initRest i) (initialData cfg) :=
    (initRest_does i _).mono (by decide)
  unfold Does Moves
  rw [appInit_eq]
  exact Chain.cons hboot hrest

theorem subscribeEvents_does (i : StartIn) (s : AppData cfg) :
    Does [.quiet, .eventMon] (subscribeEvents i) s := by
  refine Does.bind (Does.emit (.subscribe _ _) (by decide)) fun _ s =>
    Does.ite (fun _ => ?_) (fun _ => ?_)
  · exact Does.bind (Does.plain rfl) fun _ s => Does.pure _ s
  refine Does.bind (Does.emit (.subscribe _ _) (by decide)) fun _ s =>
    Does.ite (fun _ => ?_) (fun _ => ?_)
  · exact Does.bind (Does.plain rfl) fun _ s => Does.pure _ s
  · exact Does.pure _ s

theorem startup_does (i : StartIn) (s : AppData cfg) :
    Does [.quiet, .eventMon, .watchdog] (startup i) s := by
  refine Does.bind (Does.plain rfl) fun _ s => Does.bind (Does.plain rfl) fun _ s => ?_
  refine Does.bind (Does.emit .watchdogService (by decide)) fun _ s =>
    Does.bind (Does.plain rfl) fun _ s => ?_
  refine Does.bind (Does.emit .watchdogService (by decide)) fun _ s => Does.get_bind ?_
  exact Does.ite (fun _ => (subscribeEvents_does _ s).mono (by decide)) (fun _ => Does.pure _ s)

/-! ### The main loop -/

theorem decrementCooldowns_does (s : AppData cfg) : Does [.tick] decrementCooldowns s :=
  Chain.single (A := Acts _) ⟨.tick, by decide, .tick⟩

theorem checkUtilization_does (r : Reply Int) (s : AppData cfg) :
    Does [.quiet, .util] (checkUtilization r) s := by
  refine Does.get_bind (Does.bind (Does.when fun _ => ?_) fun _ s => Does.aside rfl)
  exact Does.bind (monitorUtilization_does _ s) fun _ s => Does.aside rfl

theorem checkApplications_enabled {s : AppData cfg} (h : s.currentAppMonState = .enabled)
    (lks : Fin cfg.maxMonitoredApps → AppLookup) :
    checkApplications lks s = monitorApplications lks s := by
  simp [checkApplications, h]

theorem checkApplications_disabled {s : AppData cfg} (h : s.currentAppMonState ≠ .enabled)
    (lks : Fin cfg.maxMonitoredApps → AppLookup) : checkApplications lks s = ⟨.ok (), s, []⟩ := by
  simp [checkApplications, h]

theorem checkApplications_does (lks : Fin cfg.maxMonitoredApps → AppLookup) (s : AppData cfg) :
    Does appMonKinds (checkApplications lks) s :=
  Does.get_bind (Does.when fun _ => monitorApplications_does _ s)

theorem outputAliveness_does (s : AppData cfg) : Does [.quiet] outputAliveness s := by
  refine Does.get_bind (Does.when fun _ => Does.bind (Does.aside rfl) fun _ s => Does.get_bind ?_)
  exact Does.when fun _ => Does.bind (Does.plain rfl) fun _ s => Does.aside rfl

theorem receiveEvent_does (ev : EvtMsg) (lks : Fin cfg.maxMonitoredEvents → EvtLookup)
    (s : AppData cfg) : Does (.eventCount :: eventKinds) (receiveEvent ev lks) s :=
  Does.bind (Does.modify (.eventCount _ _) (by decide)) fun _ s =>
    (monitorEvent_does _ _ s).mono (by decide)

theorem drainEvents_does (c : CycleIn cfg) (s : AppData cfg) :
    Does (.eventCount :: eventKinds) (drainEvents c) s := by
  refine Does.get_bind (Does.ite (fun _ => ?_) (fun _ => Does.pure _ s))
  refine Does.bind (Does.each _ (fun e s => ?_) s) fun _ s => Does.pure _ s
  cases e.1 with
  | none => exact Does.pure _ s
  | some ev => exact receiveEvent_does _ _ s

theorem drainCommands_does (c : CycleIn cfg) (s : AppData cfg) :
    Does anyCmdKinds (drainCommands c) s := by
  refine Does.bind (Does.each _ (fun m s => ?_) s) fun _ s => Does.pure _ s
  cases m.1 with
  | none => exact Does.pure _ s
  | some msg => exact (appPipe_does msg _ s).mono (cmdKinds_subset cfg msg)

theorem processCommands_does (c : CycleIn cfg) (s : AppData cfg) :
    Does (.eventCount :: (eventKinds ++ anyCmdKinds)) (processCommands c) s := by
  refine Does.bind ((drainEvents_does c s).mono (by decide)) fun _ s => ?_
  refine Does.ite (fun _ => ?_) (fun _ => Does.pure _ s)
  exact Does.bind ((drainCommands_does c s).mono (by decide)) fun _ s => Does.pure _ s

theorem serviceWatchdog_does (s : AppData cfg) : Does [.watchdog] serviceWatchdog s :=
  Does.get_bind (Does.when fun _ => Does.emit .watchdogService (by decide))

/-- The kinds of acts of a pass of the main loop. -/
def cycleKinds : List Kind :=
  .tick :: .watchdog :: .util :: (acquireKinds ++ appMonKinds ++ eventKinds ++ anyCmdKinds)

theorem processMain_does (c : CycleIn cfg) (s : AppData cfg) :
    Does cycleKinds (processMain c) s := by
  refine Does.bind ((acquirePointers_does _ s).mono (by decide)) fun _ s => ?_
  refine Does.bind ((decrementCooldowns_does s).mono (by decide)) fun _ s => ?_
  refine Does.bind ((checkUtilization_does _ s).mono (by decide)) fun _ s => ?_
  refine Does.bind ((checkApplications_does _ s).mono (by decide)) fun _ s => ?_
  refine Does.bind ((outputAliveness_does s).mono (by decide)) fun _ s => ?_
  refine Does.bind ((processCommands_does c s).mono (by decide)) fun _ s => ?_
  exact Does.bind ((serviceWatchdog_does s).mono (by decide)) fun _ s => Does.pure _ s

end HealthSafety
