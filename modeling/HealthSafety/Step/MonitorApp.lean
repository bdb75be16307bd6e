import HealthSafety.Step.Refresh

/-!
# One row of the application monitor

The body of the loop of `HS_MonitorApplications`, run on row `i` of a table that is
there.  A row that is not watched is left alone; a row whose application has made
progress starts its countdown again; every other row counts down, and the one that
reaches zero loses its enable bit and enters the action switch
(`monitorApp_idle`, `monitorApp_progress`, `monitorApp_wait`, `monitorApp_expire`).
`monitorApp_rowDone` collects what the four cases do to the rows and to the log.
-/

namespace HealthSafety

open Lib

variable {cfg : Config} {s : AppData cfg} {amt : AMT cfg}

/-- The lookup succeeds and finds another execution count than `last`. -/
def AppLookup.Progress (lk : AppLookup) (last : UInt32) : Prop :=
  lk.appIDByName.status = success ∧ lk.appInfo.status = success ∧ last ≠ lk.appInfo.out

instance (lk : AppLookup) (last : UInt32) : Decidable (lk.Progress last) :=
  inferInstanceAs (Decidable (_ ∧ _ ∧ _))

/-- The countdown and the last execution count of a row. -/
structure RowWatch where
  countdown : UInt16
  last : UInt32
  deriving DecidableEq

/-- The row has an action and its countdown runs. -/
def AMTEntry.Watched (row : AMTEntry) (r : RowWatch) : Prop :=
  row.actionType ≠ amtActNoact ∧ r.countdown ≠ 0

instance (row : AMTEntry) (r : RowWatch) : Decidable (row.Watched r) :=
  inferInstanceAs (Decidable (_ ∧ _))

/-- What one call makes of a row. -/
def AMTEntry.next (row : AMTEntry) (r : RowWatch) (lk : AppLookup) : RowWatch :=
  if row.Watched r then
    if lk.Progress r.last then ⟨row.cycleCount, lk.appInfo.out⟩
    else ⟨r.countdown - 1, r.last⟩
  else r

/-- One call ends the countdown of a row. -/
def AMTEntry.Expires (row : AMTEntry) (r : RowWatch) (lk : AppLookup) : Prop :=
  row.actionType ≠ amtActNoact ∧ r.countdown = 1 ∧ ¬ lk.Progress r.last

instance (row : AMTEntry) (r : RowWatch) (lk : AppLookup) : Decidable (row.Expires r lk) :=
  inferInstanceAs (Decidable (_ ∧ _ ∧ _))

theorem AMTEntry.next_idle {row : AMTEntry} {r : RowWatch} {lk : AppLookup}
    (h : ¬ row.Watched r) : row.next r lk = r := if_neg h

theorem AMTEntry.next_progress {row : AMTEntry} {r : RowWatch} {lk : AppLookup}
    (h : row.Watched r) (hp : lk.Progress r.last) :
    row.next r lk = ⟨row.cycleCount, lk.appInfo.out⟩ := by
  rw [AMTEntry.next, if_pos h, if_pos hp]

theorem AMTEntry.next_wait {row : AMTEntry} {r : RowWatch} {lk : AppLookup}
    (h : row.Watched r) (hp : ¬ lk.Progress r.last) :
    row.next r lk = ⟨r.countdown - 1, r.last⟩ := by
  rw [AMTEntry.next, if_pos h, if_neg hp]

def AppData.row (s : AppData cfg) (i : Fin cfg.maxMonitoredApps) : RowWatch :=
  ⟨s.appMonCheckInCountdown i, s.appMonLastExeCount i⟩

theorem row_eq_of_watch {s t : AppData cfg} (h : t.watch = s.watch)
    (i : Fin cfg.maxMonitoredApps) : t.row i = s.row i := by
  have hc : t.appMonCheckInCountdown = s.appMonCheckInCountdown := congrArg WatchView.countdown h
  have hl : t.appMonLastExeCount = s.appMonLastExeCount := congrArg WatchView.last h
  rw [AppData.row, AppData.row, hc, hl]

/-! ### The lookup -/

/-- The status a lookup leaves. -/
def AppLookup.status (lk : AppLookup) : Status :=
  if lk.appIDByName.status = success then lk.appInfo.status else lk.appIDByName.status

/-- The local variables after a lookup. -/
def AppLookup.vars (lk : AppLookup) (v : AppMonVars) : AppMonVars where
  appId := lk.appIDByName.value v.appId
  executionCounter :=
    if lk.appIDByName.status = success then lk.appInfo.value v.executionCounter
    else v.executionCounter

/-- The calls of a lookup. -/
def Label.IsLookup : Label cfg → Prop
  | .call (.getAppIDByName _) => True
  | .call (.getAppInfo _) => True
  | .call (.sendEvent _ _ _) => True
  | .mark (.rowRead _ _) => True
  | _ => False

theorem resolveApp_apply (i : Fin cfg.maxMonitoredApps) (row : AMTEntry) (lk : AppLookup)
    (v : AppMonVars) (s : AppData cfg) :
    ∃ l, resolveApp i row lk v s = ⟨.ok (lk.status, lk.vars v), s, l⟩ ∧ (∀ x ∈ l, x.IsLookup) ∧
      Label.call (.getAppIDByName row.appName) ∈ l := by
  by_cases h : lk.appIDByName.status = success
  · refine ⟨_, by simp [resolveApp, h, AppLookup.status, AppLookup.vars]; rfl, ?_, by simp⟩
    simp [Label.IsLookup]
  · by_cases hc : s.appMonCheckInCountdown i = row.cycleCount
    · refine ⟨_, by simp [resolveApp, appnameEvent, h, hc, AppLookup.status, AppLookup.vars,
        Prog.bind_assoc']; rfl, ?_, by simp⟩
      simp [Label.IsLookup]
    · refine ⟨_, by simp [resolveApp, appnameEvent, h, hc, AppLookup.status, AppLookup.vars,
        Prog.bind_assoc']; rfl, ?_, by simp⟩
      simp [Label.IsLookup]

theorem progress_iff (lk : AppLookup) (v : AppMonVars) (last : UInt32) :
    (lk.status = success ∧ last ≠ (lk.vars v).executionCounter) ↔ lk.Progress last := by
  unfold AppLookup.Progress AppLookup.status AppLookup.vars
  by_cases h : lk.appIDByName.status = success
  · by_cases h' : lk.appInfo.status = success
    · simp [h, h', Reply.value_of_success h']
    · simp [h, h']
  · simp [h]

/-! ### The cases -/

section

variable {v : AppMonVars} {i : Fin cfg.maxMonitoredApps}

theorem monitorApp_idle (hs : s.amTablePtr = some amt) (h : ¬ (amt i).Watched (s.row i))
    (lks : Fin cfg.maxMonitoredApps → AppLookup) (v : AppMonVars) :
    monitorApp lks v i s =
      ⟨.ok v, s, [.mark (.rowRead .monitorApplications (.amt i (amt i)))]⟩ := by
  have h' : ¬ ((amt i).actionType ≠ amtActNoact ∧ s.appMonCheckInCountdown i ≠ 0) := h
  rw [monitorApp, Prog.bind_ok (readAmt_apply hs _ i), Prog.get_bind, if_neg h']
  rfl

/-- A watched row is looked up; behind that only its countdown changes anything. -/
theorem monitorApp_watched (hs : s.amTablePtr = some amt) (h : (amt i).Watched (s.row i))
    (lks : Fin cfg.maxMonitoredApps → AppLookup) (v : AppMonVars) :
    ∃ l : List (Label cfg), l = .mark (.rowRead .monitorApplications (.amt i (amt i))) ::
        (resolveApp i (amt i) (lks i) v s).log ∧ (∀ x ∈ l, x.IsLookup) ∧
      Label.call (.getAppIDByName (amt i).appName) ∈ l ∧
      let o := countdownApp i (amt i) (lks i) (lks i).status ((lks i).vars v) s
      monitorApp lks v i s = ⟨o.val.map fun _ => (lks i).vars v, o.state, l ++ o.log⟩ := by
  have h' : (amt i).actionType ≠ amtActNoact ∧ s.appMonCheckInCountdown i ≠ 0 := h
  obtain ⟨l, hl, hlook, hname⟩ := resolveApp_apply i (amt i) (lks i) v s
  refine ⟨.mark (.rowRead .monitorApplications (.amt i (amt i))) :: l, by rw [hl], ?_,
    List.mem_cons_of_mem _ hname, ?_⟩
  · rintro x (_ | ⟨_, hx⟩)
    · trivial
    · exact hlook x hx
  · intro o
    rw [monitorApp, Prog.bind_ok (readAmt_apply hs _ i), Prog.get_bind, if_pos h', Prog.bind_ok hl]
    rcases ho : countdownApp i (amt i) (lks i) (lks i).status ((lks i).vars v) s with ⟨e | a, t, k⟩
    · rw [Prog.bind_error ho]
      simp [o, ho, Except.map]
    · rw [Prog.bind_ok ho]
      simp [o, ho, Except.map]

theorem countdownApp_progress {lk : AppLookup} (h : lk.Progress (s.row i).last)
    (row : AMTEntry) :
    countdownApp i row lk lk.status (lk.vars v) s = ⟨.ok (), { s with
      appMonCheckInCountdown := Function.update s.appMonCheckInCountdown i row.cycleCount
      appMonLastExeCount := Function.update s.appMonLastExeCount i lk.appInfo.out }, []⟩ := by
  have hp : lk.status = success ∧ s.appMonLastExeCount i ≠ (lk.vars v).executionCounter :=
    (progress_iff lk v _).mpr h
  have hout : (lk.vars v).executionCounter = lk.appInfo.out := by
    rw [AppLookup.vars, if_pos h.1, Reply.value_of_success h.2.1]
  rw [countdownApp, Prog.get_bind, if_pos hp, hout]
  rfl

/-- `HS_AppData` after a row has counted down. -/
def AppData.countDown (s : AppData cfg) (i : Fin cfg.maxMonitoredApps) : AppData cfg :=
  { s with appMonCheckInCountdown :=
      Function.update s.appMonCheckInCountdown i (s.appMonCheckInCountdown i - 1) }

theorem countdownApp_wait {lk : AppLookup} (h : ¬ lk.Progress (s.row i).last)
    (hc : s.appMonCheckInCountdown i ≠ 1) (row : AMTEntry) :
    countdownApp i row lk lk.status (lk.vars v) s = ⟨.ok (), s.countDown i, []⟩ := by
  have hp : ¬ (lk.status = success ∧ s.appMonLastExeCount i ≠ (lk.vars v).executionCounter) :=
    fun hp => h ((progress_iff lk v _).mp hp)
  have hne : s.appMonCheckInCountdown i - 1 ≠ 0 := fun h0 => hc (by
    rw [← UInt16.sub_add_cancel (s.appMonCheckInCountdown i) 1, h0]
    rfl)
  rw [countdownApp, Prog.get_bind, if_neg hp]
  simp [hne, AppData.countDown]

/-- `HS_AppData` as a row enters the action switch. -/
def AppData.expire (s : AppData cfg) (i : Fin cfg.maxMonitoredApps) : AppData cfg :=
  { s with
    appMonCheckInCountdown := Function.update s.appMonCheckInCountdown i 0
    appMonEnables := clearEnable s.appMonEnables i }

theorem countdownApp_expire {lk : AppLookup} (h : ¬ lk.Progress (s.row i).last)
    (hc : s.appMonCheckInCountdown i = 1) (row : AMTEntry) :
    countdownApp i row lk lk.status (lk.vars v) s =
      appMonAction i row lk lk.status (lk.vars v).appId (s.expire i) := by
  have hp : ¬ (lk.status = success ∧ s.appMonLastExeCount i ≠ (lk.vars v).executionCounter) :=
    fun hp => h ((progress_iff lk v _).mp hp)
  rw [countdownApp, Prog.get_bind, if_neg hp]
  simp [hc, AppData.expire]

end

/-! ### The action switch -/

/-- What a message action that asks for message `n` and reports itself as `eid` logs. -/
inductive MsgActLabel (eid : EventId) (n : Nat) : Label cfg → Prop
  | read (reader : Reader) (idx : Fin cfg.maxMsgActTypes) (row : MATEntry) :
      MsgActLabel eid n (.mark (.rowRead reader (.mat idx row)))
  | missing (reader : Reader) : MsgActLabel eid n (.mark (.nullRead .mat reader))
  | asked (state : SwitchState) (row : Option MATEntry) (sent : Bool) :
      MsgActLabel eid n (.mark (.msgAct n state row sent))
  | transmit (idx : Fin cfg.maxMsgActTypes) (row : MATEntry) :
      MsgActLabel eid n (.call (.transmitMsg idx row))
  | report (args : List EvtArg) : MsgActLabel eid n (.call (.sendEvent eid .error args))

theorem msgAction_labels (reader : Reader) (eid : EventId) (args : List EvtArg) (n : UInt32)
    (s : AppData cfg) : ∀ x ∈ (msgAction reader eid args n s).log, MsgActLabel eid n.toNat x := by
  obtain hn | ⟨idx, hn, h | ⟨hs, hc, hm | ⟨mat, hm⟩⟩⟩ := msgAction_cases s n
  · rw [msgAction_invalid hn]
    exact List.forall_mem_singleton.mpr (.asked _ _ _)
  · rw [msgAction_off h hn, hn]
    exact List.forall_mem_singleton.mpr (.asked _ _ _)
  · rw [msgAction_null hs hc hm hn]
    exact List.forall_mem_singleton.mpr (.missing _)
  · by_cases he : (mat idx).enableState = matStateDisabled
    · rw [msgAction_rowOff hs hc hm he hn, hn]
      exact List.forall_mem_cons.mpr ⟨.read _ _ _, List.forall_mem_singleton.mpr (.asked _ _ _)⟩
    · rw [msgAction_sent hs hc hm he hn, hn]
      refine List.forall_mem_cons.mpr ⟨.read _ _ _, List.forall_mem_cons.mpr ⟨.asked _ _ _,
        List.forall_mem_cons.mpr ⟨.transmit _ _, ?_⟩⟩⟩
      split
      · exact List.forall_mem_singleton.mpr (.report _)
      · exact List.forall_mem_nil _

/-- What the action switch logs for row `i`: it enters the row, and then resets the
processor, restarts the application or asks for a message, as the action says. -/
inductive ActionLabel (i : Fin cfg.maxMonitoredApps) (row : AMTEntry) (status : Status)
    (appId : UInt32) : Label cfg → Prop
  | enter : ActionLabel i row status appId (.mark (.amtAction i))
  | report (eid : EventId) (args : List EvtArg) (h : eid = .appmonProcErr ∨ eid = .resetLimitErr ∨
      eid = .appmonRestartErr ∨ eid = .appmonNotRestartedErr ∨ eid = .appmonFailErr) :
      ActionLabel i row status appId (.call (.sendEvent eid .error args))
  | copyToCDS (data : CDSData) : ActionLabel i row status appId (.call (.copyToCDS data))
  | taskDelay : ActionLabel i row status appId (.call .taskDelay)
  | writeToSysLog : ActionLabel i row status appId (.call .writeToSysLog)
  | resetCFE (flag : SwitchState) : ActionLabel i row status appId (.call (.resetCFE flag))
  | restart (hact : row.actionType = amtActAppRestart) (hst : status = success) :
      ActionLabel i row status appId (.call (.restartApp appId))
  | message {x : Label cfg} (hreset : row.actionType ≠ amtActProcReset)
      (hrestart : row.actionType ≠ amtActAppRestart) (hevent : row.actionType ≠ amtActEvent)
      (hx : MsgActLabel .appmonMsgactsErr
        (row.actionType.toUInt32 - amtActLastNonmsg.toUInt32 - 1).toNat x) :
      ActionLabel i row status appId x

theorem procReset_labels (i : Fin cfg.maxMonitoredApps) (row : AMTEntry) (status : Status)
    (appId : UInt32) (returns : Bool) (s : AppData cfg) :
    ∀ x ∈ (procReset returns s).log, ActionLabel i row status appId x := by
  by_cases h : s.cdsData.resetsPerformed < s.cdsData.maxResets
  · rw [procReset_of_lt h, resetLog]
    refine List.forall_mem_append.mpr ⟨fun x hx => ?_, ?_⟩
    · rw [mem_copyLog hx]
      exact .copyToCDS _
    · exact List.forall_mem_cons.mpr ⟨.taskDelay, List.forall_mem_cons.mpr ⟨.writeToSysLog,
        List.forall_mem_singleton.mpr (.resetCFE _)⟩⟩
  · rw [procReset_of_not_lt h]
    exact List.forall_mem_singleton.mpr (.report _ _ (by simp))

/-- **All that the action switch logs.** -/
theorem appMonAction_labels (i : Fin cfg.maxMonitoredApps) (row : AMTEntry) (lk : AppLookup)
    (status : Status) (appId : UInt32) (s : AppData cfg) :
    ∀ x ∈ (appMonAction i row lk status appId s).log, ActionLabel i row status appId x := by
  rw [appMonAction, Prog.emit_bind]
  refine List.forall_mem_cons.mpr ⟨.enter, ?_⟩
  by_cases hreset : row.actionType = amtActProcReset
  · rw [if_pos hreset, Prog.emit_bind]
    exact List.forall_mem_cons.mpr ⟨.report _ _ (by simp), procReset_labels i row status appId _ s⟩
  rw [if_neg hreset]
  by_cases hrestart : row.actionType = amtActAppRestart
  · rw [if_pos hrestart, Prog.emit_bind]
    refine List.forall_mem_cons.mpr ⟨.report _ _ (by simp), ?_⟩
    by_cases hst : status = success
    · rw [if_pos hst, Prog.emit_bind]
      refine List.forall_mem_cons.mpr ⟨.restart hrestart hst, ?_⟩
      split
      · exact List.forall_mem_singleton.mpr (.report _ _ (by simp))
      · exact List.forall_mem_nil _
    · rw [if_neg hst]
      exact List.forall_mem_singleton.mpr (.report _ _ (by simp))
  rw [if_neg hrestart]
  by_cases hevent : row.actionType = amtActEvent
  · rw [if_pos hevent]
    exact List.forall_mem_singleton.mpr (.report _ _ (by simp))
  · rw [if_neg hevent]
    intro x hx
    exact .message hreset hrestart hevent (msgAction_labels _ _ _ _ s x hx)

/-- The action switch restarts an application only for a restart action, and only the
one it was given. -/
theorem restartApp_mem_appMonAction {i : Fin cfg.maxMonitoredApps} {row : AMTEntry}
    {lk : AppLookup} {status : Status} {appId id : UInt32}
    (h : Label.call (.restartApp id) ∈ (appMonAction i row lk status appId s).log) :
    row.actionType = amtActAppRestart ∧ status = success ∧ id = appId := by
  cases appMonAction_labels i row lk status appId s _ h with
  | restart hact hst => exact ⟨hact, hst, rfl⟩
  | message _ _ _ hx => cases hx

/-- The label enters the action switch of row `i`. -/
def Label.isAction (i : Fin cfg.maxMonitoredApps) : Label cfg → Bool
  | .mark (.amtAction j) => decide (j = i)
  | _ => false

/-- How often the action of row `i` is performed. -/
def actions (i : Fin cfg.maxMonitoredApps) (l : List (Label cfg)) : Nat :=
  l.countP (Label.isAction i)

theorem actions_append (i : Fin cfg.maxMonitoredApps) (l l' : List (Label cfg)) :
    actions i (l ++ l') = actions i l + actions i l' := List.countP_append

theorem isAction_eq {k : Kind} (hk : k ≠ .amtAction) {x : Label cfg} (hx : k ∈ x.kinds)
    (i : Fin cfg.maxMonitoredApps) : x.isAction i = false := by
  unfold Label.isAction
  split
  · exact absurd (List.mem_singleton.mp hx) hk
  · rfl

theorem Does.actions_eq_zero {α : Type} {ks : List Kind} {m : HsM cfg α} (h : Does ks m s)
    (hks : ∀ k ∈ ks, k ≠ .amtAction) (i : Fin cfg.maxMonitoredApps) : actions i (m s).log = 0 := by
  refine List.countP_eq_zero.mpr fun x hx => ?_
  obtain ⟨k, hk, hkx⟩ := h.kind_of_mem hx
  simp [isAction_eq (hks k hk) hkx]

theorem actions_lookups {l : List (Label cfg)} (h : ∀ x ∈ l, x.IsLookup)
    (i : Fin cfg.maxMonitoredApps) : actions i l = 0 := by
  refine List.countP_eq_zero.mpr fun x hx => ?_
  have hlook := h x hx
  unfold Label.isAction
  split
  · cases hlook
  · decide

theorem appMonAction_actions (i : Fin cfg.maxMonitoredApps) (row : AMTEntry) (lk : AppLookup)
    (status : Status) (appId : UInt32) (s : AppData cfg) (j : Fin cfg.maxMonitoredApps) :
    actions j (appMonAction i row lk status appId s).log = if i = j then 1 else 0 := by
  obtain ⟨m, h, hm⟩ := appMonAction_eq i row lk status appId
  have hrest : actions j (m s).log = 0 := (hm s).actions_eq_zero (by decide) j
  rw [h, Prog.emit_bind, actions, List.countP_cons]
  rw [actions] at hrest
  rw [hrest, Label.isAction]
  simp

theorem appMonAction_watch (i : Fin cfg.maxMonitoredApps) (row : AMTEntry) (lk : AppLookup)
    (status : Status) (appId : UInt32) (s : AppData cfg) :
    (appMonAction i row lk status appId s).state.watch = s.watch := by
  obtain ⟨m, h, hm⟩ := appMonAction_eq i row lk status appId
  rw [h, Prog.emit_bind]
  exact (hm s).watch_eq

/-! ### The row -/

/-- What the loop body does on row `i`: the row makes its step, the other rows stay,
and the row acts, or stops HS, only when its countdown ends. -/
structure RowDone {α : Type} (amt : AMT cfg) (lks : Fin cfg.maxMonitoredApps → AppLookup)
    (i : Fin cfg.maxMonitoredApps) (s : AppData cfg) (o : Out (AppData cfg) (Label cfg) Stop α) :
    Prop where
  row : o.state.row i = (amt i).next (s.row i) (lks i)
  others : ∀ j, j ≠ i → o.state.row j = s.row j
  enables : o.state.appMonEnables =
    if (amt i).Expires (s.row i) (lks i) then clearEnable s.appMonEnables i else s.appMonEnables
  acts : ∀ j, actions j o.log = if i = j ∧ (amt i).Expires (s.row i) (lks i) then 1 else 0
  stops : ∀ e, o.val = .error e → (amt i).Expires (s.row i) (lks i)
  restarts : ∀ id, Label.call (.restartApp id) ∈ o.log →
    (amt i).Expires (s.row i) (lks i) ∧ (amt i).actionType = amtActAppRestart ∧
      Label.call (.getAppIDByName (amt i).appName) ∈ o.log ∧
      (lks i).appIDByName.status = success ∧ id = (lks i).appIDByName.out

theorem AMTEntry.Expires.watched {row : AMTEntry} {r : RowWatch} {lk : AppLookup}
    (h : row.Expires r lk) : row.Watched r := by
  obtain ⟨hact, hone, -⟩ := h
  refine ⟨hact, ?_⟩
  rw [hone]
  decide

theorem not_mem_lookups {l : List (Label cfg)} (h : ∀ x ∈ l, x.IsLookup) {x : Label cfg}
    (hx : ¬ x.IsLookup) : x ∉ l := fun hm => hx (h x hm)

/-- Without an action the log holds lookups only. -/
theorem RowDone.of_lookups {α : Type} {lks : Fin cfg.maxMonitoredApps → AppLookup}
    {i : Fin cfg.maxMonitoredApps} {a : α} {t : AppData cfg} {l : List (Label cfg)}
    (hl : ∀ x ∈ l, x.IsLookup) (hexp : ¬ (amt i).Expires (s.row i) (lks i))
    (hrow : t.row i = (amt i).next (s.row i) (lks i)) (hothers : ∀ j, j ≠ i → t.row j = s.row j)
    (hen : t.appMonEnables = s.appMonEnables) : RowDone amt lks i s ⟨.ok a, t, l⟩ where
  row := hrow
  others := hothers
  enables := by rw [if_neg hexp]; exact hen
  acts j := by rw [if_neg fun h => hexp h.2]; exact actions_lookups hl j
  stops e h := by cases h
  restarts id h := absurd h (not_mem_lookups hl fun h => h)

theorem monitorApp_rowDone (hs : s.amTablePtr = some amt)
    (lks : Fin cfg.maxMonitoredApps → AppLookup) (v : AppMonVars) (i : Fin cfg.maxMonitoredApps) :
    RowDone amt lks i s (monitorApp lks v i s) := by
  by_cases hw : (amt i).Watched (s.row i)
  · obtain ⟨l, -, hl, hname, hrun⟩ := monitorApp_watched hs hw lks v
    rw [hrun]
    by_cases hp : (lks i).Progress (s.row i).last
    · rw [countdownApp_progress hp, List.append_nil]
      refine .of_lookups hl (fun h => h.2.2 hp) ?_ (fun j hj => ?_) rfl
      · rw [AMTEntry.next_progress hw hp]
        simp [AppData.row]
      · simp [AppData.row, hj]
    by_cases hc : s.appMonCheckInCountdown i = 1
    · rw [countdownApp_expire hp hc]
      have hexp : (amt i).Expires (s.row i) (lks i) := ⟨hw.1, hc, hp⟩
      have hwatch := appMonAction_watch i (amt i) (lks i) (lks i).status ((lks i).vars v).appId
        (s.expire i)
      refine ⟨?_, fun j hj => ?_, ?_, fun j => ?_, fun _ _ => hexp, fun id hid => ?_⟩
      · refine (row_eq_of_watch hwatch i).trans ?_
        rw [AMTEntry.next_wait hw hp]
        simp [AppData.row, AppData.expire, hc]
      · refine (row_eq_of_watch hwatch j).trans ?_
        simp [AppData.row, AppData.expire, hj]
      · rw [if_pos hexp]
        exact congrArg WatchView.enables hwatch
      · rw [actions_append, actions_lookups hl, appMonAction_actions, Nat.zero_add]
        simp [hexp]
      · have hmem := (List.mem_append.mp hid).resolve_left (not_mem_lookups hl fun h => h)
        obtain ⟨hact, hst, rfl⟩ := restartApp_mem_appMonAction hmem
        have hok : (lks i).appIDByName.status = success := by
          by_contra hne
          rw [AppLookup.status, if_neg hne] at hst
          exact hne hst
        exact ⟨hexp, hact, List.mem_append_left _ hname, hok, Reply.value_of_success hok _⟩
    · rw [countdownApp_wait hp hc, List.append_nil]
      refine .of_lookups hl (fun h => hc h.2.1) ?_ (fun j hj => ?_) rfl
      · rw [AMTEntry.next_wait hw hp]
        simp [AppData.row, AppData.countDown]
      · simp [AppData.row, AppData.countDown, hj]
  · rw [monitorApp_idle hs hw]
    exact .of_lookups (by simp [Label.IsLookup]) (fun h => hw h.watched)
      (AMTEntry.next_idle hw).symm (fun j _ => rfl) rfl

end HealthSafety
