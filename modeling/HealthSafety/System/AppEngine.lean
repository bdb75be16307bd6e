import HealthSafety.Lib.Cells
import HealthSafety.Step.MonitorApp
import HealthSafety.System.Detection
import HealthSafety.System.EventEngine

/-!
# The application monitor engine

What the application monitor is for: in every pass each entry that is watched looks its
application up, and one whose time is over takes its action (`AMTEntry.turn`).  An entry
has a watch of its own, its countdown and the last execution count it has seen, which one
pass moves on (`AMTEntry.next`); from the entries before it, it gets only what an action
leaves over (`Carried`).

`HS_MonitorApplications` is one loop over four arrays, with two local variables that live
on from entry to entry, even past a lookup that failed.  `checkApplications_reference`:
wherever a pass of the main loop enters it with the application monitor on, its calls are
those of the entries in the order of the table, each with its watch as it was before the
loop, and nothing else changes.  `detected_calls`: the action that a detected row performs
(`appMon_detects`) is the one that its action type names.
-/

namespace HealthSafety

open Lib

variable {cfg : Config}

/-! ### The reference -/

/-- Message action `n`, reported by `reported`: send the message if it is enabled and not
cooling down. -/
def requestMessage (n : Nat) (reported : Call cfg) (messages : Option (MAT cfg))
    (k : Carried cfg) : Deed (Carried cfg) (Call cfg) :=
  match messages with
  | none => .idle k
  | some mat =>
    if h : n < cfg.maxMsgActTypes then
      let idx : Fin cfg.maxMsgActTypes := ⟨n, h⟩
      if k.msgActCooldown idx = 0 ∧ (mat idx).enableState ≠ matStateDisabled then
        { shown := .transmitMsg idx (mat idx) ::
            if (mat idx).enableState = matStateNoevent then [] else [reported]
          after := { k with
            msgActExec := k.msgActExec + 1
            msgActCooldown := Function.update k.msgActCooldown idx (mat idx).cooldown }
          returns := true }
      else .idle k
    else .idle k

namespace AMTEntry

variable (row : AMTEntry) (lk : AppLookup)

/-- An event about the entry. -/
def report (eid : EventId) (args : List EvtArg) : Call cfg :=
  .sendEvent eid .error (.str row.appName :: args)

/-- Look the application up.  A missing one is an error as long as the countdown has not
moved, and later a debug message. -/
def lookup (r : RowWatch) : List (Call cfg) :=
  .getAppIDByName row.appName ::
    if lk.appIDByName.status = success then [.getAppInfo lk.appIDByName.out]
    else if r.countdown = row.cycleCount then [row.report .appmonAppnameErr []]
    else [.sendEvent .appmonAppnameDbg .debug [.str row.appName]]

/-- Restart the application, if the lookup has found it. -/
def restart : List (Call cfg) :=
  row.report .appmonRestartErr [] ::
    if lk.status = success then
      .restartApp lk.appIDByName.out ::
        if lk.restartApp = success then []
        else [row.report .appmonNotRestartedErr [.num lk.restartApp]]
    else [row.report .appmonNotRestartedErr [.num lk.status]]

/-- The number of the message action of an entry. -/
def msgActIndex : Nat := row.actionType.toNat - (amtActLastNonmsg.toNat + 1)

/-- The action of an entry whose time is over. -/
def act (cds : SwitchState) (messages : Option (MAT cfg)) (k : Carried cfg) :
    Deed (Carried cfg) (Call cfg) :=
  if row.actionType = amtActProcReset then
    { spendReset cds lk.resetReturns k with
      shown := row.report .appmonProcErr [] :: (spendReset cds lk.resetReturns k).shown }
  else if row.actionType = amtActAppRestart then ⟨row.restart lk, k, true⟩
  else if row.actionType = amtActEvent then ⟨[row.report .appmonFailErr []], k, true⟩
  else requestMessage row.msgActIndex
    (row.report .appmonMsgactsErr [.num row.msgActIndex]) messages k

/-- What a watched entry does in a pass: the lookup, and its action if its time is over. -/
def turn (cds : SwitchState) (messages : Option (MAT cfg)) (r : RowWatch) (k : Carried cfg) :
    Deed (Carried cfg) (Call cfg) :=
  if row.Watched r then
    Deed.andThen ⟨row.lookup lk r, k, true⟩ fun k =>
      if row.Expires r lk then row.act lk cds messages k else .idle k
  else .idle k

end AMTEntry

/-- What the entries do in a pass, with their watches as they are in `s`. -/
def appEngine (messages : Option (MAT cfg)) (amt : AMT cfg)
    (lks : Fin cfg.maxMonitoredApps → AppLookup) (s : AppData cfg)
    (i : Fin cfg.maxMonitoredApps) : Carried cfg → Deed (Carried cfg) (Call cfg) :=
  (amt i).turn (lks i) s.cdsState messages (s.row i)

/-! ### The action of an entry -/

variable {s : AppData cfg} {k : Carried cfg}

theorem AMTEntry.msgActIndex_eq {row : AMTEntry} (hno : row.actionType ≠ amtActNoact)
    (hreset : row.actionType ≠ amtActProcReset) (hrestart : row.actionType ≠ amtActAppRestart)
    (hevent : row.actionType ≠ amtActEvent) :
    (row.actionType.toUInt32 - amtActLastNonmsg.toUInt32 - 1).toNat = row.msgActIndex :=
  @HealthSafety.msgActIndex_eq ⟨row.appName, 0, 0, row.actionType⟩ hno hreset hrestart hevent

theorem requestMessage_enacts (hmat : s.msgActsState = .enabled → ∃ mat, s.maTablePtr = some mat)
    (reader : Reader) (eid : EventId) (args : List EvtArg) (n : UInt32) (k : Carried cfg) :
    Enacts s (msgAction reader eid args n) k
      (requestMessage n.toNat (.sendEvent eid .error (args ++ [.num n.toNat])) s.messages k) := by
  by_cases hlt : n.toNat < cfg.maxMsgActTypes
  · let idx : Fin cfg.maxMsgActTypes := ⟨n.toNat, hlt⟩
    have hoff (h : s.msgActsState = .disabled ∨ k.msgActCooldown idx ≠ 0) :
        Enacts s (msgAction reader eid args n) k (.idle k) :=
      ⟨(), _, @msgAction_off cfg (s.carrying k) idx h _ _ _ _ rfl, rfl⟩
    cases hon : s.msgActsState with
    | disabled =>
      have hnone : s.messages = none := by rw [AppData.messages, if_neg (by rw [hon]; decide)]
      rw [hnone]
      exact hoff (.inl hon)
    | enabled =>
      obtain ⟨mat, hmat⟩ := hmat hon
      rw [messages_eq hon hmat, requestMessage]
      simp only [dif_pos hlt]
      by_cases hcool : k.msgActCooldown idx = 0
      · by_cases hdisabled : (mat idx).enableState = matStateDisabled
        · rw [if_neg fun h => h.2 hdisabled]
          exact ⟨(), _, @msgAction_rowOff cfg (s.carrying k) mat idx hon hcool hmat hdisabled _ _ _ _
            rfl, rfl⟩
        · rw [if_pos ⟨hcool, hdisabled⟩]
          refine ⟨(), _, @msgAction_sent cfg (s.carrying k) mat idx hon hcool hmat hdisabled _ _ _ _
            rfl, ?_⟩
          by_cases hevent : (mat idx).enableState = matStateNoevent
          · rw [if_pos hevent, if_neg (not_not.mpr hevent)]
            rfl
          · rw [if_neg hevent, if_pos hevent]
            rfl
      · rw [if_neg fun h => hcool h.1]
        exact hoff (.inr hcool)
  · have hidle : requestMessage n.toNat (.sendEvent eid .error (args ++ [.num n.toNat]))
        s.messages k = .idle k := by
      unfold requestMessage
      split
      · rfl
      · exact dif_neg hlt
    rw [hidle]
    exact ⟨(), _, @msgAction_invalid cfg (s.carrying k) _ _ _ n (Nat.not_lt.mp hlt), rfl⟩

theorem restart_enacts (row : AMTEntry) (lk : AppLookup) {appId : UInt32}
    (hid : lk.status = success → appId = lk.appIDByName.out) (k : Carried cfg) :
    Enacts s (do
      sendEvent .appmonRestartErr .error [.str row.appName]
      if lk.status = success then
        call (.restartApp appId)
        if lk.restartApp ≠ success then
          sendEvent .appmonNotRestartedErr .error [.str row.appName, .num lk.restartApp]
      else
        sendEvent .appmonNotRestartedErr .error [.str row.appName, .num lk.status]) k
      ⟨row.restart lk, k, true⟩ := by
  unfold AMTEntry.restart
  by_cases hst : lk.status = success
  · simp only [if_pos hst, hid hst]
    by_cases hre : lk.restartApp = success
    · simp only [if_pos hre, if_neg (not_not.mpr hre)]
      exact (call_enacts _ k).bind fun _ k => (call_enacts _ k).bind fun _ _ => .pure ()
    · simp only [if_neg hre, if_pos hre]
      exact (call_enacts _ k).bind fun _ k => (call_enacts _ k).bind fun _ k => call_enacts _ k
  · simp only [if_neg hst]
    exact (call_enacts _ k).bind fun _ k => call_enacts _ k

theorem appMonAction_enacts (hmat : s.msgActsState = .enabled → ∃ mat, s.maTablePtr = some mat)
    (i : Fin cfg.maxMonitoredApps) {row : AMTEntry} (hno : row.actionType ≠ amtActNoact)
    (lk : AppLookup) {appId : UInt32} (hid : lk.status = success → appId = lk.appIDByName.out)
    (k : Carried cfg) :
    Enacts s (appMonAction i row lk lk.status appId) k (row.act lk s.cdsState s.messages k) := by
  have hmark {m : HsM cfg Unit} {d : Deed (Carried cfg) (Call cfg)} (hm : Enacts s m k d) :
      Enacts s (mark (.amtAction i) >>= fun _ => m) k d := by
    obtain ⟨a, l, hrun, hshown⟩ := hm
    refine ⟨a, .mark (.amtAction i) :: l, ?_, hshown⟩
    rw [Prog.emit_bind, hrun]
  refine hmark ?_
  by_cases hreset : row.actionType = amtActProcReset
  · rw [if_pos hreset, AMTEntry.act, if_pos hreset]
    have hrun := (call_enacts (s := s) (row.report .appmonProcErr []) k).bind fun _ k =>
      procReset_enacts (s := s) (k := k) lk.resetReturns
    exact hrun
  by_cases hrestart : row.actionType = amtActAppRestart
  · rw [if_neg hreset, if_pos hrestart, AMTEntry.act, if_neg hreset, if_pos hrestart]
    exact restart_enacts row lk hid k
  by_cases hevent : row.actionType = amtActEvent
  · rw [if_neg hreset, if_neg hrestart, if_pos hevent, AMTEntry.act, if_neg hreset,
      if_neg hrestart, if_pos hevent]
    exact call_enacts _ k
  · rw [if_neg hreset, if_neg hrestart, if_neg hevent, AMTEntry.act, if_neg hreset,
      if_neg hrestart, if_neg hevent, ← AMTEntry.msgActIndex_eq hno hreset hrestart hevent]
    exact requestMessage_enacts hmat _ _ _ _ k

/-! ### One entry -/

/-- What a pass of the application monitor changes: the enable bits and what is carried over,
and the watch of every entry. -/
abbrev Watches (cfg : Config) : Type :=
  ((Fin cfg.enableWords → BitVec 32) × Carried cfg) × (Fin cfg.maxMonitoredApps → RowWatch)

/-- `HS_AppData` with this changed. -/
def AppData.watching (s : AppData cfg) (x : Watches cfg) : AppData cfg :=
  { s.carrying x.1.2 with
    appMonEnables := x.1.1
    appMonCheckInCountdown := fun i => (x.2 i).countdown
    appMonLastExeCount := fun i => (x.2 i).last }

/-- An entry whose time is over takes its enable bit back. -/
def dropEnable (amt : AMT cfg) (lks : Fin cfg.maxMonitoredApps → AppLookup)
    (watch : Fin cfg.maxMonitoredApps → RowWatch) (i : Fin cfg.maxMonitoredApps)
    (enables : Fin cfg.enableWords → BitVec 32) : Fin cfg.enableWords → BitVec 32 :=
  if (amt i).Expires (watch i) (lks i) then clearEnable enables i else enables

/-- The turn of an entry, with its enable bit and its watch. -/
def appTurn (cds : SwitchState) (messages : Option (MAT cfg)) (amt : AMT cfg)
    (lks : Fin cfg.maxMonitoredApps → AppLookup) :
    Fin cfg.maxMonitoredApps → Watches cfg → Deed (Watches cfg) (Call cfg) :=
  inCell
    (fun i r => marking (fun i => dropEnable amt lks (fun _ => r) i)
      (fun i => (amt i).turn (lks i) cds messages r) i)
    fun i r => (amt i).next r (lks i)

theorem watching_update (s : AppData cfg) (e : Fin cfg.enableWords → BitVec 32) (k : Carried cfg)
    (f : Fin cfg.maxMonitoredApps → RowWatch) (i : Fin cfg.maxMonitoredApps) (r : RowWatch) :
    s.watching ((e, k), Function.update f i r) = { s.watching ((e, k), f) with
      appMonCheckInCountdown := Function.update (fun j => (f j).countdown) i r.countdown
      appMonLastExeCount := Function.update (fun j => (f j).last) i r.last } := by
  have hfield {α : Type} (g : RowWatch → α) : (fun j => g (Function.update f i r j)) =
      Function.update (fun j => g (f j)) i (g r) := by
    funext j
    exact Function.apply_update (fun _ => g) f i r j
  rw [AppData.watching, AppData.watching, hfield RowWatch.countdown, hfield RowWatch.last]

/-- The same, for an entry that has seen no other count. -/
theorem watching_update_countdown (s : AppData cfg) (e : Fin cfg.enableWords → BitVec 32)
    (k : Carried cfg) (f : Fin cfg.maxMonitoredApps → RowWatch) (i : Fin cfg.maxMonitoredApps)
    (n : UInt16) : s.watching ((e, k), Function.update f i ⟨n, (f i).last⟩) =
      { s.watching ((e, k), f) with
        appMonCheckInCountdown := Function.update (fun j => (f j).countdown) i n } := by
  have hlast : Function.update (fun j => (f j).last) i (f i).last = fun j => (f j).last :=
    Function.update_eq_self i _
  rw [watching_update, hlast]
  rfl

/-- A lookup logs its calls, and nothing else. -/
theorem resolveApp_log_eq (i : Fin cfg.maxMonitoredApps) (row : AMTEntry) (lk : AppLookup)
    (v : AppMonVars) (s : AppData cfg) :
    (resolveApp i row lk v s).log = (row.lookup lk (s.row i)).map .call := by
  by_cases h : lk.appIDByName.status = success
  · simp [resolveApp, AMTEntry.lookup, h, Reply.value_of_success h]
  · by_cases hc : s.appMonCheckInCountdown i = row.cycleCount
    · simp [resolveApp, appnameEvent, AMTEntry.lookup, AMTEntry.report, AppData.row, h, hc,
        Prog.bind_assoc']
    · simp [resolveApp, appnameEvent, AMTEntry.lookup, AppData.row, h, hc, Prog.bind_assoc']

theorem resolveApp_called (i : Fin cfg.maxMonitoredApps) (row : AMTEntry) (lk : AppLookup)
    (v : AppMonVars) (s : AppData cfg) :
    (resolveApp i row lk v s).log.filterMap Label.called = row.lookup lk (s.row i) := by
  rw [resolveApp_log_eq, List.filterMap_map]
  exact List.filterMap_some

theorem appId_of_status {lk : AppLookup} (v : AppMonVars) (h : lk.status = success) :
    (lk.vars v).appId = lk.appIDByName.out := by
  unfold AppLookup.status at h
  split at h
  · exact Reply.value_of_success ‹_› _
  · exact absurd h ‹_›

variable {amt : AMT cfg} {lks : Fin cfg.maxMonitoredApps → AppLookup}
  {e : Fin cfg.enableWords → BitVec 32} {f : Fin cfg.maxMonitoredApps → RowWatch}
  {i : Fin cfg.maxMonitoredApps}

theorem appTurn_apply (cds : SwitchState) (messages : Option (MAT cfg)) :
    appTurn cds messages amt lks i ((e, k), f) =
      ⟨((amt i).turn (lks i) cds messages (f i) k).shown,
        ((dropEnable amt lks f i e, ((amt i).turn (lks i) cds messages (f i) k).after),
          Function.update f i ((amt i).next (f i) (lks i))),
        ((amt i).turn (lks i) cds messages (f i) k).returns⟩ := rfl

theorem turn_of_watched {row : AMTEntry} {r : RowWatch} (h : row.Watched r) (lk : AppLookup)
    (cds : SwitchState) (messages : Option (MAT cfg)) (k : Carried cfg) :
    row.turn lk cds messages r k =
      (⟨row.lookup lk r, k, true⟩ : Deed (Carried cfg) (Call cfg)).andThen fun k =>
        if row.Expires r lk then row.act lk cds messages k else .idle k := if_pos h

/-- A watched entry that does not expire only looks its application up. -/
theorem turn_of_not_expires {row : AMTEntry} {r : RowWatch} (h : row.Watched r) {lk : AppLookup}
    (hexp : ¬ row.Expires r lk) (cds : SwitchState) (messages : Option (MAT cfg))
    (k : Carried cfg) : row.turn lk cds messages r k = ⟨row.lookup lk r, k, true⟩ := by
  rw [turn_of_watched h]
  simp only [if_neg hexp]
  exact Deed.andThen_idle _

/-- One that does takes its action behind the lookup. -/
theorem turn_of_expires {row : AMTEntry} {r : RowWatch} {lk : AppLookup}
    (hexp : row.Expires r lk) (cds : SwitchState) (messages : Option (MAT cfg)) (k : Carried cfg) :
    row.turn lk cds messages r k =
      ⟨row.lookup lk r ++ (row.act lk cds messages k).shown, (row.act lk cds messages k).after,
        (row.act lk cds messages k).returns⟩ := by
  rw [turn_of_watched hexp.watched, Deed.andThen_of_returns rfl, if_pos hexp]

/-- The calls of a lookup, behind the read of the row. -/
theorem lookup_called (t : AppData cfg) (v : AppMonVars) :
    (.mark (.rowRead .monitorApplications (.amt i (amt i))) ::
      (resolveApp i (amt i) (lks i) v t).log : List (Label cfg)).filterMap Label.called =
        (amt i).lookup (lks i) (t.row i) :=
  resolveApp_called i (amt i) (lks i) v t

/-- An entry whose time is not over only looks its application up and moves its watch on. -/
theorem monitorApp_performs_wait (hamt : s.amTablePtr = some amt)
    (hw : (amt i).Watched (f i)) (hexp : ¬ (amt i).Expires (f i) (lks i)) (v : AppMonVars) :
    Performs Label.called s.watching Stop.reboot (monitorApp lks v i) ((e, k), f)
      (appTurn s.cdsState s.messages amt lks i ((e, k), f)) := by
  have hptr : (s.watching ((e, k), f)).amTablePtr = some amt := hamt
  obtain ⟨l, hl, -, -, hrun⟩ := monitorApp_watched (s := s.watching ((e, k), f)) hptr hw lks v
  have hshown : l.filterMap Label.called = (amt i).lookup (lks i) (f i) := by
    rw [hl]
    exact lookup_called _ v
  rw [appTurn_apply, turn_of_not_expires hw hexp, dropEnable, if_neg hexp]
  refine ⟨(lks i).vars v, l, ?_, hshown⟩
  by_cases hp : (lks i).Progress (f i).last
  · rw [AMTEntry.next_progress hw hp, watching_update, hrun,
      countdownApp_progress (s := s.watching ((e, k), f)) hp, List.append_nil]
    rfl
  · have hne : (f i).countdown ≠ 1 := fun hone => hexp ⟨hw.1, hone, hp⟩
    rw [AMTEntry.next_wait hw hp, watching_update_countdown, hrun,
      countdownApp_wait (s := s.watching ((e, k), f)) hp hne, List.append_nil]
    rfl

/-- An entry whose time is over takes its action, without its enable bit. -/
theorem monitorApp_performs_expire (hamt : s.amTablePtr = some amt)
    (hmat : s.msgActsState = .enabled → ∃ mat, s.maTablePtr = some mat)
    (hexp : (amt i).Expires (f i) (lks i)) (v : AppMonVars) :
    Performs Label.called s.watching Stop.reboot (monitorApp lks v i) ((e, k), f)
      (appTurn s.cdsState s.messages amt lks i ((e, k), f)) := by
  have hptr : (s.watching ((e, k), f)).amTablePtr = some amt := hamt
  have hw := hexp.watched
  obtain ⟨l, hl, -, -, hrun⟩ := monitorApp_watched (s := s.watching ((e, k), f)) hptr hw lks v
  have hshown : l.filterMap Label.called = (amt i).lookup (lks i) (f i) := by
    rw [hl]
    exact lookup_called _ v
  rw [appTurn_apply, turn_of_expires hexp, dropEnable, if_pos hexp]
  obtain ⟨hno, hone, hp⟩ := hexp
  let s₁ := (s.watching ((e, k), f)).expire i
  obtain ⟨a, l', hact, hshown'⟩ := appMonAction_enacts (s := s₁) hmat i hno (lks i)
    (appId_of_status v) k
  have hafter (k' : Carried cfg) : s₁.carrying k' = s.watching
      ((clearEnable e i, k'), Function.update f i ⟨(f i).countdown - 1, (f i).last⟩) := by
    rw [watching_update_countdown, hone]
    rfl
  rw [hafter ((amt i).act (lks i) s₁.cdsState s₁.messages k).after] at hact
  rw [AMTEntry.next_wait hw hp]
  refine ⟨(lks i).vars v, l ++ l', ?_, ?_⟩
  · rw [hrun, countdownApp_expire (s := s.watching ((e, k), f)) hp hone]
    have hstart : (s.watching ((e, k), f)).expire i = s₁.carrying k := rfl
    rw [hstart, hact]
    show _ = Out.mk (if ((amt i).act (lks i) s₁.cdsState s₁.messages k).returns = true then _
      else _) _ _
    split <;> rfl
  · rw [List.filterMap_append, hshown, hshown']
    rfl

/-- One pass of the loop is the turn of its entry. -/
theorem monitorApp_performs (hamt : s.amTablePtr = some amt)
    (hmat : s.msgActsState = .enabled → ∃ mat, s.maTablePtr = some mat) (v : AppMonVars)
    (i : Fin cfg.maxMonitoredApps) (x : Watches cfg) :
    Performs Label.called s.watching Stop.reboot (monitorApp lks v i) x
      (appTurn s.cdsState s.messages amt lks i x) := by
  obtain ⟨⟨e, k⟩, f⟩ := x
  by_cases hexp : (amt i).Expires (f i) (lks i)
  · exact monitorApp_performs_expire hamt hmat hexp v
  by_cases hw : (amt i).Watched (f i)
  · exact monitorApp_performs_wait hamt hw hexp v
  · have hptr : (s.watching ((e, k), f)).amTablePtr = some amt := hamt
    rw [appTurn_apply, AMTEntry.turn, if_neg hw, AMTEntry.next_idle hw, Function.update_eq_self,
      dropEnable, if_neg hexp]
    exact ⟨v, _, monitorApp_idle (s := s.watching ((e, k), f)) hptr hw lks v, rfl⟩

/-- The turns of some rows return or not as the loop over them does. -/
theorem perform_appTurn_returns {is : List (Fin cfg.maxMonitoredApps)} (his : is.Nodup)
    (cds : SwitchState) (messages : Option (MAT cfg)) :
    (perform (appTurn cds messages amt lks) is ((e, k), f)).returns =
      (perform (fun i => (amt i).turn (lks i) cds messages (f i)) is k).returns := by
  let turns := fun i => (amt i).turn (lks i) cds messages (f i)
  have hcells : (perform (appTurn cds messages amt lks) is ((e, k), f)).returns =
      (perform (marking (dropEnable amt lks f) turns) is (e, k)).returns := by
    rw [appTurn, perform_inCell his]
    rfl
  rw [hcells, (perform_marking _ e k).1]

/-! ### The loop -/

theorem mem_take_finRange {m n : Nat} {i : Fin m} : i ∈ (List.finRange m).take n ↔ i.val < n := by
  rw [List.mem_take_iff_getElem]
  constructor
  · rintro ⟨j, hj, rfl⟩
    rw [List.getElem_finRange]
    have hlt : j < n := by omega
    exact hlt
  · intro hi
    have hlt : i.val < min n (List.finRange m).length := by
      rw [List.length_finRange]
      omega
    exact ⟨i, hlt, by rw [List.getElem_finRange]; rfl⟩

theorem finRange_take_drop {m : Nat} (i : Fin m) :
    List.finRange m = (List.finRange m).take i ++ i :: (List.finRange m).drop (i + 1) := by
  have hlt : i.val < (List.finRange m).length := by
    rw [List.length_finRange]
    exact i.isLt
  conv_lhs => rw [← List.take_append_drop i (List.finRange m), List.drop_eq_getElem_cons hlt,
    List.getElem_finRange]
  rfl

theorem monitorApplications_performs (hamt : s.amTablePtr = some amt)
    (hmat : s.msgActsState = .enabled → ∃ mat, s.maTablePtr = some mat) :
    Performs Label.called s.watching Stop.reboot (monitorApplications lks)
      ((s.appMonEnables, s.carried), s.row)
      (perform (appTurn s.cdsState s.messages amt lks) (List.finRange cfg.maxMonitoredApps)
        ((s.appMonEnables, s.carried), s.row)) := by
  have hfold := Performs.fold (@monitorApp_performs cfg s amt lks hamt hmat) ⟨0, 0⟩
    (List.finRange cfg.maxMonitoredApps) ((s.appMonEnables, s.carried), s.row)
  exact hfold.andPure fun _ => ()

/-- The turns meet only in what is carried over. -/
theorem perform_appTurn (cds : SwitchState) (messages : Option (MAT cfg)) :
    let turns := fun i => (amt i).turn (lks i) cds messages (f i)
    let d := perform turns (List.finRange cfg.maxMonitoredApps) k
    let n := begun turns (List.finRange cfg.maxMonitoredApps) k
    perform (appTurn cds messages amt lks) (List.finRange cfg.maxMonitoredApps) ((e, k), f) =
      ⟨d.shown,
        ((((List.finRange cfg.maxMonitoredApps).take n).foldl
            (fun enables i => dropEnable amt lks f i enables) e, d.after),
          fun i => if i.val < n then (amt i).next (f i) (lks i) else f i), d.returns⟩ := by
  intro turns d n
  have hmarks := @perform_marking _ _ _ _ (List.finRange cfg.maxMonitoredApps) turns
    (dropEnable amt lks f) e k
  refine (perform_inCell (List.nodup_finRange cfg.maxMonitoredApps) (e, k) f).trans ?_
  show Deed.mk (perform (marking (dropEnable amt lks f) turns) _ (e, k)).shown
    ((perform (marking (dropEnable amt lks f) turns) _ (e, k)).after, fun i =>
      if i ∈ (List.finRange cfg.maxMonitoredApps).take
        (begun (marking (dropEnable amt lks f) turns) _ (e, k)) then _ else _)
    (perform (marking (dropEnable amt lks f) turns) _ (e, k)).returns = _
  rw [hmarks.1, hmarks.2]
  simp only [mem_take_finRange]
  rfl

/-! ### The action of a row that is detected -/

/-- An action is performed only when the turns of the rows before its own have returned. -/
theorem returns_of_actions (hamt : s.amTablePtr = some amt)
    (hmat : s.msgActsState = .enabled → ∃ mat, s.maTablePtr = some mat)
    (hact : actions i (monitorApplications lks s).log ≠ 0) :
    (perform (fun j => (amt j).turn (lks j) s.cdsState s.messages (s.row j))
      ((List.finRange cfg.maxMonitoredApps).take i) s.carried).returns = true := by
  let is := (List.finRange cfg.maxMonitoredApps).take i
  have hsub : is.Sublist (List.finRange cfg.maxMonitoredApps) := List.take_sublist _ _
  have hbefore : CallDone amt lks is s (Prog.fold (monitorApp lks) ⟨0, 0⟩ is s) :=
    monitorApp_fold_done is ((List.pairwise_lt_finRange _).sublist hsub) ⟨0, 0⟩ s hamt
  obtain ⟨a, l, hrun, -⟩ := Performs.fold (@monitorApp_performs cfg s amt lks hamt hmat) ⟨0, 0⟩ is
    ((s.appMonEnables, s.carried), s.row)
  rw [perform_appTurn_returns ((List.nodup_finRange _).sublist hsub)] at hrun
  by_contra hret
  rw [if_neg hret] at hrun
  have hrun' : Prog.fold (monitorApp lks) ⟨0, 0⟩ is s = ⟨.error .reboot, _, l⟩ := hrun
  have hlog : (monitorApplications lks s).log = l := by
    rw [monitorApplications, ← List.take_append_drop i (List.finRange cfg.maxMonitoredApps),
      Prog.fold_append, Prog.bind_assoc', Prog.bind_error hrun']
  rw [hrun'] at hbefore
  rw [hlog] at hact
  exact absurd (mem_take_finRange.mp (hbefore.expires i hact).1) (lt_irrefl _)

/-- **What an action that is performed does.**  Since a refresh, in the call that detects a
row, behind the calls of the rows before it stand its lookup and the calls of its action,
made with the answers of this call and what the rows before it have left over. -/
theorem detected_calls {calls : List (Fin cfg.maxMonitoredApps → AppLookup)}
    {l : List (Label cfg)} (h : SinceRefresh amt calls l s) (hamt : s.amTablePtr = some amt)
    (hmat : s.msgActsState = .enabled → ∃ mat, s.maTablePtr = some mat)
    (hact : actions i (monitorApplications lks s).log ≠ 0) :
    let turns := fun j => (amt j).turn (lks j) s.cdsState s.messages
      ((amt j).watch (calls.map (· j)))
    let d := perform turns ((List.finRange cfg.maxMonitoredApps).take i) s.carried
    Detects (amt i) (calls.map (· i) ++ [lks i]) ∧ d.returns = true ∧
      ∃ post, (monitorApplications lks s).log.filterMap Label.called = d.shown ++
        ((amt i).lookup (lks i) ((amt i).watch (calls.map (· i))) ++
          ((amt i).act (lks i) s.cdsState s.messages d.after).shown) ++ post := by
  have ht := h.tracked
  have hret := returns_of_actions hamt hmat hact
  have hexp := ((monitorApplications_done hamt lks).expires i hact).2
  obtain ⟨a, l', hrun, hshown⟩ := @monitorApplications_performs cfg s amt lks hamt hmat
  have hrun' : monitorApplications lks s = ⟨_, _, l'⟩ := hrun
  intro turns d
  have hturns : (fun j => (amt j).turn (lks j) s.cdsState s.messages (s.row j)) = turns :=
    funext fun j => by rw [ht.row]
  rw [hturns] at hret
  have hturn : (turns i d.after).shown =
      (amt i).lookup (lks i) ((amt i).watch (calls.map (· i))) ++
        ((amt i).act (lks i) s.cdsState s.messages d.after).shown := by
    rw [ht.row] at hexp
    exact congrArg Deed.shown (turn_of_expires hexp _ _ _)
  refine ⟨(ht.expires_iff i (lks i)).mp hexp, hret, ?_⟩
  obtain ⟨post, hpost⟩ := perform_reached hret i
    ((List.finRange cfg.maxMonitoredApps).drop (i + 1))
  refine ⟨post, ?_⟩
  rw [hrun', hshown, perform_appTurn]
  show (perform (fun j => (amt j).turn (lks j) s.cdsState s.messages (s.row j)) _ _).shown = _
  rw [hturns, finRange_take_drop i, hpost, hturn]

/-! ### The pass -/

/-- `HS_ProcessMain` up to the application monitor. -/
def beforeApps (c : CycleIn cfg) : HsM cfg Unit := do
  acquirePointers c.acquire
  decrementCooldowns
  checkUtilization c.utilization

theorem processMain_beforeApps (c : CycleIn cfg) : processMain c = (do
    beforeApps c
    checkApplications c.apps
    outputAliveness
    let status ← processCommands c
    serviceWatchdog
    pure status) := by
  simp only [processMain, beforeApps, Prog.bind_assoc']

theorem beforeApps_does (c : CycleIn cfg) (s : AppData cfg) :
    Does (.tick :: .util :: acquireKinds) (beforeApps c) s := by
  refine Does.bind ((acquirePointers_does _ s).mono (by decide)) fun _ s => ?_
  refine Does.bind ((decrementCooldowns_does s).mono (by decide)) fun _ s => ?_
  exact (checkUtilization_does _ s).mono (by decide)

/-- The states in which a pass of the main loop comes to the application monitor. -/
def AtAppMonitor (c : CycleIn cfg) (s : AppData cfg) : Prop :=
  ∃ s₀ l, beforeApps c s₀ = ⟨.ok (), s, l⟩

theorem AtAppMonitor.monitorsLoaded {c : CycleIn cfg} (h : AtAppMonitor c s) :
    MonitorsLoaded c.acquire s := by
  obtain ⟨s₀, l, hrun⟩ := h
  have htab (t : AppData cfg) (h : MonitorsLoaded c.acquire t) : MonitorsLoaded c.acquire t := h
  have hrest : Logs (MonitorsLoaded c.acquire) (FromAcquired c.acquire) (MonitorsLoaded c.acquire)
      (do decrementCooldowns
          checkUtilization c.utilization : HsM cfg Unit) :=
    Logs.bind htab (Does.logs_monitorsLoaded decrementCooldowns_does safeWith_of_mem) fun _ =>
      Does.logs_monitorsLoaded (checkUtilization_does _) safeWith_of_mem
  exact monitorsLoaded_behind hrest hrun

/-- **The application monitor meets its reference.**  Wherever a pass of the main loop comes
to the application monitor with the monitor on, its calls are those of the turns of the
entries, in the order of the table and each with its watch as it was before the loop, up
to a reset that does not return.  Of `HS_AppData` nothing changes but the watches of the
entries that had their turn, each by the step of its own entry alone, the enable bits of
those whose time was over, and what the actions carry over. -/
theorem checkApplications_reference (c : CycleIn cfg) {s : AppData cfg} (hs : AtAppMonitor c s)
    (hon : s.currentAppMonState = .enabled) :
    let amt := c.acquire.amt.table
    let turns := appEngine c.acquire.mat.ptr amt c.apps s
    let d := perform turns (List.finRange cfg.maxMonitoredApps) s.carried
    let n := begun turns (List.finRange cfg.maxMonitoredApps) s.carried
    (checkApplications c.apps s).log.filterMap Label.called = d.shown ∧
      (checkApplications c.apps s).state = s.watching
        ((((List.finRange cfg.maxMonitoredApps).take n).foldl
            (fun enables i => dropEnable amt c.apps s.row i enables) s.appMonEnables, d.after),
          fun i => if i.val < n then (amt i).next (s.row i) (c.apps i) else s.row i) ∧
      (checkApplications c.apps s).val = (if d.returns = true then .ok () else .error .reboot) ∧
      (d.returns = true → n = cfg.maxMonitoredApps) := by
  intro amt turns d n
  have hloaded := hs.monitorsLoaded
  obtain ⟨hmessages, hmat⟩ := hloaded.messages_eq
  have hamt : s.amTablePtr = some amt :=
    amTablePtr_of_acquired hloaded.tables (hloaded.appMon hon)
  obtain ⟨a, l, hrun, hshown⟩ := @monitorApplications_performs cfg s amt c.apps hamt hmat
  rw [perform_appTurn, hmessages] at hrun hshown
  have hrun' : checkApplications c.apps s =
      ⟨if d.returns = true then .ok a else .error .reboot, s.watching
        ((((List.finRange cfg.maxMonitoredApps).take n).foldl
            (fun enables i => dropEnable amt c.apps s.row i enables) s.appMonEnables, d.after),
          fun i => if i.val < n then (amt i).next (s.row i) (c.apps i) else s.row i), l⟩ := by
    rw [checkApplications, Prog.get_bind, Prog.when_pos hon]
    exact hrun
  rw [hrun']
  refine ⟨hshown, rfl, rfl, fun hret => ?_⟩
  have hall := begun_of_returns hret
  rw [List.length_finRange] at hall
  exact hall

/-- A cycle with a new table, whose one entry restarts application `A` after one pass
without progress; the application is there, and its execution counter stands at 0. -/
def hungCycle : CycleIn .small where
  acquire := .ok (fun _ => ⟨[65], 0, 1, 2⟩) (fun _ => ⟨[], 0, 0, 0⟩) (fun _ => ⟨0, 0, ⟨1, 8⟩⟩)
    (fun _ => ⟨[], 0, 0⟩)
  utilization := ⟨success, 0, true⟩
  apps := fun _ => ⟨⟨success, 7, true⟩, ⟨success, 0, true⟩, success, true⟩
  events := []
  eventsEnd := failed
  cmds := []
  cmdsEnd := failed

/-- `HS_AppData` as that cycle comes to the application monitor. -/
def hungData : AppData .small := (beforeApps hungCycle (initialData .small)).state

theorem hungData_atAppMonitor : AtAppMonitor hungCycle hungData := by
  refine ⟨initialData .small, (beforeApps hungCycle (initialData .small)).log, ?_⟩
  have hval : (beforeApps hungCycle (initialData .small)).val = .ok () := by rfl
  rw [hungData, ← hval]

theorem hungData_on : hungData.currentAppMonState = .enabled := by decide +kernel

theorem checkApplications_reference_hung :
    AtAppMonitor hungCycle hungData ∧ hungData.currentAppMonState = .enabled ∧
      (checkApplications hungCycle.apps hungData).log.filterMap Label.called =
        [.getAppIDByName [65], .getAppInfo 7, .sendEvent .appmonRestartErr .error [.str [65]],
          .restartApp 7] := by
  have hmain := checkApplications_reference hungCycle hungData_atAppMonitor hungData_on
  exact ⟨hungData_atAppMonitor, hungData_on, hmain.1⟩

end HealthSafety
