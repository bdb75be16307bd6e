import HealthSafety.Step.Aloof
import HealthSafety.Step.MonitorApp
import HealthSafety.System.Turns
import HealthSafety.Tables.EventTable
import HealthSafety.Tables.CommandReads
import HealthSafety.Tables.Loaded

/-!
# Orders go to the right application

HS restarts and deletes other applications.  `Ordered c row before x` says that the order
`x` is due in the pass `c` for a row of a table: the row asks for it, the name in the row
was looked up just before, the order goes to the id that this lookup gave, and the calls
of the row, and no others, lead from the read of the row to the order.

In every run of `HS_AppMain` every order stands in the pass of a turn and is such an order
in it, for a row of a table that was acquired in that pass (`orders_justified`).  No
command and nothing in the initialization gives one.
-/

namespace HealthSafety

open Lib

variable {cfg : Config} {α : Type} {c : CycleIn cfg} {s : AppData cfg}

/-! ### Orders -/

/-- The order `x` is due for the row, right behind `before`. -/
inductive Ordered (c : CycleIn cfg) : TableRow cfg → List (Label cfg) → Label cfg → Prop
  /-- The application monitor restarts the application it watches. -/
  | appRestart (before : List (Label cfg)) (i : Fin cfg.maxMonitoredApps) (row : AMTEntry)
      (hact : row.actionType = amtActAppRestart)
      (hfound : (c.apps i).appIDByName.status = success) :
      Ordered c (.amt i row)
        (before ++ [.mark (.rowRead .monitorApplications (.amt i row)),
          .call (.getAppIDByName row.appName), .call (.getAppInfo (c.apps i).appIDByName.out),
          .mark (.amtAction i), .call (.sendEvent .appmonRestartErr .error [.str row.appName])])
        (.call (.restartApp (c.apps i).appIDByName.out))
  /-- The event monitor restarts the application that sent a critical event. -/
  | eventRestart (before : List (Label cfg)) (ev : EvtMsg)
      (lks : Fin cfg.maxMonitoredEvents → EvtLookup) (hev : (some ev, lks) ∈ c.events)
      (i : Fin cfg.maxMonitoredEvents) (row : EMTEntry) (hhit : row.Hit cfg ev)
      (hact : row.actionType = emtActAppRestart)
      (hfound : (lks i).appIDByName.status = success) :
      Ordered c (.emt i row)
        (before ++ [.mark (.rowRead .monitorEvent (.emt i row)), .mark (.emtAction i),
          .call (.getAppIDByName row.appName), .call (.sendEvent .eventmonRestartErr .error
            [.str row.appName, .num row.eventID.toNat])])
        (.call (.restartApp (lks i).appIDByName.out))
  /-- The event monitor deletes it. -/
  | eventDelete (before : List (Label cfg)) (ev : EvtMsg)
      (lks : Fin cfg.maxMonitoredEvents → EvtLookup) (hev : (some ev, lks) ∈ c.events)
      (i : Fin cfg.maxMonitoredEvents) (row : EMTEntry) (hhit : row.Hit cfg ev)
      (hact : row.actionType = emtActAppDelete)
      (hfound : (lks i).appIDByName.status = success) :
      Ordered c (.emt i row)
        (before ++ [.mark (.rowRead .monitorEvent (.emt i row)), .mark (.emtAction i),
          .call (.getAppIDByName row.appName), .call (.sendEvent .eventmonDeleteErr .error
            [.str row.appName, .num row.eventID.toNat])])
        (.call (.deleteApp (lks i).appIDByName.out))

theorem Ordered.behind {row : TableRow cfg} {before : List (Label cfg)} {x : Label cfg}
    (h : Ordered c row before x) (l : List (Label cfg)) : Ordered c row (l ++ before) x := by
  cases h with
  | appRestart before i row hact hfound =>
    rw [← List.append_assoc]
    exact .appRestart _ i row hact hfound
  | eventRestart before ev lks hev i row hhit hact hfound =>
    rw [← List.append_assoc]
    exact .eventRestart _ ev lks hev i row hhit hact hfound
  | eventDelete before ev lks hev i row hhit hact hfound =>
    rw [← List.append_assoc]
    exact .eventDelete _ ev lks hev i row hhit hact hfound

/-- The row was read for its monitor before the order was given. -/
theorem Ordered.read {row : TableRow cfg} {before : List (Label cfg)} {x : Label cfg}
    (h : Ordered c row before x) :
    ∃ reader : Reader, reader.isMonitor = true ∧ Label.mark (.rowRead reader row) ∈ before := by
  cases h with
  | appRestart => exact ⟨.monitorApplications, rfl, by simp⟩
  | eventRestart | eventDelete => exact ⟨.monitorEvent, rfl, by simp⟩

/-- The order is due for some row in the pass. -/
def OrderedIn (c : CycleIn cfg) (before : List (Label cfg)) (x : Label cfg) : Prop :=
  ∃ row, Ordered c row before x

/-- Every order in the log has `P`, given what was logged before it. -/
def Orderly (P : List (Label cfg) → Label cfg → Prop) (_ : AppData cfg) (l : List (Label cfg))
    (_ : AppData cfg) : Prop :=
  AlongOn Label.isOrder P l

section

variable {P : List (Label cfg) → Label cfg → Prop} {t : AppData cfg} {l l' : List (Label cfg)}

theorem Orderly.law (hP : ∀ l before x, P before x → P (l ++ before) x) : Law (Orderly P) :=
  AlongOn.law hP

theorem Orderly.of_free (h : ∀ x ∈ l, x.isOrder = false) : Orderly P s l t := AlongOn.of_free h

theorem Orderly.of_single {x : Label cfg} (h : ∀ y ∈ l, y.isOrder = false) (hx : P l x)
    (h' : ∀ y ∈ l', y.isOrder = false) : Orderly P s (l ++ x :: l') t := AlongOn.of_single h hx h'

end

theorem OrderedIn.behind (l before : List (Label cfg)) (x : Label cfg)
    (h : OrderedIn c before x) : OrderedIn c (l ++ before) x := h.imp fun _ hrow => hrow.behind l

theorem OrderedIn.law (c : CycleIn cfg) : Law (Orderly (OrderedIn c)) :=
  Orderly.law OrderedIn.behind

/-! ### Functions that give no order -/

/-- Only the orders are watched. -/
def orderLook (cfg : Config) : Look (AppData cfg) (Label cfg) Stop Unit where
  view := fun _ => ()
  seen := Label.isOrder
  excused := fun _ => True

/-- `m` gives no order. -/
abbrev OrderFree (m : HsM cfg α) : Prop := Silent (orderLook cfg) m

theorem Lib.Silent.orderFree {switch : Bool} {m : HsM cfg α} (h : Aloof switch true m) :
    OrderFree m := by
  refine h.mono (fun _ _ _ => rfl) (fun x hx => ?_) fun _ he => he
  have hx' : (x.ofDials || (x.isOrder && true)) = false := hx
  rw [Bool.or_eq_false_iff, Bool.and_true] at hx'
  exact hx'.2

theorem initRest_orderFree (i : InitIn cfg) : OrderFree (initRest i) :=
  (initRest_aloof i).mono (fun _ _ _ => rfl) (fun _ hx => hx) fun _ he => he

theorem checkHogging_orderFree (util : Int) : OrderFree (checkHogging util : HsM cfg Unit) := by
  refine .get_bind fun _ => .ite (.bind (.modify fun _ => rfl) fun _ => ?_) (.modify fun _ => rfl)
  exact .get_bind fun _ => .ite (.bind (.emit rfl) fun _ => .emit rfl) (.pure _)

theorem sysMonGetCpuUtilization_orderFree (r : Reply Int) :
    OrderFree (sysMonGetCpuUtilization r : HsM cfg Int) :=
  .get_bind fun _ => .ite (.pure _) (.bind (.emit rfl) fun _ => .ite (.pure _) (.pure _))

theorem monitorUtilization_orderFree (r : Reply Int) :
    OrderFree (monitorUtilization r : HsM cfg Unit) := by
  refine .get_bind fun _ => .bind (.modify fun _ => rfl) fun _ => .get_bind fun _ =>
    .bind (.when (.modify fun _ => rfl)) fun _ =>
    .bind (sysMonGetCpuUtilization_orderFree r) fun _ => .ite (.modify fun _ => rfl)
      (.bind (checkHogging_orderFree _) fun _ => ?_)
  split
  · exact .bind (.modify fun _ => rfl) fun _ => .get_bind fun _ => .modify fun _ => rfl
  · exact .stop trivial

theorem checkUtilization_orderFree (r : Reply Int) :
    OrderFree (checkUtilization r : HsM cfg Unit) :=
  .get_bind fun _ => .bind (.when (.bind (monitorUtilization_orderFree r) fun _ =>
    .modify fun _ => rfl)) fun _ => .modify fun _ => rfl

theorem outputAliveness_orderFree : OrderFree (outputAliveness : HsM cfg Unit) :=
  .get_bind fun _ => .when (.bind (.modify fun _ => rfl) fun _ => .get_bind fun _ =>
    .when (.bind (.emit rfl) fun _ => .modify fun _ => rfl))

theorem sysMonCleanup_orderFree (stopped : Bool) :
    OrderFree (sysMonCleanup stopped : HsM cfg Unit) :=
  .get_bind fun _ => .when (.bind (.emit rfl) fun _ => .when (.emit rfl))

theorem mainEnd_orderFree (stopped : Bool) (v : MainVars) :
    OrderFree (mainEnd stopped v : HsM cfg Unit) :=
  .bind (.when (.bind (.emit rfl) fun _ => .emit rfl)) fun _ => sysMonCleanup_orderFree stopped

theorem Lib.Silent.free {m : HsM cfg α} (h : OrderFree m) (s : AppData cfg) :
    ∀ x ∈ (m s).log, x.isOrder = false :=
  fun x hx => Bool.eq_false_iff.mpr (List.filter_eq_nil_iff.mp (h.unseen s) x hx)

theorem Lib.Silent.orderly {m : HsM cfg α} (h : OrderFree m)
    (P : List (Label cfg) → Label cfg → Prop) (s : AppData cfg) : Moves (Orderly P) m s :=
  .of_free (h.free s)

/-! ### Along the monitors -/

section

variable {p : Label cfg → Bool} {P : List (Label cfg) → Label cfg → Prop}

/-- Of a turn of the application monitor only the action of an expired row matters. -/
theorem monitorApp_along {lks : Fin cfg.maxMonitoredApps → AppLookup} {v : AppMonVars}
    {i : Fin cfg.maxMonitoredApps} (hlook : ∀ x : Label cfg, x.IsLookup → p x = false)
    (hnull : ∀ tbl reader, p (.mark (.nullRead tbl reader)) = false)
    (haction : ∀ (amt : AMT cfg) l, s.amTablePtr = some amt →
      (amt i).Expires (s.row i) (lks i) →
      l = .mark (.rowRead .monitorApplications (.amt i (amt i))) ::
        (resolveApp i (amt i) (lks i) v s).log → (∀ x ∈ l, x.IsLookup) → AlongOn p P
          (l ++ (appMonAction i (amt i) (lks i) (lks i).status ((lks i).vars v).appId
            (s.expire i)).log)) :
    AlongOn p P (monitorApp lks v i s).log := by
  cases hs : s.amTablePtr with
  | none =>
    rw [monitorApp, Prog.bind_error (readAmt_null hs _ i)]
    exact AlongOn.of_free (List.forall_mem_singleton.mpr (hnull _ _))
  | some amt =>
    by_cases hw : (amt i).Watched (s.row i)
    · obtain ⟨l, hl, hlookups, -, hrun⟩ := monitorApp_watched hs hw lks v
      have hfree : ∀ x ∈ l, p x = false := fun x hx => hlook x (hlookups x hx)
      rw [hrun]
      by_cases hprogress : (lks i).Progress (s.row i).last
      · rw [countdownApp_progress hprogress, List.append_nil]
        exact AlongOn.of_free hfree
      by_cases hc : s.appMonCheckInCountdown i = 1
      · rw [countdownApp_expire hprogress hc]
        exact haction amt l hs ⟨hw.1, hc, hprogress⟩ hl hlookups
      · rw [countdownApp_wait hprogress hc, List.append_nil]
        exact AlongOn.of_free hfree
    · rw [monitorApp_idle hs hw]
      exact AlongOn.of_free (List.forall_mem_singleton.mpr (hlook _ trivial))

theorem checkApplications_along (hP : ∀ l before x, P before x → P (l ++ before) x)
    {lks : Fin cfg.maxMonitoredApps → AppLookup}
    (hrow : ∀ v i s, AlongOn p P (monitorApp lks v i s).log) (s : AppData cfg) :
    AlongOn p P (checkApplications lks s).log := by
  have hlaw : Law fun (_ : AppData cfg) l (_ : AppData cfg) => AlongOn p P l := AlongOn.law hP
  have hmoves : Moves (fun _ l _ => AlongOn p P l) (checkApplications lks) s := by
    refine Moves.get_bind (Moves.when hlaw fun _ =>
      Moves.bind hlaw ?_ fun _ _ => Moves.pure hlaw _ _)
    exact Moves.fold hlaw _ (fun i _ v t => hrow v i t) _ _
  exact hmoves

/-- Of a turn of the event monitor only the action of a row that is hit matters. -/
theorem monitorEventRow_along {ev : EvtMsg} {lks : Fin cfg.maxMonitoredEvents → EvtLookup}
    {appId : UInt32} {i : Fin cfg.maxMonitoredEvents}
    (hread : ∀ row, p (.mark (.rowRead .monitorEvent (.emt i row))) = false)
    (hnull : ∀ tbl reader, p (.mark (.nullRead tbl reader)) = false)
    (haction : ∀ emt : EMT cfg, s.emTablePtr = some emt → (emt i).Hit cfg ev → AlongOn p P
      (.mark (.rowRead .monitorEvent (.emt i (emt i))) ::
        (eventAction i (emt i) (lks i) appId s).log)) :
    AlongOn p P (monitorEventRow ev lks appId i s).log := by
  cases hs : s.emTablePtr with
  | none =>
    rw [monitorEventRow, Prog.bind_error (readEmt_null hs _ i)]
    exact AlongOn.of_free (List.forall_mem_singleton.mpr (hnull _ _))
  | some emt =>
    rw [monitorEventRow_apply hs]
    by_cases hhit : (emt i).Hit cfg ev
    · rw [if_pos hhit]
      exact haction emt hs hhit
    · rw [if_neg hhit]
      exact AlongOn.of_free (List.forall_mem_singleton.mpr (hread _))

theorem drainEvents_along (hP : ∀ l before x, P before x → P (l ++ before) x) {c : CycleIn cfg}
    (hrow : ∀ ev lks, (some ev, lks) ∈ c.events → ∀ appId i s,
      AlongOn p P (monitorEventRow ev lks appId i s).log) (s : AppData cfg) :
    AlongOn p P (drainEvents c s).log := by
  have hlaw : Law fun (_ : AppData cfg) l (_ : AppData cfg) => AlongOn p P l := AlongOn.law hP
  have hmoves : Moves (fun _ l _ => AlongOn p P l) (drainEvents c) s := by
    refine Moves.get_bind (Moves.ite (fun _ => Moves.bind hlaw ?_ fun _ _ =>
      Moves.pure hlaw _ _) fun _ => Moves.pure hlaw _ _)
    refine Moves.each hlaw _ (fun e he t => ?_) _
    obtain ⟨_ | ev, lks⟩ := e
    · exact Moves.pure hlaw _ _
    · refine Moves.bind hlaw (AlongOn.of_free (List.forall_mem_nil _)) fun _ _ =>
        Moves.bind hlaw ?_ fun _ _ => Moves.pure hlaw _ _
      exact Moves.fold hlaw _ (fun i _ appId t => hrow ev lks he appId i t) _ _
  exact hmoves

end

/-! ### The application monitor -/

theorem isOrder_of_lookup {x : Label cfg} (h : x.IsLookup) : x.isOrder = false := by
  cases x with
  | call c => cases c <;> first | rfl | exact h.elim
  | mark m => rfl

/-- The action of a row gives an order only for a restart action. -/
theorem appMonAction_free {i : Fin cfg.maxMonitoredApps} {row : AMTEntry} {lk : AppLookup}
    {status : Status} {appId : UInt32}
    (h : ¬ (row.actionType = amtActAppRestart ∧ status = success)) :
    ∀ x ∈ (appMonAction i row lk status appId s).log, x.isOrder = false := by
  intro x hx
  cases appMonAction_labels i row lk status appId s x hx with
  | restart hact hst => exact absurd ⟨hact, hst⟩ h
  | message _ _ _ hx => cases hx <;> rfl
  | _ => rfl

/-- The log of an action that restarts the application. -/
theorem appMonAction_restart {i : Fin cfg.maxMonitoredApps} {row : AMTEntry}
    (hact : row.actionType = amtActAppRestart) (lk : AppLookup) (appId : UInt32) :
    ∃ l, (appMonAction i row lk success appId s).log =
        [.mark (.amtAction i), .call (.sendEvent .appmonRestartErr .error [.str row.appName])] ++
          .call (.restartApp appId) :: l ∧ ∀ x ∈ l, x.isOrder = false := by
  have hne : ¬ row.actionType = amtActProcReset := by
    rw [hact]
    decide
  rw [appMonAction, Prog.emit_bind, if_neg hne, if_pos hact, Prog.emit_bind, if_pos rfl,
    Prog.emit_bind]
  refine ⟨_, rfl, fun x hx => ?_⟩
  split at hx
  · rw [List.mem_singleton.mp hx]
    rfl
  · cases hx

/-- The calls of a lookup that finds the application. -/
theorem resolveApp_found {i : Fin cfg.maxMonitoredApps} {row : AMTEntry} {lk : AppLookup}
    (h : lk.appIDByName.status = success) (v : AppMonVars) :
    (resolveApp i row lk v s).log =
      [.call (.getAppIDByName row.appName), .call (.getAppInfo lk.appIDByName.out)] := by
  rw [resolveApp, Prog.emit_bind, if_pos h, Prog.emit_bind, Reply.value_of_success h]
  rfl

theorem AppLookup.found_of_status {lk : AppLookup} (h : lk.status = success) :
    lk.appIDByName.status = success := by
  refine Classical.byContradiction fun hne => ?_
  rw [AppLookup.status, if_neg hne] at h
  exact hne h

/-- The lookup and the action for a row whose counter ran out. -/
theorem expire_orderly (i : Fin cfg.maxMonitoredApps) (row : AMTEntry) (v : AppMonVars)
    (s t u : AppData cfg) {l : List (Label cfg)}
    (hl : l = .mark (.rowRead .monitorApplications (.amt i row)) ::
      (resolveApp i row (c.apps i) v s).log) (hfree : ∀ x ∈ l, x.isOrder = false) :
    Orderly (OrderedIn c) s (l ++ (appMonAction i row (c.apps i) (c.apps i).status
      ((c.apps i).vars v).appId t).log) u := by
  by_cases hact : row.actionType = amtActAppRestart ∧ (c.apps i).status = success
  · have hfound := AppLookup.found_of_status hact.2
    have hid : ((c.apps i).vars v).appId = (c.apps i).appIDByName.out :=
      Reply.value_of_success hfound _
    obtain ⟨l', hlog, hfree'⟩ := appMonAction_restart (s := t) (i := i) hact.1 (c.apps i)
      (c.apps i).appIDByName.out
    rw [hact.2, hid, hlog, ← List.append_assoc]
    refine Orderly.of_single (fun y hy => ?_) ⟨.amt i row, ?_⟩ hfree'
    · rcases List.mem_append.mp hy with hy | hy
      · exact hfree y hy
      · simp only [List.mem_cons, List.not_mem_nil, or_false] at hy
        rcases hy with rfl | rfl <;> rfl
    · rw [hl, resolveApp_found hfound]
      exact .appRestart [] i row hact.1 hfound
  · exact Orderly.of_free (List.forall_mem_append.mpr ⟨hfree, appMonAction_free hact⟩)

theorem checkApplications_orderly (c : CycleIn cfg) (s : AppData cfg) :
    Moves (Orderly (OrderedIn c)) (checkApplications c.apps) s := by
  refine checkApplications_along OrderedIn.behind (fun v i s => ?_) s
  exact monitorApp_along (fun _ => isOrder_of_lookup) (fun _ _ => rfl) fun amt l _ _ hl hlook =>
    expire_orderly i (amt i) v s _ s hl fun x hx => isOrder_of_lookup (hlook x hx)

/-! ### The event monitor -/

/-- Without the application there is no command. -/
theorem commandApp_lost {row : EMTEntry} {status : Status} (h : status ≠ success) (appId : UInt32)
    (okEid errEid : EventId) (cmd : UInt32 → Call cfg) (cmdStatus : Status) :
    OrderFree (commandApp row status appId okEid errEid cmd cmdStatus) := by
  rw [commandApp, if_neg h]
  exact .emit rfl

/-- The log of a command to an application that was found. -/
theorem commandApp_found (row : EMTEntry) (appId : UInt32) (okEid errEid : EventId)
    (cmd : UInt32 → Call cfg) (cmdStatus : Status) :
    ∃ l, (commandApp row success appId okEid errEid cmd cmdStatus s).log =
        .call (.sendEvent okEid .error [.str row.appName, .num row.eventID.toNat]) ::
          .call (cmd appId) :: l ∧ ∀ x ∈ l, x.isOrder = false := by
  rw [commandApp, if_pos rfl, Prog.emit_bind, Prog.emit_bind]
  refine ⟨_, rfl, ?_⟩
  have hrest : OrderFree (if cmdStatus ≠ success then
      sendEvent errEid .error [.str row.appName, .num cmdStatus] else pure () : HsM cfg Unit) :=
    .ite (.emit rfl) (.pure _)
  exact hrest.free s

theorem appCommand_log (row : EMTEntry) (lk : EvtLookup) (appId : UInt32) (okEid errEid : EventId)
    (cmd : UInt32 → Call cfg) (cmdStatus : Status) :
    (appCommand row lk appId okEid errEid cmd cmdStatus s).log =
      .call (.getAppIDByName row.appName) :: (commandApp row lk.appIDByName.status
        (lk.appIDByName.value appId) okEid errEid cmd cmdStatus s).log := by
  rw [appCommand, Prog.emit_bind, Prog.bind_pure_apply]

/-- A command is an order to the application that was looked up for the row. -/
theorem appCommand_orderly {row : EMTEntry} {lk : EvtLookup} {okEid errEid : EventId}
    {cmd : UInt32 → Call cfg} {l : List (Label cfg)} {P : List (Label cfg) → Label cfg → Prop}
    (hl : ∀ x ∈ l, x.isOrder = false)
    (hP : lk.appIDByName.status = success → P (l ++ [.call (.getAppIDByName row.appName),
      .call (.sendEvent okEid .error [.str row.appName, .num row.eventID.toNat])])
      (.call (cmd lk.appIDByName.out))) (appId : UInt32) (cmdStatus : Status) :
    Orderly P s (l ++ (appCommand row lk appId okEid errEid cmd cmdStatus s).log) s := by
  rw [appCommand_log]
  by_cases h : lk.appIDByName.status = success
  · obtain ⟨l', hlog, hfree⟩ := commandApp_found (s := s) row lk.appIDByName.out okEid errEid cmd
      cmdStatus
    rw [Reply.value_of_success h, h, hlog]
    have hsplit : l ++ .call (.getAppIDByName row.appName) ::
        .call (.sendEvent okEid .error [.str row.appName, .num row.eventID.toNat]) ::
        .call (cmd lk.appIDByName.out) :: l' =
      (l ++ [.call (.getAppIDByName row.appName),
        .call (.sendEvent okEid .error [.str row.appName, .num row.eventID.toNat])]) ++
        .call (cmd lk.appIDByName.out) :: l' := by
      rw [List.append_assoc]
      rfl
    rw [hsplit]
    refine Orderly.of_single (fun y hy => ?_) (hP h) hfree
    rcases List.mem_append.mp hy with hy | hy
    · exact hl y hy
    · simp only [List.mem_cons, List.not_mem_nil, or_false] at hy
      rcases hy with rfl | rfl <;> rfl
  · refine Orderly.of_free (List.forall_mem_append.mpr ⟨hl, List.forall_mem_cons.mpr ⟨rfl, ?_⟩⟩)
    exact (commandApp_lost h _ _ _ _ _).free s

theorem eventAction_orderly {ev : EvtMsg} {lks : Fin cfg.maxMonitoredEvents → EvtLookup}
    (hev : (some ev, lks) ∈ c.events) {row : EMTEntry} (hhit : row.Hit cfg ev)
    (i : Fin cfg.maxMonitoredEvents) (appId : UInt32) (s : AppData cfg) :
    Orderly (OrderedIn c) s
      (.mark (.rowRead .monitorEvent (.emt i row)) :: (eventAction i row (lks i) appId s).log)
      s := by
  have hfree : ∀ x ∈ ([.mark (.rowRead .monitorEvent (.emt i row)), .mark (.emtAction i)] :
      List (Label cfg)), x.isOrder = false := by simp [Label.isOrder]
  have hother {m : HsM cfg UInt32} (hm : OrderFree m) :
      Orderly (OrderedIn c) s
        ([.mark (.rowRead .monitorEvent (.emt i row)), .mark (.emtAction i)] ++ (m s).log) s :=
    Orderly.of_free (List.forall_mem_append.mpr ⟨hfree, hm.free s⟩)
  rw [eventAction, Prog.emit_bind]
  by_cases hreset : row.actionType = emtActProcReset
  · rw [if_pos hreset]
    have haloof : Aloof false true (procReset (lks i).resetReturns : HsM cfg Unit) :=
      procReset_aloof _
    exact hother (.bind (.emit rfl) fun _ => .bind haloof.orderFree fun _ => .pure _)
  rw [if_neg hreset]
  by_cases hrestart : row.actionType = emtActAppRestart
  · rw [if_pos hrestart]
    refine appCommand_orderly hfree (fun hfound => ⟨.emt i row, ?_⟩) appId _
    exact .eventRestart [] ev lks hev i row hhit hrestart hfound
  rw [if_neg hrestart]
  by_cases hdelete : row.actionType = emtActAppDelete
  · rw [if_pos hdelete]
    refine appCommand_orderly hfree (fun hfound => ⟨.emt i row, ?_⟩) appId _
    exact .eventDelete [] ev lks hev i row hhit hdelete hfound
  · rw [if_neg hdelete]
    have haloof : Aloof false true (msgAction .monitorEvent .eventmonMsgactsErr
        [.str row.appName, .num row.eventID.toNat]
        (row.actionType.toUInt32 - emtActLastNonmsg.toUInt32 - 1) : HsM cfg Unit) :=
      msgAction_aloof _ (by decide) _ _
    exact hother (.bind haloof.orderFree fun _ => .pure _)

theorem drainEvents_orderly (c : CycleIn cfg) (s : AppData cfg) :
    Moves (Orderly (OrderedIn c)) (drainEvents c) s := by
  refine drainEvents_along OrderedIn.behind (fun ev lks hev appId i s => ?_) s
  exact monitorEventRow_along (fun _ => rfl) (fun _ _ => rfl) fun _ _ hhit =>
    eventAction_orderly hev hhit i appId s

/-! ### A pass -/

theorem processCommands_orderly (c : CycleIn cfg) (s : AppData cfg) :
    Moves (Orderly (OrderedIn c)) (processCommands c) s := by
  have hlaw := OrderedIn.law c
  have hcmds : Aloof false true (drainCommands c) := drainCommands_aloof c
  refine Moves.bind hlaw (drainEvents_orderly c _) fun _ _ => Moves.ite (fun _ => ?_)
    fun _ => Moves.pure hlaw _ _
  exact Moves.bind hlaw (hcmds.orderFree.orderly _ _) fun _ _ => Moves.pure hlaw _ _

theorem processMain_orderly (c : CycleIn cfg) (s : AppData cfg) :
    Moves (Orderly (OrderedIn c)) (processMain c) s := by
  have hlaw := OrderedIn.law c
  have hacquire : Aloof false true (acquirePointers c.acquire) := acquirePointers_aloof _
  have hcool : Aloof false true (@decrementCooldowns cfg) := decrementCooldowns_aloof
  have hwatchdog : Aloof false true (@serviceWatchdog cfg) := serviceWatchdog_aloof
  exact Moves.bind hlaw (hacquire.orderFree.orderly _ _) fun _ _ =>
    Moves.bind hlaw (hcool.orderFree.orderly _ _) fun _ _ =>
    Moves.bind hlaw ((checkUtilization_orderFree _).orderly _ _) fun _ _ =>
    Moves.bind hlaw (checkApplications_orderly c _) fun _ _ =>
    Moves.bind hlaw (outputAliveness_orderFree.orderly _ _) fun _ _ =>
    Moves.bind hlaw (processCommands_orderly c _) fun _ _ =>
    Moves.bind hlaw (hwatchdog.orderFree.orderly _ _) fun _ _ => Moves.pure hlaw _ _

/-- A row that a monitor reads in a pass is in a table that was acquired in that pass. -/
theorem from_of_read {c : CycleIn cfg} {reader : Reader} {row : TableRow cfg}
    (hmon : reader.isMonitor = true)
    (h : Label.mark (.rowRead reader row) ∈ (processMain c s).log) : row.From c.acquire := by
  rcases mem_processMain_log h with h | h
  · rw [(acquirePointers_fromAcquired c.acquire s h).1 reader row rfl] at hmon
    cases hmon
  · exact h.row reader row rfl

/-- Every order of a pass is due, for a row of a table that was acquired in that pass. -/
theorem processMain_justified {before : List (Label cfg)} {x : Label cfg}
    (h : Logged (processMain c) s before x) (hx : x.isOrder = true) :
    ∃ row : TableRow cfg, row.From c.acquire ∧ Ordered c row before x := by
  obtain ⟨row, hrow⟩ := h.along (processMain_orderly c s) hx
  obtain ⟨reader, hmon, hread⟩ := hrow.read
  obtain ⟨after, hlog⟩ := h
  refine ⟨row, from_of_read (s := s) hmon ?_, hrow⟩
  rw [hlog]
  exact List.mem_append_left _ hread

/-! ### Runs -/

theorem mainStart_orderFree (i : InitIn cfg) (j : StartIn) : OrderFree (mainStart i j) := by
  have hstartup : Aloof false true (startup j : HsM cfg _) := startup_aloof j
  have hinit : OrderFree (appInit i) := by
    refine .bind (.emit rfl) fun _ => .bind (.modify fun _ => rfl) fun _ => initRest_orderFree i
  exact .bind hinit fun _ => .ite hstartup.orderFree (.pure _)

/-- Every order of a run stands in a turn. -/
theorem order_inTurn {timeOut : Status} {i : MainIn cfg} {n : Nat} {before : List (Label cfg)}
    {x : Label cfg} (h : Logged (appMain timeOut i n) s before x) (hx : x.isOrder = true) :
    ∃ k < n, ∃ t pre, InTurn timeOut i s k before x t pre :=
  appMain_inTurn (fun s => not_mem_of_free ((mainStart_orderFree _ _).free s) hx)
    (fun v s => not_mem_of_free ((mainEnd_orderFree _ v).free s) hx) h

/-- **HS restarts and deletes only what the tables say.**  In every run of `HS_AppMain`,
whatever the environment answers, each order to restart or delete an application stands in
the pass of one of its turns, and in that pass it is due for a row of a table that was
acquired in it: the row asks for it, its name was looked up just before, and the order goes
to the id the lookup gave. -/
theorem orders_justified (timeOut : Status) (i : MainIn cfg) (n : Nat) (s : AppData cfg) :
    Along (fun before x => x.isOrder = true → ∃ k < n, ∃ t pre,
      InTurn timeOut i s k before x t pre ∧ ∃ row : TableRow cfg,
        row.From (i.turn k).cycle.acquire ∧ Ordered (i.turn k).cycle row pre x)
      (appMain timeOut i n s).log := by
  intro before x after hlog hx
  obtain ⟨k, hk, t, pre, hturn⟩ := order_inTurn ⟨after, hlog⟩ hx
  exact ⟨k, hk, t, pre, hturn, processMain_justified hturn.pass hx⟩

end HealthSafety
