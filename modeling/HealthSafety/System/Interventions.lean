import HealthSafety.System.AppEngine
import HealthSafety.System.Orders

/-!
# Interventions that the tables ask for

HS can reset the processor, and it sends the messages of the message action table.
`Entered c s reader row t before` says that in the pass `c` from the state `s` the monitor
`reader` comes to the row and enters its action: the application monitor in its loop, when
the countdown of the row ends, the event monitor for an event of the pass that hits the row.
`before` is what the pass has logged so far, and `t` the state as the action is entered.

`Intervened c s row before x` says that the intervention `x` is due behind that: the row asks
for it, and HS may do it in the state `t`.  A reset needs a budget in the critical data of
`t`; it is reported, counted, and the counted critical data is copied if the critical data
store is on, before `CFE_ES_ResetCFE` is called.  A message needs message actions that are
on, a cooldown that is over, and an enabled row of the message action table.

In every run of `HS_AppMain` every reset and every message stands in the pass of a turn and
is due in it, for rows of tables that were acquired in that pass
(`interventions_justified`).
-/

namespace HealthSafety

open Lib

variable {cfg : Config} {c : CycleIn cfg} {s t : AppData cfg}

/-! ### Where a pass comes to a row -/

/-- `HS_ProcessMain` up to the row `i` in the loop of `HS_MonitorApplications`. -/
def beforeAppRow (c : CycleIn cfg) (i : Fin cfg.maxMonitoredApps) : HsM cfg AppMonVars := do
  beforeApps c
  Prog.fold (monitorApp c.apps) ⟨0, 0⟩ ((List.finRange cfg.maxMonitoredApps).take i)

/-- `HS_ProcessMain` up to the row `i` in the loop of `HS_MonitorEvent` for the event `ev`,
when the events `evs` came before it. -/
def beforeEventRow (c : CycleIn cfg)
    (evs : List (Option EvtMsg × (Fin cfg.maxMonitoredEvents → EvtLookup))) (ev : EvtMsg)
    (lks : Fin cfg.maxMonitoredEvents → EvtLookup) (i : Fin cfg.maxMonitoredEvents) :
    HsM cfg UInt32 := do
  beforeEvents c
  let _ ← drainEvents { c with events := evs }
  modifyApp fun d => { d with eventsMonitoredCount := d.eventsMonitoredCount + 1 }
  Prog.fold (monitorEventRow ev lks) 0 ((List.finRange cfg.maxMonitoredEvents).take i)

/-- In the pass `c` from `s` the monitor enters the action of the row, in the state `t` and
with the log `before`. -/
inductive Entered (c : CycleIn cfg) (s : AppData cfg) :
    Reader → TableRow cfg → AppData cfg → List (Label cfg) → Prop
  | app (i : Fin cfg.maxMonitoredApps) (row : AMTEntry) {v : AppMonVars} {t : AppData cfg}
      {l : List (Label cfg)} (hrun : beforeAppRow c i s = ⟨.ok v, t, l⟩)
      (hon : t.currentAppMonState = .enabled) (hrow : t.amTablePtr.map (· i) = some row)
      (hexp : row.Expires (t.row i) (c.apps i)) :
      Entered c s .monitorApplications (.amt i row) (t.expire i)
        (l ++ (.mark (.rowRead .monitorApplications (.amt i row)) ::
          (row.lookup (c.apps i) (t.row i)).map .call ++ [.mark (.amtAction i)]))
  | event {evs rest : List (Option EvtMsg × (Fin cfg.maxMonitoredEvents → EvtLookup))}
      {ev : EvtMsg} {lks : Fin cfg.maxMonitoredEvents → EvtLookup}
      (hevents : c.events = evs ++ (some ev, lks) :: rest) (i : Fin cfg.maxMonitoredEvents)
      (row : EMTEntry) {appId : UInt32} {t : AppData cfg} {l : List (Label cfg)}
      (hrun : beforeEventRow c evs ev lks i s = ⟨.ok appId, t, l⟩)
      (hon : t.currentEventMonState = .enabled) (hrow : t.emTablePtr.map (· i) = some row)
      (hhit : row.Hit cfg ev) :
      Entered c s .monitorEvent (.emt i row) t
        (l ++ [.mark (.rowRead .monitorEvent (.emt i row)), .mark (.emtAction i)])

/-! ### Interventions -/

/-- A processor reset or a message. -/
def Label.isIntervention : Label cfg → Bool
  | .call (.resetCFE _) => true
  | .call (.transmitMsg _ _) => true
  | _ => false

/-- The row asks for a processor reset, which is reported like this. -/
inductive AsksReset : TableRow cfg → Call cfg → Prop
  | app (i : Fin cfg.maxMonitoredApps) (row : AMTEntry) (h : row.actionType = amtActProcReset) :
      AsksReset (.amt i row) (.sendEvent .appmonProcErr .error [.str row.appName])
  | event (i : Fin cfg.maxMonitoredEvents) (row : EMTEntry)
      (h : row.actionType = emtActProcReset) :
      AsksReset (.emt i row)
        (.sendEvent .eventmonProcErr .error [.str row.appName, .num row.eventID.toNat])

/-- The row asks for the message. -/
inductive AsksMessage : TableRow cfg → Fin cfg.maxMsgActTypes → Prop
  | app (i : Fin cfg.maxMonitoredApps) (row : AMTEntry) (idx : Fin cfg.maxMsgActTypes)
      (h : row.actionType.toNat = amtActLastNonmsg.toNat + 1 + idx) : AsksMessage (.amt i row) idx
  | event (i : Fin cfg.maxMonitoredEvents) (row : EMTEntry) (idx : Fin cfg.maxMsgActTypes)
      (h : row.actionType.toNat = emtActLastNonmsg.toNat + 1 + idx) : AsksMessage (.emt i row) idx

/-- In the pass `c` from `s`, the intervention `x` is due for the row, right behind `before`. -/
inductive Intervened (c : CycleIn cfg) (s : AppData cfg) :
    TableRow cfg → List (Label cfg) → Label cfg → Prop
  | reset {reader : Reader} {row : TableRow cfg} {t : AppData cfg} {before : List (Label cfg)}
      {report : Call cfg} (hentry : Entered c s reader row t before) (hask : AsksReset row report)
      (hlt : t.cdsData.resetsPerformed < t.cdsData.maxResets) :
      Intervened c s row (before ++ (.call report ::
        copyLog t (.of (t.cdsData.resetsPerformed + 1) t.cdsData.maxResets) ++
          [.call .taskDelay, .call .writeToSysLog])) (.call (.resetCFE .disabled))
  | message {reader : Reader} {row : TableRow cfg} {t : AppData cfg} {before : List (Label cfg)}
      (hentry : Entered c s reader row t before) (idx : Fin cfg.maxMsgActTypes)
      (hask : AsksMessage row idx) (mat : MAT cfg) (hs : t.msgActsState = .enabled)
      (hc : t.msgActCooldown idx = 0) (hm : t.maTablePtr = some mat)
      (he : (mat idx).enableState ≠ matStateDisabled) :
      Intervened c s row (before ++ [.mark (.rowRead reader (.mat idx (mat idx))),
        .mark (.msgAct idx .enabled (some (mat idx)) true)]) (.call (.transmitMsg idx (mat idx)))

theorem Entered.read {reader : Reader} {row : TableRow cfg} {before : List (Label cfg)}
    (h : Entered c s reader row t before) :
    reader.isMonitor = true ∧ Label.mark (.rowRead reader row) ∈ before := by
  cases h with
  | app => exact ⟨rfl, by simp⟩
  | event => exact ⟨rfl, by simp⟩

/-- The row was read for its monitor before the intervention. -/
theorem Intervened.read {row : TableRow cfg} {before : List (Label cfg)} {x : Label cfg}
    (h : Intervened c s row before x) :
    ∃ reader : Reader, reader.isMonitor = true ∧ Label.mark (.rowRead reader row) ∈ before := by
  cases h with
  | @reset reader _ _ _ _ hentry | @message reader _ _ _ hentry =>
    obtain ⟨hmon, hread⟩ := hentry.read
    exact ⟨reader, hmon, List.mem_append_left _ hread⟩

theorem isIntervention_of_lookup {x : Label cfg} (h : x.IsLookup) : x.isIntervention = false := by
  cases x with
  | call c => cases c <;> first | rfl | exact h.elim
  | mark m => rfl

/-- The intervention is due for some row, when the pass has logged `before` already. -/
def IntervenedBehind (c : CycleIn cfg) (s : AppData cfg) (before path : List (Label cfg))
    (x : Label cfg) : Prop :=
  ∃ row, Intervened c s row (before ++ path) x

theorem IntervenedBehind.append {l l' path : List (Label cfg)} {x : Label cfg}
    (h : IntervenedBehind c s (l ++ l') path x) : IntervenedBehind c s l (l' ++ path) x := by
  obtain ⟨row, hrow⟩ := h
  rw [List.append_assoc] at hrow
  exact ⟨row, hrow⟩

/-- Every intervention in the log has `P`, given what was logged before it. -/
abbrev Warranted (P : List (Label cfg) → Label cfg → Prop) (l : List (Label cfg)) : Prop :=
  AlongOn Label.isIntervention P l

/-! ### Functions that do not intervene -/

theorem isIntervention_eq {k : Kind} {x : Label cfg} (hx : k ∈ x.kinds) (hreset : k ≠ .reset)
    (hmessage : k ≠ .message) : x.isIntervention = false := by
  unfold Label.isIntervention
  split
  · exact absurd (List.mem_singleton.mp hx) hreset
  · exact absurd (List.mem_singleton.mp hx) hmessage
  · rfl

theorem Does.idle {α : Type} {ks : List Kind} {m : HsM cfg α} (h : Does ks m s)
    (hks : ∀ k ∈ ks, k ≠ .reset ∧ k ≠ .message := by decide) :
    ∀ x ∈ (m s).log, x.isIntervention = false := by
  intro x hx
  obtain ⟨k, hk, hkx⟩ := h.kind_of_mem hx
  exact isIntervention_eq hkx (hks k hk).1 (hks k hk).2

/-! ### Actions -/

section

variable {reader : Reader} {row : TableRow cfg} {before : List (Label cfg)}

/-- A reset is called only if there is a budget for it, and is counted before. -/
theorem procReset_warranted (hentry : Entered c s reader row t before) {report : Call cfg}
    (hask : AsksReset row report) (returns : Bool) :
    Warranted (IntervenedBehind c s before) (.call report :: (procReset returns t).log) := by
  have hreport : (Label.call report).isIntervention = false := by cases hask <;> rfl
  by_cases h : t.cdsData.resetsPerformed < t.cdsData.maxResets
  · have hsplit : .call report :: (procReset returns t).log = (.call report ::
        copyLog t (.of (t.cdsData.resetsPerformed + 1) t.cdsData.maxResets) ++
          [.call .taskDelay, .call .writeToSysLog]) ++ .call (.resetCFE .disabled) :: [] := by
      rw [procReset_of_lt h, resetLog]
      simp
    rw [hsplit]
    refine AlongOn.of_single (List.forall_mem_append.mpr ⟨List.forall_mem_cons.mpr
      ⟨hreport, fun x hx => ?_⟩, List.forall_mem_cons.mpr ⟨rfl, List.forall_mem_singleton.mpr rfl⟩⟩)
      ⟨row, .reset hentry hask h⟩ (List.forall_mem_nil _)
    rw [mem_copyLog hx]
    rfl
  · rw [procReset_of_not_lt h]
    exact AlongOn.of_free (List.forall_mem_cons.mpr ⟨hreport, List.forall_mem_singleton.mpr rfl⟩)

/-- A message is sent only if its row is enabled, and it is not cooling down. -/
theorem msgAction_warranted (hentry : Entered c s reader row t before) {n : UInt32}
    (hask : ∀ idx : Fin cfg.maxMsgActTypes, n.toNat = idx → AsksMessage row idx) (eid : EventId)
    (args : List EvtArg) :
    Warranted (IntervenedBehind c s before) (msgAction reader eid args n t).log := by
  obtain hn | ⟨idx, hn, h | ⟨hs, hc, hm | ⟨mat, hm⟩⟩⟩ := msgAction_cases t n
  · rw [msgAction_invalid hn]
    exact AlongOn.of_free (List.forall_mem_singleton.mpr rfl)
  · rw [msgAction_off h hn]
    exact AlongOn.of_free (List.forall_mem_singleton.mpr rfl)
  · rw [msgAction_null hs hc hm hn]
    exact AlongOn.of_free (List.forall_mem_singleton.mpr rfl)
  · by_cases he : (mat idx).enableState = matStateDisabled
    · rw [msgAction_rowOff hs hc hm he hn]
      exact AlongOn.of_free (List.forall_mem_cons.mpr ⟨rfl, List.forall_mem_singleton.mpr rfl⟩)
    · have hdue : IntervenedBehind c s before [.mark (.rowRead reader (.mat idx (mat idx))),
          .mark (.msgAct idx .enabled (some (mat idx)) true)] (.call (.transmitMsg idx (mat idx))) :=
        ⟨row, .message hentry idx (hask idx hn) mat hs hc hm he⟩
      rw [msgAction_sent hs hc hm he hn]
      refine AlongOn.of_single (List.forall_mem_cons.mpr ⟨rfl, List.forall_mem_singleton.mpr rfl⟩)
        hdue fun x hx => ?_
      split at hx
      · rw [List.mem_singleton.mp hx]
        rfl
      · cases hx

end

/-- The number of the message that the action of a row asks for. -/
theorem actionType_of_message {a : UInt16} (hno : a ≠ emtActNoact) (hreset : a ≠ emtActProcReset)
    (hrestart : a ≠ emtActAppRestart) (hdelete : a ≠ emtActAppDelete) {idx : Nat}
    (h : (a.toUInt32 - emtActLastNonmsg.toUInt32 - 1).toNat = idx) :
    a.toNat = emtActLastNonmsg.toNat + 1 + idx := by
  have hne {v : UInt16} (h : a ≠ v) : a.toNat ≠ v.toNat := fun heq => h (UInt16.toNat_inj.mp heq)
  have h0 : a.toNat ≠ 0 := hne hno
  have h1 : a.toNat ≠ 1 := hne hreset
  have h2 : a.toNat ≠ 2 := hne hrestart
  have h3 : a.toNat ≠ 3 := hne hdelete
  have hidx : idx = a.toNat - (3 + 1) :=
    h.symm.trans (@msgActIndex_eq ⟨[], 0, 0, a⟩ hno hreset hrestart hdelete)
  show a.toNat = 3 + 1 + idx
  omega

/-- What comes behind the mark of an action. -/
theorem warranted_cons {x : Label cfg} (hx : x.isIntervention = false)
    {before l : List (Label cfg)} (h : Warranted (IntervenedBehind c s (before ++ [x])) l) :
    Warranted (IntervenedBehind c s before) (x :: l) := by
  exact AlongOn.behind (l := [x]) (List.forall_mem_singleton.mpr hx)
    (h.mono fun path y hy hp => (hy hp).append)

theorem appMonAction_warranted {i : Fin cfg.maxMonitoredApps} {row : AMTEntry}
    (hno : row.actionType ≠ amtActNoact) {before : List (Label cfg)}
    (hentry : Entered c s .monitorApplications (.amt i row) t (before ++ [.mark (.amtAction i)]))
    (lk : AppLookup) (status : Status) (appId : UInt32) :
    Warranted (IntervenedBehind c s before) (appMonAction i row lk status appId t).log := by
  have hquiet {m : HsM cfg Unit} (h : Does [.quiet] m t) :
      Warranted (IntervenedBehind c s (before ++ [.mark (.amtAction i)])) (m t).log :=
    AlongOn.of_free h.idle
  rw [appMonAction, Prog.emit_bind]
  refine warranted_cons rfl ?_
  by_cases hreset : row.actionType = amtActProcReset
  · rw [if_pos hreset, Prog.emit_bind]
    exact procReset_warranted hentry (.app i row hreset) _
  rw [if_neg hreset]
  by_cases hrestart : row.actionType = amtActAppRestart
  · rw [if_pos hrestart]
    refine hquiet (Does.bind (Does.plain rfl) fun _ s => Does.ite (fun _ => ?_)
      (fun _ => Does.plain rfl))
    exact Does.bind (Does.plain rfl) fun _ s =>
      Does.ite (fun _ => Does.plain rfl) (fun _ => Does.pure _ s)
  rw [if_neg hrestart]
  by_cases hevent : row.actionType = amtActEvent
  · rw [if_pos hevent]
    exact hquiet (Does.plain rfl)
  · rw [if_neg hevent]
    exact msgAction_warranted hentry (fun idx hn => .app i row idx
      (actionType_of_message hno hreset hrestart hevent hn)) _ _

theorem eventAction_warranted {ev : EvtMsg} {row : EMTEntry} (hhit : row.Hit cfg ev)
    {i : Fin cfg.maxMonitoredEvents} {before : List (Label cfg)}
    (hentry : Entered c s .monitorEvent (.emt i row) t (before ++ [.mark (.emtAction i)]))
    (lk : EvtLookup) (appId : UInt32) :
    Warranted (IntervenedBehind c s before) (eventAction i row lk appId t).log := by
  rw [eventAction, Prog.emit_bind]
  refine warranted_cons rfl ?_
  by_cases hreset : row.actionType = emtActProcReset
  · rw [if_pos hreset, Prog.emit_bind, Prog.bind_pure_apply]
    exact procReset_warranted hentry (.event i row hreset) _
  rw [if_neg hreset]
  by_cases hrestart : row.actionType = emtActAppRestart
  · rw [if_pos hrestart]
    exact AlongOn.of_free (appCommand_does row lk appId _ _ (fun _ => rfl) _ t).idle
  rw [if_neg hrestart]
  by_cases hdelete : row.actionType = emtActAppDelete
  · rw [if_pos hdelete]
    exact AlongOn.of_free (appCommand_does row lk appId _ _ (fun _ => rfl) _ t).idle
  · rw [if_neg hdelete, Prog.bind_pure_apply]
    exact msgAction_warranted hentry (fun idx hn => .event i row idx
      (actionType_of_message hhit.1 hreset hrestart hdelete hn)) _ _

/-! ### The application monitor -/

theorem finRange_split {n : Nat} {i : Fin n} {js ks : List (Fin n)}
    (h : List.finRange n = js ++ i :: ks) : js = (List.finRange n).take i := by
  have hlen : js.length < (List.finRange n).length := by rw [h]; simp
  have hget : (List.finRange n)[js.length] = i := by simp [h]
  have hi : js.length = i.val := by rw [← hget, List.getElem_finRange]; rfl
  rw [← hi, h, List.take_left]

/-- An entry of the application monitor is one of the turn of a row. -/
theorem checkApplications_logged {before : List (Label cfg)} {x : Label cfg}
    (h : Logged (checkApplications c.apps) s before x) : s.currentAppMonState = .enabled ∧
      ∃ (i : Fin cfg.maxMonitoredApps) (v : AppMonVars) (t : AppData cfg) (l path : _),
        Prog.fold (monitorApp c.apps) ⟨0, 0⟩ ((List.finRange cfg.maxMonitoredApps).take i) s =
            ⟨.ok v, t, l⟩ ∧
          before = l ++ path ∧ Logged (monitorApp c.apps v i) t path x := by
  by_cases hon : s.currentAppMonState = .enabled
  · refine ⟨hon, ?_⟩
    obtain ⟨after, hlog⟩ := h
    rw [checkApplications_enabled hon] at hlog
    have hfold : Logged (monitorApplications c.apps) s before x := ⟨after, hlog⟩
    obtain ⟨js, i, ks, hsplit, v, t, l, path, hrun, hbefore, hx⟩ :=
      (hfold.bind_first fun _ _ => List.not_mem_nil).fold
    rw [finRange_split hsplit] at hrun
    exact ⟨i, v, t, l, path, hrun, hbefore, hx⟩
  · refine absurd h (Logged.not_nil ?_)
    rw [checkApplications_disabled hon]

theorem monitorApp_warranted {i : Fin cfg.maxMonitoredApps} {v : AppMonVars}
    {l : List (Label cfg)} (hrun : beforeAppRow c i s = ⟨.ok v, t, l⟩)
    (hon : t.currentAppMonState = .enabled) :
    Warranted (IntervenedBehind c s l) (monitorApp c.apps v i t).log := by
  refine monitorApp_along (fun _ => isIntervention_of_lookup) (fun _ _ => rfl)
    fun amt look hamt hexp hlook hlookups => ?_
  refine AlongOn.behind (fun x hx => isIntervention_of_lookup (hlookups x hx)) ?_
  have hrow : t.amTablePtr.map (· i) = some (amt i) := by rw [hamt]; rfl
  have hentry := Entered.app i (amt i) hrun hon hrow hexp
  rw [← resolveApp_log_eq i (amt i) (c.apps i) v t, ← hlook, ← List.append_assoc] at hentry
  exact (appMonAction_warranted hexp.1 hentry _ _ _).mono fun path x hx hp => (hx hp).append

theorem checkApplications_warranted {u : AppData cfg} {l path : List (Label cfg)} {x : Label cfg}
    (hrun : beforeApps c s = ⟨.ok (), u, l⟩) (h : Logged (checkApplications c.apps) u path x)
    (hx : x.isIntervention = true) : IntervenedBehind c s l path x := by
  obtain ⟨hon, i, v, t, l', rest, hrows, rfl, hrow⟩ := checkApplications_logged h
  have hcome : beforeAppRow c i s = ⟨.ok v, t, l ++ l'⟩ := by
    rw [beforeAppRow, Prog.bind_ok hrun, hrows]
  have hkept : t.currentAppMonState = u.currentAppMonState := by
    have hdoes := Does.fold ((List.finRange cfg.maxMonitoredApps).take i)
      (monitorApp_does c.apps) ⟨0, 0⟩ u
    have hstate := hdoes.currentAppMonState_eq
    rwa [hrows] at hstate
  exact IntervenedBehind.append (hrow.along (monitorApp_warranted hcome (hkept.trans hon)) hx)

/-! ### The event monitor -/

/-- An entry of the event monitor is one of the turn of a row for an event. -/
theorem drainEvents_logged {before : List (Label cfg)} {x : Label cfg}
    (h : Logged (drainEvents c) s before x) : s.currentEventMonState = .enabled ∧
      ∃ evs ev lks rest, c.events = evs ++ (some ev, lks) :: rest ∧ ∃ status t l path,
        drainEvents { c with events := evs } s = ⟨.ok status, t, l⟩ ∧ before = l ++ path ∧
          Logged (receiveEvent ev lks) t path x := by
  obtain ⟨after, hlog⟩ := h
  rw [drainEvents, Prog.get_bind] at hlog
  by_cases hon : s.currentEventMonState = .enabled
  · rw [if_pos hon] at hlog
    refine ⟨hon, ?_⟩
    obtain ⟨evs, e, rest, hsplit, t, l, path, hrun, hbefore, hx⟩ :=
      (Logged.bind_first ⟨after, hlog⟩ fun _ _ => List.not_mem_nil).each
    obtain ⟨_ | ev, lks⟩ := e
    · exact absurd hx (Logged.not_nil rfl)
    · refine ⟨evs, ev, lks, rest, hsplit, c.eventsEnd.val, t, l, path, ?_, hbefore, hx⟩
      rw [drainEvents, Prog.get_bind, if_pos hon]
      refine (Prog.bind_ok hrun).trans ?_
      rw [Prog.pure_apply, List.append_nil]
  · rw [if_neg hon] at hlog
    exact absurd (Logged.mem ⟨after, hlog⟩) List.not_mem_nil

theorem monitorEventRow_warranted
    {evs rest : List (Option EvtMsg × (Fin cfg.maxMonitoredEvents → EvtLookup))} {ev : EvtMsg}
    {lks : Fin cfg.maxMonitoredEvents → EvtLookup}
    (hevents : c.events = evs ++ (some ev, lks) :: rest) {i : Fin cfg.maxMonitoredEvents}
    {appId : UInt32} {l : List (Label cfg)}
    (hrun : beforeEventRow c evs ev lks i s = ⟨.ok appId, t, l⟩)
    (hon : t.currentEventMonState = .enabled) :
    Warranted (IntervenedBehind c s l) (monitorEventRow ev lks appId i t).log := by
  refine monitorEventRow_along (fun _ => rfl) (fun _ _ => rfl) fun emt hemt hhit => ?_
  have hrow : t.emTablePtr.map (· i) = some (emt i) := by rw [hemt]; rfl
  have hentry := Entered.event hevents i (emt i) hrun hon hrow hhit
  rw [List.append_cons] at hentry
  exact warranted_cons rfl (eventAction_warranted hhit hentry _ _)

theorem drainEvents_warranted {u : AppData cfg} {l path : List (Label cfg)} {x : Label cfg}
    (hrun : beforeEvents c s = ⟨.ok (), u, l⟩) (h : Logged (drainEvents c) u path x)
    (hx : x.isIntervention = true) : IntervenedBehind c s l path x := by
  obtain ⟨hon, evs, ev, lks, rest, hsplit, status, t, l', rest', hevents, rfl, hev⟩ :=
    drainEvents_logged h
  obtain ⟨_, t', _, rest'', hcount, rfl, hmon⟩ := hev.bind_last List.not_mem_nil
  cases hcount
  obtain ⟨js, i, ks, hrows, appId, w, l'', path, hfold, rfl, hrow⟩ :=
    (hmon.bind_first fun _ _ => List.not_mem_nil).fold
  rw [finRange_split hrows] at hfold
  have hcome : beforeEventRow c evs ev lks i s = ⟨.ok appId, w, l ++ (l' ++ l'')⟩ := by
    rw [beforeEventRow, Prog.bind_ok hrun, Prog.bind_ok hevents, Prog.modify_bind, hfold]
  have hkept : w.currentEventMonState = u.currentEventMonState := by
    have hbefore := (drainEvents_does { c with events := evs } u).currentEventMonState_eq
    have hdoes := Does.fold ((List.finRange cfg.maxMonitoredEvents).take i)
      (monitorEventRow_does ev lks) 0
        { t with eventsMonitoredCount := t.eventsMonitoredCount + 1 }
    have hstate := hdoes.currentEventMonState_eq
    rw [hevents] at hbefore
    rw [hfold] at hstate
    exact hstate.trans hbefore
  have hdue := hrow.along (monitorEventRow_warranted hsplit hcome (hkept.trans hon)) hx
  simpa only [List.append_assoc, List.nil_append] using IntervenedBehind.append hdue

/-! ### A pass -/

theorem beforeEvents_beforeApps (c : CycleIn cfg) : beforeEvents c = (do
    beforeApps c
    checkApplications c.apps
    outputAliveness) := by
  simp only [beforeEvents, beforeApps, Prog.bind_assoc']

/-- Every intervention of a pass is due in it. -/
theorem processMain_intervened {before : List (Label cfg)} {x : Label cfg}
    (h : Logged (processMain c) s before x) (hx : x.isIntervention = true) :
    ∃ row, Intervened c s row before x := by
  have hfree {α : Type} {ks : List Kind} {m : HsM cfg α} {u : AppData cfg} (hm : Does ks m u)
      (hks : ∀ k ∈ ks, k ≠ .reset ∧ k ≠ .message := by decide) : x ∉ (m u).log :=
    not_mem_of_free (hm.idle hks) hx
  rw [processMain_beforeEvents] at h
  rcases h.bind with hfirst | ⟨_, u, l, path, hrun, rfl, hrest⟩
  · rw [beforeEvents_beforeApps] at hfirst
    obtain ⟨_, u, l, path, hrun, rfl, hrest⟩ := hfirst.bind_last (hfree (beforeApps_does c s))
    exact checkApplications_warranted hrun
      (hrest.bind_first fun _ u => hfree (outputAliveness_does u)) hx
  · have hcommands : Logged (processCommands c) u path x := hrest.bind_first fun _ u =>
      hfree (Does.bind (serviceWatchdog_does u) fun _ u => Does.pure _ u)
    refine drainEvents_warranted hrun (hcommands.bind_first fun _ u => ?_) hx
    exact hfree (Does.ite (fun _ => Does.bind (drainCommands_does c u) fun _ u => Does.pure _ u)
      fun _ => Does.pure _ u)

/-- Every intervention of a pass is due, for rows of tables that were acquired in that pass. -/
theorem processMain_warranted {before : List (Label cfg)} {x : Label cfg}
    (h : Logged (processMain c) s before x) (hx : x.isIntervention = true) :
    (∃ row : TableRow cfg, row.From c.acquire ∧ Intervened c s row before x) ∧
      ∀ idx msg, x = .call (.transmitMsg idx msg) → (TableRow.mat idx msg).From c.acquire := by
  obtain ⟨row, hrow⟩ := processMain_intervened h hx
  obtain ⟨reader, hmon, hread⟩ := hrow.read
  refine ⟨⟨row, from_of_read (s := s) hmon ?_, hrow⟩, fun idx msg hsent => ?_⟩
  · obtain ⟨after, hlog⟩ := h
    rw [hlog]
    exact List.mem_append_left _ hread
  · rcases mem_processMain_log h.mem with hacq | hfrom
    · exact absurd hsent ((acquirePointers_fromAcquired _ s hacq).2.2 idx msg)
    · exact hfrom.sent idx msg hsent

/-! ### Runs -/

theorem mainStart_idle (i : InitIn cfg) (j : StartIn) (s : AppData cfg) :
    ∀ x ∈ (mainStart i j s).log, x.isIntervention = false := by
  have hdoes : Does (.budget :: .cds :: .boot :: .eventMon :: .watchdog :: acquireKinds)
      (mainStart i j) s :=
    Does.bind ((appInit_does i s).mono (by decide)) fun _ s =>
      Does.ite (fun _ => (startup_does j s).mono (by decide)) fun _ => Does.pure _ s
  exact hdoes.idle

theorem mainEnd_does (stopped : Bool) (v : MainVars) (s : AppData cfg) :
    Does [.quiet] (mainEnd stopped v) s := by
  refine Does.bind (Does.when fun _ => Does.bind (Does.plain rfl) fun _ _ => Does.plain rfl)
    fun _ _ => Does.get_bind (Does.when fun _ => ?_)
  exact Does.bind (Does.plain rfl) fun _ _ => Does.when fun _ => Does.plain rfl

/-- Every intervention of a run stands in a turn. -/
theorem intervention_inTurn {timeOut : Status} {i : MainIn cfg} {n : Nat}
    {before : List (Label cfg)} {x : Label cfg} (h : Logged (appMain timeOut i n) s before x)
    (hx : x.isIntervention = true) : ∃ k < n, ∃ t pre, InTurn timeOut i s k before x t pre :=
  appMain_inTurn (fun s => not_mem_of_free (mainStart_idle _ _ s) hx)
    (fun v s => not_mem_of_free (mainEnd_does _ v s).idle hx) h

/-- **HS intervenes only as the tables say.**  In every run of `HS_AppMain`, whatever the
environment answers, each processor reset and each message stands in the pass of one of its
turns, and in that pass it is due for a row of a table that was acquired in it: the monitor
of that table came to the row and entered its action, and the row asks for the reset or for
that message.  A reset comes only if the critical data, as the action was entered, leaves a
budget, and right behind its report, the copy of the counted critical data if the critical
data store is on, the delay and the entry in the system log.  A message is an enabled row of
the message action table that was acquired in that pass, and its cooldown was over. -/
theorem interventions_justified (timeOut : Status) (i : MainIn cfg) (n : Nat) (s : AppData cfg) :
    Along (fun before x => x.isIntervention = true → ∃ k < n, ∃ t pre,
      InTurn timeOut i s k before x t pre ∧
      (∃ row : TableRow cfg, row.From (i.turn k).cycle.acquire ∧
        Intervened (i.turn k).cycle t row pre x) ∧
      ∀ idx msg, x = .call (.transmitMsg idx msg) →
        (TableRow.mat idx msg).From (i.turn k).cycle.acquire)
      (appMain timeOut i n s).log := by
  intro before x after hlog hx
  obtain ⟨k, hk, t, pre, hturn⟩ := intervention_inTurn ⟨after, hlog⟩ hx
  exact ⟨k, hk, t, pre, hturn, processMain_warranted hturn.pass hx⟩

end HealthSafety
