import HealthSafety.Step.Refresh
import HealthSafety.System.EventPipe
import HealthSafety.System.IdleTraffic

/-!
# Commands may be sent twice

The ground may not know whether a command has arrived, and sends it again.  A command that
comes right behind itself, with at most idle traffic in between, changes nothing: the run
in which the second one is left out (`MainIn.once`) does the same
(`repeated_commands_harmless`).

The exception are the two event monitor commands when a bus call fails: then the second one
tries again.  So a command counts as sent again only if the calls of the first one succeed
(`CmdReplies.firm`).
-/

namespace HealthSafety

open Lib

variable {cfg : Config} {s t : AppData cfg} {amt : AMT cfg}

/-! ### What is seen of a run -/

/-- The events that report a command as done. -/
def EventId.reports : EventId → Bool
  | .enableAppmonDbg => true
  | .disableAppmonDbg => true
  | .enableEventmonDbg => true
  | .disableEventmonDbg => true
  | .enableAlivenessDbg => true
  | .disableAlivenessDbg => true
  | .enableCpuhogDbg => true
  | .disableCpuhogDbg => true
  | .resetResetsDbg => true
  | .setMaxResetsDbg => true
  | _ => false

/-- What the second of two equal commands may log: its report, a copy of the critical data
and the rows it reads for a refresh. -/
def Label.again : Label cfg → Bool
  | .call (.sendEvent eid _ _) => eid.reports
  | .call (.copyToCDS _) => true
  | .mark (.handler _) => true
  | .mark (.rowRead reader _) => reader = .appMonStatusRefresh
  | _ => false

/-- What HS does, apart from answering, from looking up application names and from what it
does again. -/
def effects (cfg : Config) : Look (AppData cfg) (Label cfg) Stop (AppData cfg) :=
  (doings cfg).hide Label.again

theorem effects_unseen {x : Label cfg} (h : x.again = true) : (effects cfg).seen x = false := by
  show (!x.again && !x.answers) = false
  rw [h]
  rfl

/-! ### The second command -/

/-- A command that comes behind itself: what it writes depends on the course only and is
written already, and nothing is seen of it. -/
theorem Lib.SilentFrom.of_command {m : HsM cfg Unit} {f : AppData cfg → AppData cfg}
    (hf : ∀ d, (f d).course = (f d.course).course) (hagain : ∀ d, (f (f d)).course = (f d).course)
    (hrun : ∀ t, t.course = (f s).course →
      ∃ l, m t = ⟨.ok (), f t, l⟩ ∧ ∀ x ∈ l, x.again = true) :
    SilentFrom (effects cfg) m (f s) := by
  refine .of_apply fun t ht => ?_
  have ht' : t.course = (f s).course := ht
  obtain ⟨l, hl, hagain'⟩ := hrun t ht'
  refine ⟨(), f t, l, hl, ?_, fun x hx => effects_unseen (hagain' x hx)⟩
  show (f t).course = t.course
  calc (f t).course = (f (f s).course).course := by rw [hf t, ht']
    _ = (f (f s)).course := (hf (f s)).symm
    _ = (f s).course := hagain s
    _ = t.course := ht'.symm

/-- `HS_AppData` after a command is counted. -/
def AppData.commanded (s : AppData cfg) : AppData cfg := { s with cmdCount := s.cmdCount + 1 }

theorem countCmd_bind {α : Type} (f : Unit → HsM cfg α) (s : AppData cfg) :
    (countCmd >>= f) s = f () s.commanded := Prog.modify_bind _ _ _

/-- A command that sets a switch. -/
theorem switchCmd_again (h : Handler) {set : AppData cfg → AppData cfg} {eid : EventId}
    (heid : eid.reports = true) (hset : ∀ d, (set d).course = (set d.course).course)
    (hagain : ∀ d, (set (set d).commanded).course = (set d).course) (s : AppData cfg) :
    SilentFrom (effects cfg) (switchCmd h set eid) (switchCmd h set eid s).state := by
  refine SilentFrom.of_command (f := fun d => set d.commanded) (fun d => ?_)
    (fun d => hagain d.commanded) fun t _ =>
      ⟨[.mark (.handler h), .call (.sendEvent eid .debug [])], rfl, ?_⟩
  · exact (hset d.commanded).trans (hset d.course.commanded).symm
  · exact List.forall_mem_cons.mpr ⟨rfl, List.forall_mem_singleton.mpr heid⟩

/-! ### The refresh -/

/-- The enable bits after a refresh. -/
def startEnables (amt : AMT cfg) (is : List (Fin cfg.maxMonitoredApps))
    (enables : Fin cfg.enableWords → BitVec 32) : Fin cfg.enableWords → BitVec 32 :=
  is.foldl (fun e i => if (amt i).Monitored then setEnable e i else e) enables

/-- `HS_AppData` after a refresh. -/
def AppData.refreshed (amt : AMT cfg) (s : AppData cfg) : AppData cfg :=
  { s with
    appMonLastExeCount := fun _ => 0
    appMonCheckInCountdown := fun i => (amt i).start
    appMonEnables := startEnables amt (List.finRange cfg.maxMonitoredApps) fun _ => 0 }

theorem refreshRow_foldl_eq (amt : AMT cfg) (is : List (Fin cfg.maxMonitoredApps)) :
    ∀ s : AppData cfg, is.foldl (AppData.refreshRow amt) s = { s with
      appMonLastExeCount := (is.foldl (AppData.refreshRow amt) s).appMonLastExeCount
      appMonCheckInCountdown := (is.foldl (AppData.refreshRow amt) s).appMonCheckInCountdown
      appMonEnables := startEnables amt is s.appMonEnables } := by
  induction is with
  | nil => exact fun _ => rfl
  | cons i is ih => exact fun s => ih (s.refreshRow amt i)

theorem refreshApp_again (hs : s.amTablePtr = some amt) (i : Fin cfg.maxMonitoredApps) :
    ∃ l, refreshApp i s = ⟨.ok (), s.refreshRow amt i, l⟩ ∧ ∀ x ∈ l, x.again = true := by
  let s' : AppData cfg :=
    { s with appMonLastExeCount := Function.update s.appMonLastExeCount i 0 }
  have hs' : s'.amTablePtr = some amt := hs
  have hlog : (refreshApp i s).log =
      [.mark (.rowRead .appMonStatusRefresh (.amt i (amt i)))] := by
    rw [refreshApp, Prog.modify_bind, Prog.bind_ok (readAmt_apply hs' _ i)]
    split <;> rfl
  obtain ⟨l, h⟩ := refreshApp_apply hs i
  rw [h] at hlog
  change l = _ at hlog
  rw [hlog] at h
  exact ⟨_, h, List.forall_mem_singleton.mpr rfl⟩

theorem appMonStatusRefresh_refreshed (hs : s.amTablePtr = some amt) :
    ∃ l, appMonStatusRefresh s = ⟨.ok (), s.refreshed amt, l⟩ ∧ ∀ x ∈ l, x.again = true := by
  let s' : AppData cfg := { s with appMonEnables := fun _ => 0 }
  obtain ⟨l, h, hl⟩ := Prog.each_logs (f := AppData.refreshRow amt)
    (P := fun x : Label cfg => x.again = true) (I := fun s => s.amTablePtr = some amt)
    (fun i s hs => refreshApp_again hs i) (fun _ _ hs => hs)
    (List.finRange cfg.maxMonitoredApps) s' hs
  obtain ⟨hlast, hcount, -⟩ := refreshRow_foldl amt (List.finRange cfg.maxMonitoredApps) s'
  refine ⟨l, ?_, hl⟩
  rw [appMonStatusRefresh, Prog.modify_bind]
  refine h.trans ?_
  rw [refreshRow_foldl_eq, hlast, hcount]
  simp only [List.mem_finRange, if_true]
  rfl

/-- `HS_AppData` after `HS_EnableAppMonCmd`. -/
def AppData.monitoring (amt : AMT cfg) (s : AppData cfg) : AppData cfg :=
  { s.commanded.refreshed amt with currentAppMonState := .enabled }

theorem AppData.monitoring_again (amt : AMT cfg) (s : AppData cfg) :
    ((s.monitoring amt).monitoring amt).course = (s.monitoring amt).course := by
  unfold AppData.course
  rfl

theorem enableAppMonCmd_apply (hs : s.amTablePtr = some amt) :
    ∃ l, enableAppMonCmd s = ⟨.ok (), s.monitoring amt, l⟩ ∧ ∀ x ∈ l, x.again = true := by
  obtain ⟨l, h, hl⟩ := appMonStatusRefresh_refreshed (s := s.commanded) hs
  refine ⟨.mark (.handler .enableAppMon) :: (l ++ [.call (.sendEvent .enableAppmonDbg .debug [])]),
    ?_, ?_⟩
  · rw [enableAppMonCmd, Prog.emit_bind, countCmd_bind, Prog.bind_ok h]
    rfl
  · refine List.forall_mem_cons.mpr ⟨rfl, List.forall_mem_append.mpr ⟨hl, ?_⟩⟩
    exact List.forall_mem_singleton.mpr rfl

theorem enableAppMonCmd_again (hval : (enableAppMonCmd s).val = .ok ()) :
    SilentFrom (effects cfg) enableAppMonCmd (enableAppMonCmd s).state := by
  cases hs : s.amTablePtr with
  | none =>
    obtain ⟨t, h⟩ := enableAppMonCmd_null hs
    rw [h] at hval
    cases hval
  | some amt =>
    obtain ⟨l, h, -⟩ := enableAppMonCmd_apply hs
    have hstate : (enableAppMonCmd s).state = s.monitoring amt := by rw [h]
    rw [hstate]
    refine SilentFrom.of_command (f := AppData.monitoring amt) (fun _ => rfl)
      (fun d => AppData.monitoring_again amt d) fun t ht => enableAppMonCmd_apply ?_
    have hptr : t.course.amTablePtr = (s.monitoring amt).course.amTablePtr :=
      congrArg AppData.amTablePtr ht
    exact hptr.trans hs

/-! ### The event monitor -/

/-- A command that finds the switch at its target makes no bus call. -/
theorem eventMonCmd_at {h : Handler} {target : SwitchState} (hs : s.currentEventMonState = target)
    (calls : HsM cfg Status) (eid : EventId) : eventMonCmd h target calls eid s =
      ⟨.ok (), { s.commanded with currentEventMonState := target },
        [.mark (.handler h), .call (.sendEvent eid .debug [])]⟩ := by
  have hcalls : eventMonCalls target calls s = ⟨.ok success, s, []⟩ := by
    rw [eventMonCalls, Prog.get_bind, if_pos hs]
    rfl
  exact eventMonCmd_done hcalls eid

/-- A command whose bus calls succeed brings the switch to its target. -/
theorem eventMonCmd_state {h : Handler} {target : SwitchState} {calls : HsM cfg Status}
    (hcalls : ∃ l, calls s = ⟨.ok success, s, l⟩) (eid : EventId) :
    (eventMonCmd h target calls eid s).state =
      { s.commanded with currentEventMonState := target } := by
  by_cases hs : s.currentEventMonState = target
  · rw [eventMonCmd_at hs]
  · obtain ⟨l, hrun⟩ := hcalls
    have hcalls : eventMonCalls target calls s = ⟨.ok success, s, l⟩ := by
      rw [eventMonCalls, Prog.get_bind, if_neg hs, hrun]
    rw [eventMonCmd_done hcalls]
    rfl

theorem eventMonCmd_again {h : Handler} {target : SwitchState} {calls calls' : HsM cfg Status}
    {eid : EventId} (heid : eid.reports = true) (hcalls : ∃ l, calls s = ⟨.ok success, s, l⟩) :
    SilentFrom (effects cfg) (eventMonCmd h target calls' eid)
      (eventMonCmd h target calls eid s).state := by
  rw [eventMonCmd_state hcalls]
  refine SilentFrom.of_command
    (f := fun d => { d.commanded with currentEventMonState := target }) (fun _ => rfl)
    (fun _ => rfl) fun t ht => ⟨_, eventMonCmd_at ?_ calls' eid, ?_⟩
  · exact congrArg AppData.currentEventMonState ht
  · exact List.forall_mem_cons.mpr ⟨rfl, List.forall_mem_singleton.mpr heid⟩

theorem bothCalls_succeed (first second : Status → Call cfg) (firstEid secondEid : EventId)
    (s : AppData cfg) : ∃ l, bothCalls first second success success firstEid secondEid s =
      ⟨.ok success, s, l⟩ := by
  rw [bothCalls, Prog.emit_bind, if_pos rfl, Prog.emit_bind, Prog.when_neg (not_not.mpr rfl)]
  exact ⟨_, rfl⟩

/-! ### The resets -/

theorem again_of_copyLog {data : CDSData} : ∀ x ∈ copyLog s data, x.again = true := by
  intro x hx
  rw [mem_copyLog hx]
  rfl

theorem resetResetsPerformedCmd_again (s : AppData cfg) :
    SilentFrom (effects cfg) resetResetsPerformedCmd (resetResetsPerformedCmd s).state := by
  have hrun (t : AppData cfg) : ∃ l, resetResetsPerformedCmd t =
      ⟨.ok (), { t.commanded with cdsData := .of 0 t.cdsData.maxResets }, l⟩ ∧
        ∀ x ∈ l, x.again = true := by
    refine ⟨.mark (.handler .resetResetsPerformed) ::
      (copyLog t.commanded (.of 0 t.cdsData.maxResets) ++
        [.call (.sendEvent .resetResetsDbg .debug [])]), ?_, ?_⟩
    · rw [resetResetsPerformedCmd, Prog.emit_bind, countCmd_bind, Prog.get_bind,
        Prog.bind_ok (setCDSData_apply _ _ _)]
      rfl
    · refine List.forall_mem_cons.mpr ⟨rfl, List.forall_mem_append.mpr ⟨again_of_copyLog, ?_⟩⟩
      exact List.forall_mem_singleton.mpr rfl
  obtain ⟨l, h, -⟩ := hrun s
  rw [h]
  exact SilentFrom.of_command
    (f := fun d => { d.commanded with cdsData := .of 0 d.cdsData.maxResets }) (fun _ => rfl)
    (fun _ => rfl) fun t _ => hrun t

theorem setMaxResetsCmd_again (maxResets : UInt16) (s : AppData cfg) :
    SilentFrom (effects cfg) (setMaxResetsCmd maxResets) (setMaxResetsCmd maxResets s).state := by
  have hrun (t : AppData cfg) : ∃ l, setMaxResetsCmd maxResets t =
      ⟨.ok (), { t.commanded with cdsData := .of t.cdsData.resetsPerformed maxResets }, l⟩ ∧
        ∀ x ∈ l, x.again = true := by
    refine ⟨.mark (.handler .setMaxResets) ::
      (copyLog t.commanded (.of t.cdsData.resetsPerformed maxResets) ++
        [.call (.sendEvent .setMaxResetsDbg .debug [.num maxResets.toNat])]), ?_, ?_⟩
    · rw [setMaxResetsCmd, Prog.emit_bind, countCmd_bind, Prog.get_bind,
        Prog.bind_ok (setCDSData_apply _ _ _)]
      rfl
    · refine List.forall_mem_cons.mpr ⟨rfl, List.forall_mem_append.mpr ⟨again_of_copyLog, ?_⟩⟩
      exact List.forall_mem_singleton.mpr rfl
  obtain ⟨l, h, -⟩ := hrun s
  rw [h]
  exact SilentFrom.of_command
    (f := fun d => { d.commanded with cdsData := .of d.cdsData.resetsPerformed maxResets })
    (fun _ => rfl) (fun _ => rfl) fun t _ => hrun t

/-! ### All commands -/

/-- The command has its effect: the bus calls that it may need succeed. -/
def Handler.takesHold (r : CmdReplies cfg) : Handler → Bool
  | .enableEventMon => decide (r.subLong = success ∧ r.subShort = success)
  | .disableEventMon => decide (r.unsubLong = success ∧ r.unsubShort = success)
  | _ => true

/-- A command that comes right behind itself is not seen. -/
theorem handler_again {msg : CmdMsg} {r : CmdReplies cfg} {h : Handler} (hh : h.isIdle = false)
    (hr : h.takesHold r = true) (r' : CmdReplies cfg) (hval : (h.run msg r s).val = .ok ()) :
    SilentFrom (effects cfg) (h.run msg r') (h.run msg r s).state := by
  cases h with
  | sendHk | noop | reset => cases hh
  | enableAppMon => exact enableAppMonCmd_again hval
  | enableEventMon =>
    obtain ⟨hlong, hshort⟩ := of_decide_eq_true hr
    refine eventMonCmd_again rfl ?_
    rw [hlong, hshort]
    exact bothCalls_succeed _ _ _ _ _
  | disableEventMon =>
    obtain ⟨hlong, hshort⟩ := of_decide_eq_true hr
    refine eventMonCmd_again rfl ?_
    rw [hlong, hshort]
    exact bothCalls_succeed _ _ _ _ _
  | resetResetsPerformed => exact resetResetsPerformedCmd_again s
  | setMaxResets => exact setMaxResetsCmd_again msg.maxResets s
  | disableAppMon | enableAliveness | disableAliveness | enableCpuHog | disableCpuHog =>
    exact switchCmd_again _ rfl (fun _ => rfl) (fun _ => rfl) s

/-! ### Runs -/

/-- The message on the right is the command on the left, sent again. -/
def Repeats (x y : Option CmdMsg × CmdReplies cfg) : Prop :=
  ∃ msg ∈ x.1, y.1 = some msg ∧ ∃ h ∈ accepted cfg msg, h.isIdle = false ∧ h.takesHold x.2 = true

instance (x y : Option CmdMsg × CmdReplies cfg) : Decidable (Repeats x y) := by
  unfold Repeats
  infer_instance

/-- The commands, each of them once. -/
def once (cmds : Cmds cfg) : Cmds cfg :=
  (cmds.filter fun m => isCommand cfg m.1).destutter fun x y => ¬ Repeats x y

/-- The same answers of the environment, less the idle traffic and the commands that are
sent again. -/
def MainIn.once (i : MainIn cfg) : MainIn cfg := i.traffic HealthSafety.once

theorem drainCommands_once (c : CycleIn cfg) :
    Follows (effects cfg) (drainCommands c) (drainCommands (c.traffic once)) := by
  refine Follows.trans ((drainCommands_follows c).hide _) (.bind ?_ fun _ => .pure _)
  refine Follows.each_destutter (fun x y s hR hval => ?_) fun m hm => ?_
  · obtain ⟨msg, hx, hy, h, hacc, hidle, hhold⟩ := not_not.mp hR
    obtain ⟨xm, xr⟩ := x
    obtain ⟨ym, yr⟩ := y
    have hx' : xm = some msg := hx
    have hy' : ym = some msg := hy
    subst hx' hy'
    show SilentFrom _ (appPipe msg yr) (appPipe msg xr s).state
    have hval' : (appPipe msg xr s).val = .ok () := hval
    rw [appPipe_of_accepted hacc] at hval'
    rw [appPipe_of_accepted hacc, appPipe_of_accepted hacc]
    exact handler_again hidle hhold yr hval'
  · obtain ⟨_ | msg, r⟩ := m
    · exact .pure _
    · refine (appPipe_onCourse ?_ r).hide _
      simpa [isCommand] using (List.mem_filter.mp hm).2

/-- **A command may be sent twice.**  Take any run of `HS_AppMain`, and leave out of what
arrives on the command pipe the idle traffic and every command that comes right behind
itself.  HS returns the same, with the same `HS_AppData` less what is only reported, and
does the same in between, in the same order, apart from answering, from looking up
application names and from what a command does again (`Label.again`); or a housekeeping
request of the run has read a table that is not there, and up to there HS has done the
same. -/
theorem repeated_commands_harmless (timeOut : Status) (i : MainIn cfg) (n : Nat)
    (s : AppData cfg) :
    Matches (effects cfg) (appMain timeOut i n s) (appMain timeOut i.once n s) :=
  appMain_matches (fun h => h.hide _) drainCommands_once timeOut i n s

end HealthSafety
