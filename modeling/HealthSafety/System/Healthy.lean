import HealthSafety.Lib.Upholds
import HealthSafety.System.FailedInit
import HealthSafety.System.HungApp
import HealthSafety.System.Interventions
import HealthSafety.System.UnaskedEvents

/-!
# A healthy system is left alone

An application keeps its promise if it is seen to run at least once in every `CycleCount`
cycles.  Its `Pulse` is kept from outside: the execution count that was last found, and for
how many cycles in a row no other has been found; a table update starts it anew.  A count
of 0 says nothing, since the last count that HS keeps starts at 0.

In every run of `HS_AppMain` in which the application of a row keeps its promise, HS never
enters the action of the row, whatever the other applications, the events, the commands and
the failures are (`live_application_spared`).  If all monitored applications keep theirs,
and no event arrives that the event table asks for, then HS resets, restarts and deletes
nothing and sends no message of the message action table; housekeeping packets are sent as
ever (`healthy_left_alone`).

HS itself loses track of an application when the application monitor is switched off or
refreshed by a command.  But as long as it is on, it has given each monitored row at least
the time that its pulse has left (`InStep`), and this is what the induction over the turns
carries.
-/

namespace HealthSafety

open Lib

variable {cfg : Config} {s t : AppData cfg} {amt : AMT cfg}

/-! ### The pulse of an application -/

/-- The last count that was found, and for how many cycles in a row none has been found since
but this one and 0. -/
structure Pulse where
  count : UInt32
  idle : Nat

/-- The pulse behind one more cycle. -/
def Pulse.beat (p : Pulse) (lk : AppLookup) : Pulse :=
  if lk.Progress p.count ∧ lk.appInfo.out ≠ 0 then ⟨lk.appInfo.out, 0⟩
  else ⟨p.count, p.idle + 1⟩

/-- As long as the countdown of a row runs, the row is monitored, has not read another count
than the pulse, and leaves the application the time that its pulse has left. -/
def AMTEntry.InStep (row : AMTEntry) (p : Pulse) (r : RowWatch) : Prop :=
  r.countdown ≠ 0 → row.Monitored ∧ (r.last = 0 ∨ r.last = p.count) ∧
    row.cycleCount.toNat ≤ r.countdown.toNat + p.idle

theorem AMTEntry.inStep_start (row : AMTEntry) (p : Pulse) : row.InStep p ⟨row.start, 0⟩ := by
  intro hne
  have hm : row.Monitored := AMTEntry.start_ne_zero_iff.mp hne
  have hstart : row.start = row.cycleCount := if_pos hm
  refine ⟨hm, .inl rfl, ?_⟩
  show row.cycleCount.toNat ≤ row.start.toNat + p.idle
  rw [hstart]
  omega

theorem toNat_pred {n : UInt16} (h : n ≠ 0) : (n - 1).toNat + 1 = n.toNat := by
  have hpos : 1 ≤ n.toNat := Nat.one_le_iff_ne_zero.mpr fun hz => h (UInt16.toNat_inj.mp hz)
  have hle : (1 : UInt16) ≤ n := UInt16.le_iff_toNat_le.mpr hpos
  rw [UInt16.toNat_sub_of_le n 1 hle]
  exact Nat.sub_add_cancel hpos

/-- A row that makes progress has found a count that the pulse knows, too. -/
theorem Pulse.count_of_progress (p : Pulse) {lk : AppLookup} {last : UInt32}
    (h : lk.Progress last) : lk.appInfo.out = 0 ∨ lk.appInfo.out = (p.beat lk).count := by
  by_cases hzero : lk.appInfo.out = 0
  · exact .inl hzero
  · refine .inr ?_
    by_cases hsame : p.count = lk.appInfo.out
    · rw [Pulse.beat, if_neg fun hbeat => hbeat.1.2.2 hsame]
      exact hsame.symm
    · rw [Pulse.beat, if_pos ⟨⟨h.1, h.2.1, hsame⟩, hzero⟩]

/-- A row that makes no progress sees no more than the pulse. -/
theorem Pulse.beat_of_no_progress {p : Pulse} {lk : AppLookup} {last : UInt32}
    (h : ¬ lk.Progress last) (hlast : last = 0 ∨ last = p.count) :
    p.beat lk = ⟨p.count, p.idle + 1⟩ := by
  refine if_neg fun hbeat => ?_
  obtain ⟨⟨hname, hinfo, hne⟩, hpos⟩ := hbeat
  have hout : last = lk.appInfo.out := Classical.not_not.mp fun h' => h ⟨hname, hinfo, h'⟩
  rcases hlast with hzero | hcount
  · exact hpos (hout.symm.trans hzero)
  · exact hne (hcount.symm.trans hout)

/-- **One cycle of a row whose application keeps its promise**: the countdown does not end,
and the row stays in step. -/
theorem AMTEntry.InStep.next {row : AMTEntry} {p : Pulse} {r : RowWatch} {lk : AppLookup}
    (h : row.InStep p r) (halive : row.Monitored → (p.beat lk).idle < row.cycleCount.toNat) :
    ¬ row.Expires r lk ∧ row.InStep (p.beat lk) (row.next r lk) := by
  by_cases hw : row.Watched r
  · obtain ⟨hm, hlast, htime⟩ := h hw.2
    by_cases hp : lk.Progress r.last
    · refine ⟨fun hexp => hexp.2.2 hp, fun _ => ?_⟩
      rw [next_progress hw hp]
      exact ⟨hm, p.count_of_progress hp, Nat.le_add_right _ _⟩
    · have hbeat := Pulse.beat_of_no_progress hp hlast
      have hpred := toNat_pred hw.2
      have htimely := halive hm
      rw [hbeat] at htimely ⊢
      change p.idle + 1 < row.cycleCount.toNat at htimely
      refine ⟨fun hexp => ?_, fun _ => ?_⟩
      · have hone : r.countdown.toNat = 1 := by rw [hexp.2.1]; rfl
        omega
      · rw [next_wait hw hp]
        refine ⟨hm, hlast, ?_⟩
        show row.cycleCount.toNat ≤ (r.countdown - 1).toNat + (p.idle + 1)
        omega
  · refine ⟨fun hexp => hw hexp.watched, fun hne => ?_⟩
    rw [next_idle hw] at hne
    have hact : row.actionType ≠ amtActNoact := fun hno => (h hne).1 (.inr hno)
    exact absurd ⟨hact, hne⟩ hw

/-! ### One row -/

section

variable {j : Fin cfg.maxMonitoredApps} {p : Pulse}

/-- From `A`, the action of the row is not entered, and `B` is left if `m` returns. -/
abbrev Spares {α : Type} (j : Fin cfg.maxMonitoredApps) (A B : AppData cfg → Prop)
    (m : HsM cfg α) : Prop :=
  Upholds A (fun x => x.isAction j = false) B m

/-- The row `j` of the application monitor is in step. -/
def RowInStep (amt : AMT cfg) (j : Fin cfg.maxMonitoredApps) (p : Pulse) (s : AppData cfg) : Prop :=
  (amt j).InStep p (s.row j)

theorem RowInStep.of_watch (h : RowInStep amt j p s) (hw : t.watch = s.watch) :
    RowInStep amt j p t := by
  unfold RowInStep
  rw [row_eq_of_watch hw]
  exact h

theorem RowInStep.of_refreshed (h : Refreshed amt s) : RowInStep amt j p s := by
  have hrow : s.row j = ⟨(amt j).start, 0⟩ := by rw [AppData.row, h.countdown, h.last]
  unfold RowInStep
  rw [hrow]
  exact AMTEntry.inStep_start _ _

theorem Does.noAction {α : Type} {ks : List Kind} {m : HsM cfg α} (h : Does ks m s)
    (hks : ∀ k ∈ ks, k ≠ .amtAction := by decide) : ∀ x ∈ (m s).log, x.isAction j = false := by
  intro x hx
  obtain ⟨k, hk, hkx⟩ := h.kind_of_mem hx
  exact isAction_eq (hks k hk) hkx j

/-- Functions that leave the application monitor alone. -/
theorem Does.keepsRow {α : Type} {ks : List Kind} {m : HsM cfg α} (h : ∀ s, Does ks m s)
    (hks : ∀ k ∈ ks, k ≠ .amtAction ∧ k.keepsWatch = true := by decide) :
    Spares j (RowInStep amt j p) (RowInStep amt j p) m := by
  intro s hs
  have hwatch : (m s).state.watch = s.watch := (h s).watch_eq fun k hk => (hks k hk).2
  exact ⟨(h s).noAction fun k hk => (hks k hk).1, fun _ _ => hs.of_watch hwatch⟩

end

/-! ### The stages of a pass -/

/-- The pulse when the application monitor is called: an updated table starts it anew. -/
def CycleIn.pulseBefore (c : CycleIn cfg) (p : Pulse) : Pulse :=
  if c.acquire.amt.status = cfg.tblInfoUpdated then ⟨0, 0⟩ else p

/-- The pulse of the application of the row behind a pass, from the one before it. -/
def CycleIn.pulse (c : CycleIn cfg) (j : Fin cfg.maxMonitoredApps) (p : Pulse) : Pulse :=
  (c.pulseBefore p).beat (c.apps j)

/-- In the pass the application of the row, if it is monitored, keeps its promise. -/
def CycleIn.Alive (c : CycleIn cfg) (j : Fin cfg.maxMonitoredApps) (p : Pulse) : Prop :=
  (c.acquire.amt.table j).Monitored →
    (c.pulse j p).idle < (c.acquire.amt.table j).cycleCount.toNat

/-- In the pass `c`: the tables are those of `c`, and the application monitor is on only with
its table, and with the row in step. -/
structure Attentive (c : CycleIn cfg) (j : Fin cfg.maxMonitoredApps) (p : Pulse)
    (s : AppData cfg) : Prop where
  tables : s.tables = .of c.acquire
  appMon : s.currentAppMonState = .enabled →
    success ≤ c.acquire.amt.status ∧ RowInStep c.acquire.amt.table j p s

section

variable {c : CycleIn cfg} {j : Fin cfg.maxMonitoredApps} {p : Pulse}

theorem Attentive.of_does {α : Type} {ks : List Kind} {m : HsM cfg α} (hs : Attentive c j p s)
    (h : Does ks m s) (hks : ∀ k ∈ ks, k.keepsWatch = true ∧ k.keepsTables = true ∧
      k.keepsAppMonSwitch = true) : Attentive c j p (m s).state := by
  refine ⟨(h.tables_eq fun k hk => (hks k hk).2.1).trans hs.tables, fun hon => ?_⟩
  rw [h.currentAppMonState_eq fun k hk => (hks k hk).2.2] at hon
  obtain ⟨hle, hrow⟩ := hs.appMon hon
  exact ⟨hle, hrow.of_watch (h.watch_eq fun k hk => (hks k hk).1)⟩

theorem Does.attentive {α : Type} {ks : List Kind} {m : HsM cfg α} (h : ∀ s, Does ks m s)
    (hks : ∀ k ∈ ks, k ≠ .amtAction ∧ k.keepsWatch = true ∧ k.keepsTables = true ∧
      k.keepsAppMonSwitch = true := by decide) :
    Spares j (Attentive c j p) (Attentive c j p) m := by
  intro s hs
  have hstate : Attentive c j p (m s).state := hs.of_does (h s) fun k hk => (hks k hk).2
  exact ⟨(h s).noAction fun k hk => (hks k hk).1, fun _ _ => hstate⟩

/-- The row was in step with the table that the pass acquires, unless that is a new one. -/
theorem acquirePointers_spares :
    Spares j (fun s => c.acquire.amt.status ≠ cfg.tblInfoUpdated →
        success ≤ c.acquire.amt.status → s.currentAppMonState = .enabled →
          RowInStep c.acquire.amt.table j p s)
      (Attentive c j (c.pulseBefore p)) (acquirePointers c.acquire) := by
  intro s hs
  obtain ⟨hupd, hkeep⟩ := acquirePointers_watch c.acquire s
  have hloaded := acquirePointers_monitorsLoaded c.acquire s
  refine ⟨(acquirePointers_does c.acquire s).noAction, fun _ _ => ⟨hloaded.tables, fun hon => ?_⟩⟩
  have hle : success ≤ c.acquire.amt.status := hloaded.appMon hon
  refine ⟨hle, ?_⟩
  by_cases hst : c.acquire.amt.status = cfg.tblInfoUpdated
  · exact .of_refreshed (hupd hst)
  · rw [acquirePointers_appMon] at hon
    rw [CycleIn.pulseBefore, if_neg hst]
    exact (hs hst hle (eq_of_keepSwitch hon)).of_watch (hkeep hst)

theorem checkApplications_spares (halive : c.Alive j p) :
    Spares j (Attentive c j (c.pulseBefore p)) (Attentive c j (c.pulse j p))
      (checkApplications c.apps) := by
  intro s hs
  by_cases hon : s.currentAppMonState = .enabled
  · obtain ⟨hle, hrow⟩ := hs.appMon hon
    have hdone := monitorApplications_done (amTablePtr_of_acquired hs.tables hle) c.apps
    rw [← checkApplications_enabled hon] at hdone
    obtain ⟨hlive, hnext⟩ := hrow.next halive
    have hquiet : actions j (checkApplications c.apps s).log = 0 :=
      Classical.not_not.mp fun hne => hlive (hdone.expires j hne).2
    refine ⟨fun x hx => Bool.eq_false_of_not_eq_true (List.countP_eq_zero.mp hquiet x hx),
      fun a ha => ⟨(checkApplications_does c.apps s).tables_eq.trans hs.tables, fun _ =>
        ⟨hle, ?_⟩⟩⟩
    unfold RowInStep
    rw [hdone.rows a ha j (List.mem_finRange j)]
    exact hnext
  · rw [checkApplications_disabled hon]
    exact ⟨List.forall_mem_nil _, fun _ _ => ⟨hs.tables, fun h => absurd h hon⟩⟩

theorem enableAppMonCmd_attentive (hs : Attentive c j p s)
    (hval : (enableAppMonCmd s).val = .ok ()) : Attentive c j p (enableAppMonCmd s).state := by
  have hptr : s.amTablePtr = c.acquire.amt.ptr := congrArg TableView.amt hs.tables
  refine ⟨(enableAppMonCmd_does s).tables_eq.trans hs.tables, fun _ => ?_⟩
  cases hamt : c.acquire.amt.ptr with
  | none =>
    obtain ⟨t, hrun⟩ := enableAppMonCmd_null (hptr.trans hamt)
    rw [hrun] at hval
    cases hval
  | some amt =>
    obtain ⟨hle, rfl⟩ := TblReply.ptr_eq_some.mp hamt
    exact ⟨hle, .of_refreshed (enableAppMonCmd_refreshed (hptr.trans hamt))⟩

theorem appPipe_spares (msg : CmdMsg) (r : CmdReplies cfg) :
    Spares j (Attentive c j p) (Attentive c j p) (appPipe msg r) := by
  intro s hs
  have hdoes : Does anyCmdKinds (appPipe msg r) s :=
    (appPipe_does msg r s).mono (cmdKinds_subset cfg msg)
  refine ⟨hdoes.noAction, fun a ha => ?_⟩
  by_cases hen : accepted cfg msg = some .enableAppMon
  · rw [appPipe_of_accepted hen] at ha ⊢
    exact enableAppMonCmd_attentive hs ha
  by_cases hdis : accepted cfg msg = some .disableAppMon
  · refine ⟨hdoes.tables_eq.trans hs.tables, fun hon => ?_⟩
    rw [appPipe_of_accepted hdis] at hon
    cases hon
  · refine hs.of_does (appPipe_does msg r s) (forall_mem_cmdKinds (by decide) (by decide) ?_)
    intro hd hacc
    cases hd with
    | enableAppMon => exact absurd hacc hen
    | disableAppMon => exact absurd hacc hdis
    | _ => decide

theorem drainCommands_spares :
    Spares j (Attentive c j p) (Attentive c j p) (drainCommands c) := by
  refine .bind (.each _ fun m _ => ?_) fun _ => .pure _
  obtain ⟨_ | msg, r⟩ := m
  · exact .pure ()
  · exact appPipe_spares msg r

theorem processMain_spares (halive : c.Alive j p) :
    Spares j (fun s => c.acquire.amt.status ≠ cfg.tblInfoUpdated →
        success ≤ c.acquire.amt.status → s.currentAppMonState = .enabled →
          RowInStep c.acquire.amt.table j p s)
      (Attentive c j (c.pulse j p)) (processMain c) := by
  have hcommands : Spares j (Attentive c j (c.pulse j p)) (Attentive c j (c.pulse j p))
      (processCommands c) :=
    .bind (Does.attentive (drainEvents_does c)) fun _ =>
      .ite (.bind drainCommands_spares fun _ => .pure _) (.pure _)
  exact .bind acquirePointers_spares fun _ =>
    .bind (Does.attentive decrementCooldowns_does) fun _ =>
    .bind (Does.attentive (checkUtilization_does _)) fun _ =>
    .bind (checkApplications_spares halive) fun _ =>
    .bind (Does.attentive outputAliveness_does) fun _ =>
    .bind hcommands fun _ => .bind (Does.attentive serviceWatchdog_does) fun _ => .pure _

end

/-! ### Initialization -/

section

variable {j : Fin cfg.maxMonitoredApps} {p : Pulse}

theorem call_spares {c : Call cfg} (hc : c.plain = true) :
    Spares j (RowInStep amt j p) (RowInStep amt j p) (call c) := by
  have hdoes (s : AppData cfg) : Does [.quiet] (call c) s := Does.plain hc
  exact Does.keepsRow hdoes

theorem attempt_spares {c : Call cfg} (hc : c.plain = true) {status : Status} {eid : EventId}
    {rest : HsM cfg Status} (h : Spares j (RowInStep amt j p) (RowInStep amt j p) rest) :
    Spares j (RowInStep amt j p) (RowInStep amt j p) (attempt c status eid rest) :=
  .bind (call_spares hc) fun _ => .ite (.bind (call_spares rfl) fun _ => .pure _) h

theorem tblInit_spares (i : TblIn cfg) :
    Spares j (RowInStep i.acquire.amt.table j p) (RowInStep i.acquire.amt.table j p)
      (tblInit i) := by
  have hacquire : Spares j (RowInStep i.acquire.amt.table j p)
      (RowInStep i.acquire.amt.table j p) (acquirePointers i.acquire) := by
    intro s hs
    obtain ⟨hupd, hkeep⟩ := acquirePointers_watch i.acquire s
    refine ⟨(acquirePointers_does i.acquire s).noAction, fun _ _ => ?_⟩
    by_cases hst : i.acquire.amt.status = cfg.tblInfoUpdated
    · exact .of_refreshed (hupd hst)
    · exact hs.of_watch (hkeep hst)
  exact attempt_spares rfl (attempt_spares rfl (attempt_spares rfl (attempt_spares rfl
    (.bind (Does.keepsRow (loadTables_does _)) fun _ => .bind hacquire fun _ => .pure _))))

theorem interfaceInit_spares (i : InitIn cfg) :
    Spares j (RowInStep i.tbl.acquire.amt.table j p) (RowInStep i.tbl.acquire.amt.table j p)
      (interfaceInit i) := by
  refine .bind (Does.keepsRow (sbInit_does _)) fun _ => .ite (.pure _) ?_
  refine .bind (tblInit_spares i.tbl) fun _ => .ite (.pure _) ?_
  refine .bind (Does.keepsRow (sysMonInit_does _)) fun _ => .ite ?_ ?_
  · exact .bind (call_spares rfl) fun _ => .pure _
  · exact .bind (call_spares rfl) fun _ => .pure _

/-- `HS_AppInit` starts with no countdown running. -/
theorem appInit_spares (i : InitIn cfg) :
    Spares j (fun _ => True) (RowInStep i.tbl.acquire.amt.table j p) (appInit i) := by
  have hrest : Spares j (RowInStep i.tbl.acquire.amt.table j p)
      (RowInStep i.tbl.acquire.amt.table j p) (initRest i) := by
    refine .bind (call_spares rfl) fun _ => .ite ?_ ?_
    · exact .bind (call_spares rfl) fun _ => .pure _
    · exact .bind (Does.keepsRow (cdsInit_does _ _)) fun _ => interfaceInit_spares i
  intro s _
  have hstart : RowInStep i.tbl.acquire.amt.table j p (initialData cfg) :=
    fun hne => absurd rfl hne
  obtain ⟨hlog, hrow⟩ := hrest _ hstart
  rw [appInit_eq]
  exact ⟨List.forall_mem_cons.mpr ⟨rfl, hlog⟩, hrow⟩

theorem mainStart_spares (i : InitIn cfg) (k : StartIn) :
    Spares j (fun _ => True) (RowInStep i.tbl.acquire.amt.table j p) (mainStart i k) :=
  .bind (appInit_spares i) fun _ => .ite (Does.keepsRow (startup_does k)) (.pure _)

end

/-! ### Runs -/

/-- The application monitor table that was in force before the turn. -/
def MainIn.amtBefore (i : MainIn cfg) : Nat → AMT cfg
  | 0 => i.init.tbl.acquire.amt.table
  | k + 1 =>
    if success ≤ (i.turn k).cycle.acquire.amt.status then (i.turn k).cycle.acquire.amt.table
    else i.amtBefore k

/-- The pulse of the application of the row before the turn. -/
def MainIn.pulse (i : MainIn cfg) (j : Fin cfg.maxMonitoredApps) : Nat → Pulse
  | 0 => ⟨0, 0⟩
  | k + 1 => (i.turn k).cycle.pulse j (i.pulse j k)

/-- In the first turns the row changes only when the table services report an update, and
while it is monitored its application keeps its promise. -/
structure MainIn.Live (i : MainIn cfg) (j : Fin cfg.maxMonitoredApps) (n : Nat) : Prop where
  stable : ∀ k < n, success ≤ (i.turn k).cycle.acquire.amt.status →
    (i.turn k).cycle.acquire.amt.status ≠ cfg.tblInfoUpdated →
      (i.turn k).cycle.acquire.amt.table j = i.amtBefore k j
  alive : ∀ k < n, (i.turn k).cycle.Alive j (i.pulse j k)

/-- Before the turn, the row is in step if the application monitor is on. -/
def InStepBefore (i : MainIn cfg) (j : Fin cfg.maxMonitoredApps) (k : Nat) (s : AppData cfg) :
    Prop :=
  s.currentAppMonState = .enabled → RowInStep (i.amtBefore k) j (i.pulse j k) s

section

variable {i : MainIn cfg} {j : Fin cfg.maxMonitoredApps} {n : Nat}

theorem turn_spares (h : i.Live j n) {k : Nat} (hk : k < n) :
    Spares j (InStepBefore i j k) (InStepBefore i j (k + 1)) (processMain (i.turn k).cycle) := by
  refine (processMain_spares (h.alive k hk)).mono (fun s hs hst hle hon => ?_) fun s hs hon => ?_
  · unfold RowInStep
    rw [h.stable k hk hle hst]
    exact hs hon
  · obtain ⟨hle, hrow⟩ := hs.appMon hon
    rw [MainIn.amtBefore, if_pos hle]
    exact hrow

theorem mainLoop_spares (h : i.Live j n) (timeOut : Status) (m k : Nat) (hn : k + m = n)
    (v : MainVars) :
    Spares j (fun s => v.runStatus = .appRun → InStepBefore i j k s) (fun _ => True)
      (mainLoop timeOut ((List.range' k m).map i.turn) v) := by
  induction m generalizing k v with
  | zero => exact (Upholds.pure _).mono (fun _ hs => hs) fun _ _ => trivial
  | succ m ih =>
    have hk : k < n := by omega
    have hnext : k + 1 + m = n := by omega
    rw [List.range'_succ, List.map_cons]
    cases hrl : runLoop (i.turn k).stop v.runStatus with
    | some exitStatus =>
      rw [mainLoop_stop hrl]
      exact (Upholds.pure _).mono (fun _ hs => hs) fun _ _ => trivial
    | none =>
      rw [mainLoop_go hrl, mainBody]
      by_cases hw : Wakes cfg timeOut (i.turn k).wakeup
      · have hrun : v.runStatus = .appRun := runStatus_of_runLoop hrl
        rw [if_pos hw]
        have hpass : Spares j (fun s => v.runStatus = .appRun → InStepBefore i j k s)
            (InStepBefore i j (k + 1)) (processMain (i.turn k).cycle) :=
          (turn_spares h hk).mono (fun _ hs => hs hrun) fun _ hs => hs
        exact .bind (.bind hpass fun _ => .pure _) fun v' =>
          (ih (k + 1) hnext v').mono (fun _ hs _ => hs) fun _ hs => hs
      · have hstatus : (i.turn k).wakeup ≠ success := fun hs => hw (.inl hs)
        rw [if_neg hw, Prog.pure_bind']
        refine (ih (k + 1) hnext _).mono (fun s _ hrun => ?_) fun _ hs => hs
        rw [MainVars.next, if_pos hstatus] at hrun
        cases hrun

theorem appMain_spares (h : i.Live j n) (timeOut : Status) :
    Spares j (fun _ => True) (fun _ => True) (appMain timeOut i n) := by
  have hloop (v : MainVars) : Spares j (InStepBefore i j 0) (fun _ => True)
      (mainLoop timeOut ((List.range n).map i.turn) v) := by
    rw [List.range_eq_range']
    exact (mainLoop_spares h timeOut n 0 (Nat.zero_add n) v).mono (fun _ hs _ => hs)
      fun _ hs => hs
  have hstart : Spares j (fun _ => True) (InStepBefore i j 0) (mainStart i.init i.start) :=
    (mainStart_spares _ _).mono (fun _ hs => hs) fun _ hs _ => hs
  refine .bind hstart fun start => .bind (hloop _) fun out => ?_
  rcases out with _ | ⟨v, exitStatus⟩
  · exact .pure none
  · have hend : Spares j (fun _ => True) (fun _ => True) (mainEnd i.stopped v : HsM cfg Unit) :=
      fun s _ => ⟨(mainEnd_does _ v s).noAction, fun _ _ => trivial⟩
    exact .bind hend fun _ => .pure _

theorem appMain_actions (h : i.Live j n) (timeOut : Status) (s : AppData cfg) :
    actions j (appMain timeOut i n s).log = 0 := by
  refine List.countP_eq_zero.mpr fun x hx => ?_
  rw [(appMain_spares h timeOut s trivial).1 x hx]
  exact Bool.false_ne_true

end

/-! ### What comes behind an action -/

/-- What a monitor logs when it enters the action of the row. -/
def TableRow.act : TableRow cfg → Option (Label cfg)
  | .amt j _ => some (.mark (.amtAction j))
  | .emt i _ => some (.mark (.emtAction i))
  | _ => none

section

variable {c : CycleIn cfg} {row : TableRow cfg} {before : List (Label cfg)} {x : Label cfg}

theorem Ordered.act_mem (h : Ordered c row before x) : ∃ y ∈ before, row.act = some y := by
  cases h with
  | appRestart before i => exact ⟨.mark (.amtAction i), by simp, rfl⟩
  | eventRestart before ev lks hev i | eventDelete before ev lks hev i =>
    exact ⟨.mark (.emtAction i), by simp, rfl⟩

theorem Entered.act_mem {reader : Reader} (h : Entered c s reader row t before) :
    ∃ y ∈ before, row.act = some y := by
  cases h with
  | app i => exact ⟨.mark (.amtAction i), by simp, rfl⟩
  | event hevents i => exact ⟨.mark (.emtAction i), by simp, rfl⟩

theorem Intervened.act_mem (h : Intervened c s row before x) :
    ∃ y ∈ before, row.act = some y := by
  cases h with
  | reset hentry | message hentry =>
    obtain ⟨y, hy, hact⟩ := hentry.act_mem
    exact ⟨y, List.mem_append_left _ hy, hact⟩

end

/-- **An application that keeps its promise is spared.**  If in the turns of a run of
`HS_AppMain` a row of the application monitor table changes only with an update, and while
it is monitored its application is never for `CycleCount` cycles in a row without progress,
then HS does not enter the action of the row, and gives no order, calls no processor reset
and sends no message-action message for it: neither other applications that hang, nor
events, commands and failures make HS act on it. -/
theorem live_application_spared (timeOut : Status) (i : MainIn cfg) (n : Nat)
    (j : Fin cfg.maxMonitoredApps) (h : i.Live j n) (s : AppData cfg) :
    actions j (appMain timeOut i n s).log = 0 ∧
      Along (fun before x => ∀ (c : CycleIn cfg) (row : AMTEntry),
        ¬ Ordered c (.amt j row) before x ∧
          ∀ t pre, pre <:+ before → ¬ Intervened c t (.amt j row) pre x)
        (appMain timeOut i n s).log := by
  have hnone := appMain_actions h timeOut s
  refine ⟨hnone, fun before x after hlog c row => ?_⟩
  have hout {y : Label cfg} (hy : y ∈ before) : (TableRow.amt j row).act ≠ some y := by
    rintro ⟨⟩
    have hmem : .mark (.amtAction j) ∈ (appMain timeOut i n s).log := by
      rw [hlog]
      exact List.mem_append_left _ hy
    exact List.countP_eq_zero.mp hnone _ hmem (decide_eq_true rfl)
  refine ⟨fun hord => ?_, fun t pre hpre hint => ?_⟩
  · obtain ⟨y, hy, hact⟩ := hord.act_mem
    exact hout hy hact
  · obtain ⟨y, hy, hact⟩ := hint.act_mem
    exact hout (hpre.subset hy) hact

/-- An application that is not there in the first turn, and then runs. -/
def slowStart : MainIn .small where
  init := .ok resetOnHang
  start := ⟨success, success⟩
  turn := fun k => ⟨.absent, success, { hangingPass resetOnHangAgain with
    apps := if k = 0 then noApp else
      fun _ => ⟨⟨success, 1, true⟩, ⟨success, 7, true⟩, success, true⟩ }⟩
  stopped := true

theorem slowStart_live (j : Fin (Config.small).maxMonitoredApps) : slowStart.Live j 2 where
  stable k hk _ _ := by
    interval_cases k
    · rfl
    · rfl
  alive k hk _ := by
    interval_cases k
    · decide +revert
    · decide +revert

theorem live_application_spared_slowStart :
    slowStart.Live ⟨0, by decide⟩ 2 ∧
      actions ⟨0, by decide⟩ (appMain sbTimeOut slowStart 2 (initialData .small)).log = 0 :=
  ⟨slowStart_live _, (live_application_spared sbTimeOut slowStart 2 _ (slowStart_live _) _).1⟩

/-! ### Events that are not asked for -/

/-- The event monitor enters the action of a row. -/
def Label.isEventAct : Label cfg → Bool
  | .mark (.emtAction _) => true
  | _ => false

/-- From `A`, the event monitor enters no action, and `B` is left if `m` returns. -/
abbrev Ignores {α : Type} (A B : AppData cfg → Prop) (m : HsM cfg α) : Prop :=
  Upholds A (fun x => x.isEventAct = false) B m

theorem Does.noEventAct {α : Type} {ks : List Kind} {m : HsM cfg α} (h : Does ks m s)
    (hks : ∀ k ∈ ks, k ≠ .emtAction := by decide) : ∀ x ∈ (m s).log, x.isEventAct = false := by
  intro x hx
  obtain ⟨k, hk, hkx⟩ := h.kind_of_mem hx
  unfold Label.isEventAct
  split
  · exact absurd (List.mem_singleton.mp hkx) (hks k hk)
  · rfl

theorem Does.ignores {α : Type} {ks : List Kind} {m : HsM cfg α} (h : ∀ s, Does ks m s)
    (hks : ∀ k ∈ ks, k ≠ .emtAction := by decide) :
    Ignores (fun _ => True) (fun _ => True) m := by
  intro s _
  exact ⟨(h s).noEventAct hks, fun _ _ => trivial⟩

section

variable {c : CycleIn cfg}

/-- No event arrives in the pass that the table acquired in it asks for. -/
def CycleIn.Unasked (c : CycleIn cfg) : Prop :=
  ∀ ev lks, (some ev, lks) ∈ c.events → ¬ AsksFor c.acquire.emt.table ev

theorem isEventAct_of_search {x : Label cfg} (h : x.search = true) : x.isEventAct = false := by
  unfold Label.isEventAct
  split
  · cases h
  · rfl

theorem receiveEvent_ignores {emt : EMT cfg} {ev : EvtMsg} (hev : ¬ AsksFor emt ev)
    (lks : Fin cfg.maxMonitoredEvents → EvtLookup) :
    Ignores (fun s => s.emTablePtr = some emt) (fun s => s.emTablePtr = some emt)
      (receiveEvent ev lks) := by
  intro s hs
  obtain ⟨l, hrun, hl⟩ := receiveEvent_unasked hs hev lks
  rw [hrun]
  exact ⟨fun x hx => isEventAct_of_search (hl x hx), fun _ _ => hs⟩

theorem drainEvents_ignores (hc : c.Unasked) :
    Ignores (MonitorsLoaded c.acquire) (fun _ => True) (drainEvents c) := by
  intro s hs
  rw [drainEvents, Prog.get_bind]
  by_cases hon : s.currentEventMonState = .enabled
  · have hptr : s.emTablePtr = some c.acquire.emt.table :=
      emTablePtr_of_acquired hs.tables (hs.eventMon hon)
    rw [if_pos hon]
    refine Upholds.bind (B := fun t => t.emTablePtr = some c.acquire.emt.table)
      (.each _ fun e he => ?_) (fun _ => (Upholds.pure _).mono (fun _ h => h) fun _ _ => trivial)
      s hptr
    obtain ⟨_ | ev, lks⟩ := e
    · exact .pure ()
    · exact receiveEvent_ignores (hc ev lks he) lks
  · rw [if_neg hon]
    exact ⟨List.forall_mem_nil _, fun _ _ => trivial⟩

theorem beforeEvents_does (c : CycleIn cfg) (s : AppData cfg) :
    Does (.tick :: .util :: (acquireKinds ++ appMonKinds)) (beforeEvents c) s := by
  refine Does.bind ((acquirePointers_does _ s).mono (by decide)) fun _ s => ?_
  refine Does.bind ((decrementCooldowns_does s).mono (by decide)) fun _ s => ?_
  refine Does.bind ((checkUtilization_does _ s).mono (by decide)) fun _ s => ?_
  refine Does.bind ((checkApplications_does _ s).mono (by decide)) fun _ s => ?_
  exact (outputAliveness_does s).mono (by decide)

theorem beforeEvents_ignores (c : CycleIn cfg) :
    Ignores (fun _ => True) (MonitorsLoaded c.acquire) (beforeEvents c) := by
  intro s _
  refine ⟨(beforeEvents_does c s).noEventAct, fun a ha => ?_⟩
  refine AtEventLoop.monitorsLoaded ⟨s, (beforeEvents c s).log, ?_⟩
  rw [← ha]

theorem processMain_ignores (hc : c.Unasked) :
    Ignores (fun _ => True) (fun _ => True) (processMain c) := by
  rw [processMain_beforeEvents]
  have hcommands : Ignores (MonitorsLoaded c.acquire) (fun _ => True) (processCommands c) :=
    .bind (drainEvents_ignores hc) fun _ =>
      .ite (.bind (Does.ignores (drainCommands_does c)) fun _ => .pure _) (.pure _)
  exact .bind (beforeEvents_ignores c) fun _ => .bind hcommands fun _ =>
    .bind (Does.ignores serviceWatchdog_does) fun _ => .pure _

theorem appMain_ignores {i : MainIn cfg} {n : Nat} (h : ∀ k < n, (i.turn k).cycle.Unasked)
    (timeOut : Status) (s : AppData cfg) :
    ∀ x ∈ (appMain timeOut i n s).log, x.isEventAct = false := by
  let R : AppData cfg → List (Label cfg) → AppData cfg → Prop := fun _ l _ =>
    ∀ x ∈ l, x.isEventAct = false
  have hlaw : Law R := ⟨fun _ => List.forall_mem_nil _,
    fun hl hl' => List.forall_mem_append.mpr ⟨hl, hl'⟩⟩
  have hstart (s : AppData cfg) : Moves R (mainStart i.init i.start) s :=
    Moves.bind hlaw (appInit_does i.init s).noEventAct fun _ _ =>
      Moves.ite (fun _ => (startup_does i.start _).noEventAct) fun _ => Moves.pure hlaw _ _
  exact appMain_moves hlaw hstart (fun k hk s => (processMain_ignores (h k hk) s trivial).1)
    (fun v s => (mainEnd_does _ v s).noEventAct) timeOut s

end

/-! ### Nothing happens without an action -/

/-- A monitor enters the action of a row. -/
def Label.isAct : Label cfg → Bool
  | .mark (.amtAction _) => true
  | .mark (.emtAction _) => true
  | _ => false

theorem noAct_of_actions {l : List (Label cfg)} (happ : ∀ j, actions j l = 0)
    (hevent : ∀ x ∈ l, x.isEventAct = false) : ∀ x ∈ l, x.isAct = false := by
  intro x hx
  unfold Label.isAct
  split
  · next j => exact absurd (decide_eq_true rfl) (List.countP_eq_zero.mp (happ j) _ hx)
  · exact hevent _ hx
  · rfl

/-- A monitor has entered an action. -/
def Acted (before : List (Label cfg)) (_ : Label cfg) : Prop := ∃ y ∈ before, y.isAct = true

/-- What is due for a row in a turn comes behind the action of the row. -/
theorem InTurn.acted {timeOut : Status} {i : MainIn cfg} {k : Nat} {before pre : List (Label cfg)}
    {x : Label cfg} (h : InTurn timeOut i s k before x t pre) {row : TableRow cfg}
    (hact : ∃ y ∈ pre, row.act = some y) : Acted before x := by
  obtain ⟨l, -, rfl⟩ := h.start
  obtain ⟨y, hy, hy'⟩ := hact
  refine ⟨y, List.mem_append_right l hy, ?_⟩
  cases row with
  | amt | emt =>
    cases hy'
    rfl
  | mat | xct => cases hy'

theorem orders_behind_actions (timeOut : Status) (i : MainIn cfg) (n : Nat) (s : AppData cfg) :
    AlongOn Label.isOrder Acted (appMain timeOut i n s).log := by
  intro before x after hlog hx
  obtain ⟨k, -, t, pre, hturn⟩ := order_inTurn ⟨after, hlog⟩ hx
  obtain ⟨row, -, hrow⟩ := processMain_justified hturn.pass hx
  exact hturn.acted hrow.act_mem

theorem interventions_behind_actions (timeOut : Status) (i : MainIn cfg) (n : Nat)
    (s : AppData cfg) : AlongOn Label.isIntervention Acted (appMain timeOut i n s).log := by
  intro before x after hlog hx
  obtain ⟨k, -, t, pre, hturn⟩ := intervention_inTurn ⟨after, hlog⟩ hx
  obtain ⟨row, hrow⟩ := processMain_intervened hturn.pass hx
  exact hturn.acted hrow.act_mem

/-- Where no action is entered, nothing is done that comes behind one. -/
theorem free_of_noAct {q : Label cfg → Bool} {l : List (Label cfg)}
    (h : AlongOn q Acted l) (hl : ∀ x ∈ l, x.isAct = false) : ∀ x ∈ l, q x = false := by
  intro x hx
  obtain ⟨before, after, rfl⟩ := List.append_of_mem hx
  by_contra hq
  obtain ⟨y, hy, hact⟩ := h before x after rfl (Bool.eq_true_of_not_eq_false hq)
  rw [hl y (List.mem_append_left _ hy)] at hact
  cases hact

/-- In the first turns every monitored application keeps its promise, and no event arrives
that is asked for. -/
structure MainIn.Healthy (i : MainIn cfg) (n : Nat) : Prop where
  live : ∀ j, i.Live j n
  unasked : ∀ k < n, (i.turn k).cycle.Unasked

/-- **A healthy system is left alone.**  If in the turns of a run of `HS_AppMain` every
monitored application keeps its promise, and no event arrives that the event table asks for,
then no monitor enters the action of a row, and HS gives no order, calls no processor reset
and sends no message of a message action, whatever commands arrive and whatever else fails.
Housekeeping requests are answered with their packet. -/
theorem healthy_left_alone (timeOut : Status) (i : MainIn cfg) (n : Nat) (h : i.Healthy n)
    (s : AppData cfg) : ∀ x ∈ (appMain timeOut i n s).log,
      x.isAct = false ∧ x.isOrder = false ∧ x.isIntervention = false := by
  have hact := noAct_of_actions (fun j => appMain_actions (h.live j) timeOut s)
    (appMain_ignores h.unasked timeOut s)
  have horder := free_of_noAct (orders_behind_actions timeOut i n s) hact
  have hreset := free_of_noAct (interventions_behind_actions timeOut i n s) hact
  exact fun x hx => ⟨hact x hx, horder x hx, hreset x hx⟩

theorem slowStart_healthy : slowStart.Healthy 2 where
  live := slowStart_live
  unasked _ _ _ _ h := by cases h

theorem healthy_left_alone_slowStart :
    slowStart.Healthy 2 ∧ ∀ x ∈ (appMain sbTimeOut slowStart 2 (initialData .small)).log,
      x.isAct = false ∧ x.isOrder = false ∧ x.isIntervention = false :=
  ⟨slowStart_healthy, healthy_left_alone sbTimeOut slowStart 2 slowStart_healthy _⟩

end HealthSafety
