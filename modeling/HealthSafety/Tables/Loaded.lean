import HealthSafety.Step.Acquire

/-!
# No monitor reads a table that is not there

The enable commands switch a monitor on without a look at its table.  They run
last in a cycle, and the next cycle starts with `HS_AcquirePointers`, which
switches a monitor without a table off before any monitor runs.  So within one
cycle, from whatever state, the monitors read only what this cycle acquired
(`monitors_read_acquired`).
-/

namespace HealthSafety

open Lib

variable {cfg : Config} {r : AcquireIn cfg}

/-- The row is in a table that this acquisition got. -/
def TableRow.From (r : AcquireIn cfg) : TableRow cfg → Prop
  | .amt i row => success ≤ r.amt.status ∧ r.amt.table i = row
  | .emt i row => success ≤ r.emt.status ∧ r.emt.table i = row
  | .mat i row => success ≤ r.mat.status ∧ r.mat.table i = row
  | .xct i row => success ≤ r.xct.status ∧ r.xct.table i = row

theorem TblReply.map_ptr {α β : Type} {a : TblReply α} {f : α → β} {b : β}
    (h : a.ptr.map f = some b) : success ≤ a.status ∧ f a.table = b := by
  obtain ⟨t, ht, rfl⟩ := Option.map_eq_some_iff.mp h
  obtain ⟨hle, rfl⟩ := TblReply.ptr_eq_some.mp ht
  exact ⟨hle, rfl⟩

theorem TableRow.InUse.from {t : AppData cfg} (ht : t.tables = .of r) {row : TableRow cfg}
    (h : row.InUse t) : row.From r := by
  cases row with
  | amt i row =>
    have hptr : t.amTablePtr = r.amt.ptr := congrArg TableView.amt ht
    exact TblReply.map_ptr (by rw [← hptr]; exact h)
  | emt i row =>
    have hptr : t.emTablePtr = r.emt.ptr := congrArg TableView.emt ht
    exact TblReply.map_ptr (by rw [← hptr]; exact h)
  | mat i row =>
    have hptr : t.maTablePtr = r.mat.ptr := congrArg TableView.mat ht
    exact TblReply.map_ptr (by rw [← hptr]; exact h)
  | xct i row =>
    have hptr : t.xcTablePtr = r.xct.ptr := congrArg TableView.xct ht
    exact TblReply.map_ptr (by rw [← hptr]; exact h)

/-- The acquisition of a table failed. -/
def Failed (r : AcquireIn cfg) : TableId → Prop
  | .amt => r.amt.status < success
  | .emt => r.emt.status < success
  | .mat => r.mat.status < success
  | .xct => r.xct.status < success

/-- With the tables of `r`, only the first two tables can be missing where they are
read: the other two are read only while they are marked as loaded. -/
theorem Missing.failed {t : AppData cfg} (ht : t.tables = .of r) {tbl : TableId}
    (h : Missing t tbl) : Failed r tbl ∧ (tbl = .amt ∨ tbl = .emt) := by
  cases tbl with
  | amt =>
    have hptr : t.amTablePtr = r.amt.ptr := congrArg TableView.amt ht
    exact ⟨TblReply.ptr_eq_none.mp (hptr ▸ h), .inl rfl⟩
  | emt =>
    have hptr : t.emTablePtr = r.emt.ptr := congrArg TableView.emt ht
    exact ⟨TblReply.ptr_eq_none.mp (hptr ▸ h), .inr rfl⟩
  | mat =>
    obtain ⟨hnone, hon⟩ := h
    have hptr : t.maTablePtr = r.mat.ptr := congrArg TableView.mat ht
    have hst : t.msgActsState = loadedState r.mat.status := congrArg TableView.msgActsState ht
    rw [hptr, TblReply.ptr_eq_none] at hnone
    rw [hst, loadedState_eq_enabled] at hon
    exact absurd hon (Int.not_le.mpr hnone)
  | xct =>
    obtain ⟨hnone, hon⟩ := h
    have hptr : t.xcTablePtr = r.xct.ptr := congrArg TableView.xct ht
    have hst : t.exeCountState = loadedState r.xct.status := congrArg TableView.exeCountState ht
    rw [hptr, TblReply.ptr_eq_none] at hnone
    rw [hst, loadedState_eq_enabled] at hon
    exact absurd hon (Int.not_le.mpr hnone)

/-! ### What a cycle logs -/

/-- The two monitors. -/
def Reader.isMonitor : Reader → Bool
  | .monitorApplications => true
  | .monitorEvent => true
  | _ => false

/-- What the monitors read and send comes from the acquisition `r`. -/
structure FromAcquired (r : AcquireIn cfg) (x : Label cfg) : Prop where
  row : ∀ reader row, x = .mark (.rowRead reader row) → row.From r
  null : ∀ tbl reader, x = .mark (.nullRead tbl reader) → reader.isMonitor = false
  sent : ∀ idx row, x = .call (.transmitMsg idx row) → (TableRow.mat idx row).From r

/-- The kinds of acts that are safe with the tables of `r`: a monitor reads its own
table only if it was acquired. -/
def Kind.SafeWith (r : AcquireIn cfg) : Kind → Prop
  | .read .monitorApplications .amt => success ≤ r.amt.status
  | .read .monitorApplications .emt => False
  | .read .monitorEvent .amt => False
  | .read .monitorEvent .emt => success ≤ r.emt.status
  | _ => True

theorem Act.fromAcquired {k : Kind} (hk : k.SafeWith r) {t u : AppData cfg}
    {l : List (Label cfg)} (ht : t.tables = .of r) (h : Act k t l u) {x : Label cfg} (hx : x ∈ l) :
    FromAcquired r x := by
  have hkx := h.mem_kinds hx
  refine ⟨?_, ?_, ?_⟩
  · rintro reader row rfl
    rw [Label.kinds, List.mem_singleton] at hkx
    cases h with
    | rowRead reader' row' h =>
      rw [List.mem_singleton, Label.mark.injEq, Mark.rowRead.injEq] at hx
      rw [hx.2]
      exact h.from ht
    | nullRead => simp at hx
    | _ => cases hkx
  · rintro tbl reader rfl
    rw [Label.kinds, List.mem_singleton] at hkx
    subst hkx
    cases h with
    | rowRead => simp at hx
    | nullRead _ _ h =>
      obtain ⟨hf, rfl | rfl⟩ := h.failed ht
      · cases reader <;> first | rfl | exact hk.elim | exact absurd hk (Int.not_le.mpr hf)
      · cases reader <;> first | rfl | exact hk.elim | exact absurd hk (Int.not_le.mpr hf)
  · rintro idx row rfl
    obtain ⟨mat, hm, rfl, -⟩ := h.row_of_transmit hx
    have huse : (TableRow.mat idx (mat idx)).InUse t := by simp [TableRow.InUse, hm]
    exact huse.from ht

theorem Does.logs_fromAcquired {α : Type} {ks : List Kind} {m : HsM cfg α}
    (h : ∀ s, Does ks m s) (hk : ∀ k ∈ ks, k.SafeWith r)
    (hks : ∀ k ∈ ks, k.keepsTables = true := by decide) :
    Logs (fun t : AppData cfg => t.tables = .of r) (FromAcquired r) (fun t => t.tables = .of r) m :=
  fun s hs => ⟨((h s).tables_eq hks).trans hs, (h s).labels_of_tables
    (fun k hk' _ _ _ ht ha _ hx => ha.fromAcquired (hk k hk') (ht.trans hs) hx) hks⟩

/-! ### A cycle -/

/-- The tables of `r`, with each monitor switched on only if its table is there. -/
structure MonitorsLoaded (r : AcquireIn cfg) (t : AppData cfg) : Prop where
  tables : t.tables = .of r
  appMon : t.currentAppMonState = .enabled → success ≤ r.amt.status
  eventMon : t.currentEventMonState = .enabled → success ≤ r.emt.status

theorem acquirePointers_monitorsLoaded (r : AcquireIn cfg) (s : AppData cfg) :
    MonitorsLoaded r (acquirePointers r s).state := by
  obtain ⟨t, l, h, ht, ha, he⟩ := acquirePointers_apply r s
  rw [h]
  exact ⟨ht, fun hon => le_of_keepSwitch (ha ▸ hon), fun hon => le_of_keepSwitch (he ▸ hon)⟩

/-- The table acquisition itself reads for the refresh, not for a monitor, and only a
table that is there. -/
theorem acquirePointers_fromAcquired (r : AcquireIn cfg) (s : AppData cfg) {x : Label cfg}
    (hx : x ∈ (acquirePointers r s).log) :
    (∀ reader row, x = .mark (.rowRead reader row) → reader.isMonitor = false) ∧
      (∀ tbl reader, x = .mark (.nullRead tbl reader) → reader.isMonitor = false) ∧
      ∀ idx row, x ≠ .call (.transmitMsg idx row) := by
  obtain ⟨k, hk, hkx⟩ := (acquirePointers_does r s).kind_of_mem hx
  refine ⟨?_, ?_, ?_⟩
  · rintro reader row rfl
    rw [Label.kinds, List.mem_singleton] at hkx
    subst hkx
    simp only [acquireKinds, List.mem_cons, reduceCtorEq, Kind.read.injEq, List.not_mem_nil,
      or_false, false_or] at hk
    rw [hk.1]
    rfl
  · rintro tbl reader rfl
    rw [Label.kinds, List.mem_singleton] at hkx
    subst hkx
    simp only [acquireKinds, List.mem_cons, reduceCtorEq, Kind.read.injEq, List.not_mem_nil,
      or_false, false_or] at hk
    rw [hk.1]
    rfl
  · rintro idx row rfl
    rw [Label.kinds, List.mem_singleton] at hkx
    subst hkx
    simp [acquireKinds] at hk

/-- Stages that leave the tables and both switches alone, and read nothing for a
monitor. -/
theorem Does.logs_monitorsLoaded {α : Type} {ks : List Kind} {m : HsM cfg α}
    (h : ∀ s, Does ks m s) (hk : ∀ k ∈ ks, k.SafeWith r)
    (hks : ∀ k ∈ ks, k.keepsTables = true ∧ k.keepsAppMonSwitch = true ∧
      k.keepsEventMonSwitch = true := by decide) :
    Logs (MonitorsLoaded r) (FromAcquired r) (MonitorsLoaded r) m := by
  intro s hs
  have ha := (h s).currentAppMonState_eq fun k hk => (hks k hk).2.1
  have he := (h s).currentEventMonState_eq fun k hk => (hks k hk).2.2
  obtain ⟨ht, hlog⟩ := Does.logs_fromAcquired h hk (fun k hk => (hks k hk).1) s hs.tables
  exact ⟨⟨ht, fun hon => hs.appMon (ha ▸ hon), fun hon => hs.eventMon (he ▸ hon)⟩, hlog⟩

theorem checkApplications_logs (lks : Fin cfg.maxMonitoredApps → AppLookup) :
    Logs (MonitorsLoaded r) (FromAcquired r) (MonitorsLoaded r) (checkApplications lks) := by
  intro s hs
  by_cases hon : s.currentAppMonState = .enabled
  · have hle := hs.appMon hon
    refine Does.logs_monitorsLoaded (checkApplications_does lks) (fun k hk => ?_) (by decide) s hs
    simp only [appMonKinds, List.mem_cons, List.not_mem_nil, or_false] at hk
    rcases hk with rfl | rfl | rfl | rfl | rfl | rfl | rfl <;> first | exact hle | trivial
  · rw [checkApplications_disabled hon]
    exact ⟨hs, fun x hx => by cases hx⟩

theorem drainEvents_logs (c : CycleIn cfg) :
    Logs (MonitorsLoaded r) (FromAcquired r) (fun t => t.tables = .of r) (drainEvents c) := by
  intro s hs
  by_cases hon : s.currentEventMonState = .enabled
  · have hle := hs.eventMon hon
    refine Does.logs_fromAcquired (drainEvents_does c) (fun k hk => ?_) (by decide) s hs.tables
    simp only [eventKinds, List.mem_cons, List.not_mem_nil, or_false] at hk
    rcases hk with rfl | rfl | rfl | rfl | rfl | rfl | rfl <;> first | exact hle | trivial
  · have hrun : drainEvents c s = ⟨.ok success, s, []⟩ := by simp [drainEvents, hon]
    rw [hrun]
    exact ⟨hs.tables, fun x hx => by cases hx⟩

/-- The act reads a row for a monitor. -/
def Kind.readsForMonitor : Kind → Bool
  | .read reader _ => reader.isMonitor
  | _ => false

theorem safeWith_of_mem {ks : List Kind}
    (h : ∀ k ∈ ks, k.readsForMonitor = false := by decide) : ∀ k ∈ ks, k.SafeWith r := by
  intro k hk
  have hread := h k hk
  cases k with
  | read reader tbl => cases reader <;> trivial
  | _ => trivial

/-- What comes behind the acquisition and keeps the monitors loaded leaves them so. -/
theorem monitorsLoaded_behind {α : Type} {rest : HsM cfg α}
    (hrest : Logs (MonitorsLoaded r) (FromAcquired r) (MonitorsLoaded r) rest)
    {s t : AppData cfg} {a : α} {l : List (Label cfg)}
    (hrun : (acquirePointers r >>= fun _ => rest) s = ⟨.ok a, t, l⟩) : MonitorsLoaded r t := by
  obtain ⟨u, l', hacq, -⟩ := acquirePointers_apply r s
  have hloaded := acquirePointers_monitorsLoaded r s
  rw [hacq] at hloaded
  have hstate : MonitorsLoaded r ((acquirePointers r >>= fun _ => rest) s).state := by
    rw [Prog.bind_ok hacq]
    exact (hrest u hloaded).1
  rw [hrun] at hstate
  exact hstate

/-- `HS_ProcessMain` behind the table acquisition. -/
theorem processMain_rest_logs (c : CycleIn cfg) :
    Logs (MonitorsLoaded r) (FromAcquired r) (fun t => t.tables = .of r) (do
      decrementCooldowns
      checkUtilization c.utilization
      checkApplications c.apps
      outputAliveness
      let status ← processCommands c
      serviceWatchdog
      pure status : HsM cfg Status) := by
  have htab (t : AppData cfg) (h : MonitorsLoaded r t) : t.tables = .of r := h.tables
  refine Logs.bind htab (Does.logs_monitorsLoaded decrementCooldowns_does safeWith_of_mem) fun _ =>
    Logs.bind htab (Does.logs_monitorsLoaded (checkUtilization_does _) safeWith_of_mem) fun _ =>
    Logs.bind htab (checkApplications_logs _) fun _ =>
    Logs.bind htab (Does.logs_monitorsLoaded outputAliveness_does safeWith_of_mem) fun _ =>
    Logs.bind (fun _ h => h) (Logs.bind (fun _ h => h) (drainEvents_logs c) fun status => ?_)
      fun status => ?_
  · have hcmd (s : AppData cfg) : Does anyCmdKinds
        (if ignoreNoMessage cfg status = success then do
          let status ← drainCommands c
          pure (ignoreNoMessage cfg status)
        else
          pure (ignoreNoMessage cfg status)) s :=
      Does.ite (fun _ => Does.bind (drainCommands_does c s) fun _ s => Does.pure _ s)
        (fun _ => Does.pure _ s)
    exact Does.logs_fromAcquired hcmd safeWith_of_mem
  · have hwatchdog (s : AppData cfg) : Does [.watchdog] (do serviceWatchdog; pure status) s :=
      Does.bind (serviceWatchdog_does s) fun _ s => Does.pure _ s
    exact Does.logs_fromAcquired hwatchdog safeWith_of_mem

/-- What a cycle logs is of the acquisition, or from what that acquired. -/
theorem mem_processMain_log {c : CycleIn cfg} {s : AppData cfg} {x : Label cfg}
    (hx : x ∈ (processMain c s).log) :
    x ∈ (acquirePointers c.acquire s).log ∨ FromAcquired c.acquire x := by
  obtain ⟨t, l, hrun, -⟩ := acquirePointers_apply c.acquire s
  have hloaded := acquirePointers_monitorsLoaded c.acquire s
  have hlog : (processMain c s).log = l ++ _ := congrArg Out.log (Prog.bind_ok hrun)
  rw [hrun] at hloaded ⊢
  rw [hlog] at hx
  exact (List.mem_append.mp hx).imp id ((processMain_rest_logs c t hloaded).2 x)

/-- **In every cycle, from whatever state, the monitors read and send only what this
cycle acquired.**  Right after the acquisition each loaded flag tells whether its
table is there, and a monitor is on only if its table is. -/
theorem monitors_read_acquired (c : CycleIn cfg) (s : AppData cfg) :
    let t := (acquirePointers c.acquire s).state
    (t.appMonLoaded = .enabled ↔ success ≤ c.acquire.amt.status) ∧
    (t.eventMonLoaded = .enabled ↔ success ≤ c.acquire.emt.status) ∧
    (t.msgActsState = .enabled ↔ success ≤ c.acquire.mat.status) ∧
    (t.exeCountState = .enabled ↔ success ≤ c.acquire.xct.status) ∧
    (t.currentAppMonState = .enabled → success ≤ c.acquire.amt.status) ∧
    (t.currentEventMonState = .enabled → success ≤ c.acquire.emt.status) ∧
    (∀ reader row, reader.isMonitor = true →
      Label.mark (.rowRead reader row) ∈ (processMain c s).log → row.From c.acquire) ∧
    (∀ reader tbl, reader.isMonitor = true →
      Label.mark (.nullRead tbl reader) ∉ (processMain c s).log) ∧
    ∀ idx row, Label.call (.transmitMsg idx row) ∈ (processMain c s).log →
      (TableRow.mat idx row).From c.acquire := by
  intro t
  have hl : MonitorsLoaded c.acquire t := acquirePointers_monitorsLoaded c.acquire s
  have hflag {f : TableView cfg → SwitchState} {status : Status}
      (h : f (.of c.acquire) = loadedState status) : f t.tables = .enabled ↔ success ≤ status := by
    rw [hl.tables, h, loadedState_eq_enabled]
  have hacq {x : Label cfg} (hx : x ∈ (acquirePointers c.acquire s).log) :=
    acquirePointers_fromAcquired c.acquire s hx
  refine ⟨hflag (f := TableView.appMonLoaded) rfl, hflag (f := TableView.eventMonLoaded) rfl,
    hflag (f := TableView.msgActsState) rfl, hflag (f := TableView.exeCountState) rfl,
    hl.appMon, hl.eventMon, ?_, ?_, ?_⟩
  · intro reader row hmon hx
    rcases mem_processMain_log hx with hx | hx
    · rw [(hacq hx).1 reader row rfl] at hmon
      cases hmon
    · exact hx.row reader row rfl
  · intro reader tbl hmon hx
    rcases mem_processMain_log hx with hx | hx
    · rw [(hacq hx).2.1 tbl reader rfl] at hmon
      cases hmon
    · rw [hx.null tbl reader rfl] at hmon
      cases hmon
  · intro idx row hx
    rcases mem_processMain_log hx with hx | hx
    · exact absurd rfl ((hacq hx).2.2 idx row)
    · exact hx.sent idx row rfl

end HealthSafety
