import HealthSafety.Step.Refresh

/-!
# The table acquisition

What `HS_AcquirePointers` leaves behind, from any state: it returns, the table
pointers and the loaded flags are those of this acquisition (`TableView.of`), and
a monitor whose table is not there is switched off
(`acquirePointers_apply`).
-/

namespace HealthSafety

open Lib

variable {cfg : Config}

/-- The flag after an acquisition with this status. -/
def loadedState (status : Status) : SwitchState :=
  if status < success then .disabled else .enabled

theorem loadedState_eq_enabled {status : Status} :
    loadedState status = .enabled ↔ success ≤ status := by
  unfold loadedState
  split
  · simp_all
  · simp_all

/-- A monitor switch after an acquisition with this status. -/
def keepSwitch (status : Status) (v : SwitchState) : SwitchState :=
  if status < success then .disabled else v

theorem le_of_keepSwitch {status : Status} {v : SwitchState} (h : keepSwitch status v = .enabled) :
    success ≤ status := by
  unfold keepSwitch at h
  split at h
  · cases h
  · exact Int.not_lt.mp ‹_›

theorem eq_of_keepSwitch {status : Status} {v : SwitchState} (h : keepSwitch status v = .enabled) :
    v = .enabled := by
  unfold keepSwitch at h
  split at h
  · cases h
  · exact h

/-- The tables after an acquisition with these answers. -/
def TableView.of (r : AcquireIn cfg) : TableView cfg where
  amt := r.amt.ptr
  emt := r.emt.ptr
  mat := r.mat.ptr
  xct := r.xct.ptr
  appMonLoaded := loadedState r.amt.status
  eventMonLoaded := loadedState r.emt.status
  msgActsState := loadedState r.mat.status
  exeCountState := loadedState r.xct.status

section

variable {s : AppData cfg} {r : AcquireIn cfg}

theorem amTablePtr_of_acquired (h : s.tables = .of r) (hle : success ≤ r.amt.status) :
    s.amTablePtr = some r.amt.table :=
  (congrArg TableView.amt h).trans (TblReply.ptr_eq_some.mpr ⟨hle, rfl⟩)

theorem emTablePtr_of_acquired (h : s.tables = .of r) (hle : success ≤ r.emt.status) :
    s.emTablePtr = some r.emt.table :=
  (congrArg TableView.emt h).trans (TblReply.ptr_eq_some.mpr ⟨hle, rfl⟩)

theorem maTablePtr_of_acquired (h : s.tables = .of r) (hle : success ≤ r.mat.status) :
    s.maTablePtr = some r.mat.table :=
  (congrArg TableView.mat h).trans (TblReply.ptr_eq_some.mpr ⟨hle, rfl⟩)

end

theorem getTable_apply (tbl : TableId) (status : Status) (set : AppData cfg → AppData cfg)
    (s : AppData cfg) : getTable tbl status set s =
      ⟨.ok (), set s, [.call (.releaseAddress tbl), .call (.manage tbl),
        .call (.getAddress tbl status)]⟩ := rfl

theorem ne_infoUpdated {status : Status} (h : status < success) : status ≠ cfg.tblInfoUpdated :=
  Int.ne_of_lt (Int.lt_trans h cfg.verified.infoUpdated_pos)

/-! ### The four parts -/

theorem recordAppMon_apply (status : Status) (s : AppData cfg) :
    ∃ t l, recordAppMon status s = ⟨.ok (), t, l⟩ ∧
      t.tables = { s.tables with appMonLoaded := loadedState status } ∧
      t.currentAppMonState = keepSwitch status s.currentAppMonState ∧
      t.currentEventMonState = s.currentEventMonState ∧ t.watch = s.watch := by
  rw [recordAppMon]
  by_cases hneg : status < success
  · rw [if_pos hneg, Prog.get_bind]
    by_cases hon : s.appMonLoaded = .enabled ∨ s.currentAppMonState = .enabled
    · rw [Prog.when_pos hon]
      exact ⟨_, _, rfl, by simp [AppData.tables, loadedState, hneg], by simp [keepSwitch, hneg], rfl,
        rfl⟩
    · rw [Prog.when_neg hon]
      have h₁ : s.appMonLoaded = .disabled := by
        cases h : s.appMonLoaded <;> simp_all
      have h₂ : s.currentAppMonState = .disabled := by
        cases h : s.currentAppMonState <;> simp_all
      exact ⟨_, _, rfl, by simp [AppData.tables, loadedState, hneg, h₁],
        by simp [keepSwitch, hneg, h₂], rfl, rfl⟩
  · rw [if_neg hneg]
    exact ⟨_, _, rfl, by simp [AppData.tables, loadedState, hneg], by simp [keepSwitch, hneg], rfl,
      rfl⟩

/-- The application monitor starts afresh if its table has been updated, and its rows
stay as they are if not. -/
theorem acquireAppMon_apply (r : TblReply (AMT cfg)) (s : AppData cfg) :
    ∃ t l, acquireAppMon r s = ⟨.ok (), t, l⟩ ∧
      t.tables = { s.tables with amt := r.ptr, appMonLoaded := loadedState r.status } ∧
      t.currentAppMonState = keepSwitch r.status s.currentAppMonState ∧
      t.currentEventMonState = s.currentEventMonState ∧
      (r.status = cfg.tblInfoUpdated → Refreshed r.table t) ∧
      (r.status ≠ cfg.tblInfoUpdated → t.watch = s.watch) := by
  let s' : AppData cfg := { s with amTablePtr := r.ptr }
  rw [acquireAppMon, Prog.bind_ok (getTable_apply _ _ _ s)]
  by_cases hupd : r.status = cfg.tblInfoUpdated
  · have hneg : ¬ r.status < success := fun hneg => ne_infoUpdated hneg hupd
    have hptr : s'.amTablePtr = some r.table := TblReply.ptr_eq_some.mpr ⟨Int.not_lt.mp hneg, rfl⟩
    obtain ⟨u, k, hrun, href⟩ := appMonStatusRefresh_apply hptr
    obtain ⟨t, l, h, ht, ha, he, hw⟩ := recordAppMon_apply r.status u
    have hd := appMonStatusRefresh_does s'
    have htab := hd.tables_eq
    have hsw := hd.currentAppMonState_eq
    have hev := hd.currentEventMonState_eq
    rw [hrun] at htab hsw hev
    rw [Prog.when_pos hupd, Prog.bind_ok hrun, h]
    refine ⟨t, _, rfl, ?_, ?_, he.trans hev, fun _ => href.of_watch hw, fun hne => absurd hupd hne⟩
    · rw [ht, htab]
      rfl
    · rw [ha, hsw]
  · obtain ⟨t, l, h, ht, ha, he, hw⟩ := recordAppMon_apply r.status s'
    rw [Prog.when_neg hupd, Prog.pure_bind', h]
    exact ⟨t, _, rfl, ht, ha, he, fun h => absurd h hupd, fun _ => hw⟩

theorem dropEvents_apply (unsubLong unsubShort : Status) (s : AppData cfg) :
    ∃ l, dropEvents unsubLong unsubShort s = ⟨.ok (), s, l⟩ := by
  by_cases h₁ : unsubLong = success <;> by_cases h₂ : unsubShort = success <;>
    exact ⟨_, by simp [dropEvents, h₁, h₂]; rfl⟩

theorem acquireEventMon_apply (r : TblReply (EMT cfg)) (unsubLong unsubShort : Status)
    (s : AppData cfg) :
    ∃ t l, acquireEventMon r unsubLong unsubShort s = ⟨.ok (), t, l⟩ ∧
      t.tables = { s.tables with emt := r.ptr, eventMonLoaded := loadedState r.status } ∧
      t.currentAppMonState = s.currentAppMonState ∧
      t.currentEventMonState = keepSwitch r.status s.currentEventMonState := by
  rw [acquireEventMon, Prog.bind_ok (getTable_apply _ _ _ s)]
  by_cases hneg : r.status < success
  · rw [if_pos hneg, Prog.get_bind]
    by_cases hon : s.eventMonLoaded = .enabled ∨ s.currentEventMonState = .enabled
    · rw [Prog.when_pos hon, Prog.emit_bind]
      obtain ⟨l, hdrop⟩ := dropEvents_apply unsubLong unsubShort { s with emTablePtr := r.ptr }
      by_cases hsw : s.currentEventMonState = .enabled
      · rw [Prog.when_pos hsw, Prog.bind_ok hdrop]
        exact ⟨_, _, rfl, by simp [AppData.tables, loadedState, hneg], rfl,
          by simp [keepSwitch, hneg]⟩
      · rw [Prog.when_neg hsw, Prog.pure_bind']
        exact ⟨_, _, rfl, by simp [AppData.tables, loadedState, hneg], rfl,
          by simp [keepSwitch, hneg]⟩
    · rw [Prog.when_neg hon]
      have h₁ : s.eventMonLoaded = .disabled := by
        cases h : s.eventMonLoaded <;> simp_all
      have h₂ : s.currentEventMonState = .disabled := by
        cases h : s.currentEventMonState <;> simp_all
      exact ⟨_, _, rfl, by simp [AppData.tables, loadedState, hneg, h₁], rfl,
        by simp [keepSwitch, hneg, h₂]⟩
  · rw [if_neg hneg]
    exact ⟨_, _, rfl, by simp [AppData.tables, loadedState, hneg], rfl, by simp [keepSwitch, hneg]⟩

theorem acquireMsgActs_apply (r : TblReply (MAT cfg)) (s : AppData cfg) :
    ∃ t l, acquireMsgActs r s = ⟨.ok (), t, l⟩ ∧
      t.tables = { s.tables with mat := r.ptr, msgActsState := loadedState r.status } ∧
      t.currentAppMonState = s.currentAppMonState ∧
      t.currentEventMonState = s.currentEventMonState := by
  rw [acquireMsgActs, ← Prog.bind_assoc', Prog.bind_ok (takeMat_apply r s)]
  by_cases hneg : r.status < success
  · rw [if_pos hneg, Prog.get_bind]
    by_cases hon : s.msgActsState = .enabled
    · rw [Prog.when_pos (show (s.takeMat r).msgActsState = .enabled from hon)]
      exact ⟨_, _, rfl, by simp [AppData.tables, AppData.takeMat, loadedState, hneg], rfl, rfl⟩
    · rw [Prog.when_neg (show ¬ (s.takeMat r).msgActsState = .enabled from hon)]
      have h : s.msgActsState = .disabled := by
        cases h : s.msgActsState <;> simp_all
      exact ⟨_, _, rfl, by simp [AppData.tables, AppData.takeMat, loadedState, hneg, h], rfl, rfl⟩
  · rw [if_neg hneg]
    exact ⟨_, _, rfl, by simp [AppData.tables, AppData.takeMat, loadedState, hneg], rfl, rfl⟩

theorem acquireExeCount_apply (r : TblReply (XCT cfg)) (s : AppData cfg) :
    ∃ t l, acquireExeCount r s = ⟨.ok (), t, l⟩ ∧
      t.tables = { s.tables with xct := r.ptr, exeCountState := loadedState r.status } ∧
      t.currentAppMonState = s.currentAppMonState ∧
      t.currentEventMonState = s.currentEventMonState := by
  rw [acquireExeCount, Prog.bind_ok (getTable_apply _ _ _ s)]
  by_cases hneg : r.status < success
  · rw [if_pos hneg, Prog.get_bind]
    by_cases hon : s.exeCountState = .enabled
    · rw [Prog.when_pos hon]
      exact ⟨_, _, rfl, by simp [AppData.tables, loadedState, hneg], rfl, rfl⟩
    · rw [Prog.when_neg hon]
      have h : s.exeCountState = .disabled := by
        cases h : s.exeCountState <;> simp_all
      exact ⟨_, _, rfl, by simp [AppData.tables, loadedState, hneg, h], rfl, rfl⟩
  · rw [if_neg hneg]
    exact ⟨_, _, rfl, by simp [AppData.tables, loadedState, hneg], rfl, rfl⟩

/-! ### The whole acquisition -/

/-- **`HS_AcquirePointers` returns, with the tables of this acquisition.** -/
theorem acquirePointers_apply (r : AcquireIn cfg) (s : AppData cfg) :
    ∃ t l, acquirePointers r s = ⟨.ok (), t, l⟩ ∧ t.tables = .of r ∧
      t.currentAppMonState = keepSwitch r.amt.status s.currentAppMonState ∧
      t.currentEventMonState = keepSwitch r.emt.status s.currentEventMonState := by
  obtain ⟨t₁, l₁, h₁, ht₁, ha₁, he₁, -⟩ := acquireAppMon_apply r.amt s
  obtain ⟨t₂, l₂, h₂, ht₂, ha₂, he₂⟩ := acquireEventMon_apply r.emt r.unsubLong r.unsubShort t₁
  obtain ⟨t₃, l₃, h₃, ht₃, ha₃, he₃⟩ := acquireMsgActs_apply r.mat t₂
  obtain ⟨t₄, l₄, h₄, ht₄, ha₄, he₄⟩ := acquireExeCount_apply r.xct t₃
  refine ⟨t₄, _, by rw [acquirePointers, Prog.bind_ok h₁, Prog.bind_ok h₂, Prog.bind_ok h₃, h₄],
    ?_, ?_, ?_⟩
  · rw [ht₄, ht₃, ht₂, ht₁]
    rfl
  · rw [ha₄, ha₃, ha₂, ha₁]
  · rw [he₄, he₃, he₂, he₁]

theorem acquirePointers_tables (r : AcquireIn cfg) (s : AppData cfg) :
    (acquirePointers r s).state.tables = .of r := by
  obtain ⟨t, l, h, ht, -, -⟩ := acquirePointers_apply r s
  rw [h]
  exact ht

theorem acquirePointers_appMon (r : AcquireIn cfg) (s : AppData cfg) :
    (acquirePointers r s).state.currentAppMonState =
      keepSwitch r.amt.status s.currentAppMonState := by
  obtain ⟨t, l, h, -, hsw, -⟩ := acquirePointers_apply r s
  rw [h]
  exact hsw

theorem acquirePointers_eventMon (r : AcquireIn cfg) (s : AppData cfg) :
    (acquirePointers r s).state.currentEventMonState =
      keepSwitch r.emt.status s.currentEventMonState := by
  obtain ⟨t, l, h, -, -, hsw⟩ := acquirePointers_apply r s
  rw [h]
  exact hsw

theorem getAddress_mem_acquirePointers (r : AcquireIn cfg) (s : AppData cfg) :
    Label.call (.getAddress .mat r.mat.status) ∈ (acquirePointers r s).log := by
  obtain ⟨t₁, l₁, h₁, -⟩ := acquireAppMon_apply r.amt s
  obtain ⟨t₂, l₂, h₂, -⟩ := acquireEventMon_apply r.emt r.unsubLong r.unsubShort t₁
  have hmsg : Label.call (.getAddress .mat r.mat.status) ∈ (acquireMsgActs r.mat t₂).log := by
    rw [acquireMsgActs]
    refine Prog.mem_bind_log ?_
    rw [getTable_apply]
    simp
  rw [acquirePointers, Prog.bind_ok h₁, Prog.bind_ok h₂]
  exact List.mem_append_right _ (List.mem_append_right _ (Prog.mem_bind_log hmsg))

/-! ### The rows of the application monitor -/

/-- **`HS_AcquirePointers` starts the application monitor afresh if its table has been
updated, and leaves its rows alone if not.** -/
theorem acquirePointers_watch (r : AcquireIn cfg) (s : AppData cfg) :
    (r.amt.status = cfg.tblInfoUpdated → Refreshed r.amt.table (acquirePointers r s).state) ∧
      (r.amt.status ≠ cfg.tblInfoUpdated →
        (acquirePointers r s).state.watch = s.watch) := by
  obtain ⟨t, l, h, -, -, -, hupd, hkeep⟩ := acquireAppMon_apply r.amt s
  have hd : Does [.quiet, .eventMon, .tables] (do
      acquireEventMon r.emt r.unsubLong r.unsubShort
      acquireMsgActs r.mat
      acquireExeCount r.xct : HsM cfg Unit) t :=
    Does.bind (acquireEventMon_does _ _ _ t) fun _ t =>
      Does.bind ((acquireMsgActs_does _ t).mono (by decide)) fun _ t =>
        (acquireExeCount_does _ t).mono (by decide)
  have hrest : (acquirePointers r s).state.watch = t.watch := by
    rw [acquirePointers, Prog.bind_ok h]
    exact hd.watch_eq
  exact ⟨fun hst => (hupd hst).of_watch hrest, fun hst => hrest.trans (hkeep hst)⟩

end HealthSafety
