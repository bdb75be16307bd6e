import HealthSafety.System.Detection

/-!
# Reports of names that are not found

A watched row whose application name is not found is reported: as an error the first time,
and as a debug event as long as the name is not found again (`dueReports`).  The code takes
the first time to be when the countdown of the row stands at its start (`sentReports`), so
it sends the debug event at once if the call before found the name but showed no progress
(`stalled_call_hides_error`).  Between two refreshes every row is reported as it should be
if and only if no call hides a failure that way (`name_reports_iff`).
-/

namespace HealthSafety

open Lib Timeout

variable {cfg : Config} {s t : AppData cfg} {amt : AMT cfg}
  {lks : Fin cfg.maxMonitoredApps → AppLookup} {i : Fin cfg.maxMonitoredApps}

/-! ### The reports of a row -/

/-- An event with its type and arguments. -/
structure Report where
  eid : EventId
  type : EventType
  args : List EvtArg
  deriving DecidableEq

/-- The label reports a name that was not found. -/
def Label.nameReport : Label cfg → Option Report
  | .call (.sendEvent .appmonAppnameErr type args) => some ⟨.appmonAppnameErr, type, args⟩
  | .call (.sendEvent .appmonAppnameDbg type args) => some ⟨.appmonAppnameDbg, type, args⟩
  | _ => none

/-- The row that `HS_MonitorApplications` begins with the label. -/
def Label.startsRow : Label cfg → Option (Fin cfg.maxMonitoredApps)
  | .mark (.rowRead .monitorApplications (.amt j _)) => some j
  | _ => none

/-- The reports in a log that stand behind the start of row `i` and before that of the next
row; `here` says whether the log begins in row `i`. -/
def rowReports (i : Fin cfg.maxMonitoredApps) : Bool → List (Label cfg) → List Report
  | _, [] => []
  | here, x :: l =>
    match x.startsRow with
    | some j => rowReports i (decide (j = i)) l
    | none => (if here then x.nameReport.toList else []) ++ rowReports i here l

/-- The call gets to row `i`. -/
def Reaches (i : Fin cfg.maxMonitoredApps) (l : List (Label cfg)) : Prop :=
  ∃ x ∈ l, x.startsRow = some i

def AMTEntry.errorReport (row : AMTEntry) : Report := ⟨.appmonAppnameErr, .error, [.str row.appName]⟩

def AMTEntry.debugReport (row : AMTEntry) : Report := ⟨.appmonAppnameDbg, .debug, [.str row.appName]⟩

/-- What is to be reported of a row in the call after these: nothing unless it is watched
and its name is not found; then an error if the call before found the name or there was
none, and a debug event if not. -/
def AMTEntry.dueReports (row : AMTEntry) (hist : List AppLookup) (lk : AppLookup) : List Report :=
  if row.Watched (row.watch hist) ∧ lk.appIDByName.status ≠ success then
    if ∀ prev ∈ hist.getLast?, prev.appIDByName.status = success then [row.errorReport]
    else [row.debugReport]
  else []

/-- What the code reports: an error if the countdown stands at its start. -/
def AMTEntry.sentReports (row : AMTEntry) (r : RowWatch) (lk : AppLookup) : List Report :=
  if row.Watched r ∧ lk.appIDByName.status ≠ success then
    if r.countdown = row.cycleCount then [row.errorReport] else [row.debugReport]
  else []

/-- The call after these does not find the name, for the first time, and the call before
found it but showed no progress. -/
def AMTEntry.Hidden (row : AMTEntry) (hist : List AppLookup) (lk : AppLookup) : Prop :=
  row.Watched (row.watch hist) ∧ lk.appIDByName.status ≠ success ∧
    ∃ past prev, hist = past ++ [prev] ∧ prev.appIDByName.status = success ∧
      ¬ prev.Progress (lastRead past)

/-! ### The countdown at its start -/

theorem AMTEntry.watch_le (row : AMTEntry) (h : row.Monitored) (hist : List AppLookup) :
    (row.watch hist).countdown.toNat ≤ row.cycleCount.toNat := by
  have hpos : 0 < row.cycleCount.toNat := by
    refine Nat.pos_of_ne_zero fun hz => h (.inl ?_)
    exact UInt16.toNat_inj.mp hz
  rw [(AMTEntry.watch_timer h hist).1]
  exact (timer_le_iff hpos _ _).mpr (.inr (by simpa using silent_zero _))

theorem AMTEntry.Watched.monitored {row : AMTEntry} {hist : List AppLookup}
    (h : row.Watched (row.watch hist)) : row.Monitored := by
  by_contra hn
  rw [AMTEntry.watch_of_not_monitored hn] at h
  exact h.2 (if_neg hn)

/-- Behind a call the countdown of a watched row stands at its start if and only if the call
showed progress. -/
theorem AMTEntry.countdown_start_iff {row : AMTEntry} {past : List AppLookup} {prev : AppLookup}
    (h : row.Watched (row.watch (past ++ [prev]))) :
    (row.watch (past ++ [prev])).countdown = row.cycleCount ↔ prev.Progress (lastRead past) := by
  have hmon := AMTEntry.Watched.monitored h
  rw [AMTEntry.watch_append] at h ⊢
  have hw : row.Watched (row.watch past) := by
    by_contra hn
    rw [AMTEntry.next_idle hn] at h
    exact hn h
  have hlast := (AMTEntry.watch_timer hmon past).2 hw.2
  by_cases hp : prev.Progress (row.watch past).last
  · rw [AMTEntry.next_progress hw hp]
    exact iff_of_true rfl (hlast ▸ hp)
  · rw [AMTEntry.next_wait hw hp]
    refine iff_of_false (fun heq => ?_) (hlast ▸ hp)
    have hle := AMTEntry.watch_le row hmon past
    have hpos : (1 : UInt16) ≤ (row.watch past).countdown := by
      rw [UInt16.le_iff_toNat_le]
      exact Nat.one_le_iff_ne_zero.mpr fun hz => hw.2 (UInt16.toNat_inj.mp hz)
    have hsub := UInt16.toNat_sub_of_le _ _ hpos
    rw [UInt16.le_iff_toNat_le] at hpos
    have hval : ((row.watch past).countdown - 1).toNat = row.cycleCount.toNat :=
      congrArg UInt16.toNat heq
    rw [hsub] at hval
    have hone : (1 : UInt16).toNat = 1 := rfl
    omega

theorem AMTEntry.hidden_append {row : AMTEntry} {past : List AppLookup} {prev lk : AppLookup} :
    row.Hidden (past ++ [prev]) lk ↔ row.Watched (row.watch (past ++ [prev])) ∧
      lk.appIDByName.status ≠ success ∧ prev.appIDByName.status = success ∧
        ¬ prev.Progress (lastRead past) := by
  refine and_congr_right fun _ => and_congr_right fun _ => ⟨?_, fun h => ⟨past, prev, rfl, h⟩⟩
  rintro ⟨past', prev', heq, h⟩
  obtain ⟨rfl, rfl⟩ := List.append_singleton_inj.mp heq
  exact h

/-- **A call reports a row as it should if and only if it hides no failure.** -/
theorem AMTEntry.sentReports_eq_iff (row : AMTEntry) (hist : List AppLookup) (lk : AppLookup) :
    row.sentReports (row.watch hist) lk = row.dueReports hist lk ↔ ¬ row.Hidden hist lk := by
  unfold AMTEntry.sentReports AMTEntry.dueReports
  by_cases hfail : row.Watched (row.watch hist) ∧ lk.appIDByName.status ≠ success
  · rw [if_pos hfail, if_pos hfail]
    rcases hist.eq_nil_or_concat' with rfl | ⟨past, prev, rfl⟩
    · have hstart : (row.watch []).countdown = row.cycleCount :=
        if_pos (AMTEntry.Watched.monitored hfail.1)
      rw [if_pos hstart, if_pos (by simp)]
      refine iff_of_true rfl fun h => ?_
      obtain ⟨-, -, past, prev, heq, -⟩ := h
      simp at heq
    have hstart := AMTEntry.countdown_start_iff hfail.1
    have hlast : (∀ lk ∈ (past ++ [prev]).getLast?, lk.appIDByName.status = success) ↔
        prev.appIDByName.status = success := by simp
    rw [AMTEntry.hidden_append]
    by_cases hp : prev.Progress (lastRead past)
    · rw [if_pos (hstart.mpr hp), if_pos (hlast.mpr hp.1)]
      exact iff_of_true rfl fun h => h.2.2.2 hp
    rw [if_neg fun h => hp (hstart.mp h)]
    by_cases hname : prev.appIDByName.status = success
    · rw [if_pos (hlast.mpr hname)]
      refine iff_of_false (fun heq => ?_) fun h => h ⟨hfail.1, hfail.2, hname, hp⟩
      simp [AMTEntry.debugReport, AMTEntry.errorReport] at heq
    · rw [if_neg fun h => hname (hlast.mp h)]
      exact iff_of_true rfl fun h => hname h.2.2.1
  · rw [if_neg hfail, if_neg hfail]
    exact iff_of_true rfl fun h => hfail ⟨h.1, h.2.1⟩

/-! ### The log of a row -/

/-- The label neither begins a row nor reports a name. -/
def Label.Silent (x : Label cfg) : Prop := x.startsRow = none ∧ x.nameReport = none

theorem MsgActLabel.silent {n : Nat} {x : Label cfg} (h : MsgActLabel .appmonMsgactsErr n x) :
    x.Silent := by
  cases h with
  | read reader idx row => cases reader <;> exact ⟨rfl, rfl⟩
  | _ => exact ⟨rfl, rfl⟩

/-- The action switch begins no row and reports no name. -/
theorem ActionLabel.silent {row : AMTEntry} {status : Status} {appId : UInt32} {x : Label cfg}
    (h : ActionLabel i row status appId x) : x.Silent := by
  cases h with
  | report eid args h => rcases h with rfl | rfl | rfl | rfl | rfl <;> exact ⟨rfl, rfl⟩
  | message _ _ _ hx => exact hx.silent
  | _ => exact ⟨rfl, rfl⟩

theorem countdownApp_silent (i : Fin cfg.maxMonitoredApps) (row : AMTEntry) (lk : AppLookup)
    (v : AppMonVars) (s : AppData cfg) :
    ∀ x ∈ (countdownApp i row lk lk.status (lk.vars v) s).log, x.Silent := by
  by_cases hp : lk.Progress (s.row i).last
  · rw [countdownApp_progress hp]
    simp
  by_cases hc : s.appMonCheckInCountdown i = 1
  · rw [countdownApp_expire hp hc]
    exact fun x hx => (appMonAction_labels i row lk _ _ _ x hx).silent
  · rw [countdownApp_wait hp hc]
    simp

/-- The lookup of a row reports it as the code does. -/
theorem resolveApp_log (i : Fin cfg.maxMonitoredApps) (row : AMTEntry) (lk : AppLookup)
    (v : AppMonVars) (s : AppData cfg) (hw : row.Watched (s.row i)) :
    (∀ x ∈ (resolveApp i row lk v s).log, x.startsRow = none) ∧
      (resolveApp i row lk v s).log.filterMap Label.nameReport = row.sentReports (s.row i) lk := by
  unfold resolveApp
  rw [Prog.emit_bind]
  by_cases h : lk.appIDByName.status = success
  · rw [if_pos h, Prog.emit_bind, AMTEntry.sentReports, if_neg fun hf => hf.2 h]
    refine ⟨?_, rfl⟩
    simp [Label.startsRow]
  · rw [if_neg h, AMTEntry.sentReports, if_pos ⟨hw, h⟩]
    unfold appnameEvent
    rw [Prog.bind_assoc', Prog.get_bind]
    by_cases hc : s.appMonCheckInCountdown i = row.cycleCount
    · rw [if_pos hc, Prog.emit_bind, if_pos (show (s.row i).countdown = row.cycleCount from hc)]
      refine ⟨?_, rfl⟩
      simp [Label.startsRow]
    · rw [if_neg hc, Prog.emit_bind, if_neg (show ¬ (s.row i).countdown = row.cycleCount from hc)]
      refine ⟨?_, rfl⟩
      simp [Label.startsRow]

/-- The loop body on row `i` begins the row, and then reports what the code reports of it. -/
theorem monitorApp_log (hs : s.amTablePtr = some amt)
    (lks : Fin cfg.maxMonitoredApps → AppLookup) (v : AppMonVars) (i : Fin cfg.maxMonitoredApps) :
    ∃ x rest, (monitorApp lks v i s).log = x :: rest ∧ x.startsRow = some i ∧
      (∀ y ∈ rest, y.startsRow = none) ∧
      rest.filterMap Label.nameReport = (amt i).sentReports (s.row i) (lks i) := by
  by_cases hw : (amt i).Watched (s.row i)
  · obtain ⟨l, rfl, -, -, hrun⟩ := monitorApp_watched hs hw lks v
    obtain ⟨hstart, hrep⟩ := resolveApp_log i (amt i) (lks i) v s hw
    have hsilent := countdownApp_silent i (amt i) (lks i) v s
    rw [hrun]
    refine ⟨_, (resolveApp i (amt i) (lks i) v s).log ++
      (countdownApp i (amt i) (lks i) (lks i).status ((lks i).vars v) s).log, rfl, rfl,
      fun y hy => ?_, ?_⟩
    · rcases List.mem_append.mp hy with hy | hy
      · exact hstart y hy
      · exact (hsilent y hy).1
    · rw [List.filterMap_append, hrep, List.filterMap_eq_nil_iff.mpr fun y hy => (hsilent y hy).2,
        List.append_nil]
  · rw [monitorApp_idle hs hw, AMTEntry.sentReports, if_neg fun h => hw h.1]
    exact ⟨_, [], rfl, rfl, by simp, rfl⟩

/-! ### The log of a call -/

theorem rowReports_rest {here : Bool} {rest : List (Label cfg)}
    (h : ∀ x ∈ rest, x.startsRow = none) (l : List (Label cfg)) :
    rowReports i here (rest ++ l) =
      (if here then rest.filterMap Label.nameReport else []) ++ rowReports i here l := by
  induction rest with
  | nil => simp
  | cons x rest ih =>
    have hx := h x List.mem_cons_self
    have hrest := ih fun y hy => h y (List.mem_cons_of_mem x hy)
    rw [List.cons_append, rowReports, hx]
    simp only [hrest]
    cases here with
    | false => rfl
    | true => cases hr : x.nameReport <;> simp [hr]

theorem rowReports_row {here : Bool} {x : Label cfg} {rest : List (Label cfg)}
    {j : Fin cfg.maxMonitoredApps} (hx : x.startsRow = some j)
    (h : ∀ y ∈ rest, y.startsRow = none) (l : List (Label cfg)) :
    rowReports i here (x :: rest ++ l) =
      (if j = i then rest.filterMap Label.nameReport else []) ++
        rowReports i (decide (j = i)) l := by
  rw [List.cons_append, rowReports, hx]
  simp only [rowReports_rest h, decide_eq_true_iff]

theorem reaches_row {x : Label cfg} {rest : List (Label cfg)} {j : Fin cfg.maxMonitoredApps}
    (hx : x.startsRow = some j) (h : ∀ y ∈ rest, y.startsRow = none) (l : List (Label cfg)) :
    Reaches i (x :: rest ++ l) ↔ j = i ∨ Reaches i l := by
  constructor
  · rintro ⟨y, hy, hyi⟩
    rcases List.mem_append.mp hy with hy | hy
    · rcases List.mem_cons.mp hy with rfl | hy
      · exact .inl (Option.some.inj (hx.symm.trans hyi))
      · rw [h y hy] at hyi
        cases hyi
    · exact .inr ⟨y, hy, hyi⟩
  · rintro (rfl | ⟨y, hy, hyi⟩)
    · exact ⟨x, List.mem_cons_self, hx⟩
    · exact ⟨y, List.mem_append_right _ hy, hyi⟩

theorem not_reaches_nil (i : Fin cfg.maxMonitoredApps) : ¬ Reaches i ([] : List (Label cfg)) := by
  rintro ⟨y, hy, -⟩
  cases hy

/-- What the rows `is`, taken in order from `s`, report. -/
structure RowsReport {α : Type} (amt : AMT cfg) (lks : Fin cfg.maxMonitoredApps → AppLookup)
    (is : List (Fin cfg.maxMonitoredApps)) (s : AppData cfg)
    (o : Out (AppData cfg) (Label cfg) Stop α) : Prop where
  mem : ∀ i, Reaches i o.log → i ∈ is
  all : ∀ a, o.val = .ok a → ∀ i ∈ is, Reaches i o.log
  reached : ∀ i here, Reaches i o.log →
    rowReports i here o.log = (amt i).sentReports (s.row i) (lks i)
  passed : ∀ i here, ¬ Reaches i o.log → rowReports i here o.log = []

theorem RowsReport.nil {α : Type} (a : α) : RowsReport amt lks [] s ⟨.ok a, s, []⟩ where
  mem i hi := absurd hi (not_reaches_nil i)
  all _ _ i hi := by cases hi
  reached i here hi := absurd hi (not_reaches_nil i)
  passed _ _ _ := rfl

/-- The log `l` of row `i`: it begins this row only, and reports what the code reports of it. -/
structure RowLog (amt : AMT cfg) (lks : Fin cfg.maxMonitoredApps → AppLookup)
    (i : Fin cfg.maxMonitoredApps) (s : AppData cfg) (l : List (Label cfg)) : Prop where
  reaches : ∀ j k, Reaches j (l ++ k) ↔ i = j ∨ Reaches j k
  reports : ∀ j here k, rowReports j here (l ++ k) =
    (if i = j then (amt i).sentReports (s.row i) (lks i) else []) ++
      rowReports j (decide (i = j)) k

theorem monitorApp_rowLog (hs : s.amTablePtr = some amt)
    (lks : Fin cfg.maxMonitoredApps → AppLookup) (v : AppMonVars) (i : Fin cfg.maxMonitoredApps) :
    RowLog amt lks i s (monitorApp lks v i s).log := by
  obtain ⟨x, rest, hlog, hx, hrest, hrep⟩ := monitorApp_log hs lks v i
  rw [hlog]
  refine ⟨fun j k => reaches_row hx hrest k, fun j here k => ?_⟩
  rw [rowReports_row hx hrest, hrep]

/-- The row that stops HS is the last one the call reports. -/
theorem RowsReport.cons_error {α : Type} {is : List (Fin cfg.maxMonitoredApps)} {e : Stop}
    {t : AppData cfg} {l : List (Label cfg)} (h : RowLog amt lks i s l) :
    RowsReport (α := α) amt lks (i :: is) s ⟨.error e, t, l⟩ := by
  obtain ⟨hreach, hrep⟩ := h
  have hlast (j : Fin cfg.maxMonitoredApps) : Reaches j l ↔ i = j := by
    rw [← List.append_nil l, hreach, or_iff_left (not_reaches_nil j)]
  have hreports (j : Fin cfg.maxMonitoredApps) (here : Bool) : rowReports j here l =
      if i = j then (amt i).sentReports (s.row i) (lks i) else [] := by
    rw [← List.append_nil l, hrep]
    exact List.append_nil _
  refine ⟨fun j hj => ?_, fun a ha => (by cases ha), fun j here hj => ?_, fun j here hj => ?_⟩
  · rw [(hlast j).mp hj]
    exact List.mem_cons_self
  · obtain rfl := (hlast j).mp hj
    rw [hreports, if_pos rfl]
  · rw [hreports, if_neg fun h => hj ((hlast j).mpr h)]

/-- The rows behind a row that goes through report themselves as if it were not there. -/
theorem RowsReport.cons_ok {α : Type} {is : List (Fin cfg.maxMonitoredApps)} {t : AppData cfg}
    {l : List (Label cfg)} {o : Out (AppData cfg) (Label cfg) Stop α} (hnot : i ∉ is)
    (h : RowLog amt lks i s l) (hothers : ∀ j, j ≠ i → t.row j = s.row j)
    (ho : RowsReport amt lks is t o) :
    RowsReport amt lks (i :: is) s ⟨o.val, o.state, l ++ o.log⟩ := by
  obtain ⟨hreach, hrep⟩ := h
  refine ⟨fun j hj => ?_, fun a ha j hj => ?_, fun j here hj => ?_, fun j here hj => ?_⟩
  · rcases (hreach j _).mp hj with rfl | hj
    · exact List.mem_cons_self
    · exact List.mem_cons_of_mem i (ho.mem j hj)
  · rcases List.mem_cons.mp hj with rfl | hj
    · exact (hreach _ _).mpr (.inl rfl)
    · exact (hreach j _).mpr (.inr (ho.all a ha j hj))
  · rw [hrep]
    by_cases hij : i = j
    · subst hij
      rw [if_pos rfl, ho.passed i _ fun h => hnot (ho.mem i h), List.append_nil]
    · have hj' := ((hreach j _).mp hj).resolve_left hij
      rw [if_neg hij, ho.reached j _ hj', hothers j fun hji => hij hji.symm]
      rfl
  · have hno := fun h => hj ((hreach j _).mpr h)
    rw [hrep, if_neg fun h => hno (.inl h), ho.passed j _ fun h => hno (.inr h)]
    rfl

theorem monitorApp_fold_log (is : List (Fin cfg.maxMonitoredApps)) (his : is.Pairwise (· < ·)) :
    ∀ (v : AppMonVars) (s : AppData cfg), s.amTablePtr = some amt →
      RowsReport amt lks is s (Prog.fold (monitorApp lks) v is s) := by
  induction is with
  | nil => exact fun v s _ => .nil v
  | cons j is ih =>
    intro v s hs
    obtain ⟨hlt, his⟩ := List.pairwise_cons.mp his
    have hlog := monitorApp_rowLog hs lks v j
    have hrow := monitorApp_rowDone hs lks v j
    have hptr : (monitorApp lks v j s).state.amTablePtr = some amt :=
      (congrArg TableView.amt (monitorApp_does lks v j s).tables_eq).trans hs
    rw [Prog.fold_cons]
    rcases hrun : monitorApp lks v j s with ⟨e | v', t, l⟩
    · rw [hrun] at hlog
      rw [Prog.bind_error hrun]
      exact .cons_error hlog
    · rw [hrun] at hlog hrow hptr
      rw [Prog.bind_ok hrun]
      exact .cons_ok (fun hj => Nat.lt_irrefl _ (hlt j hj)) hlog hrow.others (ih his v' t hptr)

theorem monitorApplications_log (hs : s.amTablePtr = some amt)
    (lks : Fin cfg.maxMonitoredApps → AppLookup) :
    RowsReport amt lks (List.finRange cfg.maxMonitoredApps) s (monitorApplications lks s) := by
  have h := @monitorApp_fold_log _ _ lks _ (List.pairwise_lt_finRange cfg.maxMonitoredApps)
    ⟨0, 0⟩ s hs
  rw [monitorApplications, Prog.discard_apply]
  refine ⟨h.mem, fun a ha i hi => ?_, h.reached, h.passed⟩
  rcases hval : (Prog.fold (monitorApp lks) ⟨0, 0⟩ (List.finRange cfg.maxMonitoredApps) s).val with
    e | v
  · rw [hval] at ha
    cases ha
  · exact h.all v hval i hi

/-! ### Between two refreshes -/

/-- The calls of `HS_MonitorApplications` since a refresh with the table `amt`: the answers
and the log of each.  Other operations can come in between. -/
inductive Reported (amt : AMT cfg) :
    List ((Fin cfg.maxMonitoredApps → AppLookup) × List (Label cfg)) → AppData cfg → Prop
  | refresh {s t : AppData cfg} (hs : s.amTablePtr = some amt)
      (ht : t.watch = (appMonStatusRefresh s).state.watch) : Reported amt [] t
  | call {h : List ((Fin cfg.maxMonitoredApps → AppLookup) × List (Label cfg))} {s : AppData cfg}
      (prior : Reported amt h s) (lks : Fin cfg.maxMonitoredApps → AppLookup)
      (hs : s.amTablePtr = some amt) (hval : (monitorApplications lks s).val = .ok ()) :
      Reported amt (h ++ [(lks, (monitorApplications lks s).log)])
        (monitorApplications lks s).state
  | other {h : List ((Fin cfg.maxMonitoredApps → AppLookup) × List (Label cfg))} {s : AppData cfg}
      (prior : Reported amt h s) (op : Op cfg) (hop : op.KeepsRows s) :
      Reported amt h (op.run s).state

variable {h : List ((Fin cfg.maxMonitoredApps → AppLookup) × List (Label cfg))}

theorem Reported.sinceRefresh (hrep : Reported amt h s) :
    ∃ l, SinceRefresh amt (h.map Prod.fst) l s := by
  induction hrep with
  | refresh hs ht => exact ⟨[], .refresh hs ht⟩
  | call prior lks hs hval ih =>
    obtain ⟨l, hl⟩ := ih
    rw [List.map_append]
    exact ⟨_, hl.call lks hs hval⟩
  | other prior op hop ih =>
    obtain ⟨l, hl⟩ := ih
    exact ⟨_, hl.other op hop⟩

/-- The answers that row `i` got in these calls. -/
def rowAnswers (i : Fin cfg.maxMonitoredApps)
    (h : List ((Fin cfg.maxMonitoredApps → AppLookup) × List (Label cfg))) : List AppLookup :=
  h.map fun c => c.1 i

/-- In every one of these calls row `i` is reported as it should be. -/
def ReportsNames (amt : AMT cfg) (i : Fin cfg.maxMonitoredApps)
    (h : List ((Fin cfg.maxMonitoredApps → AppLookup) × List (Label cfg))) : Prop :=
  ∀ past c newer, h = past ++ c :: newer →
    rowReports i false c.2 = (amt i).dueReports (rowAnswers i past) (c.1 i)

/-- None of these calls fails to find the name of row `i` for the first time behind one that
found it but showed no progress. -/
def HidesNone (amt : AMT cfg) (i : Fin cfg.maxMonitoredApps)
    (h : List ((Fin cfg.maxMonitoredApps → AppLookup) × List (Label cfg))) : Prop :=
  ∀ past c newer, h = past ++ c :: newer → ¬ (amt i).Hidden (rowAnswers i past) (c.1 i)

/-- One call reports a row from where the calls before have put it. -/
theorem Reported.next (hrep : Reported amt h s) (hs : s.amTablePtr = some amt)
    (lks : Fin cfg.maxMonitoredApps → AppLookup)
    (hreach : Reaches i (monitorApplications lks s).log) :
    rowReports i false (monitorApplications lks s).log =
      (amt i).sentReports ((amt i).watch (rowAnswers i h)) (lks i) := by
  obtain ⟨l, hl⟩ := hrep.sinceRefresh
  have hrow := hl.tracked.row i
  rw [List.map_map] at hrow
  rw [(monitorApplications_log hs lks).reached i false hreach, hrow]
  rfl

theorem split_append_singleton {α : Type} {h past newer : List α} {c d : α}
    (heq : h ++ [d] = past ++ c :: newer) :
    (h = past ∧ d = c) ∨ ∃ newer', h = past ++ c :: newer' := by
  rcases newer.eq_nil_or_concat' with rfl | ⟨newer', x, rfl⟩
  · exact .inl (List.append_singleton_inj.mp heq)
  · rw [← List.cons_append, ← List.append_assoc] at heq
    exact .inr ⟨newer', (List.append_singleton_inj.mp heq).1⟩

theorem Reported.sent (hrep : Reported amt h s) (i : Fin cfg.maxMonitoredApps) :
    ∀ past c newer, h = past ++ c :: newer →
      rowReports i false c.2 = (amt i).sentReports ((amt i).watch (rowAnswers i past)) (c.1 i) := by
  induction hrep with
  | refresh hs ht =>
    intro past c newer heq
    simp at heq
  | @call h s prior lks hs hval ih =>
    intro past c newer heq
    rcases split_append_singleton heq with ⟨rfl, rfl⟩ | ⟨newer', rfl⟩
    · have hreach := (monitorApplications_log hs lks).all () hval i (List.mem_finRange i)
      exact prior.next hs lks hreach
    · exact ih past c newer' rfl
  | other prior op hop ih => exact ih

/-- **Names that are not found are reported as they should be, in all calls since the refresh,
if and only if none of the calls hides a failure.**  The last call need not return, as long
as it gets to the row. -/
theorem name_reports_iff (hrep : Reported amt h s) (hs : s.amTablePtr = some amt)
    (lks : Fin cfg.maxMonitoredApps → AppLookup)
    (hreach : Reaches i (monitorApplications lks s).log) :
    ReportsNames amt i (h ++ [(lks, (monitorApplications lks s).log)]) ↔
      HidesNone amt i (h ++ [(lks, (monitorApplications lks s).log)]) := by
  have hsent (past newer : List ((Fin cfg.maxMonitoredApps → AppLookup) × List (Label cfg)))
      (c : (Fin cfg.maxMonitoredApps → AppLookup) × List (Label cfg))
      (heq : h ++ [(lks, (monitorApplications lks s).log)] = past ++ c :: newer) :
      rowReports i false c.2 =
        (amt i).sentReports ((amt i).watch (rowAnswers i past)) (c.1 i) := by
    rcases split_append_singleton heq with ⟨rfl, rfl⟩ | ⟨newer', rfl⟩
    · exact hrep.next hs lks hreach
    · exact hrep.sent i past c newer' rfl
  constructor
  · intro hdue past c newer heq
    rw [← AMTEntry.sentReports_eq_iff, ← hsent past newer c heq]
    exact hdue past c newer heq
  · intro hnone past c newer heq
    rw [hsent past newer c heq]
    exact (AMTEntry.sentReports_eq_iff _ _ _).mpr (hnone past c newer heq)

/-- The application is there, but its execution counter has not moved. -/
def stalledApp : Fin (Config.small).maxMonitoredApps → AppLookup :=
  fun _ => ⟨⟨success, 1, true⟩, ⟨success, 0, true⟩, success, true⟩

/-- HS has just taken the table. -/
theorem reported_watchingOneApp : Reported oneApp.amt.table [] watchingOneApp :=
  .refresh (s := watchingOneApp) rfl
    (Refreshed.watch_refresh rfl ((acquirePointers_watch oneApp (initialData .small)).1 rfl))

theorem name_reports_iff_noApp :
    let log := (monitorApplications noApp watchingOneApp).log
    let log' := (monitorApplications noApp (monitorApplications noApp watchingOneApp).state).log
    ReportsNames oneApp.amt.table ⟨0, by decide⟩ [(noApp, log), (noApp, log')] ↔
      HidesNone oneApp.amt.table ⟨0, by decide⟩ [(noApp, log), (noApp, log')] :=
  name_reports_iff (reported_watchingOneApp.call noApp rfl rfl) rfl noApp
    ⟨_, List.mem_cons_self, rfl⟩

/-- **A stalled call hides the error.**  The first call finds the name but no progress; the
second does not find the name any more, and sends the debug event for it. -/
theorem stalled_call_hides_error :
    ¬ ∀ (cfg : Config) (amt : AMT cfg)
        (h : List ((Fin cfg.maxMonitoredApps → AppLookup) × List (Label cfg))) (s : AppData cfg)
        (i : Fin cfg.maxMonitoredApps), Reported amt h s → ReportsNames amt i h := by
  intro hlaw
  have hrep := (reported_watchingOneApp.call stalledApp rfl rfl).call noApp rfl rfl
  have hdue := hlaw _ _ _ _ ⟨0, by decide⟩ hrep [_] (noApp, _) [] rfl
  have hsent : @rowReports .small ⟨0, by decide⟩ false (monitorApplications noApp
      (monitorApplications stalledApp watchingOneApp).state).log =
        [(oneApp.amt.table ⟨0, by decide⟩).debugReport] := rfl
  have herror : (oneApp.amt.table ⟨0, by decide⟩).dueReports [stalledApp ⟨0, by decide⟩]
      (noApp ⟨0, by decide⟩) = [(oneApp.amt.table ⟨0, by decide⟩).errorReport] := by decide
  have heq := hsent.symm.trans (hdue.trans herror)
  exact absurd heq (by decide)

end HealthSafety
