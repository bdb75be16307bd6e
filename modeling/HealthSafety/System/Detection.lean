import HealthSafety.Lib.Timeout
import HealthSafety.System.Bookkeeping
import Mathlib.Data.List.Induction

/-!
# The detection law of the application monitor

Between two refreshes `HS_MonitorApplications` is called any number of times, with any
answers.  What a row does depends on its own line of the table and on its own answers
only: its countdown is the timeout of `Lib.Timeout` over the calls that show no
progress (`AMTEntry.watch_timer`), where progress is a successful lookup of an execution
count other than the one read last.

So the action of a row is performed in a call if and only if this call is the first that
ends `CycleCount` calls in a row without progress, and at most once
(`appMon_detects`).  A call that a processor reset cuts short does not get to the rows
behind it.
-/

namespace HealthSafety

open Lib Timeout

variable {cfg : Config} {s t : AppData cfg} {l : List (Label cfg)} {amt : AMT cfg}
  {lks : Fin cfg.maxMonitoredApps → AppLookup} {i : Fin cfg.maxMonitoredApps}

/-! ### The history of a row -/

/-- The execution count that was read last, 0 if none was. -/
def lastRead (hist : List AppLookup) : UInt32 :=
  hist.foldl (fun last lk =>
    if lk.appIDByName.status = success ∧ lk.appInfo.status = success then lk.appInfo.out
    else last) 0

/-- The `j`-th lookup shows no progress over the ones before it. -/
def NoProgress (hist : List AppLookup) (j : Nat) : Prop :=
  ∀ lk ∈ hist[j]?, ¬ lk.Progress (lastRead (hist.take j))

instance (hist : List AppLookup) : DecidablePred (NoProgress hist) :=
  fun j => inferInstanceAs (Decidable (∀ lk ∈ hist[j]?, _))

/-- A row after the lookups made since its refresh. -/
def AMTEntry.watch (row : AMTEntry) (hist : List AppLookup) : RowWatch :=
  hist.foldl row.next ⟨row.start, 0⟩

theorem lastRead_append (hist : List AppLookup) (lk : AppLookup) :
    lastRead (hist ++ [lk]) =
      if lk.appIDByName.status = success ∧ lk.appInfo.status = success then lk.appInfo.out
      else lastRead hist := by
  rw [lastRead, List.foldl_append]
  rfl

theorem AMTEntry.watch_append (row : AMTEntry) (hist : List AppLookup) (lk : AppLookup) :
    row.watch (hist ++ [lk]) = row.next (row.watch hist) lk := by
  rw [AMTEntry.watch, List.foldl_append]
  rfl

theorem noProgress_append_of_lt {hist : List AppLookup} (lk : AppLookup) {j : Nat}
    (hj : j < hist.length) : NoProgress (hist ++ [lk]) j ↔ NoProgress hist j := by
  rw [NoProgress, NoProgress, List.getElem?_append_left hj,
    List.take_append_of_le_length (Nat.le_of_lt hj)]

theorem noProgress_append_self (hist : List AppLookup) (lk : AppLookup) :
    NoProgress (hist ++ [lk]) hist.length ↔ ¬ lk.Progress (lastRead hist) := by
  rw [NoProgress, List.getElem?_concat_length, List.take_left]
  simp

/-- The last calls of the history show no progress, and this is so for the first time. -/
def Detects (row : AMTEntry) (hist : List AppLookup) : Prop :=
  row.Monitored ∧ FirstSilent (NoProgress hist) row.cycleCount.toNat hist.length

variable {row : AMTEntry} {hist : List AppLookup}

theorem AMTEntry.next_of_not_monitored (h : ¬ row.Monitored) (lk : AppLookup) :
    row.next ⟨row.start, 0⟩ lk = ⟨row.start, 0⟩ := by
  refine AMTEntry.next_idle fun hw => hw.2 ?_
  exact if_neg h

theorem AMTEntry.watch_of_not_monitored (h : ¬ row.Monitored) (hist : List AppLookup) :
    row.watch hist = ⟨row.start, 0⟩ := by
  induction hist using List.reverseRecOn with
  | nil => rfl
  | append_singleton hist lk ih => rw [AMTEntry.watch_append, ih, next_of_not_monitored h]

theorem lastRead_of_not_progress {lk : AppLookup} (h : ¬ lk.Progress (lastRead hist)) :
    lastRead (hist ++ [lk]) = lastRead hist := by
  rw [lastRead_append]
  by_cases hok : lk.appIDByName.status = success ∧ lk.appInfo.status = success
  · rw [if_pos hok]
    by_contra hne
    exact h ⟨hok.1, hok.2, fun heq => hne heq.symm⟩
  · exact if_neg hok

/-- **The countdown of a row is the timeout over its calls without progress, and until it
is over the row keeps the execution count that was read last.** -/
theorem AMTEntry.watch_timer (h : row.Monitored) (hist : List AppLookup) :
    (row.watch hist).countdown.toNat =
        timer (NoProgress hist) row.cycleCount.toNat hist.length ∧
      ((row.watch hist).countdown ≠ 0 → (row.watch hist).last = lastRead hist) := by
  induction hist using List.reverseRecOn with
  | nil =>
    refine ⟨?_, fun _ => rfl⟩
    show row.start.toNat = row.cycleCount.toNat
    rw [AMTEntry.start, if_pos h]
  | append_singleton hist lk ih =>
    obtain ⟨hcount, hlast⟩ := ih
    have htimer : timer (NoProgress (hist ++ [lk])) row.cycleCount.toNat hist.length =
        (row.watch hist).countdown.toNat := by
      rw [hcount]
      exact timer_congr _ fun j hj => noProgress_append_of_lt lk hj
    rw [AMTEntry.watch_append, List.length_append, List.length_singleton, timer, htimer]
    by_cases hzero : (row.watch hist).countdown = 0
    · rw [AMTEntry.next_idle fun hw => hw.2 hzero]
      exact ⟨by simp [hzero], fun hne => absurd hzero hne⟩
    have hw : row.Watched (row.watch hist) := ⟨fun hact => h (.inr hact), hzero⟩
    have hne : (row.watch hist).countdown.toNat ≠ 0 := fun hz => hzero (UInt16.toNat_inj.mp hz)
    have hquiet := noProgress_append_self hist lk
    rw [← hlast hzero] at hquiet
    rw [if_neg hne]
    by_cases hp : lk.Progress (row.watch hist).last
    · rw [AMTEntry.next_progress hw hp, if_neg fun hq => hquiet.mp hq hp, lastRead_append,
        if_pos ⟨hp.1, hp.2.1⟩]
      exact ⟨rfl, fun _ => rfl⟩
    · have hpos : (1 : UInt16) ≤ (row.watch hist).countdown := by
        rw [UInt16.le_iff_toNat_le]
        exact Nat.one_le_iff_ne_zero.mpr hne
      rw [AMTEntry.next_wait hw hp, if_pos (hquiet.mpr hp), UInt16.toNat_sub_of_le _ _ hpos,
        lastRead_of_not_progress (by rwa [← hlast hzero])]
      exact ⟨rfl, fun _ => hlast hzero⟩

/-- The countdown of a row ends in the calls that the detection law names. -/
theorem AMTEntry.expires_iff_detects (row : AMTEntry) (hist : List AppLookup) (lk : AppLookup) :
    row.Expires (row.watch hist) lk ↔ Detects row (hist ++ [lk]) := by
  by_cases h : row.Monitored
  · have hpos : 0 < row.cycleCount.toNat := by
      refine Nat.pos_of_ne_zero fun hz => h (.inl ?_)
      exact UInt16.toNat_inj.mp hz
    obtain ⟨hcount, hlast⟩ := AMTEntry.watch_timer h hist
    have htimer : timer (NoProgress (hist ++ [lk])) row.cycleCount.toNat hist.length =
        (row.watch hist).countdown.toNat := by
      rw [hcount]
      exact timer_congr _ fun j hj => noProgress_append_of_lt lk hj
    rw [Detects, List.length_append, List.length_singleton, ← expires_iff hpos, htimer,
      noProgress_append_self, AMTEntry.Expires]
    have hone : (row.watch hist).countdown = 1 ↔ (row.watch hist).countdown.toNat = 1 := by
      rw [← UInt16.toNat_inj]
      rfl
    constructor
    · rintro ⟨-, hc, hp⟩
      rw [hlast (by rw [hc]; decide)] at hp
      exact ⟨h, hone.mp hc, hp⟩
    · rintro ⟨-, hc, hp⟩
      have hc' := hone.mpr hc
      rw [← hlast (by rw [hc']; decide)] at hp
      exact ⟨fun hact => h (.inr hact), hc', hp⟩
  · refine iff_of_false (fun hexp => hexp.watched.2 ?_) fun hd => h hd.1
    rw [AMTEntry.watch_of_not_monitored h]
    exact if_neg h

/-! ### A call -/

/-- What the rows `is`, taken in order from `s`, do: a row acts if and only if its
countdown ends, unless the action of an earlier row has stopped HS. -/
structure CallDone {α : Type} (amt : AMT cfg) (lks : Fin cfg.maxMonitoredApps → AppLookup)
    (is : List (Fin cfg.maxMonitoredApps)) (s : AppData cfg)
    (o : Out (AppData cfg) (Label cfg) Stop α) : Prop where
  rows : ∀ a, o.val = .ok a → ∀ i ∈ is, o.state.row i = (amt i).next (s.row i) (lks i)
  others : ∀ i, i ∉ is → o.state.row i = s.row i
  once : ∀ i, actions i o.log ≤ 1
  expires : ∀ i, actions i o.log ≠ 0 → i ∈ is ∧ (amt i).Expires (s.row i) (lks i)
  acts : ∀ i ∈ is, (amt i).Expires (s.row i) (lks i) →
    actions i o.log ≠ 0 ∨ (∃ e, o.val = .error e) ∧ ∃ j < i, actions j o.log ≠ 0
  restarts : ∀ id, Label.call (.restartApp id) ∈ o.log →
    ∃ i, actions i o.log ≠ 0 ∧ (amt i).actionType = amtActAppRestart ∧
      Label.call (.getAppIDByName (amt i).appName) ∈ o.log ∧
      (lks i).appIDByName.status = success ∧ id = (lks i).appIDByName.out

theorem CallDone.nil {α : Type} (a : α) : CallDone amt lks [] s ⟨.ok a, s, []⟩ where
  rows _ _ i hi := by cases hi
  others _ _ := rfl
  once _ := Nat.zero_le 1
  expires _ h := absurd rfl h
  acts i hi := by cases hi
  restarts id hid := by cases hid

theorem RowDone.actions_le {α : Type} {o : Out (AppData cfg) (Label cfg) Stop α}
    (h : RowDone amt lks i s o) (j : Fin cfg.maxMonitoredApps) : actions j o.log ≤ 1 := by
  rw [h.acts]
  split <;> decide

theorem RowDone.of_actions_ne {α : Type} {o : Out (AppData cfg) (Label cfg) Stop α}
    (h : RowDone amt lks i s o) {j : Fin cfg.maxMonitoredApps} (hj : actions j o.log ≠ 0) :
    i = j ∧ (amt i).Expires (s.row i) (lks i) := by
  by_contra hn
  exact hj ((h.acts j).trans (if_neg hn))

theorem RowDone.actions_ne {α : Type} {o : Out (AppData cfg) (Label cfg) Stop α}
    (h : RowDone amt lks i s o) (hexp : (amt i).Expires (s.row i) (lks i)) :
    actions i o.log ≠ 0 := by
  rw [h.acts, if_pos ⟨rfl, hexp⟩]
  decide

/-- A row that stops HS ends the call. -/
theorem CallDone.cons_error {α β : Type} {is : List (Fin cfg.maxMonitoredApps)} {e : Stop}
    (hlt : ∀ j ∈ is, i < j) (h : RowDone (α := α) amt lks i s ⟨.error e, t, l⟩) :
    CallDone (α := β) amt lks (i :: is) s ⟨.error e, t, l⟩ where
  rows a ha := by cases ha
  others j hj := h.others j fun hji => hj (hji ▸ List.mem_cons_self)
  once := h.actions_le
  expires j hj := by
    obtain ⟨rfl, hexp⟩ := h.of_actions_ne hj
    exact ⟨List.mem_cons_self, hexp⟩
  acts j hj hexp := by
    rcases List.mem_cons.mp hj with rfl | hj
    · exact .inl (h.actions_ne hexp)
    · exact .inr ⟨⟨e, rfl⟩, i, hlt j hj, h.actions_ne (h.stops e rfl)⟩
  restarts id hid := by
    obtain ⟨hexp, hact, hname, hok, rfl⟩ := h.restarts id hid
    exact ⟨i, h.actions_ne hexp, hact, hname, hok, rfl⟩

theorem actions_append_ne_left (h : actions i l ≠ 0) (l' : List (Label cfg)) :
    actions i (l ++ l') ≠ 0 := by
  rw [actions_append]
  omega

theorem actions_append_ne_right {l' : List (Label cfg)} (l : List (Label cfg))
    (h : actions i l' ≠ 0) : actions i (l ++ l') ≠ 0 := by
  rw [actions_append]
  omega

/-- A row that returns hands on to the next ones. -/
theorem CallDone.cons_ok {α : Type} {is : List (Fin cfg.maxMonitoredApps)} {v : AppMonVars}
    {o : Out (AppData cfg) (Label cfg) Stop α} (hlt : ∀ j ∈ is, i < j)
    (h : RowDone (α := AppMonVars) amt lks i s ⟨.ok v, t, l⟩) (ho : CallDone amt lks is t o) :
    CallDone amt lks (i :: is) s ⟨o.val, o.state, l ++ o.log⟩ := by
  have hnot : i ∉ is := fun hi => Nat.lt_irrefl _ (hlt i hi)
  have hrow {j : Fin cfg.maxMonitoredApps} (hj : j ∈ is) : t.row j = s.row j :=
    h.others j fun hji => hnot (hji ▸ hj)
  have hadd (j : Fin cfg.maxMonitoredApps) :
      actions j (l ++ o.log) = actions j l + actions j o.log := actions_append j l o.log
  have htail : actions i o.log = 0 := by
    by_contra hne
    exact hnot (ho.expires i hne).1
  refine ⟨fun a ha j hj => ?_, fun j hj => ?_, fun j => ?_, fun j hj => ?_,
    fun j hj hexp => ?_, fun id hid => ?_⟩
  · rcases List.mem_cons.mp hj with rfl | hj
    · exact (ho.others _ hnot).trans h.row
    · exact (ho.rows a ha j hj).trans (by rw [hrow hj])
  · obtain ⟨hji, hj⟩ := not_or.mp fun hor => hj (List.mem_cons.mpr hor)
    exact (ho.others j hj).trans (h.others j hji)
  · rw [hadd]
    by_cases hji : i = j
    · subst hji
      rw [htail]
      exact h.actions_le i
    · have hl : actions j l = 0 := (h.acts j).trans (if_neg fun hn => hji hn.1)
      rw [hl, Nat.zero_add]
      exact ho.once j
  · rw [hadd] at hj
    by_cases hl : actions j l = 0
    · rw [hl, Nat.zero_add] at hj
      obtain ⟨hmem, hexp⟩ := ho.expires j hj
      exact ⟨List.mem_cons_of_mem _ hmem, by rwa [hrow hmem] at hexp⟩
    · obtain ⟨rfl, hexp⟩ := h.of_actions_ne hl
      exact ⟨List.mem_cons_self, hexp⟩
  · rcases List.mem_cons.mp hj with rfl | hj
    · exact .inl (actions_append_ne_left (h.actions_ne hexp) _)
    · rw [← hrow hj] at hexp
      refine (ho.acts j hj hexp).imp (actions_append_ne_right l) ?_
      rintro ⟨hval, m, hm, hne⟩
      exact ⟨hval, m, hm, actions_append_ne_right l hne⟩
  · rcases List.mem_append.mp hid with hid | hid
    · obtain ⟨hexp, hact, hname, hok, rfl⟩ := h.restarts id hid
      exact ⟨i, actions_append_ne_left (h.actions_ne hexp) _, hact, List.mem_append_left _ hname,
        hok, rfl⟩
    · obtain ⟨j, hne, hact, hname, hok, rfl⟩ := ho.restarts id hid
      exact ⟨j, actions_append_ne_right l hne, hact, List.mem_append_right _ hname, hok, rfl⟩

theorem monitorApp_fold_done (is : List (Fin cfg.maxMonitoredApps)) (his : is.Pairwise (· < ·)) :
    ∀ (v : AppMonVars) (s : AppData cfg), s.amTablePtr = some amt →
      CallDone amt lks is s (Prog.fold (monitorApp lks) v is s) := by
  induction is with
  | nil => exact fun v s _ => .nil v
  | cons i is ih =>
    intro v s hs
    obtain ⟨hlt, his⟩ := List.pairwise_cons.mp his
    have hrow := monitorApp_rowDone hs lks v i
    have hptr : (monitorApp lks v i s).state.amTablePtr = some amt :=
      (congrArg TableView.amt (monitorApp_does lks v i s).tables_eq).trans hs
    rw [Prog.fold_cons]
    rcases hrun : monitorApp lks v i s with ⟨e | v', t, l⟩
    · rw [hrun] at hrow
      rw [Prog.bind_error hrun]
      exact .cons_error hlt hrow
    · rw [hrun] at hrow hptr
      rw [Prog.bind_ok hrun]
      exact .cons_ok hlt hrow (ih his v' t hptr)

/-- Dropping the value changes nothing. -/
theorem CallDone.discard {α : Type} {is : List (Fin cfg.maxMonitoredApps)} {m : HsM cfg α}
    (h : CallDone amt lks is s (m s)) :
    CallDone amt lks is s ((m >>= fun _ => pure ()) s) := by
  rw [Prog.discard_apply]
  rcases hm : m s with ⟨e | a, t, l⟩
  · rw [hm] at h
    exact ⟨(by rintro a ⟨⟩), h.others, h.once, h.expires,
      fun i hi hexp => (h.acts i hi hexp).imp_right fun hstop => ⟨⟨e, rfl⟩, hstop.2⟩, h.restarts⟩
  · rw [hm] at h
    exact ⟨fun _ _ => h.rows a rfl, h.others, h.once, h.expires,
      fun i hi hexp => (h.acts i hi hexp).imp_right (by rintro ⟨⟨e, he⟩, -⟩; cases he), h.restarts⟩

theorem monitorApplications_done (hs : s.amTablePtr = some amt)
    (lks : Fin cfg.maxMonitoredApps → AppLookup) :
    CallDone amt lks (List.finRange cfg.maxMonitoredApps) s (monitorApplications lks s) :=
  .discard (monitorApp_fold_done _ (List.pairwise_lt_finRange _) ⟨0, 0⟩ s hs)

/-! ### Between two refreshes -/

/-- The operation neither refreshes the application monitor nor calls it. -/
def Op.KeepsRows (s : AppData cfg) : Op cfg → Prop
  | .appInit _ => False
  | .acquirePointers r => r.amt.status ≠ cfg.tblInfoUpdated
  | .checkApplications _ => s.currentAppMonState = .disabled
  | .appPipe msg _ => accepted cfg msg ≠ some .enableAppMon
  | _ => True

/-- What can happen since a refresh with the table `amt`: calls of
`HS_MonitorApplications` on this table, whose answers are listed, and other operations. -/
inductive SinceRefresh (amt : AMT cfg) :
    List (Fin cfg.maxMonitoredApps → AppLookup) → List (Label cfg) → AppData cfg → Prop
  | refresh {s t : AppData cfg} (hs : s.amTablePtr = some amt)
      (ht : t.watch = (appMonStatusRefresh s).state.watch) : SinceRefresh amt [] [] t
  | call {calls : List (Fin cfg.maxMonitoredApps → AppLookup)} {l : List (Label cfg)}
      {s : AppData cfg} (h : SinceRefresh amt calls l s)
      (lks : Fin cfg.maxMonitoredApps → AppLookup) (hs : s.amTablePtr = some amt)
      (hval : (monitorApplications lks s).val = .ok ()) :
      SinceRefresh amt (calls ++ [lks]) (l ++ (monitorApplications lks s).log)
        (monitorApplications lks s).state
  | other {calls : List (Fin cfg.maxMonitoredApps → AppLookup)} {l : List (Label cfg)}
      {s : AppData cfg} (h : SinceRefresh amt calls l s) (op : Op cfg) (hop : op.KeepsRows s) :
      SinceRefresh amt calls (l ++ (op.run s).log) (op.run s).state

theorem Refreshed.watch_eq {u : AppData cfg} (h : Refreshed amt t) (h' : Refreshed amt u) :
    t.watch = u.watch := by
  have hc : t.appMonCheckInCountdown = u.appMonCheckInCountdown := by
    funext i
    rw [h.countdown, h'.countdown]
  have hl : t.appMonLastExeCount = u.appMonLastExeCount := by
    funext i
    rw [h.last, h'.last]
  have he : t.appMonEnables = u.appMonEnables := by
    refine PackedBits.ext fun j => ?_
    rw [Bool.eq_iff_iff, h.bit, h'.bit]
  simp only [AppData.watch, hc, hl, he]

/-- A refreshed state could have been refreshed just now. -/
theorem Refreshed.watch_refresh (hs : s.amTablePtr = some amt) (h : Refreshed amt t) :
    t.watch = (appMonStatusRefresh s).state.watch := by
  obtain ⟨u, l, hrun, href⟩ := appMonStatusRefresh_apply hs
  rw [hrun]
  exact h.watch_eq href

theorem SinceRefresh.of_refreshed (hs : s.amTablePtr = some amt) (h : Refreshed amt t) :
    SinceRefresh amt [] [] t := .refresh hs (h.watch_refresh hs)

/-- An updated table starts a new history. -/
theorem SinceRefresh.acquirePointers {r : AcquireIn cfg} (s : AppData cfg)
    (h : r.amt.status = cfg.tblInfoUpdated) :
    SinceRefresh r.amt.table [] [] (acquirePointers r s).state := by
  have hle : success ≤ r.amt.status := Int.not_lt.mp fun hneg => ne_infoUpdated hneg h
  exact .of_refreshed (amTablePtr_of_acquired (acquirePointers_tables r s) hle)
    ((acquirePointers_watch r s).1 h)

/-- So does the command that enables the application monitor. -/
theorem SinceRefresh.enableAppMonCmd (hs : s.amTablePtr = some amt) :
    SinceRefresh amt [] [] (enableAppMonCmd s).state :=
  .of_refreshed hs (enableAppMonCmd_refreshed hs)

theorem Op.KeepsRows.kinds {op : Op cfg} (h : op.KeepsRows s)
    (hacq : ∀ r, op ≠ .acquirePointers r) (happ : ∀ lks, op ≠ .checkApplications lks) :
    ∀ k ∈ op.kinds, k.keepsWatch = true ∧ k ≠ .amtAction := by
  cases op with
  | appInit => exact h.elim
  | acquirePointers r => exact absurd rfl (hacq r)
  | checkApplications lks => exact absurd rfl (happ lks)
  | appPipe msg r =>
    refine forall_mem_cmdKinds (by decide) (by decide) fun hd hacc => ?_
    cases hd with
    | enableAppMon => exact absurd hacc h
    | _ => decide
  | _ =>
    simp only [Op.kinds]
    decide

theorem Op.KeepsRows.eq {op : Op cfg} (h : op.KeepsRows s) :
    (op.run s).state.watch = s.watch ∧ ∀ i, actions i (op.run s).log = 0 := by
  by_cases hacq : ∃ r, op = .acquirePointers r
  · obtain ⟨r, rfl⟩ := hacq
    exact ⟨(acquirePointers_watch r s).2 h, (acquirePointers_does r s).actions_eq_zero (by decide)⟩
  by_cases happ : ∃ lks, op = .checkApplications lks
  · obtain ⟨lks, rfl⟩ := happ
    have hoff : s.currentAppMonState ≠ .enabled := by
      rw [show s.currentAppMonState = .disabled from h]
      decide
    rw [Op.run, HealthSafety.checkApplications, Prog.get_bind, Prog.when_neg hoff]
    exact ⟨rfl, fun _ => rfl⟩
  have hks := h.kinds (fun r hr => hacq ⟨r, hr⟩) fun lks hl => happ ⟨lks, hl⟩
  exact ⟨(op.does s).watch_eq fun k hk => (hks k hk).1,
    (op.does s).actions_eq_zero fun k hk => (hks k hk).2⟩

theorem AMTEntry.Expires.next_countdown {r : RowWatch} {lk : AppLookup} (h : row.Expires r lk) :
    (row.next r lk).countdown = 0 := by
  rw [AMTEntry.next_wait h.watched h.2.2, h.2.1]
  rfl

/-- Every row is where its own history puts it, and one that has acted is done. -/
structure Tracked (amt : AMT cfg) (calls : List (Fin cfg.maxMonitoredApps → AppLookup))
    (l : List (Label cfg)) (s : AppData cfg) : Prop where
  row : ∀ i, s.row i = (amt i).watch (calls.map (· i))
  kept : Kept (some amt) s
  once : ∀ i, actions i l ≤ 1
  done : ∀ i, actions i l ≠ 0 → (s.row i).countdown = 0 ∧ (amt i).Monitored

variable {calls : List (Fin cfg.maxMonitoredApps → AppLookup)}

theorem Tracked.expires_iff (h : Tracked amt calls l s) (i : Fin cfg.maxMonitoredApps)
    (lk : AppLookup) :
    (amt i).Expires (s.row i) lk ↔ Detects (amt i) (calls.map (· i) ++ [lk]) := by
  rw [h.row]
  exact AMTEntry.expires_iff_detects _ _ _

/-- One more call, whether it returns or not, performs no action twice. -/
theorem Tracked.call_once (h : Tracked amt calls l s) (hs : s.amTablePtr = some amt)
    (lks : Fin cfg.maxMonitoredApps → AppLookup) (i : Fin cfg.maxMonitoredApps) :
    actions i (l ++ (monitorApplications lks s).log) ≤ 1 ∧
      (actions i (l ++ (monitorApplications lks s).log) ≠ 0 → (amt i).Monitored) := by
  have hcall := monitorApplications_done hs lks
  rw [actions_append]
  by_cases hnew : actions i (monitorApplications lks s).log = 0
  · rw [hnew, Nat.add_zero]
    exact ⟨h.once i, fun hne => (h.done i hne).2⟩
  · obtain ⟨-, hexp⟩ := hcall.expires i hnew
    have hold : actions i l = 0 := by
      by_contra hne
      exact hexp.watched.2 (h.done i hne).1
    rw [hold, Nat.zero_add]
    exact ⟨hcall.once i, fun _ => ((h.expires_iff i (lks i)).mp hexp).1⟩

theorem Tracked.call (h : Tracked amt calls l s) (hs : s.amTablePtr = some amt)
    (lks : Fin cfg.maxMonitoredApps → AppLookup)
    (hval : (monitorApplications lks s).val = .ok ()) :
    Tracked amt (calls ++ [lks]) (l ++ (monitorApplications lks s).log)
      (monitorApplications lks s).state := by
  have hcall := monitorApplications_done hs lks
  have hnext (i : Fin cfg.maxMonitoredApps) := hcall.rows () hval i (List.mem_finRange i)
  refine ⟨fun i => ?_, h.kept.monitorApplications hs lks, fun i => (h.call_once hs lks i).1,
    fun i hne => ⟨?_, (h.call_once hs lks i).2 hne⟩⟩
  · rw [hnext, h.row, List.map_append, List.map_singleton, AMTEntry.watch_append]
  · rw [hnext]
    by_cases hnew : actions i (monitorApplications lks s).log = 0
    · rw [actions_append, hnew, Nat.add_zero] at hne
      have hzero := (h.done i hne).1
      rw [AMTEntry.next_idle fun hw => hw.2 hzero]
      exact hzero
    · exact (hcall.expires i hnew).2.next_countdown

theorem SinceRefresh.tracked (h : SinceRefresh amt calls l s) : Tracked amt calls l s := by
  induction h with
  | @refresh s t hs ht =>
    obtain ⟨u, l, hrun, href⟩ := appMonStatusRefresh_apply hs
    rw [hrun] at ht
    have ht' := href.of_watch ht
    refine ⟨fun i => ?_, ht'.kept, fun _ => Nat.zero_le 1, fun _ hne => absurd rfl hne⟩
    rw [AppData.row, ht'.countdown, ht'.last]
    rfl
  | call h lks hs hval ih => exact ih.call hs lks hval
  | @other calls l s h op hop ih =>
    obtain ⟨hwatch, hzero⟩ := hop.eq
    have hl (i : Fin cfg.maxMonitoredApps) : actions i (l ++ (op.run s).log) = actions i l := by
      rw [actions_append, hzero, Nat.add_zero]
    refine ⟨fun i => (row_eq_of_watch hwatch i).trans (ih.row i), ih.kept.of_watch hwatch,
      fun i => ?_, fun i hne => ?_⟩
    · rw [hl]
      exact ih.once i
    · rw [hl] at hne
      rw [row_eq_of_watch hwatch]
      exact ih.done i hne

/-- **The action of a row is performed in a call if and only if the call is the first since
the refresh that ends `CycleCount` calls in a row without progress, or the call does
not get to the row because the action of an earlier row has stopped HS; it is performed
at most once, and never for a row that is not monitored; what a row keeps depends on
its own line and answers only; and an application is restarted with the id that its own
name has in the same call.** -/
theorem appMon_detects (h : SinceRefresh amt calls l s) (hs : s.amTablePtr = some amt)
    (lks : Fin cfg.maxMonitoredApps → AppLookup) :
    let o := monitorApplications lks s
    (∀ i, (actions i o.log ≠ 0 → Detects (amt i) (calls.map (· i) ++ [lks i])) ∧
      (Detects (amt i) (calls.map (· i) ++ [lks i]) → actions i o.log ≠ 0 ∨
        (∃ e, o.val = .error e) ∧ ∃ j < i, actions j o.log ≠ 0)) ∧
    (∀ i, actions i (l ++ o.log) ≤ 1 ∧
      (¬ (amt i).Monitored → actions i (l ++ o.log) = 0)) ∧
    (∀ i, s.row i = (amt i).watch (calls.map (· i)) ∧
      (PackedBits.bit s.appMonEnables i = true ↔
        ((amt i).watch (calls.map (· i))).countdown ≠ 0)) ∧
    ∀ id, Label.call (.restartApp id) ∈ o.log →
      ∃ i, actions i o.log ≠ 0 ∧ (amt i).actionType = amtActAppRestart ∧
        Label.call (.getAppIDByName (amt i).appName) ∈ o.log ∧
        (lks i).appIDByName.status = success ∧ id = (lks i).appIDByName.out := by
  intro o
  have ht := h.tracked
  have hcall := monitorApplications_done hs lks
  refine ⟨fun i => ⟨fun hne => ?_, fun hd => ?_⟩,
    fun i => ⟨(ht.call_once hs lks i).1, fun hn => ?_⟩, fun i => ⟨ht.row i, ?_⟩, hcall.restarts⟩
  · exact (ht.expires_iff i (lks i)).mp (hcall.expires i hne).2
  · exact hcall.acts i (List.mem_finRange i) ((ht.expires_iff i (lks i)).mpr hd)
  · by_contra hne
    exact hn ((ht.call_once hs lks i).2 hne)
  · rw [ht.kept.bit, ← ht.row]
    rfl

/-- An application that is not there. -/
def noApp : Fin (Config.small).maxMonitoredApps → AppLookup :=
  fun _ => ⟨⟨-1, 0, true⟩, ⟨success, 0, true⟩, success, true⟩

/-- The state after the table `oneApp` has been acquired. -/
def watchingOneApp : AppData .small := (acquirePointers oneApp (initialData .small)).state

theorem appMon_detects_twice :
    let i : Fin (Config.small).maxMonitoredApps := ⟨0, by decide⟩
    let t := (monitorApplications noApp watchingOneApp).state
    actions i (monitorApplications noApp t).log = 1 ∧
      Detects (oneApp.amt.table i) [noApp i, noApp i] := by
  have h₀ : SinceRefresh oneApp.amt.table [] [] watchingOneApp := .acquirePointers _ rfl
  have h₁ := h₀.call noApp rfl rfl
  have hone : @actions .small ⟨0, by decide⟩
      (monitorApplications noApp (monitorApplications noApp watchingOneApp).state).log = 1 := rfl
  exact ⟨hone, ((appMon_detects h₁ rfl noApp).1 ⟨0, by decide⟩).1 (by rw [hone]; decide)⟩

end HealthSafety
