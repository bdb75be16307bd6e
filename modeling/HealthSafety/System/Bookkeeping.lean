import HealthSafety.Step.MonitorApp
import HealthSafety.System.World

/-!
# The books of the application monitor

The application monitor keeps a countdown for each row of its table and, packed
into words, a bit that tells whether the countdown runs.  The refresh, the expiry
of a row and the start of HS write them in different loops.  `Kept` is what holds
of them together: a bit is set if and only if its countdown runs, a countdown
that runs belongs to a row with an action and does not exceed the row's cycle
count, and no bit is set past the last row.

As long as the table changes only when the table services report it, this holds
whenever HS is up, between any two operations (`appMon_books_kept`).
-/

namespace HealthSafety

open Lib

variable {cfg : Config} {s t : AppData cfg} {amt : AMT cfg}

/-- The countdowns and the enable bits fit each other and the table. -/
structure Kept (amt : Option (AMT cfg)) (t : AppData cfg) : Prop where
  bit : ∀ i : Fin cfg.maxMonitoredApps,
    PackedBits.bit t.appMonEnables i = true ↔ t.appMonCheckInCountdown i ≠ 0
  past : ∀ j, cfg.maxMonitoredApps ≤ j → PackedBits.bit t.appMonEnables j = false
  row : ∀ i, t.appMonCheckInCountdown i ≠ 0 → ∃ a, amt = some a ∧
    (a i).actionType ≠ amtActNoact ∧ t.appMonCheckInCountdown i ≤ (a i).cycleCount

theorem Kept.of_watch {a : Option (AMT cfg)} (hw : t.watch = s.watch) (h : Kept a s) :
    Kept a t := by
  have hc : t.appMonCheckInCountdown = s.appMonCheckInCountdown := congrArg WatchView.countdown hw
  have he : t.appMonEnables = s.appMonEnables := congrArg WatchView.enables hw
  refine ⟨?_, ?_, ?_⟩
  · rw [hc, he]
    exact h.bit
  · rw [he]
    exact h.past
  · rw [hc]
    exact h.row

theorem Kept.mono {a b : Option (AMT cfg)} (hab : ∀ x, a = some x → b = some x) (h : Kept a t) :
    Kept b t :=
  ⟨h.bit, h.past, fun i hi => (h.row i hi).imp fun x ⟨hx, hrow⟩ => ⟨hab x hx, hrow⟩⟩

/-- When no countdown runs and no bit is set, nothing has to fit the table. -/
theorem Kept.zero {a : Option (AMT cfg)} (hc : ∀ i, t.appMonCheckInCountdown i = 0)
    (he : t.appMonEnables = fun _ => 0) : Kept a t := by
  have hbit (j : Nat) : PackedBits.bit t.appMonEnables j = false := by
    rw [he]
    exact PackedBits.bit_zero j
  exact ⟨fun i => by simp [hbit, hc], fun j _ => hbit j, fun i hi => absurd (hc i) hi⟩

/-! ### The refresh -/

theorem AMTEntry.start_ne_zero_iff {row : AMTEntry} : row.start ≠ 0 ↔ row.Monitored := by
  unfold AMTEntry.start
  by_cases h : row.Monitored
  · have hne : row.cycleCount ≠ 0 := fun h0 => h (.inl h0)
    simp [h, hne]
  · simp [h]

theorem Refreshed.kept (h : Refreshed amt t) : Kept (some amt) t := by
  refine ⟨fun i => ?_, fun j hj => ?_, fun i hi => ⟨amt, rfl, ?_⟩⟩
  · rw [h.bit, h.countdown, AMTEntry.start_ne_zero_iff]
    constructor
    · rintro ⟨i', hi', hm⟩
      rwa [Fin.ext hi'] at hm
    · intro hm
      exact ⟨i, rfl, hm⟩
  · rw [← Bool.not_eq_true, h.bit]
    rintro ⟨i, rfl, -⟩
    exact absurd i.isLt (Nat.not_lt.mpr hj)
  · rw [h.countdown] at hi ⊢
    have hm := AMTEntry.start_ne_zero_iff.mp hi
    rw [AMTEntry.start, if_pos hm]
    exact ⟨fun hact => hm (.inr hact), UInt16.le_refl _⟩

/-! ### A row of the monitor -/

/-- A row whose countdown runs keeps it running unless it expires. -/
theorem AMTEntry.next_countdown {row : AMTEntry} {r : RowWatch} (lk : AppLookup)
    (h : r.countdown ≠ 0 → row.actionType ≠ amtActNoact ∧ r.countdown ≤ row.cycleCount) :
    ((row.next r lk).countdown ≠ 0 ↔ r.countdown ≠ 0 ∧ ¬ row.Expires r lk) ∧
      (r.countdown ≠ 0 → (row.next r lk).countdown ≤ row.cycleCount) := by
  by_cases h0 : r.countdown = 0
  · have hw : ¬ row.Watched r := fun hw => hw.2 h0
    simp [AMTEntry.next_idle hw, h0]
  obtain ⟨hact, hle⟩ := h h0
  have hw : row.Watched r := ⟨hact, h0⟩
  by_cases hp : lk.Progress r.last
  · have hexp : ¬ row.Expires r lk := fun hexp => hexp.2.2 hp
    have hne : row.cycleCount ≠ 0 := by
      intro hz
      rw [hz, UInt16.le_zero_iff] at hle
      exact h0 hle
    rw [AMTEntry.next_progress hw hp]
    simp [h0, hexp, hne]
  · have hsub : r.countdown - 1 ≠ 0 ↔ r.countdown ≠ 1 := by
      rw [ne_eq, ne_eq, UInt16.sub_eq_iff_eq_add, UInt16.zero_add]
    have hexp : row.Expires r lk ↔ r.countdown = 1 :=
      ⟨fun hexp => hexp.2.1, fun hone => ⟨hact, hone, hp⟩⟩
    rw [AMTEntry.next_wait hw hp]
    refine ⟨by simp [hsub, hexp, h0], fun _ => ?_⟩
    have hpos : (1 : UInt16) ≤ r.countdown := by
      rw [UInt16.le_iff_toNat_le]
      have : r.countdown.toNat ≠ 0 := fun hz => h0 (UInt16.toNat_inj.mp hz)
      exact Nat.one_le_iff_ne_zero.mpr this
    rw [UInt16.le_iff_toNat_le, UInt16.toNat_sub_of_le _ _ hpos]
    rw [UInt16.le_iff_toNat_le] at hle
    omega

theorem Kept.monitorApp (hs : s.amTablePtr = some amt) (h : Kept (some amt) s)
    (lks : Fin cfg.maxMonitoredApps → AppLookup) (v : AppMonVars) (i : Fin cfg.maxMonitoredApps) :
    Kept (some amt) (monitorApp lks v i s).state := by
  have hd := monitorApp_rowDone hs lks v i
  have hrow (j : Fin cfg.maxMonitoredApps) (hj : s.appMonCheckInCountdown j ≠ 0) :
      (amt j).actionType ≠ amtActNoact ∧ s.appMonCheckInCountdown j ≤ (amt j).cycleCount := by
    obtain ⟨a, ha, hfit⟩ := h.row j hj
    cases ha
    exact hfit
  obtain ⟨hne, hle⟩ := AMTEntry.next_countdown (lks i) (r := s.row i) (hrow i)
  have hi : (HealthSafety.monitorApp lks v i s).state.appMonCheckInCountdown i =
      ((amt i).next (s.row i) (lks i)).countdown := congrArg RowWatch.countdown hd.row
  have hothers (j : Fin cfg.maxMonitoredApps) (hj : j ≠ i) :
      (HealthSafety.monitorApp lks v i s).state.appMonCheckInCountdown j =
        s.appMonCheckInCountdown j := congrArg RowWatch.countdown (hd.others j hj)
  have hbit (j : Nat) : PackedBits.bit (HealthSafety.monitorApp lks v i s).state.appMonEnables j =
      (!decide (j = i ∧ (amt i).Expires (s.row i) (lks i)) && PackedBits.bit s.appMonEnables j) := by
    rw [hd.enables]
    by_cases hexp : (amt i).Expires (s.row i) (lks i)
    · rw [if_pos hexp, clearEnable_eq, PackedBits.bit_clear (by decide)]
      simp [hexp]
    · simp [hexp]
  refine ⟨fun j => ?_, fun j hj => ?_, fun j hj => ⟨amt, rfl, ?_⟩⟩
  · rw [hbit, Bool.and_eq_true, h.bit]
    by_cases hji : j = i
    · subst hji
      rw [hi, hne]
      simp [AppData.row, and_comm]
    · have : j.val ≠ i.val := fun h => hji (Fin.ext h)
      rw [hothers j hji]
      simp [this]
  · rw [hbit, h.past j hj, Bool.and_false]
  · by_cases hji : j = i
    · subst hji
      rw [hi] at hj ⊢
      have h0 := (hne.mp hj).1
      exact ⟨(hrow j h0).1, hle h0⟩
    · rw [hothers j hji] at hj ⊢
      exact hrow j hj

theorem Kept.monitorApplications (hs : s.amTablePtr = some amt) (h : Kept (some amt) s)
    (lks : Fin cfg.maxMonitoredApps → AppLookup) :
    Kept (some amt) (monitorApplications lks s).state := by
  let R (s : AppData cfg) (_ : List (Label cfg)) (t : AppData cfg) : Prop :=
    s.amTablePtr = some amt → Kept (some amt) s → t.amTablePtr = some amt ∧ Kept (some amt) t
  have hR : Law R := ⟨fun _ h₁ h₂ => ⟨h₁, h₂⟩, fun hst htu h₁ h₂ =>
    have ⟨h₁, h₂⟩ := hst h₁ h₂
    htu h₁ h₂⟩
  have hrow (i : Fin cfg.maxMonitoredApps) (v : AppMonVars) (s : AppData cfg) :
      Moves R (HealthSafety.monitorApp lks v i) s := fun h₁ h₂ =>
    ⟨(congrArg TableView.amt (monitorApp_does lks v i s).tables_eq).trans h₁,
      h₂.monitorApp h₁ lks v i⟩
  exact (Moves.bind hR (Moves.fold hR _ (fun i _ => hrow i) _ s)
    (fun _ _ => Moves.pure hR () _) hs h).2

/-! ### The operations -/

/-- The table changes only when the table services report an update. -/
def AmtStable (w : World cfg) : Op cfg → Prop
  | .acquirePointers r => success ≤ r.amt.status → r.amt.status ≠ cfg.tblInfoUpdated →
      ∀ a, w.amt = some a → r.amt.table = a
  | _ => True

/-- The books are kept against the table that HS last got. -/
structure BooksKept (w : World cfg) : Prop where
  ptr : (w.app.amTablePtr <|> w.amt) = w.amt
  kept : Kept w.amt w.app

variable {w w' : World cfg} {op : Op cfg}

theorem BooksKept.amt_eq (h : BooksKept w) (hs : w.app.amTablePtr = some amt) :
    w.amt = some amt := by
  rw [← h.ptr, hs]
  rfl

/-- An operation that leaves the table where it is. -/
theorem BooksKept.of_kept (h : BooksKept w) (hop : op.isInit = false)
    (hptr : (op.run w.app).state.amTablePtr = w.app.amTablePtr)
    (hk : Kept w.amt (op.run w.app).state) : BooksKept (w.after op) := by
  have hamt : (w.after op).amt = w.amt := by
    show ((op.run w.app).state.amTablePtr <|> if op.isInit = true then none else w.amt) = _
    rw [hptr, hop]
    exact h.ptr
  refine ⟨?_, hamt ▸ hk⟩
  show ((op.run w.app).state.amTablePtr <|> (w.after op).amt) = (w.after op).amt
  rw [hamt, hptr, h.ptr]

/-- An operation that leaves the table and the rows alone. -/
theorem BooksKept.of_watch (h : BooksKept w) (hop : op.isInit = false)
    (hks : ∀ k ∈ op.kinds, k.keepsTables = true ∧ k.keepsWatch = true) :
    BooksKept (w.after op) := by
  have hd := op.does w.app
  have htab := hd.tables_eq fun k hk => (hks k hk).1
  have hwatch := hd.watch_eq fun k hk => (hks k hk).2
  exact h.of_kept hop (congrArg TableView.amt htab) (h.kept.of_watch hwatch)

theorem BooksKept.acquirePointers {r : AcquireIn cfg} (h : BooksKept w)
    (hstable : AmtStable w (.acquirePointers r)) : BooksKept (w.after (.acquirePointers r)) := by
  have hptr : (HealthSafety.acquirePointers r w.app).state.amTablePtr = r.amt.ptr :=
    congrArg TableView.amt (acquirePointers_tables r w.app)
  obtain ⟨hupd, hkeep⟩ := acquirePointers_watch r w.app
  have hamt : (w.after (.acquirePointers r)).amt = (r.amt.ptr <|> w.amt) := by
    show ((HealthSafety.acquirePointers r w.app).state.amTablePtr <|> _) = _
    rw [hptr]
    rfl
  refine ⟨?_, ?_⟩
  · show ((HealthSafety.acquirePointers r w.app).state.amTablePtr <|> _) = _
    rw [hptr, hamt]
    cases r.amt.ptr <;> rfl
  rw [hamt]
  by_cases hneg : r.amt.status < success
  · rw [TblReply.ptr_eq_none.mpr hneg]
    exact h.kept.of_watch (hkeep (ne_infoUpdated hneg))
  · have hsome : r.amt.ptr = some r.amt.table :=
      TblReply.ptr_eq_some.mpr ⟨Int.not_lt.mp hneg, rfl⟩
    rw [hsome]
    by_cases hst : r.amt.status = cfg.tblInfoUpdated
    · exact (hupd hst).kept
    · refine (h.kept.mono fun a ha => ?_).of_watch (hkeep hst)
      rw [← hstable (Int.not_lt.mp hneg) hst a ha]
      rfl

theorem monitorApplications_null (hs : s.amTablePtr = none)
    (lks : Fin cfg.maxMonitoredApps → AppLookup) :
    monitorApplications lks s = ⟨.error (.nullRead .amt .monitorApplications), s,
      [.mark (.nullRead .amt .monitorApplications)]⟩ := by
  obtain ⟨i, is, his⟩ := finRange_apps cfg
  have hrow : monitorApp lks ⟨0, 0⟩ i s = _ :=
    Prog.bind_error (readAmt_null hs .monitorApplications i)
  have hfold : Prog.fold (monitorApp lks) ⟨0, 0⟩ (i :: is) s = _ := Prog.bind_error hrow
  rw [monitorApplications, his, Prog.bind_error hfold]

theorem BooksKept.checkApplications (h : BooksKept w)
    (lks : Fin cfg.maxMonitoredApps → AppLookup) (hup : (w.after (.checkApplications lks)).up) :
    BooksKept (w.after (.checkApplications lks)) := by
  have hptr := congrArg TableView.amt (checkApplications_does lks w.app).tables_eq
  refine h.of_kept rfl hptr ?_
  show Kept w.amt (HealthSafety.checkApplications lks w.app).state
  by_cases hon : w.app.currentAppMonState = .enabled
  · have hrun := checkApplications_enabled hon lks
    cases hs : w.app.amTablePtr with
    | none =>
      have hval := congrArg Out.val (monitorApplications_null hs lks)
      rw [← hrun] at hval
      simp [World.after, Op.run, hval] at hup
    | some amt =>
      rw [hrun, h.amt_eq hs]
      exact Kept.monitorApplications hs (h.amt_eq hs ▸ h.kept) lks
  · rw [checkApplications_disabled hon]
    exact h.kept

theorem BooksKept.enableAppMon {msg : CmdMsg} {r : CmdReplies cfg} (h : BooksKept w)
    (hacc : accepted cfg msg = some .enableAppMon) (hup : (w.after (.appPipe msg r)).up) :
    BooksKept (w.after (.appPipe msg r)) := by
  have hrun : (Op.appPipe msg r).run = enableAppMonCmd := appPipe_of_accepted hacc r
  have hptr := congrArg TableView.amt (enableAppMonCmd_does w.app).tables_eq
  rw [← hrun] at hptr
  refine h.of_kept rfl hptr ?_
  rw [hrun]
  cases hs : w.app.amTablePtr with
  | none =>
    obtain ⟨t, ht⟩ := enableAppMonCmd_null hs
    simp [World.after, hrun, ht] at hup
  | some amt =>
    rw [h.amt_eq hs]
    exact (enableAppMonCmd_refreshed hs).kept

/-! ### Initialization -/

/-- No countdown runs and no bit is set. -/
def Idle (t : AppData cfg) : Prop :=
  (∀ i, t.appMonCheckInCountdown i = 0) ∧ t.appMonEnables = fun _ => 0

theorem Idle.of_watch (hw : t.watch = s.watch) (h : Idle s) : Idle t := by
  have hc : t.appMonCheckInCountdown = s.appMonCheckInCountdown := congrArg WatchView.countdown hw
  have he : t.appMonEnables = s.appMonEnables := congrArg WatchView.enables hw
  exact ⟨by rw [hc]; exact h.1, by rw [he]; exact h.2⟩

/-- The books are kept against the table HS points to. -/
def KeptHere (t : AppData cfg) : Prop := Kept t.amTablePtr t

theorem Idle.keptHere (h : Idle t) : KeptHere t := Kept.zero h.1 h.2

section

variable {α : Type} {ks : List Kind} {m : HsM cfg α}

theorem Does.logs_idle (h : ∀ s, Does ks m s)
    (hks : ∀ k ∈ ks, k.keepsWatch = true := by decide) :
    Logs Idle (fun _ => True) Idle m :=
  fun s hs => ⟨hs.of_watch ((h s).watch_eq hks), fun _ _ => trivial⟩

theorem Does.logs_keptHere (h : ∀ s, Does ks m s)
    (hks : ∀ k ∈ ks, k.keepsTables = true ∧ k.keepsWatch = true := by decide) :
    Logs KeptHere (fun _ => True) KeptHere m := by
  refine fun s hs => ⟨?_, fun _ _ => trivial⟩
  have hptr := congrArg TableView.amt ((h s).tables_eq fun k hk => (hks k hk).1)
  have hwatch := (h s).watch_eq fun k hk => (hks k hk).2
  show Kept (m s).state.amTablePtr (m s).state
  rw [show (m s).state.amTablePtr = s.amTablePtr from hptr]
  exact hs.of_watch hwatch

theorem call_logs_idle {c : Call cfg} (hc : c.plain = true) :
    Logs Idle (fun _ => True) Idle (call c) := by
  have hd (s : AppData cfg) : Does [.quiet] (call c) s := Does.plain hc
  exact Does.logs_idle hd

theorem attempt_logs_keptHere {c : Call cfg} (hc : c.plain = true) {status : Status} {eid : EventId}
    {rest : HsM cfg Status} (h : Logs Idle (fun _ => True) KeptHere rest) :
    Logs Idle (fun _ => True) KeptHere (attempt c status eid rest) := by
  have hidle (s : AppData cfg) (h : Idle s) : KeptHere s := h.keptHere
  exact Logs.bind hidle (call_logs_idle hc) fun _ =>
    Logs.ite (Logs.bind hidle (call_logs_idle rfl) fun _ => Logs.pure hidle _) h

end

theorem acquirePointers_logs_keptHere (r : AcquireIn cfg) :
    Logs Idle (fun _ => True) KeptHere (acquirePointers r) := by
  refine fun s hs => ⟨?_, fun _ _ => trivial⟩
  obtain ⟨hupd, hkeep⟩ := acquirePointers_watch r s
  by_cases hst : r.amt.status = cfg.tblInfoUpdated
  · have hneg : ¬ r.amt.status < success := fun hneg => ne_infoUpdated hneg hst
    have hptr : (acquirePointers r s).state.amTablePtr = some r.amt.table :=
      amTablePtr_of_acquired (acquirePointers_tables r s) (Int.not_lt.mp hneg)
    show Kept (acquirePointers r s).state.amTablePtr _
    rw [hptr]
    exact (hupd hst).kept
  · exact (hs.of_watch (hkeep hst)).keptHere

theorem interfaceInit_logs_keptHere (i : InitIn cfg) :
    Logs Idle (fun _ => True) KeptHere (interfaceInit i) := by
  have hidle (s : AppData cfg) (h : Idle s) : KeptHere s := h.keptHere
  have hkept (s : AppData cfg) (h : KeptHere s) : KeptHere s := h
  have htables : Logs Idle (fun _ => True) KeptHere (do
      loadTables i.tbl.load
      acquirePointers i.tbl.acquire
      pure success : HsM cfg Status) :=
    Logs.bind hidle (Does.logs_idle (loadTables_does _)) fun _ =>
      Logs.bind hkept (acquirePointers_logs_keptHere _) fun _ => Logs.pure hkept _
  have hquiet {α : Type} {m : HsM cfg α} (h : ∀ s, Does [.quiet] m s) :
      Logs KeptHere (fun _ => True) KeptHere m := Does.logs_keptHere h
  refine Logs.bind hidle (Does.logs_idle (sbInit_does _)) fun _ =>
    Logs.ite (Logs.pure hidle _) (Logs.bind hkept ?_ fun _ =>
      Logs.ite (Logs.pure hkept _) (Logs.bind hkept (hquiet (sysMonInit_does _)) fun _ => ?_))
  · exact attempt_logs_keptHere rfl (attempt_logs_keptHere rfl
      (attempt_logs_keptHere rfl (attempt_logs_keptHere rfl htables)))
  · exact Logs.ite (hquiet fun s => Does.bind (Does.plain rfl) fun _ s => Does.pure _ s)
      (hquiet fun s => Does.bind (Does.plain rfl) fun _ s => Does.pure _ s)

/-- However far `HS_AppInit` gets, the books are kept behind it. -/
theorem appInit_keptHere (i : InitIn cfg) (s : AppData cfg) : KeptHere (appInit i s).state := by
  have hidle : Idle (initialData cfg) := ⟨fun _ => rfl, rfl⟩
  have hrest : Logs Idle (fun _ => True) KeptHere (do
      call .evsRegister
      if i.evsRegister ≠ success then
        call .writeToSysLog
        pure i.evsRegister
      else
        cdsInit i.registerCDS i.restoreFromCDS
        interfaceInit i : HsM cfg Status) := by
    have hkept (s : AppData cfg) (h : Idle s) : KeptHere s := h.keptHere
    refine Logs.bind hkept (call_logs_idle rfl) fun _ => Logs.ite ?_ ?_
    · exact Logs.bind hkept (call_logs_idle rfl) fun _ => Logs.pure hkept _
    · exact Logs.bind hkept (Does.logs_idle (cdsInit_does _ _)) fun _ =>
        interfaceInit_logs_keptHere i
  rw [appInit, Prog.emit_bind, Prog.modify_bind]
  exact (hrest _ hidle).1

theorem appInit_booksKept (w : World cfg) (i : InitIn cfg) :
    BooksKept (w.after (.appInit i)) := by
  have hkept : KeptHere ((Op.appInit i).run w.app).state := by
    rw [Op.run, Prog.discard_apply]
    exact appInit_keptHere i w.app
  have hamt : (w.after (.appInit i)).amt = ((Op.appInit i).run w.app).state.amTablePtr := by
    show (_ <|> (none : Option (AMT cfg))) = _
    cases ((Op.appInit i).run w.app).state.amTablePtr <;> rfl
  refine ⟨?_, ?_⟩
  · rw [hamt]
    show (((Op.appInit i).run w.app).state.amTablePtr <|>
      ((Op.appInit i).run w.app).state.amTablePtr) = _
    cases ((Op.appInit i).run w.app).state.amTablePtr <;> rfl
  · rw [hamt]
    exact hkept

/-! ### Runs -/

/-- **Every operation that HS completes keeps the books.** -/
theorem booksKept_after (hop : op.isInit = true ∨ BooksKept w) (hstable : AmtStable w op)
    (hup : (w.after op).up = true) : BooksKept (w.after op) := by
  cases op with
  | appInit i => exact appInit_booksKept w i
  | acquirePointers r => exact (hop.resolve_left (by simp [Op.isInit])).acquirePointers hstable
  | checkApplications lks =>
    exact (hop.resolve_left (by simp [Op.isInit])).checkApplications lks hup
  | appPipe msg r =>
    have h : BooksKept w := hop.resolve_left (by simp [Op.isInit])
    by_cases hacc : accepted cfg msg = some .enableAppMon
    · exact h.enableAppMon hacc hup
    · refine h.of_watch rfl (forall_mem_cmdKinds (by decide) (by decide) fun hd hacc' => ?_)
      cases hd with
      | enableAppMon => exact absurd hacc' hacc
      | _ => decide
  | _ =>
    refine (hop.resolve_left (by simp [Op.isInit])).of_watch rfl ?_
    simp only [Op.kinds]
    decide

/-- **Whenever HS is up, between any two operations, the books of the application monitor
are kept.**  The run may contain any operations in any order, as long as the table
changes only with an update; it starts with `HS_AppInit`. -/
theorem appMon_books_kept {l : List (Label cfg)} (hw : w.up = false)
    (h : World.Run AmtStable w l w') (hup : w'.up = true) :
    (∀ i : Fin cfg.maxMonitoredApps,
      ((w'.app.appMonEnables ⟨i / 32, cfg.enableWord_lt i⟩).getLsbD (i % 32) = true ↔
        w'.app.appMonCheckInCountdown i ≠ 0) ∧
      (w'.app.appMonCheckInCountdown i ≠ 0 → ∃ amt, w'.amt = some amt ∧
        (amt i).actionType ≠ amtActNoact ∧ 0 < w'.app.appMonCheckInCountdown i ∧
          w'.app.appMonCheckInCountdown i ≤ (amt i).cycleCount) ∧
      i / 32 < (cfg.maxMonitoredApps - 1) / 32 + 1) ∧
    ∀ (word : Fin cfg.enableWords) (b : Nat), b < 32 → cfg.maxMonitoredApps ≤ 32 * word + b →
      (w'.app.appMonEnables word).getLsbD b = false := by
  have hinv : w'.up = true → BooksKept w' := by
    refine h.invariant (I := fun w => w.up = true → BooksKept w) (fun w op hop hstable hb hup => ?_)
      (fun hup => by rw [hw] at hup; cases hup)
    exact booksKept_after (hop.imp_right hb) hstable hup
  obtain ⟨-, hbit, hpast, hrow⟩ := hinv hup
  refine ⟨fun i => ⟨?_, fun hi => ?_, cfg.enableWord_lt i⟩, fun word b hb hle => ?_⟩
  · have hi := hbit i
    rwa [PackedBits.bit, dif_pos (cfg.enableWord_lt i)] at hi
  · obtain ⟨amt, hamt, hact, hle⟩ := hrow i hi
    exact ⟨amt, hamt, hact, UInt16.pos_iff_ne_zero.mpr hi, hle⟩
  · have hdiv : (32 * word.val + b) / 32 = word := by omega
    have hmod : (32 * word.val + b) % 32 = b := by omega
    have hlt : (32 * word.val + b) / 32 < cfg.enableWords := by rw [hdiv]; exact word.isLt
    have hword : (⟨(32 * word.val + b) / 32, hlt⟩ : Fin cfg.enableWords) = word := Fin.ext hdiv
    have hp := hpast _ hle
    rwa [PackedBits.bit, dif_pos hlt, hword, hmod] at hp

/-- Tables with one application to monitor. -/
def oneApp : AcquireIn .small :=
  .ok (fun _ => ⟨[65], 0, 2, amtActEvent⟩) (fun _ => ⟨[], 0, 0, 0⟩) (fun _ => ⟨0, 0, ⟨0, 0⟩⟩)
    (fun _ => ⟨[], 0, 0⟩)

theorem appMon_books_kept_oneApp :
    let w := (World.off .small).after (.appInit (.ok oneApp))
    w.app.appMonCheckInCountdown ⟨0, by decide⟩ = 2 ∧
      ((w.app.appMonEnables ⟨0, by decide⟩).getLsbD 0 = true ↔
        w.app.appMonCheckInCountdown ⟨0, by decide⟩ ≠ 0) := by
  intro w
  have hrun : World.Run AmtStable (World.off .small)
      ((Op.appInit (.ok oneApp)).run (initialData .small)).log w := .op (.inl rfl) trivial
  have hbooks := (appMon_books_kept rfl hrun rfl).1 ⟨0, by decide⟩
  exact ⟨rfl, hbooks.1⟩

end HealthSafety
