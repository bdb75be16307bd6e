import HealthSafety.Step.MonitorEvent
import HealthSafety.System.Completion
import HealthSafety.System.Detection

/-!
# An application that hangs

The way from an application that makes no progress to a processor reset goes through every
part of HS: the application monitor counts down and enters the action switch, the reset
action spends one of the resets that are left and calls `CFE_ES_ResetCFE`, and should the
call return, `HS_ProcessMain` services the watchdog no more.

`Watching` follows the monitor through whole passes of the main loop that get the tables of
both monitors (`Updates`), whatever events arrive in them, and whatever commands but those
that enable or disable the application monitor (`passes_watching`).  If the application of a
row with a reset action has made no progress in its last `CycleCount` passes, the processor
has been reset, or the reset was refused and reported, or `CFE_ES_ResetCFE` was called and
returned, and the watchdog is never serviced again (`hung_app_is_reset`).
-/

namespace HealthSafety

open Lib Timeout

variable {cfg : Config} {s t : AppData cfg} {l : List (Label cfg)} {amt : AMT cfg}
  {lks : Fin cfg.maxMonitoredApps → AppLookup} {i : Fin cfg.maxMonitoredApps}
  {calls : List (Fin cfg.maxMonitoredApps → AppLookup)}

/-! ### The reset action -/

/-- A processor reset was asked for: `CFE_ES_ResetCFE` was called, or the limit of the
resets reported. -/
def ResetAsked (l : List (Label cfg)) : Prop :=
  resets l ≠ 0 ∨ Label.call (.sendEvent .resetLimitErr .error []) ∈ l

theorem ResetAsked.append_left (h : ResetAsked l) (l' : List (Label cfg)) :
    ResetAsked (l ++ l') := by
  refine h.imp (fun hne => ?_) (List.mem_append_left l')
  rw [resets_append]
  omega

theorem ResetAsked.append_right {l' : List (Label cfg)} (l : List (Label cfg))
    (h : ResetAsked l') : ResetAsked (l ++ l') := by
  refine h.imp (fun hne => ?_) (List.mem_append_right l)
  rw [resets_append]
  omega

theorem ResetAsked.cons (x : Label cfg) (h : ResetAsked l) : ResetAsked (x :: l) :=
  h.append_right [x]

theorem procReset_asks (returns : Bool) (s : AppData cfg) : ResetAsked (procReset returns s).log := by
  by_cases h : s.cdsData.resetsPerformed < s.cdsData.maxResets
  · refine .inl ?_
    rw [procReset_of_lt h, resets_resetLog]
    decide
  · refine .inr ?_
    rw [procReset_of_not_lt h]
    exact List.mem_singleton_self _

theorem appMonAction_asks {row : AMTEntry} (hact : row.actionType = amtActProcReset)
    (i : Fin cfg.maxMonitoredApps) (lk : AppLookup) (status : Status) (appId : UInt32)
    (s : AppData cfg) : ResetAsked (appMonAction i row lk status appId s).log := by
  rw [appMonAction, Prog.emit_bind, if_pos hact, Prog.emit_bind]
  exact ((procReset_asks lk.resetReturns s).cons _).cons _

/-- The row whose countdown ends asks for the reset. -/
theorem monitorApp_asks (hs : s.amTablePtr = some amt)
    (hact : (amt i).actionType = amtActProcReset) (hexp : (amt i).Expires (s.row i) (lks i))
    (v : AppMonVars) : ResetAsked (monitorApp lks v i s).log := by
  obtain ⟨l, -, -, -, hrun⟩ := monitorApp_watched hs hexp.watched lks v
  rw [hrun, countdownApp_expire hexp.2.2 hexp.2.1]
  exact (appMonAction_asks hact _ _ _ _ _).append_right l

/-- A call that enters the action switch of the row asks for the reset. -/
theorem monitorApplications_asks (hs : s.amTablePtr = some amt)
    (hact : (amt i).actionType = amtActProcReset)
    (hne : actions i (monitorApplications lks s).log ≠ 0) :
    ResetAsked (monitorApplications lks s).log := by
  let R (s : AppData cfg) (l : List (Label cfg)) (t : AppData cfg) : Prop :=
    s.amTablePtr = some amt → t.amTablePtr = some amt ∧ (actions i l ≠ 0 → ResetAsked l)
  have hR : Law R := by
    refine ⟨fun s hs => ⟨hs, fun h => absurd rfl h⟩, fun {s t u l l'} hst htu hs => ?_⟩
    obtain ⟨ht, hl⟩ := hst hs
    obtain ⟨hu, hl'⟩ := htu ht
    refine ⟨hu, fun hne => ?_⟩
    rw [actions_append] at hne
    by_cases h : actions i l = 0
    · exact (hl' (by omega)).append_right l
    · exact (hl h).append_left l'
  have hrow (j : Fin cfg.maxMonitoredApps) (v : AppMonVars) (s : AppData cfg) :
      Moves R (monitorApp lks v j) s := by
    intro hs
    refine ⟨(congrArg TableView.amt (monitorApp_does lks v j s).tables_eq).trans hs, fun hne => ?_⟩
    obtain ⟨rfl, hexp⟩ := (monitorApp_rowDone hs lks v j).of_actions_ne hne
    exact monitorApp_asks hs hact hexp v
  exact (Moves.bind hR (Moves.fold hR _ (fun j _ => hrow j) _ s)
    (fun _ _ => Moves.pure hR () _) hs).2 hne

/-! ### Since the refresh -/

/-- The action of the row has been performed once its countdown is over. -/
theorem SinceRefresh.acted (h : SinceRefresh amt calls l s) (hm : (amt i).Monitored)
    (hzero : (s.row i).countdown = 0) : actions i l ≠ 0 := by
  induction h with
  | refresh hs ht =>
    have hrow := (SinceRefresh.refresh hs ht).tracked.row i
    rw [hrow] at hzero
    exact absurd hzero (AMTEntry.start_ne_zero_iff.mpr hm)
  | @call calls l s h lks hs hval ih =>
    have ht := h.tracked
    have hcall := monitorApplications_done hs lks
    by_cases h0 : (s.row i).countdown = 0
    · exact actions_append_ne_left (ih h0) _
    refine actions_append_ne_right l ?_
    have hkept (hne : (s.row i).countdown ≠ 0) :
        (amt i).actionType ≠ amtActNoact ∧ (s.row i).countdown ≤ (amt i).cycleCount := by
      obtain ⟨a, ha, hfit⟩ := ht.kept.row i hne
      cases ha
      exact hfit
    have hexp : (amt i).Expires (s.row i) (lks i) := by
      by_contra hn
      have hne := ((amt i).next_countdown (lks i) hkept).1.mpr ⟨h0, hn⟩
      rw [← hcall.rows () hval i (List.mem_finRange i)] at hne
      exact hne hzero
    refine (hcall.acts i (List.mem_finRange i) hexp).resolve_right ?_
    rintro ⟨⟨e, he⟩, -⟩
    rw [hval] at he
    cases he
  | other h op hop ih =>
    rw [row_eq_of_watch hop.eq.1] at hzero
    exact actions_append_ne_left (ih hzero) _

/-- If the action of the row is a reset, it has been asked for as soon as the action has been
performed. -/
theorem SinceRefresh.asks (h : SinceRefresh amt calls l s)
    (hact : (amt i).actionType = amtActProcReset) (hne : actions i l ≠ 0) : ResetAsked l := by
  induction h with
  | refresh => exact absurd rfl hne
  | @call calls l s h lks hs hval ih =>
    by_cases hold : actions i l = 0
    · rw [actions_append, hold, Nat.zero_add] at hne
      exact (monitorApplications_asks hs hact hne).append_right l
    · exact (ih hold).append_left _
  | other h op hop ih =>
    rw [actions_append, hop.eq.2, Nat.add_zero] at hne
    exact (ih hne).append_left _

/-- A call to `CFE_ES_ResetCFE` leaves the flag cleared. -/
theorem SinceRefresh.flag (h : SinceRefresh amt calls l s) (hs : FlagSet s) : resets l = 0 := by
  induction h with
  | refresh => rfl
  | call h lks hptr hval ih =>
    obtain ⟨hold, hnew⟩ := ((monitorApplications_does lks _).flag (by decide)).mp hs
    rw [resets_append, ih hold, hnew]
  | other h op hop ih =>
    have hinit : op.isInit = false := by
      cases op with
      | appInit => exact hop.elim
      | _ => rfl
    obtain ⟨hold, hnew⟩ :=
      ((op.does _).flag fun k hk => (op.kinds_ne_cds hinit k hk).2).mp hs
    rw [resets_append, ih hold, hnew]

/-! ### Whole passes -/

/-- The application monitor is on and follows the table `amt`. -/
structure Watching (amt : AMT cfg) (calls : List (Fin cfg.maxMonitoredApps → AppLookup))
    (l : List (Label cfg)) (s : AppData cfg) : Prop where
  since : SinceRefresh amt calls l s
  on : s.currentAppMonState = .enabled
  ptr : s.amTablePtr = some amt

/-- If `m` returns, the application monitor goes on, and has made the calls `new`. -/
def Carries {α : Type} (amt : AMT cfg) (new : List (Fin cfg.maxMonitoredApps → AppLookup))
    (m : HsM cfg α) : Prop :=
  ∀ calls l s a, Watching amt calls l s → (m s).val = .ok a →
    Watching amt (calls ++ new) (l ++ (m s).log) (m s).state

namespace Carries

variable {α β ι : Type} {new new' : List (Fin cfg.maxMonitoredApps → AppLookup)}

theorem pure (a : α) : Carries amt [] (pure a : HsM cfg α) := by
  intro calls l s b h _
  rw [List.append_nil, Prog.pure_apply, List.append_nil]
  exact h

theorem bind {m : HsM cfg α} {f : α → HsM cfg β} (hm : Carries amt new m)
    (hf : ∀ a, Carries amt new' (f a)) : Carries amt (new ++ new') (m >>= f) := by
  intro calls l s b h hval
  rcases hrun : m s with ⟨e | a, t, l'⟩
  · rw [Prog.bind_error hrun] at hval
    cases hval
  · have ht := hm calls l s a h (by rw [hrun])
    rw [hrun] at ht
    rw [Prog.bind_ok hrun] at hval ⊢
    have hu := hf a _ _ t b ht hval
    rwa [List.append_assoc, List.append_assoc] at hu

/-- A first part without a call. -/
theorem bind_nil {m : HsM cfg α} {f : α → HsM cfg β} (hm : Carries amt [] m)
    (hf : ∀ a, Carries amt new (f a)) : Carries amt new (m >>= f) := hm.bind hf

/-- A last part without a call. -/
theorem bind_last {m : HsM cfg α} {f : α → HsM cfg β} (hm : Carries amt new m)
    (hf : ∀ a, Carries amt [] (f a)) : Carries amt new (m >>= f) := by
  have h := hm.bind hf
  rwa [List.append_nil] at h

theorem ite {c : Prop} {_ : Decidable c} {m m' : HsM cfg α} (h : Carries amt new m)
    (h' : Carries amt new m') : Carries amt new (if c then m else m') := by
  split
  · exact h
  · exact h'

theorem get_bind {f : AppData cfg → HsM cfg β} (h : ∀ s, Carries amt new (f s)) :
    Carries amt new (appData >>= f) := by
  intro calls l s b hs hval
  rw [Prog.get_bind] at hval ⊢
  exact h s calls l s b hs hval

theorem each {body : ι → HsM cfg Unit} (xs : List ι) (h : ∀ x ∈ xs, Carries amt [] (body x)) :
    Carries amt [] (Prog.each xs body) := by
  induction xs with
  | nil => exact pure ()
  | cons x xs ih =>
    rw [Prog.each_cons]
    exact bind_nil (h x List.mem_cons_self)
      fun _ => ih fun y hy => h y (List.mem_cons_of_mem x hy)

/-- An operation that leaves the application monitor and its table alone. -/
theorem op (op : Op cfg) (hrows : ∀ s, op.KeepsRows s)
    (hks : ∀ k ∈ op.kinds, k.keepsTables = true ∧ k.keepsAppMonSwitch = true) :
    Carries amt [] op.run := by
  intro calls l s a h _
  have hd := op.does s
  rw [List.append_nil]
  refine ⟨h.since.other op (hrows s), ?_, ?_⟩
  · exact (hd.currentAppMonState_eq fun k hk => (hks k hk).2).trans h.on
  · exact (congrArg TableView.amt (hd.tables_eq fun k hk => (hks k hk).1)).trans h.ptr

theorem checkApplications (lks : Fin cfg.maxMonitoredApps → AppLookup) :
    Carries amt [lks] (checkApplications lks) := by
  intro calls l s a h hval
  have hd := checkApplications_does lks s
  have hon := (hd.currentAppMonState_eq (by decide)).trans h.on
  have hptr := (congrArg TableView.amt (hd.tables_eq (by decide))).trans h.ptr
  have hrun := checkApplications_enabled h.on lks
  rw [hrun] at hval hon hptr ⊢
  exact ⟨h.since.call lks h.ptr hval, hon, hptr⟩

end Carries

/-- No command of the pass enables or disables the application monitor: disabling switches it
off, and enabling starts its countdowns anew. -/
def LeavesAppMon (c : CycleIn cfg) : Prop :=
  ∀ msg r, (some msg, r) ∈ c.cmds →
    accepted cfg msg ≠ some .enableAppMon ∧ accepted cfg msg ≠ some .disableAppMon

theorem appPipe_carries {msg : CmdMsg} (h₁ : accepted cfg msg ≠ some .enableAppMon)
    (h₂ : accepted cfg msg ≠ some .disableAppMon) (r : CmdReplies cfg) :
    Carries amt [] (appPipe msg r) := by
  refine Carries.op (.appPipe msg r) (fun _ => h₁) ?_
  refine forall_mem_cmdKinds (by decide) (by decide) fun hd hacc => ?_
  cases hd with
  | enableAppMon => exact absurd hacc h₁
  | disableAppMon => exact absurd hacc h₂
  | _ => decide

theorem processCommands_carries {c : CycleIn cfg} (hc : LeavesAppMon c) :
    Carries amt [] (processCommands c) := by
  have hevents : Carries amt [] (drainEvents c) := by
    refine .get_bind fun s => .ite (.bind_nil (.each _ fun e _ => ?_) fun _ => .pure _)
      (.pure _)
    obtain ⟨_ | ev, lks⟩ := e
    · exact .pure ()
    · exact Carries.op (.receiveEvent ev lks) (fun _ => trivial)
        (by simp only [Op.kinds]; decide)
  have hcmds : Carries amt [] (drainCommands c) := by
    refine .bind_nil (.each _ fun m hm => ?_) fun _ => .pure _
    obtain ⟨_ | msg, r⟩ := m
    · exact .pure ()
    · exact appPipe_carries (hc msg r hm).1 (hc msg r hm).2 r
  exact .bind_nil hevents fun _ => .ite (.bind_nil hcmds fun _ => .pure _) (.pure _)

/-- Behind the table acquisition, a pass makes one call of the application monitor. -/
theorem passRest_carries {c : CycleIn cfg} (hc : LeavesAppMon c) :
    Carries amt [c.apps] (passRest c) := by
  refine .bind_nil (.op .decrementCooldowns (fun _ => trivial)
    (by simp only [Op.kinds]; decide)) fun _ => ?_
  refine .bind_nil (.op (.checkUtilization c.utilization) (fun _ => trivial)
    (by simp only [Op.kinds]; decide)) fun _ => ?_
  refine .bind_last (.checkApplications c.apps) fun _ => ?_
  refine .bind_nil (.op .outputAliveness (fun _ => trivial)
    (by simp only [Op.kinds]; decide)) fun _ => ?_
  refine .bind_nil (processCommands_carries hc) fun _ => ?_
  exact .bind_nil (.op .serviceWatchdog (fun _ => trivial)
    (by simp only [Op.kinds]; decide)) fun _ => .pure _

/-- The pass gets the tables of both monitors, the application monitor table being `amt` and
not updated, and leaves the application monitor switched on. -/
structure Steady (amt : AMT cfg) (c : CycleIn cfg) : Prop where
  loaded : success ≤ c.acquire.amt.status
  current : c.acquire.amt.status ≠ cfg.tblInfoUpdated
  table : c.acquire.amt.table = amt
  events : success ≤ c.acquire.emt.status
  cmds : LeavesAppMon c

theorem Steady.carries {c : CycleIn cfg} (hc : Steady amt c) :
    Carries amt [c.apps] (processMain c) := by
  refine .bind_nil (fun calls l s a h _ => ?_) fun _ => passRest_carries hc.cmds
  obtain ⟨t, l', hrun, htab, hsw, -⟩ := acquirePointers_apply c.acquire s
  have hsince := h.since.other (.acquirePointers c.acquire) hc.current
  simp only [Op.run, hrun] at hsince
  rw [List.append_nil, hrun]
  refine ⟨hsince, ?_, ?_⟩
  · rw [hsw, keepSwitch, if_neg (Int.not_lt.mpr hc.loaded)]
    exact h.on
  · rw [← hc.table]
    exact amTablePtr_of_acquired htab hc.loaded

/-- Passes of the main loop, one after another. -/
def passes (cs : List (CycleIn cfg)) : HsM cfg Unit :=
  Prog.each cs fun c => processMain c >>= fun _ => pure ()

theorem passes_carries {cs : List (CycleIn cfg)} (hcs : ∀ c ∈ cs, Steady amt c) :
    Carries amt (cs.map (·.apps)) (passes cs) := by
  induction cs with
  | nil => exact .pure ()
  | cons c cs ih =>
    have hpass : Carries amt [c.apps] (processMain c >>= fun _ => pure ()) :=
      .bind_last (hcs c List.mem_cons_self).carries fun _ => .pure ()
    exact .bind hpass fun _ => ih fun d hd => hcs d (List.mem_cons_of_mem c hd)

/-- With the tables of both monitors the passes are completed, unless the processor is reset. -/
theorem Indexed.passes_end {cs : List (CycleIn cfg)} (hcs : ∀ c ∈ cs,
    success ≤ c.acquire.amt.status ∧ success ≤ c.acquire.emt.status) :
    ∀ {s : AppData cfg}, Indexed s →
      (passes cs s).val = .ok () ∨ (passes cs s).val = .error .reboot := by
  induction cs with
  | nil => exact fun _ => .inl rfl
  | cons c cs ih =>
    intro s hs
    obtain ⟨hamt, hemt⟩ := hcs c List.mem_cons_self
    have hnext : Indexed (processMain c s).state := processMain_keepsIndexed c s hs
    rw [passes, Prog.each_cons, Prog.bind_assoc']
    rcases hs.pass_completes hamt hemt with ⟨status, hval⟩ | ⟨hval, -⟩
    · rw [Prog.bind_val hval, Prog.pure_bind']
      exact ih (fun d hd => hcs d (List.mem_cons_of_mem c hd)) hnext
    · rcases hrun : processMain c s with ⟨e | a, t, l⟩
      · rw [hrun] at hval
        cases hval
        rw [Prog.bind_error hrun]
        exact .inr rfl
      · rw [hrun] at hval
        cases hval

/-! ### The way to the reset -/

/-- The application has made no progress in its last `CycleCount` lookups. -/
def Hung (row : AMTEntry) (hist : List AppLookup) : Prop :=
  Silent (NoProgress hist) row.cycleCount.toNat hist.length

theorem SinceRefresh.hung_asks (h : SinceRefresh amt calls l s)
    (hact : (amt i).actionType = amtActProcReset) (hcycle : (amt i).cycleCount ≠ 0)
    (hhung : Hung (amt i) (calls.map (· i))) : ResetAsked l := by
  have hm : (amt i).Monitored := by
    rintro (hzero | hnoact)
    · exact hcycle hzero
    · rw [hact] at hnoact
      exact absurd hnoact (by decide)
  have hpos : 0 < (amt i).cycleCount.toNat := by
    refine Nat.pos_of_ne_zero fun hz => hcycle ?_
    exact UInt16.toNat_inj.mp hz
  have htimer := (AMTEntry.watch_timer hm (calls.map (· i))).1
  have hzero : timer (NoProgress (calls.map (· i))) (amt i).cycleCount.toNat
      (calls.map (· i)).length = 0 :=
    (timer_eq_zero_iff hpos _).mpr ⟨_, Nat.le_refl _, hhung⟩
  rw [hzero] at htimer
  refine h.asks hact (h.acted hm ?_)
  rw [h.tracked.row]
  exact UInt16.toNat_inj.mp htimer

/-- Once the flag is cleared, no pass services the watchdog. -/
theorem services_of_not_flagSet {ls : List (List (Label cfg))} (h : Passes s ls t)
    (hs : ¬ FlagSet s) : ∀ l ∈ ls, services l = 0 := by
  intro l hl
  obtain ⟨before, after, hls⟩ := List.append_of_mem hl
  have hone : resets ([.call (.resetCFE .disabled)] : List (Label cfg)) = 1 := rfl
  have hserved := h.services hls [.call (.resetCFE .disabled)]
    (iff_of_false hs (by rw [hone]; decide))
  rw [hserved, if_neg]
  rw [resets_append, resets_append, hone]
  omega

/-- The passes `c :: cs` get the tables of both monitors; that of the application monitor is
updated in the first one and not in the others. -/
structure Updates (c : CycleIn cfg) (cs : List (CycleIn cfg)) : Prop where
  updated : c.acquire.amt.status = cfg.tblInfoUpdated
  events : success ≤ c.acquire.emt.status
  cmds : LeavesAppMon c
  steady : ∀ d ∈ cs, Steady c.acquire.amt.table d

theorem Updates.loaded {c : CycleIn cfg} {cs : List (CycleIn cfg)} (h : Updates c cs) :
    success ≤ c.acquire.amt.status := by
  rw [h.updated]
  exact Int.le_of_lt cfg.verified.infoUpdated_pos

/-- The application monitor has been called once in each of the passes since the update. -/
theorem passes_watching {c : CycleIn cfg} {cs : List (CycleIn cfg)} (h : Updates c cs)
    (hon : s.currentAppMonState = .enabled) (hval : (passes (c :: cs) s).val = .ok ()) :
    ∃ l l', (passes (c :: cs) s).log = l ++ l' ∧
      Watching c.acquire.amt.table (c.apps :: cs.map (·.apps)) l' (passes (c :: cs) s).state := by
  obtain ⟨t, l, hacq, hloaded, -⟩ := processMain_apply c s
  obtain ⟨u, l', hrun, htab, hsw, -⟩ := acquirePointers_apply c.acquire s
  have hstart : Watching c.acquire.amt.table [] [] t := by
    have hsince := SinceRefresh.acquirePointers s h.updated
    rw [hacq] at hsince hrun
    cases hrun
    refine ⟨hsince, ?_, ?_⟩
    · rw [hsw, keepSwitch, if_neg (Int.not_lt.mpr h.loaded)]
      exact hon
    · exact amTablePtr_of_acquired htab h.loaded
  have hbody : Carries c.acquire.amt.table (c.apps :: cs.map (·.apps))
      ((passRest c >>= fun _ => pure ()) >>= fun _ => passes cs) :=
    .bind (.bind_last (passRest_carries h.cmds) fun _ => .pure ())
      fun _ => passes_carries h.steady
  have heq : passes (c :: cs) s = (acquirePointers c.acquire >>= fun _ =>
      (passRest c >>= fun _ => pure ()) >>= fun _ => passes cs) s := by
    simp only [passes, Prog.each_cons, Prog.bind_assoc', processMain, passRest]
  rw [Prog.bind_ok hacq] at heq
  rw [heq] at hval ⊢
  exact ⟨l, _, rfl, hbody [] [] t () hstart hval⟩

/-- **From a pass with an updated table on, if the application of a row with a reset action has
made no progress in its last `CycleCount` passes, then the processor has been reset, or a reset
was refused and reported, or `CFE_ES_ResetCFE` was called and returned, and no later pass
services the watchdog.**  The application monitor is on when the first pass begins, and every
pass gets the tables of both monitors.  The passes may bring any events, and any commands but
those that enable or disable the application monitor. -/
theorem hung_app_is_reset {s₀ : AppData cfg} {l₀ : List (Label cfg)} {ls : List (List (Label cfg))}
    (h₀ : Booted l₀ s₀) (hrun : Passes s₀ ls s) (hon : s.currentAppMonState = .enabled)
    {c : CycleIn cfg} {cs : List (CycleIn cfg)} (h : Updates c cs)
    (hact : (c.acquire.amt.table i).actionType = amtActProcReset)
    (hcycle : (c.acquire.amt.table i).cycleCount ≠ 0)
    (hhung : Hung (c.acquire.amt.table i) ((c :: cs).map fun d => d.apps i)) :
    let o := passes (c :: cs) s
    o.val = .error .reboot ∨ Label.call (.sendEvent .resetLimitErr .error []) ∈ o.log ∨
      o.val = .ok () ∧ resets o.log ≠ 0 ∧
        ∀ ls t, Passes o.state ls t → ∀ l ∈ ls, services l = 0 := by
  intro o
  have hloaded : ∀ d ∈ c :: cs, success ≤ d.acquire.amt.status ∧ success ≤ d.acquire.emt.status := by
    intro d hd
    rcases List.mem_cons.mp hd with rfl | hd
    · exact ⟨h.loaded, h.events⟩
    · exact ⟨(h.steady d hd).loaded, (h.steady d hd).events⟩
  rcases (hrun.indexed h₀.indexed).passes_end hloaded with hval | hval
  · obtain ⟨l, l', hlog, hwatch⟩ := passes_watching h hon hval
    have hhist : (c.apps :: cs.map (·.apps)).map (· i) = (c :: cs).map fun d => d.apps i := by
      rw [List.map_cons, List.map_cons, List.map_map]
      rfl
    rw [← hhist] at hhung
    rcases hwatch.since.hung_asks hact hcycle hhung with hreset | hlimit
    · have hcalled : resets o.log ≠ 0 := by
        rw [show o.log = l ++ l' from hlog, resets_append]
        omega
      refine .inr (.inr ⟨hval, hcalled, fun ls t hpasses =>
        services_of_not_flagSet hpasses fun hflag => ?_⟩)
      exact hreset (hwatch.since.flag hflag)
    · refine .inr (.inl ?_)
      rw [show o.log = l ++ l' from hlog]
      exact List.mem_append_right l hlimit
  · exact .inl hval

/-- Tables with one application to monitor, and a reset after two cycles without progress. -/
def resetOnHang : AcquireIn .small :=
  .ok (fun _ => ⟨[65], 0, 2, amtActProcReset⟩) (fun _ => ⟨[], 0, 0, 0⟩) (fun _ => ⟨0, 0, ⟨0, 0⟩⟩)
    (fun _ => ⟨[], 0, 0⟩)

/-- A pass in which the application is not there and `CFE_ES_ResetCFE` returns. -/
def hangingPass (acquire : AcquireIn .small) : CycleIn .small where
  acquire := acquire
  utilization := ⟨success, 0, true⟩
  apps := noApp
  events := []
  eventsEnd := failed
  cmds := []
  cmdsEnd := failed

/-- The same tables, not updated. -/
def resetOnHangAgain : AcquireIn .small :=
  { resetOnHang with amt := ⟨success, resetOnHang.amt.table⟩ }

def bootedOnHang : AppData .small := (appInit (.ok resetOnHang) (initialData .small)).state

theorem hung_app_is_reset_twoPasses :
    let o := passes [hangingPass resetOnHang, hangingPass resetOnHangAgain] bootedOnHang
    o.val = .ok () ∧ resets o.log ≠ 0 ∧
      services (processMain (hangingPass resetOnHangAgain) o.state).log = 0 := by
  have hboot : Booted _ bootedOnHang := .appInit (.ok resetOnHang) (initialData .small)
  have hupd : Updates (hangingPass resetOnHang) [hangingPass resetOnHangAgain] := by
    refine ⟨rfl, by decide, fun _ _ h => (List.not_mem_nil h).elim, ?_⟩
    refine List.forall_mem_singleton.mpr ⟨by decide, by decide, rfl, by decide, ?_⟩
    exact fun _ _ h => (List.not_mem_nil h).elim
  have hhung : Hung (resetOnHang.amt.table ⟨0, by decide⟩)
      ([hangingPass resetOnHang, hangingPass resetOnHangAgain].map fun d => d.apps ⟨0, by decide⟩) :=
    ⟨by decide, by decide⟩
  rcases hung_app_is_reset hboot (.nil _) rfl hupd rfl (by decide) hhung with
    hval | hlimit | ⟨hval, hcalled, h⟩
  · cases hval
  · exact absurd (mem_sentEvents.mpr ⟨_, hlimit, rfl⟩) (by decide)
  · have hnext : (processMain (hangingPass resetOnHangAgain) (passes [hangingPass resetOnHang,
        hangingPass resetOnHangAgain] bootedOnHang).state).val = .ok success := rfl
    exact ⟨hval, hcalled, h _ _ (.cons _ hnext (.nil _)) _ (List.mem_singleton_self _)⟩

end HealthSafety
