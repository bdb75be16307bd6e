import HealthSafety.System.Commands

/-!
# Enabling the event monitor

While the event monitor is disabled, HS is meant to be subscribed to no event message.
Of the operations of the main loop only an EnableEventMon command then calls the bus
(`keepsSubscribed_of_off`).  It subscribes to the long and then to the short event
messages, and does not take the first subscription back if the second one fails.

So the command is a transaction, either done or without effect, if and only if it is not
the case that the first call succeeds and the second one fails; and without such a
command HS never gets an event message while the monitor is disabled
(`enableEventMon_atomic_iff`).
-/

namespace HealthSafety

open Lib

variable {cfg : Config} {s : AppData cfg} {w w' : World cfg} {op : Op cfg}

/-- The event monitor is disabled. -/
def EventMonOff (s : AppData cfg) : Prop := s.currentEventMonState = .disabled

/-- HS gets no event message. -/
def Unsubscribed (subscribed : EvsMid → Bool) : Prop := ∀ mid, subscribed mid = false

/-- The operation is an EnableEventMon command. -/
def Op.EnablesEvents : Op cfg → Prop
  | .appPipe msg _ => accepted cfg msg = some .enableEventMon
  | _ => False

/-! ### Only the command calls the bus -/

theorem Unsubscribed.of_keeps {l : List (Label cfg)} {subscribed : EvsMid → Bool}
    (h : Unsubscribed subscribed) (hl : ∀ x ∈ l, x.KeepsSubscribed) :
    Unsubscribed (l.foldl subscribedStep subscribed) := by
  rwa [foldl_fixed hl]

/-- A disabled event monitor has no subscription to take back. -/
theorem acquireEventMon_keepsSubscribed (hs : EventMonOff s) (r : TblReply (EMT cfg))
    (unsubLong unsubShort : Status) :
    ∀ x ∈ (acquireEventMon r unsubLong unsubShort s).log, x.KeepsSubscribed := by
  have hne : s.currentEventMonState ≠ .enabled := by rw [hs]; decide
  rw [acquireEventMon, Prog.bind_ok (getTable_apply _ _ _ s)]
  by_cases hneg : r.status < success
  · rw [if_pos hneg, Prog.get_bind]
    by_cases hl : s.eventMonLoaded = .enabled
    · simp [hl, hne, Label.KeepsSubscribed, subscribedStep]
    · simp [hl, hne, Label.KeepsSubscribed, subscribedStep]
  · rw [if_neg hneg]
    simp [Label.KeepsSubscribed, subscribedStep]

theorem acquirePointers_keepsSubscribed (hs : EventMonOff s) (r : AcquireIn cfg) :
    ∀ x ∈ (acquirePointers r s).log, x.KeepsSubscribed :=
  keepsSubscribed_of_acquireEventMon fun _ ht =>
    acquireEventMon_keepsSubscribed (ht.trans hs) r.emt r.unsubLong r.unsubShort

/-- When the switch already stands at its target, the command only reports it. -/
theorem eventMonCmd_log_of_eq {h : Handler} {target : SwitchState} {eid : EventId}
    (calls : HsM cfg Status) (hs : s.currentEventMonState = target) :
    (eventMonCmd h target calls eid s).log =
      [.mark (.handler h), .call (.sendEvent eid .debug [])] := by
  have hcalls : eventMonCalls target calls s = ⟨.ok success, s, []⟩ := by
    simp [eventMonCalls, hs]
  rw [eventMonCmd_done hcalls]
  rfl

/-- What an operation of the main loop is to a disabled event monitor: unless it is an
EnableEventMon command, it does nothing about it. -/
structure LeavesOff (op : Op cfg) (s : AppData cfg) : Prop where
  off : EventMonOff (op.run s).state
  keepsSubscribed : ∀ x ∈ (op.run s).log, x.KeepsSubscribed

theorem LeavesOff.of_kinds (hs : EventMonOff s)
    (hk : ∀ k ∈ op.kinds, k ≠ .eventMon ∧ k.keepsEventMonSwitch = true) : LeavesOff op s where
  off := ((op.does s).currentEventMonState_eq fun k hm => (hk k hm).2).trans hs
  keepsSubscribed := (op.does s).keepsSubscribed fun k hm => (hk k hm).1

theorem leavesOff (hs : EventMonOff s) (hop : op.InLoop) (hen : ¬ op.EnablesEvents) :
    LeavesOff op s := by
  cases op with
  | appInit | startup => exact hop.elim
  | acquirePointers r =>
    refine ⟨?_, acquirePointers_keepsSubscribed hs r⟩
    show (acquirePointers r s).state.currentEventMonState = .disabled
    rw [acquirePointers_eventMon, keepSwitch, hs]
    exact ite_self _
  | appPipe msg r =>
    by_cases hdis : accepted cfg msg = some .disableEventMon
    · have hrun : (Op.appPipe msg r).run = disableEventMonCmd r.unsubLong r.unsubShort :=
        appPipe_of_accepted hdis r
      refine ⟨?_, ?_⟩
      · rw [hrun]
        exact (eventMonCmd_of_eq _ hs fun _ => false).1
      · rw [hrun, disableEventMonCmd, eventMonCmd_log_of_eq _ hs]
        simp [Label.KeepsSubscribed, subscribedStep]
    · exact .of_kinds hs (appPipe_keepsEventMon hen hdis)
  | _ => exact .of_kinds hs (by simp only [Op.kinds]; decide)

/-! ### The command -/

/-- The answers let the first subscription succeed and the second one fail. -/
def CmdReplies.HalfSubscribe (r : CmdReplies cfg) : Prop :=
  r.subLong = success ∧ r.subShort ≠ success

/-- The event monitor is enabled, with both subscriptions. -/
structure EventMonOn (w : World cfg) : Prop where
  on : w.app.currentEventMonState = .enabled
  subscribed : ∀ mid, w.subscribed mid = true

/-- The command from `w` to `w'` is counted as an error and has changed nothing else about the
event monitor. -/
structure EnableRefused (w w' : World cfg) : Prop where
  counted : w'.app.cmdErrCount = w.app.cmdErrCount + 1
  off : EventMonOff w'.app
  subscribed : w'.subscribed = w.subscribed

/-- The command is a transaction. -/
def EnableAtomic (w w' : World cfg) : Prop := EventMonOn w' ∨ EnableRefused w w'

section

variable {subLong subShort : Status}

/-- The calls of the command on the bus. -/
def enableLog (cfg : Config) (subLong subShort : Status) : List (Label cfg) :=
  bothLog (.subscribeEx .long) (.subscribeEx .short) subLong subShort .eventmonLongSub
    .eventmonShortSub

theorem eventMonCalls_enable (hs : EventMonOff s) (subLong subShort : Status) :
    eventMonCalls .enabled (bothCalls (.subscribeEx .long) (.subscribeEx .short) subLong subShort
        .eventmonLongSub .eventmonShortSub) s =
      ⟨.ok (if subLong = success then subShort else subLong), s,
        enableLog cfg subLong subShort⟩ := by
  have hne : s.currentEventMonState ≠ .enabled := by rw [hs]; decide
  rw [eventMonCalls, Prog.get_bind, if_neg hne, bothCalls_apply]
  rfl

theorem enableEventMonCmd_done (hs : EventMonOff s) (h₁ : subLong = success)
    (h₂ : subShort = success) : enableEventMonCmd subLong subShort s = ⟨.ok (),
      { s with cmdCount := s.cmdCount + 1, currentEventMonState := .enabled },
      .mark (.handler .enableEventMon) :: (enableLog cfg subLong subShort ++
        [.call (.sendEvent .enableEventmonDbg .debug [])])⟩ := by
  have hcalls := eventMonCalls_enable hs subLong subShort
  rw [if_pos h₁, h₂] at hcalls
  rw [h₂]
  exact eventMonCmd_done hcalls _

theorem enableEventMonCmd_refused (hs : EventMonOff s)
    (h : ¬ (subLong = success ∧ subShort = success)) :
    enableEventMonCmd subLong subShort s = ⟨.ok (), { s with cmdErrCount := s.cmdErrCount + 1 },
      .mark (.handler .enableEventMon) :: (enableLog cfg subLong subShort ++ [])⟩ := by
  refine eventMonCmd_refused ?_ (eventMonCalls_enable hs subLong subShort) _
  by_cases h₁ : subLong = success
  · rw [if_pos h₁]
    exact fun h₂ => h ⟨h₁, h₂⟩
  · rwa [if_neg h₁]

end

/-- **From a disabled monitor without subscriptions, the command is a transaction if and only if
its calls do not get half way.** -/
theorem enableAtomic_iff (hs : EventMonOff w.app) (hsub : Unsubscribed w.subscribed)
    {msg : CmdMsg} (hacc : accepted cfg msg = some .enableEventMon) (r : CmdReplies cfg) :
    EnableAtomic w (w.after (.appPipe msg r)) ↔ ¬ r.HalfSubscribe := by
  have hrun : (Op.appPipe msg r).run = enableEventMonCmd r.subLong r.subShort :=
    appPipe_of_accepted hacc r
  have happ : (w.after (.appPipe msg r)).app =
      (enableEventMonCmd r.subLong r.subShort w.app).state := by
    rw [World.after, hrun]
  have hafter : (w.after (.appPipe msg r)).subscribed =
      (enableEventMonCmd r.subLong r.subShort w.app).log.foldl subscribedStep w.subscribed := by
    rw [World.after, hrun]
  by_cases hboth : r.subLong = success ∧ r.subShort = success
  · refine iff_of_true (.inl ⟨?_, fun mid => ?_⟩) fun hhalf => hhalf.2 hboth.2
    · rw [happ, enableEventMonCmd_done hs hboth.1 hboth.2]
    · rw [hafter, enableEventMonCmd_done hs hboth.1 hboth.2]
      cases mid <;> simp [enableLog, bothLog, hboth, subscribedStep, Function.update]
  · rw [enableEventMonCmd_refused hs hboth] at happ hafter
    by_cases h₁ : r.subLong = success
    · have h₂ : r.subShort ≠ success := fun h₂ => hboth ⟨h₁, h₂⟩
      have hlong : (w.after (.appPipe msg r)).subscribed .long = true := by
        rw [hafter]
        simp [enableLog, bothLog, h₁, h₂, subscribedStep]
      refine iff_of_false ?_ fun hnot => hnot ⟨h₁, h₂⟩
      rintro (hon | hrefused)
      · have := hon.on
        rw [happ, hs] at this
        cases this
      · rw [hrefused.subscribed, hsub .long] at hlong
        cases hlong
    · refine iff_of_true (.inr ⟨?_, ?_, ?_⟩) fun hhalf => h₁ hhalf.1
      · rw [happ]
      · rw [happ]
        exact hs
      · rw [hafter]
        simp [enableLog, bothLog, h₁, subscribedStep]

/-! ### The start -/

/-- Behind the label there is no subscription if there was none before it. -/
def Label.AddsNoSubscription (x : Label cfg) : Prop :=
  ∀ subscribed, Unsubscribed subscribed → Unsubscribed (subscribedStep subscribed x)

/-- The program subscribes to no event messages. -/
abbrev AddsNoSubscription {α : Type} (m : HsM cfg α) : Prop :=
  Logs (fun _ => True) (fun x => x.AddsNoSubscription) (fun _ => True) m

theorem Unsubscribed.of_adds {l : List (Label cfg)} (hl : ∀ x ∈ l, x.AddsNoSubscription) :
    ∀ {subscribed : EvsMid → Bool}, Unsubscribed subscribed →
      Unsubscribed (l.foldl subscribedStep subscribed) := by
  induction l with
  | nil => intro subscribed h; exact h
  | cons x l ih =>
    intro subscribed h
    exact ih (fun y hy => hl y (List.mem_cons_of_mem x hy)) (hl x List.mem_cons_self _ h)

namespace AddsNoSubscription

variable {α β : Type}

theorem of_does {m : HsM cfg α} {ks : List Kind} (h : ∀ s, Does ks m s)
    (hks : ∀ k ∈ ks, k ≠ .eventMon) : AddsNoSubscription m := by
  refine fun s _ => ⟨trivial, fun x hx subscribed hsub => ?_⟩
  rw [(h s).keepsSubscribed hks x hx]
  exact hsub

theorem bind {m : HsM cfg α} {f : α → HsM cfg β} (hm : AddsNoSubscription m)
    (hf : ∀ a, AddsNoSubscription (f a)) : AddsNoSubscription (m >>= f) :=
  Logs.bind (fun _ h => h) hm hf

theorem pure (a : α) : AddsNoSubscription (Pure.pure a : HsM cfg α) := Logs.pure (fun _ h => h) a

theorem ite {c : Prop} {_ : Decidable c} {m m' : HsM cfg α} (h : AddsNoSubscription m)
    (h' : AddsNoSubscription m') : AddsNoSubscription (if c then m else m') := Logs.ite h h'

theorem emit {x : Label cfg} (h : x.AddsNoSubscription) :
    AddsNoSubscription (Prog.emit x : HsM cfg Unit) := Logs.emit h

theorem modify (f : AppData cfg → AppData cfg) : AddsNoSubscription (modifyApp f) :=
  Logs.modify fun _ h => h

theorem get_bind {f : AppData cfg → HsM cfg β} (h : ∀ s, AddsNoSubscription (f s)) :
    AddsNoSubscription (appData >>= f) :=
  Logs.get_bind fun s _ t _ => h s t trivial

theorem unsubscribe (mid : EvsMid) (status : Status) :
    AddsNoSubscription (call (.unsubscribe mid status) : HsM cfg Unit) := by
  refine emit fun subscribed hsub mid' => ?_
  by_cases hst : status = success
  · by_cases hmid : mid' = mid
    · simp [subscribedStep, hst, hmid]
    · simp [subscribedStep, hst, hmid, hsub mid']
  · simp [subscribedStep, hst, hsub mid']

theorem acquireEventMon (r : TblReply (EMT cfg)) (unsubLong unsubShort : Status) :
    AddsNoSubscription (acquireEventMon r unsubLong unsubShort) := by
  have hget : AddsNoSubscription (getTable .emt r.status fun d => { d with emTablePtr := r.ptr }) :=
    bind (emit fun _ h => h) fun _ => bind (emit fun _ h => h) fun _ =>
      bind (emit fun _ h => h) fun _ => modify _
  have hdrop : AddsNoSubscription (dropEvents unsubLong unsubShort : HsM cfg Unit) :=
    bind (unsubscribe _ _) fun _ => bind (ite (emit fun _ h => h) (pure ())) fun _ =>
      bind (unsubscribe _ _) fun _ => ite (emit fun _ h => h) (pure ())
  refine bind hget fun _ => ite (get_bind fun s => ite ?_ (pure ())) (modify _)
  exact bind (emit fun _ h => h) fun _ => bind (ite hdrop (pure ())) fun _ => modify _

theorem acquirePointers (r : AcquireIn cfg) : AddsNoSubscription (acquirePointers r) := by
  refine bind (of_does (acquireAppMon_does _) (by decide)) fun _ => ?_
  refine bind (acquireEventMon _ _ _) fun _ => ?_
  refine bind (of_does (acquireMsgActs_does _) (by decide)) fun _ => ?_
  exact of_does (acquireExeCount_does _) (by decide)

theorem loadTable {tbl : TableId} {status : Status} {eid : EventId} {disable : HsM cfg Unit}
    (h : AddsNoSubscription disable) : AddsNoSubscription (loadTable tbl status eid disable) :=
  bind (emit fun _ h => h) fun _ => ite (bind (emit fun _ h => h) fun _ => h) (pure ())

theorem attempt {c : Call cfg} (hc : c.plain = true) {status : Status} {eid : EventId}
    {rest : HsM cfg Status} (h : AddsNoSubscription rest) :
    AddsNoSubscription (attempt c status eid rest) := by
  have hcall (s : AppData cfg) : Does [.quiet] (call c) s := Does.plain hc
  refine bind (of_does hcall (by decide)) fun _ => ?_
  exact ite (bind (emit fun _ h => h) fun _ => pure _) h

theorem tblInit (t : TblIn cfg) : AddsNoSubscription (tblInit t) := by
  have hload : AddsNoSubscription (loadTables t.load : HsM cfg Unit) := by
    refine bind (loadTable (modify _)) fun _ => bind (loadTable ?_) fun _ =>
      bind (loadTable ?_) fun _ => loadTable (modify _)
    · exact bind (modify _) fun _ => bind (emit fun _ h => h) fun _ => modify _
    · exact bind (modify _) fun _ => bind (emit fun _ h => h) fun _ => modify _
  refine attempt rfl (attempt rfl (attempt rfl (attempt rfl ?_)))
  exact bind hload fun _ => bind (acquirePointers _) fun _ => pure _

theorem initRest (i : InitIn cfg) : AddsNoSubscription (initRest i) := by
  refine bind (emit fun _ h => h) fun _ => ite (bind (emit fun _ h => h) fun _ => pure _) ?_
  refine bind (of_does (cdsInit_does _ _) (by decide)) fun _ => ?_
  refine bind (of_does (sbInit_does _) (by decide)) fun _ => ite (pure _) ?_
  refine bind (tblInit _) fun _ => ite (pure _) ?_
  refine bind (of_does (sysMonInit_does _) (by decide)) fun _ => ?_
  exact ite (bind (emit fun _ h => h) fun _ => pure _) (bind (emit fun _ h => h) fun _ => pure _)

end AddsNoSubscription

/-- HS as it enters the main loop after its processor has been started. -/
inductive FreshStart : World cfg → Prop
  | intro (i : InitIn cfg) (j : StartIn) (hi : (appInit i (initialData cfg)).val = .ok success)
      (hj : (startup j ((World.off cfg).after (.appInit i)).app).val = .ok (success, .appRun)) :
      FreshStart (((World.off cfg).after (.appInit i)).after (.startup j))

/-- HS starts without subscriptions if the event monitor is disabled. -/
theorem FreshStart.unsubscribed (h : FreshStart w) (hoff : EventMonOff w.app) :
    Unsubscribed w.subscribed := by
  obtain ⟨i, j, -, hj⟩ := h
  have hinit : Unsubscribed ((World.off cfg).after (.appInit i)).subscribed := by
    show Unsubscribed (((Op.appInit i).run (initialData cfg)).log.foldl subscribedStep _)
    rw [Op.run_appInit, appInit_eq]
    refine Unsubscribed.of_adds (fun x hx => ?_) fun _ => rfl
    rcases List.mem_cons.mp hx with rfl | hx
    · exact fun _ h => h
    · exact (AddsNoSubscription.initRest i _ trivial).2 x hx
  generalize (World.off cfg).after (.appInit i) = w at *
  obtain ⟨l, hrun, -⟩ := startup_apply hj
  have hop : (Op.startup j).run w.app = ⟨.ok (), w.app, l ++ []⟩ := Prog.bind_ok hrun
  rw [World.after, hop] at hoff
  have hne : w.app.currentEventMonState ≠ .enabled := by
    rw [show w.app.currentEventMonState = .disabled from hoff]
    decide
  rw [World.after]
  show Unsubscribed (((Op.startup j).run w.app).log.foldl subscribedStep w.subscribed)
  refine Unsubscribed.of_keeps hinit fun x hx => ?_
  have hlog : ((Op.startup j).run w.app).log = (startup j w.app).log := by
    rw [hop, hrun, List.append_nil]
  rw [hlog] at hx
  revert x
  simp [startup, hne, Label.KeepsSubscribed, subscribedStep]

/-! ### Attempts -/

/-- The operation is an EnableEventMon command whose calls get half way. -/
def Op.HalfEnables : Op cfg → Prop
  | .appPipe msg r => accepted cfg msg = some .enableEventMon ∧ r.HalfSubscribe
  | _ => False

/-- As long as no attempt to enable the monitor gets half way, a monitor that is still disabled
has no subscription. -/
theorem unsubscribed_after (hop : op.InLoop) (hs : EventMonOff w.app)
    (hsub : Unsubscribed w.subscribed) (hhalf : ¬ op.HalfEnables)
    (hs' : EventMonOff (w.after op).app) : Unsubscribed (w.after op).subscribed := by
  by_cases hen : op.EnablesEvents
  · cases op with
    | appPipe msg r =>
      have hacc : accepted cfg msg = some .enableEventMon := hen
      have hnot : ¬ r.HalfSubscribe := fun h => hhalf ⟨hacc, h⟩
      rcases (enableAtomic_iff hs hsub hacc r).mpr hnot with hon | hrefused
      · have := hon.on.symm.trans hs'
        cases this
      · rw [hrefused.subscribed]
        exact hsub
    | _ => exact hen.elim
  · exact hsub.of_keeps (leavesOff hs hop hen).keepsSubscribed

/-- **An EnableEventMon command is a transaction if and only if its calls do not get half way,
and in every run of the main loop without one that does, a monitor that stays disabled gets no
event message.** -/
theorem enableEventMon_atomic_iff (hs : EventMonOff w.app) (hsub : Unsubscribed w.subscribed) :
    (∀ (msg : CmdMsg) (r : CmdReplies cfg), accepted cfg msg = some .enableEventMon →
      (EnableAtomic w (w.after (.appPipe msg r)) ↔ ¬ r.HalfSubscribe)) ∧
    ∀ (l : List (Label cfg)) (w' : World cfg),
      World.Run (fun w op => op.InLoop ∧ EventMonOff w.app ∧ ¬ op.HalfEnables) w l w' →
      EventMonOff w'.app → Unsubscribed w'.subscribed := by
  refine ⟨fun msg r hacc => enableAtomic_iff hs hsub hacc r, fun l w' h => ?_⟩
  refine h.invariant (I := fun w => EventMonOff w.app → Unsubscribed w.subscribed) ?_ fun _ => hsub
  intro w op _ ⟨hop, hoff, hhalf⟩ hw
  exact unsubscribed_after hop hoff (hw hoff) hhalf

/-- HS with the event monitor switched off by a command. -/
def disabledWorld : World .small :=
  startedWorld.after (.appPipe disableEventMonRequest (unsubReplies success success))

theorem disabledWorld_unsubscribed : Unsubscribed disabledWorld.subscribed := by
  intro mid
  cases mid with
  | long => rfl
  | short => rfl

/-- An EnableEventMon command. -/
def enableEventMonRequest : CmdMsg := ⟨0x18AE, 4, 8, 0⟩

/-- Answers to an EnableEventMon command. -/
def subReplies (subLong subShort : Status) : CmdReplies .small :=
  { unsubReplies success success with subLong := subLong, subShort := subShort }

/-- An attempt whose first call fails. -/
theorem enableEventMon_atomic_refused :
    let w := disabledWorld.after (.appPipe enableEventMonRequest (subReplies (-1) (-1)))
    EnableAtomic disabledWorld w ∧ Unsubscribed w.subscribed := by
  have hnot : ¬ (subReplies (-1) (-1)).HalfSubscribe := fun h => absurd h.1 (by decide)
  obtain ⟨hatomic, hrun⟩ :=
    enableEventMon_atomic_iff (w := disabledWorld) rfl disabledWorld_unsubscribed
  refine ⟨(hatomic enableEventMonRequest _ rfl).mpr hnot, ?_⟩
  exact hrun _ _ (.op (.inr rfl) ⟨trivial, rfl, fun h => hnot h.2⟩) rfl

/-- When the second call fails, the monitor stays off with the long event messages. -/
theorem enableEventMon_half_done : ¬ ∀ (w : World .small) (msg : CmdMsg) (r : CmdReplies .small),
    EventMonOff w.app → Unsubscribed w.subscribed → accepted .small msg = some .enableEventMon →
      EnableAtomic w (w.after (.appPipe msg r)) := by
  intro h
  have hatomic := h disabledWorld enableEventMonRequest (subReplies success (-1)) rfl
    disabledWorld_unsubscribed rfl
  have hnot := (enableAtomic_iff (w := disabledWorld) rfl disabledWorld_unsubscribed rfl _).mp
    hatomic
  exact hnot ⟨rfl, by decide⟩

end HealthSafety
