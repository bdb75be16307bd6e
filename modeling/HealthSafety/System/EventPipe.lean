import HealthSafety.System.World

/-!
# An enabled event monitor receives events

`HS_AppMain` subscribes the event pipe to both event messages before the main loop
starts, and from then on the event monitor switch is meant to tell that both
subscriptions stand (`EventPipeServed`).  Every operation of the main loop keeps
this, with one exception: a DisableEventMon command whose first unsubscription
succeeds and whose second one fails leaves the switch on, without the long event
messages (`eventPipeServed_after_iff`).  A run without such a command keeps both
subscriptions (`events_received`).
-/

namespace HealthSafety

open Lib

variable {cfg : Config} {s : AppData cfg} {w w' : World cfg} {op : Op cfg}

/-- If the event monitor is on, the event pipe is subscribed to both event
messages. -/
def EventPipeServed (w : World cfg) : Prop :=
  w.app.currentEventMonState = .enabled → w.subscribed .long = true ∧ w.subscribed .short = true

/-- The label changes no subscription. -/
def Label.KeepsSubscribed (x : Label cfg) : Prop :=
  ∀ subscribed, subscribedStep subscribed x = subscribed

/-- The operations of the main loop. -/
def Op.InLoop : Op cfg → Prop
  | .appInit _ => False
  | .startup _ => False
  | _ => True

/-- The operation is a DisableEventMon command that takes back the long event
messages and not the short ones. -/
def HalfDisables (w : World cfg) : Op cfg → Prop
  | .appPipe msg r => accepted cfg msg = some .disableEventMon ∧
      w.app.currentEventMonState = .enabled ∧ r.unsubLong = success ∧ r.unsubShort ≠ success
  | _ => False

/-! ### Operations that leave the event monitor alone -/

theorem eventPipeServed_after (h : EventPipeServed w)
    (hk : ∀ k ∈ op.kinds, k ≠ .eventMon ∧ k.keepsEventMonSwitch = true) :
    EventPipeServed (w.after op) := by
  have hd := op.does w.app
  have hsw := hd.currentEventMonState_eq fun k hm => (hk k hm).2
  have hsub := hd.subscribed_eq (fun k hm => (hk k hm).1) w.subscribed
  intro hon
  rw [World.after, hsub]
  exact h (hsw ▸ hon)

theorem appPipe_keepsEventMon {msg : CmdMsg} {r : CmdReplies cfg}
    (hen : accepted cfg msg ≠ some .enableEventMon)
    (hdis : accepted cfg msg ≠ some .disableEventMon) :
    ∀ k ∈ (Op.appPipe msg r).kinds, k ≠ .eventMon ∧ k.keepsEventMonSwitch = true := by
  refine forall_mem_cmdKinds (by decide) (by decide) fun hd hacc => ?_
  cases hd with
  | enableEventMon => exact absurd hacc hen
  | disableEventMon => exact absurd hacc hdis
  | _ => decide

/-! ### The table acquisition -/

theorem acquireEventMon_log {r : TblReply (EMT cfg)} (h : ¬ r.status < success)
    (unsubLong unsubShort : Status) (s : AppData cfg) :
    (acquireEventMon r unsubLong unsubShort s).log =
      [.call (.releaseAddress .emt), .call (.manage .emt), .call (.getAddress .emt r.status)] := by
  rw [acquireEventMon, Prog.bind_ok (getTable_apply _ _ _ s), if_neg h]
  rfl

theorem Does.keepsSubscribed {α : Type} {ks : List Kind} {m : HsM cfg α} (h : Does ks m s)
    (hks : ∀ k ∈ ks, k ≠ .eventMon) : ∀ x ∈ (m s).log, x.KeepsSubscribed := by
  intro x hx
  obtain ⟨k, hk, hkx⟩ := h.kind_of_mem hx
  exact subscribedStep_eq hkx (hks k hk)

/-- The acquisition of the event monitor table within that of all tables. -/
theorem acquirePointers_split (r : AcquireIn cfg) (s : AppData cfg) :
    ∃ t l l', t.currentEventMonState = s.currentEventMonState ∧
      (acquirePointers r s).log =
        l ++ ((acquireEventMon r.emt r.unsubLong r.unsubShort t).log ++ l') ∧
      ∀ x ∈ l ++ l', x.KeepsSubscribed := by
  obtain ⟨t₁, l₁, h₁, -, -, he₁, -⟩ := acquireAppMon_apply r.amt s
  obtain ⟨t₂, l₂, h₂, -⟩ := acquireEventMon_apply r.emt r.unsubLong r.unsubShort t₁
  obtain ⟨t₃, l₃, h₃, -⟩ := acquireMsgActs_apply r.mat t₂
  obtain ⟨t₄, l₄, h₄, -⟩ := acquireExeCount_apply r.xct t₃
  have hkeep₁ := (acquireAppMon_does r.amt s).keepsSubscribed (by decide)
  have hkeep₃ := (acquireMsgActs_does r.mat t₂).keepsSubscribed (by decide)
  have hkeep₄ := (acquireExeCount_does r.xct t₃).keepsSubscribed (by decide)
  rw [h₁] at hkeep₁
  rw [h₃] at hkeep₃
  rw [h₄] at hkeep₄
  refine ⟨t₁, l₁, l₃ ++ l₄, he₁, ?_, ?_⟩
  · rw [acquirePointers, Prog.bind_ok h₁, Prog.bind_ok h₂, Prog.bind_ok h₃, h₄, h₂]
  · intro x hx
    rcases List.mem_append.mp hx with hx | hx
    · exact hkeep₁ x hx
    rcases List.mem_append.mp hx with hx | hx
    · exact hkeep₃ x hx
    · exact hkeep₄ x hx

theorem keepsSubscribed_of_acquireEventMon {r : AcquireIn cfg}
    (hev : ∀ t : AppData cfg, t.currentEventMonState = s.currentEventMonState →
      ∀ x ∈ (acquireEventMon r.emt r.unsubLong r.unsubShort t).log, x.KeepsSubscribed) :
    ∀ x ∈ (acquirePointers r s).log, x.KeepsSubscribed := by
  obtain ⟨t, l, l', ht, hlog, hkeep⟩ := acquirePointers_split r s
  intro x hx
  rw [hlog] at hx
  rcases List.mem_append.mp hx with hx | hx
  · exact hkeep x (List.mem_append_left _ hx)
  rcases List.mem_append.mp hx with hx | hx
  · exact hev t ht x hx
  · exact hkeep x (List.mem_append_right _ hx)

/-- Without the table the switch is off, and with it nothing is unsubscribed. -/
theorem acquirePointers_served (r : AcquireIn cfg) (h : EventPipeServed w) :
    EventPipeServed (w.after (.acquirePointers r)) := by
  intro hon
  have hon' : (acquirePointers r w.app).state.currentEventMonState = .enabled := hon
  rw [acquirePointers_eventMon] at hon'
  have hneg : ¬ r.emt.status < success := Int.not_lt.mpr (le_of_keepSwitch hon')
  have hlog : ∀ x ∈ (acquirePointers r w.app).log, x.KeepsSubscribed := by
    refine keepsSubscribed_of_acquireEventMon fun t _ => ?_
    rw [acquireEventMon_log hneg]
    simp [Label.KeepsSubscribed, subscribedStep]
  have hsub : (w.after (.acquirePointers r)).subscribed = w.subscribed := foldl_fixed hlog _
  rw [hsub]
  rw [keepSwitch, if_neg hneg] at hon'
  exact h hon'

/-! ### The commands -/

/-- The log of two bus calls. -/
def bothLog (first second : Status → Call cfg) (firstStatus secondStatus : Status)
    (firstEid secondEid : EventId) : List (Label cfg) :=
  .call (first firstStatus) ::
    if firstStatus = success then
      .call (second secondStatus) ::
        if secondStatus ≠ success then [.call (.sendEvent secondEid .error [.num secondStatus])]
        else []
    else [.call (.sendEvent firstEid .error [.num firstStatus])]

theorem bothCalls_apply (first second : Status → Call cfg) (firstStatus secondStatus : Status)
    (firstEid secondEid : EventId) (s : AppData cfg) :
    bothCalls first second firstStatus secondStatus firstEid secondEid s =
      ⟨.ok (if firstStatus = success then secondStatus else firstStatus), s,
        bothLog first second firstStatus secondStatus firstEid secondEid⟩ := by
  by_cases h₁ : firstStatus = success <;> by_cases h₂ : secondStatus = success <;>
    simp [bothCalls, bothLog, h₁, h₂]

/-- An event monitor command whose bus calls succeed sets the switch. -/
theorem eventMonCmd_done {h : Handler} {target : SwitchState} {calls : HsM cfg Status}
    {s : AppData cfg} {l : List (Label cfg)}
    (hcalls : eventMonCalls target calls s = ⟨.ok success, s, l⟩)
    (eid : EventId) : eventMonCmd h target calls eid s = ⟨.ok (),
      { s with cmdCount := s.cmdCount + 1, currentEventMonState := target },
      .mark (.handler h) :: (l ++ [.call (.sendEvent eid .debug [])])⟩ := by
  rw [eventMonCmd, Prog.emit_bind, Prog.bind_ok hcalls, if_pos rfl, countCmd, Prog.modify_bind,
    Prog.modify_bind]
  rfl

/-- One whose bus calls fail is only counted. -/
theorem eventMonCmd_refused {h : Handler} {target : SwitchState} {calls : HsM cfg Status}
    {s : AppData cfg} {status : Status} {l : List (Label cfg)} (hst : status ≠ success)
    (hcalls : eventMonCalls target calls s = ⟨.ok status, s, l⟩) (eid : EventId) :
    eventMonCmd h target calls eid s =
      ⟨.ok (), { s with cmdErrCount := s.cmdErrCount + 1 }, .mark (.handler h) :: (l ++ [])⟩ := by
  rw [eventMonCmd, Prog.emit_bind, Prog.bind_ok hcalls, if_neg hst, countCmdErr]
  rfl

/-- What an event monitor command leaves, when its bus calls return `status`. -/
theorem eventMonCmd_apply {h : Handler} {target : SwitchState} {calls : HsM cfg Status}
    {eid : EventId} {s : AppData cfg} {status : Status} {l : List (Label cfg)}
    (hcalls : eventMonCalls target calls s = ⟨.ok status, s, l⟩) (subscribed : EvsMid → Bool) :
    (eventMonCmd h target calls eid s).state.currentEventMonState =
        (if status = success then target else s.currentEventMonState) ∧
      (eventMonCmd h target calls eid s).log.foldl subscribedStep subscribed =
        l.foldl subscribedStep subscribed := by
  by_cases hst : status = success
  · subst hst
    rw [eventMonCmd_done hcalls, if_pos rfl]
    exact ⟨rfl, by simp [subscribedStep]⟩
  · rw [eventMonCmd_refused hst hcalls, if_neg hst]
    exact ⟨rfl, by simp [subscribedStep]⟩

section

variable {h : Handler} {target : SwitchState} {first second : Status → Call cfg}
  {firstEid secondEid eid : EventId} {s : AppData cfg}

/-- When the switch already stands at its target, no bus call is made. -/
theorem eventMonCmd_of_eq (calls : HsM cfg Status) (hs : s.currentEventMonState = target)
    (subscribed : EvsMid → Bool) :
    (eventMonCmd h target calls eid s).state.currentEventMonState = target ∧
      (eventMonCmd h target calls eid s).log.foldl subscribedStep subscribed = subscribed := by
  have hcalls : eventMonCalls target calls s = ⟨.ok success, s, []⟩ := by
    simp [eventMonCalls, hs]
  simpa using eventMonCmd_apply (h := h) hcalls subscribed

/-- Otherwise both are, and the switch is set if both succeed. -/
theorem eventMonCmd_of_ne (hs : s.currentEventMonState ≠ target)
    (firstStatus secondStatus : Status) (subscribed : EvsMid → Bool) :
    let o := eventMonCmd h target
      (bothCalls first second firstStatus secondStatus firstEid secondEid) eid s
    o.state.currentEventMonState =
        (if firstStatus = success ∧ secondStatus = success then target
          else s.currentEventMonState) ∧
      o.log.foldl subscribedStep subscribed =
        (bothLog first second firstStatus secondStatus firstEid secondEid).foldl
          subscribedStep subscribed := by
  have hcalls : eventMonCalls target
      (bothCalls first second firstStatus secondStatus firstEid secondEid) s =
        bothCalls first second firstStatus secondStatus firstEid secondEid s := by
    simp [eventMonCalls, hs]
  rw [bothCalls_apply] at hcalls
  refine (eventMonCmd_apply hcalls subscribed).imp_left fun hsw => ?_
  rw [hsw]
  by_cases h₁ : firstStatus = success <;> simp [h₁]

end

theorem enableEventMonCmd_apply (subLong subShort : Status) (s : AppData cfg)
    (subscribed : EvsMid → Bool) :
    let o := enableEventMonCmd subLong subShort s
    (s.currentEventMonState = .enabled → o.log.foldl subscribedStep subscribed = subscribed) ∧
      (s.currentEventMonState ≠ .enabled → o.state.currentEventMonState = .enabled →
        subLong = success ∧ subShort = success ∧ o.log.foldl subscribedStep subscribed =
          Function.update (Function.update subscribed .long true) .short true) := by
  refine ⟨fun hs => (eventMonCmd_of_eq _ hs subscribed).2, fun hs hon => ?_⟩
  have hcmd := @eventMonCmd_of_ne cfg .enableEventMon .enabled (.subscribeEx .long)
    (.subscribeEx .short) .eventmonLongSub .eventmonShortSub .enableEventmonDbg s hs subLong
    subShort subscribed
  obtain ⟨hsw, hsub⟩ := hcmd
  have hon' := hsw.symm.trans hon
  split at hon'
  · obtain ⟨h₁, h₂⟩ := ‹_ ∧ _›
    refine ⟨h₁, h₂, hsub.trans ?_⟩
    simp [bothLog, h₁, h₂, subscribedStep]
  · exact absurd hon' hs

/-- An EnableEventMon command switches the monitor on after both subscriptions. -/
theorem enableEventMonCmd_served {msg : CmdMsg} {r : CmdReplies cfg}
    (hacc : accepted cfg msg = some .enableEventMon) (h : EventPipeServed w) :
    EventPipeServed (w.after (.appPipe msg r)) := by
  have hrun : (Op.appPipe msg r).run = enableEventMonCmd r.subLong r.subShort :=
    appPipe_of_accepted hacc r
  obtain ⟨hon, hoff⟩ := enableEventMonCmd_apply r.subLong r.subShort w.app w.subscribed
  intro hafter
  rw [World.after, hrun] at hafter
  rw [World.after, hrun]
  by_cases hs : w.app.currentEventMonState = .enabled
  · simp only [hon hs]
    exact h hs
  · obtain ⟨-, -, hsub⟩ := hoff hs hafter
    simp [hsub, Function.update]

theorem disableEventMonCmd_apply {s : AppData cfg} (hs : s.currentEventMonState = .enabled)
    (unsubLong unsubShort : Status) (subscribed : EvsMid → Bool) :
    let o := disableEventMonCmd unsubLong unsubShort s
    o.state.currentEventMonState =
        (if unsubLong = success ∧ unsubShort = success then .disabled else .enabled) ∧
      (unsubLong ≠ success → o.log.foldl subscribedStep subscribed = subscribed) ∧
      (unsubLong = success → unsubShort ≠ success →
        o.log.foldl subscribedStep subscribed = Function.update subscribed .long false) := by
  have hne : s.currentEventMonState ≠ .disabled := by simp [hs]
  obtain ⟨hsw, hsub⟩ := @eventMonCmd_of_ne cfg .disableEventMon .disabled (.unsubscribe .long)
    (.unsubscribe .short) .eventmonLongUnsub .eventmonShortUnsub .disableEventmonDbg s hne
    unsubLong unsubShort subscribed
  rw [hs] at hsw
  refine ⟨hsw, fun h₁ => hsub.trans ?_, fun h₁ h₂ => hsub.trans ?_⟩
  · simp [bothLog, h₁, subscribedStep]
  · simp [bothLog, h₁, h₂, subscribedStep]

/-- A DisableEventMon command that leaves the monitor on has changed no subscription,
unless it took back the first one and not the second. -/
theorem disableEventMonCmd_served_iff {msg : CmdMsg} {r : CmdReplies cfg}
    (hacc : accepted cfg msg = some .disableEventMon) (h : EventPipeServed w) :
    EventPipeServed (w.after (.appPipe msg r)) ↔ ¬ HalfDisables w (.appPipe msg r) := by
  have hrun : (Op.appPipe msg r).run = disableEventMonCmd r.unsubLong r.unsubShort :=
    appPipe_of_accepted hacc r
  simp only [EventPipeServed, HalfDisables, hacc, true_and, World.after, hrun]
  cases hs : w.app.currentEventMonState with
  | disabled =>
    have hsw : (disableEventMonCmd r.unsubLong r.unsubShort w.app).state.currentEventMonState =
        .disabled := (eventMonCmd_of_eq _ hs w.subscribed).1
    simp [hsw]
  | enabled =>
    obtain ⟨hsw, hfirst, hsecond⟩ :=
      disableEventMonCmd_apply hs r.unsubLong r.unsubShort w.subscribed
    rw [hsw]
    by_cases h₁ : r.unsubLong = success
    · by_cases h₂ : r.unsubShort = success
      · simp [h₁, h₂]
      · rw [hsecond h₁ h₂]
        simp [h₁, h₂]
    · rw [hfirst h₁]
      simp [h₁, h hs]

/-! ### All operations -/

/-- **An operation of the main loop keeps both subscriptions of an enabled event
monitor, unless it is a DisableEventMon command that gets half way.** -/
theorem eventPipeServed_after_iff (hop : op.InLoop) (h : EventPipeServed w) :
    EventPipeServed (w.after op) ↔ ¬ HalfDisables w op := by
  cases op with
  | appInit | startup => exact hop.elim
  | acquirePointers r => exact iff_of_true (acquirePointers_served r h) id
  | appPipe msg r =>
    by_cases hdis : accepted cfg msg = some .disableEventMon
    · exact disableEventMonCmd_served_iff hdis h
    have hother : ¬ HalfDisables w (.appPipe msg r) := fun hhalf => hdis hhalf.1
    by_cases hen : accepted cfg msg = some .enableEventMon
    · exact iff_of_true (enableEventMonCmd_served hen h) hother
    · exact iff_of_true (eventPipeServed_after h (appPipe_keepsEventMon hen hdis)) hother
  | _ => exact iff_of_true (eventPipeServed_after h (by simp only [Op.kinds]; decide)) id

/-! ### Startup -/

/-- HS as it enters the main loop: `HS_AppInit` has succeeded and so has the rest of
the startup. -/
inductive Started : World cfg → Prop
  | intro (w : World cfg) (i : InitIn cfg) (j : StartIn)
      (hi : (appInit i w.app).val = .ok success)
      (hj : (startup j (w.after (.appInit i)).app).val = .ok (success, .appRun)) :
      Started ((w.after (.appInit i)).after (.startup j))

/-- A startup that succeeds has subscribed the event pipe, if the monitor is on. -/
theorem startup_apply {j : StartIn} {s : AppData cfg}
    (hj : (startup j s).val = .ok (success, .appRun)) :
    ∃ l, startup j s = ⟨.ok (success, .appRun), s, l⟩ ∧ ∀ subscribed,
      s.currentEventMonState = .enabled →
        l.foldl subscribedStep subscribed .long = true ∧
          l.foldl subscribedStep subscribed .short = true := by
  by_cases hs : s.currentEventMonState = .enabled
  · by_cases h₁ : j.subLong = success <;> by_cases h₂ : j.subShort = success
    · refine ⟨_, by simp [startup, hs, subscribeEvents, h₁, h₂]; rfl, fun subscribed _ => ?_⟩
      simp [subscribedStep, Function.update]
    all_goals simp [startup, hs, subscribeEvents, h₁, h₂] at hj
  · exact ⟨_, by simp [startup, hs]; rfl, fun _ hon => absurd hon hs⟩

theorem startup_served {j : StartIn} (hj : (startup j w.app).val = .ok (success, .appRun)) :
    EventPipeServed (w.after (.startup j)) := by
  obtain ⟨l, hrun, hsub⟩ := startup_apply hj
  have hop : (Op.startup j).run w.app = ⟨.ok (), w.app, l ++ []⟩ := Prog.bind_ok hrun
  intro hon
  rw [World.after, hop] at hon
  rw [World.after, hop, List.append_nil]
  exact hsub w.subscribed hon

theorem Started.served (h : Started w) : EventPipeServed w := by
  obtain ⟨w, i, j, -, hj⟩ := h
  exact startup_served hj

/-- **After a successful startup, in every run without a DisableEventMon command that
gets half way, an enabled event monitor is subscribed to both event messages.** -/
theorem events_received {l : List (Label cfg)} (hw : Started w)
    (h : World.Run (fun w op => op.InLoop ∧ ¬ HalfDisables w op) w l w') : EventPipeServed w' :=
  h.invariant (fun _ _ _ ⟨hop, hhalf⟩ hs => (eventPipeServed_after_iff hop hs).mpr hhalf)
    hw.served

/-- Tables without entries. -/
def emptyTables : AcquireIn .small :=
  .ok (fun _ => ⟨[], 0, 0, 0⟩) (fun _ => ⟨[], 0, 0, 0⟩) (fun _ => ⟨0, 0, ⟨0, 0⟩⟩)
    (fun _ => ⟨[], 0, 0⟩)

/-- HS after a start on which every call succeeds. -/
def startedWorld : World .small :=
  ((World.off .small).after (.appInit (.ok emptyTables))).after (.startup ⟨success, success⟩)

theorem startedWorld_started : Started startedWorld := .intro _ _ _ rfl rfl

/-- A DisableEventMon command. -/
def disableEventMonRequest : CmdMsg := ⟨0x18AE, 5, 8, 0⟩

/-- Answers to a DisableEventMon command. -/
def unsubReplies (unsubLong unsubShort : Status) : CmdReplies .small where
  subLong := success
  subShort := success
  unsubLong := unsubLong
  unsubShort := unsubShort
  hk := ⟨fun _ => success, fun _ => ⟨⟨success, 0, true⟩, ⟨success, 0, true⟩, ⟨success, 0, true⟩,
    ⟨success, 0, true⟩⟩⟩

/-- A DisableEventMon command whose first unsubscription fails. -/
theorem events_received_refused : EventPipeServed
    (startedWorld.after (.appPipe disableEventMonRequest (unsubReplies (-1) (-1)))) :=
  events_received startedWorld_started
    (.op (.inr rfl) ⟨trivial, fun ⟨_, _, h, _⟩ => absurd h (by decide)⟩)

/-- When the second one fails, the monitor stays on without the long event messages. -/
theorem events_missed : ¬ ∀ (w w' : World .small) (l : List (Label .small)), Started w →
    World.Run (fun _ op => op.InLoop) w l w' → EventPipeServed w' := by
  intro h
  have hserved := h _ _ _ startedWorld_started (.op (.inr rfl) (show Op.InLoop
    (.appPipe disableEventMonRequest (unsubReplies success (-1))) from trivial))
  have hlong : (startedWorld.after (.appPipe disableEventMonRequest
      (unsubReplies success (-1)))).subscribed .long = false := by rfl
  rw [(hserved rfl).1] at hlong
  cases hlong

end HealthSafety
