import HealthSafety.Lib.Trace
import HealthSafety.System.EventSwitch

/-!
# What the event monitor gets to see

The event monitor is meant to check, in each pass of the main loop, the events generated
since the pass before.  A `Node` is HS in the course of a pass together with its event
pipe.  Its steps are the operations of `HS_ProcessMain` in their order, and event messages
may be sent at any time, also between two calls of one operation.

HS does not look into the event pipe when it switches the event monitor off, by command or
because the table is lost.  An event that is in the pipe then stays there until the monitor
is on again, and is acted on as if it were new (`stale_event_monitored`).  In every run in
which the pipe is empty whenever the monitor is switched off, all events that are acted on
have been sent since the pass before (`events_of_last_pass`).
-/

namespace HealthSafety

open Lib

variable {cfg : Config}

/-! ### Steps -/

/-- Where HS is in a pass of the main loop: the operation it comes to next. -/
inductive Stage
  | acquirePointers
  | decrementCooldowns
  | checkUtilization
  | checkApplications
  | outputAliveness
  | events
  | commands
  deriving DecidableEq

/-- The order of the operations of a pass, apart from the event loop. -/
def Stage.next : Stage → Op cfg → Option Stage
  | .acquirePointers, .acquirePointers _ => some .decrementCooldowns
  | .decrementCooldowns, .decrementCooldowns => some .checkUtilization
  | .checkUtilization, .checkUtilization _ => some .checkApplications
  | .checkApplications, .checkApplications _ => some .outputAliveness
  | .outputAliveness, .outputAliveness => some .events
  | .commands, .appPipe _ _ => some .commands
  | .commands, .serviceWatchdog => some .acquirePointers
  | _, _ => none

/-- What happens on the bus: HS makes a call, or an event message is sent. -/
inductive Happening (cfg : Config)
  | label (x : Label cfg)
  | sent (mid : EvsMid) (ev : EvtMsg)

/-- The calls of HS. -/
def labels : List (Happening cfg) → List (Label cfg)
  | [] => []
  | .label x :: hs => x :: labels hs
  | .sent _ _ :: hs => labels hs

/-- The event messages that get into the pipe, numbered from `k` on in the order they are
sent. -/
def arrivals (subscribed : EvsMid → Bool) (k : Nat) : List (Happening cfg) → List (Nat × EvtMsg)
  | [] => []
  | .label x :: hs => arrivals (subscribedStep subscribed x) k hs
  | .sent mid ev :: hs =>
    if subscribed mid = true then (k, ev) :: arrivals subscribed (k + 1) hs
    else arrivals subscribed (k + 1) hs

/-- The number of event messages. -/
def sends : List (Happening cfg) → Nat
  | [] => 0
  | .label _ :: hs => sends hs
  | .sent _ _ :: hs => sends hs + 1

/-- HS in the course of a pass, its event pipe, and the number of event messages sent so
far. -/
structure Node (cfg : Config) where
  world : World cfg
  stage : Stage
  pipe : List (Nat × EvtMsg)
  sent : Nat

/-- What is observed of a run. -/
inductive Obs
  /-- An event message gets into the event pipe. -/
  | arrived (k : Nat)
  /-- An event is passed to `HS_MonitorEvent`. -/
  | monitored (k : Nat)
  /-- The event part of a pass is over. -/
  | drained
  /-- `HS_DisableEventMonCmd` completes, with these messages in the event pipe. -/
  | disabled (pipe : List Nat)
  /-- `HS_EnableEventMonCmd` completes. -/
  | enabled
  deriving DecidableEq

/-- What an operation reports when it is over. -/
def Op.report (pipe : List (Nat × EvtMsg)) : Op cfg → List Obs
  | .appPipe msg _ =>
    if accepted cfg msg = some .disableEventMon then [.disabled (pipe.map Prod.fst)]
    else if accepted cfg msg = some .enableEventMon then [.enabled]
    else []
  | _ => []

namespace Node

/-- What gets into the pipe in the course of an operation. -/
def arriving (n : Node cfg) (hs : List (Happening cfg)) : List (Nat × EvtMsg) :=
  arrivals n.world.subscribed n.sent hs

/-- The node after an operation in whose course `hs` happens. -/
def after (n : Node cfg) (op : Op cfg) (hs : List (Happening cfg)) (stage : Stage) : Node cfg where
  world := n.world.after op
  stage := stage
  pipe := n.pipe ++ n.arriving hs
  sent := n.sent + sends hs

/-- `hs` can happen in the course of the operation, and no bus call of HS fails. -/
structure Happens (n : Node cfg) (op : Op cfg) (hs : List (Happening cfg)) : Prop where
  up : n.world.up = true
  labels : labels hs = (op.run n.world.app).log
  ok : ∀ x ∈ (op.run n.world.app).log, x.busFailure = false

/-- The messages that get into the pipe, as observed. -/
def arrived (pipe : List (Nat × EvtMsg)) : List Obs := pipe.map fun e => .arrived e.1

/-- A step of a pass.  The event loop takes the messages from the pipe if the monitor is
enabled, and ends when the pipe is empty. -/
inductive Step (P : Node cfg → Op cfg → List (Happening cfg) → Prop) :
    Node cfg → List Obs → Node cfg → Prop
  | op {n : Node cfg} {op : Op cfg} {hs : List (Happening cfg)} {stage : Stage}
      (hnext : n.stage.next op = some stage) (hhs : n.Happens op hs) (hP : P n op hs) :
      Step P n (arrived (n.arriving hs) ++ op.report (n.after op hs stage).pipe)
        (n.after op hs stage)
  | receive {n : Node cfg} {k : Nat} {ev : EvtMsg} {rest : List (Nat × EvtMsg)}
      {lks : Fin cfg.maxMonitoredEvents → EvtLookup} {hs : List (Happening cfg)}
      (hstage : n.stage = .events) (hon : n.world.app.currentEventMonState = .enabled)
      (hpipe : n.pipe = (k, ev) :: rest) (hhs : n.Happens (.receiveEvent ev lks) hs) :
      Step P n (.monitored k :: arrived (n.arriving hs))
        (({ n with pipe := rest } : Node cfg).after (.receiveEvent ev lks) hs .events)
  | drained {n : Node cfg} (hup : n.world.up = true) (hstage : n.stage = .events)
      (hpipe : n.world.app.currentEventMonState = .enabled → n.pipe = []) :
      Step P n [.drained] { n with stage := .commands }

/-- A run: any number of steps. -/
abbrev Run (P : Node cfg → Op cfg → List (Happening cfg) → Prop) :
    Node cfg → List Obs → Node cfg → Prop := Chain (Step P)

/-- HS as it enters the main loop, with an empty event pipe. -/
def start (w : World cfg) : Node cfg := ⟨w, .acquirePointers, [], 0⟩

end Node

/-! ### The property -/

/-- The message has got into the pipe since the event part of the last pass. -/
def Recent (before : List Obs) (k : Nat) : Prop :=
  ∃ l l', before = l ++ .arrived k :: l' ∧ .drained ∉ l'

/-- Only events of the last pass are acted on, and none from before a maintenance window. -/
structure MonitorsRecent (l : List Obs) : Prop where
  recent : Along (fun before x => ∀ k, x = .monitored k → Recent before k) l
  maintenance : ∀ l₀ l₁ l₂ l₃ pipe k,
    l = l₀ ++ .disabled pipe :: l₁ ++ .enabled :: l₂ ++ .monitored k :: l₃ → k ∉ pipe

theorem Recent.append {before l : List Obs} {k : Nat} (h : Recent before k) (hl : .drained ∉ l) :
    Recent (before ++ l) k := by
  obtain ⟨l₁, l₂, rfl, h₂⟩ := h
  refine ⟨l₁, l₂ ++ l, by simp, ?_⟩
  rw [List.mem_append, not_or]
  exact ⟨h₂, hl⟩

theorem drained_not_mem_arrived (pipe : List (Nat × EvtMsg)) : .drained ∉ Node.arrived pipe := by
  simp [Node.arrived]

/-- A message that has just got in is recent. -/
theorem recent_of_arrived {pipe : List (Nat × EvtMsg)} {e : Nat × EvtMsg} (he : e ∈ pipe)
    (before : List Obs) : Recent (before ++ Node.arrived pipe) e.1 := by
  obtain ⟨l₁, l₂, rfl⟩ := List.append_of_mem he
  exact ⟨before ++ Node.arrived l₁, Node.arrived l₂, by simp [Node.arrived],
    drained_not_mem_arrived l₂⟩

/-- What is in the pipe stays recent as long as the event part of the pass is not over. -/
theorem recent_of_pipe {pipe new : List (Nat × EvtMsg)} {before : List Obs}
    (h : ∀ e ∈ pipe, Recent before e.1) {l : List Obs} (hl : .drained ∉ l) :
    ∀ e ∈ pipe ++ new, Recent (before ++ Node.arrived new ++ l) e.1 := by
  intro e he
  refine Recent.append ?_ hl
  rcases List.mem_append.mp he with he | he
  · exact (h e he).append (drained_not_mem_arrived new)
  · exact recent_of_arrived he before

/-- The node's invariant, given what has been observed: a disabled monitor has no subscription
and nothing in the pipe, and what is in the pipe is recent. -/
structure Node.Orderly (before : List Obs) (n : Node cfg) : Prop where
  off : EventMonOff n.world.app → Unsubscribed n.world.subscribed ∧ n.pipe = []
  recent : ∀ e ∈ n.pipe, Recent before e.1

/-- What is observed of an orderly run. -/
def Obs.Orderly (before : List Obs) : Obs → Prop
  | .monitored k => Recent before k
  | .disabled pipe => pipe = []
  | _ => True

theorem monitorsRecent_of_along {l : List Obs} (h : Along Obs.Orderly l) : MonitorsRecent l := by
  refine ⟨fun before x after hl k hx => ?_, fun l₀ l₁ l₂ l₃ pipe k hl hk => ?_⟩
  · subst hx
    exact h before _ after hl
  · have hsplit : l = l₀ ++ .disabled pipe :: (l₁ ++ .enabled :: (l₂ ++ .monitored k :: l₃)) := by
      rw [hl]
      simp
    have hpipe : pipe = [] := h _ _ _ hsplit
    rw [hpipe] at hk
    cases hk

/-! ### Switching the event monitor off -/

/-- The operation switches an enabled event monitor off, if its calls succeed. -/
def Op.SwitchesOff : Op cfg → Prop
  | .acquirePointers r => r.emt.status < success
  | .appPipe msg _ => accepted cfg msg = some .disableEventMon
  | _ => False

section

variable {w : World cfg} {op : Op cfg} {s : AppData cfg}

theorem acquireEventMon_unsubscribes {r : TblReply (EMT cfg)} {unsubLong unsubShort : Status}
    (hneg : r.status < success) (hon : s.currentEventMonState = .enabled)
    (hok : ∀ x ∈ (acquireEventMon r unsubLong unsubShort s).log, x.busFailure = false)
    (subscribed : EvsMid → Bool) : Unsubscribed
      ((acquireEventMon r unsubLong unsubShort s).log.foldl subscribedStep subscribed) := by
  have hlog : (acquireEventMon r unsubLong unsubShort s).log =
      [.call (.releaseAddress .emt), .call (.manage .emt), .call (.getAddress .emt r.status),
        .call (.sendEvent .eventmonGetaddrErr .error [.num r.status])] ++
      (dropEvents unsubLong unsubShort { s with emTablePtr := r.ptr }).log := by
    obtain ⟨l, hdrop⟩ := dropEvents_apply unsubLong unsubShort { s with emTablePtr := r.ptr }
    rw [acquireEventMon, Prog.bind_ok (getTable_apply _ _ _ s), if_pos hneg, Prog.get_bind,
      Prog.when_pos (.inr hon), Prog.emit_bind, Prog.when_pos hon, Prog.bind_ok hdrop, hdrop]
    simp
  have hlong : unsubLong = success := by
    have := hok (.call (.unsubscribe .long unsubLong)) (by rw [hlog]; simp [dropEvents])
    simpa [Label.busFailure] using this
  have hshort : unsubShort = success := by
    have := hok (.call (.unsubscribe .short unsubShort)) (by rw [hlog]; simp [dropEvents, hlong])
    simpa [Label.busFailure] using this
  rw [hlog]
  intro mid
  cases mid <;> simp [dropEvents, hlong, hshort, subscribedStep, Function.update]

theorem acquirePointers_unsubscribes {r : AcquireIn cfg} (hneg : r.emt.status < success)
    (hon : s.currentEventMonState = .enabled)
    (hok : ∀ x ∈ (acquirePointers r s).log, x.busFailure = false) {subscribed : EvsMid → Bool} :
    Unsubscribed ((acquirePointers r s).log.foldl subscribedStep subscribed) := by
  obtain ⟨t, l, l', ht, hlog, hkeep⟩ := acquirePointers_split r s
  rw [hlog] at hok ⊢
  have hlost := acquireEventMon_unsubscribes hneg (ht.trans hon)
    (fun x hx => hok x (List.mem_append_right _ (List.mem_append_left _ hx))) subscribed
  rw [List.foldl_append, List.foldl_append,
    foldl_fixed fun x hx => hkeep x (List.mem_append_left _ hx)]
  exact Unsubscribed.of_keeps hlost fun x hx => hkeep x (List.mem_append_right _ hx)

theorem disableEventMonCmd_unsubscribes {unsubLong unsubShort : Status}
    (hon : s.currentEventMonState = .enabled)
    (hoff : EventMonOff (disableEventMonCmd unsubLong unsubShort s).state)
    (subscribed : EvsMid → Bool) : Unsubscribed
      ((disableEventMonCmd unsubLong unsubShort s).log.foldl subscribedStep subscribed) := by
  have hne : s.currentEventMonState ≠ .disabled := by rw [hon]; decide
  obtain ⟨hsw, hsub⟩ := @eventMonCmd_of_ne cfg .disableEventMon .disabled (.unsubscribe .long)
    (.unsubscribe .short) .eventmonLongUnsub .eventmonShortUnsub .disableEventmonDbg s hne
    unsubLong unsubShort subscribed
  have hboth : unsubLong = success ∧ unsubShort = success := by
    by_contra hboth
    rw [if_neg hboth, hon] at hsw
    have := hsw.symm.trans hoff
    cases this
  rw [disableEventMonCmd, hsub]
  intro mid
  cases mid <;> simp [bothLog, hboth, subscribedStep, Function.update]

/-- An operation that finds the event monitor enabled and leaves it disabled is one of two, and
takes both subscriptions back. -/
theorem switchesOff (hop : op.InLoop) (hok : ∀ x ∈ (op.run w.app).log, x.busFailure = false)
    (hon : w.app.currentEventMonState = .enabled) (hoff : EventMonOff (w.after op).app) :
    op.SwitchesOff ∧ Unsubscribed (w.after op).subscribed := by
  have hkeep (hks : ∀ k ∈ op.kinds, k.keepsEventMonSwitch = true) : False := by
    have hsw := (op.does w.app).currentEventMonState_eq hks
    have := hon.symm.trans (hsw.symm.trans hoff)
    cases this
  cases op with
  | appInit | startup => exact hop.elim
  | acquirePointers r =>
    have hneg : r.emt.status < success := by
      have hoff' : (acquirePointers r w.app).state.currentEventMonState = .disabled := hoff
      by_contra hneg
      rw [acquirePointers_eventMon, keepSwitch, if_neg hneg, hon] at hoff'
      cases hoff'
    exact ⟨hneg, acquirePointers_unsubscribes hneg hon hok⟩
  | appPipe msg r =>
    by_cases hdis : accepted cfg msg = some .disableEventMon
    · have hrun : (Op.appPipe msg r).run = disableEventMonCmd r.unsubLong r.unsubShort :=
        appPipe_of_accepted hdis r
      rw [World.after, hrun] at hoff ⊢
      exact ⟨hdis, disableEventMonCmd_unsubscribes hon hoff w.subscribed⟩
    by_cases hen : accepted cfg msg = some .enableEventMon
    · have hrun : (Op.appPipe msg r).run = enableEventMonCmd r.subLong r.subShort :=
        appPipe_of_accepted hen r
      rw [World.after, hrun] at hoff
      have hstay : (enableEventMonCmd r.subLong r.subShort w.app).state.currentEventMonState =
          .enabled := (eventMonCmd_of_eq _ hon fun _ => false).1
      have := hstay.symm.trans hoff
      cases this
    · exact (hkeep fun k hk => (appPipe_keepsEventMon hen hdis k hk).2).elim
  | _ => exact (hkeep (by simp only [Op.kinds]; decide)).elim

/-- An event monitor command none of whose calls fails brings the switch to its target. -/
theorem eventMonCmd_target {h : Handler} {target : SwitchState} {eid : EventId}
    {calls : HsM cfg Status}
    (hcalls : ∃ status l, eventMonCalls target calls s = ⟨.ok status, s, l⟩ ∧
      ((∀ x ∈ l, x.busFailure = false) ↔ status = success))
    (hok : ∀ x ∈ (eventMonCmd h target calls eid s).log, x.busFailure = false) :
    (eventMonCmd h target calls eid s).state.currentEventMonState = target := by
  obtain ⟨status, l, hrun, hl⟩ := hcalls
  by_cases hst : status = success
  · subst hst
    rw [eventMonCmd_done hrun]
  · rw [eventMonCmd_refused hst hrun] at hok
    refine absurd (hl.mp fun x hx => hok x ?_) hst
    exact List.mem_cons_of_mem _ (List.mem_append_left _ hx)

theorem enableEventMonCmd_on {subLong subShort : Status}
    (hok : ∀ x ∈ (enableEventMonCmd subLong subShort s).log, x.busFailure = false) :
    (enableEventMonCmd subLong subShort s).state.currentEventMonState = .enabled :=
  eventMonCmd_target (eventMonCalls_apply (fun _ => rfl) (fun _ => rfl) _ _ _ _ s) hok

theorem disableEventMonCmd_off {unsubLong unsubShort : Status}
    (hok : ∀ x ∈ (disableEventMonCmd unsubLong unsubShort s).log, x.busFailure = false) :
    EventMonOff (disableEventMonCmd unsubLong unsubShort s).state :=
  eventMonCmd_target (eventMonCalls_apply (fun _ => rfl) (fun _ => rfl) _ _ _ _ s) hok

theorem not_enablesEvents (hok : ∀ x ∈ (op.run w.app).log, x.busFailure = false)
    (hoff : EventMonOff (w.after op).app) : ¬ op.EnablesEvents := by
  intro hen
  cases op with
  | appPipe msg r =>
    have hrun : (Op.appPipe msg r).run = enableEventMonCmd r.subLong r.subShort :=
      appPipe_of_accepted hen r
    rw [hrun] at hok
    rw [World.after, hrun] at hoff
    have := (enableEventMonCmd_on hok).symm.trans hoff
    cases this
  | _ => exact hen

end

/-! ### One step -/

theorem arrivals_eq_nil {subscribed : EvsMid → Bool} (h : Unsubscribed subscribed) :
    ∀ {hs : List (Happening cfg)} (k : Nat), (∀ x ∈ labels hs, x.KeepsSubscribed) →
      arrivals subscribed k hs = [] := by
  intro hs
  induction hs with
  | nil => intro k _; rfl
  | cons x hs ih =>
    intro k hkeep
    cases x with
    | label x =>
      have hx : subscribedStep subscribed x = subscribed := hkeep x List.mem_cons_self subscribed
      rw [arrivals, hx]
      exact ih k fun y hy => hkeep y (List.mem_cons_of_mem x hy)
    | sent mid ev =>
      rw [arrivals, if_neg (by rw [h mid]; decide)]
      exact ih (k + 1) hkeep

theorem Stage.inLoop_of_next {st st' : Stage} {op : Op cfg} (h : st.next op = some st') :
    op.InLoop := by
  cases op with
  | appInit | startup => cases st <;> cases h
  | _ => trivial

/-- When the monitor is switched off, the event pipe is empty, and nothing gets into it before
the subscriptions are gone. -/
def Node.EmptyAtSwitchOff (n : Node cfg) (op : Op cfg) (hs : List (Happening cfg)) : Prop :=
  op.SwitchesOff → n.world.app.currentEventMonState = .enabled →
    n.pipe = [] ∧ n.arriving hs = []

namespace Node

variable {n n' : Node cfg} {op : Op cfg} {hs : List (Happening cfg)} {stage : Stage}
  {before : List Obs}

theorem Orderly.off_after (h : n.Orderly before) (hop : op.InLoop) (hhs : n.Happens op hs)
    (hempty : n.EmptyAtSwitchOff op hs) (hoff : EventMonOff (n.after op hs stage).world.app) :
    Unsubscribed (n.after op hs stage).world.subscribed ∧ (n.after op hs stage).pipe = [] := by
  cases hon : n.world.app.currentEventMonState with
  | enabled =>
    obtain ⟨hsw, hsub⟩ := switchesOff hop hhs.ok hon hoff
    obtain ⟨hpipe, harr⟩ := hempty hsw hon
    refine ⟨hsub, ?_⟩
    show n.pipe ++ n.arriving hs = []
    rw [hpipe, harr, List.append_nil]
  | disabled =>
    obtain ⟨hsub, hpipe⟩ := h.off hon
    have hkeep := (leavesOff hon hop (not_enablesEvents hhs.ok hoff)).keepsSubscribed
    refine ⟨hsub.of_keeps hkeep, ?_⟩
    show n.pipe ++ n.arriving hs = []
    rw [hpipe, List.nil_append]
    exact arrivals_eq_nil hsub _ (hhs.labels ▸ hkeep)

/-- A DisableEventMon command completes with an empty pipe. -/
theorem report_orderly (hhs : n.Happens op hs)
    (hoff : EventMonOff (n.after op hs stage).world.app → (n.after op hs stage).pipe = []) :
    ∀ x ∈ op.report (n.after op hs stage).pipe, ∀ before, Obs.Orderly before x := by
  intro x hx before
  cases op with
  | appPipe msg r =>
    unfold Op.report at hx
    dsimp only at hx
    by_cases hacc : accepted cfg msg = some .disableEventMon
    · rw [if_pos hacc] at hx
      have hrun : (Op.appPipe msg r).run = disableEventMonCmd r.unsubLong r.unsubShort :=
        appPipe_of_accepted hacc r
      have hok := hhs.ok
      rw [hrun] at hok
      have hpipe := hoff (by
        show EventMonOff ((Op.appPipe msg r).run n.world.app).state
        rw [hrun]
        exact disableEventMonCmd_off hok)
      rw [List.mem_singleton.mp hx, hpipe]
      rfl
    · rw [if_neg hacc] at hx
      split at hx
      · rw [List.mem_singleton.mp hx]
        trivial
      · cases hx
  | _ => cases hx

theorem drained_not_mem_report (pipe : List (Nat × EvtMsg)) : .drained ∉ op.report pipe := by
  cases op with
  | appPipe msg r =>
    unfold Op.report
    dsimp only
    split
    · simp
    · split <;> simp
  | _ => exact List.not_mem_nil

theorem arrived_orderly (pipe : List (Nat × EvtMsg)) :
    ∀ x ∈ arrived pipe, ∀ before, Obs.Orderly before x := by
  intro x hx before
  obtain ⟨e, -, rfl⟩ := List.mem_map.mp hx
  trivial

theorem orderly_op (hnext : n.stage.next op = some stage) (hhs : n.Happens op hs)
    (hempty : n.EmptyAtSwitchOff op hs) :
    KeepsAlong Orderly Obs.Orderly n
      (arrived (n.arriving hs) ++ op.report (n.after op hs stage).pipe) (n.after op hs stage) := by
  intro before h
  have hoff (hs' : EventMonOff (n.after op hs stage).world.app) :
      Unsubscribed (n.after op hs stage).world.subscribed ∧ (n.after op hs stage).pipe = [] :=
    h.off_after (Stage.inLoop_of_next hnext) hhs hempty hs'
  refine ⟨⟨hoff, ?_⟩, Along.of_forall fun x hx b => ?_⟩
  · rw [← List.append_assoc]
    exact recent_of_pipe h.recent (drained_not_mem_report _)
  · rcases List.mem_append.mp hx with hx | hx
    · exact arrived_orderly _ x hx _
    · exact report_orderly hhs (fun hs' => (hoff hs').2) x hx _

theorem orderly_receive {k : Nat} {ev : EvtMsg} {rest : List (Nat × EvtMsg)}
    {lks : Fin cfg.maxMonitoredEvents → EvtLookup}
    (hon : n.world.app.currentEventMonState = .enabled) (hpipe : n.pipe = (k, ev) :: rest) :
    KeepsAlong Orderly Obs.Orderly n (.monitored k :: arrived (n.arriving hs))
      (({ n with pipe := rest } : Node cfg).after (.receiveEvent ev lks) hs .events) := by
  intro before h
  have hhead : Recent before k := h.recent (k, ev) (by rw [hpipe]; exact List.mem_cons_self)
  have hrest : ∀ e ∈ rest, Recent (before ++ [.monitored k]) e.1 := by
    intro e he
    exact (h.recent e (by rw [hpipe]; exact List.mem_cons_of_mem _ he)).append (by simp)
  have hlog (b : List Obs) : b ++ .monitored k :: arrived (n.arriving hs) =
      b ++ [.monitored k] ++ arrived (n.arriving hs) ++ [] := by simp
  refine ⟨⟨fun hoff => ?_, ?_⟩, ?_⟩
  · have hkeep := (receiveEvent_does ev lks n.world.app).currentEventMonState_eq (by decide)
    have := (hkeep.trans hon).symm.trans hoff
    cases this
  · rw [hlog]
    exact recent_of_pipe hrest (by simp)
  · refine Along.append (l := [Obs.monitored k]) (.single ?_) (Along.of_forall fun x hx b => ?_)
    · rw [List.append_nil]
      exact hhead
    · exact arrived_orderly _ x hx _

theorem orderly_drained (hpipe : n.world.app.currentEventMonState = .enabled → n.pipe = []) :
    KeepsAlong Orderly Obs.Orderly n [.drained] { n with stage := .commands } := by
  intro before h
  have hnil : n.pipe = [] := by
    cases hsw : n.world.app.currentEventMonState with
    | enabled => exact hpipe hsw
    | disabled => exact (h.off hsw).2
  refine ⟨⟨h.off, fun e he => ?_⟩, .single trivial⟩
  have he' : e ∈ n.pipe := he
  rw [hnil] at he'
  cases he'

/-- A step keeps the node orderly, and what is observed of it is. -/
theorem Step.orderly {l : List Obs} (h : Step EmptyAtSwitchOff n l n') :
    KeepsAlong Orderly Obs.Orderly n l n' := by
  cases h with
  | op hnext hhs hP => exact orderly_op hnext hhs hP
  | receive _ hon hpipe => exact orderly_receive hon hpipe
  | drained _ _ hpipe => exact orderly_drained hpipe

end Node

/-! ### Runs -/

theorem FreshStart.orderly {w : World cfg} (h : FreshStart w) : (Node.start w).Orderly [] :=
  ⟨fun hoff => ⟨h.unsubscribed hoff, rfl⟩, fun _ he => by cases he⟩

/-- **In every run in which the event pipe is empty whenever the event monitor is switched off,
each event that is acted on was sent since the pass before, and none was in the pipe when the
monitor was last disabled.** -/
theorem events_of_last_pass {w : World cfg} {n : Node cfg} {l : List Obs} (hw : FreshStart w)
    (h : Node.Run Node.EmptyAtSwitchOff (.start w) l n) : MonitorsRecent l := by
  have hlaw := KeepsAlong.law (σ := Node cfg) Node.Orderly Obs.Orderly
  have hrun := Chain.lift hlaw (fun _ _ _ hstep => Node.Step.orderly hstep) h
  refine monitorsRecent_of_along ?_
  simpa using (hrun [] hw.orderly).2

/-! ### A maintenance window -/

theorem labels_map_label (l : List (Label cfg)) : labels (l.map .label) = l := by
  induction l with
  | nil => rfl
  | cons x l ih => rw [List.map_cons, labels, ih]

namespace Node

/-- The node after an operation in whose course nothing is sent. -/
def quietly (n : Node cfg) (op : Op cfg) : Node cfg :=
  n.after op ((op.run n.world.app).log.map .label) ((n.stage.next op).getD n.stage)

/-- The operation comes next, and its calls succeed. -/
def ready (n : Node cfg) (op : Op cfg) : Bool :=
  (n.stage.next op).isSome && n.world.up && (op.run n.world.app).log.all fun x => !x.busFailure

/-- These operations come next, and their calls succeed. -/
def readyFor : Node cfg → List (Op cfg) → Bool
  | _, [] => true
  | n, op :: ops => n.ready op && readyFor (n.quietly op) ops

theorem next_of_ready {n : Node cfg} {op : Op cfg} (h : n.ready op = true) :
    n.stage.next op = some ((n.stage.next op).getD n.stage) := by
  simp only [ready, Bool.and_eq_true, Option.isSome_iff_exists] at h
  obtain ⟨⟨⟨stage, hstage⟩, -⟩, -⟩ := h
  rw [hstage]
  rfl

theorem happens_of_ready {n : Node cfg} {op : Op cfg} (h : n.ready op = true)
    {hs : List (Happening cfg)} (hhs : labels hs = (op.run n.world.app).log) : n.Happens op hs := by
  simp only [ready, Bool.and_eq_true, List.all_eq_true, Bool.not_eq_true'] at h
  exact ⟨h.1.2, hhs, h.2⟩

theorem run_quietly {P : Node cfg → Op cfg → List (Happening cfg) → Prop} {ops : List (Op cfg)}
    (hP : ∀ op ∈ ops, ∀ n hs, P n op hs) :
    ∀ {n : Node cfg}, n.readyFor ops = true → ∃ l, Run P n l (ops.foldl quietly n) := by
  induction ops with
  | nil => intro n _; exact ⟨[], .nil n⟩
  | cons op ops ih =>
    intro n h
    simp only [readyFor, Bool.and_eq_true] at h
    obtain ⟨l, hrest⟩ := ih (fun op hop => hP op (List.mem_cons_of_mem _ hop)) h.2
    have hhs := happens_of_ready h.1 (labels_map_label _)
    exact ⟨_, .cons (.op (next_of_ready h.1) hhs (hP op List.mem_cons_self n _)) hrest⟩

end Node

theorem startedWorld_fresh : FreshStart startedWorld := .intro _ _ rfl rfl

/-- The operations of a pass between the acquisition and the events. -/
def monitorOps : List (Op .small) :=
  [.decrementCooldowns, .checkUtilization ⟨success, 0, true⟩,
    .checkApplications fun _ => ⟨⟨success, 0, true⟩, ⟨success, 0, true⟩, success, true⟩,
    .outputAliveness]

/-- An event, and the answers to its lookups. -/
def event7 : EvtMsg := ⟨[65], 7⟩

def eventLookups : Fin Config.small.maxMonitoredEvents → EvtLookup :=
  fun _ => ⟨⟨success, 0, true⟩, success, success, true⟩

/-- An operation in whose course first the event is sent. -/
def withEvent (n : Node .small) (op : Op .small) : List (Happening .small) :=
  .sent .long event7 :: (op.run n.world.app).log.map .label

theorem labels_withEvent (n : Node .small) (op : Op .small) :
    labels (withEvent n op) = (op.run n.world.app).log := labels_map_label _

theorem emptyTables_keepOn : ¬ (Op.acquirePointers emptyTables).SwitchesOff := by
  show ¬ emptyTables.emt.status < success
  decide

/-- The acquisition of the first pass, with the event. -/
def afterAcquire : Node .small :=
  (Node.start startedWorld).after (.acquirePointers emptyTables)
    (withEvent (.start startedWorld) (.acquirePointers emptyTables)) .decrementCooldowns

/-- An event that is sent in a pass before its event part is acted on in it. -/
theorem events_of_last_pass_one :
    ∃ l, MonitorsRecent ([.arrived 0] ++ (l ++ [.monitored 0])) := by
  have hacquire := @Node.Step.op .small Node.EmptyAtSwitchOff (.start startedWorld)
    (.acquirePointers emptyTables) (withEvent _ _) _ rfl
    (Node.happens_of_ready rfl (labels_withEvent _ _)) (fun h => absurd h emptyTables_keepOn)
  obtain ⟨l, hmonitor⟩ : ∃ l, Node.Run Node.EmptyAtSwitchOff afterAcquire l
      (monitorOps.foldl Node.quietly afterAcquire) :=
    Node.run_quietly (by simp [monitorOps, Node.EmptyAtSwitchOff, Op.SwitchesOff]) rfl
  have hreceive := @Node.Step.receive .small Node.EmptyAtSwitchOff
    (monitorOps.foldl Node.quietly afterAcquire) 0 event7 [] eventLookups _ rfl rfl rfl
    ⟨rfl, labels_map_label _, by decide⟩
  exact ⟨l, events_of_last_pass startedWorld_fresh
    ((Chain.single hacquire).trans (hmonitor.trans (Chain.single hreceive)))⟩

def disableOp : Op .small := .appPipe disableEventMonRequest (unsubReplies success success)

def enableOp : Op .small := .appPipe enableEventMonRequest (subReplies success success)

/-- The operations of a pass up to its event part. -/
def passOps : List (Op .small) := .acquirePointers emptyTables :: monitorOps

/-- The first pass is at its commands. -/
def beforeDisable : Node .small :=
  { passOps.foldl Node.quietly (.start startedWorld) with stage := .commands }

/-- The event is sent before the monitor is disabled. -/
def afterDisable : Node .small :=
  beforeDisable.after disableOp (withEvent beforeDisable disableOp) .commands

/-- The second pass is at its commands. -/
def beforeEnable : Node .small :=
  { (.serviceWatchdog :: passOps).foldl Node.quietly afterDisable with stage := .commands }

/-- The third pass is at its events. -/
def beforeReceive : Node .small :=
  (.serviceWatchdog :: passOps).foldl Node.quietly (beforeEnable.quietly enableOp)

/-- The run up to the end of the DisableEventMon command. -/
theorem run_afterDisable : ∃ l, Node.Run (fun _ _ _ => True) (.start startedWorld)
    (l ++ ([.drained] ++ [.arrived 0, .disabled [0]])) afterDisable := by
  obtain ⟨l, hpass⟩ : ∃ l, Node.Run (fun _ _ _ => True) (.start startedWorld) l
      (passOps.foldl Node.quietly (.start startedWorld)) :=
    Node.run_quietly (fun _ _ _ _ => trivial) (by decide +kernel)
  have hdrained := @Node.Step.drained .small (fun _ _ _ => True)
    (passOps.foldl Node.quietly (.start startedWorld)) (by decide +kernel) (by decide +kernel)
    fun _ => by decide +kernel
  have hdisable := @Node.Step.op .small (fun _ _ _ => True) beforeDisable disableOp
    (withEvent _ _) _ rfl (Node.happens_of_ready (by decide +kernel) (labels_withEvent _ _)) trivial
  have hobs : Node.arrived (beforeDisable.arriving (withEvent beforeDisable disableOp)) ++
      disableOp.report afterDisable.pipe = [.arrived 0, .disabled [0]] := by decide +kernel
  have hdisabled := Chain.single hdisable
  rw [show Node.after _ _ _ _ = afterDisable from rfl, hobs] at hdisabled
  exact ⟨l, hpass.trans ((Chain.single hdrained).trans hdisabled)⟩

/-- The second pass up to its commands. -/
theorem run_beforeEnable : ∃ l, Node.Run (fun _ _ _ => True) afterDisable (l ++ [.drained])
    beforeEnable := by
  have hready : afterDisable.readyFor (.serviceWatchdog :: passOps) = true := by decide +kernel
  obtain ⟨l, hpass⟩ := Node.run_quietly (fun _ _ _ _ => trivial) hready
  have hup : ((Op.serviceWatchdog :: passOps).foldl Node.quietly afterDisable).world.up = true := by
    decide +kernel
  have hstage : ((Op.serviceWatchdog :: passOps).foldl Node.quietly afterDisable).stage =
      .events := by decide +kernel
  have hoff : ((Op.serviceWatchdog :: passOps).foldl Node.quietly
      afterDisable).world.app.currentEventMonState ≠ .enabled := by decide +kernel
  exact ⟨l, hpass.trans (Chain.single (.drained hup hstage fun hon => absurd hon hoff))⟩

theorem run_enable : Node.Run (fun _ _ _ => True) beforeEnable [.enabled]
    (beforeEnable.quietly enableOp) := by
  have hready : beforeEnable.ready enableOp = true := by decide +kernel
  have hobs : Node.arrived (beforeEnable.arriving
      ((enableOp.run beforeEnable.world.app).log.map .label)) ++
      enableOp.report (beforeEnable.quietly enableOp).pipe = [.enabled] := by decide +kernel
  rw [← hobs]
  exact Chain.single (.op (Node.next_of_ready hready)
    (Node.happens_of_ready hready (labels_map_label _)) trivial)

theorem beforeReceive_ready : beforeReceive.world.up = true ∧ beforeReceive.stage = .events ∧
    beforeReceive.world.app.currentEventMonState = .enabled ∧ beforeReceive.pipe = [(0, event7)] ∧
    ∀ x ∈ ((Op.receiveEvent event7 eventLookups).run beforeReceive.world.app).log,
      x.busFailure = false := by decide +kernel

/-- The run from there to the event. -/
theorem run_received : ∃ l l' n, Node.Run (fun _ _ _ => True) (beforeEnable.quietly enableOp)
    (l ++ .monitored 0 :: l') n := by
  have hready : (beforeEnable.quietly enableOp).readyFor (.serviceWatchdog :: passOps) = true := by
    decide +kernel
  obtain ⟨l, hpass⟩ := Node.run_quietly (fun _ _ _ _ => trivial) hready
  obtain ⟨hup, hstage, hon, hpipe, hok⟩ := beforeReceive_ready
  exact ⟨l, _, _, hpass.trans (Chain.single (.receive hstage hon hpipe
    ⟨hup, labels_map_label _, hok⟩))⟩

/-- The event is acted on although it was in the pipe when the monitor was disabled, and the
event part of a pass has gone by since it was sent. -/
theorem stale_event_monitored : ¬ ∀ (w : World .small) (n : Node .small) (l : List Obs),
    FreshStart w → Node.Run (fun _ _ _ => True) (.start w) l n → MonitorsRecent l := by
  intro h
  obtain ⟨l₁, h₁⟩ := run_afterDisable
  obtain ⟨l₂, h₂⟩ := run_beforeEnable
  obtain ⟨l₃, l₄, n, h₃⟩ := run_received
  have hrecent := h _ _ _ startedWorld_fresh (h₁.trans (h₂.trans (run_enable.trans h₃)))
  have hnot := hrecent.maintenance (l₁ ++ [.drained, .arrived 0]) (l₂ ++ [.drained]) l₃ l₄ [0] 0
    (by simp)
  exact hnot (List.mem_singleton_self 0)

end HealthSafety
