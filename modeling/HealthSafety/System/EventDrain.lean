import HealthSafety.Lib.WorkQueue
import HealthSafety.Step.MonitorEvent
import HealthSafety.System.Cooldowns
import HealthSafety.System.EventPipe
import HealthSafety.System.Resets
import HealthSafety.Tables.Validate
import Mathlib.Data.Fintype.EquivFin

/-!
# The event loop feeds itself

`HS_ProcessCommands` takes events from the event pipe until the pipe is empty.  HS is
subscribed to the events it sends itself, so what an event makes HS report comes
back through the pipe, in the same loop.  Apart from messages with a cooldown, which
are sent once, this leads from an event id of HS to others along the rows of the event
monitor table that carry the name of HS (`Leads`).

The loop ends from every reachable state, for every content of the pipe and whatever
finitely many events the other applications add, if and only if no event id leads back
to itself (`drain_terminates_iff`).
-/

namespace HealthSafety

open Lib WorkQueue Relation

variable {cfg : Config} {s t : AppData cfg} {emt : EMT cfg} {mat : MAT cfg}

/-! ### The loop -/

/-- The message in which the event services publish an event of HS. -/
def EventId.msg (cfg : Config) (e : EventId) : EvtMsg := ⟨cfg.hsName, e.code⟩

/-- The messages that a log puts into the event pipe. -/
def published (l : List (Label cfg)) : List EvtMsg := (sentEvents l).map (EventId.msg cfg)

/-- One event goes through the event monitor.  Meanwhile some of the events that other
applications have yet to send arrive between those of HS. -/
inductive Monitors :
    AppData cfg × List EvtMsg → EvtMsg → AppData cfg × List EvtMsg → List EvtMsg → Prop
  | mk {s : AppData cfg} {ev : EvtMsg} {arrived others new : List EvtMsg}
      (lks : Fin cfg.maxMonitoredEvents → EvtLookup)
      (hval : (receiveEvent ev lks s).val = .ok ())
      (hnew : Interleaved (published (receiveEvent ev lks s).log) arrived new) :
      Monitors (s, arrived ++ others) ev ((receiveEvent ev lks s).state, others) new

/-- The loop of `HS_ProcessCommands` after its first event. -/
theorem drainEvents_cons {ev : EvtMsg} {lks : Fin cfg.maxMonitoredEvents → EvtLookup}
    {l : List (Label cfg)} (hon : s.currentEventMonState = .enabled)
    (hrun : receiveEvent ev lks s = ⟨.ok (), t, l⟩) (c : CycleIn cfg) :
    drainEvents { c with events := (some ev, lks) :: c.events } s =
      ⟨(drainEvents c t).val, (drainEvents c t).state, l ++ (drainEvents c t).log⟩ := by
  have hkeep := (receiveEvent_does ev lks s).currentEventMonState_eq (by decide)
  have ht : t.currentEventMonState = .enabled := by
    rw [hrun] at hkeep
    exact hkeep.trans hon
  rw [drainEvents, Prog.get_bind, if_pos hon, drainEvents, Prog.get_bind, if_pos ht,
    Prog.each_cons, Prog.bind_assoc']
  exact Prog.bind_ok hrun

/-- The rounds of the loop up to an empty pipe are the loop of `HS_ProcessCommands`, given
the events they took. -/
theorem drainEvents_of_rounds {others others' pipe : List EvtMsg} (c : CycleIn cfg)
    (hon : s.currentEventMonState = .enabled)
    (h : ReflTransGen (Round Monitors) ((s, others), pipe) ((t, others'), [])) :
    ∃ events l, drainEvents { c with events := events } s = ⟨.ok c.eventsEnd.val, t, l⟩ := by
  generalize hx : ((s, others), pipe) = x at h
  induction h using ReflTransGen.head_induction_on generalizing s others pipe with
  | refl =>
    cases hx
    refine ⟨[], [], ?_⟩
    rw [drainEvents, Prog.get_bind, if_pos hon]
    rfl
  | @head x y hstep _ ih =>
    subst hx
    obtain ⟨⟨s', others'⟩, pipe'⟩ := y
    obtain ⟨ev, queue, new, -, hmon, -⟩ := hstep
    cases hmon with
    | mk lks hval =>
      have hrun : receiveEvent ev lks s =
          ⟨.ok (), (receiveEvent ev lks s).state, (receiveEvent ev lks s).log⟩ := by
        rw [← hval]
      have hkeep := (receiveEvent_does ev lks s).currentEventMonState_eq (by decide)
      obtain ⟨events, l, htail⟩ := ih (hkeep.trans hon) rfl
      refine ⟨(some ev, lks) :: events, (receiveEvent ev lks s).log ++ l, ?_⟩
      have hcons := drainEvents_cons hon hrun { c with events := events }
      rw [htail] at hcons
      exact hcons

/-- Every reachable state of the main loop with these tables and a subscribed event
monitor: the loop ends, whatever the pipe holds and the other applications add. -/
def DrainTerminates (emt : EMT cfg) (mat : MAT cfg) : Prop :=
  ∀ (w₀ w : World cfg) (l : List (Label cfg)), Started w₀ →
    World.Run (fun _ op => op.InLoop) w₀ l w → w.up = true →
    w.app.currentEventMonState = .enabled → (∀ mid, w.subscribed mid = true) →
    Monitoring emt mat w.app →
    ∀ pipe others : List EvtMsg, Terminates (Round Monitors) ((w.app, others), pipe)

/-- An event of HS makes the event monitor report another one, and can do so again. -/
def Leads (emt : EMT cfg) (mat : MAT cfg) (e e' : EventId) : Prop :=
  Reports emt mat (e.msg cfg) e'

/-! ### Without a cycle the loop ends -/

theorem EventId.ctorIdx_lt (e : EventId) : e.ctorIdx < 80 := by
  cases e <;> decide

instance : Finite EventId :=
  Finite.of_surjective (fun n : Fin 80 => EventId.ofNat n) fun e =>
    ⟨⟨e.ctorIdx, e.ctorIdx_lt⟩, EventId.ofNat_ctorIdx e⟩

/-- What comes of an event lies below it. -/
theorem reports_wellFounded (h : ∀ e, ¬ TransGen (Leads emt mat) e e) :
    WellFounded fun b a : EvtMsg => ∃ e, b = e.msg cfg ∧ Reports emt mat a e := by
  have hwf := wellFounded_of_acyclic h
  have hown (e : EventId) :
      Acc (fun b a : EvtMsg => ∃ e, b = e.msg cfg ∧ Reports emt mat a e) (e.msg cfg) := by
    induction e using hwf.induction with
    | _ e ih =>
      refine .intro _ ?_
      rintro b ⟨e', rfl, he'⟩
      exact ih e' he'
  refine ⟨fun a => .intro _ ?_⟩
  rintro b ⟨e, rfl, -⟩
  exact hown e

theorem drain_terminates (h : ∀ e, ¬ TransGen (Leads emt mat) e e) (hs : Monitoring emt mat s)
    (pipe others : List EvtMsg) : Terminates (Round Monitors) ((s, others), pipe) := by
  have hlt : WellFounded (Prod.Lex (· < · : Nat → Nat → Prop) (· < · : Nat → Nat → Prop)) :=
    Nat.lt_wfRel.wf.prod_lex Nat.lt_wfRel.wf
  refine terminates_of_feeds (I := fun x : AppData cfg × List EvtMsg => Monitoring emt mat x.1)
    hlt (reports_wellFounded h) (fun x => (fresh mat x.1, x.2.length)) ?_ hs pipe
  rintro _ ev _ new hs ⟨lks, hval, hnew⟩
  rename_i s arrived others
  obtain ⟨ht, hfeeds⟩ := receiveEvent_feeds ev lks s hs
  refine ⟨ht, ?_⟩
  rcases hfeeds with hfresh | ⟨hfresh, hsent⟩
  · exact .inl (.left _ _ hfresh)
  cases arrived with
  | nil =>
    refine .inr ⟨Prod.ext hfresh rfl, fun b hb => ?_⟩
    rw [hnew.eq_of_nil] at hb
    obtain ⟨e, he, rfl⟩ := List.mem_map.mp hb
    exact ⟨e, rfl, hsent e he⟩
  | cons a arrived =>
    refine .inl ?_
    simp only [hfresh]
    refine .right _ ?_
    simp only [List.length_append, List.length_cons]
    omega

/-! ### With a cycle it does not -/

/-- Every application is found, and none can be restarted or deleted. -/
def stuck (cfg : Config) : Fin cfg.maxMonitoredEvents → EvtLookup :=
  fun _ => ⟨⟨success, 0, true⟩, -1, -1, true⟩

theorem stuck_stuck (i : Fin cfg.maxMonitoredEvents) : (stuck cfg i).Stuck :=
  ⟨rfl, Int.neg_ne_zero.mpr Int.one_ne_zero, Int.neg_ne_zero.mpr Int.one_ne_zero, rfl⟩

theorem drain_goes_on (hs : Reporting emt mat s) {e : EventId}
    (he : TransGen (Leads emt mat) e e) (others : List EvtMsg) :
    ¬ Terminates (Round Monitors) ((s, others), [e.msg cfg]) := by
  have hlive : ∃ a ∈ [e.msg cfg], ∃ d, a = d.msg cfg ∧ TransGen (Leads emt mat) d e :=
    ⟨_, List.mem_singleton_self _, e, rfl, he⟩
  refine not_terminates_of_live (I := fun x : AppData cfg × List EvtMsg => Reporting emt mat x.1)
    ?_ hs hlive
  rintro ⟨s, others⟩ a hs
  obtain ⟨hval, ht, hall⟩ := receiveEvent_reports hs stuck_stuck a
  have hmon : Monitors (s, [] ++ others) a (_, others) _ :=
    .mk (stuck cfg) hval (.right_nil _)
  refine ⟨_, _, hmon, ht, ?_⟩
  rintro ⟨d, rfl, hd⟩
  obtain ⟨b, hdb, hbe⟩ := exists_leads_of_cycle he hd
  exact ⟨b.msg cfg, List.mem_map_of_mem (hall b hdb), b, rfl, hbe⟩

/-! ### A state that reports everything is reached -/

/-- Any tables, with an empty application monitor table. -/
def eventTables (emt : EMT cfg) (mat : MAT cfg) : AcquireIn cfg :=
  .ok (fun _ => ⟨[], 0, 0, 0⟩) emt mat (fun _ => ⟨[], 0, 0⟩)

theorem loadTables_ok (s : AppData cfg) : (loadTables (fun _ => success) s).val = .ok () := by
  simp [loadTables, loadTable, Prog.bind_assoc']

theorem tblInit_ok (r : AcquireIn cfg) (s : AppData cfg) :
    (tblInit ⟨fun _ => success, fun _ => success, r⟩ s).val = .ok success := by
  obtain ⟨t, l, hacq, -⟩ := acquirePointers_apply r (loadTables (fun _ => success) s).state
  simp only [tblInit, attempt, Prog.emit_bind, ne_eq, not_true_eq_false, if_false]
  refine (Prog.bind_val (loadTables_ok s)).trans ?_
  exact Prog.bind_val (congrArg Out.val hacq)

/-- `HS_AppInit` succeeds when every call does. -/
theorem appInit_ok (r : AcquireIn cfg) (s : AppData cfg) :
    (appInit (.ok r) s).val = .ok success := by
  have hsb (s : AppData cfg) : (sbInit (InitIn.ok r).sb s).val = .ok success := by
    simp [sbInit, attempt, modifyHk, InitIn.ok]
  have hsys (s : AppData cfg) : (sysMonInit (InitIn.ok r).sysMon s).val = .ok success := by
    simp [sysMonInit, InitIn.ok]
  have hinterface (s : AppData cfg) : (interfaceInit (.ok r) s).val = .ok success := by
    rw [interfaceInit, Prog.bind_val (hsb s), if_neg (not_not.mpr rfl)]
    refine (Prog.bind_val (tblInit_ok r _)).trans ?_
    rw [if_neg (not_not.mpr rfl), Prog.bind_val (hsys _), if_neg (not_not.mpr rfl)]
    rfl
  have hevs : (InitIn.ok r).evsRegister = success := rfl
  rw [appInit, Prog.emit_bind, Prog.modify_bind, Prog.emit_bind, if_neg (not_not.mpr hevs)]
  have hcds := congrArg Out.val (cdsInit_created (InitIn.ok r).restoreFromCDS (initialData cfg))
  exact (Prog.bind_val hcds).trans (hinterface _)

theorem startup_ok (s : AppData cfg) :
    (startup ⟨success, success⟩ s).val = .ok (success, .appRun) := by
  by_cases hs : s.currentEventMonState = .enabled <;>
    simp [startup, subscribeEvents, hs]

theorem after_up {w : World cfg} {op : Op cfg} (h : (op.run w.app).val = .ok ()) :
    (w.after op).up = true := by
  simp only [World.after, h]

/-- An EnableEventMon command. -/
def enableEventMonMsg (cfg : Config) : CmdMsg :=
  ⟨cfg.cmdMid, enableEventMonCC, cfg.cmdHeaderSize, 0⟩

/-- A SetMaxResets command that allows none. -/
def noResetsMsg (cfg : Config) : CmdMsg := ⟨cfg.cmdMid, setMaxResetsCC, cfg.setMaxResetsCmdSize, 0⟩

def enableEventMonOp (cfg : Config) : Op cfg := .appPipe (enableEventMonMsg cfg) (.ok cfg)

def noResetsOp (cfg : Config) : Op cfg := .appPipe (noResetsMsg cfg) (.ok cfg)

theorem accepted_enableEventMonMsg :
    accepted cfg (enableEventMonMsg cfg) = some .enableEventMon := by
  have hne := cfg.verified.mid_ne.symm
  simp [accepted, selectHandler, enableEventMonMsg, hne, enableEventMonCC, cmdHandlers,
    Handler.size]

theorem enableEventMonCmd_ok (s : AppData cfg) :
    (enableEventMonCmd success success s).val = .ok () ∧
      (enableEventMonCmd success success s).state.currentEventMonState = .enabled := by
  by_cases hs : s.currentEventMonState = .enabled <;>
    simp [enableEventMonCmd, eventMonCmd, eventMonCalls, bothCalls, countCmd, hs,
      Prog.bind_assoc']

/-- The command switches the event monitor on. -/
theorem enableEventMon_on (w : World cfg) :
    let w' := w.after (enableEventMonOp cfg)
    w'.up = true ∧ w'.app.currentEventMonState = .enabled := by
  have hrun : (enableEventMonOp cfg).run = enableEventMonCmd success success :=
    appPipe_of_accepted accepted_enableEventMonMsg _
  obtain ⟨hval, hon⟩ := enableEventMonCmd_ok w.app
  rw [← hrun] at hval hon
  exact ⟨after_up hval, hon⟩

theorem accepted_noResetsMsg : accepted cfg (noResetsMsg cfg) = some .setMaxResets := by
  have hne := cfg.verified.mid_ne.symm
  simp [accepted, selectHandler, noResetsMsg, hne, setMaxResetsCC, cmdHandlers, Handler.size]

theorem setMaxResetsCmd_ok (maxResets : UInt16) (s : AppData cfg) :
    (setMaxResetsCmd maxResets s).val = .ok () ∧
      (setMaxResetsCmd maxResets s).state.cdsData.maxResets = maxResets ∧
      (setMaxResetsCmd maxResets s).state.currentEventMonState = s.currentEventMonState := by
  simp [setMaxResetsCmd, countCmd, Prog.bind_ok (setCDSData_apply _ _ _), CDSData.of]

/-- The command takes the resets away. -/
theorem noResets_spent (w : World cfg) :
    let w' := w.after (noResetsOp cfg)
    w'.up = true ∧ w'.app.cdsData.maxResets = 0 ∧
      w'.app.currentEventMonState = w.app.currentEventMonState := by
  have hrun : (noResetsOp cfg).run = setMaxResetsCmd 0 :=
    appPipe_of_accepted accepted_noResetsMsg _
  obtain ⟨hval, hmax⟩ := setMaxResetsCmd_ok 0 w.app
  rw [← hrun] at hval hmax
  exact ⟨after_up hval, hmax⟩

/-- Loaded tables leave nothing to hold a report back. -/
theorem acquirePointers_reporting (emt : EMT cfg) (mat : MAT cfg)
    (hs : s.cdsData.maxResets = 0) :
    Reporting emt mat (acquirePointers (eventTables emt mat) s).state := by
  have hd := acquirePointers_does (eventTables emt mat) s
  have htables := acquirePointers_tables (eventTables emt mat) s
  have hnot : ¬ cfg.tblInfoUpdated < success := Int.not_lt.mpr cfg.verified.infoUpdated_pos.le
  have hkinds : ∀ k ∈ acquireKinds, k.keepsCDS = true := by decide
  have hcds := hd.keeps AppData.cdsData fun k hk _ _ _ ha => (ha.cds_eq (hkinds k hk)).1
  refine ⟨(congrArg TableView.emt htables).trans (if_neg hnot),
    (congrArg TableView.mat htables).trans (if_neg hnot),
    (congrArg TableView.msgActsState htables).trans (if_neg hnot), ?_, fun m _ => ?_⟩
  · rw [hcds, hs]
    exact UInt16.not_lt_zero
  · have hcool := hd.settlesCooling.2
      ⟨_, getAddress_mem_acquirePointers (eventTables emt mat) s, m, if_pos rfl⟩ (fun _ => 0) [] m
    rw [← UInt16.toNat_inj, hcool]
    cases Cooldown.age (Label.beat m) _ <;> simp [Cooldown.remaining]

theorem acquirePointers_on (emt : EMT cfg) (mat : MAT cfg) (w : World cfg) :
    let w' := w.after (.acquirePointers (eventTables emt mat))
    w'.up = true ∧ w'.app.currentEventMonState = w.app.currentEventMonState := by
  have hnot : ¬ cfg.tblInfoUpdated < success := Int.not_lt.mpr cfg.verified.infoUpdated_pos.le
  obtain ⟨t, l, hrun, -, -, hon⟩ := acquirePointers_apply (eventTables emt mat) w.app
  have hrun' : (Op.acquirePointers (eventTables emt mat)).run w.app = ⟨.ok (), t, l⟩ := hrun
  exact ⟨after_up (congrArg Out.val hrun'),
    (congrArg (·.state.currentEventMonState) hrun').trans (hon.trans (if_neg hnot))⟩

/-- HS starts, gets an EnableEventMon and a SetMaxResets command, and loads the tables. -/
theorem exists_reporting (emt : EMT cfg) (mat : MAT cfg) :
    ∃ (w₀ w : World cfg) (l : List (Label cfg)), Started w₀ ∧
      World.Run (fun _ op => op.InLoop) w₀ l w ∧ w.up = true ∧
      w.app.currentEventMonState = .enabled ∧ (∀ mid, w.subscribed mid = true) ∧
      Reporting emt mat w.app := by
  let w₀ := ((World.off cfg).after (.appInit (.ok (eventTables emt mat)))).after
    (.startup ⟨success, success⟩)
  have hw₀ : Started w₀ := .intro _ _ _ (appInit_ok _ _) (startup_ok _)
  have hup₀ : w₀.up = true := after_up (Prog.bind_val (startup_ok _))
  obtain ⟨hup₁, hon₁⟩ := enableEventMon_on w₀
  obtain ⟨hup₂, hmax₂, hon₂⟩ := noResets_spent (w₀.after (enableEventMonOp cfg))
  obtain ⟨hup₃, hon₃⟩ := acquirePointers_on emt mat
    ((w₀.after (enableEventMonOp cfg)).after (noResetsOp cfg))
  let P (w : World cfg) (op : Op cfg) : Prop := op.InLoop ∧ ¬ HalfDisables w op
  have henable : P w₀ (enableEventMonOp cfg) :=
    ⟨trivial, fun h => by cases accepted_enableEventMonMsg.symm.trans h.1⟩
  have hnoResets : P (w₀.after (enableEventMonOp cfg)) (noResetsOp cfg) :=
    ⟨trivial, fun h => by cases accepted_noResetsMsg.symm.trans h.1⟩
  have hload : P ((w₀.after (enableEventMonOp cfg)).after (noResetsOp cfg))
      (.acquirePointers (eventTables emt mat)) := ⟨trivial, id⟩
  have hrun := (World.Run.op (.inr hup₀) henable).trans ((World.Run.op (.inr hup₁) hnoResets).trans
    (World.Run.op (.inr hup₂) hload))
  have hon := hon₃.trans (hon₂.trans hon₁)
  have hserved := World.Run.invariant (fun _ _ _ ⟨hin, hhalf⟩ h =>
    (eventPipeServed_after_iff hin h).mpr hhalf) hrun hw₀.served
  obtain ⟨hlong, hshort⟩ := hserved hon
  refine ⟨w₀, _, _, hw₀, hrun.mono ?_, hup₃, hon, ?_, acquirePointers_reporting emt mat hmax₂⟩
  · rintro s l t ⟨op, hop, ⟨hin, -⟩, hl, ht⟩
    exact ⟨op, hop, hin, hl, ht⟩
  · rintro (_ | _)
    · exact hlong
    · exact hshort

theorem not_drainTerminates {e : EventId} (he : TransGen (Leads emt mat) e e) :
    ¬ DrainTerminates emt mat := by
  intro h
  obtain ⟨w₀, w, l, hw₀, hrun, hup, hon, hsub, hw⟩ := exists_reporting emt mat
  exact drain_goes_on hw he [] (h w₀ w l hw₀ hrun hup hon hsub hw.monitoring _ [])

/-- **The event loop ends from every reachable state, for every content of the pipe and
whatever finitely many events other applications add, if and only if no event id of HS leads
back to itself.** -/
theorem drain_terminates_iff (emt : EMT cfg) (mat : MAT cfg) :
    DrainTerminates emt mat ↔ ∀ e, ¬ TransGen (Leads emt mat) e e := by
  constructor
  · intro h e he
    exact not_drainTerminates he h
  · intro h _ w _ _ _ _ _ _ hw pipe others
    exact drain_terminates h hw pipe others

/-- An entry for the event that HS sends with a message action, with a message action. -/
def selfEMT : EMT .small := fun _ => ⟨[72, 83], 0, 44, emtActLastNonmsg + 1⟩

/-- A message without a cooldown. -/
def selfMAT : MAT .small := fun _ => ⟨matStateEnabled, 0, ⟨1, 0⟩⟩

theorem selfEMT_accepted : selfEMT.Accepted :=
  EMT.accepted_iff.mpr fun i err => by
    rw [show emtClass .small (selfEMT i) = .good from rfl]
    exact fun h => by cases h

theorem selfMAT_accepted : selfMAT.Accepted :=
  MAT.accepted_iff.mpr fun i err => by
    rw [show matClass .small (selfMAT i) = .good from rfl]
    exact fun h => by cases h

theorem selfEMT_leads : Leads selfEMT selfMAT .eventmonMsgactsErr .eventmonMsgactsErr :=
  ⟨⟨0, by decide⟩, by decide, by decide⟩

/-- Both validators accept the two tables, and the loop does not end. -/
theorem drain_feeds_itself :
    selfEMT.Accepted ∧ selfMAT.Accepted ∧ ¬ DrainTerminates selfEMT selfMAT :=
  ⟨selfEMT_accepted, selfMAT_accepted, not_drainTerminates (.single selfEMT_leads)⟩

end HealthSafety
