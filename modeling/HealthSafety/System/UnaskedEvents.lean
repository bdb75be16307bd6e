import HealthSafety.System.EventEngine
import HealthSafety.System.IdleTraffic

/-!
# Events that nobody asks for

HS receives the events of all applications.  In each cycle the rows of the event table that
was acquired in that cycle say which of them it is to act on.  The others are counted and
searched for, and then HS goes on as if they had not arrived: the run in which they are
left out, and the idle traffic with them (`MainIn.asked`), does the same
(`unasked_events_harmless`).

Which events are left out depends on the table of the cycle, so the two event loops are
compared from the states in which that table is in force (`drainEvents_matches`).
-/

namespace HealthSafety

open Lib

variable {cfg : Config} {s : AppData cfg} {emt : EMT cfg} {ev : EvtMsg}

/-! ### What is seen of a run -/

/-- A row that the event monitor looks at. -/
def Label.search : Label cfg → Bool
  | .mark (.rowRead reader _) => reader = .monitorEvent
  | _ => false

/-- What HS does, apart from answering, from looking up application names and from its search
for a row. -/
def reactions (cfg : Config) : Look (AppData cfg) (Label cfg) Stop (AppData cfg) :=
  (doings cfg).hide Label.search

theorem reactions_unseen {x : Label cfg} (h : x.search = true) : (reactions cfg).seen x = false := by
  show (!x.search && !x.answers) = false
  rw [h]
  rfl

/-! ### An event that no row asks for -/

/-- A row of the table asks for the event. -/
def AsksFor (emt : EMT cfg) (ev : EvtMsg) : Prop := ∃ i, (emt i).Hit cfg ev

instance (emt : EMT cfg) (ev : EvtMsg) : Decidable (AsksFor emt ev) :=
  inferInstanceAs (Decidable (∃ i, (emt i).Hit cfg ev))

theorem monitorEventRow_unasked (hs : s.emTablePtr = some emt) (hev : ¬ AsksFor emt ev)
    (lks : Fin cfg.maxMonitoredEvents → EvtLookup) (appId : UInt32)
    (i : Fin cfg.maxMonitoredEvents) : monitorEventRow ev lks appId i s =
      ⟨.ok appId, s, [.mark (.rowRead .monitorEvent (.emt i (emt i)))]⟩ := by
  have hhit : ¬ (emt i).Hit cfg ev := fun h => hev ⟨i, h⟩
  rw [monitorEventRow_apply hs, if_neg hhit]
  rfl

theorem searchRows_unasked (hs : s.emTablePtr = some emt) (hev : ¬ AsksFor emt ev)
    (lks : Fin cfg.maxMonitoredEvents → EvtLookup) (is : List (Fin cfg.maxMonitoredEvents))
    (appId : UInt32) : ∃ l, Prog.fold (monitorEventRow ev lks) appId is s = ⟨.ok appId, s, l⟩ ∧
      ∀ x ∈ l, x.search = true := by
  induction is with
  | nil => exact ⟨[], rfl, fun x hx => by cases hx⟩
  | cons i is ih =>
    obtain ⟨l, hrun, hl⟩ := ih
    refine ⟨.mark (.rowRead .monitorEvent (.emt i (emt i))) :: l, ?_, ?_⟩
    · rw [Prog.fold_cons, Prog.bind_ok (monitorEventRow_unasked hs hev lks appId i), hrun]
      rfl
    · exact List.forall_mem_cons.mpr ⟨rfl, hl⟩

/-- The event is counted, and no row is found for it. -/
theorem receiveEvent_unasked (hs : s.emTablePtr = some emt) (hev : ¬ AsksFor emt ev)
    (lks : Fin cfg.maxMonitoredEvents → EvtLookup) : ∃ l, receiveEvent ev lks s =
      ⟨.ok (), { s with eventsMonitoredCount := s.eventsMonitoredCount + 1 }, l⟩ ∧
        ∀ x ∈ l, x.search = true := by
  let s' : AppData cfg := { s with eventsMonitoredCount := s.eventsMonitoredCount + 1 }
  have hs' : s'.emTablePtr = some emt := hs
  obtain ⟨l, hrun, hl⟩ := searchRows_unasked hs' hev lks (List.finRange cfg.maxMonitoredEvents) 0
  refine ⟨l ++ [], ?_, ?_⟩
  · rw [receiveEvent, Prog.modify_bind, monitorEvent, Prog.bind_ok hrun]
    rfl
  · rwa [List.append_nil]

/-- Nothing is seen of the event. -/
theorem receiveEvent_silent (hs : s.emTablePtr = some emt) (hev : ¬ AsksFor emt ev)
    (lks : Fin cfg.maxMonitoredEvents → EvtLookup) :
    SilentFrom (reactions cfg) (receiveEvent ev lks) s := by
  refine .of_apply fun t ht => ?_
  have hptr : t.course.emTablePtr = s.course.emTablePtr := congrArg AppData.emTablePtr ht
  have hs' : t.emTablePtr = some emt := hptr.trans hs
  obtain ⟨l, hrun, hl⟩ := receiveEvent_unasked hs' hev lks
  exact ⟨(), _, l, hrun, rfl, fun x hx => reactions_unseen (hl x hx)⟩

/-! ### The event loop -/

/-- What arrives on the event pipe is an event that a row of the acquired table asks for. -/
def CycleIn.asksFor (c : CycleIn cfg) (buf : Option EvtMsg) : Bool :=
  buf.any fun ev => AsksFor c.acquire.emt.table ev

/-- The cycle with the events that are asked for, and without idle traffic. -/
def CycleIn.asked (c : CycleIn cfg) : CycleIn cfg :=
  { c.quiet with events := c.events.filter fun e => c.asksFor e.1 }

/-- The same answers of the environment, with the events that are asked for, and without
idle traffic. -/
def MainIn.asked (i : MainIn cfg) : MainIn cfg := i.withCycles CycleIn.asked

theorem eventLoop_matches {c : CycleIn cfg} (hs : s.emTablePtr = some c.acquire.emt.table)
    {s' : AppData cfg} (hview : s.course = s'.course) :
    Matches (reactions cfg)
      (Prog.each c.events (fun e => match e.1 with
        | some ev => receiveEvent ev e.2
        | none => pure ()) s)
      (Prog.each (c.events.filter fun e => c.asksFor e.1) (fun e => match e.1 with
        | some ev => receiveEvent ev e.2
        | none => pure ()) s') := by
  refine Matches.each_filter (I := fun t => t.emTablePtr = some c.acquire.emt.table)
    (fun e _ => ?_) (fun e t ht => ?_) (fun e t he ht => ?_) c.events s s' hs hview <;>
    obtain ⟨_ | ev, lks⟩ := e
  · exact .pure _
  · exact (receiveEvent_onCourse ev lks).hide _
  · exact ht
  · exact (congrArg TableView.emt (receiveEvent_does ev lks t).tables_eq).trans ht
  · exact (Silent.pure ()).silentFrom t
  · refine receiveEvent_silent ht ?_ lks
    simpa [CycleIn.asksFor] using he

theorem drainEvents_matches {c : CycleIn cfg} (hloaded : MonitorsLoaded c.acquire s)
    {s' : AppData cfg} (hview : s.course = s'.course) :
    Matches (reactions cfg) (drainEvents c s) (drainEvents c.asked s') := by
  have hcourse : s.course.currentEventMonState = s'.course.currentEventMonState :=
    congrArg AppData.currentEventMonState hview
  have hswitch : s.currentEventMonState = s'.currentEventMonState := hcourse
  rw [drainEvents, drainEvents, Prog.get_bind, Prog.get_bind, ← hswitch]
  by_cases hon : s.currentEventMonState = .enabled
  · have hptr : s.emTablePtr = some c.acquire.emt.table :=
      emTablePtr_of_acquired hloaded.tables (hloaded.eventMon hon)
    rw [if_pos hon, if_pos hon]
    exact (eventLoop_matches hptr hview).bind fun _ t t' _ ht => .inl ⟨rfl, ht, rfl⟩
  · rw [if_neg hon, if_neg hon]
    exact .inl ⟨rfl, hview, rfl⟩

/-! ### Runs -/

theorem beforeEvents_onCourse (c : CycleIn cfg) : OnCourse (beforeEvents c) := by
  refine .bind (acquirePointers_onCourse _) fun _ => .bind ?_ fun _ =>
    .bind (checkUtilization_onCourse _) fun _ => .bind (checkApplications_onCourse _) fun _ =>
    outputAliveness_onCourse
  exact .bind (.emit _) fun _ => .set fun _ => rfl

theorem processMain_asked (c : CycleIn cfg) :
    Follows (reactions cfg) (processMain c) (processMain c.asked) := by
  intro s s' hs
  rw [processMain_beforeEvents, processMain_beforeEvents]
  refine ((beforeEvents_onCourse c).hide _ s s' hs).bind fun u t t' hrun hview => ?_
  have hloaded : MonitorsLoaded c.acquire t := AtEventLoop.monitorsLoaded ⟨s, _, hrun⟩
  have hcmds : Follows (reactions cfg) (drainCommands c) (drainCommands c.asked) :=
    (drainCommands_follows c).hide _
  refine ((drainEvents_matches hloaded hview).bind fun status t₂ t₂' _ hview₂ => ?_).bind
    fun status t₃ t₃' _ hview₃ => ?_
  · exact (Follows.ite (.bind hcmds fun _ => .pure _) (.pure _)) t₂ t₂' hview₂
  · have hwatchdog : OnCourse (serviceWatchdog : HsM cfg Unit) :=
      .read (fun _ => rfl) fun _ => .when (.emit _)
    exact (Follows.bind (hwatchdog.hide _) fun _ => .pure _) t₃ t₃' hview₃

/-- **Events that nobody asks for change nothing.**  Take any run of `HS_AppMain`, and leave
out of what arrives on the event pipe in each turn every event that hits no row of the
event table that HS acquired in that turn, and the idle traffic on the command pipe.  HS
returns the same, with the same `HS_AppData` less what is only reported, and does the same
in between, in the same order, apart from answering, from looking up application names and
from its search for a row; or a housekeeping request of the run has read a table that is not
there, and up to there HS has done the same. -/
theorem unasked_events_harmless (timeOut : Status) (i : MainIn cfg) (n : Nat) (s : AppData cfg) :
    Matches (reactions cfg) (appMain timeOut i n s) (appMain timeOut i.asked n s) :=
  appMain_matches_cycles (fun h => h.hide _) processMain_asked timeOut i n s

end HealthSafety
