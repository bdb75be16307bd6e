import HealthSafety.Model.Main
import HealthSafety.System.EventPipe
import HealthSafety.System.Panel
import HealthSafety.Tables.HkSnapshot

/-!
# HS does what its panel says

One lemma for each function of HS: it traces the panel (`Traces`).  The monitors do so as
long as their switch is on, and are called only while it is.  The housekeeping request
sends what the panel shows, since its loops leave the panel and the copied part of the
packet alone (`Still`).  The acquisition of a table tells the panel its status, and reports
a loss that is owed with the very next call (`told_lost`).  At the end stands
`HS_AppMain` (`appMain_traces`).
-/

namespace HealthSafety

open Lib

variable {cfg : Config}

/-! ### The monitors -/

/-- The application monitor is on. -/
def Panel.AppMonOn (p : Panel) : Prop := p.appMon = .enabled

/-- The event monitor is on. -/
def Panel.EventMonOn (p : Panel) : Prop := p.eventMon = .enabled

/-- Only the switches matter. -/
def Panel.SwitchOnly (P : Panel → Prop) : Prop :=
  ∀ p n, P p → P { p with msgActExec := n }

section

variable {P : Panel → Prop}

theorem setCDSData_traces (a b : UInt16) (s : AppData cfg) : Traces P (setCDSData a b) s :=
  .bind (.modify rfl) fun _ _ => .get_bind (.ite (fun _ => .idle rfl _) fun _ => .pure _ _)

theorem procReset_traces (returns : Bool) (s : AppData cfg) : Traces P (procReset returns) s := by
  refine .get_bind (.ite (fun _ => ?_) fun _ => .idle rfl _)
  refine .bind (setCDSData_traces _ _ _) fun _ _ => .bind (.idle rfl _) fun _ _ =>
    .bind (.idle rfl _) fun _ _ => .bind (.modify rfl) fun _ _ => ?_
  exact .get_bind (.bind (.idle rfl _) fun _ _ => .ite (fun _ => .halt _ _) fun _ => .pure _ _)

theorem deref_traces {α : Type} (tbl : TableId) (reader : Reader) (p : Option α) (s : AppData cfg) :
    Traces P (deref tbl reader p) s := by
  cases p with
  | some t => exact .pure t s
  | none => exact .bind (.idle rfl _) fun _ _ => .halt _ _

theorem readAmt_traces (reader : Reader) (i : Fin cfg.maxMonitoredApps) (s : AppData cfg) :
    Traces P (readAmt reader i) s :=
  .get_bind (.bind (deref_traces _ _ _ _) fun _ _ => .bind (.idle rfl _) fun _ _ => .pure _ _)

theorem readEmt_traces (reader : Reader) (i : Fin cfg.maxMonitoredEvents) (s : AppData cfg) :
    Traces P (readEmt reader i) s :=
  .get_bind (.bind (deref_traces _ _ _ _) fun _ _ => .bind (.idle rfl _) fun _ _ => .pure _ _)

theorem msgAction_traces (hP : Panel.SwitchOnly P) (reader : Reader) {eid : EventId}
    (heid : eid.idle = true) (args : List EvtArg) (n : UInt32) (s : AppData cfg) :
    Traces P (msgAction reader eid args n) s := by
  unfold Traces Moves
  have hidle {l : List (Label cfg)} (hl : ∀ x ∈ l, x.idle = true) :
      (panelObserver cfg).Follows P AppData.panel s l s :=
    .of_ignored s.panel_settled (fun x hx => Label.ignored (hl x hx)) rfl
  obtain hn | ⟨idx, hn, h | ⟨hs, hc, hm | ⟨mat, hm⟩⟩⟩ := msgAction_cases s n
  · rw [msgAction_invalid hn]
    exact hidle (by simp [Label.idle])
  · rw [msgAction_off h hn]
    exact hidle (by simp [Label.idle])
  · rw [msgAction_null hs hc hm hn]
    exact hidle (by simp [Label.idle])
  by_cases he : (mat idx).enableState = matStateDisabled
  · rw [msgAction_rowOff hs hc hm he hn]
    exact hidle (by simp [Label.idle])
  · rw [msgAction_sent hs hc hm he hn]
    have hreads := hidle (l := [.mark (.rowRead reader (.mat idx (mat idx))),
      .mark (.msgAct idx .enabled (some (mat idx)) true)]) (by simp [Label.idle])
    refine (Traces.law P).append hreads ?_
    refine Observer.Follows.cons (u := s.countMsgAct idx (mat idx)) (fun _ => ⟨rfl, hs⟩) rfl
      (hP _ _) ?_
    refine Observer.Follows.of_ignored (AppData.panel_settled _) (fun x hx => ?_) rfl
    split at hx
    · rw [List.mem_singleton.mp hx]
      exact Label.ignored heid
    · cases hx

theorem resolveApp_traces (i : Fin cfg.maxMonitoredApps) (row : AMTEntry) (lk : AppLookup)
    (v : AppMonVars) (s : AppData cfg) : Traces P (resolveApp i row lk v) s := by
  refine .bind (.idle rfl _) fun _ _ => .ite (fun _ => ?_) fun _ => ?_
  · exact .bind (.idle rfl _) fun _ _ => .pure _ _
  · refine .bind (.get_bind ?_) fun _ _ => .pure _ _
    exact .ite (fun _ => .idle rfl _) fun _ => .idle rfl _

theorem appCommand_traces (row : EMTEntry) (lk : EvtLookup) (appId : UInt32)
    {okEid errEid : EventId} {cmd : UInt32 → Call cfg} (hok : okEid.idle = true)
    (herr : errEid.idle = true) (hcmd : ∀ n, (Label.call (cmd n)).idle = true)
    (cmdStatus : Status) (s : AppData cfg) :
    Traces P (appCommand row lk appId okEid errEid cmd cmdStatus) s := by
  refine .bind (.idle rfl _) fun _ _ => .bind (.ite (fun _ => ?_) fun _ => .event herr _ _ _)
    fun _ _ => .pure _ _
  refine .bind (.event hok _ _ _) fun _ _ => .bind (.idle (hcmd _) _) fun _ _ => ?_
  exact .ite (fun _ => .event herr _ _ _) fun _ => .pure _ _

end

theorem switchOnly_appMonOn : Panel.SwitchOnly Panel.AppMonOn := fun _ _ h => h

theorem switchOnly_eventMonOn : Panel.SwitchOnly Panel.EventMonOn := fun _ _ h => h

theorem appMonAction_traces (i : Fin cfg.maxMonitoredApps) (row : AMTEntry) (lk : AppLookup)
    (status : Status) (appId : UInt32) (s : AppData cfg) :
    Traces Panel.AppMonOn (appMonAction i row lk status appId) s := by
  refine .bind (.emit rfl (fun hs => hs) rfl) fun _ _ => ?_
  refine .ite (fun _ => ?_) fun _ => .ite (fun _ => ?_) fun _ => .ite (fun _ => .idle rfl _)
    fun _ => msgAction_traces switchOnly_appMonOn _ rfl _ _ _
  · exact .bind (.idle rfl _) fun _ _ => procReset_traces _ _
  · refine .bind (.idle rfl _) fun _ _ => .ite (fun _ => ?_) fun _ => .idle rfl _
    exact .bind (.idle rfl _) fun _ _ => .ite (fun _ => .idle rfl _) fun _ => .pure _ _

theorem countdownApp_traces (i : Fin cfg.maxMonitoredApps) (row : AMTEntry) (lk : AppLookup)
    (status : Status) (v : AppMonVars) (s : AppData cfg) :
    Traces Panel.AppMonOn (countdownApp i row lk status v) s := by
  refine .get_bind (.ite (fun _ => .modify rfl) fun _ => ?_)
  refine .bind (.modify rfl) fun _ _ => .get_bind (.when fun _ => ?_)
  exact .bind (.modify rfl) fun _ _ => appMonAction_traces _ _ _ _ _ _

theorem monitorApp_traces (lks : Fin cfg.maxMonitoredApps → AppLookup) (v : AppMonVars)
    (i : Fin cfg.maxMonitoredApps) (s : AppData cfg) :
    Traces Panel.AppMonOn (monitorApp lks v i) s := by
  refine .bind (readAmt_traces _ _ _) fun _ _ => .get_bind (.ite (fun _ => ?_) fun _ => .pure _ _)
  exact .bind (resolveApp_traces _ _ _ _ _) fun _ _ =>
    .bind (countdownApp_traces _ _ _ _ _ _) fun _ _ => .pure _ _

/-- The application monitor acts only while it is on. -/
theorem checkApplications_traces (lks : Fin cfg.maxMonitoredApps → AppLookup) (s : AppData cfg) :
    Traces Panel.Any (checkApplications lks) s := by
  refine .get_bind (.when fun hon => Traces.inside (Q := Panel.AppMonOn) ?_ hon)
  exact .bind (.fold _ (monitorApp_traces lks) _ _) fun _ _ => .pure _ _

theorem eventAction_traces (i : Fin cfg.maxMonitoredEvents) (row : EMTEntry) (lk : EvtLookup)
    (appId : UInt32) (s : AppData cfg) :
    Traces Panel.EventMonOn (eventAction i row lk appId) s := by
  refine .bind (.emit rfl (fun hs => hs) rfl) fun _ _ => ?_
  refine .ite (fun _ => ?_) fun _ => .ite (fun _ => ?_) fun _ => .ite (fun _ => ?_) fun _ => ?_
  · exact .bind (.idle rfl _) fun _ _ => .bind (procReset_traces _ _) fun _ _ => .pure _ _
  · exact appCommand_traces _ _ _ rfl rfl (fun _ => rfl) _ _
  · exact appCommand_traces _ _ _ rfl rfl (fun _ => rfl) _ _
  · exact .bind (msgAction_traces switchOnly_eventMonOn _ rfl _ _ _) fun _ _ => .pure _ _

theorem receiveEvent_traces (ev : EvtMsg) (lks : Fin cfg.maxMonitoredEvents → EvtLookup)
    (s : AppData cfg) : Traces Panel.EventMonOn (receiveEvent ev lks) s := by
  refine .bind (.modify rfl) fun _ _ => .bind (.fold _ (fun appId i s => ?_) _ _)
    fun _ _ => .pure _ _
  exact .bind (readEmt_traces _ _ _) fun _ _ =>
    .ite (fun _ => eventAction_traces _ _ _ _ _) fun _ => .pure _ _

/-- The event monitor acts only while it is on. -/
theorem drainEvents_traces (c : CycleIn cfg) (s : AppData cfg) :
    Traces Panel.Any (drainEvents c) s := by
  refine .get_bind (.ite (fun hon => Traces.inside (Q := Panel.EventMonOn) ?_ hon)
    fun _ => .pure _ _)
  refine .bind (.each _ (fun e s => ?_) _) fun _ _ => .pure _ _
  obtain ⟨_ | ev, lks⟩ := e
  · exact .pure _ _
  · exact receiveEvent_traces ev lks s

/-! ### The utilization monitor and the aliveness output -/

theorem sysMonGetCpuUtilization_traces (r : Reply Int) (s : AppData cfg) :
    Traces Panel.Any (sysMonGetCpuUtilization r) s := by
  refine .get_bind (.ite (fun _ => .pure _ _) fun _ => .bind (.idle rfl _) fun _ _ => ?_)
  exact .ite (fun _ => .pure _ _) fun _ => .pure _ _

/-- Hogging is reported only while its monitor is on. -/
theorem checkHogging_traces (util : Int) (s : AppData cfg) :
    Traces Panel.Any (checkHogging util) s := by
  refine .get_bind (.ite (fun hon => ?_) fun _ => .modify rfl)
  refine .modify_bind rfl (.get_bind (.ite (fun _ => ?_) fun _ => .pure _ _))
  exact .bind (.emit rfl (fun _ => hon.2) rfl) fun _ _ => .idle rfl _

theorem monitorUtilization_traces (r : Reply Int) (s : AppData cfg) :
    Traces Panel.Any (monitorUtilization r) s := by
  refine .get_bind (.bind (.modify rfl) fun _ _ => .get_bind (.bind (.when fun _ => .modify rfl)
    fun _ _ => .bind (sysMonGetCpuUtilization_traces _ _) fun _ _ => ?_))
  refine .ite (fun _ => .modify rfl) fun _ => .bind (checkHogging_traces _ _) fun _ _ => ?_
  split
  · exact .bind (.modify rfl) fun _ _ => .get_bind (.modify rfl)
  · exact .halt _ _

theorem checkUtilization_traces (r : Reply Int) (s : AppData cfg) :
    Traces Panel.Any (checkUtilization r) s := by
  refine .get_bind (.bind (.when fun _ => ?_) fun _ _ => .modify rfl)
  exact .bind (monitorUtilization_traces _ _) fun _ _ => .modify rfl

/-- Aliveness is printed only while its output is on. -/
theorem outputAliveness_traces (s : AppData cfg) : Traces Panel.Any outputAliveness s := by
  refine .get_bind (.when fun hon => .modify_bind rfl (.get_bind (.when fun _ => ?_)))
  exact .bind (.emit rfl (fun _ => hon) rfl) fun _ _ => .modify rfl

/-! ### The housekeeping request -/

/-- The part of the packet that repeats the panel. -/
def HkTlmPayload.header (p : HkTlmPayload cfg) :=
  (p.cmdCount, p.cmdErrCount, p.currentAppMonState, p.currentEventMonState,
    p.currentAlivenessState, p.currentCPUHogState, p.msgActExec, p.statusFlags)

/-- Only labels of no interest, and the panel and the packet say the same as before. -/
def Still (s : AppData cfg) (l : List (Label cfg)) (t : AppData cfg) : Prop :=
  (∀ x ∈ l, x.idle = true) ∧ t.panel = s.panel ∧ t.hkPacket.header = s.hkPacket.header

theorem Still.law : Law (@Still cfg) := by
  refine ⟨fun s => ⟨by simp, rfl, rfl⟩, fun {s t u l l'} hst htu => ?_⟩
  obtain ⟨hl, hpanel, hheader⟩ := hst
  obtain ⟨hl', hpanel', hheader'⟩ := htu
  exact ⟨List.forall_mem_append.mpr ⟨hl, hl'⟩, hpanel'.trans hpanel, hheader'.trans hheader⟩

theorem Still.idle {x : Label cfg} (h : x.idle = true) (s : AppData cfg) :
    Moves Still (Prog.emit x : HsM cfg Unit) s :=
  ⟨List.forall_mem_singleton.mpr h, rfl, rfl⟩

theorem Still.modifyHk {f : AppData cfg → HkTlmPayload cfg} {s : AppData cfg}
    (h : (f s).header = s.hkPacket.header) : Moves Still (modifyHk f) s :=
  ⟨by rintro x ⟨⟩, rfl, h⟩

theorem Still.modify {f : AppData cfg → AppData cfg} {s : AppData cfg}
    (h : (f s).panel = s.panel) (hk : (f s).hkPacket.header = s.hkPacket.header) :
    Moves Still (modifyApp f) s := ⟨by rintro x ⟨⟩, h, hk⟩

theorem Still.traces {α : Type} {P : Panel → Prop} {m : HsM cfg α} {s : AppData cfg}
    (h : Moves Still m s) : Traces P m s :=
  .of_ignored s.panel_settled (fun x hx => Label.ignored (h.1 x hx)) h.2.1

theorem Traces.bind_still {α β : Type} {P : Panel → Prop} {m : HsM cfg α} {f : α → HsM cfg β}
    {s : AppData cfg} (hm : Moves Still m s)
    (hf : ∀ a t, t.panel = s.panel → t.hkPacket.header = s.hkPacket.header → Traces P (f a) t) :
    Traces P (m >>= f) s :=
  Moves.bind (law P) (Still.traces hm) fun a _ => hf a _ hm.2.1 hm.2.2

theorem deref_still {α : Type} (tbl : TableId) (reader : Reader) (p : Option α) (s : AppData cfg) :
    Moves Still (deref tbl reader p) s := by
  cases p with
  | some t => exact Moves.pure Still.law t s
  | none => exact Moves.bind Still.law (.idle rfl _) fun _ _ => Moves.stop Still.law _ _

theorem countInvalidEvent_still (status : Fin cfg.maxMonitoredEvents → Status)
    (i : Fin cfg.maxMonitoredEvents) (s : AppData cfg) :
    Moves Still (countInvalidEvent status i) s := by
  have hread (s : AppData cfg) : Moves Still (readEmt .sendHkCmd i) s :=
    .get_bind (.bind Still.law (deref_still _ _ _ _) fun _ _ =>
      .bind Still.law (.idle rfl _) fun _ _ => .pure Still.law _ _)
  refine .bind Still.law (hread s) fun _ _ => .ite (fun _ => ?_) fun _ => .pure Still.law _ _
  refine .bind Still.law (.idle rfl _) fun _ _ => .ite (fun _ => ?_) fun _ => .pure Still.law _ _
  exact .modifyHk rfl

theorem exeCount_still (row : XCTEntry) (lk : ExeLookup) (s : AppData cfg) :
    Moves Still (exeCount row lk) s := by
  refine .ite (fun _ => ?_) fun _ => .ite (fun _ => ?_) fun _ => .ite
    (fun _ => .pure Still.law _ _) fun _ => .bind Still.law (.idle rfl _) fun _ _ =>
      .pure Still.law _ _
  · refine .bind Still.law (.idle rfl _) fun _ _ => .ite (fun _ => ?_) fun _ => .pure Still.law _ _
    exact .bind Still.law (.idle rfl _) fun _ _ => .pure Still.law _ _
  · refine .bind Still.law (.idle rfl _) fun _ _ => .ite (fun _ => ?_) fun _ => .pure Still.law _ _
    exact .bind Still.law (.idle rfl _) fun _ _ => .pure Still.law _ _

theorem reportExeCount_still (lks : Fin cfg.maxExecCntSlots → ExeLookup)
    (i : Fin cfg.maxExecCntSlots) (s : AppData cfg) : Moves Still (reportExeCount lks i) s := by
  have hread (s : AppData cfg) : Moves Still (readXct .sendHkCmd i) s :=
    .get_bind (.bind Still.law (deref_still _ _ _ _) fun _ _ =>
      .bind Still.law (.idle rfl _) fun _ _ => .pure Still.law _ _)
  refine .get_bind (.ite (fun _ => ?_) fun _ => .modifyHk rfl)
  exact .bind Still.law (hread s) fun _ _ => .bind Still.law (exeCount_still _ _ _) fun _ _ =>
    .modifyHk rfl

/-- What a packet made now should repeat. -/
def AppData.header (s : AppData cfg) :=
  (s.cmdCount, s.cmdErrCount, s.currentAppMonState, s.currentEventMonState,
    s.currentAlivenessState, s.currentCPUHogState, s.msgActExec, statusFlags s)

theorem shows_of_header {s : AppData cfg} {q : HkTlmPayload cfg} (h : q.header = s.header) :
    s.panel.Shows q := by
  simp only [HkTlmPayload.header, AppData.header, Prod.mk.injEq] at h
  obtain ⟨hcmd, herr, happ, hevent, halive, hhog, hexec, hflags⟩ := h
  have hset := statusFlags_set s
  rw [← hflags] at hset
  exact ⟨hcmd, herr, happ, hevent, halive, hhog, hexec, hset.xct, hset.mat, hset.amt, hset.emt⟩

/-- The fields that are copied at the start and those that are copied between the loops. -/
theorem header_of_copies {s t : AppData cfg} (hpanel : t.panel = s.panel)
    (hheader : t.hkPacket.header = (s.hkPacket.update s).header) :
    (t.copyRest t.hkPacket).header = t.header := by
  simp only [HkTlmPayload.header, HkTlmPayload.update, Prod.mk.injEq] at hheader
  obtain ⟨hcmd, herr, happ, hevent, halive, hhog, hexec, -⟩ := hheader
  simp only [HkTlmPayload.header, AppData.copyRest, AppData.header, Prod.mk.injEq]
  refine ⟨?_, ?_, ?_, ?_, ?_, ?_, ?_, trivial⟩
  · exact hcmd.trans (congrArg Panel.cmdCount hpanel).symm
  · exact herr.trans (congrArg Panel.cmdErrCount hpanel).symm
  · exact happ.trans (congrArg Panel.appMon hpanel).symm
  · exact hevent.trans (congrArg Panel.eventMon hpanel).symm
  · exact halive.trans (congrArg Panel.aliveness hpanel).symm
  · exact hhog.trans (congrArg Panel.cpuHog hpanel).symm
  · exact hexec.trans (congrArg Panel.msgActExec hpanel).symm

/-- The packet that is sent shows the panel. -/
theorem sendHkCmd_traces (r : HkIn cfg) (s : AppData cfg) :
    Traces Panel.Any (sendHkCmd r) s := by
  have hevents (s : AppData cfg) := Moves.each Still.law (List.finRange cfg.maxMonitoredEvents)
    (fun i _ => countInvalidEvent_still r.appIDByName i) s
  have hslots (s : AppData cfg) := Moves.each Still.law (List.finRange cfg.maxExecCntSlots)
    (fun i _ => reportExeCount_still r.exe i) s
  refine .bind (.idle rfl _) fun _ s => .modify_bind rfl ?_
  refine .bind_still (hevents _) fun _ t ht hheader => .modify_bind rfl ?_
  refine .bind_still (hslots _) fun _ u hu hheader' => .get_bind (.emit rfl (fun _ => ?_) rfl)
  show u.panel.Shows u.hkPacket
  rw [hu]
  exact shows_of_header (hheader'.trans (header_of_copies ht hheader))

/-! ### The commands -/

theorem appMonStatusRefresh_still (s : AppData cfg) : Moves Still appMonStatusRefresh s := by
  have hread (i : Fin cfg.maxMonitoredApps) (s : AppData cfg) :
      Moves Still (readAmt .appMonStatusRefresh i) s :=
    .get_bind (.bind Still.law (deref_still _ _ _ _) fun _ _ =>
      .bind Still.law (.idle rfl _) fun _ _ => .pure Still.law _ _)
  refine .bind Still.law (.modify rfl rfl) fun _ _ => .each Still.law _ (fun i _ s => ?_) _
  refine .bind Still.law (.modify rfl rfl) fun _ _ => .bind Still.law (hread i _) fun _ _ => ?_
  exact .ite (fun _ => .modify rfl rfl) fun _ => .modify rfl rfl

/-- The handler counts the command as soon as it starts. -/
def Handler.Counts (h : Handler) : Prop :=
  ∀ p : Panel, p.afterHandler h = { p with cmdCount := p.cmdCount + 1 }

theorem counted_traces {h : Handler} (hh : h.Counts) {rest : HsM cfg Unit} {s : AppData cfg}
    (hrest : ∀ s, Traces Panel.Any rest s) :
    Traces Panel.Any (mark (.handler h) >>= fun _ => countCmd >>= fun _ => rest) s :=
  .emit_modify rfl (fun _ => trivial) (hh s.panel).symm (fun _ => trivial) (hrest _)

theorem enableAppMonCmd_traces (s : AppData cfg) : Traces Panel.Any enableAppMonCmd s :=
  counted_traces (fun _ => rfl) fun s => .bind (Still.traces (appMonStatusRefresh_still s))
    fun _ _ => .modify_emit rfl (fun _ => trivial) rfl fun _ => trivial

theorem resetCmd_traces (s : AppData cfg) : Traces Panel.Any resetCmd s :=
  .emit_modify rfl (fun _ => trivial) rfl (fun _ => trivial) (.idle rfl _)

/-- The event counts a command as an error. -/
def EventId.CountsErr (eid : EventId) : Prop :=
  eid.lost = none ∧ eid ≠ .cpumonHoggingErr ∧
    ∀ p : Panel, p.afterEvent eid = { p with cmdErrCount := p.cmdErrCount + 1 }

theorem EventId.permits_of_ne {eid : EventId} (h : eid ≠ .cpumonHoggingErr) (p : Panel)
    (type : EventType) (args : List EvtArg) :
    p.permits (.call (.sendEvent eid type args) : Label cfg) := by
  cases eid <;> first | exact trivial | exact absurd rfl h

theorem switchCmd_traces {h : Handler} (hh : h.Counts) {set : AppData cfg → AppData cfg}
    {eid : EventId} (hlost : eid.lost = none) (hne : eid ≠ .cpumonHoggingErr)
    (hset : ∀ s, (set s).panel = s.panel.afterEvent eid) (s : AppData cfg) :
    Traces Panel.Any (switchCmd h set eid) s :=
  counted_traces hh fun s => .modify_emit hlost (fun _ => EventId.permits_of_ne hne _ _ _)
    (hset s) fun _ => trivial

theorem told_err {eid : EventId} (h : eid.CountsErr) (type : EventType) (args : List EvtArg)
    (s : AppData cfg) :
    (panelObserver cfg).Follows Panel.Any AppData.panel s [.call (.sendEvent eid type args)]
      { s with cmdErrCount := s.cmdErrCount + 1 } :=
  told h.1 (EventId.permits_of_ne h.2.1 _ _ _) (h.2.2 s.panel)

section

variable {h : Handler} {target : SwitchState} {first second : Status → Call cfg}
  {firstEid secondEid eid : EventId}

/-- An event monitor command is counted when its bus calls have succeeded or failed. -/
theorem eventMonCmd_traces (hh : (Label.mark (.handler h) : Label cfg).idle = true)
    (hfirst : ∀ st, (Label.call (first st)).idle = true)
    (hsecond : ∀ st, (Label.call (second st)).idle = true) (hfirstEid : firstEid.CountsErr)
    (hsecondEid : secondEid.CountsErr) (hlost : eid.lost = none) (hne : eid ≠ .cpumonHoggingErr)
    (heid : ∀ p : Panel, p.afterEvent eid =
      { p with eventMon := target, cmdCount := p.cmdCount + 1 })
    (firstStatus secondStatus : Status) (s : AppData cfg) :
    Traces Panel.Any (eventMonCmd h target
      (bothCalls first second firstStatus secondStatus firstEid secondEid) eid) s := by
  have hdone : (panelObserver cfg).Follows Panel.Any AppData.panel s
      [.call (.sendEvent eid .debug [])]
      { s with cmdCount := s.cmdCount + 1, currentEventMonState := target } :=
    told hlost (EventId.permits_of_ne hne _ _ _) (heid s.panel)
  have hlaw : Law ((panelObserver cfg).Follows Panel.Any AppData.panel) := Traces.law _
  unfold Traces Moves
  by_cases hs : s.currentEventMonState = target
  · have hcalls : eventMonCalls target
        (bothCalls first second firstStatus secondStatus firstEid secondEid) s =
          ⟨.ok success, s, []⟩ := by
      rw [eventMonCalls, Prog.get_bind, if_pos hs]
      rfl
    rw [eventMonCmd_done hcalls]
    exact hlaw.append (told_idle (List.forall_mem_singleton.mpr hh) rfl) hdone
  have hcalls : eventMonCalls target
      (bothCalls first second firstStatus secondStatus firstEid secondEid) s =
        bothCalls first second firstStatus secondStatus firstEid secondEid s := by
    rw [eventMonCalls, Prog.get_bind, if_neg hs]
  rw [bothCalls_apply, bothLog] at hcalls
  by_cases h₁ : firstStatus = success
  · rw [if_pos h₁, if_pos h₁] at hcalls
    by_cases h₂ : secondStatus = success
    · subst h₂
      rw [if_neg (not_not.mpr rfl)] at hcalls
      rw [eventMonCmd_done hcalls]
      exact hlaw.append (l := [_, _, _]) (told_idle (by simp [hh, hfirst, hsecond]) rfl) hdone
    · rw [if_pos h₂] at hcalls
      rw [eventMonCmd_refused h₂ hcalls, List.append_nil]
      exact hlaw.append (l := [_, _, _]) (told_idle (by simp [hh, hfirst, hsecond]) rfl)
        (told_err hsecondEid .error [.num secondStatus] s)
  · rw [if_neg h₁, if_neg h₁] at hcalls
    rw [eventMonCmd_refused h₁ hcalls, List.append_nil]
    exact hlaw.append (l := [_, _]) (told_idle (by simp [hh, hfirst]) rfl)
      (told_err hfirstEid .error [.num firstStatus] s)

end

theorem rejectMsg_traces (msg : CmdMsg) (s : AppData cfg) :
    Traces Panel.Any (rejectMsg msg) s := by
  refine .ite (fun _ => ?_) fun _ => .modify_emit rfl (fun _ => trivial) rfl fun _ => trivial
  rw [countCmdErr, ← Prog.bind_pure_unit (modifyApp _)]
  exact .emit_modify rfl (fun _ => trivial) rfl (fun _ => trivial) (.pure _ _)

theorem verifyMsgLength_traces (msg : CmdMsg) (n : Nat) (s : AppData cfg) :
    Traces Panel.Any (verifyMsgLength msg n) s := by
  refine .ite (fun _ => .ite (fun _ => ?_) fun _ => ?_) fun _ => .pure _ _
  · exact .bind (.idle rfl _) fun _ _ => .pure _ _
  · exact .emit_modify rfl (fun _ => trivial) rfl (fun _ => trivial) (.pure _ _)

theorem handler_traces (msg : CmdMsg) (r : CmdReplies cfg) (h : Handler) (s : AppData cfg) :
    Traces Panel.Any (h.run msg r) s := by
  have herr (eid : EventId) (hlost : eid.lost = none) (hne : eid ≠ .cpumonHoggingErr)
      (hcount : ∀ p : Panel, p.afterEvent eid = { p with cmdErrCount := p.cmdErrCount + 1 }) :
      eid.CountsErr := ⟨hlost, hne, hcount⟩
  cases h with
  | sendHk => exact sendHkCmd_traces r.hk s
  | noop => exact counted_traces (fun _ => rfl) fun s => .idle rfl s
  | reset => exact resetCmd_traces s
  | enableAppMon => exact enableAppMonCmd_traces s
  | enableEventMon =>
    exact eventMonCmd_traces rfl (fun _ => rfl) (fun _ => rfl)
      (herr _ rfl (by decide) fun _ => rfl) (herr _ rfl (by decide) fun _ => rfl) rfl (by decide)
      (fun _ => rfl) _ _ s
  | disableEventMon =>
    exact eventMonCmd_traces rfl (fun _ => rfl) (fun _ => rfl)
      (herr _ rfl (by decide) fun _ => rfl) (herr _ rfl (by decide) fun _ => rfl) rfl (by decide)
      (fun _ => rfl) _ _ s
  | resetResetsPerformed =>
    exact counted_traces (fun _ => rfl) fun s => .get_bind
      (.bind (setCDSData_traces _ _ _) fun _ _ => .idle rfl _)
  | setMaxResets =>
    exact counted_traces (fun _ => rfl) fun s => .get_bind
      (.bind (setCDSData_traces _ _ _) fun _ _ => .get_bind (.idle rfl _))
  | disableAppMon | enableAliveness | disableAliveness | enableCpuHog | disableCpuHog =>
    exact switchCmd_traces (fun _ => rfl) rfl (by decide) (fun _ => rfl) s

theorem appPipe_traces (msg : CmdMsg) (r : CmdReplies cfg) (s : AppData cfg) :
    Traces Panel.Any (appPipe msg r) s := by
  rw [appPipe_eq]
  cases selectHandler cfg msg with
  | none => exact rejectMsg_traces msg s
  | some h =>
    exact .bind (verifyMsgLength_traces msg _ s) fun _ _ => .when fun _ => handler_traces msg r h _

/-! ### The table acquisition -/

/-- The calls that get the address of a table. -/
def addressLog (tbl : TableId) (status : Status) : List (Label cfg) :=
  [.call (.releaseAddress tbl), .call (.manage tbl), .call (.getAddress tbl status)]

/-- The state after the acquisition of a table has the flag of its status, and otherwise the
flags of before. -/
structure Acquired (tbl : TableId) (status : Status) (s u : AppData cfg) : Prop where
  flag : u.loaded tbl = loadedState status
  others : ∀ t, t ≠ tbl → u.loaded t = s.loaded t

theorem Acquired.loaded_eq {tbl : TableId} {status : Status} {s u : AppData cfg}
    (h : Acquired tbl status s u) :
    u.loaded = Function.update s.loaded tbl (loadedState status) := by
  funext t
  by_cases ht : t = tbl
  · subst ht
    rw [h.flag, Function.update_self]
  · rw [h.others t ht, Function.update_of_ne ht]

theorem SwitchState.eq_disabled {v : SwitchState} (h : v ≠ .enabled) : v = .disabled := by
  cases v with
  | enabled => exact absurd rfl h
  | disabled => rfl

theorem loadedState_of_neg {status : Status} (hneg : status < success) :
    loadedState status = .disabled := if_pos hneg

theorem loadedState_of_not_neg {status : Status} (hneg : ¬ status < success) :
    loadedState status = .enabled := if_neg hneg

/-- A table that is lost, and reported. -/
theorem told_lost {s u : AppData cfg} {tbl : TableId} {status : Status} (h : Acquired tbl status s u)
    (hneg : status < success) (hexp : s.panel.expects tbl)
    (hpanel : u.panel = { s.panel.afterEvent tbl.lostEvent with loaded := u.loaded, owed := none }) :
    (panelObserver cfg).Follows Panel.Any AppData.panel s
      (addressLog tbl status ++ [.call (.sendEvent tbl.lostEvent .error [.num status])]) u := by
  have howed : (s.panel.afterAddress tbl status).owed = some tbl := if_pos ⟨hneg, hexp⟩
  have hlost : tbl.lostEvent.lost = some tbl := by cases tbl <;> rfl
  have hstep : (s.panel.afterAddress tbl status).afterEvent tbl.lostEvent = u.panel := by
    have hloaded := h.loaded_eq
    rw [loadedState_of_neg hneg] at hloaded
    rw [hpanel, hloaded, Panel.afterAddress, loadedState_of_neg hneg]
    cases tbl <;> simp [TableId.lostEvent, Panel.afterEvent, Panel.unload, AppData.panel]
  refine fun _ => ⟨⟨⟨rfl, trivial⟩, ⟨rfl, trivial⟩, ⟨rfl, trivial⟩, ⟨hlost.trans howed.symm, ?_⟩,
    trivial⟩, hstep, trivial⟩
  exact EventId.permits_of_ne (by cases tbl <;> decide) _ _ _

/-- A table that is there, or that was missing before. -/
theorem told_address {s u : AppData cfg} {tbl : TableId} {status : Status}
    (h : Acquired tbl status s u) (hneg : ¬ (status < success ∧ s.panel.expects tbl))
    (hpanel : u.panel = { s.panel with loaded := u.loaded }) :
    (panelObserver cfg).Follows Panel.Any AppData.panel s (addressLog tbl status) u := by
  have hstep : s.panel.afterAddress tbl status = u.panel := by
    rw [hpanel, h.loaded_eq, Panel.afterAddress, if_neg hneg]
    rfl
  exact fun _ => ⟨⟨⟨rfl, trivial⟩, ⟨rfl, trivial⟩, ⟨rfl, trivial⟩, trivial⟩, hstep, trivial⟩

/-! The four tables set their flags in the same way. -/

section

variable {s u : AppData cfg} {status : Status}

theorem acquired_amt (hflag : u.appMonLoaded = loadedState status)
    (hemt : u.eventMonLoaded = s.eventMonLoaded) (hmat : u.msgActsState = s.msgActsState)
    (hxct : u.exeCountState = s.exeCountState) : Acquired .amt status s u := by
  refine ⟨hflag, fun t ht => ?_⟩
  cases t with
  | amt => exact absurd rfl ht
  | emt => exact hemt
  | mat => exact hmat
  | xct => exact hxct

theorem acquired_emt (hflag : u.eventMonLoaded = loadedState status)
    (hamt : u.appMonLoaded = s.appMonLoaded) (hmat : u.msgActsState = s.msgActsState)
    (hxct : u.exeCountState = s.exeCountState) : Acquired .emt status s u := by
  refine ⟨hflag, fun t ht => ?_⟩
  cases t with
  | amt => exact hamt
  | emt => exact absurd rfl ht
  | mat => exact hmat
  | xct => exact hxct

theorem acquired_mat (hflag : u.msgActsState = loadedState status)
    (hamt : u.appMonLoaded = s.appMonLoaded) (hemt : u.eventMonLoaded = s.eventMonLoaded)
    (hxct : u.exeCountState = s.exeCountState) : Acquired .mat status s u := by
  refine ⟨hflag, fun t ht => ?_⟩
  cases t with
  | amt => exact hamt
  | emt => exact hemt
  | mat => exact absurd rfl ht
  | xct => exact hxct

theorem acquired_xct (hflag : u.exeCountState = loadedState status)
    (hamt : u.appMonLoaded = s.appMonLoaded) (hemt : u.eventMonLoaded = s.eventMonLoaded)
    (hmat : u.msgActsState = s.msgActsState) : Acquired .xct status s u := by
  refine ⟨hflag, fun t ht => ?_⟩
  cases t with
  | amt => exact hamt
  | emt => exact hemt
  | mat => exact hmat
  | xct => exact absurd rfl ht

end

theorem recordAppMon_neg {status : Status} (hneg : status < success) (s : AppData cfg) :
    recordAppMon status s =
      if s.appMonLoaded = .enabled ∨ s.currentAppMonState = .enabled then
        ⟨.ok (), { s with currentAppMonState := .disabled, appMonLoaded := .disabled },
          [.call (.sendEvent .appmonGetaddrErr .error [.num status])]⟩
      else ⟨.ok (), s, []⟩ := by
  rw [recordAppMon, if_pos hneg, Prog.get_bind]
  split
  · rw [Prog.when_pos ‹_›]
    rfl
  · rw [Prog.when_neg ‹_›]
    rfl

theorem recordAppMon_not_neg {status : Status} (hneg : ¬ status < success) (s : AppData cfg) :
    recordAppMon status s = ⟨.ok (), { s with appMonLoaded := .enabled }, []⟩ := by
  rw [recordAppMon, if_neg hneg]
  rfl

/-- The panel after the flag of the application monitor table is set. -/
theorem panel_appMonLoaded {s u : AppData cfg} (h : u.panel = s.panel) (v : SwitchState) :
    ({ u with appMonLoaded := v } : AppData cfg).panel =
      ({ s with appMonLoaded := v } : AppData cfg).panel := by
  have hloaded : ({ u with appMonLoaded := v } : AppData cfg).loaded =
      ({ s with appMonLoaded := v } : AppData cfg).loaded := by
    funext t
    have ht : u.loaded t = s.loaded t := congrFun (congrArg Panel.loaded h) t
    cases t with
    | amt => rfl
    | emt => exact ht
    | mat => exact ht
    | xct => exact ht
  obtain ⟨happ, hevent, halive, hhog, -, -, hcmd, herr, hexec⟩ := Panel.ext_iff.mp h
  exact Panel.ext happ hevent halive hhog hloaded rfl hcmd herr hexec

/-- The refresh changes nothing on the panel, and returns if the table is there. -/
theorem refresh_apply {r : TblReply (AMT cfg)} (hneg : ¬ r.status < success) (s : AppData cfg) :
    ∃ u k, Prog.when (r.status = cfg.tblInfoUpdated) appMonStatusRefresh
        { s with amTablePtr := r.ptr } = ⟨.ok (), u, k⟩ ∧
      (∀ x ∈ k, x.idle = true) ∧ u.panel = s.panel := by
  by_cases hupd : r.status = cfg.tblInfoUpdated
  · have hptr : r.ptr = some r.table := TblReply.ptr_eq_some.mpr ⟨Int.not_lt.mp hneg, rfl⟩
    obtain ⟨u, k, hrun, -⟩ := appMonStatusRefresh_apply (s := { s with amTablePtr := r.ptr }) hptr
    have hstill := appMonStatusRefresh_still { s with amTablePtr := r.ptr }
    rw [Moves, hrun] at hstill
    rw [Prog.when_pos hupd]
    exact ⟨u, k, hrun, hstill.1, hstill.2.1⟩
  · rw [Prog.when_neg hupd]
    exact ⟨_, [], rfl, by simp, rfl⟩

theorem acquireAppMon_traces (r : TblReply (AMT cfg)) (s : AppData cfg) :
    Traces Panel.Any (acquireAppMon r) s := by
  unfold Traces Moves
  rw [acquireAppMon, Prog.bind_ok (getTable_apply _ _ _ s)]
  by_cases hneg : r.status < success
  · rw [Prog.when_neg (ne_infoUpdated hneg), Prog.pure_bind', recordAppMon_neg hneg]
    by_cases hon : s.appMonLoaded = .enabled ∨ s.currentAppMonState = .enabled
    · rw [if_pos hon]
      exact told_lost (acquired_amt (loadedState_of_neg hneg).symm rfl rfl rfl) hneg hon rfl
    · rw [if_neg hon]
      have hflag : s.appMonLoaded = loadedState r.status := by
        rw [loadedState_of_neg hneg]
        exact SwitchState.eq_disabled (not_or.mp hon).1
      exact told_address (acquired_amt hflag rfl rfl rfl) (fun h => hon h.2) rfl
  · obtain ⟨u, k, hrun, hk, hpanel⟩ := refresh_apply hneg s
    rw [Prog.bind_ok hrun, recordAppMon_not_neg hneg]
    have hacq : Acquired .amt r.status s { s with appMonLoaded := .enabled } :=
      acquired_amt (loadedState_of_not_neg hneg).symm rfl rfl rfl
    refine (Traces.law _).append (told_address hacq (fun h => hneg h.1) rfl) ?_
    exact told_idle (l := k ++ []) (by simpa using hk) (panel_appMonLoaded hpanel .enabled)

theorem dropEvents_still (unsubLong unsubShort : Status) (s : AppData cfg) :
    Moves Still (dropEvents unsubLong unsubShort) s :=
  .bind Still.law (.idle rfl _) fun _ _ => .bind Still.law (.when Still.law fun _ => .idle rfl _)
    fun _ _ => .bind Still.law (.idle rfl _) fun _ _ => .when Still.law fun _ => .idle rfl _

theorem acquireEventMon_traces (r : TblReply (EMT cfg)) (unsubLong unsubShort : Status)
    (s : AppData cfg) : Traces Panel.Any (acquireEventMon r unsubLong unsubShort) s := by
  unfold Traces Moves
  rw [acquireEventMon, Prog.bind_ok (getTable_apply _ _ _ s)]
  by_cases hneg : r.status < success
  · rw [if_pos hneg, Prog.get_bind]
    by_cases hon : s.eventMonLoaded = .enabled ∨ s.currentEventMonState = .enabled
    · obtain ⟨k, hk, hrun⟩ : ∃ k : List (Label cfg), (∀ x ∈ k, x.idle = true) ∧
          Prog.when (s.currentEventMonState = .enabled) (dropEvents unsubLong unsubShort)
            { s with emTablePtr := r.ptr } = ⟨.ok (), { s with emTablePtr := r.ptr }, k⟩ := by
        by_cases hsw : s.currentEventMonState = .enabled
        · obtain ⟨k, hdrop⟩ := dropEvents_apply unsubLong unsubShort { s with emTablePtr := r.ptr }
          have hstill := dropEvents_still unsubLong unsubShort { s with emTablePtr := r.ptr }
          rw [Moves, hdrop] at hstill
          rw [Prog.when_pos hsw]
          exact ⟨k, hstill.1, hdrop⟩
        · rw [Prog.when_neg hsw]
          exact ⟨[], by simp, rfl⟩
      rw [Prog.when_pos hon, Prog.emit_bind, Prog.bind_ok hrun]
      have hacq : Acquired .emt r.status s
          { s with currentEventMonState := .disabled, eventMonLoaded := .disabled } :=
        acquired_emt (loadedState_of_neg hneg).symm rfl rfl rfl
      have hidle := told_idle (l := k ++ []) (s := { s with
        currentEventMonState := .disabled, eventMonLoaded := .disabled }) (by simpa using hk)
        (Eq.refl { s with
          emTablePtr := r.ptr, currentEventMonState := .disabled, eventMonLoaded := .disabled }.panel)
      have hmove := (Traces.law _).append (told_lost hacq hneg hon rfl) hidle
      exact hmove
    · rw [Prog.when_neg hon]
      have hflag : s.eventMonLoaded = loadedState r.status := by
        rw [loadedState_of_neg hneg]
        exact SwitchState.eq_disabled (not_or.mp hon).1
      exact told_address (acquired_emt hflag rfl rfl rfl) (fun h => hon h.2) rfl
  · rw [if_neg hneg]
    exact told_address (acquired_emt (loadedState_of_not_neg hneg).symm rfl rfl rfl)
      (fun h => hneg h.1) rfl

theorem acquireMsgActs_traces (r : TblReply (MAT cfg)) (s : AppData cfg) :
    Traces Panel.Any (acquireMsgActs r) s := by
  unfold Traces Moves
  rw [acquireMsgActs, ← Prog.bind_assoc', Prog.bind_ok (takeMat_apply r s)]
  by_cases hneg : r.status < success
  · rw [if_pos hneg, Prog.get_bind]
    by_cases hon : s.msgActsState = .enabled
    · rw [Prog.when_pos (show (s.takeMat r).msgActsState = .enabled from hon)]
      exact told_lost (acquired_mat (loadedState_of_neg hneg).symm rfl rfl rfl) hneg hon rfl
    · rw [Prog.when_neg (show ¬ (s.takeMat r).msgActsState = .enabled from hon)]
      have hflag : s.msgActsState = loadedState r.status := by
        rw [loadedState_of_neg hneg]
        exact SwitchState.eq_disabled hon
      exact told_address (acquired_mat hflag rfl rfl rfl) (fun h => hon h.2) rfl
  · rw [if_neg hneg]
    exact told_address (acquired_mat (loadedState_of_not_neg hneg).symm rfl rfl rfl)
      (fun h => hneg h.1) rfl

theorem acquireExeCount_traces (r : TblReply (XCT cfg)) (s : AppData cfg) :
    Traces Panel.Any (acquireExeCount r) s := by
  unfold Traces Moves
  rw [acquireExeCount, Prog.bind_ok (getTable_apply _ _ _ s)]
  by_cases hneg : r.status < success
  · rw [if_pos hneg, Prog.get_bind]
    by_cases hon : s.exeCountState = .enabled
    · rw [Prog.when_pos hon]
      exact told_lost (acquired_xct (loadedState_of_neg hneg).symm rfl rfl rfl) hneg hon rfl
    · rw [Prog.when_neg hon]
      have hflag : s.exeCountState = loadedState r.status := by
        rw [loadedState_of_neg hneg]
        exact SwitchState.eq_disabled hon
      exact told_address (acquired_xct hflag rfl rfl rfl) (fun h => hon h.2) rfl
  · rw [if_neg hneg]
    exact told_address (acquired_xct (loadedState_of_not_neg hneg).symm rfl rfl rfl)
      (fun h => hneg h.1) rfl

theorem acquirePointers_traces (r : AcquireIn cfg) (s : AppData cfg) :
    Traces Panel.Any (acquirePointers r) s :=
  .bind (acquireAppMon_traces _ _) fun _ _ => .bind (acquireEventMon_traces _ _ _ _) fun _ _ =>
    .bind (acquireMsgActs_traces _ _) fun _ _ => acquireExeCount_traces _ _

/-! ### Initialization -/

theorem cdsInit_traces (registerCDS : Status) (restoreFromCDS : Reply CDSData) (s : AppData cfg) :
    Traces Panel.Any (cdsInit registerCDS restoreFromCDS) s := by
  have hinit (s : AppData cfg) : Traces Panel.Any initializeCDS s := setCDSData_traces _ _ s
  refine .bind (.idle rfl _) fun _ _ => .ite (fun _ => ?_) fun _ => .ite (fun _ => hinit _)
    fun _ => .bind (.modify rfl) fun _ _ => hinit _
  refine .bind (.idle rfl _) fun _ _ => .bind (.modify rfl) fun _ _ => .ite (fun _ => ?_) fun _ =>
    .bind (.idle rfl _) fun _ _ => hinit _
  exact .get_bind (.when fun _ => .bind (.idle rfl _) fun _ _ => hinit _)

theorem attempt_traces {c : Call cfg} (hc : (Label.call c).idle = true) {eid : EventId}
    (heid : eid.idle = true) (status : Status) {rest : HsM cfg Status}
    (hrest : ∀ s, Traces Panel.Any rest s) (s : AppData cfg) :
    Traces Panel.Any (attempt c status eid rest) s :=
  .bind (.idle hc _) fun _ _ => .ite (fun _ => .bind (.event heid _ _ _) fun _ _ => .pure _ _)
    fun _ => hrest _

theorem sbInit_traces (i : SbIn) (s : AppData cfg) : Traces Panel.Any (sbInit i) s :=
  .bind (.modify rfl) fun _ _ => attempt_traces rfl rfl _ (attempt_traces rfl rfl _
    (attempt_traces rfl rfl _ (attempt_traces rfl rfl _ (attempt_traces rfl rfl _
      (attempt_traces rfl rfl _ fun _ => .pure _ _))))) _

theorem loadTable_traces {tbl : TableId} {status : Status} {eid : EventId} {disable : HsM cfg Unit}
    (h : ∀ s, Traces Panel.Any (sendEvent eid .error [.num status] >>= fun _ => disable) s)
    (s : AppData cfg) : Traces Panel.Any (loadTable tbl status eid disable) s :=
  .bind (.idle rfl _) fun _ _ => .when fun _ => h _

/-- A table that could not be loaded from its file counts as missing. -/
theorem panel_unload {s u : AppData cfg} {tbl : TableId} (h : Acquired tbl (-1) s u)
    (hpanel : u.panel = { s.panel with loaded := u.loaded }) : s.panel.unload tbl = u.panel := by
  rw [hpanel, h.loaded_eq]
  rfl

theorem loadTables_traces (load : TableId → Status) (s : AppData cfg) :
    Traces Panel.Any (loadTables load) s := by
  have hlaw : Law ((panelObserver cfg).Follows Panel.Any AppData.panel) := Traces.law _
  refine .bind (loadTable_traces (fun s => ?_) _) fun _ _ => .bind (loadTable_traces (fun s => ?_) _)
    fun _ _ => .bind (loadTable_traces (fun s => ?_) _) fun _ _ => loadTable_traces (fun s => ?_) _
  · exact told rfl trivial (panel_unload (acquired_xct rfl rfl rfl rfl) rfl)
  · have hload := panel_unload (s := s) (u := { s with appMonLoaded := .disabled })
      (acquired_amt rfl rfl rfl rfl) rfl
    have hoff := told (x := .call (.sendEvent .disableAppmonErr .error []))
      (s := { s with appMonLoaded := .disabled })
      (u := { s with appMonLoaded := .disabled, currentAppMonState := .disabled }) rfl trivial rfl
    have hmove := hlaw.append (told (x := .call (.sendEvent .amtLdErr .error [.num (load .amt)]))
      rfl trivial hload) hoff
    exact hmove
  · have hload := panel_unload (s := s) (u := { s with eventMonLoaded := .disabled })
      (acquired_emt rfl rfl rfl rfl) rfl
    have hoff := told (x := .call (.sendEvent .disableEventmonErr .error []))
      (s := { s with eventMonLoaded := .disabled })
      (u := { s with eventMonLoaded := .disabled, currentEventMonState := .disabled })
      rfl trivial rfl
    have hmove := hlaw.append (told (x := .call (.sendEvent .emtLdErr .error [.num (load .emt)]))
      rfl trivial hload) hoff
    exact hmove
  · exact told rfl trivial (panel_unload (acquired_mat rfl rfl rfl rfl) rfl)

theorem tblInit_traces (t : TblIn cfg) (s : AppData cfg) : Traces Panel.Any (tblInit t) s := by
  refine attempt_traces rfl rfl _ (attempt_traces rfl rfl _ (attempt_traces rfl rfl _
    (attempt_traces rfl rfl _ fun s => ?_))) s
  exact .bind (loadTables_traces _ _) fun _ _ => .bind (acquirePointers_traces _ _) fun _ _ =>
    .pure _ _

theorem sysMonInit_traces (r : SysMonIn) (s : AppData cfg) :
    Traces Panel.Any (sysMonInit r) s := by
  refine .ite (fun _ => .bind (.idle rfl _) fun _ _ => .pure _ _) fun _ => .bind (.modify rfl)
    fun _ _ => .bind (.idle rfl _) fun _ _ => .bind (.idle rfl _) fun _ _ => .ite (fun _ => ?_)
    fun _ => ?_
  · exact .bind (.idle rfl _) fun _ _ => .pure _ _
  · refine .bind (.idle rfl _) fun _ _ => .bind (.when fun _ => .idle rfl _) fun _ _ =>
      .bind (.modify rfl) fun _ _ => .bind (.idle rfl _) fun _ _ => ?_
    exact .bind (.when fun _ => .idle rfl _) fun _ _ => .bind (.modify rfl) fun _ _ => .pure _ _

theorem interfaceInit_traces (i : InitIn cfg) (s : AppData cfg) :
    Traces Panel.Any (interfaceInit i) s := by
  refine .bind (sbInit_traces _ _) fun _ _ => .ite (fun _ => .pure _ _) fun _ =>
    .bind (tblInit_traces _ _) fun _ _ => .ite (fun _ => .pure _ _) fun _ =>
    .bind (sysMonInit_traces _ _) fun _ _ => .ite (fun _ => ?_) fun _ => ?_
  · exact .bind (.idle rfl _) fun _ _ => .pure _ _
  · exact .bind (.idle rfl _) fun _ _ => .pure _ _

theorem appInit_traces (i : InitIn cfg) (s : AppData cfg) : Traces Panel.Any (appInit i) s := by
  refine .emit_modify rfl (fun _ => trivial) rfl (fun _ => trivial) (.bind (.idle rfl _) fun _ _ =>
    .ite (fun _ => ?_) fun _ => ?_)
  · exact .bind (.idle rfl _) fun _ _ => .pure _ _
  · exact .bind (cdsInit_traces _ _ _) fun _ _ => interfaceInit_traces i _

/-! ### The main function -/

theorem startup_traces (j : StartIn) (s : AppData cfg) : Traces Panel.Any (startup j) s := by
  have hsub (s : AppData cfg) : Traces Panel.Any (subscribeEvents j) s := by
    refine .bind (.idle rfl _) fun _ _ => .ite (fun _ => ?_) fun _ => .bind (.idle rfl _) fun _ _ =>
      .ite (fun _ => ?_) fun _ => .pure _ _
    · exact .bind (.idle rfl _) fun _ _ => .pure _ _
    · exact .bind (.idle rfl _) fun _ _ => .pure _ _
  refine .bind (.idle rfl _) fun _ _ => .bind (.idle rfl _) fun _ _ => .bind (.idle rfl _)
    fun _ _ => .bind (.idle rfl _) fun _ _ => .bind (.idle rfl _) fun _ _ => ?_
  exact .get_bind (.ite (fun _ => hsub _) fun _ => .pure _ _)

theorem processMain_traces (c : CycleIn cfg) (s : AppData cfg) :
    Traces Panel.Any (processMain c) s := by
  refine .bind (acquirePointers_traces _ _) fun _ _ => .bind (.bind (.idle rfl _) fun _ _ =>
    .modify rfl) fun _ _ => .bind (checkUtilization_traces _ _) fun _ _ =>
    .bind (checkApplications_traces _ _) fun _ _ => .bind (outputAliveness_traces _) fun _ _ =>
    .bind (.bind (drainEvents_traces _ _) fun _ _ => .ite (fun _ => ?_) fun _ => .pure _ _)
    fun _ _ => .bind (.get_bind (.when fun _ => .idle rfl _)) fun _ _ => .pure _ _
  refine .bind (.bind (.each _ (fun m s => ?_) _) fun _ _ => .pure _ _) fun _ _ => .pure _ _
  obtain ⟨_ | msg, r⟩ := m
  · exact .pure _ _
  · exact appPipe_traces msg r s

theorem mainLoop_traces (timeOut : Status) (ts : List (TurnIn cfg)) :
    ∀ v s, Traces Panel.Any (mainLoop timeOut ts v) s := by
  induction ts with
  | nil => exact fun _ _ => .pure _ _
  | cons t ts ih =>
    intro v s
    rw [mainLoop]
    cases runLoop t.stop v.runStatus with
    | none =>
      refine .bind (.ite (fun _ => ?_) fun _ => .pure _ _) fun _ _ => ih _ _
      exact .bind (processMain_traces _ _) fun _ _ => .pure _ _
    | some exitStatus => exact .pure _ _

theorem mainEnd_traces (stopped : Bool) (v : MainVars) (s : AppData cfg) :
    Traces Panel.Any (mainEnd stopped v) s := by
  refine .bind (.when fun _ => .bind (.idle rfl _) fun _ _ => .idle rfl _) fun _ _ => ?_
  exact .get_bind (.when fun _ => .bind (.idle rfl _) fun _ _ => .when fun _ => .idle rfl _)

/-- **Whatever the environment answers, `HS_AppMain` does what the panel says.** -/
theorem appMain_traces (timeOut : Status) (i : MainIn cfg) (n : Nat) (s : AppData cfg) :
    Traces Panel.Any (appMain timeOut i n) s := by
  refine .bind (.bind (appInit_traces _ _) fun _ _ => .ite (fun _ => startup_traces _ _)
    fun _ => .pure _ _) fun start _ => .bind (mainLoop_traces _ _ _ _) fun out _ => ?_
  cases out with
  | none => exact .pure _ _
  | some o => exact .bind (mainEnd_traces _ _ _) fun _ _ => .pure _ _

end HealthSafety
