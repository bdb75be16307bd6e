import HealthSafety.Tables.EventTable
import Mathlib.Data.Fintype.Card

/-!
# What the event monitor sends

The actions of the event monitor report themselves with events of HS.  `reports` is
what a row can report as often as it is hit.  A message with a cooldown can be
reported only while its counter is at zero, and sending it uses the counter up
(`fresh`), so a call of `HS_MonitorEvent` uses a counter up or sends only what the
rows it hits report (`receiveEvent_feeds`).

Conversely, when the resets are spent and the applications can be found but not
restarted or deleted, every row that is hit sends all that it reports
(`receiveEvent_reports`).
-/

namespace HealthSafety

open Lib

variable {cfg : Config} {s t : AppData cfg} {l : List (Label cfg)} {emt : EMT cfg} {mat : MAT cfg}

/-! ### Events -/

/-- The event that a label sends. -/
def Label.sent : Label cfg → Option EventId
  | .call (.sendEvent eid _ _) => some eid
  | _ => none

/-- The events of a log, in order. -/
def sentEvents (l : List (Label cfg)) : List EventId := l.filterMap Label.sent

theorem sentEvents_append (l l' : List (Label cfg)) :
    sentEvents (l ++ l') = sentEvents l ++ sentEvents l' := List.filterMap_append

theorem mem_sentEvents {e : EventId} : e ∈ sentEvents l ↔ ∃ x ∈ l, x.sent = some e :=
  List.mem_filterMap

/-- What the action of a row can report as often as the row is hit. -/
def EMTEntry.reports (mat : MAT cfg) (row : EMTEntry) : List EventId :=
  if row.actionType = emtActProcReset then [.eventmonProcErr, .resetLimitErr]
  else if row.actionType = emtActAppRestart then [.eventmonRestartErr, .eventmonNotRestartedErr]
  else if row.actionType = emtActAppDelete then [.eventmonDeleteErr, .eventmonNotDeletedErr]
  else
    let n := (row.actionType.toUInt32 - emtActLastNonmsg.toUInt32 - 1).toNat
    if h : n < cfg.maxMsgActTypes then
      let r := mat ⟨n, h⟩
      if r.cooldown = 0 ∧ r.enableState ≠ matStateDisabled ∧ r.enableState ≠ matStateNoevent then
        [.eventmonMsgactsErr]
      else []
    else []

/-- A message action reports itself if its message is enabled and has no cooldown. -/
theorem EMTEntry.mem_reports_message {row : EMTEntry} {e : EventId}
    (hreset : row.actionType ≠ emtActProcReset) (hrestart : row.actionType ≠ emtActAppRestart)
    (hdelete : row.actionType ≠ emtActAppDelete) :
    e ∈ row.reports mat ↔ e = .eventmonMsgactsErr ∧ ∃ idx : Fin cfg.maxMsgActTypes,
      (row.actionType.toUInt32 - emtActLastNonmsg.toUInt32 - 1).toNat = idx ∧
        (mat idx).cooldown = 0 ∧ (mat idx).enableState ≠ matStateDisabled ∧
          (mat idx).enableState ≠ matStateNoevent := by
  rw [EMTEntry.reports, if_neg hreset, if_neg hrestart, if_neg hdelete]
  generalize (row.actionType.toUInt32 - emtActLastNonmsg.toUInt32 - 1).toNat = n
  by_cases hlt : n < cfg.maxMsgActTypes
  · simp only [dif_pos hlt]
    constructor
    · intro he
      split at he
      · exact ⟨List.mem_singleton.mp he, ⟨n, hlt⟩, rfl, ‹_›⟩
      · cases he
    · rintro ⟨rfl, idx, rfl, hrow⟩
      rw [if_pos hrow]
      exact List.mem_singleton_self _
  · simp only [dif_neg hlt]
    constructor
    · intro he
      cases he
    · rintro ⟨-, idx, rfl, -⟩
      exact absurd idx.isLt hlt

/-! ### Counters at zero -/

/-- The messages with a cooldown whose counter is at zero. -/
def freshMsgs (mat : MAT cfg) (s : AppData cfg) : Finset (Fin cfg.maxMsgActTypes) :=
  Finset.univ.filter fun m => s.msgActCooldown m = 0 ∧ (mat m).cooldown ≠ 0

def fresh (mat : MAT cfg) (s : AppData cfg) : Nat := (freshMsgs mat s).card

theorem mem_freshMsgs {m : Fin cfg.maxMsgActTypes} :
    m ∈ freshMsgs mat s ↔ s.msgActCooldown m = 0 ∧ (mat m).cooldown ≠ 0 := by
  simp [freshMsgs]

theorem fresh_eq (h : t.msgActCooldown = s.msgActCooldown) : fresh mat t = fresh mat s := by
  rw [fresh, fresh, freshMsgs, freshMsgs, h]

@[simp] theorem countMsgAct_self (idx : Fin cfg.maxMsgActTypes) (row : MATEntry) :
    (s.countMsgAct idx row).msgActCooldown idx = row.cooldown := Function.update_self ..

theorem countMsgAct_of_ne {idx m : Fin cfg.maxMsgActTypes} (h : m ≠ idx) (row : MATEntry) :
    (s.countMsgAct idx row).msgActCooldown m = s.msgActCooldown m := Function.update_of_ne h ..

/-- Sending a message with a cooldown uses its counter up. -/
theorem fresh_countMsgAct_lt {idx : Fin cfg.maxMsgActTypes} (hc : s.msgActCooldown idx = 0)
    (hne : (mat idx).cooldown ≠ 0) : fresh mat (s.countMsgAct idx (mat idx)) < fresh mat s := by
  refine Finset.card_lt_card ((Finset.ssubset_iff_of_subset fun m hm => ?_).mpr ⟨idx, ?_, ?_⟩)
  · rw [mem_freshMsgs] at hm ⊢
    by_cases hmi : m = idx
    · subst hmi
      exact ⟨hc, hne⟩
    · rwa [countMsgAct_of_ne hmi] at hm
  · exact mem_freshMsgs.mpr ⟨hc, hne⟩
  · rw [mem_freshMsgs, countMsgAct_self]
    exact fun h => hne h.1

/-- A message without one leaves it as it is. -/
theorem fresh_countMsgAct_eq {idx : Fin cfg.maxMsgActTypes} (hc : s.msgActCooldown idx = 0)
    (hzero : (mat idx).cooldown = 0) : fresh mat (s.countMsgAct idx (mat idx)) = fresh mat s := by
  refine fresh_eq ?_
  show Function.update s.msgActCooldown idx (mat idx).cooldown = s.msgActCooldown
  rw [hzero, ← hc, Function.update_eq_self]

/-! ### At most what is reported -/

/-- HS works with these tables, possibly without the second. -/
structure Monitoring (emt : EMT cfg) (mat : MAT cfg) (s : AppData cfg) : Prop where
  emt : s.emTablePtr = some emt
  mat : ∀ mat', s.maTablePtr = some mat' → mat' = mat

/-- A move under these tables that uses up a counter or sends only events of `S`. -/
def FeedsWithin (emt : EMT cfg) (mat : MAT cfg) (S : EventId → Prop) (s : AppData cfg)
    (l : List (Label cfg)) (t : AppData cfg) : Prop :=
  Monitoring emt mat s → Monitoring emt mat t ∧
    (fresh mat t < fresh mat s ∨ fresh mat t = fresh mat s ∧ ∀ e ∈ sentEvents l, S e)

variable {S : EventId → Prop}

theorem feedsWithin_law (emt : EMT cfg) (mat : MAT cfg) (S : EventId → Prop) :
    Law (FeedsWithin emt mat S) := by
  refine ⟨fun s hs => ⟨hs, .inr ⟨rfl, by simp [sentEvents]⟩⟩, fun {s t u l l'} hst htu hs => ?_⟩
  obtain ⟨ht, hst⟩ := hst hs
  obtain ⟨hu, htu⟩ := htu ht
  refine ⟨hu, ?_⟩
  rcases hst with hlt | ⟨heq, hl⟩ <;> rcases htu with hlt' | ⟨heq', hl'⟩
  · exact .inl (hlt'.trans hlt)
  · exact .inl (heq' ▸ hlt)
  · exact .inl (heq ▸ hlt')
  · refine .inr ⟨heq'.trans heq, fun e he => ?_⟩
    rw [sentEvents_append] at he
    exact (List.mem_append.mp he).elim (hl e) (hl' e)

/-- A move that leaves the tables and the counters alone. -/
theorem FeedsWithin.of_eq (htab : t.tables = s.tables) (hc : t.msgActCooldown = s.msgActCooldown)
    (hl : ∀ e ∈ sentEvents l, S e) : FeedsWithin emt mat S s l t := by
  intro hs
  refine ⟨⟨?_, ?_⟩, .inr ⟨fresh_eq hc, hl⟩⟩
  · exact (congrArg TableView.emt htab).trans hs.emt
  · exact fun mat' hm => hs.mat mat' ((congrArg TableView.mat htab).symm.trans hm)

theorem sendEvent_feeds {eid : EventId} (h : S eid) (type : EventType) (args : List EvtArg)
    (s : AppData cfg) : Moves (FeedsWithin emt mat S) (sendEvent eid type args) s :=
  .of_eq rfl rfl (by simpa [sentEvents, Label.sent] using h)

theorem call_feeds {c : Call cfg} (h : (Label.call c).sent = none) (s : AppData cfg) :
    Moves (FeedsWithin emt mat S) (call c) s :=
  .of_eq rfl rfl (by simp [sentEvents, h])

theorem procReset_feeds (h : S .resetLimitErr) (returns : Bool) (s : AppData cfg) :
    Moves (FeedsWithin emt mat S) (procReset returns) s := by
  by_cases hlt : s.cdsData.resetsPerformed < s.cdsData.maxResets
  · rw [Moves, procReset_of_lt hlt]
    refine .of_eq rfl rfl fun e he => ?_
    obtain ⟨x, hx, hsent⟩ := mem_sentEvents.mp he
    rcases List.mem_append.mp hx with hx | hx
    · rw [mem_copyLog hx] at hsent
      cases hsent
    · simp only [List.mem_cons, List.not_mem_nil, or_false] at hx
      rcases hx with rfl | rfl | rfl <;> cases hsent
  · rw [Moves, procReset_of_not_lt hlt]
    exact .of_eq rfl rfl (by simpa [sentEvents, Label.sent] using h)

theorem appCommand_feeds {okEid errEid : EventId} (hok : S okEid) (herr : S errEid)
    {cmd : UInt32 → Call cfg} (hcmd : ∀ n, (Label.call (cmd n)).sent = none) (row : EMTEntry)
    (lk : EvtLookup) (appId : UInt32) (cmdStatus : Status) (s : AppData cfg) :
    Moves (FeedsWithin emt mat S) (appCommand row lk appId okEid errEid cmd cmdStatus) s := by
  have hlaw := feedsWithin_law emt mat S
  refine Moves.bind hlaw (call_feeds rfl s) fun _ _ => Moves.bind hlaw ?_ fun _ _ =>
    Moves.pure hlaw _ _
  refine Moves.ite (fun _ => ?_) (fun _ => sendEvent_feeds herr _ _ _)
  refine Moves.bind hlaw (sendEvent_feeds hok _ _ _) fun _ _ => ?_
  refine Moves.bind hlaw (call_feeds (hcmd _) _) fun _ _ => ?_
  exact Moves.ite (fun _ => sendEvent_feeds herr _ _ _) (fun _ => Moves.pure hlaw _ _)

theorem msgAction_feeds {eid : EventId} {n : UInt32}
    (h : ∀ idx : Fin cfg.maxMsgActTypes, n.toNat = idx → (mat idx).cooldown = 0 →
      (mat idx).enableState ≠ matStateDisabled → (mat idx).enableState ≠ matStateNoevent → S eid)
    (reader : Reader) (args : List EvtArg) (s : AppData cfg) :
    Moves (FeedsWithin emt mat S) (msgAction reader eid args n) s := by
  intro hs
  obtain hn | ⟨idx, hn, hoff | ⟨hon, hc, hm | ⟨mat', hm⟩⟩⟩ := msgAction_cases s n
  · rw [msgAction_invalid hn]
    exact ⟨hs, .inr ⟨rfl, by simp [sentEvents, Label.sent]⟩⟩
  · rw [msgAction_off hoff hn]
    exact ⟨hs, .inr ⟨rfl, by simp [sentEvents, Label.sent]⟩⟩
  · rw [msgAction_null hon hc hm hn]
    exact ⟨hs, .inr ⟨rfl, by simp [sentEvents, Label.sent]⟩⟩
  · obtain rfl := hs.mat mat' hm
    by_cases he : (mat' idx).enableState = matStateDisabled
    · rw [msgAction_rowOff hon hc hm he hn]
      exact ⟨hs, .inr ⟨rfl, by simp [sentEvents, Label.sent]⟩⟩
    · rw [msgAction_sent hon hc hm he hn]
      refine ⟨⟨hs.emt, hs.mat⟩, ?_⟩
      by_cases hzero : (mat' idx).cooldown = 0
      · refine .inr ⟨fresh_countMsgAct_eq hc hzero, fun e he' => ?_⟩
        by_cases hev : (mat' idx).enableState ≠ matStateNoevent
        · have heid : eid = e := by simpa [sentEvents, Label.sent, hev] using he'
          rw [← heid]
          exact h idx hn hzero he hev
        · simp [sentEvents, Label.sent, hev] at he'
      · exact .inl (fresh_countMsgAct_lt hc hzero)

/-- **The action of a row uses up a counter or sends only what the row reports.** -/
theorem eventAction_feeds (i : Fin cfg.maxMonitoredEvents) {row : EMTEntry}
    (h : ∀ e ∈ row.reports mat, S e) (lk : EvtLookup) (appId : UInt32) (s : AppData cfg) :
    Moves (FeedsWithin emt mat S) (eventAction i row lk appId) s := by
  have hlaw := feedsWithin_law emt mat S
  have hmark : Moves (FeedsWithin emt mat S) (mark (.emtAction i)) s :=
    .of_eq rfl rfl (by simp [sentEvents, Label.sent])
  refine Moves.bind hlaw hmark fun _ _ => ?_
  refine Moves.ite (fun hreset => ?_) fun hreset => Moves.ite (fun hrestart => ?_)
    fun hrestart => Moves.ite (fun hdelete => ?_) fun hdelete => ?_
  · rw [EMTEntry.reports, if_pos hreset] at h
    refine Moves.bind hlaw (sendEvent_feeds (h _ (by simp)) _ _ _) fun _ _ => ?_
    refine Moves.bind hlaw (procReset_feeds (h _ (by simp)) _ _) fun _ _ => ?_
    exact Moves.pure hlaw _ _
  · rw [EMTEntry.reports, if_neg hreset, if_pos hrestart] at h
    exact appCommand_feeds (h _ (by simp)) (h _ (by simp)) (fun _ => rfl) _ _ _ _ _
  · rw [EMTEntry.reports, if_neg hreset, if_neg hrestart, if_pos hdelete] at h
    exact appCommand_feeds (h _ (by simp)) (h _ (by simp)) (fun _ => rfl) _ _ _ _ _
  · refine Moves.bind hlaw (msgAction_feeds (fun idx hn hzero hdis hno => ?_) _ _ _)
      fun _ _ => Moves.pure hlaw _ _
    refine h _ ((EMTEntry.mem_reports_message hreset hrestart hdelete).mpr ?_)
    exact ⟨rfl, idx, hn, hzero, hdis, hno⟩

variable {ev : EvtMsg} {lks : Fin cfg.maxMonitoredEvents → EvtLookup}

/-- What the event can make HS report. -/
def Reports (emt : EMT cfg) (mat : MAT cfg) (ev : EvtMsg) (e : EventId) : Prop :=
  ∃ i, (emt i).Hit cfg ev ∧ e ∈ (emt i).reports mat

theorem monitorEventRow_feeds (appId : UInt32) (i : Fin cfg.maxMonitoredEvents) (s : AppData cfg) :
    Moves (FeedsWithin emt mat (Reports emt mat ev)) (monitorEventRow ev lks appId i) s := by
  intro hs
  have hlaw := feedsWithin_law emt mat (Reports emt mat ev)
  rw [monitorEventRow_apply hs.emt]
  have hrow : Moves (FeedsWithin emt mat (Reports emt mat ev))
      (if (emt i).Hit cfg ev then eventAction i (emt i) (lks i) appId else pure appId) s :=
    Moves.ite (fun hit => eventAction_feeds i (fun e he => ⟨i, hit, he⟩) _ _ _)
      fun _ => Moves.pure hlaw _ _
  obtain ⟨ht, hfeeds⟩ := hrow hs
  exact ⟨ht, hfeeds.imp_right fun ⟨heq, hl⟩ => ⟨heq, hl⟩⟩

/-- **A call of the event monitor uses up a counter or sends only what the rows it hits
report.** -/
theorem receiveEvent_feeds (ev : EvtMsg) (lks : Fin cfg.maxMonitoredEvents → EvtLookup)
    (s : AppData cfg) :
    Moves (FeedsWithin emt mat (Reports emt mat ev)) (receiveEvent ev lks) s := by
  have hlaw := feedsWithin_law emt mat (Reports emt mat ev)
  have hcount : Moves (FeedsWithin emt mat (Reports emt mat ev))
      (modifyApp fun d => { d with eventsMonitoredCount := d.eventsMonitoredCount + 1 }) s :=
    .of_eq rfl rfl (by simp [sentEvents])
  refine Moves.bind hlaw hcount fun _ _ => Moves.bind hlaw ?_ fun _ _ => Moves.pure hlaw _ _
  exact Moves.fold hlaw _ (fun i _ appId s => monitorEventRow_feeds appId i s) _ _

/-! ### At least what is reported -/

/-- Nothing holds a report back: the resets are spent, the message actions are loaded, and
the messages without a cooldown have none running. -/
structure Reporting (emt : EMT cfg) (mat : MAT cfg) (s : AppData cfg) : Prop where
  emtPtr : s.emTablePtr = some emt
  matPtr : s.maTablePtr = some mat
  on : s.msgActsState = .enabled
  spent : ¬ s.cdsData.resetsPerformed < s.cdsData.maxResets
  zero : ∀ m, (mat m).cooldown = 0 → s.msgActCooldown m = 0

/-- The application is found, and can be neither restarted nor deleted. -/
structure EvtLookup.Stuck (lk : EvtLookup) : Prop where
  found : lk.appIDByName.status = success
  restart : lk.restartApp ≠ success
  delete : lk.deleteApp ≠ success
  resets : lk.resetReturns = true

theorem Reporting.monitoring (h : Reporting emt mat s) : Monitoring emt mat s :=
  ⟨h.emtPtr, fun _ hm => Option.some.inj (hm.symm.trans h.matPtr)⟩

theorem Reporting.ready (h : Reporting emt mat s) : EventReady emt s :=
  ⟨h.emtPtr, fun _ => ⟨mat, h.matPtr⟩⟩

theorem Act.reporting {k : Kind} (hk : k ∈ eventKinds) (ha : Act k s l t)
    (h : Reporting emt mat s) : Reporting emt mat t := by
  cases ha with
  | plain | rowRead | nullRead | held | heldInvalid | emtAction => exact h
  | aside ha =>
    refine ⟨ha.emTablePtr.trans h.emtPtr, ha.maTablePtr.trans h.matPtr, ha.msgActsState.trans h.on,
      ?_, ?_⟩
    · rw [ha.cdsData]
      exact h.spent
    · rw [ha.msgActCooldown]
      exact h.zero
  | reset hlt => exact absurd hlt h.spent
  | transmit idx mat' hs hc hm he =>
    rw [h.matPtr] at hm
    cases hm
    refine ⟨h.emtPtr, h.matPtr, h.on, h.spent, fun m hm => ?_⟩
    by_cases hmi : m = idx
    · subst hmi
      rw [countMsgAct_self]
      exact hm
    · rw [countMsgAct_of_ne hmi]
      exact h.zero m hm
  | _ => simp [eventKinds] at hk

theorem Does.reporting {α : Type} {m : HsM cfg α} (hm : Does eventKinds m s)
    (h : Reporting emt mat s) : Reporting emt mat (m s).state := by
  have hlaw : Law fun (s : AppData cfg) (_ : List (Label cfg)) t =>
      Reporting emt mat s → Reporting emt mat t := ⟨fun _ h => h, fun h₁ h₂ h => h₂ (h₁ h)⟩
  exact hm.law hlaw (fun _ hk _ _ _ ha => ha.reporting hk) h

theorem appCommand_sends {okEid errEid : EventId} {cmd : UInt32 → Call cfg} {row : EMTEntry}
    {lk : EvtLookup} {cmdStatus : Status} (hfound : lk.appIDByName.status = success)
    (hcmd : cmdStatus ≠ success) (appId : UInt32) (s : AppData cfg) {e : EventId}
    (he : e ∈ [okEid, errEid]) :
    e ∈ sentEvents (appCommand row lk appId okEid errEid cmd cmdStatus s).log := by
  simp only [List.mem_cons, List.not_mem_nil, or_false] at he
  rcases he with rfl | rfl <;>
    simp [appCommand, commandApp, hfound, hcmd, Prog.bind_assoc', mem_sentEvents, Label.sent]

theorem msgAction_sends (h : Reporting emt mat s) {idx : Fin cfg.maxMsgActTypes} {n : UInt32}
    (hn : n.toNat = idx) (hzero : (mat idx).cooldown = 0)
    (hdis : (mat idx).enableState ≠ matStateDisabled)
    (hno : (mat idx).enableState ≠ matStateNoevent) (reader : Reader) (eid : EventId)
    (args : List EvtArg) : eid ∈ sentEvents (msgAction reader eid args n s).log := by
  rw [msgAction_sent h.on (h.zero _ hzero) h.matPtr hdis hn, if_pos hno]
  simp [sentEvents, Label.sent]

theorem sentEvents_bind {α β : Type} {m : HsM cfg α} {f : α → HsM cfg β} {e : EventId}
    (h : e ∈ sentEvents (m s).log) : e ∈ sentEvents ((m >>= f) s).log := by
  obtain ⟨x, hx, hsent⟩ := mem_sentEvents.mp h
  exact mem_sentEvents.mpr ⟨x, Prog.mem_bind_log hx, hsent⟩

theorem sentEvents_cons {x : Label cfg} {e : EventId} (h : e ∈ sentEvents l) :
    e ∈ sentEvents (x :: l) := by
  obtain ⟨y, hy, hsent⟩ := mem_sentEvents.mp h
  exact mem_sentEvents.mpr ⟨y, List.mem_cons_of_mem _ hy, hsent⟩

/-- The action of a row sends all that the row reports. -/
theorem eventAction_reports (h : Reporting emt mat s) (i : Fin cfg.maxMonitoredEvents)
    {row : EMTEntry} {lk : EvtLookup} (hlk : lk.Stuck) (appId : UInt32) {e : EventId}
    (he : e ∈ row.reports mat) : e ∈ sentEvents (eventAction i row lk appId s).log := by
  rw [eventAction, Prog.emit_bind]
  refine sentEvents_cons ?_
  by_cases hreset : row.actionType = emtActProcReset
  · rw [EMTEntry.reports, if_pos hreset] at he
    rw [if_pos hreset, Prog.emit_bind, Prog.bind_ok (procReset_of_not_lt h.spent _)]
    simp only [List.mem_cons, List.not_mem_nil, or_false] at he
    rcases he with rfl | rfl <;> simp [sentEvents, Label.sent]
  by_cases hrestart : row.actionType = emtActAppRestart
  · rw [EMTEntry.reports, if_neg hreset, if_pos hrestart] at he
    rw [if_neg hreset, if_pos hrestart]
    exact appCommand_sends hlk.found hlk.restart _ _ he
  by_cases hdelete : row.actionType = emtActAppDelete
  · rw [EMTEntry.reports, if_neg hreset, if_neg hrestart, if_pos hdelete] at he
    rw [if_neg hreset, if_neg hrestart, if_pos hdelete]
    exact appCommand_sends hlk.found hlk.delete _ _ he
  rw [if_neg hreset, if_neg hrestart, if_neg hdelete]
  obtain ⟨rfl, idx, hn, hzero, hdis, hno⟩ :=
    (EMTEntry.mem_reports_message hreset hrestart hdelete).mp he
  exact sentEvents_bind (msgAction_sends h hn hzero hdis hno _ _ _)

theorem monitorEventRow_reports (h : Reporting emt mat s) {i : Fin cfg.maxMonitoredEvents}
    (hit : (emt i).Hit cfg ev) (hlks : ∀ i, (lks i).Stuck) (appId : UInt32) {e : EventId}
    (he : e ∈ (emt i).reports mat) :
    ∃ x ∈ (monitorEventRow ev lks appId i s).log, x.sent = some e := by
  rw [monitorEventRow_apply h.emtPtr]
  simp only [if_pos hit]
  obtain ⟨x, hx, hsent⟩ := mem_sentEvents.mp (eventAction_reports h i (hlks i) appId he)
  exact ⟨x, List.mem_cons_of_mem _ hx, hsent⟩

/-- **Under these circumstances a call of the event monitor returns, sends all that the rows
it hits report, and leaves the circumstances as they are.** -/
theorem receiveEvent_reports (h : Reporting emt mat s) (hlks : ∀ i, (lks i).Stuck)
    (ev : EvtMsg) :
    (receiveEvent ev lks s).val = .ok () ∧ Reporting emt mat (receiveEvent ev lks s).state ∧
      ∀ e, Reports emt mat ev e → e ∈ sentEvents (receiveEvent ev lks s).log := by
  let s' : AppData cfg := { s with eventsMonitoredCount := s.eventsMonitoredCount + 1 }
  have h' : Reporting emt mat s' := ⟨h.emtPtr, h.matPtr, h.on, h.spent, h.zero⟩
  have hrun : receiveEvent ev lks s = monitorEvent ev lks s' := by
    rw [receiveEvent, Prog.modify_bind]
  have hval : (monitorEvent ev lks s').val = .ok () :=
    monitorEvent_returns h'.ready fun i => (hlks i).resets
  rw [hrun]
  refine ⟨hval, (monitorEvent_does ev lks s').reporting h', fun e ⟨i, hit, he⟩ => ?_⟩
  rw [mem_sentEvents, monitorEvent_log]
  rcases hfold : Prog.fold (monitorEventRow ev lks) 0 (List.finRange cfg.maxMonitoredEvents) s' with
    ⟨e' | v, t, l⟩
  · rw [monitorEvent, Prog.bind_error hfold] at hval
    cases hval
  · rw [← show _ = l from congrArg Out.log hfold]
    exact Prog.exists_mem_fold_log (I := Reporting emt mat)
      (fun appId j s hs => (monitorEventRow_does ev lks appId j s).reporting hs)
      (fun appId s hs => monitorEventRow_reports hs hit hlks appId he) _ 0 v s' h'
      (by rw [hfold]) (List.mem_finRange i)

end HealthSafety
