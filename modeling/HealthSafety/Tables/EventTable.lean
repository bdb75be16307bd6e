import HealthSafety.Step.Frames
import HealthSafety.Tables.Validate

/-!
# The event monitor table: validator and consumer

`HS_ValidateEMTable` calls an entry unused if its event id is 0 or its action
type is `HS_EMT_ACT_NOACT`, and checks only the other entries.
`HS_MonitorEvent` skips an entry only for its action type.  So the two agree on
every event except one with id 0 that some entry with id 0 is waiting for
(`emt_validator_agrees_iff`).
-/

namespace HealthSafety

open Lib

variable {cfg : Config} {s : AppData cfg} {emt : EMT cfg} {ev : EvtMsg}
  {lks : Fin cfg.maxMonitoredEvents → EvtLookup}

/-! ### One row -/

theorem readEmt_apply (hs : s.emTablePtr = some emt) (reader : Reader)
    (i : Fin cfg.maxMonitoredEvents) :
    readEmt reader i s = ⟨.ok (emt i), s, [.mark (.rowRead reader (.emt i (emt i)))]⟩ := by
  simp [readEmt, hs]

theorem monitorEventRow_apply (hs : s.emTablePtr = some emt) (appId : UInt32)
    (i : Fin cfg.maxMonitoredEvents) :
    monitorEventRow ev lks appId i s =
      let m := if (emt i).Hit cfg ev then eventAction i (emt i) (lks i) appId else pure appId
      ⟨(m s).val, (m s).state, .mark (.rowRead .monitorEvent (.emt i (emt i))) :: (m s).log⟩ := by
  rw [monitorEventRow, Prog.bind_ok (readEmt_apply hs _ i)]
  rfl

/-- The action of a row is marked with the index of that row and no other. -/
theorem emtAction_mem_eventAction {i j : Fin cfg.maxMonitoredEvents} {row : EMTEntry}
    {lk : EvtLookup} {appId : UInt32} :
    Label.mark (.emtAction j) ∈ (eventAction i row lk appId s).log ↔ j = i := by
  obtain ⟨m, h, hm⟩ := eventAction_eq i row lk appId
  have hother : Label.mark (.emtAction j) ∉ (m s).log := by
    intro hx
    obtain ⟨k, hk, hkx⟩ := (hm s).kind_of_mem hx
    simp only [Label.kinds, List.mem_singleton] at hkx
    simp [hkx, actionKinds] at hk
  rw [h, Prog.emit_bind]
  simp only [List.mem_cons, Label.mark.injEq, Mark.emtAction.injEq]
  exact ⟨fun h => h.resolve_right hother, .inl⟩

/-! ### A whole call -/

theorem emTablePtr_of_tables {t : AppData cfg} (h : t.tables = s.tables) :
    t.emTablePtr = s.emTablePtr := congrArg TableView.emt h

theorem monitorEventRow_keeps (hs : s.emTablePtr = some emt) (appId : UInt32)
    (i : Fin cfg.maxMonitoredEvents) :
    (monitorEventRow ev lks appId i s).state.emTablePtr = some emt := by
  rw [emTablePtr_of_tables (monitorEventRow_does ev lks appId i s).tables_eq, hs]

theorem emtAction_mem_monitorEventRow (hs : s.emTablePtr = some emt) {appId : UInt32}
    {i j : Fin cfg.maxMonitoredEvents} :
    Label.mark (.emtAction j) ∈ (monitorEventRow ev lks appId i s).log ↔
      j = i ∧ (emt i).Hit cfg ev := by
  rw [monitorEventRow_apply hs]
  by_cases h : (emt i).Hit cfg ev
  · simp [h, emtAction_mem_eventAction]
  · simp [h]

theorem monitorEvent_log (s : AppData cfg) :
    (monitorEvent ev lks s).log =
      (Prog.fold (monitorEventRow ev lks) 0 (List.finRange cfg.maxMonitoredEvents) s).log := by
  rcases h : Prog.fold (monitorEventRow ev lks) 0 (List.finRange cfg.maxMonitoredEvents) s with
    ⟨e | v, t, l⟩
  · rw [monitorEvent, Prog.bind_error h]
  · rw [monitorEvent, Prog.bind_ok h]
    simp

/-- Only a row that matches the event is acted on. -/
theorem hit_of_emtAction_mem (hs : s.emTablePtr = some emt) {i : Fin cfg.maxMonitoredEvents}
    (hi : Label.mark (.emtAction i) ∈ (monitorEvent ev lks s).log) : (emt i).Hit cfg ev := by
  let R (s : AppData cfg) (l : List (Label cfg)) (t : AppData cfg) : Prop :=
    s.emTablePtr = some emt →
      t.emTablePtr = some emt ∧ (Label.mark (.emtAction i) ∈ l → (emt i).Hit cfg ev)
  have hR : Law R := by
    refine ⟨fun s hs => ⟨hs, fun h => by cases h⟩, fun h₁ h₂ hs => ?_⟩
    obtain ⟨ht, h₁⟩ := h₁ hs
    obtain ⟨hu, h₂⟩ := h₂ ht
    exact ⟨hu, fun h => (List.mem_append.mp h).elim h₁ h₂⟩
  have hrow (appId : UInt32) (j : Fin cfg.maxMonitoredEvents) (s : AppData cfg) :
      Moves R (monitorEventRow ev lks appId j) s := by
    intro hs
    refine ⟨monitorEventRow_keeps hs appId j, fun h => ?_⟩
    obtain ⟨rfl, h⟩ := (emtAction_mem_monitorEventRow hs).mp h
    exact h
  rw [monitorEvent_log] at hi
  exact (Moves.fold hR (List.finRange cfg.maxMonitoredEvents)
    (fun j _ appId s => hrow appId j s) 0 s hs).2 hi

/-- A call that returns has acted on every row that matches. -/
theorem emtAction_mem_of_hit (hs : s.emTablePtr = some emt)
    (hret : (monitorEvent ev lks s).val = .ok ()) {i : Fin cfg.maxMonitoredEvents}
    (hi : (emt i).Hit cfg ev) : Label.mark (.emtAction i) ∈ (monitorEvent ev lks s).log := by
  rw [monitorEvent_log]
  rcases h : Prog.fold (monitorEventRow ev lks) 0 (List.finRange cfg.maxMonitoredEvents) s with
    ⟨e | v, t, l⟩
  · rw [monitorEvent, Prog.bind_error h] at hret
    cases hret
  · rw [← show _ = l from congrArg Out.log h]
    exact Prog.mem_fold_log (I := fun s => s.emTablePtr = some emt)
      (fun appId j s hs => monitorEventRow_keeps hs appId j)
      (fun appId s hs => (emtAction_mem_monitorEventRow hs).mpr ⟨rfl, hi⟩) _ 0 v s hs
      (by rw [h]) (List.mem_finRange i)

/-! ### Calls that return -/

/-- The event monitor has what it needs: its table, the message actions table if
that is in use, and resets that return. -/
structure EventReady (emt : EMT cfg) (s : AppData cfg) : Prop where
  emt : s.emTablePtr = some emt
  mat : s.msgActsState = .enabled → ∃ mat, s.maTablePtr = some mat

theorem EventReady.of_tables {t : AppData cfg} (h : EventReady emt s) (ht : t.tables = s.tables) :
    EventReady emt t := by
  have hm : t.maTablePtr = s.maTablePtr := congrArg TableView.mat ht
  have hst : t.msgActsState = s.msgActsState := congrArg TableView.msgActsState ht
  refine ⟨(emTablePtr_of_tables ht).trans h.emt, fun hs => ?_⟩
  rw [hm]
  exact h.mat (hst ▸ hs)

theorem procReset_returns (s : AppData cfg) : (procReset true s).val = .ok () := by
  by_cases h : s.cdsData.resetsPerformed < s.cdsData.maxResets
  · rw [procReset_of_lt h]
    rfl
  · rw [procReset_of_not_lt h]

theorem appCommand_returns (row : EMTEntry) (lk : EvtLookup) (appId : UInt32)
    (okEid errEid : EventId) (cmd : UInt32 → Call cfg) (cmdStatus : Status) (s : AppData cfg) :
    ∃ v, (appCommand row lk appId okEid errEid cmd cmdStatus s).val = .ok v := by
  by_cases h : lk.appIDByName.status = success <;> by_cases hc : cmdStatus = success <;>
    simp [appCommand, commandApp, h, hc, Prog.bind_assoc']

theorem msgAction_returns (hm : s.msgActsState = .enabled → ∃ mat, s.maTablePtr = some mat)
    (reader : Reader) (eid : EventId) (args : List EvtArg) (n : UInt32) :
    (msgAction reader eid args n s).val = .ok () := by
  obtain hn | ⟨idx, hn, h | ⟨hs, hc, h | ⟨mat, hmat⟩⟩⟩ := msgAction_cases s n
  · rw [msgAction_invalid hn]
  · rw [msgAction_off h hn]
  · obtain ⟨mat, hmat⟩ := hm hs
    rw [h] at hmat
    cases hmat
  · by_cases he : (mat idx).enableState = matStateDisabled
    · rw [msgAction_rowOff hs hc hmat he hn]
    · rw [msgAction_sent hs hc hmat he hn]

theorem eventAction_returns (h : EventReady emt s) (i : Fin cfg.maxMonitoredEvents)
    (row : EMTEntry) {lk : EvtLookup} (hr : lk.resetReturns = true) (appId : UInt32) :
    ∃ v, (eventAction i row lk appId s).val = .ok v := by
  unfold eventAction
  rw [Prog.emit_bind]
  split
  · rw [hr, Prog.emit_bind]
    have hp := procReset_returns s
    rcases hrun : procReset true s with ⟨e | u, t, l⟩
    · rw [hrun] at hp
      cases hp
    · rw [Prog.bind_ok hrun]
      exact ⟨appId, rfl⟩
  split
  · exact appCommand_returns _ _ _ _ _ _ _ s
  split
  · exact appCommand_returns _ _ _ _ _ _ _ s
  · have hm := msgAction_returns h.mat .monitorEvent .eventmonMsgactsErr
      [.str row.appName, .num row.eventID.toNat]
      (row.actionType.toUInt32 - emtActLastNonmsg.toUInt32 - 1)
    rcases hrun : msgAction .monitorEvent .eventmonMsgactsErr
      [.str row.appName, .num row.eventID.toNat]
      (row.actionType.toUInt32 - emtActLastNonmsg.toUInt32 - 1) s with ⟨e | u, t, l⟩
    · rw [hrun] at hm
      cases hm
    · rw [Prog.bind_ok hrun]
      exact ⟨appId, rfl⟩

/-- With its tables there and resets that return, `HS_MonitorEvent` returns. -/
theorem monitorEvent_returns (h : EventReady emt s) (hr : ∀ i, (lks i).resetReturns = true) :
    (monitorEvent ev lks s).val = .ok () := by
  have hrow (appId : UInt32) (i : Fin cfg.maxMonitoredEvents) (s : AppData cfg)
      (h : EventReady emt s) : Ends (fun _ => False) (fun (_ : UInt32) => EventReady emt)
        (monitorEventRow ev lks appId i) s := by
    have hval : ∃ v, (monitorEventRow ev lks appId i s).val = .ok v := by
      rw [monitorEventRow_apply h.emt]
      by_cases hit : (emt i).Hit cfg ev
      · simpa [hit] using eventAction_returns h i (emt i) (hr i) appId
      · exact ⟨appId, by simp [hit]⟩
    obtain ⟨v, hv⟩ := hval
    unfold Ends
    rw [hv]
    exact h.of_tables (monitorEventRow_does ev lks appId i s).tables_eq
  have hfold := Ends.fold (List.finRange cfg.maxMonitoredEvents)
    (fun i _ appId s => hrow appId i s) 0 s h
  unfold Ends at hfold
  rcases hrun : Prog.fold (monitorEventRow ev lks) 0 (List.finRange cfg.maxMonitoredEvents) s with
    ⟨e | v, t, l⟩
  · rw [hrun] at hfold
    exact hfold.elim
  · rw [monitorEvent, Prog.bind_ok hrun]
    rfl

/-! ### Agreement -/

/-- Every entry that `HS_MonitorEvent` acts on is one the validator found good. -/
def ActsOnGoodOnly (emt : EMT cfg) (ev : EvtMsg) : Prop :=
  ∀ (s : AppData cfg) (lks : Fin cfg.maxMonitoredEvents → EvtLookup), s.emTablePtr = some emt →
    ∀ i, Label.mark (.emtAction i) ∈ (monitorEvent ev lks s).log →
      emtClass cfg (emt i) = .good ∧ (emt i).Good cfg

/-- The event has id 0 and some entry with id 0 and an action waits for it. -/
def ZeroIdHit (emt : EMT cfg) (ev : EvtMsg) : Prop :=
  ev.eventID = 0 ∧ ∃ i, (emt i).eventID = 0 ∧ (emt i).actionType ≠ emtActNoact ∧
    strncmpEq cfg.osMaxApiName (emt i).appName ev.appName = true

/-- **Validator and consumer of the event monitor table agree on an event exactly
if it is not one with id 0 that an entry with id 0 waits for.** -/
theorem emt_validator_agrees_iff (emt : EMT cfg) (hacc : emt.Accepted) (ev : EvtMsg) :
    ActsOnGoodOnly emt ev ↔ ¬ ZeroIdHit emt ev := by
  constructor
  · rintro hgood ⟨hev, i, hid, hact, hname⟩
    let s : AppData cfg :=
      { initialData cfg with emTablePtr := some emt, msgActsState := .disabled }
    let lk : EvtLookup := ⟨⟨success, 0, true⟩, success, success, true⟩
    have hready : EventReady emt s := ⟨rfl, fun h => by cases h⟩
    have hret : (monitorEvent ev (fun _ => lk) s).val = .ok () :=
      monitorEvent_returns hready fun _ => rfl
    have hmem := emtAction_mem_of_hit hready.emt hret ⟨hact, hid.trans hev.symm, hname⟩
    exact (hgood s _ rfl i hmem).2.eventID hid
  · intro hzero s lks hs i hi
    obtain ⟨hact, hid, hname⟩ := hit_of_emtAction_mem hs hi
    have hne : (emt i).eventID ≠ 0 := fun h =>
      hzero ⟨hid ▸ h, i, h, hact, hname⟩
    have hg := hacc.good hne hact
    exact ⟨(emtClass_eq_good_iff _).mpr hg, hg⟩

/-- One entry, restarting application `A` on its event 5. -/
def emtRestartFive : EMT .small := fun _ => ⟨[65], 0, 5, emtActAppRestart⟩

theorem emtRestartFive_accepted : emtRestartFive.Accepted :=
  EMT.accepted_iff.mpr fun i err => by
    rw [show emtClass .small (emtRestartFive i) = .good from rfl]
    exact fun h => by cases h

theorem emt_validator_agrees_on_five :
    emtRestartFive.Accepted ∧ (ActsOnGoodOnly emtRestartFive ⟨[65], 5⟩ ↔
      ¬ ZeroIdHit emtRestartFive ⟨[65], 5⟩) :=
  ⟨emtRestartFive_accepted, emt_validator_agrees_iff _ emtRestartFive_accepted _⟩

/-- One entry, restarting application `A` on its event 0. -/
def emtRestartZero : EMT .small := fun _ => ⟨[65], 0, 0, emtActAppRestart⟩

theorem emtRestartZero_unused (i : Fin Config.small.maxMonitoredEvents) :
    emtClass .small (emtRestartZero i) = .unused := rfl

/-- The validator counts the entry as unused and accepts the table; on event 0 of
application `A`, `HS_MonitorEvent` acts on the entry. -/
theorem emt_validator_disagrees : ¬ ∀ emt : EMT .small, emt.Accepted →
    ∀ ev, ActsOnGoodOnly emt ev := by
  intro h
  have hacc : emtRestartZero.Accepted := EMT.accepted_iff.mpr fun i err => by
    rw [emtRestartZero_unused i]
    exact fun h => by cases h
  let s : AppData .small :=
    { initialData .small with emTablePtr := some emtRestartZero, msgActsState := .disabled }
  let lk : EvtLookup := ⟨⟨success, 0, true⟩, success, success, true⟩
  have hready : EventReady emtRestartZero s := ⟨rfl, fun h => by cases h⟩
  have hret : (monitorEvent ⟨[65], 0⟩ (fun _ => lk) s).val = .ok () :=
    monitorEvent_returns hready fun _ => rfl
  have hit : (emtRestartZero ⟨0, by decide⟩).Hit .small ⟨[65], 0⟩ := by decide
  have hgood := h _ hacc ⟨[65], 0⟩ s _ rfl _ (emtAction_mem_of_hit hready.emt hret hit)
  rw [emtRestartZero_unused] at hgood
  cases hgood.1

end HealthSafety
