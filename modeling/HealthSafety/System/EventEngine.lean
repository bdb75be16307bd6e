import HealthSafety.Lib.Script
import HealthSafety.Tables.EventTable
import HealthSafety.System.World
import HealthSafety.Tables.Loaded

/-!
# The event monitor engine

What the event monitor is for: every event leads to the actions of the entries that wait
for it, in the order of the table (`EMTEntry.WaitsFor`, `waiting`), and an action works
with nothing but its entry, the answers to the calls made for it, and what is
`Carried` over from the actions before: the reset budget, the cooldowns of the message
actions with their count, and the watchdog flag (`EMTEntry.act`).

`HS_MonitorEvent` is two nested loops around one switch, with local variables that live
on from entry to entry.  `drainEvents_reference`: wherever the event loop of
`HS_ProcessCommands` is entered, it does the actions of the events in order, and
nothing else.
-/

namespace HealthSafety

open Lib

variable {cfg : Config}

/-! ### The reference -/

/-- What an action leaves to the next one. -/
structure Carried (cfg : Config) where
  cdsData : CDSData
  msgActCooldown : Fin cfg.maxMsgActTypes → UInt16
  msgActExec : UInt32
  serviceWatchdogFlag : SwitchState

/-- A processor reset, if the budget allows it. -/
def spendReset (cds : SwitchState) (returns : Bool) (k : Carried cfg) :
    Deed (Carried cfg) (Call cfg) :=
  if k.cdsData.resetsPerformed < k.cdsData.maxResets then
    { shown := (if cds = .enabled then
          [.copyToCDS (.of (k.cdsData.resetsPerformed + 1) k.cdsData.maxResets)] else []) ++
        [.taskDelay, .writeToSysLog, .resetCFE .disabled]
      after := { k with
        cdsData := .of (k.cdsData.resetsPerformed + 1) k.cdsData.maxResets
        serviceWatchdogFlag := .disabled }
      returns := returns }
  else ⟨[.sendEvent .resetLimitErr .error []], k, true⟩

/-- The names are the same string, up to `n` bytes. -/
def SameName (n : Nat) (a b : Name) : Prop :=
  (a.takeWhile (· ≠ 0)).take n = (b.takeWhile (· ≠ 0)).take n

instance (n : Nat) (a b : Name) : Decidable (SameName n a b) :=
  inferInstanceAs (Decidable (_ = _))

namespace EMTEntry

variable (row : EMTEntry) (lk : EvtLookup)

/-- The entry has an action, and the event is the one it names. -/
def WaitsFor (cfg : Config) (ev : EvtMsg) : Prop :=
  row.actionType ≠ emtActNoact ∧ row.eventID = ev.eventID ∧
    SameName cfg.osMaxApiName row.appName ev.appName

instance (cfg : Config) (ev : EvtMsg) : Decidable (row.WaitsFor cfg ev) :=
  inferInstanceAs (Decidable (_ ∧ _ ∧ _))

/-- The event that reports an action of the entry. -/
def report (eid : EventId) (args : List EvtArg) : Call cfg :=
  .sendEvent eid .error ([.str row.appName, .num row.eventID.toNat] ++ args)

/-- The action that resets the processor. -/
def reset (cds : SwitchState) (k : Carried cfg) : Deed (Carried cfg) (Call cfg) :=
  { spendReset cds lk.resetReturns k with
    shown := row.report .eventmonProcErr [] :: (spendReset cds lk.resetReturns k).shown }

/-- Restart or delete the application that the name of the entry resolves to. -/
def command (okEid errEid : EventId) (cmd : UInt32 → Call cfg) (cmdStatus : Status) :
    List (Call cfg) :=
  .getAppIDByName row.appName ::
    if lk.appIDByName.status = success then
      row.report okEid [] :: cmd lk.appIDByName.out ::
        if cmdStatus = success then []
        else [.sendEvent errEid .error [.str row.appName, .num cmdStatus]]
    else [.sendEvent errEid .error [.str row.appName, .num lk.appIDByName.status]]

/-- The number of the message action of an entry. -/
def msgActIndex : Nat := row.actionType.toNat - (emtActLastNonmsg.toNat + 1)

/-- Send a message that is enabled and not cooling down. -/
def message (messages : Option (MAT cfg)) (k : Carried cfg) : Deed (Carried cfg) (Call cfg) :=
  match messages with
  | none => .idle k
  | some mat =>
    if h : row.msgActIndex < cfg.maxMsgActTypes then
      let idx : Fin cfg.maxMsgActTypes := ⟨row.msgActIndex, h⟩
      if k.msgActCooldown idx = 0 ∧ (mat idx).enableState ≠ matStateDisabled then
        { shown := .transmitMsg idx (mat idx) ::
            if (mat idx).enableState = matStateNoevent then []
            else [row.report .eventmonMsgactsErr [.num idx.val]]
          after := { k with
            msgActExec := k.msgActExec + 1
            msgActCooldown := Function.update k.msgActCooldown idx (mat idx).cooldown }
          returns := true }
      else .idle k
    else .idle k

/-- The action of an entry.  `cds` says whether the critical data store is there,
`messages` is the table of the message actions if it is loaded. -/
def act (cds : SwitchState) (messages : Option (MAT cfg)) (k : Carried cfg) :
    Deed (Carried cfg) (Call cfg) :=
  if row.actionType = emtActProcReset then row.reset lk cds k
  else if row.actionType = emtActAppRestart then
    ⟨row.command lk .eventmonRestartErr .eventmonNotRestartedErr .restartApp lk.restartApp, k, true⟩
  else if row.actionType = emtActAppDelete then
    ⟨row.command lk .eventmonDeleteErr .eventmonNotDeletedErr .deleteApp lk.deleteApp, k, true⟩
  else row.message messages k

end EMTEntry

/-- An event, with the answers to the calls made for each entry. -/
abbrev Event (cfg : Config) := EvtMsg × (Fin cfg.maxMonitoredEvents → EvtLookup)

/-- The entries that wait for an event, in the order of the table. -/
def waiting (emt : EMT cfg) (e : Event cfg) : List (EMTEntry × EvtLookup) :=
  (List.finRange cfg.maxMonitoredEvents).flatMap fun i =>
    if (emt i).WaitsFor cfg e.1 then [(emt i, e.2 i)] else []

/-- What the events lead to. -/
def engine (cds : SwitchState) (messages : Option (MAT cfg)) (emt : EMT cfg)
    (events : List (Event cfg)) : Carried cfg → Deed (Carried cfg) (Call cfg) :=
  perform (fun x => x.1.act x.2 cds messages) (events.flatMap (waiting emt))

/-! ### Names -/

theorem strncmpEq_iff (n : Nat) (a b : Name) : strncmpEq n a b = true ↔ SameName n a b := by
  unfold SameName
  induction n generalizing a b with
  | zero => simp [strncmpEq]
  | succ n ih =>
    rw [strncmpEq]
    cases a with
    | nil =>
      cases b with
      | nil => simp
      | cons y b =>
        by_cases hy : 0 = y
        · subst hy
          simp
        · simp [hy, Ne.symm hy]
    | cons x a =>
      cases b with
      | nil => by_cases hx : x = 0 <;> simp [hx]
      | cons y b =>
        by_cases hxy : x = y
        · subst hxy
          by_cases hx : x = 0
          · simp [hx]
          · simp [hx, ih]
        · by_cases hx : x = 0 <;> by_cases hy : y = 0 <;> simp_all

theorem hit_iff_waitsFor (row : EMTEntry) (ev : EvtMsg) :
    row.Hit cfg ev ↔ row.WaitsFor cfg ev := by
  unfold EMTEntry.Hit EMTEntry.WaitsFor
  rw [strncmpEq_iff]

theorem msgActIndex_eq {row : EMTEntry} (hno : row.actionType ≠ emtActNoact)
    (hreset : row.actionType ≠ emtActProcReset) (hrestart : row.actionType ≠ emtActAppRestart)
    (hdelete : row.actionType ≠ emtActAppDelete) :
    (row.actionType.toUInt32 - emtActLastNonmsg.toUInt32 - 1).toNat = row.msgActIndex := by
  have hlt := row.actionType.toNat_lt
  have hge : 4 ≤ row.actionType.toNat := by
    have hne {v : UInt16} (h : row.actionType ≠ v) : row.actionType.toNat ≠ v.toNat :=
      fun heq => h (UInt16.toNat_inj.mp heq)
    have h0 : row.actionType.toNat ≠ 0 := hne hno
    have h1 : row.actionType.toNat ≠ 1 := hne hreset
    have h2 : row.actionType.toNat ≠ 2 := hne hrestart
    have h3 : row.actionType.toNat ≠ 3 := hne hdelete
    omega
  have hthree : emtActLastNonmsg.toUInt32.toNat = 3 := rfl
  rw [EMTEntry.msgActIndex, UInt32.toNat_sub_of_le, UInt32.toNat_sub_of_le, hthree,
    UInt16.toNat_toUInt32, UInt32.toNat_one]
  · rfl
  · rw [UInt32.le_iff_toNat_le, hthree, UInt16.toNat_toUInt32]
    omega
  · rw [UInt32.le_iff_toNat_le, UInt32.toNat_sub_of_le, hthree, UInt16.toNat_toUInt32,
      UInt32.toNat_one]
    · omega
    · rw [UInt32.le_iff_toNat_le, hthree, UInt16.toNat_toUInt32]
      omega

/-! ### One entry -/

def AppData.carried (s : AppData cfg) : Carried cfg where
  cdsData := s.cdsData
  msgActCooldown := s.msgActCooldown
  msgActExec := s.msgActExec
  serviceWatchdogFlag := s.serviceWatchdogFlag

/-- `HS_AppData` with this carried over and nothing else changed. -/
def AppData.carrying (s : AppData cfg) (k : Carried cfg) : AppData cfg :=
  { s with
    cdsData := k.cdsData
    msgActCooldown := k.msgActCooldown
    msgActExec := k.msgActExec
    serviceWatchdogFlag := k.serviceWatchdogFlag }

/-- The call of a label. -/
def Label.called : Label cfg → Option (Call cfg)
  | .call c => some c
  | .mark _ => none

/-- The table of the message actions, if it is loaded. -/
def AppData.messages (s : AppData cfg) : Option (MAT cfg) :=
  if s.msgActsState = .enabled then s.maTablePtr else none

/-- From `s`, with `k` carried over, the program does what `d` says. -/
abbrev Enacts {α : Type} (s : AppData cfg) (m : HsM cfg α) (k : Carried cfg)
    (d : Deed (Carried cfg) (Call cfg)) : Prop :=
  Performs Label.called s.carrying Stop.reboot m k d

variable {s : AppData cfg} {k : Carried cfg}

theorem procReset_enacts (returns : Bool) :
    Enacts s (procReset returns) k (spendReset s.cdsState returns k) := by
  by_cases hlt : k.cdsData.resetsPerformed < k.cdsData.maxResets
  · have hrun := procReset_of_lt (s := s.carrying k) hlt returns
    rw [spendReset, if_pos hlt]
    refine ⟨(), _, hrun, ?_⟩
    have hcopy : (copyLog (s.carrying k)
        (.of (k.cdsData.resetsPerformed + 1) k.cdsData.maxResets)).filterMap Label.called =
        if s.cdsState = .enabled then
          [.copyToCDS (.of (k.cdsData.resetsPerformed + 1) k.cdsData.maxResets)] else [] := by
      show (if s.cdsState = .enabled then _ else _ : List (Label cfg)).filterMap _ = _
      split <;> rfl
    rw [resetLog, List.filterMap_append]
    exact congrArg (· ++ _) hcopy
  · have hrun := procReset_of_not_lt (s := s.carrying k) hlt returns
    rw [spendReset, if_neg hlt]
    exact ⟨(), _, hrun, rfl⟩

theorem call_enacts (c : Call cfg) (k : Carried cfg) : Enacts s (call c) k ⟨[c], k, true⟩ :=
  .shown rfl

theorem commandApp_enacts (row : EMTEntry) (status : Status) (appId : UInt32)
    (okEid errEid : EventId) (cmd : UInt32 → Call cfg) (cmdStatus : Status) (k : Carried cfg) :
    Enacts s (commandApp row status appId okEid errEid cmd cmdStatus) k
      ⟨if status = success then row.report okEid [] :: cmd appId ::
          if cmdStatus = success then []
          else [.sendEvent errEid .error [.str row.appName, .num cmdStatus]]
        else [.sendEvent errEid .error [.str row.appName, .num status]], k, true⟩ := by
  by_cases hstatus : status = success
  · rw [commandApp, if_pos hstatus, if_pos hstatus]
    by_cases hcmd : cmdStatus = success
    · rw [if_pos hcmd, if_neg (not_not.mpr hcmd)]
      exact (call_enacts _ k).bind fun _ k => (call_enacts _ k).bind fun _ _ => .pure ()
    · rw [if_neg hcmd, if_pos hcmd]
      exact (call_enacts _ k).bind fun _ k => (call_enacts _ k).bind fun _ k => call_enacts _ k
  · rw [commandApp, if_neg hstatus, if_neg hstatus]
    exact call_enacts _ k

theorem appCommand_enacts (row : EMTEntry) (lk : EvtLookup) (appId : UInt32)
    (okEid errEid : EventId) (cmd : UInt32 → Call cfg) (cmdStatus : Status) (k : Carried cfg) :
    Enacts s (appCommand row lk appId okEid errEid cmd cmdStatus) k
      ⟨row.command lk okEid errEid cmd cmdStatus, k, true⟩ := by
  have hrun := (call_enacts (s := s) (.getAppIDByName row.appName) k).bind fun _ k =>
    (commandApp_enacts row lk.appIDByName.status (lk.appIDByName.value appId) okEid errEid cmd
      cmdStatus k).andPure fun _ => lk.appIDByName.value appId
  by_cases hfound : lk.appIDByName.status = success
  · rw [EMTEntry.command, if_pos hfound, ← Reply.value_of_success hfound appId]
    simp only [if_pos hfound] at hrun
    exact hrun
  · rw [EMTEntry.command, if_neg hfound]
    simp only [if_neg hfound] at hrun
    exact hrun

theorem messages_eq {mat : MAT cfg} (hon : s.msgActsState = .enabled)
    (hmat : s.maTablePtr = some mat) : s.messages = some mat := by
  rw [AppData.messages, if_pos hon, hmat]

theorem msgAction_enacts (hmat : s.msgActsState = .enabled → ∃ mat, s.maTablePtr = some mat)
    {row : EMTEntry} {n : UInt32} (hn : n.toNat = row.msgActIndex) (k : Carried cfg) :
    Enacts s (msgAction .monitorEvent .eventmonMsgactsErr
      [.str row.appName, .num row.eventID.toNat] n) k (row.message s.messages k) := by
  have hoff (idx : Fin cfg.maxMsgActTypes) (hidx : n.toNat = idx)
      (h : s.msgActsState = .disabled ∨ k.msgActCooldown idx ≠ 0) :
      Enacts s (msgAction .monitorEvent .eventmonMsgactsErr
        [.str row.appName, .num row.eventID.toNat] n) k (.idle k) :=
    ⟨(), _, @msgAction_off cfg (s.carrying k) idx h _ _ _ _ hidx, rfl⟩
  have hinvalid (hle : cfg.maxMsgActTypes ≤ n.toNat) :
      Enacts s (msgAction .monitorEvent .eventmonMsgactsErr
        [.str row.appName, .num row.eventID.toNat] n) k (.idle k) :=
    ⟨(), _, @msgAction_invalid cfg (s.carrying k) _ _ _ n hle, rfl⟩
  cases hon : s.msgActsState with
  | disabled =>
    have hnone : s.messages = none := by rw [AppData.messages, if_neg (by rw [hon]; decide)]
    rw [hnone]
    by_cases hlt : n.toNat < cfg.maxMsgActTypes
    · exact hoff ⟨n.toNat, hlt⟩ rfl (.inl hon)
    · exact hinvalid (Nat.not_lt.mp hlt)
  | enabled =>
    obtain ⟨mat, hmat⟩ := hmat hon
    rw [messages_eq hon hmat, EMTEntry.message]
    by_cases hlt : row.msgActIndex < cfg.maxMsgActTypes
    · let idx : Fin cfg.maxMsgActTypes := ⟨row.msgActIndex, hlt⟩
      simp only [dif_pos hlt]
      by_cases hcool : k.msgActCooldown idx = 0
      · by_cases hdisabled : (mat idx).enableState = matStateDisabled
        · rw [if_neg fun h => h.2 hdisabled]
          exact ⟨(), _, @msgAction_rowOff cfg (s.carrying k) mat idx hon hcool hmat hdisabled _ _ _ _
            hn, rfl⟩
        · rw [if_pos ⟨hcool, hdisabled⟩]
          refine ⟨(), _, @msgAction_sent cfg (s.carrying k) mat idx hon hcool hmat hdisabled _ _ _ _
            hn, ?_⟩
          by_cases hevent : (mat idx).enableState = matStateNoevent
          · rw [if_pos hevent, if_neg (not_not.mpr hevent)]
            rfl
          · rw [if_neg hevent, if_pos hevent]
            rfl
      · rw [if_neg fun h => hcool h.1]
        exact hoff idx hn (.inr hcool)
    · simp only [dif_neg hlt]
      exact hinvalid (by omega)

theorem eventAction_enacts (hmat : s.msgActsState = .enabled → ∃ mat, s.maTablePtr = some mat)
    (i : Fin cfg.maxMonitoredEvents) {row : EMTEntry} (hno : row.actionType ≠ emtActNoact)
    (lk : EvtLookup) (appId : UInt32) (k : Carried cfg) :
    Enacts s (eventAction i row lk appId) k (row.act lk s.cdsState s.messages k) := by
  have hmark {α : Type} {m : HsM cfg α} {d : Deed (Carried cfg) (Call cfg)} (hm : Enacts s m k d) :
      Enacts s (mark (.emtAction i) >>= fun _ => m) k d := by
    obtain ⟨a, l, hrun, hshown⟩ := hm
    refine ⟨a, .mark (.emtAction i) :: l, ?_, hshown⟩
    rw [Prog.emit_bind, hrun]
  refine hmark ?_
  by_cases hreset : row.actionType = emtActProcReset
  · rw [if_pos hreset, EMTEntry.act, if_pos hreset]
    have hrun := (call_enacts (s := s) (row.report .eventmonProcErr []) k).bind fun _ k =>
      (procReset_enacts (s := s) (k := k) lk.resetReturns).andPure fun _ => appId
    exact hrun
  by_cases hrestart : row.actionType = emtActAppRestart
  · rw [if_neg hreset, if_pos hrestart, EMTEntry.act, if_neg hreset, if_pos hrestart]
    exact appCommand_enacts row lk appId _ _ _ _ k
  by_cases hdelete : row.actionType = emtActAppDelete
  · rw [if_neg hreset, if_neg hrestart, if_pos hdelete, EMTEntry.act, if_neg hreset,
      if_neg hrestart, if_pos hdelete]
    exact appCommand_enacts row lk appId _ _ _ _ k
  · rw [if_neg hreset, if_neg hrestart, if_neg hdelete, EMTEntry.act, if_neg hreset,
      if_neg hrestart, if_neg hdelete]
    exact (msgAction_enacts hmat (msgActIndex_eq hno hreset hrestart hdelete) k).andPure
      fun _ => appId

/-! ### One event -/

variable {emt : EMT cfg} {ev : EvtMsg} {lks : Fin cfg.maxMonitoredEvents → EvtLookup}

/-- The actions of the entries that wait for an event. -/
def eventDeed (cds : SwitchState) (messages : Option (MAT cfg)) (emt : EMT cfg) (e : Event cfg) :
    Carried cfg → Deed (Carried cfg) (Call cfg) :=
  perform (fun x => x.1.act x.2 cds messages) (waiting emt e)

theorem monitorEventRow_enacts (h : EventReady emt s) (appId : UInt32)
    (i : Fin cfg.maxMonitoredEvents) (k : Carried cfg) :
    Enacts s (monitorEventRow ev lks appId i) k
      (perform (fun x => x.1.act x.2 s.cdsState s.messages)
        (if (emt i).WaitsFor cfg ev then [(emt i, lks i)] else []) k) := by
  have hrow (m : HsM cfg UInt32) {d : Deed (Carried cfg) (Call cfg)} (hm : Enacts s m k d)
      (hrun : monitorEventRow ev lks appId i (s.carrying k) = ⟨(m (s.carrying k)).val,
        (m (s.carrying k)).state, .mark (.rowRead .monitorEvent (.emt i (emt i))) ::
          (m (s.carrying k)).log⟩) : Enacts s (monitorEventRow ev lks appId i) k d := by
    obtain ⟨a, l, hm, hshown⟩ := hm
    rw [hm] at hrun
    exact ⟨a, _, hrun, hshown⟩
  have hrun := @monitorEventRow_apply cfg (s.carrying k) emt ev lks h.emt appId i
  by_cases hit : (emt i).Hit cfg ev
  · rw [if_pos ((hit_iff_waitsFor _ _).mp hit), perform_singleton]
    simp only [if_pos hit] at hrun
    exact hrow _ (eventAction_enacts h.mat i hit.1 (lks i) appId k) hrun
  · rw [if_neg fun hw => hit ((hit_iff_waitsFor _ _).mpr hw)]
    simp only [if_neg hit] at hrun
    exact hrow _ (.pure appId) hrun

theorem monitorEvent_enacts (h : EventReady emt s) (k : Carried cfg) :
    Enacts s (monitorEvent ev lks) k (eventDeed s.cdsState s.messages emt (ev, lks) k) := by
  have hfold := Performs.fold (@monitorEventRow_enacts cfg s emt ev lks h) 0
    (List.finRange cfg.maxMonitoredEvents) k
  rw [← perform_flatMap] at hfold
  exact hfold.andPure fun _ => ()

/-- `HS_AppData` with this count of events and this carried over. -/
def AppData.counted (s : AppData cfg) (x : UInt32 × Carried cfg) : AppData cfg :=
  { s.carrying x.2 with eventsMonitoredCount := x.1 }

theorem receiveEvent_performs (h : EventReady emt s) (x : UInt32 × Carried cfg) :
    Performs Label.called s.counted Stop.reboot (receiveEvent ev lks) x
      (counting (· + 1) (eventDeed s.cdsState s.messages emt) (ev, lks) x) := by
  let s' : AppData cfg := { s with eventsMonitoredCount := x.1 + 1 }
  have h' : EventReady emt s' := ⟨h.emt, h.mat⟩
  obtain ⟨a, l, hrun, hshown⟩ := @monitorEvent_enacts cfg s' emt ev lks h' x.2
  refine ⟨a, l, ?_, hshown⟩
  rw [receiveEvent, Prog.modify_bind]
  exact hrun

/-! ### The event loop -/

/-- The events of the loop; a buffer without a message is skipped. -/
def received (items : List (Option EvtMsg × (Fin cfg.maxMonitoredEvents → EvtLookup))) :
    List (Event cfg) :=
  items.flatMap fun e => e.1.toList.map fun ev => (ev, e.2)

/-- The number of events that are taken from the pipe. -/
def taken (cds : SwitchState) (messages : Option (MAT cfg)) (emt : EMT cfg)
    (events : List (Event cfg)) (k : Carried cfg) : Nat :=
  begun (eventDeed cds messages emt) events k

theorem iterate_succ_eq (n : UInt32) (m : Nat) : (· + 1)^[m] n = n + UInt32.ofNat m := by
  induction m generalizing n with
  | zero => exact (UInt32.add_zero n).symm
  | succ m ih =>
    rw [Function.iterate_succ_apply, ih, UInt32.ofNat_add, UInt32.add_assoc]
    congr 1
    exact UInt32.add_comm _ _

theorem eventLoop_performs (h : EventReady emt s)
    {body : Option EvtMsg × (Fin cfg.maxMonitoredEvents → EvtLookup) → HsM cfg Unit}
    (hsome : ∀ ev lks, body (some ev, lks) = receiveEvent ev lks)
    (hnone : ∀ lks, body (none, lks) = pure ())
    (items : List (Option EvtMsg × (Fin cfg.maxMonitoredEvents → EvtLookup)))
    (x : UInt32 × Carried cfg) :
    Performs Label.called s.counted Stop.reboot (Prog.each items body) x
      (perform (counting (· + 1) (eventDeed s.cdsState s.messages emt)) (received items) x) := by
  rw [received, perform_flatMap]
  refine Performs.each (fun e x => ?_) items x
  obtain ⟨_ | ev, lks⟩ := e
  · rw [hnone]
    exact .pure ()
  · rw [hsome]
    show Performs _ _ _ _ _ (perform _ [(ev, lks)] x)
    rw [perform_singleton]
    exact receiveEvent_performs h x

/-- With its tables there, the event loop does what the engine does. -/
theorem drainEvents_performs (c : CycleIn cfg) (h : EventReady emt s)
    (hon : s.currentEventMonState = .enabled) :
    ∃ l, drainEvents c s =
        ⟨if (engine s.cdsState s.messages emt (received c.events) s.carried).returns = true then
            .ok c.eventsEnd.val else .error .reboot,
          s.counted (s.eventsMonitoredCount +
              UInt32.ofNat (taken s.cdsState s.messages emt (received c.events) s.carried),
            (engine s.cdsState s.messages emt (received c.events) s.carried).after), l⟩ ∧
      l.filterMap Label.called =
        (engine s.cdsState s.messages emt (received c.events) s.carried).shown := by
  obtain ⟨body, hdrain, hsome, hnone⟩ : ∃ body, drainEvents c s =
      (Prog.each c.events body >>= fun _ => pure c.eventsEnd.val : HsM cfg Status) s ∧
      (∀ ev lks, body (some ev, lks) = receiveEvent ev lks) ∧ ∀ lks, body (none, lks) = pure () :=
    ⟨_, by rw [drainEvents, Prog.get_bind, if_pos hon], fun _ _ => rfl, fun _ => rfl⟩
  obtain ⟨u, l, hrun, hshown⟩ := eventLoop_performs h hsome hnone c.events
    (s.eventsMonitoredCount, s.carried)
  rw [perform_counting, iterate_succ_eq] at hrun hshown
  have hengine : perform (eventDeed s.cdsState s.messages emt) (received c.events) s.carried =
      engine s.cdsState s.messages emt (received c.events) s.carried :=
    (perform_flatMap _ _).symm
  rw [hengine] at hrun hshown
  refine ⟨l, ?_, hshown⟩
  rw [hdrain]
  cases hret : (engine s.cdsState s.messages emt (received c.events) s.carried).returns with
  | true =>
    rw [hret] at hrun
    refine (Prog.bind_ok hrun).trans ?_
    rw [Prog.pure_apply, List.append_nil]
    rfl
  | false =>
    rw [hret] at hrun
    exact Prog.bind_error hrun

/-! ### Wherever the loop is entered -/

/-- `HS_ProcessMain` up to the event loop. -/
def beforeEvents (c : CycleIn cfg) : HsM cfg Unit := do
  acquirePointers c.acquire
  decrementCooldowns
  checkUtilization c.utilization
  checkApplications c.apps
  outputAliveness

theorem processMain_beforeEvents (c : CycleIn cfg) : processMain c = (do
    beforeEvents c
    let status ← processCommands c
    serviceWatchdog
    pure status) := by
  simp only [processMain, beforeEvents, Prog.bind_assoc']

/-- The states in which a pass of the main loop enters the event loop. -/
def AtEventLoop (c : CycleIn cfg) (s : AppData cfg) : Prop :=
  ∃ s₀ l, beforeEvents c s₀ = ⟨.ok (), s, l⟩

theorem AtEventLoop.monitorsLoaded {c : CycleIn cfg} (h : AtEventLoop c s) :
    MonitorsLoaded c.acquire s := by
  obtain ⟨s₀, l, hrun⟩ := h
  have htab (t : AppData cfg) (h : MonitorsLoaded c.acquire t) : MonitorsLoaded c.acquire t := h
  have hrest : Logs (MonitorsLoaded c.acquire) (FromAcquired c.acquire) (MonitorsLoaded c.acquire)
      (do decrementCooldowns
          checkUtilization c.utilization
          checkApplications c.apps
          outputAliveness : HsM cfg Unit) :=
    Logs.bind htab (Does.logs_monitorsLoaded decrementCooldowns_does safeWith_of_mem) fun _ =>
      Logs.bind htab (Does.logs_monitorsLoaded (checkUtilization_does _) safeWith_of_mem) fun _ =>
      Logs.bind htab (checkApplications_logs _) fun _ =>
        Does.logs_monitorsLoaded outputAliveness_does safeWith_of_mem
  exact monitorsLoaded_behind hrest hrun

/-- The messages are those of the table acquired in this pass. -/
theorem MonitorsLoaded.messages_eq {r : AcquireIn cfg} (h : MonitorsLoaded r s) :
    s.messages = r.mat.ptr ∧ (s.msgActsState = .enabled → ∃ mat, s.maTablePtr = some mat) := by
  have hstate : s.msgActsState = loadedState r.mat.status :=
    congrArg TableView.msgActsState h.tables
  have hmat : s.maTablePtr = r.mat.ptr := congrArg TableView.mat h.tables
  refine ⟨?_, fun hs => ?_⟩
  · rw [AppData.messages, hmat, hstate]
    by_cases hneg : r.mat.status < success
    · rw [TblReply.ptr_eq_none.mpr hneg]
      exact ite_self _
    · exact if_pos (loadedState_eq_enabled.mpr (Int.not_lt.mp hneg))
  · have hle := loadedState_eq_enabled.mp (hstate.symm.trans hs)
    exact ⟨_, maTablePtr_of_acquired h.tables hle⟩

theorem AtEventLoop.eventReady {c : CycleIn cfg} (h : AtEventLoop c s)
    (hon : s.currentEventMonState = .enabled) :
    EventReady c.acquire.emt.table s ∧ s.messages = c.acquire.mat.ptr := by
  have hloaded := h.monitorsLoaded
  obtain ⟨hmessages, hmat⟩ := hloaded.messages_eq
  exact ⟨⟨emTablePtr_of_acquired hloaded.tables (hloaded.eventMon hon), hmat⟩, hmessages⟩

/-- The action of the entry leaves nothing to later ones: it restarts or deletes an
application, or resets the processor without a budget. -/
def EMTEntry.Spares (row : EMTEntry) (k : Carried cfg) : Prop :=
  row.actionType = emtActAppRestart ∨ row.actionType = emtActAppDelete ∨
    row.actionType = emtActProcReset ∧ ¬ k.cdsData.resetsPerformed < k.cdsData.maxResets

/-- Whatever the calls of such an action return, the next ones find things as before it. -/
theorem EMTEntry.act_of_spares {row : EMTEntry} (h : row.Spares k) (lk : EvtLookup)
    (cds : SwitchState) (messages : Option (MAT cfg)) :
    (row.act lk cds messages k).after = k ∧ (row.act lk cds messages k).returns = true := by
  rcases h with hrestart | hdelete | ⟨hreset, hspent⟩
  · rw [act, if_neg (by rw [hrestart]; decide), if_pos hrestart]
    exact ⟨rfl, rfl⟩
  · rw [act, if_neg (by rw [hdelete]; decide), if_neg (by rw [hdelete]; decide), if_pos hdelete]
    exact ⟨rfl, rfl⟩
  · rw [act, if_pos hreset, reset, spendReset, if_neg hspent]
    exact ⟨rfl, rfl⟩

/-- **The event monitor meets its reference.**  Wherever a pass of the main loop enters the
event loop with the event monitor on, the calls of the loop are those of the actions of
the waiting entries, in the order of the events and of the table; nothing in
`HS_AppData` changes but what the actions carry over and the count of events, which goes
up by one for each event; and the loop goes on until the pipe is empty or a reset does
not return. -/
theorem drainEvents_reference (c : CycleIn cfg) {s : AppData cfg} (hloop : AtEventLoop c s)
    (hon : s.currentEventMonState = .enabled) :
    let d := engine s.cdsState c.acquire.mat.ptr c.acquire.emt.table (received c.events) s.carried
    let n := taken s.cdsState c.acquire.mat.ptr c.acquire.emt.table (received c.events) s.carried
    (drainEvents c s).log.filterMap Label.called = d.shown ∧
      (drainEvents c s).state = { s.carrying d.after with
        eventsMonitoredCount := s.eventsMonitoredCount + UInt32.ofNat n } ∧
      (drainEvents c s).val = (if d.returns = true then .ok c.eventsEnd.val else .error .reboot) ∧
      (d.returns = true → n = (received c.events).length) ∧
      ∀ (row : EMTEntry) (lk : EvtLookup) (k : Carried cfg), row.Spares k →
        (row.act lk s.cdsState c.acquire.mat.ptr k).after = k ∧
          (row.act lk s.cdsState c.acquire.mat.ptr k).returns = true := by
  obtain ⟨hready, hmessages⟩ := hloop.eventReady hon
  obtain ⟨l, hrun, hshown⟩ := drainEvents_performs c hready hon
  rw [hmessages] at hrun hshown
  intro d n
  refine ⟨?_, ?_, ?_, fun hret => ?_, fun row lk k h => EMTEntry.act_of_spares h lk _ _⟩
  · rw [hrun]
    exact hshown
  · rw [hrun]
    rfl
  · rw [hrun]
  · refine begun_of_returns ?_
    have hengine : perform (eventDeed s.cdsState c.acquire.mat.ptr c.acquire.emt.table)
        (received c.events) s.carried = d := (perform_flatMap _ _).symm
    rw [hengine, hret]

/-- A cycle with one event of application `A`, for which one entry waits; the name
resolves to 7. -/
def restartCycle : CycleIn .small where
  acquire := .ok (fun _ => ⟨[], 0, 0, 0⟩) emtRestartFive (fun _ => ⟨0, 0, ⟨1, 8⟩⟩)
    (fun _ => ⟨[], 0, 0⟩)
  utilization := ⟨success, 0, true⟩
  apps := fun _ => ⟨⟨success, 0, true⟩, ⟨success, 0, true⟩, success, true⟩
  events := [(some ⟨[65], 5⟩, fun _ => ⟨⟨success, 7, true⟩, success, success, true⟩)]
  eventsEnd := failed
  cmds := []
  cmdsEnd := failed

/-- `HS_AppData` as that cycle enters the event loop. -/
def restartData : AppData .small := (beforeEvents restartCycle (initialData .small)).state

theorem restartData_atEventLoop : AtEventLoop restartCycle restartData := by
  refine ⟨initialData .small, (beforeEvents restartCycle (initialData .small)).log, ?_⟩
  have hval : (beforeEvents restartCycle (initialData .small)).val = .ok () := by rfl
  rw [restartData, ← hval]

theorem restartData_on : restartData.currentEventMonState = .enabled := by decide +kernel

theorem drainEvents_reference_restart :
    AtEventLoop restartCycle restartData ∧ restartData.currentEventMonState = .enabled ∧
      (drainEvents restartCycle restartData).log.filterMap Label.called =
        [.getAppIDByName [65], .sendEvent .eventmonRestartErr .error [.str [65], .num 5],
          .restartApp 7] := by
  have hmain := drainEvents_reference restartCycle restartData_atEventLoop restartData_on
  exact ⟨restartData_atEventLoop, restartData_on, hmain.1⟩

end HealthSafety
