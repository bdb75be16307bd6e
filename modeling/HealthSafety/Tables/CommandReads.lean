import HealthSafety.Tables.Loaded

/-!
# What the commands read

Two handlers read a table without a look at its flag.  `HS_SendHkCmd` walks the
event monitor table to count the entries whose application is gone, and
`HS_EnableAppMonCmd` runs the refresh over the application monitor table.  In a
cycle whose acquisition of that table failed they read through a pointer that is
not there; in every other case a handler reads only what the cycle acquired
(`commands_read_acquired_iff`).
-/

namespace HealthSafety

open Lib

variable {cfg : Config} {r : AcquireIn cfg} {s : AppData cfg}

/-- The states within a cycle of the main loop whose acquisition was answered by
`r`: right after it, and after any of the steps that follow, in any order. -/
inductive InCycle (r : AcquireIn cfg) : AppData cfg → Prop
  | acquired (s : AppData cfg) : InCycle r (acquirePointers r s).state
  | cooldowns {s : AppData cfg} (h : InCycle r s) : InCycle r (decrementCooldowns s).state
  | utilization {s : AppData cfg} (u : Reply Int) (h : InCycle r s) :
      InCycle r (checkUtilization u s).state
  | applications {s : AppData cfg} (lks : Fin cfg.maxMonitoredApps → AppLookup)
      (h : InCycle r s) : InCycle r (checkApplications lks s).state
  | aliveness {s : AppData cfg} (h : InCycle r s) : InCycle r (outputAliveness s).state
  | event {s : AppData cfg} (ev : EvtMsg) (lks : Fin cfg.maxMonitoredEvents → EvtLookup)
      (h : InCycle r s) : InCycle r (receiveEvent ev lks s).state
  | command {s : AppData cfg} (msg : CmdMsg) (replies : CmdReplies cfg) (h : InCycle r s) :
      InCycle r (appPipe msg replies s).state

theorem keepsTables_of_mem_cmdKinds {msg : CmdMsg} {k : Kind} (hk : k ∈ cmdKinds cfg msg) :
    k.keepsTables = true := by
  have h : ∀ k ∈ anyCmdKinds, k.keepsTables = true := by decide
  exact h k (cmdKinds_subset cfg msg hk)

/-- Within a cycle the tables are those of its acquisition. -/
theorem InCycle.tables (h : InCycle r s) : s.tables = .of r := by
  induction h with
  | acquired s => exact acquirePointers_tables r s
  | cooldowns _ ih => exact (decrementCooldowns_does _).tables_eq.trans ih
  | utilization u _ ih => exact (checkUtilization_does u _).tables_eq.trans ih
  | applications lks _ ih => exact (checkApplications_does lks _).tables_eq.trans ih
  | aliveness _ ih => exact (outputAliveness_does _).tables_eq.trans ih
  | event ev lks _ ih => exact (receiveEvent_does ev lks _).tables_eq.trans ih
  | command msg replies _ ih =>
    exact ((appPipe_does msg replies _).tables_eq fun _ => keepsTables_of_mem_cmdKinds).trans ih

/-! ### The two unguarded reads -/

theorem readEmt_null (hs : s.emTablePtr = none) (reader : Reader)
    (i : Fin cfg.maxMonitoredEvents) :
    readEmt reader i s =
      ⟨.error (.nullRead .emt reader), s, [.mark (.nullRead .emt reader)]⟩ := by
  simp [readEmt, hs, Prog.bind_assoc']

theorem sendHkCmd_null (hs : s.emTablePtr = none) (hk : HkIn cfg) :
    Label.mark (.nullRead .emt .sendHkCmd) ∈ (sendHkCmd hk s).log := by
  have hne : List.finRange cfg.maxMonitoredEvents ≠ [] := by
    rw [ne_eq, List.finRange_eq_nil_iff]
    exact Nat.ne_of_gt cfg.verified.monitoredEvents_pos
  obtain ⟨i, is, his⟩ := List.exists_cons_of_ne_nil hne
  rw [sendHkCmd, Prog.emit_bind, modifyHk, Prog.modify_bind, his]
  refine List.mem_cons_of_mem _ (Prog.mem_bind_log (Prog.mem_each_log_head ?_))
  let s' : AppData cfg := { s with hkPacket := s.hkPacket.update s }
  have hs' : s'.emTablePtr = none := hs
  show _ ∈ (countInvalidEvent hk.appIDByName i s').log
  rw [countInvalidEvent, Prog.bind_error (readEmt_null hs' _ i)]
  exact List.mem_singleton_self _

/-! ### All commands -/

/-- While it handles the message, HS reads table rows only from tables the cycle
acquired. -/
def CommandReadsAcquired (r : AcquireIn cfg) (s : AppData cfg) (msg : CmdMsg)
    (replies : CmdReplies cfg) : Prop :=
  (∀ tbl reader, Label.mark (.nullRead tbl reader) ∉ (appPipe msg replies s).log) ∧
    ∀ reader row, Label.mark (.rowRead reader row) ∈ (appPipe msg replies s).log → row.From r

/-- A handler finds no table missing but those that could not be acquired. -/
theorem failed_of_nullRead (ht : s.tables = .of r) {msg : CmdMsg} {replies : CmdReplies cfg}
    {tbl : TableId} {reader : Reader}
    (hx : Label.mark (.nullRead tbl reader) ∈ (appPipe msg replies s).log) :
    Failed r tbl ∧ (tbl = .amt ∨ tbl = .emt) := by
  refine (appPipe_does msg replies s).labels_of_tables (P := fun x => ∀ tbl reader,
    x = .mark (.nullRead tbl reader) → Failed r tbl ∧ (tbl = .amt ∨ tbl = .emt)) ?_
    (fun _ => keepsTables_of_mem_cmdKinds) _ hx tbl reader rfl
  rintro k - t l u htab ha x hx tbl reader rfl
  have hkx := ha.mem_kinds hx
  rw [Label.kinds, List.mem_singleton] at hkx
  subst hkx
  cases ha with
  | rowRead => simp at hx
  | nullRead _ _ h => exact h.failed (htab.trans ht)

/-- A handler that reads a missing table is one of the two. -/
theorem unguarded_of_nullRead (ht : s.tables = .of r) {msg : CmdMsg} {replies : CmdReplies cfg}
    {tbl : TableId} {reader : Reader}
    (hx : Label.mark (.nullRead tbl reader) ∈ (appPipe msg replies s).log) :
    accepted cfg msg = some .sendHk ∧ r.emt.status < success ∨
      accepted cfg msg = some .enableAppMon ∧ r.amt.status < success := by
  obtain ⟨k, hk, hkx⟩ := (appPipe_does msg replies s).kind_of_mem hx
  rw [Label.kinds, List.mem_singleton] at hkx
  subst hkx
  have hfail := failed_of_nullRead ht hx
  unfold cmdKinds at hk
  cases hm : accepted cfg msg with
  | none => simp [hm] at hk
  | some h =>
    rw [hm] at hk
    cases h with
    | sendHk =>
      simp only [Option.map_some, Option.getD_some, Handler.kinds, hkKinds, List.mem_cons,
        reduceCtorEq, Kind.read.injEq, List.not_mem_nil, or_false, false_or] at hk
      rcases hk with ⟨-, rfl⟩ | ⟨-, rfl⟩
      · exact .inl ⟨rfl, hfail.1⟩
      · simp at hfail
    | enableAppMon =>
      simp only [Option.map_some, Option.getD_some, Handler.kinds, refreshKinds, List.mem_cons,
        reduceCtorEq, Kind.read.injEq, List.not_mem_nil, or_false, false_or] at hk
      obtain ⟨-, rfl⟩ := hk
      exact .inr ⟨rfl, hfail.1⟩
    | _ => simp [Handler.kinds] at hk

/-- **A message is handled from acquired tables only, exactly if it is neither a
housekeeping request in a cycle without an event monitor table nor an EnableAppMon
command in a cycle without an application monitor table.** -/
theorem commands_read_acquired_iff (h : InCycle r s) (msg : CmdMsg) (replies : CmdReplies cfg) :
    CommandReadsAcquired r s msg replies ↔
      ¬ (accepted cfg msg = some .sendHk ∧ r.emt.status < success) ∧
        ¬ (accepted cfg msg = some .enableAppMon ∧ r.amt.status < success) := by
  have hem : s.emTablePtr = r.emt.ptr := congrArg TableView.emt h.tables
  have ham : s.amTablePtr = r.amt.ptr := congrArg TableView.amt h.tables
  constructor
  · rintro ⟨hnull, -⟩
    refine ⟨fun ⟨hacc, hfail⟩ => ?_, fun ⟨hacc, hfail⟩ => ?_⟩
    · refine hnull .emt .sendHkCmd ?_
      rw [appPipe_of_accepted hacc]
      exact sendHkCmd_null (hem.trans (TblReply.ptr_eq_none.mpr hfail)) _
    · refine hnull .amt .appMonStatusRefresh ?_
      rw [appPipe_of_accepted hacc]
      obtain ⟨t, hrun⟩ := enableAppMonCmd_null (ham.trans (TblReply.ptr_eq_none.mpr hfail))
      show _ ∈ (enableAppMonCmd s).log
      rw [hrun]
      exact List.mem_cons_of_mem _ (List.mem_singleton_self _)
  · rintro ⟨hhk, hen⟩
    refine ⟨fun tbl reader hx => ?_, fun reader row hx => ?_⟩
    · exact (unguarded_of_nullRead h.tables hx).elim hhk hen
    · refine (appPipe_does msg replies s).labels_of_tables
        (P := fun x => ∀ reader row, x = .mark (.rowRead reader row) → row.From r) ?_
        (fun _ => keepsTables_of_mem_cmdKinds) _ hx reader row rfl
      rintro k - t l u htab ha x hx reader row rfl
      have hkx := ha.mem_kinds hx
      rw [Label.kinds, List.mem_singleton] at hkx
      cases ha with
      | rowRead _ _ huse =>
        rw [List.mem_singleton, Label.mark.injEq, Mark.rowRead.injEq] at hx
        rw [hx.2]
        exact huse.from (htab.trans h.tables)
      | nullRead => simp at hx
      | _ => cases hkx

/-- An acquisition that gets the other tables and not the event monitor table. -/
def acquireWithoutEmt : AcquireIn .small where
  amt := ⟨success, fun _ => ⟨[], 0, 0, 0⟩⟩
  emt := ⟨-1, fun _ => ⟨[], 0, 0, 0⟩⟩
  mat := ⟨success, fun _ => ⟨0, 0, ⟨0, 0⟩⟩⟩
  xct := ⟨success, fun _ => ⟨[], 0, 0⟩⟩
  unsubLong := success
  unsubShort := success

/-- The state right after it, in the first cycle. -/
def afterAcquireWithoutEmt : AppData .small :=
  (acquirePointers acquireWithoutEmt (initialData .small)).state

/-- A housekeeping request. -/
def hkRequest : CmdMsg := ⟨0x18AF, 0, 8, 0⟩

/-- Answers to which every lookup succeeds. -/
def repliesOk : CmdReplies .small where
  subLong := success
  subShort := success
  unsubLong := success
  unsubShort := success
  hk := ⟨fun _ => success, fun _ => ⟨⟨success, 0, true⟩, ⟨success, 0, true⟩, ⟨success, 0, true⟩,
    ⟨success, 0, true⟩⟩⟩

/-- An acquisition that gets all tables, each with entries in use. -/
def acquireAll : AcquireIn .small where
  amt := ⟨success, fun _ => ⟨[65], 0, 2, amtActEvent⟩⟩
  emt := ⟨success, fun _ => ⟨[65], 0, 1, emtActAppRestart⟩⟩
  mat := ⟨success, fun _ => ⟨1, 0, ⟨1, 8⟩⟩⟩
  xct := ⟨success, fun _ => ⟨[65], 0, xctTypeAppMain⟩⟩
  unsubLong := success
  unsubShort := success

/-- The state right after it, in the first cycle. -/
def afterAcquireAll : AppData .small := (acquirePointers acquireAll (initialData .small)).state

/-- With its tables, a housekeeping request reads them, and nothing else. -/
theorem commands_read_acquired_housekeeping :
    Label.mark (.rowRead .sendHkCmd (.emt ⟨0, by decide⟩ ⟨[65], 0, 1, emtActAppRestart⟩)) ∈
        (appPipe hkRequest repliesOk afterAcquireAll).log ∧
      Label.mark (.rowRead .sendHkCmd (.xct ⟨0, by decide⟩ ⟨[65], 0, xctTypeAppMain⟩)) ∈
        (appPipe hkRequest repliesOk afterAcquireAll).log ∧
      CommandReadsAcquired acquireAll afterAcquireAll hkRequest repliesOk := by
  refine ⟨List.mem_iff_getElem?.mpr ⟨1, rfl⟩, List.mem_iff_getElem?.mpr ⟨3, rfl⟩, ?_⟩
  exact (commands_read_acquired_iff (.acquired (initialData .small)) hkRequest repliesOk).mpr
    ⟨fun h => absurd h.2 (by decide), fun h => absurd h.1 (by decide)⟩

/-- In a cycle without the event monitor table, a housekeeping request reads it. -/
theorem commands_read_missing : ¬ ∀ (r : AcquireIn .small) (s : AppData .small), InCycle r s →
    ∀ msg replies, CommandReadsAcquired r s msg replies := by
  intro h
  have hin : InCycle acquireWithoutEmt afterAcquireWithoutEmt := .acquired (initialData .small)
  have hacc : accepted .small hkRequest = some .sendHk := by decide
  have hnull := (h _ _ hin hkRequest repliesOk).1 .emt .sendHkCmd
  rw [appPipe_of_accepted hacc] at hnull
  have hfail : acquireWithoutEmt.emt.status < success := by decide
  have hem : afterAcquireWithoutEmt.emTablePtr = acquireWithoutEmt.emt.ptr :=
    congrArg TableView.emt hin.tables
  exact hnull (sendHkCmd_null (hem.trans (TblReply.ptr_eq_none.mpr hfail)) _)

end HealthSafety
