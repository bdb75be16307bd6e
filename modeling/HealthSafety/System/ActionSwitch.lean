import HealthSafety.System.Bookkeeping
import HealthSafety.Tables.Validate

/-!
# What reaches the action switch of the application monitor

The validator of the application monitor table lets an entry without cycles carry
any action type and any null terminator, and the monitor checks neither.  What
keeps such an entry out of the action switch is its countdown, which never runs.

`Run AmtValidated` is all runs in which each table HS got had passed the validator
and changes only with an update.  In all of them only good entries enter the
switch, and a message action is always one of the message actions table
(`action_switch_valid`).
-/

namespace HealthSafety

open Lib

variable {cfg : Config} {s : AppData cfg} {amt : AMT cfg}

/-! ### The index of a message action -/

/-- `ActionType - HS_AMT_ACT_LAST_NONMSG - 1`. -/
def AMTEntry.msgActsIndex (row : AMTEntry) : UInt32 :=
  row.actionType.toUInt32 - amtActLastNonmsg.toUInt32 - 1

/-- What the action switch relies on. -/
structure AMTEntry.Switchable (cfg : Config) (row : AMTEntry) : Prop where
  cycleCount : row.cycleCount ≠ 0
  nullTerm : row.nullTerm = 0
  counted : amtClass cfg row = .good
  action : row.actionType = amtActProcReset ∨ row.actionType = amtActAppRestart ∨
    row.actionType = amtActEvent ∨
    (amtActLastNonmsg < row.actionType ∧
      row.msgActsIndex.toNat + (amtActLastNonmsg.toNat + 1) = row.actionType.toNat ∧
      row.msgActsIndex.toNat < cfg.maxMsgActTypes)

theorem AMTEntry.Good.switchable {row : AMTEntry} (h : row.Good cfg) : row.Switchable cfg where
  cycleCount := h.cycleCount
  nullTerm := h.nullTerm
  counted := (amtClass_eq_good_iff row).mpr h
  action := by
    refine h.action.imp_right (Or.imp_right (Or.imp_right ?_))
    rintro ⟨idx, hidx⟩
    have hlt := idx.isLt
    have hlast : amtActLastNonmsg.toNat = 3 := rfl
    have hindex : row.msgActsIndex.toNat = row.actionType.toNat - 4 :=
      msgActsIndex_toNat (by omega)
    rw [UInt16.lt_iff_toNat_lt]
    omega

theorem AMTEntry.Switchable.index_lt {row : AMTEntry} (h : row.Switchable cfg)
    (hreset : row.actionType ≠ amtActProcReset) (hrestart : row.actionType ≠ amtActAppRestart)
    (hevent : row.actionType ≠ amtActEvent) : row.msgActsIndex.toNat < cfg.maxMsgActTypes :=
  (((h.action.resolve_left hreset).resolve_left hrestart).resolve_left hevent).2.2

/-! ### One row -/

/-- What a label says of the action switch: the row that enters it is good, and a message
action is one of the table. -/
def Switched (amt : AMT cfg) : Label cfg → Prop
  | .mark (.amtAction i) => (amt i).Switchable cfg
  | .mark (.msgAct n _ _ _) => n < cfg.maxMsgActTypes
  | _ => True

theorem Switched.of_lookup {x : Label cfg} (h : x.IsLookup) : Switched amt x := by
  unfold Switched
  split
  · cases h
  · cases h
  · trivial

/-- A good row asks only for a message action of the table. -/
theorem ActionLabel.switched {i : Fin cfg.maxMonitoredApps} {status : Status} {appId : UInt32}
    {x : Label cfg} (h : ActionLabel i (amt i) status appId x) (hi : (amt i).Switchable cfg) :
    Switched amt x := by
  cases h with
  | enter => exact hi
  | message hreset hrestart hevent hx =>
    cases hx with
    | asked => exact hi.index_lt hreset hrestart hevent
    | _ => trivial
  | _ => trivial

/-- A row whose countdown runs has cycles and an action, so in an accepted table it is
good. -/
theorem Kept.switchable (h : Kept (some amt) s) (hacc : amt.Accepted)
    {i : Fin cfg.maxMonitoredApps} (hi : s.appMonCheckInCountdown i ≠ 0) :
    (amt i).Switchable cfg := by
  obtain ⟨a, ha, hact, hle⟩ := h.row i hi
  cases ha
  refine (hacc.good (fun hc => hi ?_) hact).switchable
  rwa [hc, UInt16.le_zero_iff] at hle

theorem monitorApp_switched (hs : s.amTablePtr = some amt) (h : Kept (some amt) s)
    (hacc : amt.Accepted) (lks : Fin cfg.maxMonitoredApps → AppLookup) (v : AppMonVars)
    (i : Fin cfg.maxMonitoredApps) : ∀ x ∈ (monitorApp lks v i s).log, Switched amt x := by
  by_cases hw : (amt i).Watched (s.row i)
  · obtain ⟨l, -, hl, -, hrun⟩ := monitorApp_watched hs hw lks v
    rw [hrun]
    refine List.forall_mem_append.mpr ⟨fun x hx => .of_lookup (hl x hx), ?_⟩
    by_cases hp : (lks i).Progress (s.row i).last
    · rw [countdownApp_progress hp]
      simp
    by_cases hc : s.appMonCheckInCountdown i = 1
    · rw [countdownApp_expire hp hc]
      exact fun x hx => (appMonAction_labels i (amt i) _ _ _ _ x hx).switched
        (h.switchable hacc hw.2)
    · rw [countdownApp_wait hp hc]
      simp
  · rw [monitorApp_idle hs hw]
    simp [Switched]

/-! ### The call -/

/-- The books are kept while the rows are walked, and so each row that acts is good. -/
theorem monitorApplications_switched (hs : s.amTablePtr = some amt) (h : Kept (some amt) s)
    (hacc : amt.Accepted) (lks : Fin cfg.maxMonitoredApps → AppLookup) :
    ∀ x ∈ (monitorApplications lks s).log, Switched amt x := by
  have hrow (v : AppMonVars) (i : Fin cfg.maxMonitoredApps) :
      Logs (fun s => s.amTablePtr = some amt ∧ Kept (some amt) s) (Switched amt)
        (fun s => s.amTablePtr = some amt ∧ Kept (some amt) s) (monitorApp lks v i) := by
    intro s ⟨hs, h⟩
    have hptr := congrArg TableView.amt (monitorApp_does lks v i s).tables_eq
    exact ⟨⟨hptr.trans hs, h.monitorApp hs lks v i⟩, monitorApp_switched hs h hacc lks v i⟩
  exact (Logs.bind (fun _ h => h) (Logs.fold hrow _ _)
    (fun _ => Logs.pure (fun _ h => h) ()) s ⟨hs, h⟩).2

/-! ### Runs -/

variable {w w' : World cfg} {op : Op cfg}

/-- Each table that HS gets passed the validator, and it changes only with an update. -/
def AmtValidated (w : World cfg) (op : Op cfg) : Prop :=
  AmtStable w op ∧ ∀ amt, (w.after op).amt = some amt → amt.Accepted

theorem checkApplications_switched (h : BooksKept w) (hs : w.app.amTablePtr = some amt)
    (hacc : amt.Accepted) (lks : Fin cfg.maxMonitoredApps → AppLookup) :
    ∀ x ∈ (checkApplications lks w.app).log, Switched amt x := by
  by_cases hon : w.app.currentAppMonState = .enabled
  · rw [checkApplications_enabled hon]
    exact monitorApplications_switched hs (h.amt_eq hs ▸ h.kept) hacc lks
  · rw [checkApplications_disabled hon]
    exact List.forall_mem_nil _

theorem checkApplications_null (hs : s.amTablePtr = none)
    (lks : Fin cfg.maxMonitoredApps → AppLookup) :
    ∀ x ∈ (checkApplications lks s).log, x = .mark (.nullRead .amt .monitorApplications) := by
  by_cases hon : s.currentAppMonState = .enabled
  · rw [checkApplications_enabled hon, monitorApplications_null hs lks]
    exact List.forall_mem_singleton.mpr rfl
  · rw [checkApplications_disabled hon]
    exact List.forall_mem_nil _

theorem run_booksKept {l : List (Label cfg)} (hw : w.up = false)
    (h : World.Run AmtValidated w l w') (hup : w'.up = true) :
    BooksKept w' ∧ ∀ amt, w'.amt = some amt → amt.Accepted := by
  refine h.invariant (I := fun w => w.up = true → BooksKept w ∧
    ∀ amt, w.amt = some amt → amt.Accepted) (fun w op hop hP hb hup => ?_)
    (fun hup => by rw [hw] at hup; cases hup) hup
  exact ⟨booksKept_after (hop.imp_right fun h => (hb h).1) hP.1 hup, hP.2⟩

theorem Op.kinds_ne_amtAction (op : Op cfg) (h : ¬ ∃ lks, op = .checkApplications lks) :
    ∀ k ∈ op.kinds, k ≠ .amtAction := by
  cases op with
  | checkApplications lks => exact absurd ⟨lks, rfl⟩ h
  | appPipe msg r =>
    have hany : ∀ k ∈ anyCmdKinds, k ≠ .amtAction := by decide
    exact fun k hk => hany k (cmdKinds_subset cfg msg hk)
  | _ =>
    simp only [Op.kinds]
    decide

/-- A lookup that does not find the application. -/
def failedLookup : AppLookup := ⟨⟨-1, 0, false⟩, ⟨-1, 0, false⟩, success, true⟩

/-- **Only good entries reach the action switch.**  Whatever operation comes next in the
run, an entry that enters the switch has cycles, a null terminator and one of the
three plain actions or a message action of the table, whose index does not wrap; the
monitor never asks for a message action that is not there. -/
theorem action_switch_valid {l : List (Label cfg)} (hw : w.up = false)
    (h : World.Run AmtValidated w l w') (hop : op.isInit = true ∨ w'.up = true) :
    (∀ i, Label.mark (.amtAction i) ∈ (op.run w'.app).log →
      ∃ amt, w'.app.amTablePtr = some amt ∧ (amt i).Switchable cfg) ∧
    ∀ lks, op = .checkApplications lks → ∀ n state row sent,
      Label.mark (.msgAct n state row sent) ∈ (op.run w'.app).log → n < cfg.maxMsgActTypes := by
  by_cases hcheck : ∃ lks, op = .checkApplications lks
  · obtain ⟨lks, rfl⟩ := hcheck
    obtain ⟨hbooks, hacc⟩ := run_booksKept hw h (hop.resolve_left (by simp [Op.isInit]))
    rcases hs : w'.app.amTablePtr with - | amt
    · have hnull := checkApplications_null hs lks
      refine ⟨fun i hi => ?_, fun _ _ n state row sent hn => ?_⟩
      · cases hnull _ hi
      · cases hnull _ hn
    · have hswitch := checkApplications_switched hbooks hs (hacc amt (hbooks.amt_eq hs)) lks
      exact ⟨fun i hi => ⟨amt, rfl, hswitch _ hi⟩, fun _ _ n state row sent hn => hswitch _ hn⟩
  · refine ⟨fun i hi => ?_, fun lks hlks => absurd ⟨lks, hlks⟩ hcheck⟩
    obtain ⟨k, hk, hki⟩ := (op.does w'.app).kind_of_mem hi
    exact absurd (List.mem_singleton.mp hki) (op.kinds_ne_amtAction hcheck k hk)

/-- Tables with one application whose failure sends a message. -/
def oneMessage : AcquireIn .small :=
  .ok (fun _ => ⟨[65], 0, 1, 4⟩) (fun _ => ⟨[], 0, 0, 0⟩) (fun _ => ⟨0, 0, ⟨0, 0⟩⟩)
    (fun _ => ⟨[], 0, 0⟩)

theorem oneMessage_accepted : oneMessage.amt.table.Accepted := by
  refine AMT.accepted_iff.mpr fun i err h => ?_
  have hgood : amtClass .small (oneMessage.amt.table i) = .good := by
    rw [show oneMessage.amt.table i = ⟨[65], 0, 1, 4⟩ from rfl]
    decide
  rw [hgood] at h
  cases h

/-- HS has started with that table. -/
def startedOneMessage : World .small := (World.off .small).after (.appInit (.ok oneMessage))

theorem action_switch_valid_oneMessage :
    Label.mark (.amtAction ⟨0, by decide⟩) ∈
        ((Op.checkApplications fun _ => failedLookup).run startedOneMessage.app).log ∧
      (oneMessage.amt.table ⟨0, by decide⟩).Switchable .small := by
  have hrun : World.Run AmtValidated (World.off .small)
      ((Op.appInit (.ok oneMessage)).run (initialData .small)).log startedOneMessage :=
    .op (.inl rfl) ⟨trivial, fun amt hamt => Option.some.inj hamt ▸ oneMessage_accepted⟩
  have hmem : Label.mark (.amtAction ⟨0, by decide⟩) ∈
      ((Op.checkApplications fun _ => failedLookup).run startedOneMessage.app).log :=
    .tail _ (.tail _ (.tail _ (.head _)))
  obtain ⟨amt, hamt, hgood⟩ := (action_switch_valid rfl hrun (.inr rfl)).1 _ hmem
  refine ⟨hmem, ?_⟩
  cases hamt
  exact hgood

end HealthSafety
