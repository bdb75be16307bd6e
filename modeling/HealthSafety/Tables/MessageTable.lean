import HealthSafety.Tables.EventTable

/-!
# The message actions table: lengths

A row of the table holds a message in a slot of `sizeof(HS_MATMsgBuf_t)` bytes,
and `CFE_SB_TransmitMsg` copies as many bytes as the header of the message says.
`HS_ValidateMATable` compares that length with `CFE_MISSION_SB_MAX_SB_MSG_SIZE`,
not with the slot.  So what the two monitors send fits its slot exactly if the
table itself has no longer message in a row that is not disabled
(`messages_fit_iff`); acceptance by the validator does not help.
-/

namespace HealthSafety

open Lib

variable {cfg : Config} {s : AppData cfg} {mat : MAT cfg}

/-! ### What is sent -/

/-- What the monitors send is a row of the table that is not disabled. -/
theorem transmitMsg_row {α : Type} {ks : List Kind} {m : HsM cfg α} (h : Does ks m s)
    (hm : s.maTablePtr = some mat) {idx : Fin cfg.maxMsgActTypes} {row : MATEntry}
    (hx : Label.call (.transmitMsg idx row) ∈ (m s).log)
    (hks : ∀ k ∈ ks, k.keepsTables = true := by decide) :
    row = mat idx ∧ row.enableState ≠ matStateDisabled := by
  refine h.labels_of_tables (P := fun x => ∀ idx row, x = .call (.transmitMsg idx row) →
    row = mat idx ∧ row.enableState ≠ matStateDisabled) ?_ hks _ hx idx row rfl
  rintro k - t l u ht ha x hx idx row rfl
  obtain ⟨mat', hm', hrow, he⟩ := ha.row_of_transmit hx
  have hptr : t.maTablePtr = some mat := (congrArg TableView.mat ht).trans hm
  rw [hm', Option.some.injEq] at hptr
  exact ⟨hptr ▸ hrow, he⟩

/-- Whatever a monitor sends from the table fits its slot. -/
def MessagesFit (mat : MAT cfg) : Prop :=
  ∀ s : AppData cfg, s.maTablePtr = some mat →
    (∀ lks idx row, Label.call (.transmitMsg idx row) ∈ (monitorApplications lks s).log →
      row.msgBuf.size ≤ cfg.matMsgBufSize) ∧
    ∀ ev lks idx row, Label.call (.transmitMsg idx row) ∈ (monitorEvent ev lks s).log →
      row.msgBuf.size ≤ cfg.matMsgBufSize

/-! ### Every row can be sent -/

/-- The action type of the message action `idx`. -/
def msgActionType (idx : Fin cfg.maxMsgActTypes) : UInt16 := UInt16.ofNat (4 + idx)

theorem msgActionType_toNat (idx : Fin cfg.maxMsgActTypes) :
    (msgActionType idx).toNat = 4 + idx := by
  have h₁ := idx.isLt
  have h₂ := cfg.verified.msgActTypes_le
  rw [msgActionType, UInt16.toNat_ofNat']
  omega

theorem eventAction_message {row : EMTEntry} (h : 4 ≤ row.actionType.toNat)
    (i : Fin cfg.maxMonitoredEvents) (lk : EvtLookup) (appId : UInt32) :
    eventAction i row lk appId = mark (.emtAction i) >>= fun _ =>
      msgAction .monitorEvent .eventmonMsgactsErr [.str row.appName, .num row.eventID.toNat]
        (row.actionType.toUInt32 - emtActLastNonmsg.toUInt32 - 1) >>= fun _ => pure appId := by
  have hne (c : UInt16) (hc : c.toNat < 4) : row.actionType ≠ c := by
    rintro rfl
    omega
  unfold eventAction
  rw [if_neg (hne _ (by decide)), if_neg (hne _ (by decide)), if_neg (hne _ (by decide))]

/-- An event monitor table that answers event 1 of application `A` with the message
action `idx`. -/
def emtSend (idx : Fin cfg.maxMsgActTypes) : EMT cfg :=
  fun _ => ⟨[65], 0, 1, msgActionType idx⟩

theorem emtSend_hit (idx : Fin cfg.maxMsgActTypes) (i : Fin cfg.maxMonitoredEvents) :
    (emtSend idx i).Hit cfg ⟨[65], 1⟩ := by
  refine ⟨fun h => ?_, rfl, strncmpEq_self _ _⟩
  have := congrArg UInt16.toNat h
  rw [show (emtSend idx i).actionType = msgActionType idx from rfl, msgActionType_toNat] at this
  exact absurd this (by simp)

/-- Just started, with the table `mat`, and about to send its row `idx` on event 1 of
application `A`. -/
def sendState (mat : MAT cfg) (idx : Fin cfg.maxMsgActTypes) : AppData cfg :=
  { initialData cfg with emTablePtr := some (emtSend idx), maTablePtr := some mat }

theorem transmitMsg_mem_monitorEvent {idx : Fin cfg.maxMsgActTypes}
    (he : (mat idx).enableState ≠ matStateDisabled)
    (lks : Fin cfg.maxMonitoredEvents → EvtLookup) :
    Label.call (.transmitMsg idx (mat idx)) ∈
      (monitorEvent ⟨[65], 1⟩ lks (sendState mat idx)).log := by
  have hne : List.finRange cfg.maxMonitoredEvents ≠ [] := by
    rw [ne_eq, List.finRange_eq_nil_iff]
    exact Nat.ne_of_gt cfg.verified.monitoredEvents_pos
  obtain ⟨i, is, his⟩ := List.exists_cons_of_ne_nil hne
  rw [monitorEvent_log, his]
  refine Prog.mem_fold_log_head ?_
  rw [monitorEventRow_apply (show (sendState mat idx).emTablePtr = some (emtSend idx) from rfl)]
  have h4 : 4 ≤ (emtSend idx i).actionType.toNat := by
    rw [show (emtSend idx i).actionType = msgActionType idx from rfl, msgActionType_toNat]
    omega
  have hidx : ((emtSend idx i).actionType.toUInt32 - emtActLastNonmsg.toUInt32 - 1).toNat = idx := by
    rw [msgActsIndex_toNat h4]
    simp [emtSend, msgActionType_toNat]
  have hsend : msgAction .monitorEvent .eventmonMsgactsErr
      [.str (emtSend idx i).appName, .num (emtSend idx i).eventID.toNat] _ (sendState mat idx) = _ :=
    msgAction_sent rfl rfl rfl he hidx
  simp only [emtSend_hit, if_true, eventAction_message h4, Prog.emit_bind]
  rw [Prog.bind_ok hsend]
  simp

/-- **The messages fit exactly if the table holds none longer than its slot.** -/
theorem messages_fit_iff (mat : MAT cfg) :
    MessagesFit mat ↔ ∀ idx, (mat idx).enableState ≠ matStateDisabled →
      (mat idx).msgBuf.size ≤ cfg.matMsgBufSize := by
  constructor
  · intro hfit idx he
    let lk : EvtLookup := ⟨⟨success, 0, true⟩, success, success, true⟩
    exact (hfit (sendState mat idx) rfl).2 _ (fun _ => lk) idx _
      (transmitMsg_mem_monitorEvent he _)
  · intro hfit s hs
    refine ⟨fun lks idx row hx => ?_, fun ev lks idx row hx => ?_⟩
    · obtain ⟨rfl, he⟩ := transmitMsg_row (monitorApplications_does lks s) hs hx
      exact hfit idx he
    · obtain ⟨rfl, he⟩ := transmitMsg_row (monitorEvent_does ev lks s) hs hx
      exact hfit idx he

/-- One enabled row, with a message of 17 bytes. -/
def matSeventeen : MAT .small := fun _ => ⟨matStateEnabled, 0, ⟨0x1880, 17⟩⟩

/-- The slot has 16 bytes; the validator accepts a message of 17, and the event
monitor sends it. -/
theorem messages_overrun : ¬ ∀ mat : MAT .small, mat.Accepted → MessagesFit mat := by
  intro h
  have hacc : matSeventeen.Accepted := MAT.accepted_iff.mpr fun i err => by
    rw [show matClass .small (matSeventeen i) = .good from rfl]
    exact fun h => by cases h
  let lk : EvtLookup := ⟨⟨success, 0, true⟩, success, success, true⟩
  have hle := (h _ hacc (sendState matSeventeen ⟨0, by decide⟩) rfl).2 _ (fun _ => lk) _ _
    (transmitMsg_mem_monitorEvent (by decide) _)
  revert hle
  decide

end HealthSafety
