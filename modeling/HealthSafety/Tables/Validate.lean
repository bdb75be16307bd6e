import HealthSafety.Model.App

/-!
# What the table validators accept

A validator walks a table and keeps the error of the first bad entry
(`validateTable_val`), so it accepts a table exactly if no entry is bad
(`validateTable_accepts_iff`).  `AMT.Accepted`, `EMT.Accepted` and `MAT.Accepted`
say that a table passed its validator; of an accepted table every entry is unused
or good, and what good means is spelled out for each table.
-/

namespace HealthSafety

open Lib

variable {cfg : Config}

/-! ### The walk -/

/-- The error of the first bad entry, or `CFE_SUCCESS`. -/
def firstErr {ι : Type} (classify : ι → EntryClass) : List ι → Int
  | [] => success
  | i :: is =>
    match classify i with
    | .bad err => err
    | _ => firstErr classify is

theorem firstErr_eq_success_iff {ι : Type} {classify : ι → EntryClass}
    (hne : ∀ i err, classify i = .bad err → err ≠ success) (is : List ι) :
    firstErr classify is = success ↔ ∀ i ∈ is, ∀ err, classify i ≠ .bad err := by
  induction is with
  | nil => simp [firstErr]
  | cons i is ih =>
    cases h : classify i with
    | bad err => simp [firstErr, h, hne i err h]
    | unused => simp [firstErr, h, ih]
    | good => simp [firstErr, h, ih]

/-- The first bad entry, with its error. -/
def firstBad {ι : Type} (classify : ι → EntryClass) : List ι → Option (ι × Int)
  | [] => none
  | i :: is =>
    match classify i with
    | .bad err => some (i, err)
    | _ => firstBad classify is

/-- What one entry does to the accumulators. -/
def ValCounts.count (acc : ValCounts) : EntryClass → ValCounts
  | .unused => { acc with unused := acc.unused + 1 }
  | .good => { acc with good := acc.good + 1 }
  | .bad err =>
    { acc with
      bad := acc.bad + 1
      result := if acc.result = success then err else acc.result }

/-- The event that names a bad entry and its error. -/
def errorEvent {n : Nat} (errEid : EventId) (errArgs : Fin n → List EvtArg) (bad : Fin n × Int) :
    Label cfg :=
  .call (.sendEvent errEid .error (.num bad.1.val :: .num bad.2 :: errArgs bad.1))

/-- One entry is only counted, and reported if it is bad and none was reported before. -/
theorem validateEntry_apply {n : Nat} (classify : Fin n → EntryClass) (errEid : EventId)
    (errArgs : Fin n → List EvtArg) (s : AppData cfg) (acc : ValCounts) (i : Fin n) :
    validateEntry classify errEid errArgs acc i s = ⟨.ok (acc.count (classify i)), s,
      if acc.result = success then ((firstBad classify [i]).map (errorEvent errEid errArgs)).toList
      else []⟩ := by
  unfold validateEntry
  cases h : classify i with
  | unused => simp [firstBad, h, ValCounts.count]
  | good => simp [firstBad, h, ValCounts.count]
  | bad err =>
    by_cases hr : acc.result = success
    · simp [firstBad, h, hr, ValCounts.count, errorEvent]
    · simp [hr, ValCounts.count]

/-- The walk only counts, and reports the first bad entry unless one was reported
before. -/
theorem validateEntry_fold {n : Nat} {classify : Fin n → EntryClass}
    (hne : ∀ i err, classify i = .bad err → err ≠ success) (errEid : EventId)
    (errArgs : Fin n → List EvtArg) (s : AppData cfg) (is : List (Fin n)) :
    ∀ acc : ValCounts, Prog.fold (validateEntry classify errEid errArgs) acc is s =
      ⟨.ok (is.foldl (fun acc i => acc.count (classify i)) acc), s,
        if acc.result = success then
          ((firstBad classify is).map (errorEvent errEid errArgs)).toList
        else []⟩ := by
  induction is with
  | nil =>
    intro acc
    simp [firstBad]
  | cons i is ih =>
    intro acc
    rw [Prog.fold_cons, Prog.bind_ok (validateEntry_apply classify errEid errArgs s acc i), ih,
      List.foldl_cons]
    cases h : classify i with
    | unused =>
      simp only [firstBad, h]
      by_cases hr : acc.result = success <;> simp [ValCounts.count, hr]
    | good =>
      simp only [firstBad, h]
      by_cases hr : acc.result = success <;> simp [ValCounts.count, hr]
    | bad err =>
      by_cases hr : acc.result = success
      · simp [firstBad, h, ValCounts.count, hr, hne i err h]
      · simp [ValCounts.count, hr]

theorem foldl_count_result {ι : Type} {classify : ι → EntryClass}
    (hne : ∀ i err, classify i = .bad err → err ≠ success) (is : List ι) :
    ∀ acc : ValCounts, (is.foldl (fun acc i => acc.count (classify i)) acc).result =
      if acc.result = success then firstErr classify is else acc.result := by
  induction is with
  | nil =>
    intro acc
    by_cases hr : acc.result = success
    · simp [hr, firstErr]
    · simp [hr]
  | cons i is ih =>
    intro acc
    rw [List.foldl_cons, ih]
    by_cases hr : acc.result = success
    · cases h : classify i with
      | bad err => simp [hr, firstErr, h, hne i err h, ValCounts.count]
      | unused => simp [hr, firstErr, h, ValCounts.count]
      | good => simp [hr, firstErr, h, ValCounts.count]
    · cases h : classify i <;> simp [hr, ValCounts.count]

/-- A validator leaves the state alone, reports the first bad entry if there is one,
and then the totals. -/
theorem validateTable_some {n : Nat} {α : Type} {classify : α → EntryClass}
    (hne : ∀ row err, classify row = .bad err → err ≠ success) (nullEid errEid infEid : EventId)
    (errArgs : α → List EvtArg) (t : Fin n → α) (s : AppData cfg) :
    let acc := (List.finRange n).foldl (fun acc i => acc.count (classify (t i)))
      (⟨success, 0, 0, 0⟩ : ValCounts)
    validateTable nullEid errEid infEid classify errArgs (some t) s =
      ⟨.ok acc.result, s,
        ((firstBad (fun i => classify (t i)) (List.finRange n)).map
            (errorEvent errEid fun i => errArgs (t i))).toList ++
          [.call (.sendEvent infEid .information
            [.num acc.good, .num acc.bad, .num acc.unused])]⟩ := by
  intro acc
  have h := validateEntry_fold (fun i err hi => hne (t i) err hi) errEid (fun i => errArgs (t i)) s
    (List.finRange n) ⟨success, 0, 0, 0⟩
  rw [if_pos rfl] at h
  rw [validateTable, Prog.bind_ok h]
  rfl

/-- **A validator returns the error of the first bad entry.** -/
theorem validateTable_val {n : Nat} {α : Type} {classify : α → EntryClass}
    (hne : ∀ row err, classify row = .bad err → err ≠ success) (nullEid errEid infEid : EventId)
    (errArgs : α → List EvtArg) (t : Fin n → α) (s : AppData cfg) :
    (validateTable nullEid errEid infEid classify errArgs (some t) s).val =
      .ok (firstErr (fun i => classify (t i)) (List.finRange n)) := by
  rw [validateTable_some hne]
  simp only [foldl_count_result (fun i err hi => hne (t i) err hi), if_true]

theorem validateTable_accepts_iff {n : Nat} {α : Type} {classify : α → EntryClass}
    (hne : ∀ row err, classify row = .bad err → err ≠ success) (nullEid errEid infEid : EventId)
    (errArgs : α → List EvtArg) (t : Fin n → α) (s : AppData cfg) :
    (validateTable nullEid errEid infEid classify errArgs (some t) s).val = .ok success ↔
      ∀ i err, classify (t i) ≠ .bad err := by
  rw [validateTable_val hne, Except.ok.injEq,
    firstErr_eq_success_iff (fun i err hi => hne (t i) err hi)]
  simp

/-! ### The three validators -/

/-- `HS_ValidateAMTable` returns `CFE_SUCCESS` on the table. -/
def AMT.Accepted (amt : AMT cfg) : Prop :=
  ∀ s : AppData cfg, (validateAMTable (some amt) s).val = .ok success

/-- `HS_ValidateEMTable` returns `CFE_SUCCESS` on the table. -/
def EMT.Accepted (emt : EMT cfg) : Prop :=
  ∀ s : AppData cfg, (validateEMTable (some emt) s).val = .ok success

/-- `HS_ValidateMATable` returns `CFE_SUCCESS` on the table. -/
def MAT.Accepted (mat : MAT cfg) : Prop :=
  ∀ s : AppData cfg, (validateMATable (some mat) s).val = .ok success

/-- The checks of a table with a null terminator end with one of their own two errors. -/
theorem monitorClass_bad {unused bad invalid : Prop} [Decidable unused] [Decidable bad]
    [Decidable invalid] {err err' e : Int} (h : (if unused then EntryClass.unused
      else if bad then .bad err else if invalid then .bad err' else .good) = .bad e) :
    e = err ∨ e = err' := by
  by_cases hu : unused
  · rw [if_pos hu] at h
    cases h
  by_cases hb : bad
  · rw [if_neg hu, if_pos hb] at h
    cases h
    exact .inl rfl
  by_cases hi : invalid
  · rw [if_neg hu, if_neg hb, if_pos hi] at h
    cases h
    exact .inr rfl
  · rw [if_neg hu, if_neg hb, if_neg hi] at h
    cases h

theorem amtClass_bad {row : AMTEntry} {err : Int} (h : amtClass cfg row = .bad err) :
    err ≠ success := by
  rcases monitorClass_bad h with rfl | rfl <;> decide

theorem emtClass_bad {row : EMTEntry} {err : Int} (h : emtClass cfg row = .bad err) :
    err ≠ success := by
  rcases monitorClass_bad h with rfl | rfl <;> decide

theorem matClass_bad {row : MATEntry} {err : Int} (h : matClass cfg row = .bad err) :
    err ≠ success := by
  unfold matClass at h
  split at h
  · cases h
  · split at h
    · cases h; decide
    · split at h
      · cases h; decide
      · split at h
        · cases h; decide
        · cases h

theorem AMT.accepted_iff {amt : AMT cfg} :
    amt.Accepted ↔ ∀ i err, amtClass cfg (amt i) ≠ .bad err := by
  have h (s : AppData cfg) : (validateAMTable (some amt) s).val = .ok success ↔
      ∀ i err, amtClass cfg (amt i) ≠ .bad err :=
    validateTable_accepts_iff (fun _ _ => amtClass_bad) _ _ _ _ amt s
  exact ⟨fun hacc => (h (initialData cfg)).mp (hacc _), fun hall s => (h s).mpr hall⟩

theorem EMT.accepted_iff {emt : EMT cfg} :
    emt.Accepted ↔ ∀ i err, emtClass cfg (emt i) ≠ .bad err := by
  have h (s : AppData cfg) : (validateEMTable (some emt) s).val = .ok success ↔
      ∀ i err, emtClass cfg (emt i) ≠ .bad err :=
    validateTable_accepts_iff (fun _ _ => emtClass_bad) _ _ _ _ emt s
  exact ⟨fun hacc => (h (initialData cfg)).mp (hacc _), fun hall s => (h s).mpr hall⟩

theorem MAT.accepted_iff {mat : MAT cfg} :
    mat.Accepted ↔ ∀ i err, matClass cfg (mat i) ≠ .bad err := by
  have h (s : AppData cfg) : (validateMATable (some mat) s).val = .ok success ↔
      ∀ i err, matClass cfg (mat i) ≠ .bad err :=
    validateTable_accepts_iff (fun _ _ => matClass_bad) _ _ _ _ mat s
  exact ⟨fun hacc => (h (initialData cfg)).mp (hacc _), fun hall s => (h s).mpr hall⟩

/-! ### Action types -/

theorem amtActionIsValid_iff (actionType : UInt16) :
    amtActionIsValid cfg actionType = true ↔ actionType.toNat ≤ 3 + cfg.maxMsgActTypes := by
  have h0 : ¬ actionType < amtActNoact := by simp [UInt16.lt_iff_toNat_lt]
  have hlast : amtActLastNonmsg.toNat = 3 := rfl
  by_cases h : 3 + cfg.maxMsgActTypes < actionType.toNat
  · simp [amtActionIsValid, h0, hlast, h]
  · simp [amtActionIsValid, h0, hlast, Nat.le_of_not_lt h]

/-- The two monitors check an action type in the same way. -/
theorem emtActionIsValid_iff (actionType : UInt16) :
    emtActionIsValid cfg actionType = true ↔ actionType.toNat ≤ 3 + cfg.maxMsgActTypes :=
  amtActionIsValid_iff actionType

/-- The action types: three fixed ones, then the message actions. -/
theorem action_range (n m : Nat) :
    (n ≠ 0 ∧ n ≤ 3 + m) ↔ n = 1 ∨ n = 2 ∨ n = 3 ∨ ∃ idx : Fin m, n = 3 + 1 + idx := by
  constructor
  · rintro ⟨h0, hle⟩
    by_cases h : n ≤ 3
    · omega
    · exact .inr (.inr (.inr ⟨⟨n - 4, by omega⟩, by simp; omega⟩))
  · rintro (h | h | h | ⟨idx, h⟩)
    · omega
    · omega
    · omega
    · have := idx.isLt
      omega

theorem actionType_range (actionType : UInt16) :
    (actionType ≠ 0 ∧ actionType.toNat ≤ 3 + cfg.maxMsgActTypes) ↔
      actionType = 1 ∨ actionType = 2 ∨ actionType = 3 ∨
        ∃ idx : Fin cfg.maxMsgActTypes, actionType.toNat = 3 + 1 + idx := by
  rw [ne_eq, ← UInt16.toNat_inj, ← UInt16.toNat_inj, ← UInt16.toNat_inj, ← UInt16.toNat_inj]
  exact action_range actionType.toNat cfg.maxMsgActTypes

theorem msgActsIndex_toNat {actionType : UInt16} (h : 4 ≤ actionType.toNat) :
    (actionType.toUInt32 - emtActLastNonmsg.toUInt32 - 1).toNat = actionType.toNat - 4 := by
  have hlt := actionType.toNat_lt
  have h3 : emtActLastNonmsg.toUInt32.toNat = 3 := rfl
  have h1 : (1 : UInt32).toNat = 1 := rfl
  have hs : (actionType.toUInt32 - emtActLastNonmsg.toUInt32).toNat = actionType.toNat - 3 := by
    rw [UInt32.toNat_sub_of_le _ _ (by rw [UInt32.le_iff_toNat_le, h3, UInt16.toNat_toUInt32]; omega),
      h3, UInt16.toNat_toUInt32]
  rw [UInt32.toNat_sub_of_le _ _ (by rw [UInt32.le_iff_toNat_le, hs, h1]; omega), hs, h1]
  omega

/-- The checks of a monitor table: an entry in use has a null terminator and a valid
action. -/
theorem monitorClass_eq_good_iff {unused bad invalid : Prop} [Decidable unused] [Decidable bad]
    [Decidable invalid] (err err' : Int) :
    (if unused then EntryClass.unused else if bad then .bad err else if invalid then .bad err'
      else .good) = .good ↔ ¬ unused ∧ ¬ bad ∧ ¬ invalid := by
  by_cases hu : unused
  · simp [hu]
  by_cases hb : bad
  · simp [hu, hb]
  by_cases hi : invalid
  · simp [hu, hb, hi]
  · simp [hu, hb, hi]

/-- An entry in use that is not bad is good. -/
theorem monitorClass_good {unused bad invalid : Prop} [Decidable unused] [Decidable bad]
    [Decidable invalid] {err err' : Int} (hu : ¬ unused)
    (h : ∀ e, (if unused then EntryClass.unused else if bad then .bad err
      else if invalid then .bad err' else .good) ≠ .bad e) : ¬ bad ∧ ¬ invalid := by
  rw [if_neg hu] at h
  by_cases hb : bad
  · exact absurd (if_pos hb) (h err)
  rw [if_neg hb] at h
  exact ⟨hb, fun hi => h err' (if_pos hi)⟩

/-! ### Good application monitor entries -/

/-- What the validator of the application monitor table checks of an entry in use. -/
structure AMTEntry.Good (cfg : Config) (row : AMTEntry) : Prop where
  cycleCount : row.cycleCount ≠ 0
  nullTerm : row.nullTerm = 0
  action : row.actionType = amtActProcReset ∨ row.actionType = amtActAppRestart ∨
    row.actionType = amtActEvent ∨
    ∃ idx : Fin cfg.maxMsgActTypes, row.actionType.toNat = amtActLastNonmsg.toNat + 1 + idx

theorem amtClass_eq_good_iff (row : AMTEntry) : amtClass cfg row = .good ↔ row.Good cfg := by
  have hact := @actionType_range cfg row.actionType
  rw [← amtActionIsValid_iff] at hact
  rw [amtClass, monitorClass_eq_good_iff, not_or, not_not, Bool.not_eq_false]
  constructor
  · rintro ⟨⟨hc, ha⟩, hn, hv⟩
    exact ⟨hc, hn, hact.mp ⟨ha, hv⟩⟩
  · intro h
    obtain ⟨ha, hv⟩ := hact.mpr h.action
    exact ⟨⟨h.cycleCount, ha⟩, h.nullTerm, hv⟩

/-- In an accepted table an entry with cycles and an action is good. -/
theorem AMT.Accepted.good {amt : AMT cfg} (h : amt.Accepted) {i : Fin cfg.maxMonitoredApps}
    (hc : (amt i).cycleCount ≠ 0) (ha : (amt i).actionType ≠ amtActNoact) : (amt i).Good cfg := by
  have hu : ¬ ((amt i).cycleCount = 0 ∨ (amt i).actionType = amtActNoact) :=
    not_or.mpr ⟨hc, ha⟩
  rw [← amtClass_eq_good_iff, amtClass, monitorClass_eq_good_iff]
  exact ⟨hu, monitorClass_good hu (AMT.accepted_iff.mp h i)⟩

/-! ### Good event monitor entries -/

/-- What the validator of the event monitor table checks of an entry in use. -/
structure EMTEntry.Good (cfg : Config) (row : EMTEntry) : Prop where
  eventID : row.eventID ≠ 0
  nullTerm : row.nullTerm = 0
  action : row.actionType = emtActProcReset ∨ row.actionType = emtActAppRestart ∨
    row.actionType = emtActAppDelete ∨
    ∃ idx : Fin cfg.maxMsgActTypes, row.actionType.toNat = emtActLastNonmsg.toNat + 1 + idx

theorem emtClass_eq_good_iff (row : EMTEntry) : emtClass cfg row = .good ↔ row.Good cfg := by
  have hact := @actionType_range cfg row.actionType
  rw [← emtActionIsValid_iff] at hact
  rw [emtClass, monitorClass_eq_good_iff, not_or, not_not, Bool.not_eq_false]
  constructor
  · rintro ⟨⟨hid, ha⟩, hn, hv⟩
    exact ⟨hid, hn, hact.mp ⟨ha, hv⟩⟩
  · intro h
    obtain ⟨ha, hv⟩ := hact.mpr h.action
    exact ⟨⟨h.eventID, ha⟩, h.nullTerm, hv⟩

/-- In an accepted table an entry with an event id and an action is good. -/
theorem EMT.Accepted.good {emt : EMT cfg} (h : emt.Accepted) {i : Fin cfg.maxMonitoredEvents}
    (hid : (emt i).eventID ≠ 0) (ha : (emt i).actionType ≠ emtActNoact) : (emt i).Good cfg := by
  have hu : ¬ ((emt i).eventID = 0 ∨ (emt i).actionType = emtActNoact) := not_or.mpr ⟨hid, ha⟩
  rw [← emtClass_eq_good_iff, emtClass, monitorClass_eq_good_iff]
  exact ⟨hu, monitorClass_good hu (EMT.accepted_iff.mp h i)⟩

end HealthSafety
