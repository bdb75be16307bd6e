import HealthSafety.Tables.Validate

/-!
# The report of a validator

`EntryChecks` says what a table validator is for: when an entry is in use, and the
checks on it in their order, each with its error.  `ReportsFirstError` is the report
on a whole table: the error of the first bad entry, one event that names it, and
totals that account for every entry.

The main result is `validators_report_first_error`: the three validators of the
monitor tables and of the message actions table report like that on every table.
It rests on the walk of `validateTable_some` and on one equation for each table
between its loop body and its checks (`amtClass_eq`, `emtClass_eq`, `matClass_eq`).
-/

namespace HealthSafety

open Lib

variable {cfg : Config} {α : Type} {n : Nat}

/-! ### Checks -/

/-- When an entry is in use, and the checks on it in the order they are made: whether
the entry fails, and the error it then has. -/
structure EntryChecks (α : Type) where
  inUse : α → Bool
  checks : List ((α → Bool) × Int)

namespace EntryChecks

/-- The error of an entry: that of the first check it fails, if it is in use. -/
def err (c : EntryChecks α) (row : α) : Option Int :=
  if c.inUse row then (c.checks.find? fun check => check.1 row).map Prod.snd else none

/-- How an entry is counted. -/
def classify (c : EntryChecks α) (row : α) : EntryClass :=
  if c.inUse row = false then .unused
  else (c.err row).elim .good .bad

theorem classify_eq_bad_iff {c : EntryChecks α} {row : α} {e : Int} :
    c.classify row = .bad e ↔ c.err row = some e := by
  unfold classify
  by_cases hu : c.inUse row = false
  · rw [if_pos hu]
    simp [err, hu]
  · rw [if_neg hu]
    cases c.err row <;> simp

theorem classify_eq_unused_iff {c : EntryChecks α} {row : α} :
    c.classify row = .unused ↔ c.inUse row = false := by
  unfold classify
  by_cases hu : c.inUse row = false
  · simp [hu]
  · rw [if_neg hu]
    cases c.err row <;> simp [hu]

theorem classify_eq_good_iff {c : EntryChecks α} {row : α} :
    c.classify row = .good ↔ c.inUse row = true ∧ c.err row = none := by
  unfold classify
  by_cases hu : c.inUse row = false
  · simp [hu]
  · rw [if_neg hu]
    cases c.err row <;> simp [hu]

/-- The number of entries that are in use and pass every check. -/
def goodCount (c : EntryChecks α) (t : Fin n → α) : Nat :=
  (List.finRange n).countP fun i => c.inUse (t i) && (c.err (t i)).isNone

/-- The number of entries that fail a check. -/
def badCount (c : EntryChecks α) (t : Fin n → α) : Nat :=
  (List.finRange n).countP fun i => (c.err (t i)).isSome

/-- The number of entries that are not in use. -/
def unusedCount (c : EntryChecks α) (t : Fin n → α) : Nat :=
  (List.finRange n).countP fun i => !c.inUse (t i)

theorem badCount_eq_zero_iff {c : EntryChecks α} {t : Fin n → α} :
    c.badCount t = 0 ↔ ∀ i, c.err (t i) = none := by
  rw [badCount, List.countP_eq_zero]
  simp

end EntryChecks

/-! ### Reports -/

/-- The event with the totals of a table. -/
def totalsEvent (c : EntryChecks α) (infEid : EventId) (t : Fin n → α) : Label cfg :=
  .call (.sendEvent infEid .information
    [.num (c.goodCount t), .num (c.badCount t), .num (c.unusedCount t)])

/-- A report on a table: what a validator returned, and its log. -/
structure ReportsFirstError (c : EntryChecks α) (errEid infEid : EventId)
    (errArgs : α → List EvtArg) (t : Fin n → α) (s : AppData cfg)
    (o : Out (AppData cfg) (Label cfg) Stop Int) : Prop where
  /-- Either no entry is bad, the result is `CFE_SUCCESS` and only the totals are sent;
  or the result is the error of the lowest bad entry, and one event names that entry. -/
  result : (∀ i, c.err (t i) = none) ∧ o.val = .ok success ∧ o.log = [totalsEvent c infEid t] ∨
    ∃ i e, c.err (t i) = some e ∧ (∀ j < i, c.err (t j) = none) ∧ e ≠ success ∧ o.val = .ok e ∧
      o.log = [.call (.sendEvent errEid .error (.num i.val :: .num e :: errArgs (t i))),
        totalsEvent c infEid t]
  /-- The counters account for every entry, and none of them wraps. -/
  total : c.goodCount t + c.badCount t + c.unusedCount t = n
  fits : n < 2 ^ 32
  bad_iff : c.badCount t = 0 ↔ o.val = .ok success
  state : o.state = s

/-! ### The walk -/

theorem firstErr_eq_of_firstBad {ι : Type} {classify : ι → EntryClass} {is : List ι} :
    firstErr classify is = ((firstBad classify is).map Prod.snd).getD success := by
  induction is with
  | nil => rfl
  | cons i is ih =>
    cases h : classify i with
    | bad e => simp [firstErr, firstBad, h]
    | unused => simp [firstErr, firstBad, h, ih]
    | good => simp [firstErr, firstBad, h, ih]

theorem firstBad_eq_none {ι : Type} {classify : ι → EntryClass} {is : List ι}
    (h : firstBad classify is = none) : ∀ i ∈ is, ∀ e, classify i ≠ .bad e := by
  induction is with
  | nil => simp
  | cons i is ih =>
    cases hi : classify i with
    | bad e => simp [firstBad, hi] at h
    | unused =>
      simp only [firstBad, hi] at h
      simpa [hi] using ih h
    | good =>
      simp only [firstBad, hi] at h
      simpa [hi] using ih h

theorem firstBad_eq_some {ι : Type} {classify : ι → EntryClass} {is : List ι} {i : ι} {e : Int}
    (h : firstBad classify is = some (i, e)) :
    ∃ l₁ l₂, is = l₁ ++ i :: l₂ ∧ classify i = .bad e ∧ ∀ j ∈ l₁, ∀ e, classify j ≠ .bad e := by
  induction is with
  | nil => cases h
  | cons j js ih =>
    cases hj : classify j with
    | bad e' =>
      simp only [firstBad, hj, Option.some.injEq, Prod.mk.injEq] at h
      obtain ⟨rfl, rfl⟩ := h
      exact ⟨[], js, rfl, hj, by simp⟩
    | unused =>
      simp only [firstBad, hj] at h
      obtain ⟨l₁, l₂, rfl, hi, hall⟩ := ih h
      exact ⟨j :: l₁, l₂, rfl, hi, by simpa [hj] using hall⟩
    | good =>
      simp only [firstBad, hj] at h
      obtain ⟨l₁, l₂, rfl, hi, hall⟩ := ih h
      exact ⟨j :: l₁, l₂, rfl, hi, by simpa [hj] using hall⟩

/-- In the order of a table, what stands before an entry is what has a lower index. -/
theorem lt_mem_of_finRange {l₁ l₂ : List (Fin n)} {i j : Fin n}
    (h : List.finRange n = l₁ ++ i :: l₂) (hj : j < i) : j ∈ l₁ := by
  have hsorted := List.pairwise_lt_finRange n
  rw [h, List.pairwise_append, List.pairwise_cons] at hsorted
  have hmem : j ∈ l₁ ++ i :: l₂ := h ▸ List.mem_finRange j
  rcases List.mem_append.mp hmem with hl | hr
  · exact hl
  · rcases List.mem_cons.mp hr with rfl | hr
    · exact absurd hj (lt_irrefl _)
    · exact absurd (hsorted.2.1.1 j hr) (lt_asymm hj)

theorem foldl_count {ι : Type} (c : EntryChecks α) (t : ι → α) (is : List ι) :
    ∀ acc : ValCounts,
      let acc' := is.foldl (fun acc i => acc.count (c.classify (t i))) acc
      acc'.good = acc.good +
          is.countP (fun i => c.inUse (t i) && (c.err (t i)).isNone) ∧
        acc'.bad = acc.bad + is.countP (fun i => (c.err (t i)).isSome) ∧
        acc'.unused = acc.unused + is.countP (fun i => !c.inUse (t i)) := by
  induction is with
  | nil => simp
  | cons i is ih =>
    intro acc
    obtain ⟨hg, hb, hu⟩ := ih (acc.count (c.classify (t i)))
    simp only [List.foldl_cons, List.countP_cons]
    rw [hg, hb, hu]
    cases h : c.classify (t i) with
    | unused =>
      have hi := EntryChecks.classify_eq_unused_iff.mp h
      have he : c.err (t i) = none := by simp [EntryChecks.err, hi]
      simp [ValCounts.count, hi, he]
      omega
    | good =>
      obtain ⟨hi, he⟩ := EntryChecks.classify_eq_good_iff.mp h
      simp [ValCounts.count, hi, he]
      omega
    | bad e =>
      have he := EntryChecks.classify_eq_bad_iff.mp h
      have hi : c.inUse (t i) = true := by
        by_contra hno
        simp [EntryChecks.err, hno] at he
      simp [ValCounts.count, hi, he]
      omega

theorem countP_total {ι : Type} (c : EntryChecks α) (t : ι → α) (is : List ι) :
    is.countP (fun i => c.inUse (t i) && (c.err (t i)).isNone) +
      is.countP (fun i => (c.err (t i)).isSome) + is.countP (fun i => !c.inUse (t i)) =
      is.length := by
  induction is with
  | nil => rfl
  | cons i is ih =>
    simp only [List.countP_cons, List.length_cons]
    cases hi : c.inUse (t i) with
    | false =>
      have he : c.err (t i) = none := by simp [EntryChecks.err, hi]
      simp [he]
      omega
    | true =>
      cases he : c.err (t i) <;> simp <;> omega

theorem firstBad_eq_none_iff {c : EntryChecks α} {t : Fin n → α} :
    firstBad (fun i => c.classify (t i)) (List.finRange n) = none ↔ ∀ i, c.err (t i) = none := by
  constructor
  · intro h i
    have hi := firstBad_eq_none h i (List.mem_finRange i)
    cases he : c.err (t i) with
    | none => rfl
    | some e => exact absurd (EntryChecks.classify_eq_bad_iff.mpr he) (hi e)
  · intro hall
    rcases h : firstBad (fun i => c.classify (t i)) (List.finRange n) with - | ⟨i, e⟩
    · rfl
    · obtain ⟨_, _, _, hi, _⟩ := firstBad_eq_some h
      rw [EntryChecks.classify_eq_bad_iff, hall i] at hi
      cases hi

theorem firstBad_lowest {c : EntryChecks α} {t : Fin n → α} {i : Fin n} {e : Int}
    (h : firstBad (fun i => c.classify (t i)) (List.finRange n) = some (i, e)) :
    c.err (t i) = some e ∧ ∀ j < i, c.err (t j) = none := by
  obtain ⟨l₁, l₂, hsplit, hi, hbefore⟩ := firstBad_eq_some h
  refine ⟨EntryChecks.classify_eq_bad_iff.mp hi, fun j hj => ?_⟩
  cases he : c.err (t j) with
  | none => rfl
  | some e' =>
    exact absurd (EntryChecks.classify_eq_bad_iff.mpr he)
      (hbefore j (lt_mem_of_finRange hsplit hj) e')

/-- **A validator whose loop body classifies entries by the checks reports the first
error.** -/
theorem validateTable_reports {c : EntryChecks α} {classify : α → EntryClass}
    (hc : ∀ row, classify row = c.classify row)
    (hne : ∀ row err, classify row = .bad err → err ≠ success) (nullEid errEid infEid : EventId)
    (errArgs : α → List EvtArg) (t : Fin n → α) (hn : n < 2 ^ 32) (s : AppData cfg) :
    ReportsFirstError c errEid infEid errArgs t s
      (validateTable nullEid errEid infEid classify errArgs (some t) s) := by
  obtain rfl : classify = c.classify := funext hc
  obtain ⟨hg, hb, hu⟩ := foldl_count c t (List.finRange n) ⟨success, 0, 0, 0⟩
  have hres := foldl_count_result (fun i err hi => hne (t i) err hi) (List.finRange n)
    ⟨success, 0, 0, 0⟩
  have hrun := validateTable_some hne nullEid errEid infEid errArgs t s
  have htotal := countP_total c t (List.finRange n)
  rw [List.length_finRange] at htotal
  rw [if_pos rfl, firstErr_eq_of_firstBad] at hres
  simp only [Nat.zero_add] at hg hb hu
  simp only [hres, hg, hb, hu] at hrun
  rcases hf : firstBad (fun i => c.classify (t i)) (List.finRange n) with - | ⟨i, e⟩
  · have hall := firstBad_eq_none_iff.mp hf
    rw [hf] at hrun
    rw [hrun]
    exact ⟨.inl ⟨hall, rfl, rfl⟩, htotal, hn, by simpa [c.badCount_eq_zero_iff] using hall, rfl⟩
  · obtain ⟨hi, hlow⟩ := firstBad_lowest hf
    have he : e ≠ success := hne (t i) e (EntryChecks.classify_eq_bad_iff.mpr hi)
    have hbad : ¬ ∀ j, c.err (t j) = none := by
      intro hall
      rw [hall i] at hi
      cases hi
    rw [hf] at hrun
    rw [hrun]
    exact ⟨.inr ⟨i, e, hi, hlow, he, rfl, rfl⟩, htotal, hn,
      by simpa [c.badCount_eq_zero_iff, he] using hbad, rfl⟩

/-! ### The three tables -/

/-- An entry of the application monitor table is used with a cycle count and an action.
The null terminator is checked before the action type. -/
def amtChecks (cfg : Config) : EntryChecks AMTEntry where
  inUse row := row.cycleCount != 0 && row.actionType != amtActNoact
  checks := [(fun row => row.nullTerm != 0, -2),
    (fun row => !amtActionIsValid cfg row.actionType, -1)]

/-- An entry of the event monitor table is used with an event id and an action.  The
null terminator is checked before the action type. -/
def emtChecks (cfg : Config) : EntryChecks EMTEntry where
  inUse row := row.eventID != 0 && row.actionType != emtActNoact
  checks := [(fun row => row.nullTerm != 0, -2),
    (fun row => !emtActionIsValid cfg row.actionType, -1)]

/-- An entry of the message actions table is used unless it is disabled.  The enable
state is checked first, then the message id, then the length. -/
def matChecks (cfg : Config) : EntryChecks MATEntry where
  inUse row := row.enableState != matStateDisabled
  checks := [(fun row => row.enableState != matStateEnabled && row.enableState != matStateNoevent,
      -3),
    (fun row => !cfg.isValidMsgId row.msgBuf.msgId, -1),
    (fun row => decide (cfg.sbMaxMsgSize < row.msgBuf.size), -2)]

theorem amtClass_eq (row : AMTEntry) : amtClass cfg row = (amtChecks cfg).classify row := by
  unfold amtClass
  by_cases hc : row.cycleCount = 0
  · simp [EntryChecks.classify, amtChecks, hc]
  by_cases ha : row.actionType = amtActNoact
  · simp [EntryChecks.classify, amtChecks, ha]
  by_cases hn : row.nullTerm = 0
  · cases hv : amtActionIsValid cfg row.actionType <;>
      simp [EntryChecks.classify, EntryChecks.err, amtChecks, hc, ha, hn, hv]
  · simp [EntryChecks.classify, EntryChecks.err, amtChecks, hc, ha, hn]

theorem emtClass_eq (row : EMTEntry) : emtClass cfg row = (emtChecks cfg).classify row := by
  unfold emtClass
  by_cases hid : row.eventID = 0
  · simp [EntryChecks.classify, emtChecks, hid]
  by_cases ha : row.actionType = emtActNoact
  · simp [EntryChecks.classify, emtChecks, ha]
  by_cases hn : row.nullTerm = 0
  · cases hv : emtActionIsValid cfg row.actionType <;>
      simp [EntryChecks.classify, EntryChecks.err, emtChecks, hid, ha, hn, hv]
  · simp [EntryChecks.classify, EntryChecks.err, emtChecks, hid, ha, hn]

theorem matClass_eq (row : MATEntry) : matClass cfg row = (matChecks cfg).classify row := by
  unfold matClass
  by_cases hd : row.enableState = matStateDisabled
  · simp [EntryChecks.classify, matChecks, hd]
  by_cases he : row.enableState ≠ matStateEnabled ∧ row.enableState ≠ matStateNoevent
  · simp [EntryChecks.classify, EntryChecks.err, matChecks, hd, he]
  have hst : (row.enableState != matStateEnabled && row.enableState != matStateNoevent) =
      false := by
    simpa using he
  cases hv : cfg.isValidMsgId row.msgBuf.msgId with
  | false => simp [EntryChecks.classify, EntryChecks.err, matChecks, hd, he, hst, hv]
  | true =>
    by_cases hl : cfg.sbMaxMsgSize < row.msgBuf.size
    · simp [EntryChecks.classify, EntryChecks.err, matChecks, hd, he, hst, hv, hl]
    · simp [EntryChecks.classify, EntryChecks.err, matChecks, hd, he, hst, hv, hl]

/-- **The validators report the first error and account for every entry.**  On every
table, the validators of the application monitor, event monitor and message actions
tables return the error of the lowest bad entry and name it in one event, or return
`CFE_SUCCESS` and send none; their totals count every entry once. -/
theorem validators_report_first_error (s : AppData cfg) :
    (∀ amt : AMT cfg, ReportsFirstError (amtChecks cfg) .amtvalErr .amtvalInf
      (fun row => [.num row.actionType.toNat, .str (badName cfg row.appName)]) amt s
      (validateAMTable (some amt) s)) ∧
    (∀ emt : EMT cfg, ReportsFirstError (emtChecks cfg) .emtvalErr .emtvalInf
      (fun row => [.num row.actionType.toNat, .num row.eventID.toNat,
        .str (badName cfg row.appName)]) emt s (validateEMTable (some emt) s)) ∧
    ∀ mat : MAT cfg, ReportsFirstError (matChecks cfg) .matvalErr .matvalInf
      (fun row => [.num row.msgBuf.size, .num row.msgBuf.msgId.toNat]) mat s
      (validateMATable (some mat) s) := by
  have happs := cfg.verified.monitoredApps_le
  have hevents := cfg.verified.monitoredEvents_le
  have hacts := cfg.verified.msgActTypes_le
  refine ⟨fun amt => ?_, fun emt => ?_, fun mat => ?_⟩
  · exact validateTable_reports amtClass_eq (fun _ _ => amtClass_bad) _ _ _ _ amt (by omega) s
  · exact validateTable_reports emtClass_eq (fun _ _ => emtClass_bad) _ _ _ _ emt (by omega) s
  · exact validateTable_reports matClass_eq (fun _ _ => matClass_bad) _ _ _ _ mat (by omega) s

end HealthSafety
