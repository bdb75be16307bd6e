import HealthSafety.Step.Functions

/-!
# What stays the same

Laws of the acts that most results need: which labels a program can log, and
which fields it leaves alone, read off the kinds of its acts.
-/

namespace HealthSafety

open Lib

variable {cfg : Config} {α : Type} {ks : List Kind} {m : HsM cfg α} {s : AppData cfg}

/-- What every label of the single acts satisfies, every label of the log does. -/
theorem Does.labels (h : Does ks m s) {P : Label cfg → Prop}
    (hA : ∀ k ∈ ks, ∀ s l t, Act k s l t → ∀ x ∈ l, P x) : ∀ x ∈ (m s).log, P x := by
  have hlaw : Law fun (_ : AppData cfg) l (_ : AppData cfg) => ∀ x ∈ l, P x :=
    ⟨fun _ => by simp, fun h₁ h₂ x hx => (List.mem_append.mp hx).elim (h₁ x) (h₂ x)⟩
  exact h.law hlaw hA

/-- A part of the state that the single acts keep is kept. -/
theorem Does.keeps (h : Does ks m s) {β : Type} (part : AppData cfg → β)
    (hA : ∀ k ∈ ks, ∀ s l t, Act k s l t → part t = part s) : part (m s).state = part s := by
  have hlaw : Law fun (s : AppData cfg) (_ : List (Label cfg)) t => part t = part s :=
    ⟨fun _ => rfl, fun h₁ h₂ => h₂.trans h₁⟩
  exact h.law hlaw hA

/-! ### Labels -/

/-- The kinds of acts that can log a label. -/
def Label.kinds : Label cfg → List Kind
  | .call (.copyToCDS _) => [.reset, .budget]
  | .call (.resetCFE _) => [.reset]
  | .call (.subscribeEx _ _) => [.eventMon]
  | .call (.unsubscribe _ _) => [.eventMon]
  | .call (.getAddress _ _) => [.tables]
  | .call (.transmitMsg _ _) => [.message]
  | .call .watchdogService => [.watchdog]
  | .call _ => [.quiet, .reset]
  | .mark .boot => [.boot]
  | .mark .tick => [.tick]
  | .mark (.rowRead reader row) => [.read reader row.id]
  | .mark (.nullRead tbl reader) => [.read reader tbl]
  | .mark (.amtAction _) => [.amtAction]
  | .mark (.emtAction _) => [.emtAction]
  | .mark (.msgAct _ _ _ _) => [.message]
  | .mark (.handler _) => [.quiet]

theorem Label.quiet_mem_kinds {x : Label cfg} (h : x.plain = true) : Kind.quiet ∈ x.kinds := by
  cases x with
  | call c => cases c <;> first | exact List.mem_cons_self | cases h
  | mark m => cases m <;> first | exact List.mem_cons_self | cases h

theorem mem_copyLog {data : CDSData} {x : Label cfg} (h : x ∈ copyLog s data) :
    x = .call (.copyToCDS data) := by
  unfold copyLog at h
  split at h
  · exact List.mem_singleton.mp h
  · cases h

theorem Act.mem_kinds {k : Kind} {s t : AppData cfg} {l : List (Label cfg)} (h : Act k s l t)
    {x : Label cfg} (hx : x ∈ l) : k ∈ x.kinds := by
  cases h with
  | aside | appMon | appMonSwitch | eventMonSwitch | restoreCDS | cdsOff | loaded | cmdCount |
    eventCount | util => cases hx
  | plain l h =>
    rw [List.mem_singleton.mp hx]
    exact Label.quiet_mem_kinds h
  | reset h =>
    rcases List.mem_append.mp hx with hx | hx
    · simp [mem_copyLog hx, Label.kinds]
    · rcases List.mem_cons.mp hx with rfl | hx
      · simp [Label.kinds]
      rcases List.mem_cons.mp hx with rfl | hx
      · simp [Label.kinds]
      simp [List.mem_singleton.mp hx, Label.kinds]
  | setCDS => simp [mem_copyLog hx, Label.kinds]
  | rowRead | nullRead =>
    rw [List.mem_singleton.mp hx]
    exact List.mem_singleton_self _
  | transmit =>
    rcases List.mem_cons.mp hx with rfl | hx
    · simp [Label.kinds]
    · simp [List.mem_singleton.mp hx, Label.kinds]
  | _ => simp [List.mem_singleton.mp hx, Label.kinds]

/-- A message is sent from the table HS points to, out of a row that is not disabled. -/
theorem Act.row_of_transmit {k : Kind} {s t : AppData cfg} {l : List (Label cfg)}
    (h : Act k s l t) {idx : Fin cfg.maxMsgActTypes} {row : MATEntry}
    (hx : Label.call (.transmitMsg idx row) ∈ l) :
    ∃ mat, s.maTablePtr = some mat ∧ row = mat idx ∧ row.enableState ≠ matStateDisabled := by
  have hk := h.mem_kinds hx
  rw [Label.kinds, List.mem_singleton] at hk
  subst hk
  cases h with
  | transmit idx' mat _ _ hm he =>
    simp only [List.mem_cons, reduceCtorEq, List.not_mem_nil, or_false, false_or,
      Label.call.injEq, Call.transmitMsg.injEq] at hx
    obtain ⟨rfl, rfl⟩ := hx
    exact ⟨mat, hm, rfl, he⟩
  | held => simp at hx
  | heldInvalid => simp at hx

/-- **A label is logged by an act of its kind.** -/
theorem Does.kind_of_mem (h : Does ks m s) {x : Label cfg} (hx : x ∈ (m s).log) :
    ∃ k ∈ ks, k ∈ x.kinds :=
  h.labels (P := fun x => ∃ k ∈ ks, k ∈ x.kinds)
    (fun k hk _ _ _ ha _ hx => ⟨k, hk, ha.mem_kinds hx⟩) x hx

/-! ### The tables -/

/-- The table pointers and what HS records about them. -/
structure TableView (cfg : Config) where
  amt : Option (AMT cfg)
  emt : Option (EMT cfg)
  mat : Option (MAT cfg)
  xct : Option (XCT cfg)
  appMonLoaded : SwitchState
  eventMonLoaded : SwitchState
  msgActsState : SwitchState
  exeCountState : SwitchState

def AppData.tables (s : AppData cfg) : TableView cfg where
  amt := s.amTablePtr
  emt := s.emTablePtr
  mat := s.maTablePtr
  xct := s.xcTablePtr
  appMonLoaded := s.appMonLoaded
  eventMonLoaded := s.eventMonLoaded
  msgActsState := s.msgActsState
  exeCountState := s.exeCountState

/-- The kinds of acts that leave the tables alone. -/
def Kind.keepsTables : Kind → Bool
  | .tables => false
  | .boot => false
  | _ => true

theorem Act.tables_eq {k : Kind} {s t : AppData cfg} {l : List (Label cfg)}
    (hk : k.keepsTables = true) (h : Act k s l t) : t.tables = s.tables := by
  cases h with
  | aside h =>
    simp only [AppData.tables, h.amTablePtr, h.emTablePtr, h.maTablePtr, h.xcTablePtr,
      h.appMonLoaded, h.eventMonLoaded, h.msgActsState, h.exeCountState]
  | takeAmt | takeEmt | takeMat | takeXct | loaded | boot => cases hk
  | _ => rfl

theorem Does.tables_eq (h : Does ks m s)
    (hks : ∀ k ∈ ks, k.keepsTables = true := by decide) : (m s).state.tables = s.tables :=
  h.keeps AppData.tables fun k hk _ _ _ => Act.tables_eq (hks k hk)

/-- As long as the tables stay, what the single acts log from states with these
tables is all that is logged. -/
theorem Does.labels_of_tables (h : Does ks m s) {P : Label cfg → Prop}
    (hA : ∀ k ∈ ks, ∀ t l u, t.tables = s.tables → Act k t l u → ∀ x ∈ l, P x)
    (hks : ∀ k ∈ ks, k.keepsTables = true := by decide) : ∀ x ∈ (m s).log, P x := by
  let R (t : AppData cfg) (l : List (Label cfg)) (u : AppData cfg) : Prop :=
    t.tables = s.tables → u.tables = s.tables ∧ ∀ x ∈ l, P x
  have hR : Law R := by
    refine ⟨fun t ht => ⟨ht, by simp⟩, fun h₁ h₂ ht => ?_⟩
    obtain ⟨hu, h₁⟩ := h₁ ht
    obtain ⟨hv, h₂⟩ := h₂ hu
    exact ⟨hv, fun x hx => (List.mem_append.mp hx).elim (h₁ x) (h₂ x)⟩
  exact (h.law hR (fun k hk t l u ha ht =>
    ⟨(ha.tables_eq (hks k hk)).trans ht, hA k hk t l u ht ha⟩) rfl).2

/-! ### The monitor switches -/

/-- The kinds of acts that leave the application monitor switch alone. -/
def Kind.keepsAppMonSwitch : Kind → Bool
  | .appMonSwitch => false
  | .boot => false
  | _ => true

/-- The kinds of acts that leave the event monitor switch alone. -/
def Kind.keepsEventMonSwitch : Kind → Bool
  | .eventMon => false
  | .boot => false
  | _ => true

theorem Does.currentAppMonState_eq (h : Does ks m s)
    (hks : ∀ k ∈ ks, k.keepsAppMonSwitch = true := by decide) :
    (m s).state.currentAppMonState = s.currentAppMonState := by
  refine h.keeps AppData.currentAppMonState fun k hk _ _ _ ha => ?_
  have := hks k hk
  cases ha with
  | aside h => exact h.currentAppMonState
  | appMonSwitch | boot => cases this
  | _ => rfl

theorem Does.currentEventMonState_eq (h : Does ks m s)
    (hks : ∀ k ∈ ks, k.keepsEventMonSwitch = true := by decide) :
    (m s).state.currentEventMonState = s.currentEventMonState := by
  refine h.keeps AppData.currentEventMonState fun k hk _ _ _ ha => ?_
  have := hks k hk
  cases ha with
  | aside h => exact h.currentEventMonState
  | eventMonSwitch | boot => cases this
  | _ => rfl

/-! ### The command counters -/

/-- The two counters of messages. -/
def AppData.cmdCounts (s : AppData cfg) : UInt8 × UInt8 := (s.cmdCount, s.cmdErrCount)

/-- The kinds of acts that leave the command counters alone. -/
def Kind.keepsCmdCounts : Kind → Bool
  | .cmdCount => false
  | .boot => false
  | _ => true

theorem Does.cmdCounts_eq (h : Does ks m s) (hks : ∀ k ∈ ks, k.keepsCmdCounts = true) :
    (m s).state.cmdCounts = s.cmdCounts := by
  refine h.keeps AppData.cmdCounts fun k hk _ _ _ ha => ?_
  have := hks k hk
  cases ha with
  | aside h => simp only [AppData.cmdCounts, h.cmdCount, h.cmdErrCount]
  | cmdCount | boot => cases this
  | _ => rfl

/-! ### The application monitor -/

/-- What the application monitor keeps about its rows. -/
structure WatchView (cfg : Config) where
  countdown : Fin cfg.maxMonitoredApps → UInt16
  enables : Fin cfg.enableWords → BitVec 32
  last : Fin cfg.maxMonitoredApps → UInt32

def AppData.watch (s : AppData cfg) : WatchView cfg where
  countdown := s.appMonCheckInCountdown
  enables := s.appMonEnables
  last := s.appMonLastExeCount

/-- The kinds of acts that leave the rows of the application monitor alone. -/
def Kind.keepsWatch : Kind → Bool
  | .appMon => false
  | .boot => false
  | _ => true

theorem Does.watch_eq (h : Does ks m s) (hks : ∀ k ∈ ks, k.keepsWatch = true := by decide) :
    (m s).state.watch = s.watch := by
  refine h.keeps AppData.watch fun k hk _ _ _ ha => ?_
  have := hks k hk
  cases ha with
  | aside h =>
    simp only [AppData.watch, h.appMonCheckInCountdown, h.appMonEnables, h.appMonLastExeCount]
  | appMon | boot => cases this
  | _ => rfl

/-! ### The utilization monitor -/

/-- What the utilization monitor keeps and publishes. -/
structure UtilView (cfg : Config) where
  index : UInt32
  tracker : Fin cfg.utilPeakNumInterval → UInt32
  average : UInt32
  peak : UInt32

def AppData.utilization (s : AppData cfg) : UtilView cfg where
  index := s.currentCPUUtilIndex
  tracker := s.utilizationTracker
  average := s.utilCpuAvg
  peak := s.utilCpuPeak

/-- The kinds of acts that leave the utilization alone. -/
def Kind.keepsUtilization : Kind → Bool
  | .util => false
  | .boot => false
  | _ => true

theorem Does.utilization_eq (h : Does ks m s)
    (hks : ∀ k ∈ ks, k.keepsUtilization = true := by decide) :
    (m s).state.utilization = s.utilization := by
  refine h.keeps AppData.utilization fun k hk _ _ _ ha => ?_
  have := hks k hk
  cases ha with
  | aside h =>
    simp only [AppData.utilization, h.currentCPUUtilIndex, h.utilizationTracker, h.utilCpuAvg,
      h.utilCpuPeak]
  | util | boot => cases this
  | _ => rfl

end HealthSafety
