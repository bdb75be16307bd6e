import HealthSafety.Model.App

/-!
# What a function of HS can do

A function of HS does a sequence of small acts: it makes a call that changes
nothing here, it reads a table row, it sets a few fields.  `Act k` lists them,
sorted into kinds `k`, and a program `Does ks` if all its acts are of the kinds
`ks`.  One lemma for each function says which kinds it does
(`Step/Functions.lean`); a law is then proved once over the acts and holds of
every function that does the right kinds.

Some fields of `HS_AppData` matter to no law: the countdowns of the aliveness and the
utilization monitor, two switches, what is known of the device, the housekeeping
packet.  `Aside s t` says that only these differ.
-/

namespace HealthSafety

open Lib

variable {cfg : Config}

/-! ### Fields on the side -/

/-- `t` differs from `s` at most in the countdowns, the aliveness and hogging switches, the
device and the housekeeping packet. -/
structure Aside (s t : AppData cfg) : Prop where
  serviceWatchdogFlag : t.serviceWatchdogFlag = s.serviceWatchdogFlag
  currentAppMonState : t.currentAppMonState = s.currentAppMonState
  currentEventMonState : t.currentEventMonState = s.currentEventMonState
  exeCountState : t.exeCountState = s.exeCountState
  msgActsState : t.msgActsState = s.msgActsState
  cdsState : t.cdsState = s.cdsState
  appMonLoaded : t.appMonLoaded = s.appMonLoaded
  eventMonLoaded : t.eventMonLoaded = s.eventMonLoaded
  msgActCooldown : t.msgActCooldown = s.msgActCooldown
  appMonCheckInCountdown : t.appMonCheckInCountdown = s.appMonCheckInCountdown
  appMonEnables : t.appMonEnables = s.appMonEnables
  appMonLastExeCount : t.appMonLastExeCount = s.appMonLastExeCount
  xcTablePtr : t.xcTablePtr = s.xcTablePtr
  amTablePtr : t.amTablePtr = s.amTablePtr
  emTablePtr : t.emTablePtr = s.emTablePtr
  maTablePtr : t.maTablePtr = s.maTablePtr
  cdsData : t.cdsData = s.cdsData
  cmdCount : t.cmdCount = s.cmdCount
  cmdErrCount : t.cmdErrCount = s.cmdErrCount
  eventsMonitoredCount : t.eventsMonitoredCount = s.eventsMonitoredCount
  msgActExec : t.msgActExec = s.msgActExec
  currentCPUUtilIndex : t.currentCPUUtilIndex = s.currentCPUUtilIndex
  utilizationTracker : t.utilizationTracker = s.utilizationTracker
  utilCpuAvg : t.utilCpuAvg = s.utilCpuAvg
  utilCpuPeak : t.utilCpuPeak = s.utilCpuPeak

/-- The other fields. -/
def AppData.core (s : AppData cfg) :=
  (s.serviceWatchdogFlag, s.currentAppMonState, s.currentEventMonState, s.exeCountState,
    s.msgActsState, s.cdsState, s.appMonLoaded, s.eventMonLoaded, s.msgActCooldown,
    s.appMonCheckInCountdown, s.appMonEnables, s.appMonLastExeCount, s.xcTablePtr, s.amTablePtr,
    s.emTablePtr, s.maTablePtr, s.cdsData, s.cmdCount, s.cmdErrCount, s.eventsMonitoredCount,
    s.msgActExec, s.currentCPUUtilIndex, s.utilizationTracker, s.utilCpuAvg, s.utilCpuPeak)

theorem Aside.of_core {s t : AppData cfg} (h : t.core = s.core) : Aside s t := by
  simp only [AppData.core, Prod.mk.injEq] at h
  obtain ⟨h1, h2, h3, h4, h5, h6, h7, h8, h9, h10, h11, h12, h13, h14, h15, h16, h17, h18, h19,
    h20, h21, h22, h23, h24, h25⟩ := h
  exact ⟨h1, h2, h3, h4, h5, h6, h7, h8, h9, h10, h11, h12, h13, h14, h15, h16, h17, h18, h19,
    h20, h21, h22, h23, h24, h25⟩

/-! ### Calls and marks on the side -/

/-- The calls whose place in the log some law is about. -/
def Call.plain : Call cfg → Bool
  | .copyToCDS _ => false
  | .resetCFE _ => false
  | .subscribeEx _ _ => false
  | .unsubscribe _ _ => false
  | .getAddress _ _ => false
  | .transmitMsg _ _ => false
  | .watchdogService => false
  | _ => true

def Mark.plain : Mark cfg → Bool
  | .handler _ => true
  | _ => false

def Label.plain : Label cfg → Bool
  | .call c => c.plain
  | .mark m => m.plain

/-- The row is in the table `HS_AppData` points to. -/
def TableRow.InUse (s : AppData cfg) : TableRow cfg → Prop
  | .amt i row => s.amTablePtr.map (· i) = some row
  | .emt i row => s.emTablePtr.map (· i) = some row
  | .mat i row => s.maTablePtr.map (· i) = some row
  | .xct i row => s.xcTablePtr.map (· i) = some row

/-- The table of a row. -/
def TableRow.id : TableRow cfg → TableId
  | .amt _ _ => .amt
  | .emt _ _ => .emt
  | .mat _ _ => .mat
  | .xct _ _ => .xct

/-- The table is not there although HS reads it: the message actions and the
execution counters are read only while their state is enabled. -/
def Missing (s : AppData cfg) : TableId → Prop
  | .amt => s.amTablePtr = none
  | .emt => s.emTablePtr = none
  | .mat => s.maTablePtr = none ∧ s.msgActsState = .enabled
  | .xct => s.xcTablePtr = none ∧ s.exeCountState = .enabled

/-! ### Acts -/

inductive Kind
  | quiet
  | read (reader : Reader) (tbl : TableId)
  | reset
  | message
  | appMon
  | amtAction
  | emtAction
  | appMonSwitch
  | eventMon
  | budget
  | cds
  | tick
  | tables
  | watchdog
  | cmdCount
  | eventCount
  | util
  | boot
  deriving DecidableEq

/-- The copy of the critical data that `HS_SetCDSData` makes. -/
def copyLog (s : AppData cfg) (data : CDSData) : List (Label cfg) :=
  if s.cdsState = .enabled then [.call (.copyToCDS data)] else []

/-- `HS_AppData` after a processor reset action, as `CFE_ES_ResetCFE` is called. -/
def AppData.countReset (s : AppData cfg) : AppData cfg :=
  { s with
    cdsData := .of (s.cdsData.resetsPerformed + 1) s.cdsData.maxResets
    serviceWatchdogFlag := .disabled }

/-- The calls of a processor reset action. -/
def resetLog (s : AppData cfg) : List (Label cfg) :=
  copyLog s (.of (s.cdsData.resetsPerformed + 1) s.cdsData.maxResets) ++
    [.call .taskDelay, .call .writeToSysLog, .call (.resetCFE .disabled)]

/-- `HS_AppData` after a message action. -/
def AppData.countMsgAct (s : AppData cfg) (idx : Fin cfg.maxMsgActTypes) (row : MATEntry) :
    AppData cfg :=
  { s with
    msgActExec := s.msgActExec + 1
    msgActCooldown := Function.update s.msgActCooldown idx row.cooldown }

/-- A message action is held back: the table is not loaded, the action is cooling
down or its row is disabled. -/
def Held (s : AppData cfg) (idx : Fin cfg.maxMsgActTypes) : Prop :=
  s.msgActsState = .disabled ∨ s.msgActCooldown idx ≠ 0 ∨
    ∃ mat, s.maTablePtr = some mat ∧ (mat idx).enableState = matStateDisabled

/-- `HS_AppData` after `CFE_TBL_GetAddress` for the message actions table and the
refresh that an update causes. -/
def AppData.takeMat (s : AppData cfg) (r : TblReply (MAT cfg)) : AppData cfg :=
  { s with
    maTablePtr := r.ptr
    msgActCooldown := if r.status = cfg.tblInfoUpdated then fun _ => 0 else s.msgActCooldown }

/-- `HS_AppData` after the cooldowns are counted down. -/
def AppData.coolDown (s : AppData cfg) : AppData cfg :=
  { s with
    msgActCooldown := fun i => if s.msgActCooldown i ≠ 0 then s.msgActCooldown i - 1 else 0 }

/-- The single acts, by kind. -/
inductive Act : Kind → AppData cfg → List (Label cfg) → AppData cfg → Prop
  | plain {s} (l : Label cfg) (h : l.plain = true) : Act .quiet s [l] s
  | rowRead {s} (reader : Reader) (row : TableRow cfg) (h : row.InUse s) :
      Act (.read reader row.id) s [.mark (.rowRead reader row)] s
  | nullRead {s} (reader : Reader) (tbl : TableId) (h : Missing s tbl) :
      Act (.read reader tbl) s [.mark (.nullRead tbl reader)] s
  | aside {s t} (h : Aside s t) : Act .quiet s [] t
  | reset {s} (h : s.cdsData.resetsPerformed < s.cdsData.maxResets) :
      Act .reset s (resetLog s) s.countReset
  | transmit {s} (idx : Fin cfg.maxMsgActTypes) (mat : MAT cfg) (hs : s.msgActsState = .enabled)
      (hc : s.msgActCooldown idx = 0) (hm : s.maTablePtr = some mat)
      (he : (mat idx).enableState ≠ matStateDisabled) :
      Act .message s [.mark (.msgAct idx .enabled (some (mat idx)) true),
        .call (.transmitMsg idx (mat idx))] (s.countMsgAct idx (mat idx))
  | held {s} (idx : Fin cfg.maxMsgActTypes) (h : Held s idx) :
      Act .message s [.mark (.msgAct idx s.msgActsState (s.maTablePtr.map (· idx)) false)] s
  | heldInvalid {s} (idx : Nat) (h : cfg.maxMsgActTypes ≤ idx) :
      Act .message s [.mark (.msgAct idx s.msgActsState none false)] s
  | appMon {s} (countdown : Fin cfg.maxMonitoredApps → UInt16)
      (enables : Fin cfg.enableWords → BitVec 32) (last : Fin cfg.maxMonitoredApps → UInt32) :
      Act .appMon s [] { s with
        appMonCheckInCountdown := countdown
        appMonEnables := enables
        appMonLastExeCount := last }
  | amtAction {s} (i : Fin cfg.maxMonitoredApps) : Act .amtAction s [.mark (.amtAction i)] s
  | emtAction {s} (i : Fin cfg.maxMonitoredEvents) : Act .emtAction s [.mark (.emtAction i)] s
  | appMonSwitch {s} (v : SwitchState) : Act .appMonSwitch s [] { s with currentAppMonState := v }
  | eventMonSwitch {s} (v : SwitchState) :
      Act .eventMon s [] { s with currentEventMonState := v }
  | subscribe {s} (mid : EvsMid) (status : Status) :
      Act .eventMon s [.call (.subscribeEx mid status)] s
  | unsubscribe {s} (mid : EvsMid) (status : Status) :
      Act .eventMon s [.call (.unsubscribe mid status)] s
  | setCDS {s} (resets max : UInt16) :
      Act .budget s (copyLog s (.of resets max)) { s with cdsData := .of resets max }
  | restoreCDS {s} (data : CDSData) : Act .cds s [] { s with cdsData := data }
  | cdsOff {s} : Act .cds s [] { s with cdsState := .disabled }
  | tick {s} : Act .tick s [.mark .tick] s.coolDown
  | takeAmt {s} (r : TblReply (AMT cfg)) :
      Act .tables s [.call (.getAddress .amt r.status)] { s with amTablePtr := r.ptr }
  | takeEmt {s} (r : TblReply (EMT cfg)) :
      Act .tables s [.call (.getAddress .emt r.status)] { s with emTablePtr := r.ptr }
  | takeMat {s} (r : TblReply (MAT cfg)) :
      Act .tables s [.call (.getAddress .mat r.status)] (s.takeMat r)
  | takeXct {s} (r : TblReply (XCT cfg)) :
      Act .tables s [.call (.getAddress .xct r.status)] { s with xcTablePtr := r.ptr }
  | loaded {s} (am em ma xc : SwitchState) :
      Act .tables s [] { s with
        appMonLoaded := am
        eventMonLoaded := em
        msgActsState := ma
        exeCountState := xc }
  | watchdogService {s} : Act .watchdog s [.call .watchdogService] s
  | cmdCount {s} (cmd err : UInt8) :
      Act .cmdCount s [] { s with cmdCount := cmd, cmdErrCount := err }
  | eventCount {s} (events exec : UInt32) :
      Act .eventCount s [] { s with eventsMonitoredCount := events, msgActExec := exec }
  | util {s} (index : UInt32) (tracker : Fin cfg.utilPeakNumInterval → UInt32)
      (average peak : UInt32) :
      Act .util s [] { s with
        currentCPUUtilIndex := index
        utilizationTracker := tracker
        utilCpuAvg := average
        utilCpuPeak := peak }
  | boot {s} : Act .boot s [.mark .boot] (initialData cfg)

/-- Calls, marks and changes on the side are allowed. -/
class HasQuiet (ks : List Kind) : Prop where
  mem : Kind.quiet ∈ ks

instance (ks : List Kind) : HasQuiet (.quiet :: ks) := ⟨List.mem_cons_self⟩

instance (k : Kind) (ks : List Kind) [hq : HasQuiet ks] : HasQuiet (k :: ks) :=
  ⟨List.mem_cons_of_mem k hq.mem⟩

/-- A single act of one of the given kinds. -/
def Acts (ks : List Kind) (s : AppData cfg) (l : List (Label cfg)) (t : AppData cfg) : Prop :=
  ∃ k ∈ ks, Act k s l t

/-- From `s`, `m` does acts of the given kinds only. -/
def Does {α : Type} (ks : List Kind) (m : HsM cfg α) (s : AppData cfg) : Prop :=
  Moves (Chain (Acts ks)) m s

namespace Does

variable {α β ι : Type} {ks : List Kind}

theorem mono {ks' : List Kind} {m : HsM cfg α} {s : AppData cfg} (h : Does ks m s)
    (hks : ks ⊆ ks') : Does ks' m s :=
  Moves.mono (fun _ _ _ => Chain.mono fun _ _ _ ⟨k, hk, h⟩ => ⟨k, hks hk, h⟩) h

/-- **A law of the single acts is a law of what they make up.** -/
theorem law {R : AppData cfg → List (Label cfg) → AppData cfg → Prop} {m : HsM cfg α}
    {s : AppData cfg} (h : Does ks m s) (hR : Law R)
    (hA : ∀ k ∈ ks, ∀ s l t, Act k s l t → R s l t) : Moves R m s :=
  Moves.lift hR (fun s l t ⟨k, hk, h⟩ => hA k hk s l t h) h

theorem pure (a : α) (s : AppData cfg) : Does ks (pure a : HsM cfg α) s :=
  Moves.pure (Chain.law _) a s

theorem halt (e : Stop) (s : AppData cfg) : Does ks (halt e : HsM cfg α) s :=
  Moves.stop (Chain.law _) e s

theorem bind {m : HsM cfg α} {f : α → HsM cfg β} {s : AppData cfg} (hm : Does ks m s)
    (hf : ∀ a s, Does ks (f a) s) : Does ks (m >>= f) s :=
  Moves.bind (Chain.law _) hm fun a _ => hf a _

theorem get_bind {f : AppData cfg → HsM cfg β} {s : AppData cfg} (h : Does ks (f s) s) :
    Does ks (appData >>= f) s := Moves.get_bind h

theorem ite {c : Prop} {_ : Decidable c} {m m' : HsM cfg α} {s : AppData cfg}
    (h : c → Does ks m s)
    (h' : ¬ c → Does ks m' s) : Does ks (if c then m else m') s := Moves.ite h h'

theorem when {c : Prop} {_ : Decidable c} {m : HsM cfg Unit} {s : AppData cfg}
    (h : c → Does ks m s) : Does ks (Prog.when c m) s := Moves.when (Chain.law _) h

theorem each {body : ι → HsM cfg Unit} (xs : List ι) (h : ∀ x s, Does ks (body x) s)
    (s : AppData cfg) : Does ks (Prog.each xs body) s :=
  Moves.each (Chain.law _) xs (fun x _ => h x) s

theorem fold {body : β → ι → HsM cfg β} (xs : List ι) (h : ∀ b x s, Does ks (body b x) s)
    (b : β) (s : AppData cfg) : Does ks (Prog.fold body b xs) s :=
  Moves.fold (Chain.law _) xs (fun x _ b => h b x) b s

theorem emit {l : Label cfg} {s : AppData cfg} {k : Kind} (h : Act k s [l] s)
    (hk : k ∈ ks) : Does ks (Prog.emit l) s :=
  Chain.single ⟨k, hk, h⟩

theorem modify {f : AppData cfg → AppData cfg} {s : AppData cfg} {k : Kind} (h : Act k s [] (f s))
    (hk : k ∈ ks) : Does ks (modifyApp f) s :=
  Chain.single ⟨k, hk, h⟩

/-- A call or mark that matters to no law. -/
theorem plain [hq : HasQuiet ks] {l : Label cfg} {s : AppData cfg} (h : l.plain = true) :
    Does ks (Prog.emit l) s := emit (.plain l h) hq.mem

/-- A change on the side. -/
theorem aside [hq : HasQuiet ks] {f : AppData cfg → AppData cfg} {s : AppData cfg}
    (h : (f s).core = s.core) : Does ks (modifyApp f) s := modify (.aside (.of_core h)) hq.mem

end Does

end HealthSafety
