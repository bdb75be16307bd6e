import HealthSafety.Step.Acquire

/-!
# Runs

HS does one operation after another: `HS_AppInit`, the startup of `HS_AppMain`,
and then the stages of `HS_ProcessMain`, with one operation for each event and for
each command it takes from its pipes.  `processMain_ops` says that a pass of the
main loop is a list of such operations.

A `World` is HS together with what it has told its environment and got from it:
the critical data store, the event subscriptions and the contents of two tables.
`World.after` is one operation.  The operations of a run are restricted by a
relation `P` between the world and the next operation, which says what a result
assumes about the environment; `Run P` is all runs that keep to it.
-/

namespace HealthSafety

open Lib

variable {cfg : Config}

/-! ### Operations -/

inductive Op (cfg : Config)
  | appInit (i : InitIn cfg)
  | startup (i : StartIn)
  | acquirePointers (r : AcquireIn cfg)
  | decrementCooldowns
  | checkUtilization (r : Reply Int)
  | checkApplications (lks : Fin cfg.maxMonitoredApps → AppLookup)
  | outputAliveness
  | receiveEvent (ev : EvtMsg) (lks : Fin cfg.maxMonitoredEvents → EvtLookup)
  | appPipe (msg : CmdMsg) (r : CmdReplies cfg)
  | serviceWatchdog

namespace Op

def run : Op cfg → HsM cfg Unit
  | .appInit i => do let _ ← HealthSafety.appInit i
  | .startup i => do let _ ← HealthSafety.startup i
  | .acquirePointers r => HealthSafety.acquirePointers r
  | .decrementCooldowns => HealthSafety.decrementCooldowns
  | .checkUtilization r => HealthSafety.checkUtilization r
  | .checkApplications lks => HealthSafety.checkApplications lks
  | .outputAliveness => HealthSafety.outputAliveness
  | .receiveEvent ev lks => HealthSafety.receiveEvent ev lks
  | .appPipe msg r => HealthSafety.appPipe msg r
  | .serviceWatchdog => HealthSafety.serviceWatchdog

/-- The kinds of acts of an operation. -/
def kinds : Op cfg → List Kind
  | .appInit _ => .budget :: .cds :: .boot :: acquireKinds
  | .startup _ => [.quiet, .eventMon, .watchdog]
  | .acquirePointers _ => acquireKinds
  | .decrementCooldowns => [.tick]
  | .checkUtilization _ => [.quiet, .util]
  | .checkApplications _ => appMonKinds
  | .outputAliveness => [.quiet]
  | .receiveEvent _ _ => .eventCount :: eventKinds
  | .appPipe msg _ => cmdKinds cfg msg
  | .serviceWatchdog => [.watchdog]

theorem does (op : Op cfg) (s : AppData cfg) : Does op.kinds op.run s := by
  cases op with
  | appInit i => exact Does.bind (appInit_does i s) fun _ s => Does.pure _ s
  | startup i => exact Does.bind (startup_does i s) fun _ s => Does.pure _ s
  | acquirePointers r => exact acquirePointers_does r s
  | decrementCooldowns => exact decrementCooldowns_does s
  | checkUtilization r => exact checkUtilization_does r s
  | checkApplications lks => exact checkApplications_does lks s
  | outputAliveness => exact outputAliveness_does s
  | receiveEvent ev lks => exact receiveEvent_does ev lks s
  | appPipe msg r => exact appPipe_does msg r s
  | serviceWatchdog => exact serviceWatchdog_does s

theorem run_appInit (i : InitIn cfg) (s : AppData cfg) :
    (Op.appInit i).run s = ⟨(HealthSafety.appInit i s).val.map fun _ => (),
      (HealthSafety.appInit i s).state, (HealthSafety.appInit i s).log⟩ :=
  Prog.discard_apply _ _

/-- `HS_AppInit`, which starts HS afresh. -/
def isInit : Op cfg → Bool
  | .appInit _ => true
  | _ => false

/-- The operations a pass of the main loop is made of. -/
inductive OfCycle (c : CycleIn cfg) : Op cfg → Prop
  | acquirePointers : OfCycle c (.acquirePointers c.acquire)
  | decrementCooldowns : OfCycle c .decrementCooldowns
  | checkUtilization : OfCycle c (.checkUtilization c.utilization)
  | checkApplications : OfCycle c (.checkApplications c.apps)
  | outputAliveness : OfCycle c .outputAliveness
  | receiveEvent {ev : EvtMsg} {lks : Fin cfg.maxMonitoredEvents → EvtLookup}
      (h : (some ev, lks) ∈ c.events) : OfCycle c (.receiveEvent ev lks)
  | appPipe {msg : CmdMsg} {r : CmdReplies cfg} (h : (some msg, r) ∈ c.cmds) :
      OfCycle c (.appPipe msg r)
  | serviceWatchdog : OfCycle c .serviceWatchdog

end Op

/-! ### A pass of the main loop is a list of operations -/

/-- Whatever the state, running `m` is running a list of operations of the pass. -/
def AsOps {α : Type} (c : CycleIn cfg) (m : HsM cfg α) : Prop :=
  ∀ s, ∃ ops : List (Op cfg), (∀ op ∈ ops, op.OfCycle c) ∧
    (m >>= fun _ => pure ()) s = Prog.each ops Op.run s

namespace AsOps

variable {α β ι : Type} {c : CycleIn cfg}

theorem pure (a : α) : AsOps c (pure a : HsM cfg α) :=
  fun s => ⟨[], by simp, by rw [Prog.pure_bind', Prog.each_nil]⟩

theorem op {op : Op cfg} (h : op.OfCycle c) : AsOps c op.run :=
  fun s => ⟨[op], by simpa using h, rfl⟩

theorem bind {m : HsM cfg α} {f : α → HsM cfg β} (hm : AsOps c m) (hf : ∀ a, AsOps c (f a)) :
    AsOps c (m >>= f) := by
  intro s
  obtain ⟨ops, hops, h⟩ := hm s
  rw [Prog.bind_assoc']
  rcases hrun : m s with ⟨e | a, t, l⟩
  · refine ⟨ops, hops, ?_⟩
    rw [Prog.bind_error hrun] at h
    rw [Prog.bind_error hrun, ← h]
  · obtain ⟨ops', hops', h'⟩ := hf a t
    refine ⟨ops ++ ops', fun o ho => (List.mem_append.mp ho).elim (hops o) (hops' o), ?_⟩
    rw [Prog.bind_ok hrun, Prog.pure_apply, List.append_nil] at h
    rw [Prog.each_append, Prog.bind_ok h.symm, ← h', Prog.bind_ok hrun]

theorem get_bind {f : AppData cfg → HsM cfg β} (h : ∀ s, AsOps c (f s)) :
    AsOps c (appData >>= f) := by
  intro s
  obtain ⟨ops, hops, h⟩ := h s s
  exact ⟨ops, hops, by rw [Prog.bind_assoc', Prog.get_bind, h]⟩

theorem ite {p : Prop} {_ : Decidable p} {m m' : HsM cfg α} (h : AsOps c m) (h' : AsOps c m') :
    AsOps c (if p then m else m') := by
  split
  · exact h
  · exact h'

theorem each {body : ι → HsM cfg Unit} (xs : List ι) (h : ∀ x ∈ xs, AsOps c (body x)) :
    AsOps c (Prog.each xs body) := by
  induction xs with
  | nil => exact pure ()
  | cons x xs ih =>
    rw [Prog.each_cons]
    exact bind (h x List.mem_cons_self)
      fun _ => ih fun y hy => h y (List.mem_cons_of_mem x hy)

end AsOps

theorem drainEvents_ops (c : CycleIn cfg) : AsOps c (drainEvents c) := by
  refine .get_bind fun s => .ite (.bind (.each _ fun e he => ?_) fun _ => .pure _) (.pure _)
  obtain ⟨_ | ev, lks⟩ := e
  · exact .pure ()
  · exact .op (.receiveEvent he)

theorem drainCommands_ops (c : CycleIn cfg) : AsOps c (drainCommands c) := by
  refine .bind (.each _ fun e he => ?_) fun _ => .pure _
  obtain ⟨_ | msg, r⟩ := e
  · exact .pure ()
  · exact .op (.appPipe he)

/-- **A pass of the main loop is a list of operations.** -/
theorem processMain_ops (c : CycleIn cfg) : AsOps c (processMain c) := by
  refine .bind (.op .acquirePointers) fun _ => .bind (.op .decrementCooldowns) fun _ =>
    .bind (.op .checkUtilization) fun _ => .bind (.op .checkApplications) fun _ =>
    .bind (.op .outputAliveness) fun _ => .bind ?_ fun _ =>
    .bind (.op .serviceWatchdog) fun _ => .pure _
  exact .bind (drainEvents_ops c) fun _ =>
    .ite (.bind (drainCommands_ops c) fun _ => .pure _) (.pure _)

/-! ### The environment -/

/-- What a call does to the critical data store. -/
def storeStep (store : Option CDSData) : Label cfg → Option CDSData
  | .call (.copyToCDS data) => some data
  | _ => store

/-- What a call does to the event subscriptions: a failed call leaves the
subscription as it was. -/
def subscribedStep (subscribed : EvsMid → Bool) : Label cfg → EvsMid → Bool
  | .call (.subscribeEx mid status) =>
    if status = success then Function.update subscribed mid true else subscribed
  | .call (.unsubscribe mid status) =>
    if status = success then Function.update subscribed mid false else subscribed
  | _ => subscribed

/-- HS and what it shares with its environment. -/
structure World (cfg : Config) where
  app : AppData cfg
  /-- HS has been initialized and no call has stopped it since. -/
  up : Bool
  store : Option CDSData
  subscribed : EvsMid → Bool
  /-- The table that `CFE_TBL_GetAddress` last gave since HS was initialized. -/
  amt : Option (AMT cfg)
  mat : Option (MAT cfg)

namespace World

/-- One operation. -/
def after (w : World cfg) (op : Op cfg) : World cfg :=
  let o := op.run w.app
  { app := o.state
    up := match o.val with
      | .ok _ => true
      | .error _ => false
    store := o.log.foldl storeStep w.store
    subscribed := o.log.foldl subscribedStep w.subscribed
    amt := o.state.amTablePtr <|> if op.isInit then none else w.amt
    mat := o.state.maTablePtr <|> if op.isInit then none else w.mat }

/-- One operation, with what it logs, under an assumption on the next operation. -/
def Step (P : World cfg → Op cfg → Prop) (w : World cfg) (l : List (Label cfg)) (w' : World cfg) :
    Prop :=
  ∃ op, (op.isInit = true ∨ w.up = true) ∧ P w op ∧ l = (op.run w.app).log ∧ w' = w.after op

/-- A run: any number of operations.  When a call has stopped HS, the next one is
`HS_AppInit`. -/
abbrev Run (P : World cfg → Op cfg → Prop) : World cfg → List (Label cfg) → World cfg → Prop :=
  Chain (Step P)

variable {P : World cfg → Op cfg → Prop} {w w' : World cfg} {l : List (Label cfg)}

theorem Run.op {op : Op cfg} (hup : op.isInit = true ∨ w.up = true) (hP : P w op) :
    Run P w (op.run w.app).log (w.after op) :=
  Chain.single ⟨op, hup, hP, rfl, rfl⟩

/-- What one operation preserves, a run preserves. -/
theorem Run.invariant {I : World cfg → Prop}
    (hI : ∀ w op, (op.isInit = true ∨ w.up = true) → P w op → I w → I (w.after op))
    (h : Run P w l w') (hw : I w) : I w' := by
  have hlaw : Law fun (w : World cfg) (_ : List (Label cfg)) w' => I w → I w' :=
    ⟨fun _ h => h, fun h₁ h₂ h => h₂ (h₁ h)⟩
  refine Chain.lift hlaw ?_ h hw
  rintro w - - ⟨op, hup, hP, rfl, rfl⟩ hw
  exact hI w op hup hP hw

theorem app_after_appInit (w : World cfg) (i : InitIn cfg) :
    (w.after (.appInit i)).app = (appInit i w.app).state := by
  rw [World.after, Op.run_appInit]

/-- Before HS is started for the first time; the data is not initialized. -/
def off (cfg : Config) : World cfg where
  app := initialData cfg
  up := false
  store := none
  subscribed := fun _ => false
  amt := none
  mat := none

end World

/-- Answers to `HS_AcquirePointers` that give these tables. -/
def AcquireIn.ok (amt : AMT cfg) (emt : EMT cfg) (mat : MAT cfg) (xct : XCT cfg) :
    AcquireIn cfg where
  amt := ⟨cfg.tblInfoUpdated, amt⟩
  emt := ⟨cfg.tblInfoUpdated, emt⟩
  mat := ⟨cfg.tblInfoUpdated, mat⟩
  xct := ⟨cfg.tblInfoUpdated, xct⟩
  unsubLong := success
  unsubShort := success

/-- Answers to a message on the command pipe to which every call succeeds. -/
def CmdReplies.ok (cfg : Config) : CmdReplies cfg where
  subLong := success
  subShort := success
  unsubLong := success
  unsubShort := success
  hk := ⟨fun _ => success, fun _ => ⟨⟨success, 0, true⟩, ⟨success, 0, true⟩, ⟨success, 0, true⟩,
    ⟨success, 0, true⟩⟩⟩

/-- Answers to `HS_AppInit` on a processor with an empty critical data store. -/
def InitIn.ok (acquire : AcquireIn cfg) : InitIn cfg where
  evsRegister := success
  registerCDS := success
  restoreFromCDS := ⟨success, ⟨0, 0, 0, 0⟩, true⟩
  sb := ⟨success, success, success, success, success, success⟩
  tbl := ⟨fun _ => success, fun _ => success, acquire⟩
  sysMon := ⟨false, 0, true, 0, 0, ⟨-1, by decide⟩⟩

/-- The status of a call that fails. -/
def failed : {s : Status // s ≠ success} := ⟨-1, by decide⟩

/-! ### What stays the same -/

theorem foldl_fixed {α β : Type} {f : β → α → β} {l : List α} (h : ∀ x ∈ l, ∀ b, f b x = b) :
    ∀ b, l.foldl f b = b := by
  induction l with
  | nil => intro b; rfl
  | cons x l ih =>
    intro b
    rw [List.foldl_cons, h x List.mem_cons_self]
    exact ih (fun y hy => h y (List.mem_cons_of_mem _ hy)) b

theorem subscribedStep_eq {x : Label cfg} {k : Kind} (hx : k ∈ x.kinds) (hk : k ≠ .eventMon)
    (subscribed : EvsMid → Bool) : subscribedStep subscribed x = subscribed := by
  unfold subscribedStep
  split
  · exact absurd (List.mem_singleton.mp hx) hk
  · exact absurd (List.mem_singleton.mp hx) hk
  · rfl

/-- Only the acts of the event monitor touch the subscriptions. -/
theorem Does.subscribed_eq {α : Type} {ks : List Kind} {m : HsM cfg α} {s : AppData cfg}
    (h : Does ks m s) (hks : ∀ k ∈ ks, k ≠ .eventMon) (subscribed : EvsMid → Bool) :
    (m s).log.foldl subscribedStep subscribed = subscribed := by
  refine foldl_fixed (fun x hx => ?_) subscribed
  obtain ⟨k, hk, hkx⟩ := h.kind_of_mem hx
  exact subscribedStep_eq hkx (hks k hk)

end HealthSafety
