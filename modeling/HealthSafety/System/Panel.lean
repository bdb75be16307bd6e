import HealthSafety.Lib.Observer
import HealthSafety.Step.Acquire

/-!
# The panel

What an observer of HS can tell who sees its calls, the start of `HS_AppInit` and which
command handlers it enters: the four switches, which tables are loaded, and three counters.
`Panel.step` reads them off the log.  The calls alone would not do: with an application
monitor table that is not there `HS_EnableAppMonCmd` is counted and stops without a call, and
so does a housekeeping request, uncounted, without the event monitor table.  So besides the
calls `Panel.step` reads two marks, `.boot` and `.handler`, and no other.

`AppData.panel` is what `HS_AppData` says.  `panelObserver` moreover says which labels it
accepts: a monitor acts only while its switch is on, a message action is sent only while
its table is loaded, a housekeeping packet shows the panel, and the loss of a table is
reported when it is owed.

A function `Traces P` if it does what the panel says, as long as `P` holds of the panel.
The rules below are those of the other laws, with one more for a label and the change that
it tells (`Traces.emit_modify`, `Traces.modify_emit`, `told`).
-/

namespace HealthSafety

open Lib

variable {cfg : Config}

/-! ### What can be read off the log -/

@[ext]
structure Panel where
  appMon : SwitchState
  eventMon : SwitchState
  aliveness : SwitchState
  cpuHog : SwitchState
  loaded : TableId → SwitchState
  /-- The table whose loss the next call has to report. -/
  owed : Option TableId
  cmdCount : UInt8
  cmdErrCount : UInt8
  msgActExec : UInt32

/-- The states of the four tables. -/
def AppData.loaded (s : AppData cfg) : TableId → SwitchState
  | .amt => s.appMonLoaded
  | .emt => s.eventMonLoaded
  | .mat => s.msgActsState
  | .xct => s.exeCountState

/-- The panel of `HS_AppData`. -/
def AppData.panel (s : AppData cfg) : Panel where
  appMon := s.currentAppMonState
  eventMon := s.currentEventMonState
  aliveness := s.currentAlivenessState
  cpuHog := s.currentCPUHogState
  loaded := s.loaded
  owed := none
  cmdCount := s.cmdCount
  cmdErrCount := s.cmdErrCount
  msgActExec := s.msgActExec

/-- The event that reports the loss of a table. -/
def TableId.lostEvent : TableId → EventId
  | .amt => .appmonGetaddrErr
  | .emt => .eventmonGetaddrErr
  | .mat => .msgactsGetaddrErr
  | .xct => .execountGetaddrErr

/-- The event that reports that a table could not be loaded from its file. -/
def TableId.loadEvent : TableId → EventId
  | .amt => .amtLdErr
  | .emt => .emtLdErr
  | .mat => .matLdErr
  | .xct => .xctLdErr

/-- The table whose loss an event reports. -/
def EventId.lost : EventId → Option TableId
  | .appmonGetaddrErr => some .amt
  | .eventmonGetaddrErr => some .emt
  | .msgactsGetaddrErr => some .mat
  | .execountGetaddrErr => some .xct
  | _ => none

/-- The table whose loss a label reports. -/
def Label.lost : Label cfg → Option TableId
  | .call (.sendEvent eid _ _) => eid.lost
  | _ => none

namespace Panel

/-- The panel after a table could not be loaded. -/
def unload (p : Panel) (tbl : TableId) : Panel :=
  { p with loaded := Function.update p.loaded tbl .disabled }

/-- The loss of the table is to be reported: it is loaded, or the monitor that needs it is
switched on. -/
def expects (p : Panel) : TableId → Prop
  | .amt => p.loaded .amt = .enabled ∨ p.appMon = .enabled
  | .emt => p.loaded .emt = .enabled ∨ p.eventMon = .enabled
  | .mat => p.loaded .mat = .enabled
  | .xct => p.loaded .xct = .enabled

instance (p : Panel) (tbl : TableId) : Decidable (p.expects tbl) := by
  cases tbl <;> unfold expects <;> infer_instance

/-- The panel after `CFE_TBL_GetAddress`. -/
def afterAddress (p : Panel) (tbl : TableId) (status : Status) : Panel :=
  { p with
    loaded := Function.update p.loaded tbl (loadedState status)
    owed := if status < success ∧ p.expects tbl then some tbl else none }

/-- The panel after an event. -/
def afterEvent (p : Panel) : EventId → Panel
  | .enableAppmonDbg => { p with appMon := .enabled }
  | .disableAppmonDbg => { p with appMon := .disabled }
  | .disableAppmonErr => { p with appMon := .disabled }
  | .appmonGetaddrErr => { p.unload .amt with appMon := .disabled, owed := none }
  | .enableEventmonDbg => { p with eventMon := .enabled, cmdCount := p.cmdCount + 1 }
  | .disableEventmonDbg => { p with eventMon := .disabled, cmdCount := p.cmdCount + 1 }
  | .disableEventmonErr => { p with eventMon := .disabled }
  | .eventmonGetaddrErr => { p.unload .emt with eventMon := .disabled, owed := none }
  | .msgactsGetaddrErr => { p.unload .mat with owed := none }
  | .execountGetaddrErr => { p.unload .xct with owed := none }
  | .enableAlivenessDbg => { p with aliveness := .enabled }
  | .disableAlivenessDbg => { p with aliveness := .disabled }
  | .enableCpuhogDbg => { p with cpuHog := .enabled }
  | .disableCpuhogDbg => { p with cpuHog := .disabled }
  | .amtLdErr => p.unload .amt
  | .emtLdErr => p.unload .emt
  | .matLdErr => p.unload .mat
  | .xctLdErr => p.unload .xct
  | .eventmonLongSub | .eventmonShortSub | .eventmonLongUnsub | .eventmonShortUnsub |
    .ccErr | .midErr | .cmdLenErr => { p with cmdErrCount := p.cmdErrCount + 1 }
  | _ => p

/-- The panel after a command handler has started; the event monitor commands are counted
when they have succeeded. -/
def afterHandler (p : Panel) : Handler → Panel
  | .sendHk | .enableEventMon | .disableEventMon => p
  | .reset => { p with cmdCount := 0, cmdErrCount := 0, msgActExec := 0 }
  | _ => { p with cmdCount := p.cmdCount + 1 }

/-- The panel after a label: a call, the start of `HS_AppInit` or the entry of a handler. -/
def step (p : Panel) : Label cfg → Panel
  | .call (.sendEvent eid _ _) => p.afterEvent eid
  | .call (.getAddress tbl status) => p.afterAddress tbl status
  | .call (.transmitMsg _ _) => { p with msgActExec := p.msgActExec + 1 }
  | .mark .boot => (initialData cfg).panel
  | .mark (.handler h) => p.afterHandler h
  | _ => p

/-- The packet shows the panel. -/
structure Shows (p : Panel) (q : HkTlmPayload cfg) : Prop where
  cmdCount : q.cmdCount = p.cmdCount
  cmdErrCount : q.cmdErrCount = p.cmdErrCount
  appMon : q.currentAppMonState = p.appMon
  eventMon : q.currentEventMonState = p.eventMon
  aliveness : q.currentAlivenessState = p.aliveness
  cpuHog : q.currentCPUHogState = p.cpuHog
  msgActExec : q.msgActExec = p.msgActExec
  xct : q.statusFlags &&& 0x01 ≠ 0 ↔ p.loaded .xct = .enabled
  mat : q.statusFlags &&& 0x02 ≠ 0 ↔ p.loaded .mat = .enabled
  amt : q.statusFlags &&& 0x04 ≠ 0 ↔ p.loaded .amt = .enabled
  emt : q.statusFlags &&& 0x08 ≠ 0 ↔ p.loaded .emt = .enabled

/-- The panel permits a label. -/
def permits (p : Panel) : Label cfg → Prop
  | .call (.sendEvent .cpumonHoggingErr _ _) => p.cpuHog = .enabled
  | .call .printf => p.aliveness = .enabled
  | .call (.transmitMsg _ _) => p.loaded .mat = .enabled
  | .call (.transmitHk q) => p.Shows q
  | .mark (.amtAction _) => p.appMon = .enabled
  | .mark (.emtAction _) => p.eventMon = .enabled
  | _ => True

end Panel

/-- What is owed is reported at once, and nothing else is reported. -/
def panelObserver (cfg : Config) : Observer Panel (Label cfg) where
  step p x := p.step x
  accepts p x := x.lost = p.owed ∧ p.permits x

/-! ### Labels of no interest -/

/-- The event changes nothing on the panel and is always permitted. -/
def EventId.idle : EventId → Bool
  | .enableAppmonDbg | .disableAppmonDbg | .disableAppmonErr | .appmonGetaddrErr |
    .enableEventmonDbg | .disableEventmonDbg | .disableEventmonErr | .eventmonGetaddrErr |
    .msgactsGetaddrErr | .execountGetaddrErr | .enableAlivenessDbg | .disableAlivenessDbg |
    .enableCpuhogDbg | .disableCpuhogDbg | .amtLdErr | .emtLdErr | .matLdErr | .xctLdErr |
    .eventmonLongSub | .eventmonShortSub | .eventmonLongUnsub | .eventmonShortUnsub |
    .ccErr | .midErr | .cmdLenErr | .cpumonHoggingErr => false
  | _ => true

/-- The label changes nothing on the panel and is always permitted. -/
def Label.idle : Label cfg → Bool
  | .call (.sendEvent eid _ _) => eid.idle
  | .call (.getAddress _ _) | .call (.transmitMsg _ _) | .call (.transmitHk _) |
    .call .printf => false
  | .mark .boot | .mark (.amtAction _) | .mark (.emtAction _) => false
  | .mark (.handler .sendHk) | .mark (.handler .enableEventMon) |
    .mark (.handler .disableEventMon) => true
  | .mark (.handler _) => false
  | _ => true

theorem EventId.idle_spec {eid : EventId} (h : eid.idle = true) (type : EventType)
    (args : List EvtArg) (p : Panel) : eid.lost = none ∧ p.afterEvent eid = p ∧
      p.permits (.call (.sendEvent eid type args) : Label cfg) := by
  cases eid <;> first | exact ⟨rfl, rfl, trivial⟩ | cases h

/-- Nothing is owed. -/
def Panel.Settled (p : Panel) : Prop := p.owed = none

theorem AppData.panel_settled (s : AppData cfg) : s.panel.Settled := rfl

theorem Label.ignored {x : Label cfg} (h : x.idle = true) :
    (panelObserver cfg).Ignores Panel.Settled x := by
  intro p hp
  have hp : none = p.owed := hp.symm
  cases x with
  | call c =>
    cases c with
    | sendEvent eid type args =>
      obtain ⟨hlost, hstep, hperm⟩ := @EventId.idle_spec cfg eid h type args p
      exact ⟨⟨hlost.trans hp, hperm⟩, hstep⟩
    | getAddress | transmitMsg | transmitHk | printf => cases h
    | _ => exact ⟨⟨hp, trivial⟩, rfl⟩
  | mark m =>
    cases m with
    | boot | amtAction | emtAction => cases h
    | handler c => cases c <;> first | exact ⟨⟨hp, trivial⟩, rfl⟩ | cases h
    | _ => exact ⟨⟨hp, trivial⟩, rfl⟩

/-! ### Programs that do what the panel says -/

/-- As long as `P` holds of the panel, `m` logs what the panel permits and leaves the panel
that its log tells. -/
def Traces {α : Type} (P : Panel → Prop) (m : HsM cfg α) (s : AppData cfg) : Prop :=
  Moves ((panelObserver cfg).Follows P AppData.panel) m s

/-- Any panel. -/
def Panel.Any (_ : Panel) : Prop := True

namespace Traces

variable {α β ι : Type} {P : Panel → Prop} {s : AppData cfg}

theorem law (P : Panel → Prop) : Law ((panelObserver cfg).Follows P (@AppData.panel cfg)) :=
  Observer.Follows.law _ _ _

theorem pure (a : α) (s : AppData cfg) : Traces P (pure a : HsM cfg α) s :=
  Moves.pure (law P) a s

theorem halt (e : Stop) (s : AppData cfg) : Traces P (halt e : HsM cfg α) s :=
  Moves.stop (law P) e s

theorem bind {m : HsM cfg α} {f : α → HsM cfg β} (hm : Traces P m s)
    (hf : ∀ a t, Traces P (f a) t) : Traces P (m >>= f) s :=
  Moves.bind (law P) hm fun a _ => hf a _

theorem get_bind {f : AppData cfg → HsM cfg β} (h : Traces P (f s) s) :
    Traces P (appData >>= f) s := Moves.get_bind h

theorem ite {c : Prop} {_ : Decidable c} {m m' : HsM cfg α} (h : c → Traces P m s)
    (h' : ¬ c → Traces P m' s) : Traces P (if c then m else m') s := Moves.ite h h'

theorem when {c : Prop} {_ : Decidable c} {m : HsM cfg Unit} (h : c → Traces P m s) :
    Traces P (Prog.when c m) s := Moves.when (law P) h

theorem each {body : ι → HsM cfg Unit} (xs : List ι) (h : ∀ x s, Traces P (body x) s)
    (s : AppData cfg) : Traces P (Prog.each xs body) s :=
  Moves.each (law P) xs (fun x _ => h x) s

theorem fold {body : β → ι → HsM cfg β} (xs : List ι) (h : ∀ b x s, Traces P (body b x) s)
    (b : β) (s : AppData cfg) : Traces P (Prog.fold body b xs) s :=
  Moves.fold (law P) xs (fun x _ b => h b x) b s

theorem idle {x : Label cfg} (h : x.idle = true) (s : AppData cfg) : Traces P (Prog.emit x) s :=
  Observer.follows_emit s.panel_settled (Label.ignored h)

theorem modify {f : AppData cfg → AppData cfg} (h : (f s).panel = s.panel) :
    Traces P (modifyApp f) s := Observer.follows_modify h

theorem event {eid : EventId} (h : eid.idle = true) (type : EventType) (args : List EvtArg)
    (s : AppData cfg) : Traces P (sendEvent eid type args) s :=
  idle (x := .call (.sendEvent eid type args)) h s

/-- A change that the panel does not show, where the state matters afterwards. -/
theorem modify_bind {f : AppData cfg → AppData cfg} {g : Unit → HsM cfg α}
    (h : (f s).panel = s.panel) (hg : Traces P (g ()) (f s)) : Traces P (modifyApp f >>= g) s :=
  Moves.bind (law P) (modify h) fun _ _ => hg

/-- A label, and the change it tells. -/
theorem emit_modify {x : Label cfg} {f : AppData cfg → AppData cfg} {rest : HsM cfg α}
    (hlost : x.lost = none) (hperm : P s.panel → s.panel.permits x)
    (hstep : (f s).panel = s.panel.step x) (hP : P s.panel → P (s.panel.step x))
    (hrest : Traces P rest (f s)) :
    Traces P (Prog.emit x >>= fun _ => modifyApp f >>= fun _ => rest) s := by
  unfold Traces Moves
  rw [Prog.emit_bind, Prog.modify_bind]
  refine Observer.Follows.cons (fun hs => ⟨hlost, hperm hs⟩) hstep.symm (fun hs => ?_) hrest
  rw [hstep]
  exact hP hs

/-- A change, and the label that tells it. -/
theorem modify_emit {x : Label cfg} {f : AppData cfg → AppData cfg} (hlost : x.lost = none)
    (hperm : P s.panel → s.panel.permits x) (hstep : (f s).panel = s.panel.step x)
    (hP : P s.panel → P (s.panel.step x)) :
    Traces P (modifyApp f >>= fun _ => Prog.emit x) s := by
  unfold Traces Moves
  rw [Prog.modify_bind]
  refine Observer.Follows.cons (fun hs => ⟨hlost, hperm hs⟩) hstep.symm (fun hs => ?_)
    ((law P).nil (f s))
  rw [hstep]
  exact hP hs

/-- A label that is permitted here and tells no change. -/
theorem emit {x : Label cfg} (hlost : x.lost = none) (hperm : P s.panel → s.panel.permits x)
    (hstep : s.panel.step x = s.panel) : Traces P (Prog.emit x) s := by
  refine Observer.Follows.cons (u := s) (fun hs => ⟨hlost, hperm hs⟩) hstep id ?_
  exact (law P).nil s

/-- What is done as long as `Q` holds is done from a panel with `Q`. -/
theorem inside {Q : Panel → Prop} {m : HsM cfg α} (h : Traces Q m s) (hs : Q s.panel) :
    Traces Panel.Any m s :=
  Observer.Follows.mono h (fun _ => hs) fun _ _ => trivial

end Traces

/-- One label, and the panel it tells. -/
theorem told {x : Label cfg} {s u : AppData cfg} (hlost : x.lost = none)
    (hperm : s.panel.permits x) (hstep : s.panel.step x = u.panel) :
    (panelObserver cfg).Follows Panel.Any AppData.panel s [x] u :=
  Observer.Follows.cons (u := u) (fun _ => ⟨hlost, hperm⟩) hstep id ((Traces.law _).nil u)

/-- Labels of no interest, from a state that looks the same. -/
theorem told_idle {s u : AppData cfg} {l : List (Label cfg)} (hl : ∀ x ∈ l, x.idle = true)
    (hpanel : u.panel = s.panel) :
    (panelObserver cfg).Follows Panel.Any AppData.panel s l u :=
  .of_ignored s.panel_settled (fun x hx => Label.ignored (hl x hx)) hpanel

end HealthSafety
