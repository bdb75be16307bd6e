import HealthSafety.System.Traces

/-!
# What the telemetry tells

The calls of HS, with the start of `HS_AppInit` and the handlers that it enters, tell
everything that is on its panel.  In every run of `HS_AppMain`, whatever the environment
answers:

* the switches, the flags of the tables and the counters are at any time what the calls
  made and the handlers entered so far say, and every housekeeping packet shows just that
  (`telemetry_true`);
* a monitor acts, aliveness is printed and hogging is reported only if the last event
  about the switch was one that turns it on (`acts_only_while_on`);
* the loss of a table is reported with the call that follows the first acquisition that
  fails, and not again until the table is back or its monitor is switched on
  (`loss_reported_once`).
-/

namespace HealthSafety

open Lib

variable {cfg : Config}

/-! ### The log of a run -/

/-- A run begins with a fresh `HS_AppData`, and from there on its log is the panel's. -/
theorem appMain_log (timeOut : Status) (i : MainIn cfg) (n : Nat) (s : AppData cfg) :
    ∃ l, (appMain timeOut i n s).log = .mark .boot :: l ∧
      (panelObserver cfg).Accepts (initialData cfg).panel l ∧
      (panelObserver cfg).after (initialData cfg).panel l = (appMain timeOut i n s).state.panel := by
  have hboot : [.mark .boot] <+: (appMain timeOut i n s).log := by
    have hinit : [.mark .boot] <+: (appInit i.init s).log := by
      rw [appInit, Prog.emit_bind]
      exact ⟨_, rfl⟩
    refine hinit.trans (List.IsPrefix.trans ?_ (Prog.bind_log_begins _ _ s))
    exact Prog.bind_log_begins _ _ s
  obtain ⟨l, hl⟩ := hboot
  obtain ⟨hacc, hafter, -⟩ := appMain_traces timeOut i n s trivial
  rw [← hl] at hacc hafter
  exact ⟨l, hl.symm, hacc.2, hafter⟩

/-- What holds of the panel before each label that the panel permits. -/
theorem along_of_permits {P : List (Label cfg) → Label cfg → Prop} (timeOut : Status)
    (i : MainIn cfg) (n : Nat) (s : AppData cfg) (hboot : P [] (.mark .boot))
    (h : ∀ before x, x.lost = ((panelObserver cfg).after (initialData cfg).panel before).owed →
      ((panelObserver cfg).after (initialData cfg).panel before).permits x →
      P (.mark .boot :: before) x) : Along P (appMain timeOut i n s).log := by
  obtain ⟨l, hl, hacc, -⟩ := appMain_log timeOut i n s
  intro before x after heq
  rw [hl] at heq
  cases before with
  | nil =>
    obtain ⟨rfl, -⟩ := List.cons.inj heq
    exact hboot
  | cons y before =>
    obtain ⟨rfl, rfl⟩ := List.cons.inj heq
    obtain ⟨hlost, hperm⟩ := hacc.at
    exact h before x hlost hperm

/-! ### The packets -/

/-- The log `l`, read with any panel `p` to start with, tells what `HS_AppData` says.  Of the
log only the calls, the start of `HS_AppInit` and the entries of the handlers are read
(`Panel.step`). -/
structure TelemetryTrue (p : Panel) (l : List (Label cfg)) (t : AppData cfg) : Prop where
  /-- In the end it tells its panel. -/
  state : (panelObserver cfg).after p l = t.panel
  /-- Each packet shows the panel that the log before it tells. -/
  packets : Along (fun before x => ∀ q, x = .call (.transmitHk q) →
    ((panelObserver cfg).after p before).Shows q) l

/-- **The calls of HS and the handlers it enters tell its switches, its tables and its counters,
and the housekeeping packets show them.** -/
theorem telemetry_true (timeOut : Status) (i : MainIn cfg) (n : Nat) (s : AppData cfg) (p : Panel) :
    TelemetryTrue p (appMain timeOut i n s).log (appMain timeOut i n s).state := by
  refine ⟨?_, along_of_permits timeOut i n s (fun q hq => by cases hq) fun before x _ hperm q hq => ?_⟩
  · obtain ⟨l, hl, -, hafter⟩ := appMain_log timeOut i n s
    rw [hl]
    exact hafter
  · subst hq
    exact hperm

/-! ### The switches -/

/-- What is switched on and off. -/
inductive Gate
  | appMon
  | eventMon
  | aliveness
  | cpuHog
  deriving DecidableEq

namespace Gate

def switch (p : Panel) : Gate → SwitchState
  | .appMon => p.appMon
  | .eventMon => p.eventMon
  | .aliveness => p.aliveness
  | .cpuHog => p.cpuHog

/-- The state `HS_AppInit` gives the switch. -/
def initial (cfg : Config) : Gate → SwitchState
  | .appMon => cfg.appMonDefaultState
  | .eventMon => cfg.eventMonDefaultState
  | .aliveness => cfg.alivenessDefaultState
  | .cpuHog => cfg.cpuHogDefaultState

/-- What may be done only while the switch is on. -/
def acts : Gate → Label cfg → Prop
  | .appMon, .mark (.amtAction _) => True
  | .eventMon, .mark (.emtAction _) => True
  | .aliveness, .call .printf => True
  | .cpuHog, .call (.sendEvent .cpumonHoggingErr _ _) => True
  | _, _ => False

/-- The event that reports the switch turned on. -/
def onEvent : Gate → EventId
  | .appMon => .enableAppmonDbg
  | .eventMon => .enableEventmonDbg
  | .aliveness => .enableAlivenessDbg
  | .cpuHog => .enableCpuhogDbg

/-- The events that report the switch turned off. -/
def offEvents : Gate → List EventId
  | .appMon => [.disableAppmonDbg, .disableAppmonErr, .appmonGetaddrErr]
  | .eventMon => [.disableEventmonDbg, .disableEventmonErr, .eventmonGetaddrErr]
  | .aliveness => [.disableAlivenessDbg]
  | .cpuHog => [.disableCpuhogDbg]

/-- The switch is turned on, by a command or by `HS_AppInit`. -/
def turnsOn (g : Gate) : Label cfg → Prop
  | .call (.sendEvent eid _ _) => eid = g.onEvent
  | .mark .boot => g.initial cfg = .enabled
  | _ => False

/-- The switch is turned off, by a command, with a lost table or by `HS_AppInit`. -/
def turnsOff (g : Gate) : Label cfg → Prop
  | .call (.sendEvent eid _ _) => eid ∈ g.offEvents
  | .mark .boot => g.initial cfg = .disabled
  | _ => False

def On (g : Gate) (p : Panel) : Prop := g.switch p = .enabled

theorem onEvent_not_mem (g : Gate) : g.onEvent ∉ g.offEvents := by cases g <;> decide

theorem switch_afterEvent (g : Gate) (p : Panel) (eid : EventId) :
    g.switch (p.afterEvent eid) =
      if eid = g.onEvent then .enabled else if eid ∈ g.offEvents then .disabled else g.switch p := by
  cases g <;> cases eid <;> rfl

theorem switch_afterHandler (g : Gate) (p : Panel) (h : Handler) :
    g.switch (p.afterHandler h) = g.switch p := by
  cases g <;> cases h <;> rfl

/-- Only events and `HS_AppInit` touch the switch. -/
theorem switch_step (g : Gate) (p : Panel) {x : Label cfg} (hon : ¬ g.turnsOn x)
    (hoff : ¬ g.turnsOff x) : g.switch (p.step x) = g.switch p := by
  cases x with
  | call c =>
    cases c with
    | sendEvent eid type args =>
      have hon : eid ≠ g.onEvent := hon
      have hoff : eid ∉ g.offEvents := hoff
      show g.switch (p.afterEvent eid) = g.switch p
      rw [switch_afterEvent, if_neg hon, if_neg hoff]
    | getAddress | transmitMsg => cases g <;> rfl
    | _ => rfl
  | mark m =>
    cases m with
    | boot =>
      exfalso
      cases h : g.initial cfg with
      | enabled => exact hon h
      | disabled => exact hoff h
    | handler h => exact g.switch_afterHandler p h
    | _ => rfl

theorem switch_turnsOff (g : Gate) (p : Panel) {x : Label cfg} (hoff : g.turnsOff x) :
    g.switch (p.step x) = .disabled := by
  cases x with
  | call c =>
    cases c with
    | sendEvent eid type args =>
      have hoff : eid ∈ g.offEvents := hoff
      have hne : eid ≠ g.onEvent := by
        rintro rfl
        exact g.onEvent_not_mem hoff
      show g.switch (p.afterEvent eid) = .disabled
      rw [switch_afterEvent, if_neg hne, if_pos hoff]
    | _ => exact hoff.elim
  | mark m =>
    cases m with
    | boot => cases g <;> exact hoff
    | _ => exact hoff.elim

/-- Only what turns the switch on leaves it on when it was off. -/
theorem turnsOn_of_on {g : Gate} {p : Panel} {x : Label cfg} (hp : ¬ g.On p)
    (hx : g.On (p.step x)) : g.turnsOn x := by
  refine Classical.byContradiction fun hon => ?_
  by_cases hoff : g.turnsOff x
  · rw [On, g.switch_turnsOff p hoff] at hx
    cases hx
  · rw [On, g.switch_step p hon hoff] at hx
    exact hp hx

/-- The switch is on only since it was turned on. -/
theorem On.since {g : Gate} {l : List (Label cfg)}
    (h : g.On ((panelObserver cfg).after (initialData cfg).panel l)) :
    Since g.turnsOn g.turnsOff (.mark .boot :: l) := by
  have hnot (p : Panel) (x : Label cfg) (hx : g.On (p.step x)) (hoff : g.turnsOff x) :
      g.turnsOn x := by
    rw [On, g.switch_turnsOff p hoff] at hx
    cases hx
  rcases since_of_after (fun _ _ => turnsOn_of_on) hnot h with hl | ⟨hinit, hl⟩
  · exact Since.append (l := [.mark .boot]) hl
  · refine ⟨[], .mark .boot, l, rfl, ?_, hl⟩
    cases g <;> exact hinit

theorem on_of_acts {g : Gate} {p : Panel} {x : Label cfg} (hx : g.acts x) (hperm : p.permits x) :
    g.On p := by
  cases x with
  | call c =>
    cases c with
    | sendEvent eid type args =>
      cases g with
      | cpuHog => cases eid <;> first | exact hperm | exact hx.elim
      | _ => exact hx.elim
    | printf =>
      cases g with
      | aliveness => exact hperm
      | _ => exact hx.elim
    | _ => cases g <;> exact hx.elim
  | mark m =>
    cases m with
    | amtAction =>
      cases g with
      | appMon => exact hperm
      | _ => exact hx.elim
    | emtAction =>
      cases g with
      | eventMon => exact hperm
      | _ => exact hx.elim
    | _ => cases g <;> exact hx.elim

end Gate

/-- **A monitor acts, aliveness is printed and hogging is reported only if the last event about
the switch turned it on.** -/
theorem acts_only_while_on (timeOut : Status) (i : MainIn cfg) (n : Nat) (s : AppData cfg)
    (g : Gate) : Along (fun before x => g.acts x → Since g.turnsOn g.turnsOff before)
      (appMain timeOut i n s).log := by
  refine along_of_permits timeOut i n s (fun h => ?_) fun before x _ hperm hx => ?_
  · cases g <;> exact h.elim
  · exact (Gate.on_of_acts hx hperm).since

/-! ### Lost tables -/

/-- The address of the table is there. -/
def TableId.found (tbl : TableId) : Label cfg → Prop
  | .call (.getAddress t status) => t = tbl ∧ success ≤ status
  | .mark .boot => True
  | _ => False

/-- The address of the table is not there, or an event says that it is missing. -/
def TableId.missing (tbl : TableId) : Label cfg → Prop
  | .call (.getAddress t status) => t = tbl ∧ status < success
  | .call (.sendEvent eid _ _) => eid = tbl.loadEvent ∨ eid.lost = some tbl
  | _ => False

/-- The monitor that needs the table is switched on. -/
def TableId.wanted : TableId → Label cfg → Prop
  | .amt, x => Gate.appMon.turnsOn x
  | .emt, x => Gate.eventMon.turnsOn x
  | _, _ => False

/-- The losses of a table are reported. -/
structure LossReported (tbl : TableId) (l : List (Label cfg)) : Prop where
  /-- The first acquisition that fails is reported by the next call. -/
  atOnce : ∀ before status after, l = before ++ .call (.getAddress tbl status) :: after →
    status < success → Since tbl.found tbl.missing before →
    ∃ x rest, after = x :: rest ∧ x.lost = some tbl
  /-- A report follows an acquisition that failed, and since the table was there, or its
  monitor was switched on, there was no other. -/
  once : Along (fun before x => x.lost = some tbl → ∃ earlier status,
    before = earlier ++ [.call (.getAddress tbl status)] ∧ status < success ∧
      Since (fun y => tbl.found y ∨ tbl.wanted y) (fun y => y.lost = some tbl) earlier) l

theorem loaded_found {tbl : TableId} (p : Panel) {x : Label cfg} (h : tbl.found x) :
    (p.step x).loaded tbl = .enabled := by
  cases x with
  | call c =>
    cases c with
    | getAddress t status =>
      obtain ⟨rfl, hst⟩ := h
      show Function.update p.loaded t (loadedState status) t = .enabled
      rw [Function.update_self, loadedState_eq_enabled]
      exact hst
    | _ => exact h.elim
  | mark m =>
    cases m with
    | boot => cases tbl <;> rfl
    | _ => exact h.elim

theorem loaded_afterEvent (tbl : TableId) (p : Panel) (eid : EventId) :
    (p.afterEvent eid).loaded tbl =
      if eid = tbl.loadEvent ∨ eid.lost = some tbl then .disabled else p.loaded tbl := by
  cases tbl <;> cases eid <;> rfl

/-- Only an acquisition of the table, an event about it and `HS_AppInit` touch its flag. -/
theorem loaded_step {tbl : TableId} (p : Panel) {x : Label cfg} (hfound : ¬ tbl.found x)
    (hmissing : ¬ tbl.missing x) : (p.step x).loaded tbl = p.loaded tbl := by
  cases x with
  | call c =>
    cases c with
    | sendEvent eid type args =>
      have hmissing : ¬ (eid = tbl.loadEvent ∨ eid.lost = some tbl) := hmissing
      show (p.afterEvent eid).loaded tbl = p.loaded tbl
      rw [loaded_afterEvent, if_neg hmissing]
    | getAddress t status =>
      show Function.update p.loaded t (loadedState status) tbl = p.loaded tbl
      refine Function.update_of_ne ?_ _ _
      rintro rfl
      rcases Int.lt_or_le status success with hneg | hpos
      · exact hmissing ⟨rfl, hneg⟩
      · exact hfound ⟨rfl, hpos⟩
    | _ => rfl
  | mark m =>
    cases m with
    | boot => exact absurd trivial hfound
    | handler h => cases h <;> rfl
    | _ => rfl

theorem loaded_missing {tbl : TableId} (p : Panel) {x : Label cfg} (h : tbl.missing x) :
    (p.step x).loaded tbl = .disabled := by
  cases x with
  | call c =>
    cases c with
    | sendEvent eid type args =>
      have h : eid = tbl.loadEvent ∨ eid.lost = some tbl := h
      show (p.afterEvent eid).loaded tbl = .disabled
      rw [loaded_afterEvent, if_pos h]
    | getAddress t status =>
      obtain ⟨rfl, hneg⟩ := h
      show Function.update p.loaded t (loadedState status) t = .disabled
      rw [Function.update_self, loadedState_of_neg hneg]
    | _ => exact h.elim
  | mark m => exact h.elim

/-- Since its address was there, the table counts as loaded. -/
theorem loaded_of_since {tbl : TableId} {l : List (Label cfg)} (h : Since tbl.found tbl.missing l)
    (p : Panel) : ((panelObserver cfg).after p l).loaded tbl = .enabled := by
  refine after_of_since (O := panelObserver cfg) (A := fun p => p.loaded tbl = .enabled)
    (fun p x hx => loaded_found p hx) (fun p x hp hmissing => ?_) h p
  by_cases hfound : tbl.found x
  · exact loaded_found p hfound
  · exact (loaded_step p hfound hmissing).trans hp

theorem Panel.expects_of_loaded {p : Panel} {tbl : TableId} (h : p.loaded tbl = .enabled) :
    p.expects tbl := by
  cases tbl with
  | amt | emt => exact .inl h
  | mat | xct => exact h

/-- A loss is to be reported since the table was there or its monitor was switched on, or as
long as before. -/
theorem expects_step {tbl : TableId} {p : Panel} {x : Label cfg} (hp : ¬ p.expects tbl)
    (hx : (p.step x).expects tbl) : tbl.found x ∨ tbl.wanted x := by
  have hloaded (h : (p.step x).loaded tbl = .enabled) : tbl.found x := by
    refine Classical.byContradiction fun hfound => ?_
    by_cases hmissing : tbl.missing x
    · rw [loaded_missing p hmissing] at h
      cases h
    · rw [loaded_step p hfound hmissing] at h
      exact hp (Panel.expects_of_loaded h)
  cases tbl with
  | amt =>
    rcases hx with hx | hx
    · exact .inl (hloaded hx)
    · exact .inr (Gate.turnsOn_of_on (g := .appMon) (fun h => hp (.inr h)) hx)
  | emt =>
    rcases hx with hx | hx
    · exact .inl (hloaded hx)
    · exact .inr (Gate.turnsOn_of_on (g := .eventMon) (fun h => hp (.inr h)) hx)
  | mat | xct => exact .inl (hloaded hx)

theorem Label.lost_eq_some {tbl : TableId} {x : Label cfg} (h : x.lost = some tbl) :
    ∃ eid type args, x = .call (.sendEvent eid type args) ∧ eid.lost = some tbl := by
  cases x with
  | call c =>
    cases c with
    | sendEvent eid type args => exact ⟨eid, type, args, rfl, h⟩
    | _ => cases h
  | mark m => cases h

theorem EventId.lost_eq_some {tbl : TableId} {eid : EventId} (h : eid.lost = some tbl) :
    eid = tbl.lostEvent := by
  cases eid <;> cases h <;> rfl

/-- A report leaves nothing to report. -/
theorem expects_lost {tbl : TableId} {x : Label cfg} (h : x.lost = some tbl) (p : Panel) :
    ¬ (p.step x).expects tbl := by
  obtain ⟨eid, type, args, rfl, heid⟩ := Label.lost_eq_some h
  rw [EventId.lost_eq_some heid]
  cases tbl <;> simp [Panel.step, TableId.lostEvent, Panel.afterEvent, Panel.unload, Panel.expects]

theorem owed_afterEvent (p : Panel) (eid : EventId) :
    (p.afterEvent eid).owed = if eid.lost = none then p.owed else none := by
  cases eid <;> rfl

/-- A report is owed right after an acquisition that failed, and no longer. -/
theorem owed_step {tbl : TableId} {p : Panel} {x : Label cfg} (hacc : x.lost = p.owed)
    (h : (p.step x).owed = some tbl) :
    ∃ status, x = .call (.getAddress tbl status) ∧ status < success ∧ p.expects tbl := by
  cases x with
  | call c =>
    cases c with
    | sendEvent eid type args =>
      have hacc : eid.lost = p.owed := hacc
      have h : (p.afterEvent eid).owed = some tbl := h
      rw [owed_afterEvent] at h
      split at h
      · rw [← hacc, ‹eid.lost = none›] at h
        cases h
      · cases h
    | getAddress t status =>
      have h : (if status < success ∧ p.expects t then some t else none) = some tbl := h
      split at h
      · cases h
        exact ⟨status, rfl, ‹_ ∧ _›⟩
      · cases h
    | _ =>
      have hacc : none = p.owed := hacc
      cases hacc.trans h
  | mark m =>
    have hacc : none = p.owed := hacc
    cases m with
    | boot => cases h
    | handler c =>
      have h : p.owed = some tbl := by cases c <;> exact h
      cases hacc.trans h
    | _ => cases hacc.trans h

/-- **The loss of a table is reported at once, and once.** -/
theorem loss_reported_once (timeOut : Status) (i : MainIn cfg) (n : Nat) (s : AppData cfg)
    (tbl : TableId) : LossReported tbl (appMain timeOut i n s).log := by
  obtain ⟨l, hl, hacc, hafter⟩ := appMain_log timeOut i n s
  rw [hl]
  refine ⟨fun before status after heq hneg hsince => ?_, fun before x after heq hx => ?_⟩
  · cases before with
    | nil => cases heq
    | cons y before =>
      rw [List.cons_append] at heq
      obtain ⟨rfl, rfl⟩ := List.cons.inj heq
      have hloaded := loaded_of_since hsince (initialData cfg).panel
      rw [Observer.after_cons] at hloaded
      generalize hp : (panelObserver cfg).after (initialData cfg).panel before = p
      have howed : (p.afterAddress tbl status).owed = some tbl := by
        rw [← hp]
        exact if_pos ⟨hneg, Panel.expects_of_loaded hloaded⟩
      rw [Observer.accepts_append, hp] at hacc
      rw [Observer.after_append, hp] at hafter
      cases after with
      | nil =>
        have hnone := congrArg Panel.owed hafter
        exact absurd (howed.symm.trans hnone) (by simp [AppData.panel])
      | cons x rest => exact ⟨x, rest, rfl, hacc.2.2.1.1.trans howed⟩
  · cases before with
    | nil =>
      obtain ⟨rfl, -⟩ := List.cons.inj heq
      cases hx
    | cons y before =>
      rw [List.cons_append] at heq
      obtain ⟨rfl, rfl⟩ := List.cons.inj heq
      have howed := hx.symm.trans hacc.at.1
      rcases List.eq_nil_or_concat before with rfl | ⟨earlier, z, rfl⟩
      · cases howed
      · rw [List.concat_eq_append] at howed hacc ⊢
        rw [List.append_assoc] at hacc
        rw [Observer.after_append] at howed
        obtain ⟨status, rfl, hneg, hexp⟩ := owed_step hacc.at.1 howed.symm
        refine ⟨.mark .boot :: earlier, status, rfl, hneg, ?_⟩
        have hoff (p : Panel) (x : Label cfg) (hx : (p.step x).expects tbl)
            (hlost : x.lost = some tbl) : tbl.found x ∨ tbl.wanted x :=
          absurd hx (expects_lost hlost p)
        rcases since_of_after (O := panelObserver cfg) (A := fun p => p.expects tbl)
          (fun p x => expects_step) hoff hexp with h | ⟨-, h⟩
        · exact Since.append (l := [.mark .boot]) h
        · exact ⟨[], .mark .boot, earlier, rfl, .inl trivial, h⟩

end HealthSafety
