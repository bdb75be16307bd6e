import HealthSafety.System.EventPipe

/-!
# Messages are accepted, executed and counted

`HS_AppPipe` runs the handler of a message if its id, its function code and its length
fit (`Fits`).  Any other message is reported and, unless it is a housekeeping request,
counted in `CmdErrCount`; nothing else happens.

`Tally` counts the messages since the counters were last cleared, by an accepted reset
command or by `HS_AppInit`.  In every reachable state `CmdCount` and `CmdErrCount` are
the numbers of those executed and those refused, modulo 256
(`commands_accounted`).
-/

namespace HealthSafety

open Lib

variable {cfg : Config} {s : AppData cfg} {w : World cfg}

/-! ### Acceptance -/

/-- The message is one for the handler: its id, function code and length are right. -/
def Fits (cfg : Config) (msg : CmdMsg) (h : Handler) : Prop :=
  (h = .sendHk ∧ msg.msgId = cfg.sendHkMid ∧ msg.size = cfg.cmdHeaderSize) ∨
    (msg.msgId = cfg.cmdMid ∧ cmdHandlers[msg.fcnCode.toNat]? = some h ∧ msg.size = h.size cfg)

theorem accepted_iff_fits {msg : CmdMsg} {h : Handler} :
    accepted cfg msg = some h ↔ Fits cfg msg h := by
  have hmid := cfg.verified.mid_ne
  unfold Fits accepted selectHandler
  by_cases hk : msg.msgId = cfg.sendHkMid
  · have hc : msg.msgId ≠ cfg.cmdMid := fun h => hmid (hk.symm.trans h)
    rw [if_pos hk, Option.filter_eq_some_iff]
    constructor
    · intro ⟨hsel, hsize⟩
      cases hsel
      exact .inl ⟨rfl, hk, (of_decide_eq_true hsize).symm⟩
    · rintro (⟨rfl, -, hsize⟩ | ⟨hid, -⟩)
      · exact ⟨rfl, decide_eq_true hsize.symm⟩
      · exact absurd hid hc
  · by_cases hc : msg.msgId = cfg.cmdMid
    · rw [if_neg hk, if_pos hc, Option.filter_eq_some_iff]
      constructor
      · intro ⟨hsel, hsize⟩
        exact .inr ⟨hc, hsel, (of_decide_eq_true hsize).symm⟩
      · rintro (⟨-, hid, -⟩ | ⟨-, hsel, hsize⟩)
        · exact absurd hid hk
        · exact ⟨hsel, decide_eq_true hsize.symm⟩
    · rw [if_neg hk, if_neg hc]
      refine iff_of_false (by simp) ?_
      rintro (⟨-, hid, -⟩ | ⟨hid, -⟩)
      · exact hk hid
      · exact hc hid

/-- A handler first says that it runs. -/
theorem handler_log (msg : CmdMsg) (r : CmdReplies cfg) (h : Handler) (s : AppData cfg) :
    ∃ l, (h.run msg r s).log = .mark (.handler h) :: l := by
  cases h <;> exact ⟨_, congrArg Out.log (Prog.emit_bind _ _ s)⟩

/-- What a message without a handler leaves: one error event, and the error counter one up
unless it is a housekeeping request. -/
def Rejects (msg : CmdMsg) (m : HsM cfg Unit) (s : AppData cfg) : Prop :=
  ∃ eid args, m s = ⟨.ok (),
    { s with cmdErrCount := if msg.msgId = cfg.sendHkMid then s.cmdErrCount else s.cmdErrCount + 1 },
    [.call (.sendEvent eid .error args)]⟩

theorem rejectMsg_rejects {msg : CmdMsg} (hk : msg.msgId ≠ cfg.sendHkMid) (s : AppData cfg) :
    Rejects msg (rejectMsg msg) s := by
  unfold Rejects
  rw [if_neg hk, rejectMsg]
  by_cases hc : msg.msgId = cfg.cmdMid
  · rw [if_pos hc, Prog.emit_bind]
    exact ⟨_, _, rfl⟩
  · rw [if_neg hc, countCmdErr, Prog.modify_bind]
    exact ⟨_, _, rfl⟩

theorem verifyMsgLength_rejects {msg : CmdMsg} {n : Nat} (hn : n ≠ msg.size) (s : AppData cfg) :
    Rejects msg (verifyMsgLength msg n >>= fun _ => pure ()) s := by
  unfold Rejects
  rw [Prog.discard_apply, verifyMsgLength, if_pos hn]
  by_cases hk : msg.msgId = cfg.sendHkMid
  · rw [if_pos hk, if_pos hk, Prog.emit_bind]
    exact ⟨_, _, rfl⟩
  · rw [if_neg hk, if_neg hk, Prog.emit_bind, countCmdErr, Prog.modify_bind]
    exact ⟨_, _, rfl⟩

/-- A message without a handler is reported once and at most counted. -/
theorem appPipe_rejects {msg : CmdMsg} (hm : accepted cfg msg = none) (r : CmdReplies cfg)
    (s : AppData cfg) : Rejects msg (appPipe msg r) s := by
  rw [appPipe_eq]
  cases hsel : selectHandler cfg msg with
  | none =>
    refine rejectMsg_rejects (fun hk => ?_) s
    rw [selectHandler, if_pos hk] at hsel
    cases hsel
  | some h =>
    have hsize : h.size cfg ≠ msg.size := by
      intro hs
      simp [accepted, hsel, hs] at hm
    show Rejects msg (verifyDispatch msg (h.size cfg) (h.run msg r)) s
    rw [verifyDispatch_of_ne hsize]
    exact verifyMsgLength_rejects hsize s

/-! ### Execution -/

/-- A bus call that failed. -/
def Label.busFailure : Label cfg → Bool
  | .call (.subscribeEx _ status) => decide (status ≠ success)
  | .call (.unsubscribe _ status) => decide (status ≠ success)
  | _ => false

/-- The message is executed successfully: it has a handler, and no bus call of it fails. -/
def Executed (msg : CmdMsg) (r : CmdReplies cfg) (s : AppData cfg) : Prop :=
  accepted cfg msg ≠ none ∧ ∀ x ∈ (appPipe msg r s).log, x.busFailure = false

instance (msg : CmdMsg) (r : CmdReplies cfg) (s : AppData cfg) : Decidable (Executed msg r s) :=
  inferInstanceAs (Decidable (_ ∧ _))

/-- The counters after a message that was executed. -/
def countedOk (n : UInt8 × UInt8) : UInt8 × UInt8 := (n.1 + 1, n.2)

/-- The counters after a message that was refused. -/
def countedErr (n : UInt8 × UInt8) : UInt8 × UInt8 := (n.1, n.2 + 1)

theorem busFailure_eq_false {x : Label cfg} {k : Kind} (hx : k ∈ x.kinds) (hk : k ≠ .eventMon) :
    x.busFailure = false := by
  cases x with
  | mark m => rfl
  | call c =>
    cases c with
    | subscribeEx | unsubscribe => exact absurd (List.mem_singleton.mp hx) hk
    | _ => rfl

/-- A handler that counts the command and then does something else. -/
theorem countCmd_cmdCounts {h : Handler} {rest : HsM cfg Unit} (ks : List Kind)
    (hrest : ∀ s, Does ks rest s) (hks : ∀ k ∈ ks, k.keepsCmdCounts = true) (s : AppData cfg) :
    ((mark (.handler h) >>= fun _ => countCmd >>= fun _ => rest) s).state.cmdCounts =
      countedOk s.cmdCounts := by
  rw [Prog.emit_bind, countCmd, Prog.modify_bind]
  exact (hrest _).cmdCounts_eq hks

theorem switchCmd_cmdCounts {h : Handler} {set : AppData cfg → AppData cfg} {eid : EventId}
    (hset : ∀ s, (set s).cmdCounts = s.cmdCounts) (s : AppData cfg) :
    (switchCmd h set eid s).state.cmdCounts = countedOk s.cmdCounts := by
  rw [switchCmd, Prog.emit_bind, countCmd, Prog.modify_bind, Prog.modify_bind]
  exact hset _

theorem Does.no_busFailure {α : Type} {ks : List Kind} {m : HsM cfg α} (h : Does ks m s)
    (hks : ∀ k ∈ ks, k ≠ .eventMon) : ∀ x ∈ (m s).log, x.busFailure = false := by
  intro x hx
  obtain ⟨k, hk, hkx⟩ := h.kind_of_mem hx
  exact busFailure_eq_false hkx (hks k hk)

section

variable {target : SwitchState} {first second : Status → Call cfg}

/-- The bus calls of an event monitor command report success if none of them failed. -/
theorem eventMonCalls_apply
    (hfirst : ∀ st, (Label.call (first st)).busFailure = decide (st ≠ success))
    (hsecond : ∀ st, (Label.call (second st)).busFailure = decide (st ≠ success))
    (firstStatus secondStatus : Status) (firstEid secondEid : EventId) (s : AppData cfg) :
    ∃ status l, eventMonCalls target
        (bothCalls first second firstStatus secondStatus firstEid secondEid) s =
          ⟨.ok status, s, l⟩ ∧
      ((∀ x ∈ l, x.busFailure = false) ↔ status = success) := by
  by_cases hs : s.currentEventMonState = target
  · refine ⟨success, [], by simp [eventMonCalls, hs], ?_⟩
    simp
  · refine ⟨if firstStatus = success then secondStatus else firstStatus,
      bothLog first second firstStatus secondStatus firstEid secondEid, ?_, ?_⟩
    · rw [eventMonCalls, Prog.get_bind, if_neg hs, bothCalls_apply]
    · have hevent (eid : EventId) (args : List EvtArg) :
          (Label.call (.sendEvent eid .error args) : Label cfg).busFailure = false := rfl
      by_cases h₁ : firstStatus = success
      · by_cases h₂ : secondStatus = success <;> simp [bothLog, h₁, h₂, hfirst, hsecond]
      · simp [bothLog, h₁, hfirst]

end

/-- An event monitor command is executed if none of its bus calls failed, else it counts as an
error. -/
theorem eventMonCmd_cmdCounts {h : Handler} {target : SwitchState} {calls : HsM cfg Status}
    {eid : EventId} (hcalls : ∃ status l, eventMonCalls target calls s = ⟨.ok status, s, l⟩ ∧
      ((∀ x ∈ l, x.busFailure = false) ↔ status = success)) :
    (eventMonCmd h target calls eid s).state.cmdCounts =
      if ∀ x ∈ (eventMonCmd h target calls eid s).log, x.busFailure = false then
        countedOk s.cmdCounts
      else countedErr s.cmdCounts := by
  obtain ⟨status, l, hrun, hl⟩ := hcalls
  by_cases hst : status = success
  · subst hst
    rw [eventMonCmd_done hrun, if_pos]
    · rfl
    · intro x hx
      rcases List.mem_cons.mp hx with rfl | hx
      · rfl
      · rcases List.mem_append.mp hx with hx | hx
        · exact hl.mpr rfl x hx
        · rw [List.mem_singleton.mp hx]
          rfl
  · rw [eventMonCmd_refused hst hrun, if_neg]
    · rfl
    · intro hall
      refine mt hl.mp hst fun x hx => hall x ?_
      exact List.mem_cons_of_mem _ (List.mem_append_left _ hx)

theorem enableAppMonCmd_cmdCounts (s : AppData cfg) :
    (enableAppMonCmd s).state.cmdCounts = countedOk s.cmdCounts := by
  refine countCmd_cmdCounts (.appMonSwitch :: refreshKinds) (fun s => ?_) (by decide) s
  refine Does.bind ((appMonStatusRefresh_does s).mono (by decide)) fun _ s => ?_
  exact Does.bind (Does.modify (.appMonSwitch _) (by decide)) fun _ s => Does.plain rfl

theorem resetResetsPerformedCmd_cmdCounts (s : AppData cfg) :
    (resetResetsPerformedCmd s).state.cmdCounts = countedOk s.cmdCounts := by
  refine countCmd_cmdCounts [.quiet, .budget] (fun s => ?_) (by decide) s
  exact Does.get_bind (Does.bind ((setCDSData_does _ _ s).mono (by decide)) fun _ s =>
    Does.plain rfl)

theorem setMaxResetsCmd_cmdCounts (maxResets : UInt16) (s : AppData cfg) :
    (setMaxResetsCmd maxResets s).state.cmdCounts = countedOk s.cmdCounts := by
  refine countCmd_cmdCounts [.quiet, .budget] (fun s => ?_) (by decide) s
  refine Does.get_bind (Does.bind ((setCDSData_does _ _ s).mono (by decide)) fun _ s => ?_)
  exact Does.get_bind (Does.plain rfl)

/-- A handler other than that of a housekeeping request and of the reset command counts its
command, as an error if a bus call failed. -/
theorem handler_cmdCounts {h : Handler} (hk : h ≠ .sendHk) (hr : h ≠ .reset) (msg : CmdMsg)
    (r : CmdReplies cfg) (s : AppData cfg) :
    (h.run msg r s).state.cmdCounts =
      if ∀ x ∈ (h.run msg r s).log, x.busFailure = false then countedOk s.cmdCounts
      else countedErr s.cmdCounts := by
  have hquiet (hks : ∀ k ∈ h.kinds, k ≠ .eventMon)
      (hrun : (h.run msg r s).state.cmdCounts = countedOk s.cmdCounts) :
      (h.run msg r s).state.cmdCounts =
        if ∀ x ∈ (h.run msg r s).log, x.busFailure = false then countedOk s.cmdCounts
        else countedErr s.cmdCounts := by
    rw [if_pos ((handler_does msg r h s).no_busFailure hks), hrun]
  cases h with
  | sendHk => exact absurd rfl hk
  | reset => exact absurd rfl hr
  | enableEventMon =>
    exact eventMonCmd_cmdCounts (eventMonCalls_apply (fun _ => rfl) (fun _ => rfl) _ _ _ _ s)
  | disableEventMon =>
    exact eventMonCmd_cmdCounts (eventMonCalls_apply (fun _ => rfl) (fun _ => rfl) _ _ _ _ s)
  | noop =>
    exact hquiet (by decide) (countCmd_cmdCounts [.quiet] (fun s => Does.plain rfl)
      (by decide) s)
  | enableAppMon => exact hquiet (by decide) (enableAppMonCmd_cmdCounts s)
  | resetResetsPerformed => exact hquiet (by decide) (resetResetsPerformedCmd_cmdCounts s)
  | setMaxResets => exact hquiet (by decide) (setMaxResetsCmd_cmdCounts _ s)
  | _ => exact hquiet (by decide) (switchCmd_cmdCounts (fun _ => by rfl) s)

/-- A message that is no housekeeping request and no accepted reset command counts, as executed
or as an error. -/
theorem appPipe_cmdCounts {msg : CmdMsg} (hk : msg.msgId ≠ cfg.sendHkMid)
    (hr : accepted cfg msg ≠ some .reset) (r : CmdReplies cfg) (s : AppData cfg) :
    (appPipe msg r s).state.cmdCounts =
      if Executed msg r s then countedOk s.cmdCounts else countedErr s.cmdCounts := by
  rcases hacc : accepted cfg msg with _ | h
  · obtain ⟨eid, args, hrun⟩ := appPipe_rejects hacc r s
    rw [if_neg (fun hex : Executed msg r s => hex.1 hacc), hrun, if_neg hk]
    rfl
  · have hfail : Executed msg r s ↔ ∀ x ∈ (h.run msg r s).log, x.busFailure = false := by
      unfold Executed
      rw [appPipe_of_accepted hacc, hacc]
      exact and_iff_right (Option.some_ne_none h)
    have hne : h ≠ .sendHk := by
      rintro rfl
      rcases accepted_iff_fits.mp hacc with ⟨-, hid, -⟩ | ⟨-, hsel, -⟩
      · exact hk hid
      · have hmem := List.mem_of_getElem? hsel
        revert hmem
        decide
    have hcount := handler_cmdCounts hne (fun heq => hr (heq ▸ hacc)) msg r s
    rw [appPipe_of_accepted hacc, hcount]
    simp only [hfail]

/-- A housekeeping request counts neither way. -/
theorem appPipe_cmdCounts_hk {msg : CmdMsg} (hk : msg.msgId = cfg.sendHkMid) (r : CmdReplies cfg)
    (s : AppData cfg) : (appPipe msg r s).state.cmdCounts = s.cmdCounts := by
  cases hacc : accepted cfg msg with
  | none =>
    obtain ⟨eid, args, hrun⟩ := appPipe_rejects hacc r s
    rw [hrun, if_pos hk]
  | some h =>
    have hh : h = .sendHk := by
      rcases accepted_iff_fits.mp hacc with ⟨rfl, -⟩ | ⟨hid, -⟩
      · rfl
      · exact absurd (hk.symm.trans hid) cfg.verified.mid_ne
    rw [appPipe_of_accepted hacc, hh]
    exact (sendHkCmd_does r.hk s).cmdCounts_eq (by decide)

/-! ### Runs -/

/-- The messages since the command counters were cleared, without the housekeeping
requests. -/
structure Tally where
  messages : Nat
  executed : Nat
  refused : Nat

/-- The tally after one operation from `s`. -/
def Tally.after (y : Tally) (s : AppData cfg) : Op cfg → Tally
  | .appInit _ => ⟨0, 0, 0⟩
  | .appPipe msg r =>
    if msg.msgId = cfg.sendHkMid then y
    else if accepted cfg msg = some .reset then ⟨0, 0, 0⟩
    else if Executed msg r s then ⟨y.messages + 1, y.executed + 1, y.refused⟩
    else ⟨y.messages + 1, y.executed, y.refused + 1⟩
  | _ => y

theorem Tally.after_appPipe (y : Tally) (s : AppData cfg) (msg : CmdMsg) (r : CmdReplies cfg) :
    y.after s (.appPipe msg r) =
      if msg.msgId = cfg.sendHkMid then y
      else if accepted cfg msg = some .reset then ⟨0, 0, 0⟩
      else if Executed msg r s then ⟨y.messages + 1, y.executed + 1, y.refused⟩
      else ⟨y.messages + 1, y.executed, y.refused + 1⟩ := rfl

/-- The reachable worlds, with the tally of the messages on the way. -/
inductive Processed : Tally → World cfg → Prop
  | init (w : World cfg) (i : InitIn cfg) : Processed ⟨0, 0, 0⟩ (w.after (.appInit i))
  | op {y : Tally} {w : World cfg} (h : Processed y w) (op : Op cfg)
      (hop : op.isInit = true ∨ w.up = true) : Processed (y.after w.app op) (w.after op)

/-- The counters of HS agree with the tally. -/
structure Tally.Agrees (y : Tally) (s : AppData cfg) : Prop where
  cmdCount : s.cmdCount = UInt8.ofNat y.executed
  cmdErrCount : s.cmdErrCount = UInt8.ofNat y.refused
  messages : y.messages = y.executed + y.refused

theorem Tally.Agrees.of_cmdCounts {y : Tally} {s t : AppData cfg} (h : y.Agrees s)
    (ht : t.cmdCounts = s.cmdCounts) : y.Agrees t := by
  obtain ⟨hcmd, herr⟩ := Prod.mk.inj ht
  exact ⟨hcmd.trans h.cmdCount, herr.trans h.cmdErrCount, h.messages⟩

theorem appInit_agrees (i : InitIn cfg) (s : AppData cfg) :
    Tally.Agrees ⟨0, 0, 0⟩ (appInit i s).state := by
  rw [appInit_eq]
  have hstart : Tally.Agrees ⟨0, 0, 0⟩ (initialData cfg) := ⟨rfl, rfl, rfl⟩
  exact hstart.of_cmdCounts ((initRest_does i _).cmdCounts_eq (by decide))

theorem resetCmd_agrees (s : AppData cfg) : Tally.Agrees ⟨0, 0, 0⟩ (resetCmd s).state := by
  rw [resetCmd, Prog.emit_bind, resetCounters, Prog.modify_bind]
  exact ⟨rfl, rfl, rfl⟩

theorem appPipe_agrees {y : Tally} (h : y.Agrees s) (msg : CmdMsg) (r : CmdReplies cfg) :
    (y.after s (.appPipe msg r)).Agrees (appPipe msg r s).state := by
  rw [Tally.after_appPipe]
  by_cases hk : msg.msgId = cfg.sendHkMid
  · rw [if_pos hk]
    exact h.of_cmdCounts (appPipe_cmdCounts_hk hk r s)
  by_cases hr : accepted cfg msg = some .reset
  · rw [if_neg hk, if_pos hr, appPipe_of_accepted hr]
    exact resetCmd_agrees s
  rw [if_neg hk, if_neg hr]
  have hcount := appPipe_cmdCounts hk hr r s
  have hmsg := h.messages
  by_cases hex : Executed msg r s
  · rw [if_pos hex] at hcount ⊢
    obtain ⟨hcmd, herr⟩ := Prod.mk.inj hcount
    refine ⟨?_, herr.trans h.cmdErrCount, by simp only; omega⟩
    rw [hcmd]
    simp [AppData.cmdCounts, h.cmdCount]
  · rw [if_neg hex] at hcount ⊢
    obtain ⟨hcmd, herr⟩ := Prod.mk.inj hcount
    refine ⟨hcmd.trans h.cmdCount, ?_, by simp only; omega⟩
    rw [herr]
    simp [AppData.cmdCounts, h.cmdErrCount]

theorem Tally.Agrees.after {y : Tally} (h : y.Agrees s) (op : Op cfg) :
    (y.after s op).Agrees (op.run s).state := by
  cases op with
  | appInit i =>
    rw [Op.run_appInit]
    exact appInit_agrees i s
  | appPipe msg r => exact appPipe_agrees h msg r
  | _ => exact h.of_cmdCounts ((Op.does _ s).cmdCounts_eq (by simp only [Op.kinds]; decide))

theorem Processed.agrees {y : Tally} {w : World cfg} (h : Processed y w) : y.Agrees w.app := by
  induction h with
  | init w i =>
    rw [World.app_after_appInit]
    exact appInit_agrees i w.app
  | op _ op _ ih => exact ih.after op

/-- What HS does with the messages on its command pipe. -/
structure MessagesAccounted (cfg : Config) : Prop where
  /-- A handler starts exactly on the messages that fit it. -/
  starts : ∀ (msg : CmdMsg) (r : CmdReplies cfg) (s : AppData cfg) (h : Handler),
    (appPipe msg r s).log.head? = some (.mark (.handler h)) ↔ Fits cfg msg h
  /-- And it is all that happens. -/
  runs : ∀ (msg : CmdMsg) (r : CmdReplies cfg) (h : Handler), Fits cfg msg h →
    appPipe msg r = h.run msg r
  /-- Any other message is reported in one event and changes the error counter at most. -/
  rejects : ∀ (msg : CmdMsg) (r : CmdReplies cfg) (s : AppData cfg), (∀ h, ¬ Fits cfg msg h) →
    ∃ eid args, appPipe msg r s = ⟨.ok (),
      { s with cmdErrCount :=
          if msg.msgId = cfg.sendHkMid then s.cmdErrCount else s.cmdErrCount + 1 },
      [.call (.sendEvent eid .error args)]⟩
  /-- In every reachable state the counters are those of the tally. -/
  counts : ∀ (y : Tally) (w : World cfg), Processed y w →
    w.app.cmdCount = UInt8.ofNat y.executed ∧ w.app.cmdErrCount = UInt8.ofNat y.refused ∧
    (w.app.cmdCount.toNat + w.app.cmdErrCount.toNat) % 256 = y.messages % 256

theorem appPipe_starts_iff (msg : CmdMsg) (r : CmdReplies cfg) (s : AppData cfg) (h : Handler) :
    (appPipe msg r s).log.head? = some (.mark (.handler h)) ↔ Fits cfg msg h := by
  rw [← accepted_iff_fits]
  cases hacc : accepted cfg msg with
  | none =>
    obtain ⟨eid, args, hrun⟩ := appPipe_rejects hacc r s
    rw [hrun]
    simp
  | some h' =>
    obtain ⟨l, hl⟩ := handler_log msg r h' s
    rw [appPipe_of_accepted hacc, hl]
    simp

theorem Processed.counts {y : Tally} (h : Processed y w) :
    w.app.cmdCount = UInt8.ofNat y.executed ∧ w.app.cmdErrCount = UInt8.ofNat y.refused ∧
      (w.app.cmdCount.toNat + w.app.cmdErrCount.toNat) % 256 = y.messages % 256 := by
  obtain ⟨hcmd, herr, hmsg⟩ := h.agrees
  refine ⟨hcmd, herr, ?_⟩
  rw [hcmd, herr, UInt8.toNat_ofNat', UInt8.toNat_ofNat', hmsg]
  omega

/-- **A handler runs exactly on the messages whose id, function code and length fit it; any
other message is only reported and counted; and in every reachable state the two counters
are the numbers of messages executed and refused since they were cleared, modulo 256.** -/
theorem commands_accounted (cfg : Config) : MessagesAccounted cfg where
  starts := appPipe_starts_iff
  runs _ r _ hfit := appPipe_of_accepted (accepted_iff_fits.mpr hfit) r
  rejects msg r s hno := by
    have hacc : accepted cfg msg = none := by
      rw [Option.eq_none_iff_forall_ne_some]
      exact fun h hacc => hno h (accepted_iff_fits.mp hacc)
    exact appPipe_rejects hacc r s
  counts _ _ h := h.counts

/-- A NOOP command, and a message with a function code that no command has. -/
def noopRequest : CmdMsg := ⟨0x18AE, 0, 8, 0⟩
def unknownRequest : CmdMsg := ⟨0x18AE, 12, 8, 0⟩

theorem unknownRequest_unfit (h : Handler) : ¬ Fits .small unknownRequest h := by
  intro hfit
  cases accepted_iff_fits.mpr hfit

/-- A command is executed, a bus call of another one fails, and a message is refused. -/
theorem commands_accounted_mixed :
    let noop : Op .small := .appPipe noopRequest (.ok _)
    let disable : Op .small := .appPipe disableEventMonRequest (unsubReplies (-1) success)
    let unknown : Op .small := .appPipe unknownRequest (.ok _)
    let w₁ := startedWorld.after noop
    let w₂ := w₁.after disable
    let w₃ := w₂.after unknown
    w₁.app = (noopCmd startedWorld.app).state ∧
      (disable.run w₁.app).log.head? = some (.mark (.handler .disableEventMon)) ∧
      w₃.app = { w₂.app with cmdErrCount := w₂.app.cmdErrCount + 1 } ∧
      w₃.app.cmdCount = 1 ∧ w₃.app.cmdErrCount = 2 := by
  intro noop disable unknown w₁ w₂ w₃
  have hacc := commands_accounted .small
  have h₀ : Processed _ startedWorld := (Processed.init (World.off .small) _).op _ (.inr rfl)
  have h₃ := ((h₀.op noop (.inr rfl)).op disable (.inr rfl)).op unknown (.inr rfl)
  have hnoop := hacc.runs noopRequest (.ok _) .noop (.inr ⟨rfl, rfl, rfl⟩)
  have hstart := (hacc.starts disableEventMonRequest (unsubReplies (-1) success) w₁.app
    .disableEventMon).mpr (.inr ⟨rfl, rfl, rfl⟩)
  obtain ⟨eid, args, hunknown⟩ := hacc.rejects unknownRequest (.ok _) w₂.app unknownRequest_unfit
  obtain ⟨hcmd, herr, -⟩ := hacc.counts _ w₃ h₃
  exact ⟨congrArg (fun m => (m startedWorld.app).state) hnoop, hstart,
    congrArg Out.state hunknown, hcmd.trans (by decide +kernel), herr.trans (by decide +kernel)⟩

end HealthSafety
