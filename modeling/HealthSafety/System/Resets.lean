import HealthSafety.Lib.Trace
import HealthSafety.System.World

/-!
# The processor-reset budget

Both monitors may reset the processor, as long as `ResetsPerformed` is below
`MaxResets`.  The count is kept in `HS_AppData` and, across a reset, in the
critical data store.  As long as the store works, the two agree whenever HS is up
(`Synced`); a processor reset action writes the store before it makes the call,
and `HS_AppInit` takes the data back from the store.

So between two commands that set the budget, over any number of reboots, the
calls to `CFE_ES_ResetCFE` are counted exactly and stay within the budget
(`resets_within_budget`).
-/

namespace HealthSafety

open Lib

variable {cfg : Config} {s t : AppData cfg} {l : List (Label cfg)} {w w' : World cfg}

def Label.isReset : Label cfg → Bool
  | .call (.resetCFE _) => true
  | _ => false

/-- The number of calls to `CFE_ES_ResetCFE`. -/
def resets (l : List (Label cfg)) : Nat := l.countP Label.isReset

theorem resets_append (l l' : List (Label cfg)) : resets (l ++ l') = resets l + resets l' :=
  List.countP_append

/-! ### Single acts -/

/-- The kinds of acts that leave the critical data and the store alone. -/
def Kind.keepsCDS : Kind → Bool
  | .reset => false
  | .budget => false
  | .cds => false
  | .boot => false
  | _ => true

theorem Act.cds_eq {k : Kind} (hk : k.keepsCDS = true) (h : Act k s l t) :
    t.cdsData = s.cdsData ∧ t.cdsState = s.cdsState := by
  cases h with
  | aside h => exact ⟨h.cdsData, h.cdsState⟩
  | reset | setCDS | restoreCDS | cdsOff | boot => cases hk
  | _ => exact ⟨rfl, rfl⟩

theorem storeStep_eq {k : Kind} (hk : k.keepsCDS = true) {x : Label cfg} (hx : k ∈ x.kinds)
    (store : Option CDSData) : storeStep store x = store := by
  unfold storeStep
  split
  · simp only [Label.kinds, List.mem_cons, List.not_mem_nil, or_false] at hx
    rcases hx with rfl | rfl <;> cases hk
  · rfl

theorem isReset_eq {k : Kind} (hk : k ≠ .reset) {x : Label cfg} (hx : k ∈ x.kinds) :
    x.isReset = false := by
  unfold Label.isReset
  split
  · exact absurd (List.mem_singleton.mp hx) hk
  · rfl

theorem Kind.ne_reset {k : Kind} (hk : k.keepsCDS = true) : k ≠ .reset := by
  rintro rfl
  cases hk

theorem store_eq_of_kinds {ks : List Kind} (hks : ∀ k ∈ ks, k.keepsCDS = true)
    (hl : ∀ x ∈ l, ∃ k ∈ ks, k ∈ x.kinds) (store : Option CDSData) :
    l.foldl storeStep store = store := by
  refine foldl_fixed (fun x hx b => ?_) store
  obtain ⟨k, hk, hkx⟩ := hl x hx
  exact storeStep_eq (hks k hk) hkx b

/-- Only a processor reset action calls `CFE_ES_ResetCFE`. -/
theorem resets_eq_zero_of_kinds {ks : List Kind} (hks : ∀ k ∈ ks, k ≠ .reset)
    (hl : ∀ x ∈ l, ∃ k ∈ ks, k ∈ x.kinds) : resets l = 0 := by
  refine List.countP_eq_zero.mpr fun x hx => ?_
  obtain ⟨k, hk, hkx⟩ := hl x hx
  simp [isReset_eq (hks k hk) hkx]

theorem copyLog_store (hs : s.cdsState = .enabled) (data : CDSData) (store : Option CDSData) :
    (copyLog s data).foldl storeStep store = some data := by
  rw [copyLog, if_pos hs]
  rfl

theorem CDSData.of_not_corrupt (a b : UInt16) : ¬ (CDSData.of a b).corrupt := by
  simp [CDSData.corrupt, CDSData.of]

/-- `HS_AppData` agrees with the store. -/
structure Synced (store : Option CDSData) (s : AppData cfg) : Prop where
  store : store = some s.cdsData
  on : s.cdsState = .enabled
  valid : ¬ s.cdsData.corrupt

/-- Apart from `HS_AppInit`, HS changes the critical data only together with the
store. -/
theorem Act.synced {k : Kind} (hcds : k ≠ .cds) (hboot : k ≠ .boot) (h : Act k s l t)
    {store : Option CDSData} (hs : Synced store s) : Synced (l.foldl storeStep store) t := by
  by_cases hk : k.keepsCDS = true
  · obtain ⟨hdata, hstate⟩ := h.cds_eq hk
    have hks : ∀ k' ∈ [k], k'.keepsCDS = true := by simpa using hk
    have hstore := store_eq_of_kinds hks
      (fun x hx => ⟨k, List.mem_singleton_self k, h.mem_kinds hx⟩) store
    exact ⟨by rw [hstore, hdata]; exact hs.store, hstate.trans hs.on, hdata ▸ hs.valid⟩
  · cases h with
    | reset h =>
      refine ⟨?_, hs.on, CDSData.of_not_corrupt _ _⟩
      rw [resetLog, List.foldl_append, copyLog_store hs.on]
      rfl
    | setCDS => exact ⟨copyLog_store hs.on _ _, hs.on, CDSData.of_not_corrupt _ _⟩
    | restoreCDS | cdsOff => exact absurd rfl hcds
    | boot => exact absurd rfl hboot
    | _ => exact absurd rfl hk

theorem Does.synced {α : Type} {ks : List Kind} {m : HsM cfg α} (h : Does ks m s)
    (hks : ∀ k ∈ ks, k ≠ .cds ∧ k ≠ .boot) {store : Option CDSData} (hs : Synced store s) :
    Synced ((m s).log.foldl storeStep store) (m s).state := by
  let R (s : AppData cfg) (l : List (Label cfg)) (t : AppData cfg) : Prop :=
    ∀ store, Synced store s → Synced (l.foldl storeStep store) t
  have hR : Law R := by
    refine ⟨fun s store hs => hs, fun hst htu store hs => ?_⟩
    rw [List.foldl_append]
    exact htu _ (hst store hs)
  exact h.law hR (fun k hk s l t ha store hs => ha.synced (hks k hk).1 (hks k hk).2 hs) store hs

/-! ### Initialization -/

/-- The critical data store works: `HS_AppInit` gets as far as registering it, the
registration says whether there is an image, and the restore gives the image. -/
def StoreWorks (w : World cfg) : Op cfg → Prop
  | .appInit i => i.evsRegister = success ∧
      match w.store with
      | none => i.registerCDS = success
      | some data => i.registerCDS = cfg.cdsAlreadyExists ∧ i.restoreFromCDS.status = success ∧
          i.restoreFromCDS.out = data
  | _ => True

theorem cdsInit_created (r : Reply CDSData) (s : AppData cfg) :
    cdsInit success r s = ⟨.ok (), { s with cdsData := .of 0 (UInt16.ofNat cfg.maxRestartActions) },
      .call .registerCDS :: copyLog s (.of 0 (UInt16.ofNat cfg.maxRestartActions))⟩ := by
  have hne : success ≠ cfg.cdsAlreadyExists := cfg.verified.alreadyExists_ne.symm
  rw [cdsInit, Prog.emit_bind, if_neg hne, if_pos rfl, initializeCDS, setCDSData_apply]

theorem cdsInit_restored {r : Reply CDSData} (hr : r.status = success) (hv : ¬ r.out.corrupt)
    (s : AppData cfg) :
    cdsInit cfg.cdsAlreadyExists r s = ⟨.ok (), { s with cdsData := r.out },
      [.call .registerCDS, .call .restoreFromCDS]⟩ := by
  rw [cdsInit, Prog.emit_bind, if_pos rfl, Prog.emit_bind, Prog.modify_bind, if_pos hr,
    Prog.get_bind, Reply.value_of_success hr, Prog.when_neg hv]
  rfl

theorem cdsInit_corrupt {r : Reply CDSData} (hr : r.status = success) (hv : r.out.corrupt)
    (s : AppData cfg) :
    cdsInit cfg.cdsAlreadyExists r s =
      ⟨.ok (), { s with cdsData := .of 0 (UInt16.ofNat cfg.maxRestartActions) },
        .call .registerCDS :: .call .restoreFromCDS :: .call (.sendEvent .cdsCorruptErr .error []) ::
          copyLog s (.of 0 (UInt16.ofNat cfg.maxRestartActions))⟩ := by
  rw [cdsInit, Prog.emit_bind, if_pos rfl, Prog.emit_bind, Prog.modify_bind, if_pos hr,
    Prog.get_bind, Reply.value_of_success hr, Prog.when_pos hv, Prog.emit_bind, initializeCDS,
    setCDSData_apply]
  rfl

/-- `HS_AppInit` once EVS has taken it: the start, the critical data, the rest. -/
theorem appInit_apply {i : InitIn cfg} (hi : i.evsRegister = success) {t : AppData cfg}
    {l : List (Label cfg)}
    (h : cdsInit i.registerCDS i.restoreFromCDS (initialData cfg) = ⟨.ok (), t, l⟩)
    (s : AppData cfg) :
    (appInit i s).state = (interfaceInit i t).state ∧
      (appInit i s).log =
        .mark .boot :: .call .evsRegister :: (l ++ (interfaceInit i t).log) := by
  rw [appInit, Prog.emit_bind, Prog.modify_bind, Prog.emit_bind, if_neg (not_not.mpr hi),
    Prog.bind_ok h]
  exact ⟨rfl, rfl⟩

/-- Behind the critical data section `HS_AppInit` leaves the critical data alone. -/
theorem interfaceInit_cds (i : InitIn cfg) (t : AppData cfg) (store : Option CDSData) :
    (interfaceInit i t).state.cdsData = t.cdsData ∧ (interfaceInit i t).state.cdsState = t.cdsState ∧
      (interfaceInit i t).log.foldl storeStep store = store ∧ resets (interfaceInit i t).log = 0 := by
  have hd := interfaceInit_does i t
  have hks : ∀ k ∈ acquireKinds, k.keepsCDS = true := by decide
  refine ⟨?_, ?_, ?_, ?_⟩
  · exact hd.keeps AppData.cdsData fun k hk _ _ _ ha => (ha.cds_eq (hks k hk)).1
  · exact hd.keeps AppData.cdsState fun k hk _ _ _ ha => (ha.cds_eq (hks k hk)).2
  · exact store_eq_of_kinds hks (fun x hx => hd.kind_of_mem hx) store
  · exact resets_eq_zero_of_kinds (by decide) fun x hx => hd.kind_of_mem hx

theorem resets_copyLog (s : AppData cfg) (data : CDSData) : resets (copyLog s data) = 0 := by
  refine List.countP_eq_zero.mpr fun x hx => ?_
  simp [mem_copyLog hx, Label.isReset]

theorem initialData_synced {store : Option CDSData} (data : CDSData) (h : store = some data)
    (hv : ¬ data.corrupt) : Synced store { initialData cfg with cdsData := data } :=
  ⟨h, rfl, hv⟩

/-- The critical data section of `HS_AppInit` with a working store. -/
theorem cdsInit_works {i : InitIn cfg} (h : StoreWorks w (.appInit i)) :
    ∃ t l, cdsInit i.registerCDS i.restoreFromCDS (initialData cfg) = ⟨.ok (), t, l⟩ ∧
      Synced (l.foldl storeStep w.store) t ∧ resets l = 0 ∧
      ∀ data, w.store = some data → ¬ data.corrupt → t.cdsData = data := by
  obtain ⟨-, hstore⟩ := h
  have hon : (initialData cfg).cdsState = .enabled := rfl
  have hnew := CDSData.of_not_corrupt 0 (UInt16.ofNat cfg.maxRestartActions)
  have hcopy := copyLog_store hon (.of 0 (UInt16.ofNat cfg.maxRestartActions))
  have hzero := resets_copyLog (initialData cfg) (.of 0 (UInt16.ofNat cfg.maxRestartActions))
  cases hw : w.store with
  | none =>
    rw [hw] at hstore
    rw [hstore, cdsInit_created]
    exact ⟨_, _, rfl, initialData_synced _ (hcopy _) hnew, hzero, fun _ h => by cases h⟩
  | some data =>
    rw [hw] at hstore
    obtain ⟨hreg, hr, rfl⟩ := hstore
    rw [hreg]
    by_cases hv : i.restoreFromCDS.out.corrupt
    · rw [cdsInit_corrupt hr hv]
      refine ⟨_, _, rfl, initialData_synced _ (hcopy (some i.restoreFromCDS.out)) hnew, hzero,
        fun data h hnot => ?_⟩
      rw [← Option.some.inj h] at hnot
      exact absurd hv hnot
    · rw [cdsInit_restored hr hv]
      exact ⟨_, _, rfl, initialData_synced _ rfl hv, rfl, fun data h _ => Option.some.inj h⟩

/-- **A working store and `HS_AppInit` leave HS in agreement with the store; a valid
image is taken as it is.** -/
theorem appInit_synced {i : InitIn cfg} (h : StoreWorks w (.appInit i)) :
    Synced (w.after (.appInit i)).store (w.after (.appInit i)).app ∧
      resets ((Op.appInit i).run w.app).log = 0 ∧
      ∀ data, w.store = some data → ¬ data.corrupt → (w.after (.appInit i)).app.cdsData = data := by
  obtain ⟨t, l, hrun, ht, hzero, hdata⟩ := cdsInit_works h
  obtain ⟨hstate, hlog⟩ := appInit_apply h.1 hrun w.app
  obtain ⟨hc, hon, hstore, hnone⟩ := interfaceInit_cds i t (l.foldl storeStep w.store)
  have hop := Op.run_appInit i w.app
  have happ : (w.after (.appInit i)).app = (interfaceInit i t).state :=
    (World.app_after_appInit w i).trans hstate
  have hst : (w.after (.appInit i)).store = l.foldl storeStep w.store := by
    simp only [World.after, hop, hlog, List.foldl_cons, List.foldl_append, storeStep]
    exact hstore
  refine ⟨⟨?_, ?_, ?_⟩, ?_, ?_⟩
  · rw [hst, happ, hc]
    exact ht.store
  · rw [happ, hon]
    exact ht.on
  · rw [happ, hc]
    exact ht.valid
  · rw [hop]
    simp only [hlog]
    rw [← List.singleton_append, ← List.singleton_append (x := Label.call Call.evsRegister),
      resets_append, resets_append, resets_append, hzero, hnone]
    rfl
  · intro data hw hv
    rw [happ, hc]
    exact hdata data hw hv

/-! ### Before the interval -/

/-- Apart from `HS_AppInit`, no operation restores the critical data or gives the store up. -/
theorem Op.kinds_ne_cds {op : Op cfg} (hop : op.isInit = false) :
    ∀ k ∈ op.kinds, k ≠ .cds ∧ k ≠ .boot := by
  cases op with
  | appInit i => cases hop
  | appPipe msg r =>
    have hall : ∀ k ∈ anyCmdKinds, k ≠ .cds ∧ k ≠ .boot := by decide
    exact fun k hk => hall k (cmdKinds_subset cfg msg hk)
  | _ =>
    simp only [Op.kinds]
    decide

/-- With a working store an operation leaves HS in agreement with it, also when it stops. -/
theorem synced_after {op : Op cfg} (hop : op.isInit = true ∨ w.up = true) (hst : StoreWorks w op)
    (hs : w.up = true → Synced w.store w.app) : Synced (w.after op).store (w.after op).app := by
  cases hinit : op.isInit with
  | true =>
    cases op with
    | appInit i => exact (appInit_synced hst).1
    | _ => cases hinit
  | false =>
    refine (op.does w.app).synced (op.kinds_ne_cds hinit) (hs (hop.resolve_left ?_))
    rw [hinit]
    decide

/-- Whenever HS is up, it agrees with the store. -/
theorem synced_of_run (hw : w.up = false) (h : World.Run StoreWorks w l w')
    (hup : w'.up = true) : Synced w'.store w'.app := by
  refine h.invariant (I := fun w => w.up = true → Synced w.store w.app)
    (fun w op hop hst hs _ => synced_after hop hst hs) (fun hup => ?_) hup
  rw [hw] at hup
  cases hup

/-! ### The interval -/

/-- The operation executes one of the two commands that set the budget. -/
def Op.SetsBudget : Op cfg → Prop
  | .appPipe msg _ => accepted cfg msg = some .resetResetsPerformed ∨
      accepted cfg msg = some .setMaxResets
  | _ => False

/-- `data` was the critical data, and `store` the store, at the start of the interval;
`before` is what was logged since. -/
structure Spent (data : CDSData) (store : Option CDSData) (before : List (Label cfg))
    (s : AppData cfg) : Prop where
  synced : Synced (before.foldl storeStep store) s
  max : s.cdsData.maxResets = data.maxResets
  count : s.cdsData.resetsPerformed.toNat = data.resetsPerformed.toNat + resets before
  le : resets before ≤ data.maxResets.toNat - data.resetsPerformed.toNat

/-- When `CFE_ES_ResetCFE` is called, the watchdog is not serviced any more and the store
holds the count with this reset. -/
def ResetRecorded (data : CDSData) (store : Option CDSData) (before : List (Label cfg))
    (x : Label cfg) : Prop :=
  ∀ flag, x = .call (.resetCFE flag) → flag = .disabled ∧
    ∃ stored, before.foldl storeStep store = some stored ∧
      stored.resetsPerformed.toNat = data.resetsPerformed.toNat + resets before + 1

variable {data : CDSData} {store : Option CDSData}

theorem resetRecorded_of_not_isReset {before : List (Label cfg)} {x : Label cfg}
    (hx : x.isReset = false) : ResetRecorded data store before x := by
  rintro flag rfl
  cases hx

/-- Acts that leave the critical data alone spend nothing. -/
theorem spent_of_keepsCDS {k : Kind} (hk : k.keepsCDS = true) (h : Act k s l t) :
    KeepsAlong (Spent data store) (ResetRecorded data store) s l t := by
  intro before hs
  have hks : ∀ k' ∈ [k], k'.keepsCDS = true := by simpa using hk
  have hl : ∀ x ∈ l, ∃ k' ∈ [k], k' ∈ x.kinds :=
    fun x hx => ⟨k, List.mem_singleton_self k, h.mem_kinds hx⟩
  have hzero : resets (before ++ l) = resets before := by
    rw [resets_append, resets_eq_zero_of_kinds (fun k' hk' => (Kind.ne_reset (hks k' hk'))) hl,
      Nat.add_zero]
  obtain ⟨hdata, -⟩ := h.cds_eq hk
  have hsync := h.synced (by rintro rfl; cases hk) (by rintro rfl; cases hk) hs.synced
  refine ⟨⟨by rwa [List.foldl_append], ?_, ?_, ?_⟩, .of_forall fun x hx _ => ?_⟩
  · rw [hdata, hs.max]
  · rw [hdata, hzero, hs.count]
  · rw [hzero]
    exact hs.le
  · obtain ⟨k', hk', hkx⟩ := hl x hx
    exact resetRecorded_of_not_isReset (isReset_eq (Kind.ne_reset (hks k' hk')) hkx)

theorem resets_resetLog (s : AppData cfg) : resets (resetLog s) = 1 := by
  rw [resetLog, resets_append, resets_copyLog]
  rfl

/-- Below `MaxResets` the count cannot wrap. -/
theorem resetsPerformed_succ (h : s.cdsData.resetsPerformed < s.cdsData.maxResets) :
    (s.cdsData.resetsPerformed + 1).toNat = s.cdsData.resetsPerformed.toNat + 1 := by
  have hlt := UInt16.lt_iff_toNat_lt.mp h
  have hmax := s.cdsData.maxResets.toNat_lt
  rw [UInt16.toNat_add]
  exact Nat.mod_eq_of_lt (by change _ + 1 < 2 ^ 16; omega)

/-- A processor reset action records the reset before it resets. -/
theorem resetLog_recorded {before : List (Label cfg)} (hs : Spent data store before s)
    (h : s.cdsData.resetsPerformed < s.cdsData.maxResets) :
    Along (fun log => ResetRecorded data store (before ++ log)) (resetLog s) := by
  have hlog : resetLog s = (copyLog s (.of (s.cdsData.resetsPerformed + 1) s.cdsData.maxResets) ++
      [.call .taskDelay, .call .writeToSysLog]) ++ [.call (.resetCFE .disabled)] := by
    rw [resetLog, List.append_assoc]
    rfl
  rw [hlog]
  refine .append (.of_forall fun x hx _ => resetRecorded_of_not_isReset ?_) (.single ?_)
  · rcases List.mem_append.mp hx with hx | hx
    · rw [mem_copyLog hx]
      rfl
    · simp only [List.mem_cons, List.not_mem_nil, or_false] at hx
      rcases hx with rfl | rfl <;> rfl
  · rintro flag heq
    cases heq
    refine ⟨rfl, .of (s.cdsData.resetsPerformed + 1) s.cdsData.maxResets, ?_, ?_⟩
    · rw [List.append_nil, List.foldl_append, List.foldl_append, copyLog_store hs.synced.on]
      rfl
    · have hnone : resets (before ++ ((copyLog s
          (.of (s.cdsData.resetsPerformed + 1) s.cdsData.maxResets) ++
            [.call .taskDelay, .call .writeToSysLog]) ++ [])) = resets before := by
        rw [List.append_nil, resets_append, resets_append, resets_copyLog]
        rfl
      rw [hnone, ← hs.count]
      exact resetsPerformed_succ h

/-- A processor reset action spends one and records it first. -/
theorem spent_of_reset (h : s.cdsData.resetsPerformed < s.cdsData.maxResets) :
    KeepsAlong (Spent data store) (ResetRecorded data store) s (resetLog s) s.countReset := by
  intro before hs
  have hlt := UInt16.lt_iff_toNat_lt.mp h
  have hcount := hs.count
  rw [hs.max] at hlt
  have hsync := (Act.reset h).synced (by decide) (by decide) hs.synced
  refine ⟨⟨by rwa [List.foldl_append], hs.max, ?_, ?_⟩, resetLog_recorded hs h⟩
  · rw [resets_append, resets_resetLog, ← Nat.add_assoc, ← hcount]
    exact resetsPerformed_succ h
  · rw [resets_append, resets_resetLog]
    omega

theorem Does.spent {α : Type} {ks : List Kind} {m : HsM cfg α} (h : Does ks m s)
    (hks : ∀ k ∈ ks, k ≠ .budget ∧ k ≠ .cds ∧ k ≠ .boot) :
    KeepsAlong (Spent data store) (ResetRecorded data store) s (m s).log (m s).state := by
  refine h.law (KeepsAlong.law _ _) fun k hk s l t ha => ?_
  by_cases hkeep : k.keepsCDS = true
  · exact spent_of_keepsCDS hkeep ha
  · obtain ⟨hb, hc, hboot⟩ := hks k hk
    cases ha with
    | reset h => exact spent_of_reset h
    | setCDS => exact absurd rfl hb
    | restoreCDS | cdsOff => exact absurd rfl hc
    | boot => exact absurd rfl hboot
    | _ => exact absurd rfl hkeep

/-- A reboot spends nothing: the data come back from the store. -/
theorem spent_of_appInit {i : InitIn cfg} {before : List (Label cfg)} (h : StoreWorks w (.appInit i))
    (hw : w.store = before.foldl storeStep store) (hs : Spent data store before w.app) :
    Spent data store (before ++ ((Op.appInit i).run w.app).log) (w.after (.appInit i)).app ∧
      Along (fun more => ResetRecorded data store (before ++ more))
        ((Op.appInit i).run w.app).log := by
  obtain ⟨hsync, hzero, hdata⟩ := appInit_synced h
  have hsame := hdata _ (hw.trans hs.synced.store) hs.synced.valid
  have hcount : resets (before ++ ((Op.appInit i).run w.app).log) = resets before := by
    rw [resets_append, hzero, Nat.add_zero]
  refine ⟨⟨?_, ?_, ?_, ?_⟩, .of_forall fun x hx _ => ?_⟩
  · rw [List.foldl_append, ← hw]
    exact hsync
  · rw [hsame, hs.max]
  · rw [hsame, hcount, hs.count]
  · rw [hcount]
    exact hs.le
  · refine resetRecorded_of_not_isReset ?_
    simpa using List.countP_eq_zero.mp hzero x hx

/-- The interval, as an invariant of the world and what was logged since its start. -/
theorem Run.spent (h : World.Run (fun w op => StoreWorks w op ∧ ¬ op.SetsBudget) w l w') :
    KeepsAlong (fun before (w : World cfg) =>
        w.store = before.foldl storeStep store ∧ Spent data store before w.app)
      (ResetRecorded data store) w l w' := by
  refine Chain.lift (KeepsAlong.law _ _) ?_ h
  rintro w - - ⟨op, -, ⟨hstore, hbudget⟩, rfl, rfl⟩ before ⟨hw, hs⟩
  have hstore' : (w.after op).store =
      (before ++ (op.run w.app).log).foldl storeStep store := by
    rw [List.foldl_append, ← hw]
    rfl
  suffices h : Spent data store (before ++ (op.run w.app).log) (w.after op).app ∧
      Along (fun more => ResetRecorded data store (before ++ more)) (op.run w.app).log from
    ⟨⟨hstore', h.1⟩, h.2⟩
  cases op with
  | appInit i => exact spent_of_appInit hstore hw hs
  | appPipe msg r =>
    refine (Op.does _ w.app).spent ?_ before hs
    refine forall_mem_cmdKinds (by decide) (by decide) fun hd hacc => ?_
    cases hd with
    | resetResetsPerformed => exact absurd (.inl hacc) hbudget
    | setMaxResets => exact absurd (.inr hacc) hbudget
    | _ => decide
  | _ =>
    refine (Op.does _ w.app).spent ?_ before hs
    simp only [Op.kinds]
    decide

/-- **Between two commands that set the budget, the calls to `CFE_ES_ResetCFE` are within
the budget at the start and counted exactly, over any number of reboots; and each call
is made with its count in the store and the watchdog unserviced.**  The first run
brings HS, from a processor that is off, to the start of the interval. -/
theorem resets_within_budget {w₀ : World cfg} {l₀ : List (Label cfg)} (h₀ : w₀.up = false)
    (hrun₀ : World.Run StoreWorks w₀ l₀ w) (hup : w.up = true)
    (hrun : World.Run (fun w op => StoreWorks w op ∧ ¬ op.SetsBudget) w l w') :
    resets l ≤ w.app.cdsData.maxResets.toNat - w.app.cdsData.resetsPerformed.toNat ∧
    w'.app.cdsData.resetsPerformed.toNat =
      w.app.cdsData.resetsPerformed.toNat + resets l ∧
    ∀ before flag after, l = before ++ .call (.resetCFE flag) :: after →
      flag = .disabled ∧ ∃ stored, before.foldl storeStep w.store = some stored ∧
        stored.resetsPerformed.toNat =
          w.app.cdsData.resetsPerformed.toNat + resets before + 1 := by
  have hsync := synced_of_run h₀ hrun₀ hup
  have hstart : Spent w.app.cdsData w.store [] w.app :=
    ⟨hsync, rfl, rfl, Nat.zero_le _⟩
  obtain ⟨⟨-, hspent⟩, halong⟩ := Run.spent hrun [] ⟨rfl, hstart⟩
  refine ⟨hspent.le, hspent.count, fun before flag after hl => ?_⟩
  exact halong before _ after hl flag rfl

/-- Tables with an event that resets the processor. -/
def resetOnEvent : AcquireIn .small :=
  .ok (fun _ => ⟨[], 0, 0, 0⟩) (fun _ => ⟨[65], 0, 7, emtActProcReset⟩)
    (fun _ => ⟨0, 0, ⟨0, 0⟩⟩) (fun _ => ⟨[], 0, 0⟩)

/-- That event, and a call to `CFE_ES_ResetCFE` that does not return. -/
def resetEvent : Op .small :=
  .receiveEvent ⟨[65], 7⟩ fun _ => ⟨⟨success, 0, true⟩, success, success, false⟩

/-- A command that sets the limit to 5. -/
def limitToFive : Op .small := .appPipe ⟨0x18AE, 9, 12, 5⟩ (.ok _)

theorem resets_within_budget_once :
    let w := (World.off .small).after (.appInit (.ok resetOnEvent))
    let l := (resetEvent.run w.app).log
    resets l = 1 ∧ (w.after resetEvent).app.cdsData.resetsPerformed.toNat =
      w.app.cdsData.resetsPerformed.toNat + resets l := by
  intro w l
  have hrun₀ : World.Run StoreWorks (World.off .small)
      ((Op.appInit (.ok resetOnEvent)).run (initialData .small)).log w := .op (.inl rfl) ⟨rfl, rfl⟩
  have hrun : World.Run (fun w op => StoreWorks w op ∧ ¬ op.SetsBudget) w l
      (w.after resetEvent) := .op (.inr rfl) ⟨trivial, id⟩
  exact ⟨rfl, (resets_within_budget rfl hrun₀ rfl hrun).2.1⟩

end HealthSafety
