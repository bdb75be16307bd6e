import HealthSafety.System.Resets
import Mathlib.Data.List.Induction

/-!
# The critical data over a reboot

`HS_SetCDSData` keeps two numbers, the resets performed and the resets allowed, each
with its inverse, in `HS_AppData` and in the critical data store.  `HS_AppInit` takes
an image from the store only if both inverses fit.

With a working store every reboot gives the last pair back, wherever it interrupts
HS.  An image that was altered in the store is taken exactly if each number and its
inverse were flipped at the same bits, and every way through the critical data
section of `HS_AppInit` leaves inverses that fit (`critical_data_kept`).
-/

namespace HealthSafety

open Lib

variable {cfg : Config} {s t : AppData cfg} {l : List (Label cfg)} {w w' : World cfg}

/-! ### Inverses -/

/-- Both inverses fit. -/
def CDSData.Intact (c : CDSData) : Prop :=
  c.resetsPerformedNot = ~~~c.resetsPerformed ∧ c.maxResetsNot = ~~~c.maxResets

/-- `c'` comes from `c` by flips that are the same in both halves of each pair. -/
def CDSData.FlippedTogether (c c' : CDSData) : Prop :=
  c.resetsPerformed ^^^ c'.resetsPerformed = c.resetsPerformedNot ^^^ c'.resetsPerformedNot ∧
    c.maxResets ^^^ c'.maxResets = c.maxResetsNot ^^^ c'.maxResetsNot

theorem CDSData.of_intact (a b : UInt16) : (CDSData.of a b).Intact := ⟨rfl, rfl⟩

theorem CDSData.Intact.eq_of {c : CDSData} (h : c.Intact) :
    c = .of c.resetsPerformed c.maxResets := by
  rw [CDSData.of, ← h.1, ← h.2]

theorem eq_not_comm (a b : UInt16) : a = ~~~b ↔ b = ~~~a := by
  constructor <;> rintro rfl <;> exact UInt16.not_not.symm

theorem CDSData.not_corrupt_iff (c : CDSData) : ¬ c.corrupt ↔ c.Intact := by
  rw [CDSData.corrupt, not_or, not_not, not_not, eq_not_comm, eq_not_comm c.maxResets]
  rfl

/-- A word and its inverse, changed to `a'` and `n'`, still fit if the same bits changed. -/
theorem eq_not_iff_xor_eq (a a' n' : UInt16) : n' = ~~~a' ↔ a ^^^ a' = ~~~a ^^^ n' := by
  have h : a ^^^ a' = ~~~a ^^^ ~~~a' := by rw [UInt16.not_xor, UInt16.xor_not, UInt16.not_not]
  rw [h, UInt16.xor_right_inj, eq_comm]

theorem CDSData.intact_iff_flippedTogether {c : CDSData} (h : c.Intact) (c' : CDSData) :
    c'.Intact ↔ c.FlippedTogether c' := by
  rw [CDSData.Intact, CDSData.FlippedTogether, h.1, h.2, eq_not_iff_xor_eq c.resetsPerformed,
    eq_not_iff_xor_eq c.maxResets]

/-! ### The pairs in the store -/

/-- The pair that a call puts into the store. -/
def Label.pairSet : Label cfg → Option (UInt16 × UInt16)
  | .call (.copyToCDS data) => some (data.resetsPerformed, data.maxResets)
  | _ => none

/-- The pairs that were put into the store, in order. -/
def pairsSet (l : List (Label cfg)) : List (UInt16 × UInt16) := l.filterMap Label.pairSet

/-- With a registered store, `HS_SetCDSData` puts its pair there. -/
theorem setCDSData_pairsSet (hs : s.cdsState = .enabled) (a b : UInt16) :
    pairsSet (setCDSData a b s).log = [(a, b)] := by
  rw [setCDSData_apply, copyLog, if_pos hs]
  rfl

/-- HS stores intact data only. -/
def Label.StoresIntact (x : Label cfg) : Prop := ∀ data, x = .call (.copyToCDS data) → data.Intact

theorem Act.storesIntact {k : Kind} (h : Act k s l t) {x : Label cfg} (hx : x ∈ l) :
    x.StoresIntact := by
  rintro data rfl
  have hk := h.mem_kinds hx
  cases h with
  | reset =>
    rcases List.mem_append.mp hx with hx | hx
    · have heq := mem_copyLog hx
      cases heq
      exact CDSData.of_intact _ _
    · simp at hx
  | setCDS =>
    have heq := mem_copyLog hx
    cases heq
    exact CDSData.of_intact _ _
  | plain l h =>
    have heq := List.mem_singleton.mp hx
    subst heq
    cases h
  | _ => simp [Label.kinds] at hk

theorem Op.storesIntact (op : Op cfg) (s : AppData cfg) :
    ∀ x ∈ (op.run s).log, x.StoresIntact :=
  (op.does s).labels fun _ _ _ _ _ ha _ hx => ha.storesIntact hx

theorem Run.storesIntact {P : World cfg → Op cfg → Prop} (h : World.Run P w l w') :
    ∀ x ∈ l, x.StoresIntact := by
  have hlaw : Law fun (_ : World cfg) (l : List (Label cfg)) (_ : World cfg) =>
      ∀ x ∈ l, x.StoresIntact :=
    ⟨fun _ => by simp, fun h₁ h₂ x hx => (List.mem_append.mp hx).elim (h₁ x) (h₂ x)⟩
  refine Chain.lift hlaw ?_ h
  rintro w - - ⟨op, -, -, rfl, rfl⟩
  exact op.storesIntact w.app

theorem storeStep_of_pairSet_eq_none {x : Label cfg} (hx : x.pairSet = none)
    (store : Option CDSData) : storeStep store x = store := by
  cases x with
  | mark m => rfl
  | call c =>
    cases c with
    | copyToCDS data => cases hx
    | _ => rfl

theorem storeStep_of_pairSet_eq_some {x : Label cfg} {a b : UInt16}
    (hx : x.pairSet = some (a, b)) (hdata : x.StoresIntact) (store : Option CDSData) :
    storeStep store x = some (.of a b) := by
  cases x with
  | mark m => cases hx
  | call c =>
    cases c with
    | copyToCDS data =>
      obtain ⟨rfl, rfl⟩ := Prod.mk.inj (Option.some.inj hx)
      rw [storeStep, ← (hdata data rfl).eq_of]
    | _ => cases hx

/-- The store holds the last pair put there. -/
theorem store_of_pairsSet (store : Option CDSData) (a b : UInt16) :
    ∀ l : List (Label cfg), (∀ x ∈ l, x.StoresIntact) → (pairsSet l).getLast? = some (a, b) →
      l.foldl storeStep store = some (.of a b) := by
  intro l
  induction l using List.reverseRecOn with
  | nil => intro _ h; cases h
  | append_singleton l x ih =>
    intro hall hlast
    rw [List.foldl_append, List.foldl_cons, List.foldl_nil]
    rw [pairsSet, List.filterMap_append] at hlast
    cases hx : x.pairSet with
    | none =>
      simp only [List.filterMap_cons, hx, List.filterMap_nil, List.append_nil] at hlast
      rw [storeStep_of_pairSet_eq_none hx]
      exact ih (fun y hy => hall y (List.mem_append_left _ hy)) hlast
    | some p =>
      simp only [List.filterMap_cons, hx, List.filterMap_nil, List.getLast?_append,
        List.getLast?_singleton, Option.some_or, Option.some.injEq] at hlast
      subst hlast
      exact storeStep_of_pairSet_eq_some hx
        (hall x (List.mem_append_right _ (List.mem_singleton_self x))) _

/-! ### Initialization -/

/-- The critical data behind their section of `HS_AppInit`. -/
def initialCDS (cfg : Config) (registerCDS : Status) (r : Reply CDSData) : CDSData :=
  if registerCDS = cfg.cdsAlreadyExists ∧ r.status = success ∧ ¬ r.out.corrupt then r.out
  else .of 0 (UInt16.ofNat cfg.maxRestartActions)

theorem cdsInit_unrestored {r : Reply CDSData} (hr : r.status ≠ success) (s : AppData cfg) :
    (cdsInit cfg.cdsAlreadyExists r s).val = .ok () ∧
      (cdsInit cfg.cdsAlreadyExists r s).state.cdsData =
        .of 0 (UInt16.ofNat cfg.maxRestartActions) := by
  rw [cdsInit, Prog.emit_bind, if_pos rfl, Prog.emit_bind, Prog.modify_bind, if_neg hr,
    Prog.emit_bind, initializeCDS, setCDSData_apply]
  exact ⟨rfl, rfl⟩

theorem cdsInit_unregistered {registerCDS : Status} (h₁ : registerCDS ≠ cfg.cdsAlreadyExists)
    (h₂ : registerCDS ≠ success) (r : Reply CDSData) (s : AppData cfg) :
    (cdsInit registerCDS r s).val = .ok () ∧
      (cdsInit registerCDS r s).state.cdsData = .of 0 (UInt16.ofNat cfg.maxRestartActions) := by
  rw [cdsInit, Prog.emit_bind, if_neg h₁, if_neg h₂, Prog.modify_bind, initializeCDS,
    setCDSData_apply]
  exact ⟨rfl, rfl⟩

theorem cdsInit_cdsData (registerCDS : Status) (r : Reply CDSData) (s : AppData cfg) :
    (cdsInit registerCDS r s).val = .ok () ∧
      (cdsInit registerCDS r s).state.cdsData = initialCDS cfg registerCDS r := by
  unfold initialCDS
  by_cases hreg : registerCDS = cfg.cdsAlreadyExists
  · rw [hreg]
    by_cases hr : r.status = success
    · by_cases hv : r.out.corrupt
      · rw [cdsInit_corrupt hr hv, if_neg fun h => h.2.2 hv]
        exact ⟨rfl, rfl⟩
      · rw [cdsInit_restored hr hv, if_pos ⟨rfl, hr, hv⟩]
        exact ⟨rfl, rfl⟩
    · rw [if_neg fun h => hr h.2.1]
      exact cdsInit_unrestored hr s
  · rw [if_neg fun h => hreg h.1]
    by_cases hnew : registerCDS = success
    · rw [hnew, cdsInit_created]
      exact ⟨rfl, rfl⟩
    · exact cdsInit_unregistered hreg hnew r s

theorem appInit_cdsData {i : InitIn cfg} (hi : i.evsRegister = success) (s : AppData cfg) :
    (appInit i s).state.cdsData = initialCDS cfg i.registerCDS i.restoreFromCDS := by
  obtain ⟨hval, hdata⟩ := cdsInit_cdsData i.registerCDS i.restoreFromCDS (initialData cfg)
  have hrun : cdsInit i.registerCDS i.restoreFromCDS (initialData cfg) =
      ⟨.ok (), (cdsInit i.registerCDS i.restoreFromCDS (initialData cfg)).state,
        (cdsInit i.registerCDS i.restoreFromCDS (initialData cfg)).log⟩ := by rw [← hval]
  rw [(appInit_apply hi hrun s).1, (interfaceInit_cds i _ none).1, hdata]

theorem initialCDS_intact (registerCDS : Status) (r : Reply CDSData) :
    (initialCDS cfg registerCDS r).Intact := by
  unfold initialCDS
  split
  · rename_i h
    exact (CDSData.not_corrupt_iff _).mp h.2.2
  · exact CDSData.of_intact _ _

/-! ### Runs -/

/-- Apart from `HS_AppInit`, HS puts intact data where there were intact data. -/
theorem Act.intact {k : Kind} (hcds : k ≠ .cds) (hboot : k ≠ .boot) (h : Act k s l t)
    (hs : s.cdsData.Intact) : t.cdsData.Intact := by
  cases h with
  | aside h => exact h.cdsData ▸ hs
  | reset => exact CDSData.of_intact _ _
  | setCDS => exact CDSData.of_intact _ _
  | restoreCDS | cdsOff => exact absurd rfl hcds
  | boot => exact absurd rfl hboot
  | _ => exact hs

theorem Op.intact {op : Op cfg} (hop : op.isInit = false) (hs : s.cdsData.Intact) :
    (op.run s).state.cdsData.Intact := by
  have hlaw : Law fun (s : AppData cfg) (_ : List (Label cfg)) t =>
      s.cdsData.Intact → t.cdsData.Intact := ⟨fun _ h => h, fun h₁ h₂ h => h₂ (h₁ h)⟩
  exact (op.does s).law hlaw
    (fun k hk _ _ _ ha => ha.intact (op.kinds_ne_cds hop k hk).1 (op.kinds_ne_cds hop k hk).2) hs

theorem after_intact {i : InitIn cfg} (hi : i.evsRegister = success) (w : World cfg) :
    (w.after (.appInit i)).app.cdsData.Intact := by
  rw [World.app_after_appInit, appInit_cdsData hi]
  exact initialCDS_intact _ _

/-- Behind the critical data section of `HS_AppInit` the data are intact, as long as no
later `HS_AppInit` gives up before it. -/
theorem Run.intact (hw : w.app.cdsData.Intact)
    (h : World.Run (fun _ op => ∀ i, op = .appInit i → i.evsRegister = success) w l w') :
    w'.app.cdsData.Intact := by
  refine h.invariant (I := fun w => w.app.cdsData.Intact) (fun w op _ hop hs => ?_) hw
  cases hinit : op.isInit with
  | true =>
    cases op with
    | appInit i => exact after_intact (hop i rfl) w
    | _ => cases hinit
  | false => exact op.intact hinit hs

/-! ### Over a reboot -/

/-- What the critical data do for HS. -/
structure CriticalDataKept (cfg : Config) : Prop where
  /-- `HS_SetCDSData` puts its pair into `HS_AppData` and into a registered store. -/
  recorded : ∀ (a b : UInt16) (s : AppData cfg), (setCDSData a b s).state.cdsData = .of a b ∧
    (s.cdsState = .enabled → pairsSet (setCDSData a b s).log = [(a, b)])
  /-- A reboot between two operations, or by one of them, gives the data back. -/
  rebooted : ∀ (w₀ w : World cfg) (l : List (Label cfg)) (op : Op cfg) (i : InitIn cfg),
    w₀.up = false → World.Run StoreWorks w₀ l w → (op.isInit = true ∨ w.up = true) →
    StoreWorks w op → StoreWorks (w.after op) (.appInit i) →
    i.registerCDS = cfg.cdsAlreadyExists ∧ (w.after op).app.cdsState = .enabled ∧
    ((w.after op).after (.appInit i)).app.cdsData = (w.after op).app.cdsData
  /-- A reboot anywhere gives the last pair back that was set before it. -/
  interrupted : ∀ (w₀ w : World cfg) (before after : List (Label cfg)) (a b : UInt16)
    (i : InitIn cfg) (s : AppData cfg), World.Run StoreWorks w₀ (before ++ after) w →
    (pairsSet before).getLast? = some (a, b) → i.evsRegister = success →
    i.registerCDS = cfg.cdsAlreadyExists → i.restoreFromCDS.status = success →
    before.foldl storeStep w₀.store = some i.restoreFromCDS.out →
    (appInit i s).state.cdsData = .of a b
  /-- An altered image is taken if the same bits of each number and its inverse were
  flipped; otherwise HS starts from the initial pair. -/
  altered : ∀ (a b : UInt16) (i : InitIn cfg) (s : AppData cfg), i.evsRegister = success →
    i.registerCDS = cfg.cdsAlreadyExists → i.restoreFromCDS.status = success →
    (¬ i.restoreFromCDS.out.corrupt ↔ (CDSData.of a b).FlippedTogether i.restoreFromCDS.out) ∧
    (appInit i s).state.cdsData =
      if i.restoreFromCDS.out.corrupt then .of 0 (UInt16.ofNat cfg.maxRestartActions)
      else i.restoreFromCDS.out
  /-- Every way through the critical data section leaves inverses that fit. -/
  initialized : ∀ (registerCDS : Status) (r : Reply CDSData) (s : AppData cfg),
    (cdsInit registerCDS r s).state.cdsData.Intact
  /-- From there on they fit, in every run. -/
  intact : ∀ (w w' : World cfg) (l : List (Label cfg)) (i : InitIn cfg), i.evsRegister = success →
    World.Run (fun _ op => ∀ j, op = .appInit j → j.evsRegister = success)
      (w.after (.appInit i)) l w' → w'.app.cdsData.Intact
  maxResets_kept : ∀ s : AppData cfg,
    (resetResetsPerformedCmd s).state.cdsData.maxResets = s.cdsData.maxResets
  resetsPerformed_kept : ∀ (maxResets : UInt16) (s : AppData cfg),
    (setMaxResetsCmd maxResets s).state.cdsData.resetsPerformed = s.cdsData.resetsPerformed

theorem setCDSData_recorded (a b : UInt16) (s : AppData cfg) :
    (setCDSData a b s).state.cdsData = .of a b ∧
      (s.cdsState = .enabled → pairsSet (setCDSData a b s).log = [(a, b)]) :=
  ⟨by rw [setCDSData_apply], fun hs => setCDSData_pairsSet hs a b⟩

theorem cdsData_rebooted {w₀ : World cfg} {op : Op cfg} {i : InitIn cfg} (h₀ : w₀.up = false)
    (h : World.Run StoreWorks w₀ l w) (hop : op.isInit = true ∨ w.up = true)
    (hst : StoreWorks w op) (hi : StoreWorks (w.after op) (.appInit i)) :
    i.registerCDS = cfg.cdsAlreadyExists ∧ (w.after op).app.cdsState = .enabled ∧
      ((w.after op).after (.appInit i)).app.cdsData = (w.after op).app.cdsData := by
  have hs := synced_after hop hst (synced_of_run h₀ h)
  refine ⟨?_, hs.on, (appInit_synced hi).2.2 _ hs.store hs.valid⟩
  obtain ⟨-, hreg⟩ := hi
  rw [hs.store] at hreg
  exact hreg.1

theorem initialCDS_of_intact {registerCDS : Status} {r : Reply CDSData}
    (hreg : registerCDS = cfg.cdsAlreadyExists) (hr : r.status = success) :
    initialCDS cfg registerCDS r =
      if r.out.corrupt then .of 0 (UInt16.ofNat cfg.maxRestartActions) else r.out := by
  by_cases hv : r.out.corrupt <;> simp [initialCDS, hreg, hr, hv]

theorem cdsData_interrupted {w₀ : World cfg} {before after : List (Label cfg)} {a b : UInt16}
    {i : InitIn cfg} {P : World cfg → Op cfg → Prop} (h : World.Run P w₀ (before ++ after) w)
    (hset : (pairsSet before).getLast? = some (a, b)) (hi : i.evsRegister = success)
    (hreg : i.registerCDS = cfg.cdsAlreadyExists) (hr : i.restoreFromCDS.status = success)
    (himg : before.foldl storeStep w₀.store = some i.restoreFromCDS.out) (s : AppData cfg) :
    (appInit i s).state.cdsData = .of a b := by
  have hall : ∀ x ∈ before, x.StoresIntact :=
    fun x hx => Run.storesIntact h x (List.mem_append_left _ hx)
  have hout : i.restoreFromCDS.out = .of a b :=
    Option.some.inj (himg.symm.trans (store_of_pairsSet w₀.store a b before hall hset))
  rw [appInit_cdsData hi, initialCDS_of_intact hreg hr, hout,
    if_neg (CDSData.of_not_corrupt a b)]

theorem cdsData_altered (a b : UInt16) {i : InitIn cfg} (hi : i.evsRegister = success)
    (hreg : i.registerCDS = cfg.cdsAlreadyExists) (hr : i.restoreFromCDS.status = success)
    (s : AppData cfg) :
    (¬ i.restoreFromCDS.out.corrupt ↔ (CDSData.of a b).FlippedTogether i.restoreFromCDS.out) ∧
      (appInit i s).state.cdsData =
        if i.restoreFromCDS.out.corrupt then .of 0 (UInt16.ofNat cfg.maxRestartActions)
        else i.restoreFromCDS.out := by
  rw [appInit_cdsData hi, initialCDS_of_intact hreg hr, CDSData.not_corrupt_iff]
  exact ⟨CDSData.intact_iff_flippedTogether (CDSData.of_intact a b) _, rfl⟩

theorem resetResetsPerformedCmd_maxResets (s : AppData cfg) :
    (resetResetsPerformedCmd s).state.cdsData.maxResets = s.cdsData.maxResets := by
  rw [resetResetsPerformedCmd, Prog.emit_bind, countCmd, Prog.modify_bind, Prog.get_bind,
    Prog.bind_ok (setCDSData_apply _ _ _)]
  rfl

theorem setMaxResetsCmd_resetsPerformed (maxResets : UInt16) (s : AppData cfg) :
    (setMaxResetsCmd maxResets s).state.cdsData.resetsPerformed = s.cdsData.resetsPerformed := by
  rw [setMaxResetsCmd, Prog.emit_bind, countCmd, Prog.modify_bind, Prog.get_bind,
    Prog.bind_ok (setCDSData_apply _ _ _)]
  rfl

/-- **Every reboot gives the last pair of numbers back, an altered image is taken only if
its inverses still fit, and behind `HS_AppInit` they always do.** -/
theorem critical_data_kept (cfg : Config) : CriticalDataKept cfg where
  recorded := setCDSData_recorded
  rebooted _ _ _ _ _ h₀ h hop hst hi := cdsData_rebooted h₀ h hop hst hi
  interrupted _ _ _ _ _ _ _ s h hset hi hreg hr himg :=
    cdsData_interrupted h hset hi hreg hr himg s
  altered a b _ s hi hreg hr := cdsData_altered a b hi hreg hr s
  initialized registerCDS r s := by
    rw [(cdsInit_cdsData registerCDS r s).2]
    exact initialCDS_intact registerCDS r
  intact w _ _ _ hi h := Run.intact (after_intact hi w) h
  maxResets_kept := resetResetsPerformedCmd_maxResets
  resetsPerformed_kept := setMaxResetsCmd_resetsPerformed

/-- The answers to `HS_AppInit` after a reboot, with an image in the store. -/
def restartWith (image : CDSData) : InitIn .small :=
  { InitIn.ok resetOnEvent with
    registerCDS := Config.small.cdsAlreadyExists
    restoreFromCDS := ⟨success, image, true⟩ }

/-- The image of the count 0 and the limit 5, with one bit of the count and of its inverse
flipped, and with a bit of the count alone flipped. -/
def flippedTogether : CDSData := ⟨1, 0xFFFE, 5, 0xFFFA⟩
def flippedAlone : CDSData := ⟨1, 0xFFFF, 5, 0xFFFA⟩

/-- HS starts, a command sets the limit to 5, and the processor reboots: behind the command,
or as soon as the pair is in the store, with an intact and with an altered image. -/
theorem critical_data_kept_limit :
    let w₀ := (World.off .small).after (.appInit (.ok resetOnEvent))
    let w₁ := w₀.after limitToFive
    pairsSet (setCDSData 0 5 w₀.app).log = [(0, 5)] ∧
      (w₁.after (.appInit (restartWith (.of 0 5)))).app.cdsData = w₁.app.cdsData ∧
      (appInit (restartWith (.of 0 5)) w₁.app).state.cdsData = .of 0 5 ∧
      (CDSData.of 0 5).FlippedTogether flippedTogether ∧
      (appInit (restartWith flippedTogether) w₁.app).state.cdsData = flippedTogether ∧
      (appInit (restartWith flippedAlone) w₁.app).state.cdsData = .of 0 3 ∧
      w₁.app.cdsData.Intact := by
  intro w₀ w₁
  have hkept := critical_data_kept .small
  have hrun₀ : World.Run StoreWorks (World.off .small)
      ((Op.appInit (.ok resetOnEvent)).run (initialData .small)).log w₀ := .op (.inl rfl) ⟨rfl, rfl⟩
  have hon : w₀.app.cdsState = .enabled := by decide +kernel
  have hlog : (limitToFive.run w₀.app).log = [.mark (.handler .setMaxResets),
      .call (.copyToCDS (.of 0 5))] ++ [.call (.sendEvent .setMaxResetsDbg .debug [.num 5])] := by
    rw [limitToFive, Op.run]
    rfl
  have hrun₁ : World.Run StoreWorks w₀ (limitToFive.run w₀.app).log w₁ := .op (.inr rfl) trivial
  rw [hlog] at hrun₁
  obtain ⟨hpair, hset⟩ := hkept.recorded 0 5 w₀.app
  obtain ⟨-, -, hback⟩ := hkept.rebooted _ w₀ _ limitToFive (restartWith (.of 0 5)) rfl hrun₀
    (.inr rfl) trivial ⟨rfl, rfl, rfl, rfl⟩
  have hcut := hkept.interrupted w₀ w₁ _ _ 0 5 (restartWith (.of 0 5)) w₁.app hrun₁ rfl rfl rfl
    rfl rfl
  have hfit : ¬ flippedTogether.corrupt := by decide
  have hboth := hkept.altered 0 5 (restartWith flippedTogether) w₁.app rfl rfl rfl
  have halone := hkept.altered 0 5 (restartWith flippedAlone) w₁.app rfl rfl rfl
  have hintact := hkept.intact (World.off .small) w₁ _ (.ok resetOnEvent) rfl
    (.op (.inr rfl) fun _ hinit => by cases hinit)
  exact ⟨hset hon, hback, hcut, hboth.1.mp hfit, hboth.2.trans (if_neg hfit),
    halone.2.trans (if_pos (by decide)), hintact⟩

end HealthSafety
