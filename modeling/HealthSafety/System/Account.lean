import HealthSafety.Lib.Meter
import HealthSafety.System.Resets

/-!
# The account of the processor resets

The budget of the processor resets can be changed from the ground: one command clears the
count and another one sets the limit.  `Accounted` keeps the books of a run, over any
number of reboots and commands: what is spent since the count was last cleared, the limit
in force, and the total (`Meter`, `Op.charge`).

HS agrees with the books at every moment, and the critical data store with HS; a call to
`CFE_ES_ResetCFE` is covered by the limit in force and stands in the store before it is
made; and all in all the processor is reset at most as often as the highest limit allows,
once for each time the count was cleared and once for the beginning (`resets_accounted`).
-/

namespace HealthSafety

open Lib

variable {cfg : Config} {s t : AppData cfg} {w : World cfg} {l : List (Label cfg)} {y : Meter}

/-! ### The books -/

/-- What an operation enters into the books. -/
def Op.charge (y : Meter) (s : AppData cfg) : Op cfg → Meter
  | .appPipe msg _ =>
    if accepted cfg msg = some .resetResetsPerformed then y.clear
    else if accepted cfg msg = some .setMaxResets then y.setLimit msg.maxResets.toNat
    else y
  | op => y.spend (resets (op.run s).log)

/-- A run from the start of HS, with a critical data store that works: what it logged since
`HS_AppInit` first returned, and its books. -/
inductive Accounted : List (Label cfg) → Meter → World cfg → Prop
  | start (w : World cfg) (i : InitIn cfg) (hw : w.up = false) (hi : StoreWorks w (.appInit i)) :
      Accounted []
        (.opening (w.after (.appInit i)).app.cdsData.resetsPerformed.toNat
          (w.after (.appInit i)).app.cdsData.maxResets.toNat) (w.after (.appInit i))
  | op {l : List (Label cfg)} {y : Meter} {w : World cfg} (h : Accounted l y w) (op : Op cfg)
      (hop : op.isInit = true ∨ w.up = true) (hst : StoreWorks w op) :
      Accounted (l ++ (op.run w.app).log) (op.charge y w.app) (w.after op)

theorem Accounted.charged (h : Accounted l y w) (op : Op cfg) (hop : op.isInit = true ∨ w.up = true)
    (hst : StoreWorks w op) {z : Meter} (hz : op.charge y w.app = z) :
    Accounted (l ++ (op.run w.app).log) z (w.after op) :=
  hz ▸ h.op op hop hst

/-- HS agrees with the books. -/
structure Agrees (y : Meter) (s : AppData cfg) : Prop where
  spent : s.cdsData.resetsPerformed.toNat = y.spent
  limit : s.cdsData.maxResets.toNat = y.limit

theorem Agrees.of_eq (h : Agrees y s) (ht : t.cdsData = s.cdsData) : Agrees y t :=
  ⟨by rw [ht, h.spent], by rw [ht, h.limit]⟩

/-! ### The commands -/

theorem appPipe_resets (msg : CmdMsg) (r : CmdReplies cfg) (s : AppData cfg) :
    resets (appPipe msg r s).log = 0 := by
  have hkinds : ∀ k ∈ anyCmdKinds, k ≠ .reset := by decide
  exact resets_eq_zero_of_kinds (fun k hk => hkinds k (cmdKinds_subset cfg msg hk))
    fun x hx => (appPipe_does msg r s).kind_of_mem hx

theorem resetResetsPerformedCmd_cdsData (s : AppData cfg) :
    (resetResetsPerformedCmd s).state.cdsData = .of 0 s.cdsData.maxResets := by
  rw [resetResetsPerformedCmd, Prog.emit_bind, countCmd, Prog.modify_bind, Prog.get_bind,
    Prog.bind_ok (setCDSData_apply _ _ _)]
  rfl

theorem setMaxResetsCmd_cdsData (maxResets : UInt16) (s : AppData cfg) :
    (setMaxResetsCmd maxResets s).state.cdsData = .of s.cdsData.resetsPerformed maxResets := by
  rw [setMaxResetsCmd, Prog.emit_bind, countCmd, Prog.modify_bind, Prog.get_bind,
    Prog.bind_ok (setCDSData_apply _ _ _), Prog.get_bind]
  rfl

/-- The other commands leave the critical data alone. -/
theorem appPipe_cdsData {msg : CmdMsg} (hclear : accepted cfg msg ≠ some .resetResetsPerformed)
    (hset : accepted cfg msg ≠ some .setMaxResets) (r : CmdReplies cfg) (s : AppData cfg) :
    (appPipe msg r s).state.cdsData = s.cdsData := by
  have hkinds : ∀ k ∈ cmdKinds cfg msg, k.keepsCDS = true := by
    refine forall_mem_cmdKinds (by decide) (by decide) fun hd hacc => ?_
    cases hd with
    | resetResetsPerformed => exact absurd hacc hclear
    | setMaxResets => exact absurd hacc hset
    | _ => decide
  exact (appPipe_does msg r s).keeps AppData.cdsData
    fun k hk _ _ _ ha => (ha.cds_eq (hkinds k hk)).1

theorem appPipe_charged (h : y.Fair) (hs : Agrees y s) (msg : CmdMsg) (r : CmdReplies cfg) :
    (Op.charge y s (.appPipe msg r)).Fair ∧
      Agrees (Op.charge y s (.appPipe msg r)) (appPipe msg r s).state ∧
      (Op.charge y s (.appPipe msg r)).total = y.total := by
  have hcharge : Op.charge y s (.appPipe msg r) =
      if accepted cfg msg = some .resetResetsPerformed then y.clear
      else if accepted cfg msg = some .setMaxResets then y.setLimit msg.maxResets.toNat
      else y := rfl
  rw [hcharge]
  by_cases hclear : accepted cfg msg = some .resetResetsPerformed
  · rw [if_pos hclear, appPipe_of_accepted hclear]
    have hdata := resetResetsPerformedCmd_cdsData s
    refine ⟨h.clear, ⟨?_, ?_⟩, rfl⟩
    · exact congrArg (fun data => data.resetsPerformed.toNat) hdata
    · exact (congrArg (fun data => data.maxResets.toNat) hdata).trans hs.limit
  by_cases hset : accepted cfg msg = some .setMaxResets
  · rw [if_neg hclear, if_pos hset, appPipe_of_accepted hset]
    have hdata := setMaxResetsCmd_cdsData msg.maxResets s
    refine ⟨h.setLimit _, ⟨?_, ?_⟩, rfl⟩
    · exact (congrArg (fun data => data.resetsPerformed.toNat) hdata).trans hs.spent
    · exact congrArg (fun data => data.maxResets.toNat) hdata
  · rw [if_neg hclear, if_neg hset]
    exact ⟨h, hs.of_eq (appPipe_cdsData hclear hset r s), rfl⟩

/-! ### The other operations -/

/-- What an operation that is no command does to the critical data and the store. -/
theorem spent_of_op {op : Op cfg} (hop : op.isInit = true ∨ w.up = true) (hst : StoreWorks w op)
    (hcmd : ∀ msg r, op ≠ .appPipe msg r) (hs : Synced w.store w.app) :
    Spent w.app.cdsData w.store (op.run w.app).log (w.after op).app ∧
      Along (ResetRecorded w.app.cdsData w.store) (op.run w.app).log := by
  have hstart : Spent w.app.cdsData w.store [] w.app := ⟨hs, rfl, rfl, Nat.zero_le _⟩
  have hdoes (hinit : ∀ k ∈ op.kinds, k ≠ .budget ∧ k ≠ .cds ∧ k ≠ .boot) :
      Spent w.app.cdsData w.store (op.run w.app).log (w.after op).app ∧
        Along (ResetRecorded w.app.cdsData w.store) (op.run w.app).log :=
    (op.does w.app).spent hinit [] hstart
  cases op with
  | appInit i => exact spent_of_appInit hst rfl hstart
  | appPipe msg r => exact absurd rfl (hcmd msg r)
  | _ =>
    refine hdoes ?_
    simp only [Op.kinds]
    decide

theorem charge_of_not_cmd {op : Op cfg} (hcmd : ∀ msg r, op ≠ .appPipe msg r) (y : Meter)
    (s : AppData cfg) : op.charge y s = y.spend (resets (op.run s).log) := by
  cases op with
  | appPipe msg r => exact absurd rfl (hcmd msg r)
  | _ => rfl

/-! ### Runs -/

theorem Accounted.synced (h : Accounted l y w) : Synced w.store w.app := by
  induction h with
  | start w i hw hi => exact (appInit_synced hi).1
  | op _ op hop hst ih => exact synced_after hop hst fun _ => ih

theorem Accounted.books (h : Accounted l y w) : y.Fair ∧ Agrees y w.app ∧ resets l = y.total := by
  induction h with
  | start w i hw hi => exact ⟨.opening _ _, ⟨rfl, rfl⟩, rfl⟩
  | @op l y w h op hop hst ih =>
    obtain ⟨hfair, hagrees, htotal⟩ := ih
    rw [resets_append, htotal]
    by_cases hcmd : ∃ msg r, op = .appPipe msg r
    · obtain ⟨msg, r, rfl⟩ := hcmd
      obtain ⟨hfair', hagrees', htotal'⟩ := appPipe_charged hfair hagrees msg r
      have hnone : resets ((Op.appPipe msg r).run w.app).log = 0 := appPipe_resets msg r w.app
      exact ⟨hfair', hagrees', by rw [hnone, htotal']; rfl⟩
    · have hcmd' : ∀ msg r, op ≠ .appPipe msg r := fun msg r heq => hcmd ⟨msg, r, heq⟩
      obtain ⟨hspent, -⟩ := spent_of_op hop hst hcmd' h.synced
      have hle := hspent.le
      have hcount := hspent.count
      rw [hagrees.spent, hagrees.limit] at hle
      rw [charge_of_not_cmd hcmd']
      refine ⟨hfair.spend (by omega), ⟨?_, ?_⟩, rfl⟩
      · rw [hcount, hagrees.spent]
        rfl
      · rw [hspent.max, hagrees.limit]
        rfl

/-- **Every processor reset is on the books.**  Over any number of reboots, and with the
budget commanded in any way, the number of calls to `CFE_ES_ResetCFE` is at most the
highest limit there was, once for each time the count was cleared and once for the
beginning.  At every moment HS and the critical data store hold the count since it was last
cleared and the limit in force.  And whatever HS does next, each call to
`CFE_ES_ResetCFE` is covered by that limit, and is in the store before it is made. -/
theorem resets_accounted (h : Accounted l y w) :
    resets l ≤ y.highest * (y.cleared + 1) ∧ w.store = some w.app.cdsData ∧ Agrees y w.app ∧
      ∀ op : Op cfg, (op.isInit = true ∨ w.up = true) → StoreWorks w op →
        ∀ before flag after, (op.run w.app).log = before ++ .call (.resetCFE flag) :: after →
          y.spent + resets before + 1 ≤ y.limit ∧ flag = .disabled ∧
            ∃ stored, before.foldl storeStep w.store = some stored ∧
              stored.resetsPerformed.toNat = y.spent + resets before + 1 := by
  obtain ⟨hfair, hagrees, htotal⟩ := h.books
  refine ⟨by rw [htotal]; exact hfair.total_le, h.synced.store, hagrees, ?_⟩
  intro op hop hst before flag after hlog
  have hcmd : ∀ msg r, op ≠ .appPipe msg r := by
    rintro msg r rfl
    have hnone : resets ((Op.appPipe msg r).run w.app).log = 0 := appPipe_resets msg r w.app
    have hmem : Label.call (.resetCFE flag) ∈ ((Op.appPipe msg r).run w.app).log := by
      rw [hlog]
      exact List.mem_append_right before List.mem_cons_self
    exact List.countP_eq_zero.mp hnone _ hmem rfl
  obtain ⟨hspent, halong⟩ := spent_of_op hop hst hcmd h.synced
  have hle := hspent.le
  have hone : resets (Label.call (Call.resetCFE flag) :: after) = resets after + 1 :=
    List.countP_cons_of_pos rfl
  rw [hlog, resets_append, hone, hagrees.spent, hagrees.limit] at hle
  obtain ⟨hflag, stored, hstored, hcount⟩ := halong before _ after hlog flag rfl
  rw [hagrees.spent] at hcount
  exact ⟨by omega, hflag, stored, hstored, hcount⟩

/-- The answers to `HS_AppInit` after a first reset. -/
def rebootIn : InitIn .small :=
  { InitIn.ok resetOnEvent with
    registerCDS := Config.small.cdsAlreadyExists
    restoreFromCDS := ⟨success, .of 1 3, true⟩ }

/-- A command that clears the count. -/
def clearCount : Op .small := .appPipe ⟨0x18AE, 8, 8, 0⟩ (.ok _)

/-- HS starts, an event resets the processor, and HS starts again; the count is cleared, the
limit is set to 5, and another event resets the processor. -/
theorem resets_accounted_cleared :
    let w₀ := (World.off .small).after (.appInit (.ok resetOnEvent))
    let w₁ := w₀.after resetEvent
    let w₂ := w₁.after (.appInit rebootIn)
    let w₃ := w₂.after clearCount
    let w₄ := w₃.after limitToFive
    let w₅ := w₄.after resetEvent
    let l := (resetEvent.run w₀.app).log ++ ((Op.appInit rebootIn).run w₁.app).log ++
      (clearCount.run w₂.app).log ++ (limitToFive.run w₃.app).log ++ (resetEvent.run w₄.app).log
    resets l = 2 ∧ resets l ≤ 5 * 2 ∧ w₅.app.cdsData.resetsPerformed.toNat = 1 ∧
      w₅.app.cdsData.maxResets.toNat = 5 ∧ w₅.store = some w₅.app.cdsData := by
  intro w₀ w₁ w₂ w₃ w₄ w₅ l
  have hfirst : resets (resetEvent.run w₀.app).log = 1 := by decide +kernel
  have hagain : resets ((Op.appInit rebootIn).run w₁.app).log = 0 := by decide +kernel
  have hlast : resets (resetEvent.run w₄.app).log = 1 := by decide +kernel
  have htwo : resets l = 2 := by decide +kernel
  have hup₁ : w₂.up = true := by decide +kernel
  have hup₂ : w₃.up = true := by decide +kernel
  have hup₃ : w₄.up = true := by decide +kernel
  have h₀ : Accounted [] (.opening 0 3) w₀ :=
    .start (World.off .small) (.ok resetOnEvent) rfl ⟨rfl, rfl⟩
  have h₁ : Accounted (resetEvent.run w₀.app).log _ w₁ :=
    h₀.charged resetEvent (.inr rfl) trivial (congrArg (Meter.spend _) hfirst)
  have h₂ := h₁.charged (.appInit rebootIn) (.inl rfl) ⟨rfl, rfl, rfl, rfl⟩
    (congrArg (Meter.spend _) hagain)
  have h₃ := h₂.charged clearCount (.inr hup₁) trivial (z := .clear _) rfl
  have h₄ := h₃.charged limitToFive (.inr hup₂) trivial (z := .setLimit _ 5) rfl
  have h₅ : Accounted l _ w₅ :=
    h₄.charged resetEvent (.inr hup₃) trivial (congrArg (Meter.spend _) hlast)
  clear_value l w₅
  obtain ⟨htotal, hstore, hagrees, -⟩ := resets_accounted h₅
  exact ⟨htwo, htotal, hagrees.spent, hagrees.limit, hstore⟩

end HealthSafety
