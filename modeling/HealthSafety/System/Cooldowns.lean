import HealthSafety.Lib.Cooldown
import HealthSafety.Lib.Trace
import HealthSafety.System.World

/-!
# The cooldown of the message actions

A message action sets its cooldown when it is sent, `HS_ProcessMain` counts it down
before the monitors run, and an update of the table clears it.  In terms of the log
the counter of message `m` is what remains of its cooldown at the age of its last
transmission (`Cooling`), where a cycle is a tick.

So whenever a monitor asks for a message action, in any cycle, it is sent if and only
if the table is loaded, its row is not disabled and none of the transmissions since
the last update lies within the cooldown (`msgAct_sent_iff`).
-/

namespace HealthSafety

open Lib Cooldown

variable {cfg : Config} {s t : AppData cfg} {l h : List (Label cfg)} {w w' : World cfg}
  {m : Fin cfg.maxMsgActTypes}

/-- What a label is to the cooldown of message `m`. -/
def Label.beat (m : Fin cfg.maxMsgActTypes) : Label cfg → Beat
  | .call (.transmitMsg idx _) => if idx = m then .send else .idle
  | .call (.getAddress .mat status) => if status = cfg.tblInfoUpdated then .clear else .idle
  | .mark .tick => .tick
  | .mark .boot => .clear
  | _ => .idle

/-- The counters stand where the cooldowns `C` and the log put them. -/
def Cooling (C : Fin cfg.maxMsgActTypes → UInt16) (h : List (Label cfg)) (s : AppData cfg) : Prop :=
  ∀ m, (s.msgActCooldown m).toNat = remaining (C m).toNat (age (Label.beat m) h)

variable {C : Fin cfg.maxMsgActTypes → UInt16}

theorem Cooling.idle (hs : Cooling C h s) (hl : ∀ m, ∀ x ∈ l, x.beat m = .idle)
    (ht : t.msgActCooldown = s.msgActCooldown) : Cooling C (h ++ l) t := by
  intro m
  rw [ht, age_append_idle _ (hl m), hs m]

/-! ### Single acts -/

/-- The kinds of acts that log a beat. -/
def Kind.beats : Kind → Bool
  | .message => true
  | .tick => true
  | .tables => true
  | .boot => true
  | _ => false

theorem beat_idle {k : Kind} (hk : k.beats = false) {x : Label cfg} (hx : k ∈ x.kinds)
    (m : Fin cfg.maxMsgActTypes) : x.beat m = .idle := by
  unfold Label.beat
  split
  · rw [Label.kinds, List.mem_singleton] at hx
    subst hx
    cases hk
  · rw [Label.kinds, List.mem_singleton] at hx
    subst hx
    cases hk
  · rw [Label.kinds, List.mem_singleton] at hx
    subst hx
    cases hk
  · rw [Label.kinds, List.mem_singleton] at hx
    subst hx
    cases hk
  · rfl

/-- The kinds of acts that leave the counters alone. -/
theorem Act.cooldown_eq {k : Kind} (hk : k.beats = false) (ha : Act k s l t) :
    t.msgActCooldown = s.msgActCooldown := by
  cases ha with
  | aside h => exact h.msgActCooldown
  | transmit | held | heldInvalid | tick | takeAmt | takeEmt | takeMat | takeXct | loaded | boot =>
    cases hk
  | _ => rfl

theorem Cooling.tick (hs : Cooling C h s) : Cooling C (h ++ [.mark .tick]) s.coolDown := by
  intro m
  rw [age_append_singleton]
  show (if s.msgActCooldown m ≠ 0 then s.msgActCooldown m - 1 else 0).toNat =
    remaining _ (next _ .tick)
  rw [remaining_tick, ← hs m]
  by_cases h0 : s.msgActCooldown m = 0
  · simp [h0]
  · have hpos : (1 : UInt16) ≤ s.msgActCooldown m := by
      rw [UInt16.le_iff_toNat_le]
      have : (s.msgActCooldown m).toNat ≠ 0 := fun hz => h0 (UInt16.toNat_inj.mp hz)
      exact Nat.one_le_iff_ne_zero.mpr this
    rw [if_pos h0, UInt16.toNat_sub_of_le _ _ hpos]
    rfl

/-- Behind a clear every counter is zero, whatever the cooldowns are. -/
theorem Cooling.clear {x : Label cfg} (hx : ∀ m, x.beat m = .clear)
    (ht : ∀ m, t.msgActCooldown m = 0) : Cooling C (h ++ [x]) t := by
  intro m
  rw [age_append_singleton, hx, remaining_clear, ht]
  rfl

theorem Cooling.takeMat (hs : Cooling C h s) (r : TblReply (MAT cfg)) :
    Cooling C (h ++ [.call (.getAddress .mat r.status)]) (s.takeMat r) := by
  by_cases hupd : r.status = cfg.tblInfoUpdated
  · refine .clear (fun m => if_pos hupd) fun m => ?_
    simp [AppData.takeMat, hupd]
  · refine hs.idle (fun m x hx => ?_) (if_neg hupd)
    rw [List.mem_singleton.mp hx]
    exact if_neg hupd

/-- Only a transmission depends on the cooldowns. -/
theorem Act.cooling {k : Kind} (hk : k ≠ .message) (ha : Act k s l t) (hs : Cooling C h s) :
    Cooling C (h ++ l) t := by
  by_cases hb : k.beats = false
  · exact hs.idle (fun m x hx => beat_idle hb (ha.mem_kinds hx) m) (ha.cooldown_eq hb)
  · cases ha with
    | transmit | held | heldInvalid => exact absurd rfl hk
    | tick => exact hs.tick
    | takeMat r => exact hs.takeMat r
    | boot => exact .clear (fun _ => rfl) fun _ => rfl
    | loaded =>
      rw [List.append_nil]
      exact hs
    | takeAmt | takeEmt | takeXct =>
      refine hs.idle (fun m x hx => ?_) rfl
      rw [List.mem_singleton.mp hx]
      rfl
    | _ => exact absurd rfl hb

theorem Cooling.transmit (hs : Cooling C h s) {idx : Fin cfg.maxMsgActTypes} {row : MATEntry}
    (hrow : row.cooldown = C idx) {state : SwitchState} {sent : Bool} {r : Option MATEntry} :
    Cooling C (h ++ [.mark (.msgAct idx state r sent), .call (.transmitMsg idx row)])
      (s.countMsgAct idx row) := by
  intro m
  have hsplit : h ++ [.mark (.msgAct idx state r sent), .call (.transmitMsg idx row)] =
      (h ++ [.mark (.msgAct idx state r sent)]) ++ [.call (.transmitMsg idx row)] := by simp
  rw [hsplit, age_append_singleton, age_append_singleton]
  by_cases hm : idx = m
  · subst hm
    simp [Label.beat, AppData.countMsgAct, hrow]
  · have : m ≠ idx := fun h => hm h.symm
    simp [Label.beat, hm, next, AppData.countMsgAct, this, hs m]

/-- Only the table acquisition and `HS_AppInit` clear a cooldown. -/
theorem Act.kind_of_clear {k : Kind} (ha : Act k s l t) {x : Label cfg} (hx : x ∈ l)
    (hclear : x.beat m = .clear) : k = .tables ∨ k = .boot := by
  have hk := ha.mem_kinds hx
  unfold Label.beat at hclear
  split at hclear
  · split at hclear <;> cases hclear
  · exact .inl (List.mem_singleton.mp hk)
  · cases hclear
  · exact .inr (List.mem_singleton.mp hk)
  · cases hclear

/-- After an act that clears them, the counters stand right whatever was there before. -/
theorem Act.cooling_of_clear {k : Kind} (ha : Act k s l t) {x : Label cfg} (hx : x ∈ l)
    (hclear : x.beat m = .clear) : Cooling C (h ++ l) t := by
  obtain rfl | rfl := ha.kind_of_clear hx hclear
  · cases ha with
    | takeMat r =>
      rw [List.mem_singleton.mp hx] at hclear
      have hupd : r.status = cfg.tblInfoUpdated := by
        by_contra hne
        rw [Label.beat, if_neg hne] at hclear
        cases hclear
      refine .clear (fun m => if_pos hupd) fun m => ?_
      simp [AppData.takeMat, hupd]
    | takeAmt | takeEmt | takeXct =>
      rw [List.mem_singleton.mp hx] at hclear
      cases hclear
    | loaded => cases hx
  · cases ha
    exact .clear (fun _ => rfl) fun _ => rfl

/-- From right counters to right counters, whatever the cooldowns; and from any
counters if there is a clear on the way. -/
def SettlesCooling (s : AppData cfg) (l : List (Label cfg)) (t : AppData cfg) : Prop :=
  (∀ C h, Cooling C h s → Cooling C (h ++ l) t) ∧
    ((∃ x ∈ l, ∃ m, x.beat m = .clear) → ∀ C h, Cooling C (h ++ l) t)

theorem settlesCooling_law : Law (@SettlesCooling cfg) := by
  refine ⟨fun s => ⟨fun C h hs => by rwa [List.append_nil], by simp⟩, ?_⟩
  rintro s t u l l' ⟨hst, hclear⟩ ⟨htu, hclear'⟩
  refine ⟨fun C h hs => ?_, ?_⟩
  · rw [← List.append_assoc]
    exact htu C _ (hst C h hs)
  · rintro ⟨x, hx, m, hxm⟩ C h
    rw [← List.append_assoc]
    rcases List.mem_append.mp hx with hx | hx
    · exact htu C _ (hclear ⟨x, hx, m, hxm⟩ C h)
    · exact hclear' ⟨x, hx, m, hxm⟩ C _

theorem Does.settlesCooling {α : Type} {ks : List Kind} {p : HsM cfg α} (hp : Does ks p s)
    (hks : ∀ k ∈ ks, k ≠ .message := by decide) : SettlesCooling s (p s).log (p s).state :=
  hp.law settlesCooling_law fun k hk _ _ _ ha =>
    ⟨fun _ _ => ha.cooling (hks k hk), fun ⟨_, hx, _, hclear⟩ _ _ => ha.cooling_of_clear hx hclear⟩

/-! ### The judgement of a message action -/

/-- A message action is sent if and only if the table is loaded, the row is not disabled
and has cooled down; and a transmission is what such an action does. -/
structure Judged (before : List (Label cfg)) (x : Label cfg) : Prop where
  asked : ∀ (m : Fin cfg.maxMsgActTypes) state row sent, x = .mark (.msgAct m state row sent) →
    (sent = true ↔ state = .enabled ∧ ∃ r, row = some r ∧ r.enableState ≠ matStateDisabled ∧
      Quiet (Label.beat m) r.cooldown.toNat before)
  sent : ∀ m r, x = .call (.transmitMsg m r) →
    ∃ b, before = b ++ [.mark (.msgAct m .enabled (some r) true)]

theorem Judged.of_kinds {before : List (Label cfg)} {x : Label cfg} {k : Kind}
    (hk : k ≠ .message) (hx : k ∈ x.kinds) : Judged before x := by
  refine ⟨?_, ?_⟩
  · rintro m state row sent rfl
    exact absurd (List.mem_singleton.mp hx) hk
  · rintro m r rfl
    exact absurd (List.mem_singleton.mp hx) hk

/-- The counters stand right for the cooldowns in the table. -/
structure CoolingTable (C : Fin cfg.maxMsgActTypes → UInt16) (h : List (Label cfg))
    (s : AppData cfg) : Prop where
  cooling : Cooling C h s
  table : ∀ mat, s.maTablePtr = some mat → ∀ m, (mat m).cooldown = C m

theorem CoolingTable.eq_zero_iff (hs : CoolingTable C h s) {mat : MAT cfg}
    (hmat : s.maTablePtr = some mat) :
    s.msgActCooldown m = 0 ↔ Quiet (Label.beat m) (mat m).cooldown.toNat h := by
  rw [hs.table mat hmat m, ← remaining_eq_zero_iff, ← hs.cooling m, ← UInt16.toNat_inj]
  rfl

/-- **Every act sends and holds back as the counters say.** -/
theorem Act.judged {k : Kind} (hk : k.keepsTables = true) (ha : Act k s l t) :
    KeepsAlong (CoolingTable C) Judged s l t := by
  intro h hs
  have htable : ∀ mat, t.maTablePtr = some mat → ∀ m, (mat m).cooldown = C m := by
    have hptr : t.maTablePtr = s.maTablePtr := congrArg TableView.mat (ha.tables_eq hk)
    rw [hptr]
    exact hs.table
  by_cases hmsg : k = .message
  · subst hmsg
    cases ha with
    | transmit idx mat hon hzero hmat hen =>
      refine ⟨⟨hs.cooling.transmit (hs.table mat hmat idx), htable⟩, ?_⟩
      refine Along.append (l := [_]) (.single ⟨?_, by simp⟩) (.single ⟨by simp, ?_⟩)
      · simp only [Label.mark.injEq, Mark.msgAct.injEq, and_imp]
        rintro m state row sent hm rfl rfl rfl
        obtain rfl := Fin.ext hm
        simpa [hen] using (hs.eq_zero_iff hmat).mp hzero
      · simp only [Label.call.injEq, Call.transmitMsg.injEq, and_imp]
        rintro m r rfl rfl
        exact ⟨h, rfl⟩
    | held idx hheld =>
      refine ⟨⟨hs.cooling.idle (by simp [Label.beat]) rfl, htable⟩, .single ⟨?_, by simp⟩⟩
      simp only [Label.mark.injEq, Mark.msgAct.injEq, and_imp]
      rintro m state row sent hm rfl rfl rfl
      obtain rfl := Fin.ext hm
      refine iff_of_false (by simp) ?_
      rintro ⟨hon, r, hr, hen, hquiet⟩
      obtain ⟨mat, hmat, rfl⟩ := Option.map_eq_some_iff.mp hr
      rcases hheld with hoff | hhot | ⟨mat', hmat', hdis⟩
      · rw [hon] at hoff
        cases hoff
      · rw [List.append_nil] at hquiet
        exact hhot ((hs.eq_zero_iff hmat).mpr hquiet)
      · rw [hmat] at hmat'
        cases hmat'
        exact hen hdis
    | heldInvalid idx hge =>
      refine ⟨⟨hs.cooling.idle (by simp [Label.beat]) rfl, htable⟩, .single ⟨?_, by simp⟩⟩
      simp only [Label.mark.injEq, Mark.msgAct.injEq, and_imp]
      rintro m state row sent rfl
      exact absurd m.isLt (Nat.not_lt.mpr hge)
  · exact ⟨⟨ha.cooling hmsg hs.cooling, htable⟩,
      .of_forall fun x hx _ => .of_kinds hmsg (ha.mem_kinds hx)⟩

/-- The action that is sent is followed by its transmission. -/
def Transmitted (x : Label cfg) (after : List (Label cfg)) : Prop :=
  ∀ (m : Fin cfg.maxMsgActTypes) state row, x = .mark (.msgAct m state row true) →
    ∃ r rest, row = some r ∧ after = .call (.transmitMsg m r) :: rest

theorem Act.transmitted {k : Kind} (ha : Act k s l t) : Ahead Transmitted l := by
  intro before x after hl m state row hx
  subst hx
  have hmem : Label.mark (.msgAct m state row true) ∈ l := by simp [hl]
  have hk := ha.mem_kinds hmem
  rw [Label.kinds, List.mem_singleton] at hk
  subst hk
  cases ha with
  | transmit idx mat =>
    rcases before with _ | ⟨y, before⟩
    · obtain ⟨hmark, rfl⟩ := List.cons.inj hl
      simp only [Label.mark.injEq, Mark.msgAct.injEq, and_true] at hmark
      obtain ⟨hm, -, rfl⟩ := hmark
      obtain rfl := Fin.ext hm
      exact ⟨mat idx, [], rfl, rfl⟩
    · obtain ⟨-, hl⟩ := List.cons.inj hl
      rcases before with _ | ⟨y, before⟩ <;> simp at hl
  | held | heldInvalid => simp at hmem

theorem transmitted_mono (x : Label cfg) (l l' : List (Label cfg)) (h : Transmitted x l) :
    Transmitted x (l ++ l') := by
  intro m state row hx
  obtain ⟨r, rest, hr, rfl⟩ := h m state row hx
  exact ⟨r, rest ++ l', hr, rfl⟩

/-! ### The operations -/

/-- The table changes only when the table services report an update. -/
def MatStable (w : World cfg) : Op cfg → Prop
  | .acquirePointers r => success ≤ r.mat.status → r.mat.status ≠ cfg.tblInfoUpdated →
      ∀ a, w.mat = some a → r.mat.table = a
  | _ => True

/-- The counters stand right for any cooldowns that agree with the table HS last got. -/
structure Cooled (h : List (Label cfg)) (w : World cfg) : Prop where
  ptr : (w.app.maTablePtr <|> w.mat) = w.mat
  cooling : ∀ C : Fin cfg.maxMsgActTypes → UInt16,
    (∀ mat, w.mat = some mat → ∀ m, (mat m).cooldown = C m) → Cooling C h w.app

theorem Cooled.table (hw : Cooled h w)
    (hC : ∀ mat, w.mat = some mat → ∀ m, (mat m).cooldown = C m) : CoolingTable C h w.app := by
  refine ⟨hw.cooling C hC, fun mat hmat => hC mat ?_⟩
  rw [← hw.ptr, hmat]
  rfl

/-- The cooldowns of the table HS last got. -/
def World.cooldowns (w : World cfg) (m : Fin cfg.maxMsgActTypes) : UInt16 :=
  (w.mat.map fun mat => (mat m).cooldown).getD 0

theorem World.cooldowns_eq {mat : MAT cfg} (hmat : w.mat = some mat)
    (m : Fin cfg.maxMsgActTypes) : (mat m).cooldown = w.cooldowns m := by
  rw [World.cooldowns, hmat]
  rfl

/-- An operation that leaves the tables alone. -/
theorem Cooled.of_tables {op : Op cfg} (hinit : op.isInit = false)
    (hks : ∀ k ∈ op.kinds, k.keepsTables = true) (hw : Cooled h w) :
    Cooled (h ++ (op.run w.app).log) (w.after op) ∧
      Along (fun before => Judged (h ++ before)) (op.run w.app).log := by
  have hkeeps (C : Fin cfg.maxMsgActTypes → UInt16) :=
    (op.does w.app).law (KeepsAlong.law (CoolingTable C) Judged)
      (fun k hk _ _ _ ha => ha.judged (hks k hk)) h
  have hptr : (op.run w.app).state.maTablePtr = w.app.maTablePtr :=
    congrArg TableView.mat ((op.does w.app).tables_eq hks)
  have hmat : (w.after op).mat = w.mat := by
    show (_ <|> if op.isInit then none else w.mat) = w.mat
    rw [hptr, hinit]
    exact hw.ptr
  refine ⟨⟨?_, fun C hC => ?_⟩, (hkeeps w.cooldowns (hw.table fun _ => World.cooldowns_eq)).2⟩
  · rw [hmat]
    show ((op.run w.app).state.maTablePtr <|> w.mat) = w.mat
    rw [hptr]
    exact hw.ptr
  · rw [hmat] at hC
    exact (hkeeps C (hw.table hC)).1.cooling

theorem along_judged_of_kinds {op : Op cfg} (hks : ∀ k ∈ op.kinds, k ≠ .message)
    {s : AppData cfg} : Along (fun before => Judged (h ++ before)) (op.run s).log := by
  refine .of_forall fun x hx _ => ?_
  obtain ⟨k, hk, hkx⟩ := (op.does s).kind_of_mem hx
  exact .of_kinds (hks k hk) hkx

theorem cooled_of_acquirePointers {r : AcquireIn cfg} (hw : Cooled h w)
    (hstable : MatStable w (.acquirePointers r)) :
    Cooled (h ++ ((Op.acquirePointers r).run w.app).log) (w.after (.acquirePointers r)) := by
  obtain ⟨hkeep, hclear⟩ := (acquirePointers_does r w.app).settlesCooling
  have hptr : (acquirePointers r w.app).state.maTablePtr = r.mat.ptr :=
    congrArg TableView.mat (acquirePointers_tables r w.app)
  have hmat : (w.after (.acquirePointers r)).mat = (r.mat.ptr <|> w.mat) := by
    show ((acquirePointers r w.app).state.maTablePtr <|> _) = _
    rw [hptr]
    rfl
  refine ⟨?_, fun C hC => ?_⟩
  · show ((acquirePointers r w.app).state.maTablePtr <|> _) = _
    rw [hptr, hmat]
    cases r.mat.ptr <;> rfl
  by_cases hupd : r.mat.status = cfg.tblInfoUpdated
  · intro m
    exact hclear ⟨_, getAddress_mem_acquirePointers r w.app, m, if_pos hupd⟩ C h m
  · refine hkeep C h (hw.cooling C fun mat hw' => hC mat ?_)
    rw [hmat]
    by_cases hneg : r.mat.status < success
    · rw [TblReply.ptr_eq_none.mpr hneg, hw']
      rfl
    · have hle : success ≤ r.mat.status := Int.not_lt.mp hneg
      rw [TblReply.ptr_eq_some.mpr ⟨hle, hstable hle hupd mat hw'⟩]
      rfl

theorem cooled_of_appInit (i : InitIn cfg) :
    Cooled (h ++ ((Op.appInit i).run w.app).log) (w.after (.appInit i)) := by
  obtain ⟨-, hclear⟩ := ((Op.appInit i).does w.app).settlesCooling (by
    simp only [Op.kinds]
    decide)
  refine ⟨?_, fun C _ m => hclear ⟨.mark .boot, ?_, m, rfl⟩ C h m⟩
  · show (((Op.appInit i).run w.app).state.maTablePtr <|>
      (((Op.appInit i).run w.app).state.maTablePtr <|> (none : Option (MAT cfg)))) =
      (((Op.appInit i).run w.app).state.maTablePtr <|> none)
    cases ((Op.appInit i).run w.app).state.maTablePtr <;> rfl
  · rw [Op.run, Prog.discard_apply, appInit, Prog.emit_bind]
    exact List.mem_cons_self

/-! ### Runs -/

/-- **Every operation keeps the counters right and sends as they say.** -/
theorem cooled_after {op : Op cfg} (hop : op.isInit = true ∨ Cooled h w)
    (hstable : MatStable w op) :
    Cooled (h ++ (op.run w.app).log) (w.after op) ∧
      Along (fun before => Judged (h ++ before)) (op.run w.app).log := by
  cases op with
  | appInit i =>
    refine ⟨cooled_of_appInit i, along_judged_of_kinds ?_⟩
    simp only [Op.kinds]
    decide
  | acquirePointers r =>
    refine ⟨cooled_of_acquirePointers (hop.resolve_left (by simp [Op.isInit])) hstable,
      along_judged_of_kinds ?_⟩
    simp only [Op.kinds]
    decide
  | appPipe msg r =>
    refine Cooled.of_tables rfl (fun k hk => ?_) (hop.resolve_left (by simp [Op.isInit]))
    have hall : ∀ k ∈ anyCmdKinds, k.keepsTables = true := by decide
    exact hall k (cmdKinds_subset cfg msg hk)
  | _ =>
    refine Cooled.of_tables rfl ?_ (hop.resolve_left (by simp [Op.isInit]))
    simp only [Op.kinds]
    decide

theorem Run.cooled (hrun : World.Run MatStable w l w') :
    KeepsAlong (fun h (w : World cfg) => w.up = true → Cooled h w) Judged w l w' := by
  refine Chain.lift (KeepsAlong.law _ _) ?_ hrun
  rintro w - - ⟨op, hop, hstable, rfl, rfl⟩ h hw
  obtain ⟨hcooled, halong⟩ := cooled_after (hop.imp_right hw) hstable
  exact ⟨fun _ => hcooled, halong⟩

theorem Run.transmitted (hrun : World.Run MatStable w l w') : Ahead Transmitted l := by
  refine Chain.lift (R := fun _ l _ => Ahead Transmitted l) (Ahead.law transmitted_mono) ?_ hrun
  rintro w - - ⟨op, -, -, rfl, rfl⟩
  exact (op.does w.app).law (Ahead.law transmitted_mono) fun _ _ _ _ _ ha => ha.transmitted

/-- **Whenever a monitor asks for a message action, it is sent if and only if the table is
loaded, its row is not disabled and every transmission of it since the last update of
the table lies at least `Cooldown` cycles back; nothing else sends one; and whenever HS
is up the counter is what remains of the cooldown.**  The run may contain any
operations in any order, as long as the table changes only with an update; it starts
with `HS_AppInit`. -/
theorem msgAct_sent_iff (hw : w.up = false) (hrun : World.Run MatStable w l w') :
    (∀ before (m : Fin cfg.maxMsgActTypes) state row sent after,
      l = before ++ .mark (.msgAct m state row sent) :: after →
        ((∃ r rest, row = some r ∧ after = .call (.transmitMsg m r) :: rest) ↔
          state = .enabled ∧ ∃ r, row = some r ∧ r.enableState ≠ matStateDisabled ∧
            Quiet (Label.beat m) r.cooldown.toNat before)) ∧
    (∀ before m r after, l = before ++ .call (.transmitMsg m r) :: after →
      ∃ b, before = b ++ [.mark (.msgAct m .enabled (some r) true)]) ∧
    (w'.up = true → ∀ mat, w'.mat = some mat → ∀ m : Fin cfg.maxMsgActTypes,
      (w'.app.msgActCooldown m).toNat =
        remaining (mat m).cooldown.toNat (age (Label.beat m) l)) := by
  obtain ⟨hcooled, halong⟩ := Run.cooled hrun [] (fun hup => by rw [hw] at hup; cases hup)
  have hahead := Run.transmitted hrun
  refine ⟨fun before m state row sent after hl => ?_, fun before m r after hl => ?_,
    fun hup mat hmat m => ?_⟩
  · have hasked := (halong before _ after hl).asked m state row sent rfl
    rw [List.nil_append] at hasked
    rw [← hasked]
    constructor
    · rintro ⟨r, rest, -, rfl⟩
      have hsplit : l = (before ++ [.mark (.msgAct m state row sent)]) ++
          .call (.transmitMsg m r) :: rest := by rw [hl]; simp
      obtain ⟨b, hb⟩ := (halong _ _ _ hsplit).sent m r rfl
      rw [List.nil_append] at hb
      obtain ⟨-, hmark⟩ := List.append_inj' hb rfl
      simp only [List.cons.injEq, Label.mark.injEq, Mark.msgAct.injEq] at hmark
      exact hmark.1.2.2.2
    · rintro rfl
      exact hahead before _ after hl m state row rfl
  · simpa using (halong before _ after hl).sent m r rfl
  · refine (hcooled hup).cooling (fun m => (mat m).cooldown) (fun mat' hmat' m => ?_) m
    rw [hmat] at hmat'
    cases hmat'
    rfl

/-- Tables with an event that sends a message with a cooldown of two cycles. -/
def messageOnEvent : AcquireIn .small :=
  .ok (fun _ => ⟨[], 0, 0, 0⟩) (fun _ => ⟨[65], 0, 7, emtActLastNonmsg + 1⟩)
    (fun _ => ⟨matStateEnabled, 2, ⟨0, 0⟩⟩) (fun _ => ⟨[], 0, 0⟩)

/-- That event. -/
def messageEvent : Op .small :=
  .receiveEvent ⟨[65], 7⟩ fun _ => ⟨⟨success, 0, true⟩, success, success, true⟩

theorem msgAct_sent_iff_once :
    let w := (World.off .small).after (.appInit (.ok messageOnEvent))
    let l := ((Op.appInit (.ok messageOnEvent)).run (initialData .small)).log ++
      ((messageEvent.run w.app).log ++ (decrementCooldowns (w.after messageEvent).app).log)
    let w' := (w.after messageEvent).after .decrementCooldowns
    w'.app.msgActCooldown ⟨0, by decide⟩ = 1 ∧
      (w'.app.msgActCooldown ⟨0, by decide⟩).toNat =
        remaining 2 (age (Label.beat ⟨0, by decide⟩) l) := by
  intro w l w'
  have hinit : World.Run MatStable (World.off .small)
      ((Op.appInit (.ok messageOnEvent)).run (initialData .small)).log w := .op (.inl rfl) trivial
  have hevent : World.Run MatStable w (messageEvent.run w.app).log (w.after messageEvent) :=
    .op (.inr rfl) trivial
  have htick : World.Run MatStable (w.after messageEvent)
      ((Op.decrementCooldowns : Op .small).run (w.after messageEvent).app).log w' :=
    .op (.inr rfl) trivial
  have h := (msgAct_sent_iff rfl (hinit.trans (hevent.trans htick))).2.2 rfl _ rfl ⟨0, by decide⟩
  exact ⟨by decide, h⟩

end HealthSafety
