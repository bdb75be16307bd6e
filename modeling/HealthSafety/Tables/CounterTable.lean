import HealthSafety.Tables.CommandReads
import HealthSafety.Tables.Validate

/-!
# The execution counter table

`HS_ValidateXCTable` copies the 32-bit resource type of an entry into a 16-bit local
before it looks at it, and `HS_SendHkCmd` switches on all 32 bits.  So the validator
accepts types that the housekeeping request does not know, and leaves the null
terminator of such an entry unchecked.  The two agree on an accepted table if and only
if no type in it needs more than 16 bits (`xct_serves_requests_iff`).
-/

namespace HealthSafety

open Lib

variable {cfg : Config} {xct : XCT cfg}

/-! ### The validator -/

/-- `HS_ValidateXCTable` returns `CFE_SUCCESS` on the table. -/
def XCT.Accepted (xct : XCT cfg) : Prop :=
  ∀ s : AppData cfg, (validateXCTable (some xct) s).val = .ok success

theorem xctClass_bad {row : XCTEntry} {err : Int} (h : xctClass row = .bad err) :
    err ≠ success := by
  rcases monitorClass_bad h with rfl | rfl <;> decide

theorem XCT.accepted_iff : xct.Accepted ↔ ∀ i err, xctClass (xct i) ≠ .bad err := by
  have h (s : AppData cfg) : (validateXCTable (some xct) s).val = .ok success ↔
      ∀ i err, xctClass (xct i) ≠ .bad err :=
    validateTable_accepts_iff (fun _ _ => xctClass_bad) _ _ _ _ xct s
  exact ⟨fun hacc => (h (initialData cfg)).mp (hacc _), fun hall s => (h s).mpr hall⟩

/-- The resource types `HS_SendHkCmd` looks up. -/
def KnownType (resourceType : UInt32) : Prop :=
  resourceType = xctTypeAppMain ∨ resourceType = xctTypeAppChild ∨
    resourceType = xctTypeDevice ∨ resourceType = xctTypeIsr

/-- What the validator is for: a known type and a terminated name, unless the entry is not
used. -/
structure XCTEntry.Sound (row : XCTEntry) : Prop where
  known : row.resourceType = xctTypeNotype ∨ KnownType row.resourceType
  nullTerm : row.resourceType ≠ xctTypeNotype → row.nullTerm = 0

theorem KnownType.lt {t : UInt32} (h : t = xctTypeNotype ∨ KnownType t) : t.toNat < 2 ^ 16 := by
  rcases h with rfl | rfl | rfl | rfl | rfl <;> decide

theorem toUInt16_toUInt32 {t : UInt32} (h : t.toNat < 2 ^ 16) : t.toUInt16.toUInt32 = t := by
  rw [← UInt32.toNat_inj, UInt16.toNat_toUInt32, UInt32.toNat_toUInt16]
  exact Nat.mod_eq_of_lt h

/-- As long as the type fits into 16 bits, the checks are the right ones. -/
theorem sound_of_not_bad {row : XCTEntry} (hlt : row.resourceType.toNat < 2 ^ 16)
    (h : ∀ err, xctClass row ≠ .bad err) : row.Sound := by
  unfold xctClass at h
  dsimp only at h
  rw [toUInt16_toUInt32 hlt] at h
  by_cases hno : row.resourceType = xctTypeNotype
  · exact ⟨.inl hno, fun hne => absurd hno hne⟩
  rw [if_neg hno] at h
  by_cases hnull : row.nullTerm = 0
  · refine ⟨.inr ?_, fun _ => hnull⟩
    rw [if_neg (not_not.mpr hnull)] at h
    by_contra hk
    unfold KnownType at hk
    push Not at hk
    rw [if_pos hk] at h
    exact h _ rfl
  · rw [if_pos hnull] at h
    exact absurd rfl (h _)

/-! ### The housekeeping request -/

/-- The branch of `HS_SendHkCmd` for an unknown resource. -/
def Label.unknownResource : Label cfg → Bool
  | .call (.sendEvent .hkreqResourceDbg _ _) => true
  | _ => false

/-- While the table is `xct`, `m` does not come to that branch. -/
abbrev NoUnknown {α : Type} (xct : XCT cfg) (m : HsM cfg α) : Prop :=
  Logs (fun s => s.xcTablePtr = some xct) (fun x => x.unknownResource = false)
    (fun s => s.xcTablePtr = some xct) m

theorem NoUnknown.read {α : Type} {f : AppData cfg → HsM cfg α}
    (h : ∀ s : AppData cfg, s.xcTablePtr = some xct → NoUnknown xct (f s)) :
    NoUnknown xct (appData >>= f) := by
  refine Logs.get_bind fun s hs => ?_
  intro t ht
  subst ht
  exact h t hs t hs

theorem NoUnknown.bind {α β : Type} {m : HsM cfg α} {f : α → HsM cfg β} (hm : NoUnknown xct m)
    (hf : ∀ a, NoUnknown xct (f a)) : NoUnknown xct (m >>= f) := Logs.bind (fun _ h => h) hm hf

theorem NoUnknown.pure {α : Type} (a : α) : NoUnknown xct (Pure.pure a : HsM cfg α) :=
  Logs.pure (fun _ h => h) a

theorem deref_noUnknown {α : Type} (tbl : TableId) (reader : Reader) (o : Option α) :
    NoUnknown xct (deref tbl reader o) := by
  cases o with
  | some t => exact NoUnknown.pure t
  | none =>
    refine NoUnknown.bind (Logs.emit rfl) fun _ => ?_
    intro s hs
    exact ⟨hs, fun _ hx => by cases hx⟩

theorem readEmt_noUnknown (reader : Reader) (i : Fin cfg.maxMonitoredEvents) :
    NoUnknown xct (readEmt reader i) := by
  refine NoUnknown.read fun s _ => ?_
  refine NoUnknown.bind (deref_noUnknown _ _ _) fun emt => ?_
  exact NoUnknown.bind (Logs.emit rfl) fun _ => NoUnknown.pure _

theorem readXct_apply {s : AppData cfg} (hs : s.xcTablePtr = some xct) (reader : Reader)
    (i : Fin cfg.maxExecCntSlots) :
    readXct reader i s = ⟨.ok (xct i), s, [.mark (.rowRead reader (.xct i (xct i)))]⟩ := by
  simp [readXct, hs]

/-- What follows a read works on the row of the table. -/
theorem readXct_noUnknown {α : Type} {f : XCTEntry → HsM cfg α} (reader : Reader)
    (i : Fin cfg.maxExecCntSlots) (h : NoUnknown xct (f (xct i))) :
    NoUnknown xct (readXct reader i >>= f) := by
  intro s hs
  obtain ⟨hkeep, hlog⟩ := h s hs
  rw [Prog.bind_ok (readXct_apply hs reader i)]
  refine ⟨hkeep, fun x hx => ?_⟩
  rcases List.mem_append.mp hx with hx | hx
  · rw [List.mem_singleton.mp hx]
    rfl
  · exact hlog x hx

theorem modifyHk_noUnknown (f : AppData cfg → HkTlmPayload cfg) : NoUnknown xct (modifyHk f) :=
  Logs.modify fun _ hs => hs

theorem countInvalidEvent_noUnknown (status : Fin cfg.maxMonitoredEvents → Status)
    (i : Fin cfg.maxMonitoredEvents) : NoUnknown xct (countInvalidEvent status i) := by
  refine NoUnknown.bind (readEmt_noUnknown _ i) fun row => ?_
  refine Logs.ite ?_ (NoUnknown.pure ())
  refine NoUnknown.bind (Logs.emit rfl) fun _ => ?_
  exact Logs.ite (modifyHk_noUnknown _) (NoUnknown.pure ())

/-- A type that is known, or unused, does not lead to the branch. -/
theorem exeCount_noUnknown {row : XCTEntry}
    (h : row.resourceType = xctTypeNotype ∨ KnownType row.resourceType) (lk : ExeLookup) :
    NoUnknown xct (exeCount row lk) := by
  unfold exeCount
  by_cases happ : row.resourceType = xctTypeAppMain ∨ row.resourceType = xctTypeAppChild
  · rw [if_pos happ]
    refine NoUnknown.bind (Logs.emit rfl) fun _ => ?_
    refine Logs.ite ?_ (NoUnknown.pure _)
    exact NoUnknown.bind (Logs.emit rfl) fun _ => NoUnknown.pure _
  rw [if_neg happ]
  by_cases hdev : row.resourceType = xctTypeDevice ∨ row.resourceType = xctTypeIsr
  · rw [if_pos hdev]
    refine NoUnknown.bind (Logs.emit rfl) fun _ => ?_
    refine Logs.ite ?_ (NoUnknown.pure _)
    exact NoUnknown.bind (Logs.emit rfl) fun _ => NoUnknown.pure _
  have hno : row.resourceType = xctTypeNotype := by
    unfold KnownType at h
    tauto
  rw [if_neg hdev, if_pos hno]
  exact NoUnknown.pure _

theorem reportExeCount_noUnknown
    (h : ∀ i, (xct i).resourceType = xctTypeNotype ∨ KnownType (xct i).resourceType)
    (lks : Fin cfg.maxExecCntSlots → ExeLookup) (i : Fin cfg.maxExecCntSlots) :
    NoUnknown xct (reportExeCount lks i) := by
  refine NoUnknown.read fun d _ => Logs.ite (readXct_noUnknown _ i ?_) (modifyHk_noUnknown _)
  exact NoUnknown.bind (exeCount_noUnknown (h i) (lks i)) fun _ => modifyHk_noUnknown _

theorem sendHkCmd_noUnknown
    (h : ∀ i, (xct i).resourceType = xctTypeNotype ∨ KnownType (xct i).resourceType)
    (r : HkIn cfg) : NoUnknown xct (sendHkCmd r) := by
  refine NoUnknown.bind (Logs.emit rfl) fun _ => ?_
  refine NoUnknown.bind (modifyHk_noUnknown _) fun _ => ?_
  refine NoUnknown.bind (Logs.each _ fun i _ => countInvalidEvent_noUnknown _ i) fun _ => ?_
  refine NoUnknown.bind (modifyHk_noUnknown _) fun _ => ?_
  refine NoUnknown.bind (Logs.each _ fun i _ => reportExeCount_noUnknown h _ i) fun _ => ?_
  exact NoUnknown.read fun d _ => Logs.emit rfl

/-! ### Validator and request -/

/-- The validator keeps its promise to the housekeeping request: every entry of the table is
sound, and no request that works on the table comes to an unknown resource. -/
structure XCT.ServesRequests (xct : XCT cfg) : Prop where
  sound : ∀ i, (xct i).Sound
  known : ∀ (r : HkIn cfg) (s : AppData cfg), s.xcTablePtr = some xct →
    ∀ x ∈ (sendHkCmd r s).log, x.unknownResource = false

/-- **An accepted table serves the housekeeping requests if and only if none of its resource
types needs more than 16 bits.** -/
theorem xct_serves_requests_iff (h : xct.Accepted) :
    xct.ServesRequests ↔ ∀ i, (xct i).resourceType.toNat < 2 ^ 16 := by
  constructor
  · intro hserves i
    exact KnownType.lt (hserves.sound i).known
  · intro hlt
    have hsound : ∀ i, (xct i).Sound := by
      intro i
      exact sound_of_not_bad (hlt i) (XCT.accepted_iff.mp h i)
    refine ⟨hsound, fun r s hs => ?_⟩
    exact (sendHkCmd_noUnknown (fun i => (hsound i).known) r s hs).2

/-- A table whose entry counts the cycles of the main task of application `A`. -/
def usedXct : XCT .small := fun _ => ⟨[65], 0, xctTypeAppMain⟩

theorem xct_serves_requests_used : usedXct.Accepted ∧ usedXct.ServesRequests := by
  have hacc : usedXct.Accepted := by
    refine XCT.accepted_iff.mpr fun i err => ?_
    have hclass : xctClass (usedXct i) = .good := rfl
    rw [hclass]
    exact EntryClass.noConfusion
  exact ⟨hacc, (xct_serves_requests_iff hacc).mpr fun i => show 1 < 2 ^ 16 by decide⟩

/-- A table whose only entry has a type that ends in 16 zero bits, and no null terminator. -/
def wideXct : XCT .small := fun _ => ⟨[], 7, 0x10000⟩

/-- A state in which the execution counters are reported from that table. -/
def withWideXct : AppData .small :=
  { initialData .small with
    exeCountState := .enabled
    emTablePtr := some fun _ => ⟨[], 0, 0, 0⟩
    xcTablePtr := some wideXct }

/-- The validator accepts the table, yet its entry is not sound, and a housekeeping request comes
to an unknown resource. -/
theorem xct_wide_type_accepted : wideXct.Accepted ∧ (∀ i, ¬ (wideXct i).Sound) ∧
    withWideXct.xcTablePtr = some wideXct ∧
    ∃ x ∈ (sendHkCmd repliesOk.hk withWideXct).log, x.unknownResource = true := by
  refine ⟨XCT.accepted_iff.mpr fun i err => ?_, fun i hsound => ?_, rfl, ?_⟩
  · have hclass : xctClass ⟨[], 7, 0x10000⟩ = .unused := by decide
    rw [show xctClass (wideXct i) = .unused from hclass]
    exact EntryClass.noConfusion
  · have hwide : ¬ (0x10000 : UInt32).toNat < 2 ^ 16 := by decide
    exact hwide (KnownType.lt hsound.known)
  · rw [← List.any_eq_true]
    decide

end HealthSafety
