import HealthSafety.Model.Config

/-!
# The tables and the messages

The rows of the four tables (`default_hs_tblstruct.h`) with the constants of
`default_hs_tbldefs.h`, the messages that reach HS, and the answers of the cFE
calls that have an output parameter.

A row of the message-actions table holds a software-bus message.  HS looks at
it only through `CFE_MSG_GetSize` and `CFE_MSG_GetMsgId`, so `MsgBuf` keeps what
these two read from the header.
-/

namespace HealthSafety

/-! ### Names -/

/-- `strncmp(a, b, n) == 0`: compare up to `n` bytes or to the first null. -/
def strncmpEq : Nat → Name → Name → Bool
  | 0, _, _ => true
  | n + 1, a, b =>
    if a.headD 0 ≠ b.headD 0 then false
    else if a.headD 0 = 0 then true
    else strncmpEq n a.tail b.tail

theorem strncmpEq_self (n : Nat) : ∀ a : Name, strncmpEq n a a = true := by
  induction n with
  | zero => intro a; rfl
  | succ n ih =>
    intro a
    rw [strncmpEq, if_neg (not_not.mpr rfl), ih]
    exact ite_self _

/-- What `strncpy(BadName, name, OS_MAX_API_NAME - 1)` leaves as a string. -/
def badName (cfg : Config) (name : Name) : Name :=
  (name.take (cfg.osMaxApiName - 1)).takeWhile (fun c => c ≠ 0)

/-! ### Application monitor table -/

abbrev amtActNoact : UInt16 := 0
abbrev amtActProcReset : UInt16 := 1
abbrev amtActAppRestart : UInt16 := 2
abbrev amtActEvent : UInt16 := 3
abbrev amtActLastNonmsg : UInt16 := 3

structure AMTEntry where
  appName : Name
  nullTerm : UInt16
  cycleCount : UInt16
  actionType : UInt16
  deriving DecidableEq

abbrev AMT (cfg : Config) := Fin cfg.maxMonitoredApps → AMTEntry

/-! ### Event monitor table -/

abbrev emtActNoact : UInt16 := 0
abbrev emtActProcReset : UInt16 := 1
abbrev emtActAppRestart : UInt16 := 2
abbrev emtActAppDelete : UInt16 := 3
abbrev emtActLastNonmsg : UInt16 := 3

structure EMTEntry where
  appName : Name
  nullTerm : UInt16
  eventID : UInt16
  actionType : UInt16
  deriving DecidableEq

abbrev EMT (cfg : Config) := Fin cfg.maxMonitoredEvents → EMTEntry

/-! ### Execution counter table -/

abbrev xctTypeNotype : UInt32 := 0
abbrev xctTypeAppMain : UInt32 := 1
abbrev xctTypeAppChild : UInt32 := 2
abbrev xctTypeDevice : UInt32 := 3
abbrev xctTypeIsr : UInt32 := 4

structure XCTEntry where
  resourceName : Name
  nullTerm : UInt32
  resourceType : UInt32
  deriving DecidableEq

abbrev XCT (cfg : Config) := Fin cfg.maxExecCntSlots → XCTEntry

/-! ### Message actions table -/

abbrev matStateDisabled : UInt16 := 0
abbrev matStateEnabled : UInt16 := 1
abbrev matStateNoevent : UInt16 := 2

/-- The message in a slot: what `CFE_MSG_GetMsgId` and `CFE_MSG_GetSize` return. -/
structure MsgBuf where
  msgId : UInt32
  size : Nat
  deriving DecidableEq

structure MATEntry where
  enableState : UInt16
  cooldown : UInt16
  msgBuf : MsgBuf
  deriving DecidableEq

abbrev MAT (cfg : Config) := Fin cfg.maxMsgActTypes → MATEntry

inductive TableId
  | amt
  | emt
  | mat
  | xct
  deriving DecidableEq, Repr

/-! ### Messages -/

/-- The packet id of an event message, long or short. -/
structure EvtMsg where
  appName : Name
  eventID : UInt16
  deriving DecidableEq

/-- A message on the command pipe.  `maxResets` is the payload field of a
`HS_SetMaxResetsCmd_t`, the only one a handler reads. -/
structure CmdMsg where
  msgId : UInt32
  fcnCode : UInt16
  size : Nat
  maxResets : UInt16
  deriving DecidableEq

/-! ### Answers -/

/-- The answer of a call with an output parameter.  A call that succeeds writes
`out`; one that fails writes it only if `wrote` says so. -/
structure Reply (α : Type) where
  status : Status
  out : α
  wrote : Bool

/-- The output variable after the call, when it held `stale` before. -/
def Reply.value {α : Type} (r : Reply α) (stale : α) : α :=
  if r.status = success ∨ r.wrote then r.out else stale

theorem Reply.value_of_success {α : Type} {r : Reply α} (h : r.status = success) (stale : α) :
    r.value stale = r.out := by
  rw [Reply.value, if_pos (Or.inl h)]

/-- The answer of `CFE_TBL_GetAddress`: its status, and the table the address
points to if there is one. -/
structure TblReply (α : Type) where
  status : Status
  table : α

/-- The table pointer after the call.  A failed acquisition leaves no address. -/
def TblReply.ptr {α : Type} (r : TblReply α) : Option α :=
  if r.status < success then none else some r.table

theorem TblReply.ptr_eq_some {α : Type} {r : TblReply α} {t : α} :
    r.ptr = some t ↔ success ≤ r.status ∧ r.table = t := by
  unfold TblReply.ptr
  by_cases h : r.status < success
  · simp [h, Int.not_le.mpr h]
  · simp [h, Int.not_lt.mp h]

theorem TblReply.ptr_eq_none {α : Type} {r : TblReply α} : r.ptr = none ↔ r.status < success := by
  unfold TblReply.ptr
  split <;> simp_all

end HealthSafety
