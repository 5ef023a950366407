import OgpuSdk.Types.Errors

/-!
# Logs and events

A `LogEntry` is a log of the Nexus contract as web3 decodes it, a mapping in
which keys may be missing. The event types are what the watchers yield; for
each, `ReadFrom entry event` says that the event is what the entry holds.
-/

namespace OgpuSdk

/-- An argument of a log: an address as web3 spells it, or an unsigned integer. -/
inductive LogArg where
  | address (text : String)
  | uint (n : Nat)
  deriving DecidableEq

/-- `str(arg)` -/
def LogArg.str : LogArg → String
  | .address text => text
  | .uint n => toString n

/-- `int(arg)`; the text of an address starts with `0x` and is no decimal number. -/
def LogArg.int : LogArg → Except Exc ℤ
  | .address text => .error (.raw ⟨.exception "ValueError",
      "invalid literal for int() with base 10: " ++ Json.reprStr text⟩)
  | .uint n => .ok n

structure LogEntry where
  args : Option (List (String × LogArg))
  blockNumber : Option ℤ
  transactionHash : Option TxHash
  logIndex : Option ℤ

/-- `entry.get("args", {}).get(name)` -/
def LogEntry.arg? (entry : LogEntry) (name : String) : Option LogArg :=
  (entry.args.getD []).lookup name

/-- `entry["args"][name]` -/
def LogEntry.arg (entry : LogEntry) (name : String) : Except Exc LogArg :=
  match entry.args with
  | none => .error (.raw ⟨.keyError, "'args'"⟩)
  | some args =>
    match args.lookup name with
    | none => .error (.raw ⟨.keyError, "'" ++ name ++ "'"⟩)
    | some arg => .ok arg

theorem LogEntry.arg_eq {entry : LogEntry} {name : String} {arg : LogArg}
    (h : entry.arg? name = some arg) : entry.arg name = .ok arg := by
  unfold LogEntry.arg? at h
  unfold LogEntry.arg
  cases ha : entry.args with
  | none => rw [ha] at h; cases h
  | some args =>
    rw [ha, Option.getD_some] at h
    simp only [h]

/-! ## Statuses -/

/-- An `IntEnum` called with a code: the member of that value. -/
def enumOfInt {α : Type} (name : String) (value : α → ℤ) (members : List α) (code : ℤ) :
    Except Exc α :=
  match members.find? (value · = code) with
  | some member => .ok member
  | none => .error (.raw ⟨.exception "ValueError", toString code ++ " is not a valid " ++ name⟩)

section

variable {α : Type} {name : String} {value : α → ℤ} {members : List α} {n code : Nat}

/-- The code an enum is called with is the value of the member it gives. -/
theorem value_of_enumOfInt {code : ℤ} {member : α}
    (h : enumOfInt name value members code = .ok member) : code = value member := by
  unfold enumOfInt at h
  split at h
  · next hfind =>
    cases h
    have hvalue := List.find?_some hfind
    exact (of_decide_eq_true hvalue).symm
  · cases h

/-- An enum of the values `0`, …, `n - 1` has a member for each code below `n`. -/
theorem enumOfInt_member (hvalues : members.map value = (List.range n).map Int.ofNat)
    (hlt : code < n) : ∃ member, enumOfInt name value members code = .ok member := by
  have hmem : (code : ℤ) ∈ members.map value :=
    hvalues ▸ List.mem_map_of_mem (List.mem_range.mpr hlt)
  obtain ⟨member, hmember, hvalue⟩ := List.mem_map.mp hmem
  unfold enumOfInt
  cases hfind : members.find? (value · = (code : ℤ)) with
  | some found => exact ⟨found, rfl⟩
  | none => exact absurd (List.find?_eq_none.mp hfind member hmember) (by simp [hvalue])

/-- It has none for the codes from `n` on. -/
theorem enumOfInt_other (hvalues : members.map value = (List.range n).map Int.ofNat)
    (hle : n ≤ code) : enumOfInt name value members code =
      .error (.raw ⟨.exception "ValueError", toString (code : ℤ) ++ " is not a valid " ++ name⟩) := by
  have hnone : members.find? (value · = (code : ℤ)) = none := by
    rw [List.find?_eq_none]
    intro member hmember
    have hmem : value member ∈ (List.range n).map Int.ofNat :=
      hvalues ▸ List.mem_map_of_mem hmember
    obtain ⟨k, hk, hvalue⟩ := List.mem_map.mp hmem
    have hvalue : (k : ℤ) = value member := hvalue
    have hlt := List.mem_range.mp hk
    rw [decide_eq_true_eq, ← hvalue]
    omega
  unfold enumOfInt
  rw [hnone]

end

inductive TaskStatus where
  | new | attempted | responded | canceled | expired | finalized
  deriving DecidableEq, Repr

def TaskStatus.value : TaskStatus → Nat
  | .new => 0
  | .attempted => 1
  | .responded => 2
  | .canceled => 3
  | .expired => 4
  | .finalized => 5

inductive ResponseStatus where
  | submitted | confirmed
  deriving DecidableEq, Repr

def ResponseStatus.value : ResponseStatus → Nat
  | .submitted => 0
  | .confirmed => 1

/-- `TaskStatus(code)` -/
def TaskStatus.ofInt (code : ℤ) : Except Exc TaskStatus :=
  enumOfInt "TaskStatus" (·.value) [.new, .attempted, .responded, .canceled, .expired, .finalized]
    code

/-- `ResponseStatus(code)` -/
def ResponseStatus.ofInt (code : ℤ) : Except Exc ResponseStatus :=
  enumOfInt "ResponseStatus" (·.value) [.submitted, .confirmed] code

@[simp] theorem TaskStatus.ofInt_value (status : TaskStatus) :
    ofInt status.value = .ok status := by
  cases status <;> rfl

@[simp] theorem ResponseStatus.ofInt_value (status : ResponseStatus) :
    ofInt status.value = .ok status := by
  cases status <;> rfl

/-! ## Events -/

/-- The fields every event has. -/
structure BaseFields where
  blockNumber : ℤ
  transactionHash : String
  logIndex : ℤ
  deriving DecidableEq

structure TaskPublishedEvent extends BaseFields where
  task : String
  source : String
  deriving DecidableEq

structure AttemptedEvent extends BaseFields where
  task : String
  provider : String
  suggestedPayment : ℤ
  deriving DecidableEq

structure ResponseSubmittedEvent extends BaseFields where
  response : String
  task : String
  deriving DecidableEq

structure ResponseStatusChangedEvent extends BaseFields where
  response : String
  status : ResponseStatus
  deriving DecidableEq

structure TaskStatusChangedEvent extends BaseFields where
  task : String
  status : TaskStatus
  deriving DecidableEq

structure RegisteredEvent extends BaseFields where
  provider : String
  registrantId : ℤ
  source : String
  deriving DecidableEq

def baseFields (entry : LogEntry) : BaseFields where
  blockNumber := entry.blockNumber.getD 0
  transactionHash := (entry.transactionHash.getD (.bytes [])).text
  logIndex := entry.logIndex.getD 0

/-! ## What an entry holds -/

/-- The entry holds these fields, none of them by default. -/
structure BaseFields.ReadFrom (entry : LogEntry) (base : BaseFields) : Prop where
  blockNumber : entry.blockNumber = some base.blockNumber
  transactionHash : entry.transactionHash.map TxHash.text = some base.transactionHash
  logIndex : entry.logIndex = some base.logIndex

theorem BaseFields.ReadFrom.eq {entry : LogEntry} {base : BaseFields} (h : base.ReadFrom entry) :
    baseFields entry = base := by
  obtain ⟨hblock, hhash, hindex⟩ := h
  obtain ⟨hash, hh, ht⟩ := Option.map_eq_some_iff.mp hhash
  unfold baseFields
  rw [hblock, hh, hindex, Option.getD_some, Option.getD_some, Option.getD_some, ht]

structure TaskPublishedEvent.ReadFrom (entry : LogEntry) (event : TaskPublishedEvent) : Prop
    extends BaseFields.ReadFrom entry event.toBaseFields where
  task : entry.arg? "task" = some (.address event.task)
  source : entry.arg? "source" = some (.address event.source)

structure AttemptedEvent.ReadFrom (entry : LogEntry) (event : AttemptedEvent) : Prop
    extends BaseFields.ReadFrom entry event.toBaseFields where
  task : entry.arg? "task" = some (.address event.task)
  provider : entry.arg? "provider" = some (.address event.provider)
  suggestedPayment : ∃ n : Nat, entry.arg? "suggestedPayment" = some (.uint n) ∧
    event.suggestedPayment = n

structure ResponseSubmittedEvent.ReadFrom (entry : LogEntry) (event : ResponseSubmittedEvent) : Prop
    extends BaseFields.ReadFrom entry event.toBaseFields where
  response : entry.arg? "response" = some (.address event.response)
  task : entry.arg? "task" = some (.address event.task)

structure ResponseStatusChangedEvent.ReadFrom (entry : LogEntry)
    (event : ResponseStatusChangedEvent) : Prop
    extends BaseFields.ReadFrom entry event.toBaseFields where
  response : entry.arg? "response" = some (.address event.response)
  status : entry.arg? "status" = some (.uint event.status.value)

structure TaskStatusChangedEvent.ReadFrom (entry : LogEntry) (event : TaskStatusChangedEvent) : Prop
    extends BaseFields.ReadFrom entry event.toBaseFields where
  task : entry.arg? "task" = some (.address event.task)
  status : entry.arg? "status" = some (.uint event.status.value)

structure RegisteredEvent.ReadFrom (entry : LogEntry) (event : RegisteredEvent) : Prop
    extends BaseFields.ReadFrom entry event.toBaseFields where
  provider : entry.arg? "provider" = some (.address event.provider)
  registrantId : ∃ n : Nat, entry.arg? "registrantId" = some (.uint n) ∧ event.registrantId = n
  source : entry.arg? "source" = some (.address event.source)

end OgpuSdk
