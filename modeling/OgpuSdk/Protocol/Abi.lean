import OgpuSdk.Protocol.WriteRuns

/-!
# The writes and the ABIs

A call is encoded by the function of its name in the ABI of its contract, and
the ABI files differ from chain to chain: the state-changing functions of the
files are listed here. `Write.signature` is the function an operation means to
call. What an operation describes fits it, whatever was passed, except for the
integers and for the addresses that are passed on as they are.
-/

namespace OgpuSdk

inductive AbiType where
  | address
  | bool
  | string
  | uint (bits : Nat)
  | tuple (components : List AbiType)
  | array (element : AbiType)

/-- A state-changing function of an ABI file. -/
structure AbiFunction where
  name : String
  inputs : List AbiType
  payable : Bool

/-- A number that fits a `uint` of this many bits. -/
def InUint (bits : Nat) (n : ℤ) : Prop := 0 ≤ n ∧ n < 2 ^ bits

mutual

/-- The value is encoded as one of the type: an address is taken in its checksummed text only. -/
def AbiType.Takes (host : Host) : AbiType → Arg → Prop
  | .address, .str s => host.Checksummed s
  | .bool, .int n => n = 0 ∨ n = 1
  | .string, .str _ => True
  | .uint bits, .int n => InUint bits n
  | .tuple components, .tuple xs => AbiType.TakesAll host components xs
  | .array element, .tuple xs => ∀ x ∈ xs, element.Takes host x
  | _, _ => False

def AbiType.TakesAll (host : Host) : List AbiType → List Arg → Prop
  | [], [] => True
  | t :: ts, x :: xs => t.Takes host x ∧ AbiType.TakesAll host ts xs
  | _, _ => False

end

/-! ## The files -/

/-- The tuple of a source. -/
def sourceParamsType : AbiType :=
  .tuple [.address, .string, .uint 8, .uint 256, .uint 256, .uint 256, .bool, .string, .uint 8,
    .uint 256]

/-- The tuple of a task. -/
def taskParamsType : AbiType := .tuple [.address, .string, .uint 256, .uint 256]

namespace AbiFiles

def NexusAbi : List AbiFunction := [
  ⟨"attempt", [.address, .address, .uint 256], false⟩,
  ⟨"emitTaskPublished", [.address, .address], false⟩,
  ⟨"inactivateSource", [.address], false⟩,
  ⟨"publishSource", [sourceParamsType], false⟩,
  ⟨"register", [.address, .address, .uint 8], false⟩,
  ⟨"renounceOwnership", [], false⟩,
  ⟨"setManager", [.address], false⟩,
  ⟨"setResponseStatus", [.address, .uint 8], false⟩,
  ⟨"setSourceStatus", [.address, .uint 8], false⟩,
  ⟨"setTaskStatus", [.address, .uint 8], false⟩,
  ⟨"setTerminal", [.address], false⟩,
  ⟨"setVault", [.address], false⟩,
  ⟨"submitResponse", [.tuple [.address, .address, .string, .uint 256]], false⟩,
  ⟨"transferOwnership", [.address], false⟩,
  ⟨"unregister", [.address, .address], false⟩,
  ⟨"updateSource", [.address, sourceParamsType], false⟩]

def ControllerAbi : List AbiFunction := [
  ⟨"cancelTask", [.address], false⟩,
  ⟨"confirmResponse", [.address], false⟩,
  ⟨"publishTask", [taskParamsType], false⟩,
  ⟨"renounceOwnership", [], false⟩,
  ⟨"setNexus", [.address], false⟩,
  ⟨"setTerminal", [.address], false⟩,
  ⟨"setVault", [.address], false⟩,
  ⟨"transferOwnership", [.address], false⟩]

def TerminalAbi : List AbiFunction := [
  ⟨"announceMaster", [.address], false⟩,
  ⟨"announceProvider", [.address, .uint 256], true⟩,
  ⟨"removeContainer", [.address, .address], false⟩,
  ⟨"removeProvider", [.address], false⟩,
  ⟨"renounceOwnership", [], false⟩,
  ⟨"setAgent", [.address, .bool], false⟩,
  ⟨"setBaseData", [.string], false⟩,
  ⟨"setDefaultAgentDisabled", [.bool], false⟩,
  ⟨"setLiveData", [.string], false⟩,
  ⟨"setManager", [.address], false⟩,
  ⟨"setVault", [.address], false⟩,
  ⟨"transferOwnership", [.address], false⟩]

/-- The functions of the Vault that the files of both chains have. -/
def VaultAbi : List AbiFunction := [
  ⟨"claim", [], false⟩,
  ⟨"deposit", [.address], true⟩,
  ⟨"forceReleasePayment", [.address, .address], false⟩,
  ⟨"freezePayment", [.address, .address, .uint 256], false⟩,
  ⟨"lock", [.uint 256], false⟩,
  ⟨"processPayment", [.address, .address, .address, .uint 256], false⟩,
  ⟨"releasePayment", [.address, .address], false⟩,
  ⟨"sanction", [.address, .uint 256], false⟩,
  ⟨"setMaxUnbondingPeriod", [.uint 256], false⟩,
  ⟨"setMinLockupPerSource", [.uint 256], false⟩,
  ⟨"setTerminal", [.address], false⟩,
  ⟨"setWhitelist", [.address, .bool], false⟩,
  ⟨"unbond", [.uint 256], false⟩,
  ⟨"waive", [.address, .uint 256], false⟩,
  ⟨"withdraw", [.uint 256], false⟩]

/-- The functions of the Vault that only the mainnet's file has. -/
def VaultAbiMainnet : List AbiFunction := [
  ⟨"cancelUnbonding", [], false⟩,
  ⟨"emergencyExit", [.address], false⟩,
  ⟨"withdrawSanctionOf", [.address], false⟩]

def SourceAbi : List AbiFunction := [
  ⟨"publishTask", [.address], false⟩,
  ⟨"register", [.address, .uint 8], false⟩,
  ⟨"renounceOwnership", [], false⟩,
  ⟨"setSourceParams", [sourceParamsType], false⟩,
  ⟨"setStatus", [.uint 8], false⟩,
  ⟨"transferOwnership", [.address], false⟩,
  ⟨"unregister", [.address], false⟩]

def TaskAbi : List AbiFunction := [
  ⟨"attempt", [.address], false⟩,
  ⟨"renounceOwnership", [], false⟩,
  ⟨"setStatus", [.uint 8], false⟩,
  ⟨"submitResponse", [.address, .address], false⟩,
  ⟨"transferOwnership", [.address], false⟩]

def ResponseAbi : List AbiFunction := [
  ⟨"confirm", [], false⟩,
  ⟨"renounceOwnership", [], false⟩,
  ⟨"setStatus", [.uint 8], false⟩,
  ⟨"transferOwnership", [.address], false⟩]

/-- The state-changing functions in an ABI file of a directory. -/
def functions : String → String → List AbiFunction
  | "mainnet", "VaultAbi" => VaultAbi ++ VaultAbiMainnet
  | _, "VaultAbi" => VaultAbi
  | _, "NexusAbi" => NexusAbi
  | _, "ControllerAbi" => ControllerAbi
  | _, "TerminalAbi" => TerminalAbi
  | _, "SourceAbi" => SourceAbi
  | _, "TaskAbi" => TaskAbi
  | _, "ResponseAbi" => ResponseAbi
  | _, _ => []

/-- The functions of a name, of which `contract.functions[name]` picks one. -/
def named (directory abiName name : String) : List AbiFunction :=
  (functions directory abiName).filter (·.name == name)

end AbiFiles

/-! ## What the operations mean to call -/

def Write.signature : Write → AbiFunction
  | publishSource _ => ⟨"publishSource", [sourceParamsType], false⟩
  | updateSource _ _ => ⟨"updateSource", [.address, sourceParamsType], false⟩
  | inactivateSource _ => ⟨"inactivateSource", [.address], false⟩
  | register _ _ _ => ⟨"register", [.address, .address, .uint 8], false⟩
  | unregister _ _ => ⟨"unregister", [.address, .address], false⟩
  | attempt _ _ _ => ⟨"attempt", [.address, .address, .uint 256], false⟩
  | publishTask _ => ⟨"publishTask", [taskParamsType], false⟩
  | confirmResponse _ => ⟨"confirmResponse", [.address], false⟩
  | cancelTask _ => ⟨"cancelTask", [.address], false⟩
  | setAgent _ _ | revokeAgent _ => ⟨"setAgent", [.address, .bool], false⟩
  | announceMaster _ => ⟨"announceMaster", [.address], false⟩
  | announceProvider _ _ => ⟨"announceProvider", [.address, .uint 256], true⟩
  | removeProvider _ => ⟨"removeProvider", [.address], false⟩
  | removeContainer _ _ => ⟨"removeContainer", [.address, .address], false⟩
  | setDefaultAgentDisabled _ => ⟨"setDefaultAgentDisabled", [.bool], false⟩
  | deposit _ _ => ⟨"deposit", [.address], true⟩
  | withdraw _ => ⟨"withdraw", [.uint 256], false⟩
  | lock _ => ⟨"lock", [.uint 256], false⟩
  | unbond _ => ⟨"unbond", [.uint 256], false⟩
  | cancelUnbonding => ⟨"cancelUnbonding", [], false⟩
  | claim => ⟨"claim", [], false⟩
  | setStatus _ _ => ⟨"setStatus", [.uint 8], false⟩

/-- The parameters of a source fit the tuple of the contract. -/
structure SourceParams.Encodable (params : SourceParams) (host : Host) : Prop where
  client : host.Checksummed params.client
  imageEnvironments : InUint 8 params.imageEnvironments
  minPayment : InUint 256 params.minPayment
  minAvailableLockup : InUint 256 params.minAvailableLockup
  maxExpiryDuration : InUint 256 params.maxExpiryDuration
  deliveryMethod : InUint 8 params.deliveryMethod
  lastUpdateTime : InUint 256 params.lastUpdateTime

structure TaskParams.Encodable (params : TaskParams) (host : Host) : Prop where
  source : host.Checksummed params.source
  expiryTime : InUint 256 params.expiryTime
  payment : InUint 256 params.payment

/-- What is passed on unchecked fits the function. -/
def Write.Encodable (host : Host) : Write → Prop
  | publishSource params | updateSource _ params => params.Encodable host
  | publishTask params => params.Encodable host
  | register _ _ env => InUint 8 env
  | attempt _ _ amount | announceProvider _ amount | withdraw amount | lock amount
  | unbond amount => InUint 256 amount
  | _ => True

/-- The Vault of the testnet does not have the function. -/
def Write.missing (directory : String) : Write → Bool
  | cancelUnbonding => directory == "testnet"
  | _ => false

/-- The transaction calls the one function of its name in the ABI file of its contract, the one the
operation means; its arguments are encoded where what was passed on unchecked fits, and it carries
a value to a function that takes one only. -/
structure Write.FitsAbi (call : Write) (host : Host) (directory : String) (tx : Tx) : Prop where
  function : AbiFiles.named directory (call.op host).abiName tx.call.functionName =
    if call.missing directory then [] else [call.signature]
  args : AbiType.TakesAll host call.signature.inputs tx.call.args ↔ call.Encodable host
  value : tx.value.isSome = true → call.signature.payable = true

/-! ## What the operations describe -/

section

variable {host : Host} {directory : String}

namespace AbiType

@[simp] theorem takesAll_nil : TakesAll host [] [] ↔ True := .rfl

@[simp] theorem takesAll_cons {t : AbiType} {ts : List AbiType} {x : Arg} {xs : List Arg} :
    TakesAll host (t :: ts) (x :: xs) ↔ t.Takes host x ∧ TakesAll host ts xs := .rfl

@[simp] theorem takes_address {text : String} :
    Takes host .address (.str text) ↔ host.Checksummed text := .rfl

@[simp] theorem takes_string {text : String} : Takes host .string (.str text) ↔ True := .rfl

@[simp] theorem takes_uint {bits : Nat} {n : ℤ} :
    Takes host (.uint bits) (.int n) ↔ InUint bits n := .rfl

@[simp] theorem takes_tuple {components : List AbiType} {xs : List Arg} :
    Takes host (.tuple components) (.tuple xs) ↔ TakesAll host components xs := .rfl

@[simp] theorem takes_bool (b : Bool) : Takes host .bool (.bool b) := by
  cases b with
  | false => exact .inl rfl
  | true => exact .inr rfl

end AbiType

@[simp] theorem Host.checksummed_text (address : Address) : host.Checksummed (host.text address) :=
  ⟨address, rfl⟩

theorem SourceStatus.inUint (status : SourceStatus) : InUint 8 status.value := by
  cases status with
  | inactive => exact ⟨by decide, by decide⟩
  | active => exact ⟨by decide, by decide⟩

theorem SourceParams.takes_toTuple (params : SourceParams) :
    sourceParamsType.Takes host params.toTuple ↔ params.Encodable host := by
  unfold sourceParamsType toTuple
  simp only [AbiType.takes_tuple, AbiType.takesAll_cons, AbiType.takesAll_nil,
    AbiType.takes_address, AbiType.takes_string, AbiType.takes_uint, AbiType.takes_bool, true_and,
    and_true]
  constructor
  · rintro ⟨hclient, henvironments, hpayment, hlockup, hduration, hdelivery, htime⟩
    exact ⟨hclient, henvironments, hpayment, hlockup, hduration, hdelivery, htime⟩
  · rintro ⟨hclient, henvironments, hpayment, hlockup, hduration, hdelivery, htime⟩
    exact ⟨hclient, henvironments, hpayment, hlockup, hduration, hdelivery, htime⟩

theorem TaskParams.takes_toTuple (params : TaskParams) :
    taskParamsType.Takes host params.toTuple ↔ params.Encodable host := by
  unfold taskParamsType toTuple
  simp only [AbiType.takes_tuple, AbiType.takesAll_cons, AbiType.takesAll_nil,
    AbiType.takes_address, AbiType.takes_string, AbiType.takes_uint, true_and, and_true]
  constructor
  · rintro ⟨hsource, hexpiry, hpayment⟩
    exact ⟨hsource, hexpiry, hpayment⟩
  · rintro ⟨hsource, hexpiry, hpayment⟩
    exact ⟨hsource, hexpiry, hpayment⟩

namespace Write

/-- The call an operation puts together is the one it means. -/
theorem prep_fits (call : Write) : (call.op host).prep.Yields host fun prepared =>
    prepared.functionName = call.signature.name ∧
      (AbiType.TakesAll host call.signature.inputs prepared.args ↔ call.Encodable host) ∧
        (prepared.value ≠ 0 → call.signature.payable = true) := by
  cases call with
  | publishSource params =>
    exact ⟨rfl, by simp [signature, Encodable, params.takes_toTuple], by simp⟩
  | updateSource _ params =>
    intro addr
    exact ⟨rfl, by simp [signature, Encodable, params.takes_toTuple], by simp⟩
  | publishTask params =>
    exact ⟨rfl, by simp [signature, Encodable, params.takes_toTuple], by simp⟩
  | register | unregister | attempt | removeContainer =>
    intro a b
    exact ⟨rfl, by simp [signature, Encodable], by simp⟩
  | inactivateSource | confirmResponse | cancelTask | announceMaster | removeProvider | setAgent
  | revokeAgent =>
    intro addr
    exact ⟨rfl, by simp [signature, Encodable], by simp⟩
  | announceProvider | deposit =>
    intro addr
    exact ⟨rfl, by simp [signature, Encodable], fun _ => rfl⟩
  | setDefaultAgentDisabled | withdraw | lock | unbond | cancelUnbonding | claim =>
    exact ⟨rfl, by simp [signature, Encodable], by simp⟩
  | setStatus _ status =>
    exact ⟨rfl, by simp [signature, Encodable, status.inUint], by simp⟩

/-- The file has the one function an operation means, unless it is missing there. -/
theorem named_signature (call : Write)
    (hdirectory : directory = "mainnet" ∨ directory = "testnet") :
    AbiFiles.named directory (call.op host).abiName call.signature.name =
      if call.missing directory then [] else [call.signature] := by
  rcases hdirectory with rfl | rfl <;> cases call <;> rfl

/-- What an operation describes fits the ABI of either chain. -/
theorem describes_fits {call : Write} {signer : Option Signer} {w : World} {tx : Tx}
    (h : (call.op host).Describes host signer w tx)
    (hdirectory : directory = "mainnet" ∨ directory = "testnet") :
    call.FitsAbi host directory tx := by
  obtain ⟨prepared, hresult, hname, hargs, hvalue⟩ := h.call
  obtain ⟨hfunction, htakes, hpayable⟩ := call.prep_fits.of_result hresult
  refine ⟨?_, ?_, fun hsome => hpayable fun hzero => ?_⟩
  · rw [hname, hfunction]
    exact call.named_signature hdirectory
  · rw [hargs]
    exact htakes
  · rw [hvalue, if_pos hzero] at hsome
    cases hsome

end Write

end

end OgpuSdk
