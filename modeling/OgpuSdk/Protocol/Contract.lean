import OgpuSdk.Protocol.Executor

/-!
# Signers, contracts and the Controller

What a write operation does before and after its `TxExecutor`: it resolves the
signer, loads the contract of the current chain and, for `publishTask`, reads
the new task's address from the logs of the receipt. What key parsing, the
environment variables, the ABI files and the log decoder give are arguments.
-/

namespace OgpuSdk

open Prog

/-- A `signer=` argument. -/
inductive Signer where
  | key (text : String)
  | account (account : Account)
  /-- an object of some other type -/
  | other (typeName : String)

/-- Key parsing (`Account.from_key`) and environment variables. -/
structure Keys where
  fromKey : String → Except RawExc Account
  getenv : String → Option String

/-- Every text is the key of one account, and the environment is empty. -/
def Keys.trial : Keys := ⟨fun text => .ok ⟨0x2#160, text⟩, fun _ => none⟩

/-- `InvalidSignerError` from an `Exception`; anything else goes up as it is. -/
def invalidSigner {α : Type} (reason : String) (exc : RawExc) : SDK α :=
  if (Exc.raw exc).isException then raise ((OGPUError.invalidSignerError reason).from (.raw exc))
  else raise (Exc.raw exc).raised

def resolveSigner (keys : Keys) (signer : Option Signer) (role : Option Role) : SDK Account :=
  match signer with
  | some (.account account) => pure account
  | some (.key text) =>
    match keys.fromKey text with
    | .ok account => pure account
    | .error exc => invalidSigner exc.text exc
  | some (.other typeName) =>
    raise (OGPUError.invalidSignerError s!"Unsupported signer type: {typeName}").raised
  | none =>
    match role with
    | none => raise (OGPUError.missingSignerError none).raised
    | some role =>
      match (keys.getenv role.envVar).filter (· ≠ "") with
      | none => raise (OGPUError.missingSignerError (some role)).raised
      | some key =>
        match keys.fromKey key with
        | .ok account => pure account
        | .error exc => invalidSigner
            s!"Environment variable {role.envVar} is not a valid private key: {exc.text}" exc

def SINGLETON_ABI_TO_KEY : List (String × String) := [
  ("NexusAbi", "NEXUS"),
  ("ControllerAbi", "CONTROLLER"),
  ("TerminalAbi", "TERMINAL"),
  ("VaultAbi", "VAULT")]

/-- A `web3.contract.Contract`: the instance it calls through, its ABI and its address. -/
structure Contract where
  web3 : Url
  abi : Json
  address : Address

/-- What loading a contract takes from the outside. -/
structure ContractNet where
  /-- the answer of a probe, where the chain has no instance yet -/
  connected : Reply Bool
  /-- `name.json` of an ABI directory -/
  files : String → String → Option Json
  /-- what `web3.eth.contract` makes of the ABI -/
  contract : Except Exc Unit

/-- The address to load an ABI at: the one given, or the current chain's singleton. -/
def contractAddress (abiName : String) (address : Option Address) : SDK Address :=
  match address, SINGLETON_ABI_TO_KEY.lookup abiName with
  | some address, _ => pure address
  | none, some key => SDK.chain (ChainConfig.getContractAddress key)
  | none, none => raise (raised "ValueError"
      s!"ABI {abiName} has no singleton address configured; pass an explicit address")

def loadContract (net : ContractNet) (abiName : String) (address : Option Address) :
    SDK Contract := do
  let web3 ← getWeb3 net.connected
  let abi ← SDK.chain (ChainConfig.loadAbi net.files abiName)
  let address ← contractAddress abiName address
  SDK.lift net.contract
  pure ⟨web3, abi, address⟩

/-- The tuple `Controller.publishTask` takes. -/
structure TaskParams where
  source : String
  config : String
  expiryTime : ℤ
  payment : ℤ

def TaskParams.toTuple (params : TaskParams) : Arg :=
  .tuple [.str params.source, .str params.config, .int params.expiryTime, .int params.payment]

namespace Controller

/-- What the outside answers to one `Controller.publishTask`. -/
structure PublishNet where
  load : ContractNet
  connected : Reply Bool
  attempts : Nat → AttemptNet

/-- The executor of `publishTask`, with the default number of retries. -/
def executor (keys : Keys) (net : ContractNet) (params : TaskParams) (signer : Option Signer)
    (receiptTimeout : ℚ) (deadline budget : Option ℚ) : SDK TxExecutor := do
  let account ← resolveSigner keys signer (some .client)
  let contract ← loadContract net "ControllerAbi" none
  pure (.init ⟨contract.address, "publishTask", [params.toTuple]⟩ account 0
    (some "Controller.publishTask") 3 receiptTimeout deadline budget)

def publishTask (keys : Keys) (net : PublishNet) (params : TaskParams) (signer : Option Signer)
    (receiptTimeout : ℚ) (deadline budget : Option ℚ) : SDK Receipt := do
  let exe ← executor keys net.load params signer receiptTimeout deadline budget
  exe.execute net.attempts net.connected

/-- What the outside answers to `extract_task_address`. -/
structure ExtractNet where
  load : ContractNet
  /-- the tasks of the `TaskPublished` events among logs -/
  processReceipt : List Json → Except Exc (List Address)
  connected : Reply Bool

def extractTaskAddress (net : ExtractNet) (receipt : Receipt) : SDK Address := do
  let _ ← loadContract net.load "NexusAbi" none
  match ← SDK.lift (net.processReceipt receipt.logs) with
  | [] => raise (raised "ValueError" "TaskPublished event not found in receipt logs")
  | task :: _ => do
    let _ ← getWeb3 net.connected
    pure task

end Controller

end OgpuSdk
