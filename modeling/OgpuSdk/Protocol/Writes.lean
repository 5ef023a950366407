import OgpuSdk.Protocol.Contract
import OgpuSdk.Protocol.Load
import OgpuSdk.Types.Metadata
import OgpuSdk.Types.Spelling

/-!
# The write operations

Every operation that sends a transaction resolves its signer, loads its
contract, puts its call together and runs a `TxExecutor`. What differs is a
`WriteOp`: the role whose key it falls back to, the contract, and how the call
comes about (`Prep`): which of its arguments are checksummed, in which order,
and what is made of them. Each function of `nexus`, `controller`, `terminal`
and `vault` is a `WriteOp` under its own name, and so is `Source.set_status`.
-/

namespace OgpuSdk

open Prog

/-- What a write operation is given by the process: keys and environment, and the address helpers
of web3. -/
structure Host where
  keys : Keys
  /-- `is_address` -/
  isAddress : String → Bool
  /-- `to_checksum_address` -/
  toChecksumAddress : String → Except Exc Address
  /-- the checksummed text of an address -/
  text : Address → String

/-- The address helpers do what they say: an address is written out as one of its spellings. -/
def Host.Spells (host : Host) : Prop := ∀ address, OgpuSdk.Spells (host.text address) address

/-- Every text is a key, the environment is empty, and addresses are written in lower case. -/
def Host.trial : Host := ⟨.trial, fun _ => true, fun _ => .ok 0x4#160, lowerText⟩

/-- What a write operation hands to its executor. -/
structure PreparedCall where
  functionName : String
  args : List Arg
  value : ℤ
  context : String

/-- How a call is put together once its contract is loaded. -/
inductive Prep where
  | call (prepared : PreparedCall)
  /-- `_get_web3()` -/
  | web3 (rest : Prep)
  /-- `to_checksum_address(text)` -/
  | checksum (text : String) (rest : String → Prep)
  /-- `if not is_address(text): raise` -/
  | checkAddress (text : String) (error : OGPUError) (rest : Prep)

namespace Prep

variable (host : Host)

def run (connected : Reply Bool) : Prep → SDK PreparedCall
  | call prepared => pure prepared
  | web3 rest => do
    let _ ← getWeb3 connected
    rest.run connected
  | checksum text rest => do
    let address ← SDK.lift (host.toChecksumAddress text)
    (rest (host.text address)).run connected
  | checkAddress text error rest => do
    if !host.isAddress text then
      raise error.raised
    rest.run connected

/-- The call, where the address arguments are addresses. -/
def result : Prep → Option PreparedCall
  | call prepared => some prepared
  | web3 rest => rest.result
  | checksum text rest =>
    match host.toChecksumAddress text with
    | .ok address => (rest (host.text address)).result
    | .error _ => none
  | checkAddress text _ rest => if host.isAddress text then rest.result else none

end Prep

structure WriteOp where
  /-- the role whose environment variable stands in for a missing signer -/
  role : Option Role
  abiName : String
  /-- the address of the contract, unless it is the current chain's singleton -/
  address : Option Address
  prep : Prep

/-- What the outside answers to one write operation. -/
structure WriteNet where
  load : ContractNet
  /-- a probe for the instance addresses are checksummed with -/
  checksums : Reply Bool
  connected : Reply Bool
  attempts : Nat → AttemptNet

/-- A chain that can be reached, with every ABI there. -/
def ContractNet.prompt : ContractNet :=
  ⟨⟨⟨0, 0⟩, .ok true⟩, fun _ _ => some (.arr []), .ok ()⟩

def WriteNet.prompt : WriteNet :=
  ⟨.prompt, ⟨⟨0, 0⟩, .ok true⟩, ⟨⟨0, 0⟩, .ok true⟩, fun _ => .prompt 0⟩

namespace WriteOp

variable (op : WriteOp) (host : Host) (net : WriteNet) (signer : Option Signer)

/-- The executor, with the defaults of `TxExecutor`. -/
def executor : SDK TxExecutor := do
  let account ← resolveSigner host.keys signer op.role
  let contract ← loadContract net.load op.abiName op.address
  let prepared ← op.prep.run host net.checksums
  pure (.init ⟨contract.address, prepared.functionName, prepared.args⟩ account prepared.value
    (some prepared.context) 3 DEFAULT_RECEIPT_TIMEOUT none none)

def run : SDK Receipt := do
  let exe ← op.executor host net signer
  exe.execute net.attempts net.connected

/-- The operation behind a wrapper that resolves the signer itself, for its own role. -/
def delegate (role : Role) : SDK Receipt := do
  let account ← resolveSigner host.keys signer (some role)
  op.run host net (some (.account account))

end WriteOp

/-! ## Nexus -/

namespace Nexus

def publishSource (params : SourceParams) : WriteOp where
  role := some .client
  abiName := "NexusAbi"
  address := none
  prep := .call ⟨"publishSource", [params.toTuple], 0, "Nexus.publishSource"⟩

def updateSource (sourceAddress : String) (params : SourceParams) : WriteOp where
  role := some .client
  abiName := "NexusAbi"
  address := none
  prep := .web3 <| .checksum sourceAddress fun addr =>
    .call ⟨"updateSource", [.str addr, params.toTuple], 0, s!"Nexus.updateSource({addr})"⟩

def inactivateSource (sourceAddress : String) : WriteOp where
  role := some .client
  abiName := "NexusAbi"
  address := none
  prep := .web3 <| .checksum sourceAddress fun addr =>
    .call ⟨"inactivateSource", [.str addr], 0, s!"Nexus.inactivateSource({addr})"⟩

def register (source provider : String) (env : ℤ) : WriteOp where
  role := some .provider
  abiName := "NexusAbi"
  address := none
  prep := .web3 <| .checksum source fun s => .checksum provider fun p =>
    .call ⟨"register", [.str s, .str p, .int env], 0, s!"Nexus.register({s}, {p})"⟩

def unregister (source provider : String) : WriteOp where
  role := some .provider
  abiName := "NexusAbi"
  address := none
  prep := .web3 <| .checksum source fun s => .checksum provider fun p =>
    .call ⟨"unregister", [.str s, .str p], 0, s!"Nexus.unregister({s}, {p})"⟩

def attempt (task provider : String) (suggestedPayment : ℤ) : WriteOp where
  role := some .provider
  abiName := "NexusAbi"
  address := none
  prep := .web3 <| .checksum task fun t => .checksum provider fun p =>
    .call ⟨"attempt", [.str t, .str p, .int suggestedPayment], 0, s!"Nexus.attempt({t}, {p})"⟩

end Nexus

/-! ## Controller -/

namespace Controller

/-- `Controller.publish_task` with its defaults. -/
def publishTaskOp (params : TaskParams) : WriteOp where
  role := some .client
  abiName := "ControllerAbi"
  address := none
  prep := .call ⟨"publishTask", [params.toTuple], 0, "Controller.publishTask"⟩

theorem publishTask_eq (host : Host) (net : WriteNet) (params : TaskParams)
    (signer : Option Signer) :
    publishTask host.keys ⟨net.load, net.connected, net.attempts⟩ params signer
      DEFAULT_RECEIPT_TIMEOUT none none = (publishTaskOp params).run host net signer := rfl

def confirmResponse (responseAddress : String) : WriteOp where
  role := some .client
  abiName := "ControllerAbi"
  address := none
  prep := .web3 <| .checksum responseAddress fun checksum =>
    .call ⟨"confirmResponse", [.str checksum], 0, s!"Controller.confirmResponse({checksum})"⟩

def cancelTask (taskAddress : String) : WriteOp where
  role := some .client
  abiName := "ControllerAbi"
  address := none
  prep := .web3 <| .checksum taskAddress fun addr =>
    .call ⟨"cancelTask", [.str addr], 0, s!"Controller.cancelTask({addr})"⟩

end Controller

/-! ## Terminal -/

/-- `str(value)` of a `bool`. -/
def boolText (value : Bool) : String := if value then "True" else "False"

namespace Terminal

def setAgent (agent : String) (value : Bool) : WriteOp where
  role := some .client
  abiName := "TerminalAbi"
  address := none
  prep := .web3 <| .checkAddress agent (.invalidSignerError s!"Invalid agent address: {agent}") <|
    .checksum agent fun checksum =>
      .call ⟨"setAgent", [.str checksum, .bool value], 0,
        s!"Terminal.setAgent({checksum}, {boolText value})"⟩

def revokeAgent (agent : String) : WriteOp := setAgent agent false

def announceMaster (masterAddress : String) : WriteOp where
  role := some .provider
  abiName := "TerminalAbi"
  address := none
  prep := .web3 <| .checksum masterAddress fun addr =>
    .call ⟨"announceMaster", [.str addr], 0, s!"Terminal.announceMaster({addr})"⟩

/-- The amount is both an argument and the value sent along. -/
def announceProvider (provider : String) (amount : ℤ) : WriteOp where
  role := some .master
  abiName := "TerminalAbi"
  address := none
  prep := .web3 <| .checksum provider fun addr =>
    .call ⟨"announceProvider", [.str addr, .int amount], amount,
      s!"Terminal.announceProvider({addr})"⟩

def removeProvider (provider : String) : WriteOp where
  role := some .master
  abiName := "TerminalAbi"
  address := none
  prep := .web3 <| .checksum provider fun addr =>
    .call ⟨"removeProvider", [.str addr], 0, s!"Terminal.removeProvider({addr})"⟩

def removeContainer (provider source : String) : WriteOp where
  role := some .master
  abiName := "TerminalAbi"
  address := none
  prep := .web3 <| .checksum provider fun p => .checksum source fun s =>
    .call ⟨"removeContainer", [.str p, .str s], 0, s!"Terminal.removeContainer({p}, {s})"⟩

def setDefaultAgentDisabled (value : Bool) : WriteOp where
  role := some .provider
  abiName := "TerminalAbi"
  address := none
  prep := .call ⟨"setDefaultAgentDisabled", [.bool value], 0, "Terminal.setDefaultAgentDisabled"⟩

end Terminal

/-! ## Vault -/

namespace Vault

/-- No environment variable stands in for the signer of a vault operation. -/
def op (prep : Prep) : WriteOp := ⟨none, "VaultAbi", none, prep⟩

def deposit (account : String) (amount : ℤ) : WriteOp :=
  op <| .web3 <| .checksum account fun addr =>
    .call ⟨"deposit", [.str addr], amount, s!"Vault.deposit({addr})"⟩

def withdraw (amount : ℤ) : WriteOp := op <| .call ⟨"withdraw", [.int amount], 0, "Vault.withdraw"⟩

def lock (amount : ℤ) : WriteOp := op <| .call ⟨"lock", [.int amount], 0, "Vault.lock"⟩

def unbond (amount : ℤ) : WriteOp := op <| .call ⟨"unbond", [.int amount], 0, "Vault.unbond"⟩

def cancelUnbonding : WriteOp := op <| .call ⟨"cancelUnbonding", [], 0, "Vault.cancelUnbonding"⟩

def claim : WriteOp := op <| .call ⟨"claim", [], 0, "Vault.claim"⟩

end Vault

/-- The owner's route: straight to the contract of the source. -/
def Source.setStatus (text : Address → String) (self : Source) (status : SourceStatus) : WriteOp where
  role := some .client
  abiName := "SourceAbi"
  address := some self.address
  prep := .call ⟨"setStatus", [.int status.value], 0, s!"Source({text self.address}).setStatus"⟩

/-! ## All of them -/

/-- A write operation, by its name and arguments. -/
inductive Write where
  | publishSource (params : SourceParams)
  | updateSource (sourceAddress : String) (params : SourceParams)
  | inactivateSource (sourceAddress : String)
  | register (source provider : String) (env : ℤ)
  | unregister (source provider : String)
  | attempt (task provider : String) (suggestedPayment : ℤ)
  | publishTask (params : TaskParams)
  | confirmResponse (responseAddress : String)
  | cancelTask (taskAddress : String)
  | setAgent (agent : String) (value : Bool)
  | revokeAgent (agent : String)
  | announceMaster (masterAddress : String)
  | announceProvider (provider : String) (amount : ℤ)
  | removeProvider (provider : String)
  | removeContainer (provider source : String)
  | setDefaultAgentDisabled (value : Bool)
  | deposit (account : String) (amount : ℤ)
  | withdraw (amount : ℤ)
  | lock (amount : ℤ)
  | unbond (amount : ℤ)
  | cancelUnbonding
  | claim
  | setStatus (self : Source) (status : SourceStatus)

def Write.op (host : Host) : Write → WriteOp
  | publishSource params => Nexus.publishSource params
  | updateSource sourceAddress params => Nexus.updateSource sourceAddress params
  | inactivateSource sourceAddress => Nexus.inactivateSource sourceAddress
  | register source provider env => Nexus.register source provider env
  | unregister source provider => Nexus.unregister source provider
  | attempt task provider suggestedPayment => Nexus.attempt task provider suggestedPayment
  | publishTask params => Controller.publishTaskOp params
  | confirmResponse responseAddress => Controller.confirmResponse responseAddress
  | cancelTask taskAddress => Controller.cancelTask taskAddress
  | setAgent agent value => Terminal.setAgent agent value
  | revokeAgent agent => Terminal.revokeAgent agent
  | announceMaster masterAddress => Terminal.announceMaster masterAddress
  | announceProvider provider amount => Terminal.announceProvider provider amount
  | removeProvider provider => Terminal.removeProvider provider
  | removeContainer provider source => Terminal.removeContainer provider source
  | setDefaultAgentDisabled value => Terminal.setDefaultAgentDisabled value
  | deposit account amount => Vault.deposit account amount
  | withdraw amount => Vault.withdraw amount
  | lock amount => Vault.lock amount
  | unbond amount => Vault.unbond amount
  | cancelUnbonding => Vault.cancelUnbonding
  | claim => Vault.claim
  | setStatus self status => Source.setStatus host.text self status

/-- A write operation called directly, or through a wrapper that resolves the signer for a role of
its own. -/
def Write.run (host : Host) (write : Write) (via : Option Role) (net : WriteNet)
    (signer : Option Signer) : SDK Receipt :=
  match via with
  | none => (write.op host).run host net signer
  | some role => (write.op host).delegate host net signer role

/-! ## The wrappers -/

section

variable (host : Host) (net : WriteNet) (privateKey : Option Signer)

namespace Agent

def registerTo (source provider : String) (env : ℤ) : SDK Receipt :=
  (Write.register source provider env).run host (some .agent) net privateKey

def unregisterFrom (source provider : String) : SDK Receipt :=
  (Write.unregister source provider).run host (some .agent) net privateKey

def attempt (task provider : String) (suggestedPayment : ℤ) : SDK Receipt :=
  (Write.attempt task provider suggestedPayment).run host (some .agent) net privateKey

end Agent

namespace Client

def confirmResponse (responseAddress : String) : SDK String := do
  let receipt ← (Write.confirmResponse responseAddress).run host (some .client) net privateKey
  pure receipt.txHash

def setAgent (agentAddress : String) (value : Bool) : SDK String := do
  let receipt ← (Write.setAgent agentAddress value).run host (some .client) net privateKey
  pure receipt.txHash

def cancelTask (task : String) : SDK Receipt :=
  (Write.cancelTask task).run host (some .client) net privateKey

def inactivateSource (source : String) : SDK Receipt :=
  (Write.inactivateSource source).run host (some .client) net privateKey

end Client

end

/-- The checksummed text of some address. -/
def Host.Checksummed (host : Host) (text : String) : Prop := ∃ address, text = host.text address

/-- A provider and a master are known by their checksummed text. -/
structure Provider (host : Host) where
  address : String
  checksummed : host.Checksummed address

structure Master (host : Host) where
  address : String
  checksummed : host.Checksummed address

/-- The constructors checksum what they are given. -/
def Provider.of {host : Host} (address : Address) : Provider host :=
  ⟨host.text address, address, rfl⟩

def Master.of {host : Host} (address : Address) : Master host :=
  ⟨host.text address, address, rfl⟩

/-! The writes of the instance classes are direct calls, the address of the instance filled in. -/

namespace Provider

variable {host : Host} (self : Provider host)

def announceMaster (_self : Provider host) (master : String) : Write := .announceMaster master

def setDefaultAgentDisabled (_self : Provider host) (value : Bool) : Write :=
  .setDefaultAgentDisabled value

def registerTo (source : String) (env : ℤ) : Write := .register source self.address env

def unregisterFrom (source : String) : Write := .unregister source self.address

def attempt (task : String) (suggestedPayment : ℤ) : Write :=
  .attempt task self.address suggestedPayment

def stake (_self : Provider host) (amount : ℤ) : Write := .lock amount

def unstake (_self : Provider host) (amount : ℤ) : Write := .unbond amount

def cancelUnbonding (_self : Provider host) : Write := .cancelUnbonding

def claimEarnings (_self : Provider host) : Write := .claim

def depositToVault (amount : ℤ) : Write := .deposit self.address amount

def withdrawFromVault (_self : Provider host) (amount : ℤ) : Write := .withdraw amount

end Provider

namespace Master

variable {host : Host} (self : Master host)

def announceProvider (_self : Master host) (provider : String) (amount : ℤ) : Write :=
  .announceProvider provider amount

def removeProvider (_self : Master host) (provider : String) : Write := .removeProvider provider

def removeContainer (_self : Master host) (provider source : String) : Write :=
  .removeContainer provider source

def setAgent (_self : Master host) (agent : String) (value : Bool) : Write := .setAgent agent value

def stake (_self : Master host) (amount : ℤ) : Write := .lock amount

def unstake (_self : Master host) (amount : ℤ) : Write := .unbond amount

def cancelUnbonding (_self : Master host) : Write := .cancelUnbonding

def claimEarnings (_self : Master host) : Write := .claim

def depositToVault (amount : ℤ) : Write := .deposit self.address amount

def withdrawFromVault (_self : Master host) (amount : ℤ) : Write := .withdraw amount

end Master

section

variable (text : Address → String)

def Source.setParams (self : Source) (params : SourceParams) : Write :=
  .updateSource (text self.address) params

def Source.inactivate (self : Source) : Write := .inactivateSource (text self.address)

def Task.cancel (self : Task) : Write := .cancelTask (text self.address)

def Response.confirm (self : Response) : Write := .confirmResponse (text self.address)

end

end OgpuSdk
