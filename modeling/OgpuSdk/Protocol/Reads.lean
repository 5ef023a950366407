import OgpuSdk.Client.PublishTask
import OgpuSdk.Ipfs.Fetch
import OgpuSdk.Lib.Timeline
import OgpuSdk.Protocol.Load
import OgpuSdk.Protocol.WriteRuns

/-!
# Reads of contracts

A read loads a contract and calls one of its view functions. The chain goes on
meanwhile: what it answers to a call depends on the time. `get_params` of each
class turns the tuple that comes back into the class's parameters, and the
metadata reads fetch what the parameters point at.
-/

namespace OgpuSdk

open Prog

/-- A view call, as the code names it. -/
structure ViewCall where
  abiName : String
  /-- the address of the contract, unless it is the current chain's singleton -/
  address : Option Address
  functionName : String
  args : List Arg

/-- What the outside answers to reads. -/
structure ReadNet where
  load : ContractNet
  /-- how long a call takes that is made at a time -/
  took : ℚ → ContractCall → Elapsed
  /-- what the chain answers to a call at a time -/
  state : ℚ → ContractCall → Except Exc Arg

/-- `load_contract(abi_name, address).functions.….call()` -/
def view (net : ReadNet) (call : ViewCall) : SDK Arg := do
  let contract ← loadContract net.load call.abiName call.address
  let call : ContractCall := ⟨contract.address, call.functionName, call.args⟩
  let now ← SDK.monotonic
  SDK.elapse (net.took now call)
  let now ← SDK.monotonic
  SDK.lift (net.state now call)

/-- A gateway: the reply to a GET of a URL with a timeout. -/
abbrev Gateway := String → ℚ → Reply HttpResponse

/-! ## Values -/

/-- web3 decodes what comes back as the ABI says: values of other types do not get through. -/
def undecoded {α : Type} (functionName : String) : Except Exc α :=
  .error (.raw ⟨.exception "BadFunctionCallOutput", s!"Could not decode output of {functionName}"⟩)

/-- `str(raw)` of an address or a string. -/
def Arg.asStr (functionName : String) : Arg → Except Exc String
  | .str s => .ok s
  | _ => undecoded functionName

/-- `int(raw)` of an integer. -/
def Arg.asInt (functionName : String) : Arg → Except Exc ℤ
  | .int n => .ok n
  | _ => undecoded functionName

/-- `bool(raw)` of a `bool`. -/
def Arg.asBool (functionName : String) : Arg → Except Exc Bool
  | .int 0 => .ok false
  | .int 1 => .ok true
  | _ => undecoded functionName

section

variable (net : ReadNet) (call : ViewCall)

def viewStr : SDK String := do
  let raw ← view net call
  SDK.lift (raw.asStr call.functionName)

def viewInt : SDK ℤ := do
  let raw ← view net call
  SDK.lift (raw.asInt call.functionName)

def viewBool : SDK Bool := do
  let raw ← view net call
  SDK.lift (raw.asBool call.functionName)

end

/-! ## Parameters and metadata -/

/-- `TaskParams(source=raw[0], …)`, of values of the fields' types. -/
def TaskParams.ofRaw : Arg → Except Exc TaskParams
  | .tuple [.str source, .str config, .int expiryTime, .int payment] =>
    .ok ⟨source, config, expiryTime, payment⟩
  | _ => undecoded "taskParams"

theorem TaskParams.ofRaw_toTuple (params : TaskParams) : ofRaw params.toTuple = .ok params := rfl

structure ResponseParams where
  task : String
  provider : String
  data : String
  payment : ℤ

/-- The tuple a response contract returns. -/
def ResponseParams.raw (params : ResponseParams) : Arg :=
  .tuple [.str params.task, .str params.provider, .str params.data, .int params.payment]

/-- `ResponseParams(task=raw[0], …)`, of values of the fields' types. -/
def ResponseParams.ofRaw : Arg → Except Exc ResponseParams
  | .tuple [.str task, .str provider, .str data, .int payment] =>
    .ok ⟨task, provider, data, payment⟩
  | _ => undecoded "getResponseParams"

/-- `self._contract().functions.….call()` of the three classes. -/
def Source.call (self : Source) (functionName : String) : ViewCall :=
  ⟨"SourceAbi", some self.address, functionName, []⟩

def Task.call (self : Task) (functionName : String) : ViewCall :=
  ⟨"TaskAbi", some self.address, functionName, []⟩

def Response.call (self : Response) (functionName : String) : ViewCall :=
  ⟨"ResponseAbi", some self.address, functionName, []⟩

section

variable (net : ReadNet)

def Source.getParams (self : Source) : SDK SourceParams := do
  let raw ← view net (self.call "getSourceParams")
  SDK.lift (SourceParams.ofRaw raw)

def Source.getMetadata (get : Gateway) (self : Source) : SDK Json := do
  let params ← self.getParams net
  fetchIpfsJson params.imageMetadataUrl 30 (get params.imageMetadataUrl)

def Task.getParams (self : Task) : SDK TaskParams := do
  let raw ← view net (self.call "taskParams")
  SDK.lift (TaskParams.ofRaw raw)

def Task.getMetadata (get : Gateway) (self : Task) : SDK Json := do
  let params ← self.getParams net
  fetchIpfsJson params.config 30 (get params.config)

def Response.getParams (self : Response) : SDK ResponseParams := do
  let raw ← view net (self.call "getResponseParams")
  SDK.lift (ResponseParams.ofRaw raw)

def Response.getData (self : Response) : SDK String := do
  let params ← self.getParams net
  pure params.data

def Response.fetchData (get : Gateway) (self : Response) : SDK Json := do
  let data ← self.getData net
  fetchIpfsJson data 30 (get data)

end

/-! ## The reads of the classes -/

/-- `DeliveryMethod(code)` -/
def DeliveryMethod.ofInt (code : ℤ) : Except Exc DeliveryMethod :=
  enumOfInt "DeliveryMethod" value [.manualConfirmation, .firstResponse] code

/-- An enum of the SDK over the answer to a call. -/
def viewEnum {α : Type} (net : ReadNet) (call : ViewCall) (ofInt : ℤ → Except Exc α) : SDK α := do
  let raw ← view net call
  SDK.lift (raw.asInt call.functionName >>= ofInt)

/-- The address that stands for nobody, as web3 writes it. -/
def ZERO_ADDRESS_TEXT : String := "0x0000000000000000000000000000000000000000"

section

variable (net : ReadNet)

def Source.getClient (self : Source) : SDK String := viewStr net (self.call "getClient")

def Source.readStatus (self : Source) : SDK SourceStatus :=
  viewEnum net (self.call "getStatus") SourceStatus.ofInt

def Source.getTaskCount (self : Source) : SDK ℤ := viewInt net (self.call "getTaskCount")

def Source.getRegistrantCount (self : Source) : SDK ℤ :=
  viewInt net (self.call "getRegistrantCount")

def Source.getRegistrantId (self : Source) (provider : String) : SDK ℤ :=
  viewInt net ⟨"SourceAbi", some self.address, "getRegistrantId", [.str provider]⟩

/-- An `Environment`, by its mask: the flags keep bits that stand for none of them. -/
def Source.getPreferredEnvironmentOf (self : Source) (provider : String) : SDK ℤ :=
  viewInt net ⟨"SourceAbi", some self.address, "preferredEnvironmentOf", [.str provider]⟩

def Task.readStatus (self : Task) : SDK TaskStatus :=
  viewEnum net (self.call "getStatus") TaskStatus.ofInt

def Task.getPayment (self : Task) : SDK ℤ := viewInt net (self.call "getPayment")

def Task.getExpiryTime (self : Task) : SDK ℤ := viewInt net (self.call "getExpiryTime")

def Task.getDeliveryMethod (self : Task) : SDK DeliveryMethod :=
  viewEnum net (self.call "getDeliveryMethod") DeliveryMethod.ofInt

def Task.getAttemptCount (self : Task) : SDK ℤ := viewInt net (self.call "getAttemptCount")

def Task.getAttempterId (self : Task) (provider : String) : SDK ℤ :=
  viewInt net ⟨"TaskAbi", some self.address, "getAttempterId", [.str provider]⟩

def Task.getWinningProvider (self : Task) : SDK (Option String) := do
  let addr ← viewStr net (self.call "winningProvider")
  pure (if addr = ZERO_ADDRESS_TEXT then none else some addr)

def Response.readStatus (self : Response) : SDK ResponseStatus :=
  viewEnum net (self.call "getStatus") ResponseStatus.ofInt

def Response.getTimestamp (self : Response) : SDK ℤ := viewInt net (self.call "responseTimestamp")

def Response.isConfirmed (self : Response) : SDK Bool := viewBool net (self.call "confirmedFinal")

/-- The constructors of `Source`, `Task` and `Response` checksum what they are given. -/
def checksummed (host : Host) (addr : String) : SDK Address := do
  let _ ← getWeb3 net.load.connected
  SDK.lift (host.toChecksumAddress addr)

def Task.getSource (host : Host) (self : Task) : SDK Source := do
  let addr ← viewStr net (self.call "getSource")
  let address ← checksummed net host addr
  pure ⟨address⟩

def Task.getResponseOf (host : Host) (self : Task) (provider : String) : SDK (Option Response) := do
  let addr ← viewStr net ⟨"TaskAbi", some self.address, "responseOf", [.str provider]⟩
  if addr = ZERO_ADDRESS_TEXT then
    pure none
  else do
    let address ← checksummed net host addr
    pure (some ⟨address⟩)

def Response.getTask (host : Host) (self : Response) : SDK Task := do
  let params ← self.getParams net
  let address ← checksummed net host params.task
  pure ⟨address⟩

/-- `_terminal().functions.…(address).call()` -/
def Terminal.terminal (functionName address : String) : ViewCall :=
  ⟨"TerminalAbi", none, functionName, [.str address]⟩

/-- `_vault().functions.…(address).call()` -/
def Vault.vault (functionName address : String) : ViewCall :=
  ⟨"VaultAbi", none, functionName, [.str address]⟩

namespace Terminal

def getMasterOf (provider : String) : SDK String := viewStr net (terminal "masterOf" provider)

def getProviderOf (master : String) : SDK String := viewStr net (terminal "providerOf" master)

def getBaseDataOf (provider : String) : SDK String := viewStr net (terminal "baseDataOf" provider)

def getLiveDataOf (provider : String) : SDK String := viewStr net (terminal "liveDataOf" provider)

def isMaster (address : String) : SDK Bool := viewBool net (terminal "isMaster" address)

def isProvider (address : String) : SDK Bool := viewBool net (terminal "isProvider" address)

def isAgentOf (account agent : String) : SDK Bool :=
  viewBool net ⟨"TerminalAbi", none, "isAgentOf", [.str account, .str agent]⟩

def isDefaultAgentDisabled (address : String) : SDK Bool :=
  viewBool net (terminal "defaultAgentDisabled" address)

end Terminal

namespace Vault

def getBalanceOf (address : String) : SDK ℤ := viewInt net (vault "balanceOf" address)

def getLockupOf (address : String) : SDK ℤ := viewInt net (vault "lockupOf" address)

def getUnbondingOf (address : String) : SDK ℤ := viewInt net (vault "unbondingOf" address)

def getUnbondingTimestamp (address : String) : SDK ℤ :=
  viewInt net (vault "unbondingTimestamp" address)

def getTotalEarningsOf (address : String) : SDK ℤ := viewInt net (vault "totalEarningsOf" address)

def getFrozenPayment (address : String) : SDK ℤ := viewInt net (vault "frozenPayment" address)

def getSanctionOf (address : String) : SDK ℤ := viewInt net (vault "sanctionOf" address)

def isEligible (address : String) : SDK Bool := viewBool net (vault "isEligible" address)

def isWhitelisted (address : String) : SDK Bool := viewBool net (vault "isWhitelisted" address)

def getMinLockupPerSource : SDK ℤ := viewInt net ⟨"VaultAbi", none, "MIN_LOCKUP_PER_SOURCE", []⟩

def getUnbondingPeriod : SDK ℤ := viewInt net ⟨"VaultAbi", none, "UNBONDING_PERIOD", []⟩

end Vault

/-- The account is checksummed, and asked for its role. -/
def loadAccount {I : Type} (host : Host) (new : Address → I) (registered : String → SDK Bool)
    (notFound : String → OGPUError) (address : String) : SDK I := do
  let account ← checksummed net host address
  if ← registered (host.text account) then
    pure (new account)
  else
    raise (notFound address).raised

def Provider.load (host : Host) (address : String) : SDK (Provider host) :=
  loadAccount net host Provider.of (Terminal.isProvider net) .providerNotFoundError address

def Master.load (host : Host) (address : String) : SDK (Master host) :=
  loadAccount net host Master.of (Terminal.isMaster net) .masterNotFoundError address

end

/-! ## What a read comes to -/

/-- Where a call goes when this chain is selected. -/
def ViewCall.resolve (call : ViewCall) (current : ChainState) : Option ContractCall :=
  (call.address.or (current.singleton call.abiName)).map (⟨·, call.functionName, call.args⟩)

/-- From a time on, a call is answered with this. -/
def ReadNet.Stays (net : ReadNet) (since : ℚ) (call : ContractCall) (raw : Arg) : Prop :=
  ∀ t, since ≤ t → net.state t call = .ok raw

/-- The contract can be loaded from this world. -/
def ReadNet.Reaches (net : ReadNet) (w : World) (abiName : String) (address : Address) : Prop :=
  ∃ contract w', (loadContract net.load abiName (some address)).exec w = (.ok contract, w')

variable {net : ReadNet} {w w' : World} {call : ViewCall}

theorem ChainState.singleton_congr {s s' : ChainState} (h : s.currentChain = s'.currentChain)
    (abiName : String) : s.singleton abiName = s'.singleton abiName := by
  unfold singleton
  rw [h]

/-- How a call that reaches its contract comes back: with what the chain answers by then. -/
theorem exec_view {contract : Contract} {w₁ : World}
    (h : (loadContract net.load call.abiName call.address).exec w = (.ok contract, w₁)) :
    ∃ w', (view net call).exec w = (SDK.lift
        (net.state w'.clock.mono ⟨contract.address, call.functionName, call.args⟩)).exec w' ∧
      w'.chain = w₁.chain ∧ w.clock.mono ≤ w'.clock.mono := by
  have hkeeps := loadContract_keeps (P := fun _ _ => True) net.load call.abiName call.address w
  rw [h] at hkeeps
  refine ⟨w₁.advance (net.took w₁.clock.mono ⟨contract.address, call.functionName, call.args⟩),
    ?_, rfl, hkeeps.clock_le.trans (Clock.le_advance _ _)⟩
  unfold view
  rw [exec_bind_ok h]
  rfl

/-- A call that stays answered returns the answer. -/
theorem exec_view_stays {abiName functionName : String} {address : Address} {args : List Arg}
    {raw : Arg} (h : net.Reaches w abiName address)
    (hstays : net.Stays w.clock.mono ⟨address, functionName, args⟩ raw) :
    ∃ w', (view net ⟨abiName, some address, functionName, args⟩).exec w = (.ok raw, w') := by
  obtain ⟨contract, w₁, hcontract⟩ := h
  obtain ⟨w', hview, -, hle⟩ :=
    @exec_view net w ⟨abiName, some address, functionName, args⟩ contract w₁ hcontract
  refine ⟨w', ?_⟩
  rw [hview, loadContract_address hcontract, hstays _ hle, SDK.exec_lift_ok]

/-- A read of parameters that are there returns them. -/
theorem exec_params {P : Type} {abiName functionName : String} {address : Address} {raw : Arg}
    {ofRaw : Arg → Except Exc P} {params : P} (h : net.Reaches w abiName address)
    (hstays : net.Stays w.clock.mono ⟨address, functionName, []⟩ raw)
    (hraw : ofRaw raw = .ok params) :
    ∃ w', (do let raw ← view net ⟨abiName, some address, functionName, []⟩
              SDK.lift (ofRaw raw) : SDK P).exec w = (.ok params, w') := by
  obtain ⟨w', hview⟩ := exec_view_stays h hstays
  refine ⟨w', ?_⟩
  rw [exec_bind_ok hview, hraw, SDK.exec_lift_ok]

theorem exec_fetch_ok {get : Gateway} {url : String} {data : Json} (w : World)
    (h : (get url 30).answer = .ok ⟨200, .ok data⟩) :
    ∃ w', (fetchIpfsJson url 30 (get url)).exec w = (.ok data, w') := by
  rw [exec_fetchIpfsJson, h]
  exact ⟨_, rfl⟩

end OgpuSdk
