import OgpuSdk.Protocol.Abi
import OgpuSdk.Protocol.Snapshots

/-!
# The reads and the ABIs

A read calls one view function of its contract, and decodes what comes back.
The view functions of the ABI files are listed here; both chains have the
same. `Read.reading` is what each read asks for and how it shows the answer. A
read passes addresses on as they are, so it fits its function exactly when
they are checksummed, while a write checksums what it is given.
-/

namespace OgpuSdk

open Prog

/-! ## The files -/

/-- A view function of an ABI file. -/
structure AbiView where
  name : String
  inputs : List AbiType
  output : AbiType

/-- The tuple of a response. -/
def responseParamsType : AbiType := .tuple [.address, .address, .string, .uint 256]

namespace AbiFiles

def SourceAbiViews : List AbiView := [
  ⟨"getClient", [], .address⟩,
  ⟨"getRegistrantCount", [], .uint 256⟩,
  ⟨"getRegistrantId", [.address], .uint 256⟩,
  ⟨"getRegistrants", [.uint 256, .uint 256], .array .address⟩,
  ⟨"getSourceParams", [], sourceParamsType⟩,
  ⟨"getStatus", [], .uint 8⟩,
  ⟨"getTaskCount", [], .uint 256⟩,
  ⟨"getTasks", [.uint 256, .uint 256], .array .address⟩,
  ⟨"nexus", [], .address⟩,
  ⟨"owner", [], .address⟩,
  ⟨"preferredEnvironmentOf", [.address], .uint 8⟩,
  ⟨"registrantId", [.address], .uint 256⟩,
  ⟨"registrants", [.uint 256], .address⟩,
  ⟨"sourceParams", [], sourceParamsType⟩,
  ⟨"status", [], .uint 8⟩,
  ⟨"tasks", [.uint 256], .address⟩]

def TaskAbiViews : List AbiView := [
  ⟨"attemptTimestamps", [.uint 256], .uint 256⟩,
  ⟨"attempterId", [.address], .uint 256⟩,
  ⟨"attempters", [.uint 256], .address⟩,
  ⟨"deliveryMethod", [], .uint 8⟩,
  ⟨"getAttemptCount", [], .uint 256⟩,
  ⟨"getAttemptTimestamps", [.uint 256, .uint 256], .array (.uint 256)⟩,
  ⟨"getAttempterId", [.address], .uint 256⟩,
  ⟨"getAttempters", [.uint 256, .uint 256], .array .address⟩,
  ⟨"getDeliveryMethod", [], .uint 8⟩,
  ⟨"getExpiryTime", [], .uint 256⟩,
  ⟨"getPayment", [], .uint 256⟩,
  ⟨"getResponsesOf", [.uint 256, .uint 256], .array .address⟩,
  ⟨"getSource", [], .address⟩,
  ⟨"getStatus", [], .uint 8⟩,
  ⟨"owner", [], .address⟩,
  ⟨"responseOf", [.address], .address⟩,
  ⟨"status", [], .uint 8⟩,
  ⟨"taskParams", [], taskParamsType⟩,
  ⟨"winningProvider", [], .address⟩]

def ResponseAbiViews : List AbiView := [
  ⟨"confirmedFinal", [], .bool⟩,
  ⟨"getResponseParams", [], responseParamsType⟩,
  ⟨"getStatus", [], .uint 8⟩,
  ⟨"owner", [], .address⟩,
  ⟨"responseParams", [], responseParamsType⟩,
  ⟨"responseTimestamp", [], .uint 256⟩,
  ⟨"status", [], .uint 8⟩]

def TerminalAbiViews : List AbiView := [
  ⟨"baseDataOf", [.address], .string⟩,
  ⟨"defaultAgentDisabled", [.address], .bool⟩,
  ⟨"getIsAgentOf", [.address, .address], .bool⟩,
  ⟨"getIsMaster", [.address], .bool⟩,
  ⟨"getMasterOf", [.address], .address⟩,
  ⟨"isAgentOf", [.address, .address], .bool⟩,
  ⟨"isMaster", [.address], .bool⟩,
  ⟨"isProvider", [.address], .bool⟩,
  ⟨"liveDataOf", [.address], .string⟩,
  ⟨"manager", [], .address⟩,
  ⟨"masterOf", [.address], .address⟩,
  ⟨"owner", [], .address⟩,
  ⟨"providerOf", [.address], .address⟩,
  ⟨"vault", [], .address⟩]

def VaultAbiViews : List AbiView := [
  ⟨"MIN_LOCKUP_PER_SOURCE", [], .uint 256⟩,
  ⟨"UNBONDING_PERIOD", [], .uint 256⟩,
  ⟨"balanceOf", [.address], .uint 256⟩,
  ⟨"frozenPayment", [.address], .uint 256⟩,
  ⟨"getBalanceOf", [.address], .uint 256⟩,
  ⟨"getLockupOf", [.address], .uint 256⟩,
  ⟨"isEligible", [.address], .bool⟩,
  ⟨"isWhitelisted", [.address], .bool⟩,
  ⟨"lockupOf", [.address], .uint 256⟩,
  ⟨"manager", [], .address⟩,
  ⟨"nexus", [], .address⟩,
  ⟨"sanctionOf", [.address], .uint 256⟩,
  ⟨"sanctionedAmount", [], .uint 256⟩,
  ⟨"terminal", [], .address⟩,
  ⟨"totalEarningsOf", [.address], .uint 256⟩,
  ⟨"unbondingOf", [.address], .uint 256⟩,
  ⟨"unbondingTimestamp", [.address], .uint 256⟩]

/-- The view functions in an ABI file, of either directory, but for those of bytes: `PROVIDER` and
`isAlreadySubmitted`. -/
def views : String → List AbiView
  | "SourceAbi" => SourceAbiViews
  | "TaskAbi" => TaskAbiViews
  | "ResponseAbi" => ResponseAbiViews
  | "TerminalAbi" => TerminalAbiViews
  | "VaultAbi" => VaultAbiViews
  | _ => []

end AbiFiles

/-! ## The reads -/

/-- A read of one answer, by its class and method or by its module and function. -/
inductive Read where
  | sourceGetClient (self : Source)
  | sourceGetStatus (self : Source)
  | sourceGetParams (self : Source)
  | sourceGetTaskCount (self : Source)
  | sourceGetRegistrantCount (self : Source)
  | sourceGetRegistrantId (self : Source) (provider : String)
  | sourceGetPreferredEnvironmentOf (self : Source) (provider : String)
  | taskGetSource (self : Task)
  | taskGetStatus (self : Task)
  | taskGetParams (self : Task)
  | taskGetPayment (self : Task)
  | taskGetExpiryTime (self : Task)
  | taskGetDeliveryMethod (self : Task)
  | taskGetAttemptCount (self : Task)
  | taskGetAttempterId (self : Task) (provider : String)
  | taskGetResponseOf (self : Task) (provider : String)
  | taskGetWinningProvider (self : Task)
  | responseGetTask (self : Response)
  | responseGetParams (self : Response)
  | responseGetData (self : Response)
  | responseGetStatus (self : Response)
  | responseGetTimestamp (self : Response)
  | responseIsConfirmed (self : Response)
  | terminalGetMasterOf (provider : String)
  | terminalGetProviderOf (master : String)
  | terminalGetBaseDataOf (provider : String)
  | terminalGetLiveDataOf (provider : String)
  | terminalIsMaster (address : String)
  | terminalIsProvider (address : String)
  | terminalIsAgentOf (account agent : String)
  | terminalIsDefaultAgentDisabled (address : String)
  | vaultGetBalanceOf (address : String)
  | vaultGetLockupOf (address : String)
  | vaultGetUnbondingOf (address : String)
  | vaultGetUnbondingTimestamp (address : String)
  | vaultGetTotalEarningsOf (address : String)
  | vaultGetFrozenPayment (address : String)
  | vaultGetSanctionOf (address : String)
  | vaultIsEligible (address : String)
  | vaultIsWhitelisted (address : String)
  | vaultGetMinLockupPerSource
  | vaultGetUnbondingPeriod

/-- What there is to know of a read. -/
structure Reading where
  Value : Type
  run : SDK Value
  call : ViewCall
  /-- the function it means to call -/
  function : AbiView
  /-- what it returns for an answer -/
  Shows : Value → Arg → Prop

/-- The answer is the value as it is encoded. -/
def shownAs {α : Type} (arg : α → Arg) (value : α) (raw : Arg) : Prop := raw = arg value

def Read.reading (net : ReadNet) (host : Host) : Read → Reading
  | sourceGetClient self => ⟨_, self.getClient net, self.call "getClient",
      ⟨"getClient", [], .address⟩, shownAs .str⟩
  | sourceGetStatus self => ⟨_, self.readStatus net, self.call "getStatus",
      ⟨"getStatus", [], .uint 8⟩, shownAs fun status => .int status.value⟩
  | sourceGetParams self => ⟨_, self.getParams net, self.call "getSourceParams",
      ⟨"getSourceParams", [], sourceParamsType⟩, shownAs SourceParams.toTuple⟩
  | sourceGetTaskCount self => ⟨_, self.getTaskCount net, self.call "getTaskCount",
      ⟨"getTaskCount", [], .uint 256⟩, shownAs .int⟩
  | sourceGetRegistrantCount self => ⟨_, self.getRegistrantCount net,
      self.call "getRegistrantCount", ⟨"getRegistrantCount", [], .uint 256⟩, shownAs .int⟩
  | sourceGetRegistrantId self provider => ⟨_, self.getRegistrantId net provider,
      ⟨"SourceAbi", some self.address, "getRegistrantId", [.str provider]⟩,
      ⟨"getRegistrantId", [.address], .uint 256⟩, shownAs .int⟩
  | sourceGetPreferredEnvironmentOf self provider => ⟨_,
      self.getPreferredEnvironmentOf net provider,
      ⟨"SourceAbi", some self.address, "preferredEnvironmentOf", [.str provider]⟩,
      ⟨"preferredEnvironmentOf", [.address], .uint 8⟩, shownAs .int⟩
  | taskGetSource self => ⟨_, self.getSource net host, self.call "getSource",
      ⟨"getSource", [], .address⟩, shownAs fun source => .str (host.text source.address)⟩
  | taskGetStatus self => ⟨_, self.readStatus net, self.call "getStatus",
      ⟨"getStatus", [], .uint 8⟩, shownAs fun status => .int status.value⟩
  | taskGetParams self => ⟨_, self.getParams net, self.call "taskParams",
      ⟨"taskParams", [], taskParamsType⟩, shownAs TaskParams.toTuple⟩
  | taskGetPayment self => ⟨_, self.getPayment net, self.call "getPayment",
      ⟨"getPayment", [], .uint 256⟩, shownAs .int⟩
  | taskGetExpiryTime self => ⟨_, self.getExpiryTime net, self.call "getExpiryTime",
      ⟨"getExpiryTime", [], .uint 256⟩, shownAs .int⟩
  | taskGetDeliveryMethod self => ⟨_, self.getDeliveryMethod net, self.call "getDeliveryMethod",
      ⟨"getDeliveryMethod", [], .uint 8⟩, shownAs fun method => .int method.value⟩
  | taskGetAttemptCount self => ⟨_, self.getAttemptCount net, self.call "getAttemptCount",
      ⟨"getAttemptCount", [], .uint 256⟩, shownAs .int⟩
  | taskGetAttempterId self provider => ⟨_, self.getAttempterId net provider,
      ⟨"TaskAbi", some self.address, "getAttempterId", [.str provider]⟩,
      ⟨"getAttempterId", [.address], .uint 256⟩, shownAs .int⟩
  | taskGetResponseOf self provider => ⟨_, self.getResponseOf net host provider,
      ⟨"TaskAbi", some self.address, "responseOf", [.str provider]⟩,
      ⟨"responseOf", [.address], .address⟩,
      shownAs fun response => .str ((response.map (host.text ·.address)).getD ZERO_ADDRESS_TEXT)⟩
  | taskGetWinningProvider self => ⟨_, self.getWinningProvider net, self.call "winningProvider",
      ⟨"winningProvider", [], .address⟩, shownAs fun addr => .str (addr.getD ZERO_ADDRESS_TEXT)⟩
  | responseGetTask self => ⟨_, self.getTask net host, self.call "getResponseParams",
      ⟨"getResponseParams", [], responseParamsType⟩, fun task raw => ∃ params : ResponseParams,
        raw = params.raw ∧ params.task = host.text task.address⟩
  | responseGetParams self => ⟨_, self.getParams net, self.call "getResponseParams",
      ⟨"getResponseParams", [], responseParamsType⟩, shownAs ResponseParams.raw⟩
  | responseGetData self => ⟨_, self.getData net, self.call "getResponseParams",
      ⟨"getResponseParams", [], responseParamsType⟩, fun data raw => ∃ params : ResponseParams,
        raw = params.raw ∧ params.data = data⟩
  | responseGetStatus self => ⟨_, self.readStatus net, self.call "getStatus",
      ⟨"getStatus", [], .uint 8⟩, shownAs fun status => .int status.value⟩
  | responseGetTimestamp self => ⟨_, self.getTimestamp net, self.call "responseTimestamp",
      ⟨"responseTimestamp", [], .uint 256⟩, shownAs .int⟩
  | responseIsConfirmed self => ⟨_, self.isConfirmed net, self.call "confirmedFinal",
      ⟨"confirmedFinal", [], .bool⟩, shownAs .bool⟩
  | terminalGetMasterOf provider => ⟨_, Terminal.getMasterOf net provider,
      Terminal.terminal "masterOf" provider, ⟨"masterOf", [.address], .address⟩, shownAs .str⟩
  | terminalGetProviderOf master => ⟨_, Terminal.getProviderOf net master,
      Terminal.terminal "providerOf" master, ⟨"providerOf", [.address], .address⟩, shownAs .str⟩
  | terminalGetBaseDataOf provider => ⟨_, Terminal.getBaseDataOf net provider,
      Terminal.terminal "baseDataOf" provider, ⟨"baseDataOf", [.address], .string⟩, shownAs .str⟩
  | terminalGetLiveDataOf provider => ⟨_, Terminal.getLiveDataOf net provider,
      Terminal.terminal "liveDataOf" provider, ⟨"liveDataOf", [.address], .string⟩, shownAs .str⟩
  | terminalIsMaster address => ⟨_, Terminal.isMaster net address,
      Terminal.terminal "isMaster" address, ⟨"isMaster", [.address], .bool⟩, shownAs .bool⟩
  | terminalIsProvider address => ⟨_, Terminal.isProvider net address,
      Terminal.terminal "isProvider" address, ⟨"isProvider", [.address], .bool⟩, shownAs .bool⟩
  | terminalIsAgentOf account agent => ⟨_, Terminal.isAgentOf net account agent,
      ⟨"TerminalAbi", none, "isAgentOf", [.str account, .str agent]⟩,
      ⟨"isAgentOf", [.address, .address], .bool⟩, shownAs .bool⟩
  | terminalIsDefaultAgentDisabled address => ⟨_, Terminal.isDefaultAgentDisabled net address,
      Terminal.terminal "defaultAgentDisabled" address,
      ⟨"defaultAgentDisabled", [.address], .bool⟩, shownAs .bool⟩
  | vaultGetBalanceOf address => ⟨_, Vault.getBalanceOf net address,
      Vault.vault "balanceOf" address, ⟨"balanceOf", [.address], .uint 256⟩, shownAs .int⟩
  | vaultGetLockupOf address => ⟨_, Vault.getLockupOf net address,
      Vault.vault "lockupOf" address, ⟨"lockupOf", [.address], .uint 256⟩, shownAs .int⟩
  | vaultGetUnbondingOf address => ⟨_, Vault.getUnbondingOf net address,
      Vault.vault "unbondingOf" address, ⟨"unbondingOf", [.address], .uint 256⟩, shownAs .int⟩
  | vaultGetUnbondingTimestamp address => ⟨_, Vault.getUnbondingTimestamp net address,
      Vault.vault "unbondingTimestamp" address, ⟨"unbondingTimestamp", [.address], .uint 256⟩,
      shownAs .int⟩
  | vaultGetTotalEarningsOf address => ⟨_, Vault.getTotalEarningsOf net address,
      Vault.vault "totalEarningsOf" address, ⟨"totalEarningsOf", [.address], .uint 256⟩,
      shownAs .int⟩
  | vaultGetFrozenPayment address => ⟨_, Vault.getFrozenPayment net address,
      Vault.vault "frozenPayment" address, ⟨"frozenPayment", [.address], .uint 256⟩, shownAs .int⟩
  | vaultGetSanctionOf address => ⟨_, Vault.getSanctionOf net address,
      Vault.vault "sanctionOf" address, ⟨"sanctionOf", [.address], .uint 256⟩, shownAs .int⟩
  | vaultIsEligible address => ⟨_, Vault.isEligible net address,
      Vault.vault "isEligible" address, ⟨"isEligible", [.address], .bool⟩, shownAs .bool⟩
  | vaultIsWhitelisted address => ⟨_, Vault.isWhitelisted net address,
      Vault.vault "isWhitelisted" address, ⟨"isWhitelisted", [.address], .bool⟩, shownAs .bool⟩
  | vaultGetMinLockupPerSource => ⟨_, Vault.getMinLockupPerSource net,
      ⟨"VaultAbi", none, "MIN_LOCKUP_PER_SOURCE", []⟩, ⟨"MIN_LOCKUP_PER_SOURCE", [], .uint 256⟩,
      shownAs .int⟩
  | vaultGetUnbondingPeriod => ⟨_, Vault.getUnbondingPeriod net,
      ⟨"VaultAbi", none, "UNBONDING_PERIOD", []⟩, ⟨"UNBONDING_PERIOD", [], .uint 256⟩,
      shownAs .int⟩

/-- The read asks for the one function of its name in the file of its contract, in either
directory, and its arguments fit exactly where the addresses among them are checksummed. -/
structure Reading.FitsAbi (r : Reading) (host : Host) : Prop where
  named : (AbiFiles.views r.call.abiName).filter (·.name == r.call.functionName) = [r.function]
  others : ∀ directory, directory = "mainnet" ∨ directory = "testnet" →
    AbiFiles.named directory r.call.abiName r.call.functionName = []
  inputs : ∀ t ∈ r.function.inputs, t = .address
  args : AbiType.TakesAll host r.function.inputs r.call.args ↔
    ∀ text, Arg.str text ∈ r.call.args → host.Checksummed text

theorem Read.fits (net : ReadNet) (host : Host) (r : Read) : (r.reading net host).FitsAbi host where
  named := by cases r <;> rfl
  others := by
    rintro directory (rfl | rfl) <;> cases r <;> rfl
  inputs := by cases r <;> simp [reading]
  args := by cases r <;> simp [reading, Source.call, Task.call, Response.call, Terminal.terminal,
    Vault.vault]

/-! ## Values of the types -/

section

variable {host : Host} {raw : Arg}

theorem AbiType.Takes.address (h : AbiType.Takes host .address raw) :
    ∃ address, raw = .str (host.text address) := by
  cases raw with
  | str s =>
    obtain ⟨address, rfl⟩ := h
    exact ⟨address, rfl⟩
  | int => cases h
  | tuple => cases h

theorem AbiType.Takes.string (h : AbiType.Takes host .string raw) : ∃ s, raw = .str s := by
  cases raw with
  | str s => exact ⟨s, rfl⟩
  | int => cases h
  | tuple => cases h

theorem AbiType.Takes.bool (h : AbiType.Takes host .bool raw) : ∃ b, raw = .bool b := by
  cases raw with
  | str => cases h
  | int n =>
    rcases h with rfl | rfl
    · exact ⟨false, rfl⟩
    · exact ⟨true, rfl⟩
  | tuple => cases h

theorem AbiType.Takes.uint {bits : Nat} (h : AbiType.Takes host (.uint bits) raw) :
    ∃ n, raw = .int n ∧ InUint bits n := by
  cases raw with
  | str => cases h
  | int n => exact ⟨n, rfl, h⟩
  | tuple => cases h

theorem AbiType.Takes.tuple {components : List AbiType}
    (h : AbiType.Takes host (.tuple components) raw) :
    ∃ xs, raw = .tuple xs ∧ AbiType.TakesAll host components xs := by
  cases raw with
  | str => cases h
  | int => cases h
  | tuple xs => exact ⟨xs, rfl, h⟩

theorem AbiType.TakesAll.nil {xs : List Arg} (h : AbiType.TakesAll host [] xs) : xs = [] := by
  cases xs with
  | nil => rfl
  | cons => cases h

theorem AbiType.TakesAll.cons {t : AbiType} {ts : List AbiType} {xs : List Arg}
    (h : AbiType.TakesAll host (t :: ts) xs) :
    ∃ x rest, xs = x :: rest ∧ t.Takes host x ∧ AbiType.TakesAll host ts rest := by
  cases xs with
  | nil => cases h
  | cons x rest => exact ⟨x, rest, rfl, h.1, h.2⟩

/-- The tuples of the contracts are those the SDK takes apart. -/
theorem takes_sourceParams (h : sourceParamsType.Takes host raw) :
    ∃ params : SourceParams, raw = params.toTuple := by
  obtain ⟨_, rfl, h⟩ := AbiType.Takes.tuple h
  obtain ⟨_, _, rfl, hclient, h⟩ := h.cons
  obtain ⟨_, _, rfl, himage, h⟩ := h.cons
  obtain ⟨_, _, rfl, henvironments, h⟩ := h.cons
  obtain ⟨_, _, rfl, hpayment, h⟩ := h.cons
  obtain ⟨_, _, rfl, hlockup, h⟩ := h.cons
  obtain ⟨_, _, rfl, hduration, h⟩ := h.cons
  obtain ⟨_, _, rfl, hprivacy, h⟩ := h.cons
  obtain ⟨_, _, rfl, hoptions, h⟩ := h.cons
  obtain ⟨_, _, rfl, hdelivery, h⟩ := h.cons
  obtain ⟨_, _, rfl, htime, h⟩ := h.cons
  obtain rfl := h.nil
  obtain ⟨client, rfl⟩ := hclient.address
  obtain ⟨image, rfl⟩ := himage.string
  obtain ⟨environments, rfl, -⟩ := henvironments.uint
  obtain ⟨payment, rfl, -⟩ := hpayment.uint
  obtain ⟨lockup, rfl, -⟩ := hlockup.uint
  obtain ⟨duration, rfl, -⟩ := hduration.uint
  obtain ⟨privacy, rfl⟩ := hprivacy.bool
  obtain ⟨options, rfl⟩ := hoptions.string
  obtain ⟨delivery, rfl, -⟩ := hdelivery.uint
  obtain ⟨time, rfl, -⟩ := htime.uint
  exact ⟨⟨host.text client, image, environments, payment, lockup, duration, privacy, options,
    delivery, time⟩, rfl⟩

theorem takes_taskParams (h : taskParamsType.Takes host raw) :
    ∃ params : TaskParams, raw = params.toTuple := by
  obtain ⟨_, rfl, h⟩ := AbiType.Takes.tuple h
  obtain ⟨_, _, rfl, hsource, h⟩ := h.cons
  obtain ⟨_, _, rfl, hconfig, h⟩ := h.cons
  obtain ⟨_, _, rfl, hexpiry, h⟩ := h.cons
  obtain ⟨_, _, rfl, hpayment, h⟩ := h.cons
  obtain rfl := h.nil
  obtain ⟨source, rfl⟩ := hsource.address
  obtain ⟨config, rfl⟩ := hconfig.string
  obtain ⟨expiry, rfl, -⟩ := hexpiry.uint
  obtain ⟨payment, rfl, -⟩ := hpayment.uint
  exact ⟨⟨host.text source, config, expiry, payment⟩, rfl⟩

theorem takes_responseParams (h : responseParamsType.Takes host raw) :
    ∃ params : ResponseParams, raw = params.raw ∧ host.Checksummed params.task := by
  obtain ⟨_, rfl, h⟩ := AbiType.Takes.tuple h
  obtain ⟨_, _, rfl, htask, h⟩ := h.cons
  obtain ⟨_, _, rfl, hprovider, h⟩ := h.cons
  obtain ⟨_, _, rfl, hdata, h⟩ := h.cons
  obtain ⟨_, _, rfl, hpayment, h⟩ := h.cons
  obtain rfl := h.nil
  obtain ⟨task, rfl⟩ := htask.address
  obtain ⟨provider, rfl⟩ := hprovider.address
  obtain ⟨data, rfl⟩ := hdata.string
  obtain ⟨payment, rfl, -⟩ := hpayment.uint
  exact ⟨⟨host.text task, host.text provider, data, payment⟩, rfl, task, rfl⟩

end

end OgpuSdk
