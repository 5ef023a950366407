import OgpuSdk.Protocol.ReadAbi

/-!
# Nodes that serve the ABIs

A node serves an ABI file at an address if it answers the calls that fit its
functions with values of their output types, and with codes the SDK has
members for (`ReadNet.Serves`). Then nothing that a read does with an answer can
fail: every read returns what the node answered, and every snapshot its
picture. What a program may do between its reads is `Returns`; one read is
`Shown`.
-/

namespace OgpuSdk

open Prog

/-! ## A node that serves the files -/

/-- The number of members of the enum whose codes a view function answers with. -/
def AbiFiles.enumMembers : String → String → Option Nat
  | "SourceAbi", "getStatus" => some 2
  | "TaskAbi", "getStatus" => some 6
  | "TaskAbi", "getDeliveryMethod" => some 2
  | "ResponseAbi", "getStatus" => some 2
  | _, _ => none

/-- At this address is a contract of the file: calls of its functions of addresses are answered
with values of their output types, and enum codes are those of members. -/
structure ReadNet.Serves (net : ReadNet) (host : Host) (abiName : String) (address : Address) :
    Prop where
  answers : ∀ v ∈ AbiFiles.views abiName, (∀ t ∈ v.inputs, t = .address) → ∀ args,
    AbiType.TakesAll host v.inputs args → ∀ t, ∃ raw,
      net.state t ⟨address, v.name, args⟩ = .ok raw ∧ v.output.Takes host raw
  codes : ∀ functionName n, AbiFiles.enumMembers abiName functionName = some n →
    ∀ t args code, net.state t ⟨address, functionName, args⟩ = .ok (.int code) → code < n

/-- The singleton of the chain that is selected is served. -/
def ReadNet.ServesSingleton (net : ReadNet) (host : Host) (s : Settings) (abiName : String) :
    Prop :=
  ∀ current : ChainState, ∀ address, current.settings = s →
    current.singleton abiName = some address → net.Serves host abiName address

/-- A supported chain is selected, its node can be reached, and the ABI files are there. -/
structure ContractNet.Ready (net : ContractNet) (s : Settings) : Prop where
  selected : ∃ c url, s.current = some c ∧ c.supported = true ∧ s.rpcUrls c = some url ∧ url ≠ ""
  connected : net.connected.answer = .ok true
  files : ∀ directory abiName, (net.files directory abiName).isSome = true
  contract : net.contract = .ok ()

/-- Checksumming gives back an address from its checksummed text. -/
def Host.Parses (host : Host) : Prop :=
  ∀ address, host.toChecksumAddress (host.text address) = .ok address

/-- From these settings the program returns something of this kind, and leaves the settings. -/
def Returns {α : Type} (s : Settings) (x : SDK α) (P : α → Prop) : Prop :=
  ∀ w, w.chain.settings = s → ∃ a w', x.exec w = (.ok a, w') ∧ w'.chain.settings = s ∧
    w.clock.mono ≤ w'.clock.mono ∧ P a

namespace Returns

variable {s : Settings} {α β : Type} {x : SDK α} {P : α → Prop}

theorem pure {a : α} (h : P a) : Returns s (Pure.pure a : SDK α) P :=
  fun w hw => ⟨a, w, rfl, hw, le_refl _, h⟩

theorem lift {answer : Except Exc α} {a : α} (h : answer = .ok a) (hP : P a) :
    Returns s (SDK.lift answer) P := by
  subst h
  exact pure hP

theorem bind {f : α → SDK β} {Q : β → Prop} (hx : Returns s x P)
    (hf : ∀ a, P a → Returns s (f a) Q) : Returns s (x >>= f) Q := by
  intro w hw
  obtain ⟨a, u, hexec, hu, hle, ha⟩ := hx w hw
  obtain ⟨b, w', hexec', hw', hle', hb⟩ := hf a ha u hu
  exact ⟨b, w', (exec_bind_ok hexec).trans hexec', hw', hle.trans hle', hb⟩

/-- What is known to keep the settings has only to come back. -/
theorem of_ok (hkeeps : SDK.Keeps (fun _ _ => True) x) (hconfigured : Preserves (Configured s) x)
    (hok : ∀ w, w.chain.settings = s → ∃ a, (x.exec w).1 = .ok a) : Returns s x fun _ => True := by
  intro w hw
  obtain ⟨a, ha⟩ := hok w hw
  exact ⟨a, (x.exec w).2, Prod.ext ha rfl, hconfigured w hw, (hkeeps w).clock_le, trivial⟩

end Returns

section

variable {net : ContractNet} {s : Settings}

theorem ContractNet.Ready.getWeb3 (h : net.Ready s) :
    Returns s (OgpuSdk.getWeb3 net.connected) fun _ => True := by
  refine .of_ok (keeps_getWeb3 _) (configured_getWeb3 _) ?_
  rintro w rfl
  obtain ⟨c, url, hc, -, hurl, hne⟩ := h.selected
  change w.chain.currentChain = some c at hc
  change w.chain.rpcUrls c = some url at hurl
  rw [exec_getWeb3, h.connected]
  unfold Web3Manager.getWeb3Instance
  rw [exec_bind, ChainConfig.exec_target]
  cases hi : w.chain.web3Instances c with
  | some web3 => exact ⟨web3, by simp [ChainState.named, hc, hi, exec_bind]⟩
  | none =>
    refine ⟨url, ?_⟩
    simp [ChainState.named, hc, hi, Web3Manager.getRpcUrlForChain, hurl, exec_bind, exec_map,
      Except.map]

theorem ContractNet.Ready.loadAbi (h : net.Ready s) (abiName : String) :
    Returns s (SDK.chain (ChainConfig.loadAbi net.files abiName)) fun _ => True := by
  refine .of_ok (.chain _) (configured_loadAbi _ _) ?_
  rintro w rfl
  obtain ⟨c, url, hc, hsupported, -, -⟩ := h.selected
  change w.chain.currentChain = some c at hc
  show ∃ abi, ((ChainConfig.loadAbi net.files abiName).exec w.chain).1 = .ok abi
  unfold ChainConfig.loadAbi
  rw [exec_bind, ChainConfig.exec_getCurrentChain, hc]
  cases hl : w.chain.loadedAbis c abiName with
  | some abi => exact ⟨abi, by simp [hl, exec_bind]⟩
  | none =>
    obtain ⟨directory, hdirectory⟩ : ∃ d, ChainConfig.CHAIN_DIRECTORIES c = some d := by
      cases c with
      | other => cases hsupported
      | _ => exact ⟨_, rfl⟩
    obtain ⟨abi, habi⟩ := Option.isSome_iff_exists.mp (h.files directory abiName)
    exact ⟨abi, by simp [hl, hdirectory, habi, exec_bind, exec_map, Except.map]⟩

/-- Every supported chain has the four singletons. -/
theorem ContractNet.Ready.contractAddress (h : net.Ready s) {abiName : String}
    {address : Option Address} (haddress : address.isSome = true ∨
      (SINGLETON_ABI_TO_KEY.lookup abiName).isSome = true) :
    Returns s (OgpuSdk.contractAddress abiName address) fun _ => True := by
  unfold OgpuSdk.contractAddress
  cases address with
  | some address => exact .pure trivial
  | none =>
    obtain ⟨key, hkey⟩ := Option.isSome_iff_exists.mp (haddress.resolve_left (by simp))
    rw [hkey]
    rintro w rfl
    obtain ⟨c, url, hc, hsupported, -, -⟩ := h.selected
    change w.chain.currentChain = some c at hc
    have hmem : (abiName, key) ∈ SINGLETON_ABI_TO_KEY := by
      obtain ⟨before, after, htable, -⟩ := List.lookup_eq_some_iff.mp hkey
      rw [htable]
      exact List.mem_append_cons_self
    have hsingleton : ∃ address, (ChainConfig.getContractAddress key).exec w.chain =
        (.ok address, w.chain) := by
      unfold ChainConfig.getContractAddress
      rw [exec_bind, ChainConfig.exec_getCurrentChain, hc]
      cases c with
      | other => cases hsupported
      | _ =>
        simp only [SINGLETON_ABI_TO_KEY, List.mem_cons, Prod.mk.injEq, List.not_mem_nil,
          or_false] at hmem
        rcases hmem with ⟨-, rfl⟩ | ⟨-, rfl⟩ | ⟨-, rfl⟩ | ⟨-, rfl⟩ <;> exact ⟨_, rfl⟩
    obtain ⟨address, haddress⟩ := hsingleton
    exact ⟨address, w, by simp [SDK.chain, haddress], rfl, le_refl _, trivial⟩

/-- A contract at a given address is loaded, and so are the singletons. -/
theorem ContractNet.Ready.loadContract (h : net.Ready s) {abiName : String}
    {address : Option Address} (haddress : address.isSome = true ∨
      (SINGLETON_ABI_TO_KEY.lookup abiName).isSome = true) :
    Returns s (OgpuSdk.loadContract net abiName address) fun _ => True :=
  h.getWeb3.bind fun _ _ => (h.loadAbi abiName).bind fun _ _ =>
    (h.contractAddress haddress).bind fun _ _ =>
      (Returns.lift (P := fun _ => True) h.contract trivial).bind fun _ _ => .pure trivial

end

/-! ## What a read returns -/

/-- From these settings the program returns a value that shows what a call was answered with. -/
def Shown {α : Type} (net : ReadNet) (s : Settings) (call : ViewCall) (x : SDK α)
    (Shows : α → Arg → Prop) : Prop :=
  ∀ w, w.chain.settings = s → ∃ a raw w', x.exec w = (.ok a, w') ∧ w'.chain.settings = s ∧
    Saw net w w' [(call, raw)] ∧ Shows a raw

/-- The answer is what the function of the read may answer with. -/
structure Reading.Answers (r : Reading) (host : Host) (raw : Arg) : Prop where
  takes : r.function.output.Takes host raw
  code : ∀ n code, AbiFiles.enumMembers r.call.abiName r.call.functionName = some n →
    raw = .int code → code < n

/-- The call of a read is answered. -/
def Reading.Answered (r : Reading) (net : ReadNet) (host : Host) (s : Settings) : Prop :=
  Shown net s r.call (view net r.call) fun raw raw' => raw' = raw ∧ r.Answers host raw

section

variable {net : ReadNet} {host : Host} {s : Settings} {α β : Type} {r : Reading}

/-- What follows a read looks at nothing else. -/
theorem Shown.bind {call : ViewCall} {x : SDK α} {Shows : α → Arg → Prop} {f : α → SDK β}
    {Shows' : β → Arg → Prop} (hx : Shown net s call x Shows)
    (hf : ∀ a raw, Shows a raw → Returns s (f a) (Shows' · raw)) :
    Shown net s call (x >>= f) Shows' := by
  intro w hw
  obtain ⟨a, raw, u, hexec, hu, hsaw, ha⟩ := hx w hw
  obtain ⟨b, w', hexec', hw', hle, hb⟩ := hf a raw ha u hu
  refine ⟨b, raw, w', (exec_bind_ok hexec).trans hexec', hw', ?_, hb⟩
  exact hsaw.trans ⟨congrArg Settings.current (hw'.trans hu.symm), .nil hle⟩

theorem Shown.returns {call : ViewCall} {x : SDK α} {Shows : α → Arg → Prop}
    (hx : Shown net s call x Shows) : Returns s x fun _ => True := by
  intro w hw
  obtain ⟨a, raw, w', hexec, hw', hsaw, -⟩ := hx w hw
  exact ⟨a, w', hexec, hw', hsaw.seen.le, trivial⟩

/-- A call that fits the ABI is answered on a node that serves it. -/
theorem Reading.FitsAbi.answered (hfits : r.FitsAbi host) (hready : net.load.Ready s)
    (haddress : r.call.address.isSome = true ∨
      (SINGLETON_ABI_TO_KEY.lookup r.call.abiName).isSome = true)
    (hargs : ∀ text, Arg.str text ∈ r.call.args → host.Checksummed text)
    (hserves : ∀ current target, current.settings = s → r.call.resolve current = some target →
      net.Serves host r.call.abiName target.contract) :
    r.Answered net host s := by
  intro w hw
  obtain ⟨contract, w₁, hload, hw₁, -, -⟩ := hready.loadContract haddress w hw
  obtain ⟨w', hview, hchain, hle⟩ := exec_view hload
  have htarget : r.call.resolve w.chain =
      some ⟨contract.address, r.call.functionName, r.call.args⟩ := by
    unfold ViewCall.resolve
    rw [loadContract_singleton hload]
    rfl
  have hmem : r.function ∈ AbiFiles.views r.call.abiName ∧
      (r.function.name == r.call.functionName) = true := by
    have hmem : r.function ∈ (AbiFiles.views r.call.abiName).filter
        (·.name == r.call.functionName) := by
      rw [hfits.named]
      exact List.mem_singleton_self _
    exact List.mem_filter.mp hmem
  have hname : r.function.name = r.call.functionName := by simpa using hmem.2
  have hserved := hserves w.chain _ hw htarget
  obtain ⟨raw, hraw, htakes⟩ := hserved.answers r.function hmem.1 hfits.inputs r.call.args
    (hfits.args.mpr hargs) w'.clock.mono
  rw [hname] at hraw
  rw [hraw, SDK.exec_lift_ok] at hview
  refine ⟨raw, raw, w', hview, by rw [hchain, hw₁], sees_view w raw w' hview, rfl, htakes, ?_⟩
  rintro n code hn rfl
  exact hserved.codes _ n hn _ _ code hraw

/-- A read whose answers decode returns. -/
theorem Shown.decode {ofRaw : Arg → Except Exc α} {Shows : α → Arg → Prop}
    (hview : r.Answered net host s)
    (h : ∀ raw, r.Answers host raw → ∃ a, ofRaw raw = .ok a ∧ Shows a raw) :
    Shown net s r.call (do let raw ← view net r.call; SDK.lift (ofRaw raw)) Shows := by
  refine hview.bind ?_
  rintro raw _ ⟨rfl, hanswers⟩
  obtain ⟨a, ha, hshows⟩ := h _ hanswers
  exact .lift ha hshows

theorem Shown.str
    (hview : r.Answered net host s)
    (htype : r.function.output = .address ∨ r.function.output = .string) :
    Shown net s r.call (viewStr net r.call) (shownAs .str) := by
  refine Shown.decode hview fun raw hanswers => ?_
  have htakes := hanswers.takes
  rcases htype with htype | htype
  · rw [htype] at htakes
    obtain ⟨address, rfl⟩ := htakes.address
    exact ⟨_, rfl, rfl⟩
  · rw [htype] at htakes
    obtain ⟨text, rfl⟩ := htakes.string
    exact ⟨_, rfl, rfl⟩

/-- What web3 returns for an address is checksummed. -/
theorem Shown.address
    (hview : r.Answered net host s)
    (htype : r.function.output = .address) : Shown net s r.call (viewStr net r.call)
      fun text raw => raw = .str text ∧ host.Checksummed text := by
  refine Shown.decode hview fun raw hanswers => ?_
  have htakes := hanswers.takes
  rw [htype] at htakes
  obtain ⟨address, rfl⟩ := htakes.address
  exact ⟨_, rfl, rfl, address, rfl⟩

theorem Shown.int {bits : Nat}
    (hview : r.Answered net host s)
    (htype : r.function.output = .uint bits) :
    Shown net s r.call (viewInt net r.call) (shownAs .int) := by
  refine Shown.decode hview fun raw hanswers => ?_
  have htakes := hanswers.takes
  rw [htype] at htakes
  obtain ⟨n, rfl, -⟩ := htakes.uint
  exact ⟨_, rfl, rfl⟩

theorem Shown.bool
    (hview : r.Answered net host s)
    (htype : r.function.output = .bool) :
    Shown net s r.call (viewBool net r.call) (shownAs .bool) := by
  refine Shown.decode hview fun raw hanswers => ?_
  have htakes := hanswers.takes
  rw [htype] at htakes
  obtain ⟨b, rfl⟩ := htakes.bool
  exact ⟨b, Arg.asBool_bool _ b, rfl⟩

/-- An enum read returns the member of the code. -/
theorem Shown.enum {ofInt : ℤ → Except Exc α} {value : α → ℤ} {bits n : Nat}
    (hview : r.Answered net host s)
    (htype : r.function.output = .uint bits)
    (hn : AbiFiles.enumMembers r.call.abiName r.call.functionName = some n)
    (hmember : ∀ code < n, ∃ a, ofInt (code : Nat) = .ok a)
    (hvalue : ∀ code a, ofInt code = .ok a → code = value a) :
    Shown net s r.call (viewEnum net r.call ofInt) (shownAs fun a => .int (value a)) := by
  refine Shown.decode hview fun raw hanswers => ?_
  have htakes := hanswers.takes
  rw [htype] at htakes
  obtain ⟨code, rfl, hcode, -⟩ := htakes.uint
  obtain ⟨code, rfl⟩ := Int.eq_ofNat_of_zero_le hcode
  have hlt := hanswers.code n code hn rfl
  obtain ⟨a, ha⟩ := hmember code (by omega)
  exact ⟨a, ha, congrArg Arg.int (hvalue _ a ha)⟩

theorem Shown.responseParams
    (hview : r.Answered net host s)
    (htype : r.function.output = responseParamsType) :
    Shown net s r.call (do let raw ← view net r.call; SDK.lift (ResponseParams.ofRaw raw))
      fun params raw => raw = params.raw ∧ host.Checksummed params.task := by
  refine Shown.decode hview fun raw hanswers => ?_
  have htakes := hanswers.takes
  rw [htype] at htakes
  obtain ⟨params, rfl, htask⟩ := takes_responseParams htakes
  exact ⟨params, rfl, rfl, htask⟩

/-- An instance is made of a checksummed address. -/
theorem returns_checksummed (hready : net.load.Ready s) (hhost : host.Parses) (address : Address) :
    Returns s (checksummed net host (host.text address)) (· = address) :=
  hready.getWeb3.bind fun _ _ => .lift (hhost address) rfl

/-- A read is of an instance or of a singleton. -/
theorem Read.located (net : ReadNet) (host : Host) (r : Read) :
    (r.reading net host).call.address.isSome = true ∨
      (SINGLETON_ABI_TO_KEY.lookup (r.reading net host).call.abiName).isSome = true := by
  cases r <;> simp [reading, Source.call, Task.call, Response.call, Terminal.terminal, Vault.vault,
    SINGLETON_ABI_TO_KEY]

/-- Where the node serves the file of a contract, every read of it with checksummed addresses
returns what the node answered. -/
theorem Read.shown (hready : net.load.Ready s) (hhost : host.Parses) (r : Read)
    (hargs : ∀ text, Arg.str text ∈ (r.reading net host).call.args → host.Checksummed text)
    (hserves : ∀ current target, current.settings = s →
      (r.reading net host).call.resolve current = some target →
        net.Serves host (r.reading net host).call.abiName target.contract) :
    Shown net s (r.reading net host).call (r.reading net host).run (r.reading net host).Shows := by
  have hview := (r.fits net host).answered hready (r.located net host) hargs hserves
  cases r with
  | sourceGetClient | terminalGetMasterOf | terminalGetProviderOf =>
    exact Shown.str hview (.inl rfl)
  | terminalGetBaseDataOf | terminalGetLiveDataOf => exact Shown.str hview (.inr rfl)
  | sourceGetTaskCount | sourceGetRegistrantCount | sourceGetRegistrantId
  | sourceGetPreferredEnvironmentOf | taskGetPayment | taskGetExpiryTime | taskGetAttemptCount
  | taskGetAttempterId | responseGetTimestamp | vaultGetBalanceOf | vaultGetLockupOf
  | vaultGetUnbondingOf | vaultGetUnbondingTimestamp | vaultGetTotalEarningsOf
  | vaultGetFrozenPayment | vaultGetSanctionOf | vaultGetMinLockupPerSource
  | vaultGetUnbondingPeriod => exact Shown.int hview rfl
  | responseIsConfirmed | terminalIsMaster | terminalIsProvider | terminalIsAgentOf
  | terminalIsDefaultAgentDisabled | vaultIsEligible | vaultIsWhitelisted =>
    exact Shown.bool hview rfl
  | sourceGetStatus self =>
    exact Shown.enum hview rfl rfl Source.members.member fun _ _ => value_of_enumOfInt
  | taskGetStatus self =>
    exact Shown.enum hview rfl rfl Task.members.member fun _ _ => value_of_enumOfInt
  | taskGetDeliveryMethod self =>
    exact Shown.enum hview rfl rfl (fun _ => enumOfInt_member rfl) fun _ _ => value_of_enumOfInt
  | responseGetStatus self =>
    exact Shown.enum hview rfl rfl Response.members.member fun _ _ => value_of_enumOfInt
  | sourceGetParams self =>
    refine Shown.decode hview fun raw hanswers => ?_
    obtain ⟨params, rfl⟩ := takes_sourceParams hanswers.takes
    exact ⟨params, params.ofRaw_toTuple, rfl⟩
  | taskGetParams self =>
    refine Shown.decode hview fun raw hanswers => ?_
    obtain ⟨params, rfl⟩ := takes_taskParams hanswers.takes
    exact ⟨params, params.ofRaw_toTuple, rfl⟩
  | responseGetParams self =>
    refine Shown.decode hview fun raw hanswers => ?_
    obtain ⟨params, rfl, -⟩ := takes_responseParams hanswers.takes
    exact ⟨params, rfl, rfl⟩
  | responseGetData self =>
    refine Shown.bind (Shown.responseParams hview rfl) ?_
    rintro params _ ⟨rfl, -⟩
    exact .pure ⟨params, rfl, rfl⟩
  | responseGetTask self =>
    refine Shown.bind (Shown.responseParams hview rfl) ?_
    rintro params _ ⟨rfl, task, htask⟩
    rw [htask]
    refine (returns_checksummed hready hhost task).bind ?_
    rintro _ rfl
    exact .pure ⟨params, rfl, htask⟩
  | taskGetSource self =>
    refine Shown.bind (Shown.address hview rfl) ?_
    rintro _ _ ⟨rfl, source, rfl⟩
    refine (returns_checksummed hready hhost source).bind ?_
    rintro _ rfl
    exact .pure rfl
  | taskGetResponseOf self provider =>
    refine Shown.bind (Shown.address hview rfl) ?_
    rintro _ _ ⟨rfl, response, rfl⟩
    split
    · next hzero => exact .pure (congrArg Arg.str hzero)
    · refine (returns_checksummed hready hhost response).bind ?_
      rintro _ rfl
      exact .pure rfl
  | taskGetWinningProvider self =>
    refine Shown.bind (Shown.address hview rfl) ?_
    rintro addr _ ⟨rfl, -⟩
    split
    · next hzero => exact .pure (congrArg Arg.str hzero)
    · exact .pure rfl

/-- A read of an instance without arguments returns. -/
theorem Read.returns_instance (hready : net.load.Ready s) (hhost : host.Parses) {abiName : String}
    {address : Address} (hserves : net.Serves host abiName address) (r : Read)
    (hname : (r.reading net host).call.abiName = abiName)
    (haddress : (r.reading net host).call.address = some address)
    (hargs : (r.reading net host).call.args = []) :
    Returns s (r.reading net host).run fun _ => True := by
  refine (r.shown hready hhost (by simp [hargs]) ?_).returns
  intro current target _ htarget
  unfold ViewCall.resolve at htarget
  rw [haddress, Option.some_or, Option.map_some, Option.some.injEq] at htarget
  rw [hname, ← htarget]
  exact hserves

/-- A read of a singleton about an account shows what it was answered with. -/
theorem Read.shown_singleton (hready : net.load.Ready s) (hhost : host.Parses)
    {abiName account : String} (hserves : net.ServesSingleton host s abiName)
    (haccount : host.Checksummed account) (r : Read)
    (hname : (r.reading net host).call.abiName = abiName)
    (haddress : (r.reading net host).call.address = none)
    (hargs : (r.reading net host).call.args = [.str account]) :
    Shown net s (r.reading net host).call (r.reading net host).run (r.reading net host).Shows := by
  refine r.shown hready hhost (by simp [hargs, haccount]) ?_
  intro current target hcurrent htarget
  unfold ViewCall.resolve at htarget
  rw [haddress, hname, Option.none_or] at htarget
  obtain ⟨address, hsingleton, rfl⟩ := Option.map_eq_some_iff.mp htarget
  rw [hname]
  exact hserves current address hcurrent hsingleton

theorem Read.returns_singleton (hready : net.load.Ready s) (hhost : host.Parses)
    {abiName account : String} (hserves : net.ServesSingleton host s abiName)
    (haccount : host.Checksummed account) (r : Read)
    (hname : (r.reading net host).call.abiName = abiName)
    (haddress : (r.reading net host).call.address = none)
    (hargs : (r.reading net host).call.args = [.str account]) :
    Returns s (r.reading net host).run fun _ => True :=
  (r.shown_singleton hready hhost hserves haccount hname haddress hargs).returns

theorem Source.snapshot_returns (hready : net.load.Ready s) (hhost : host.Parses) {self : Source}
    (hserves : net.Serves host "SourceAbi" self.address) :
    Returns s (self.snapshot net) fun _ => True := by
  have hread := Read.returns_instance hready hhost hserves
  exact (hread (.sourceGetClient self) rfl rfl rfl).bind fun _ _ =>
    (hread (.sourceGetStatus self) rfl rfl rfl).bind fun _ _ =>
    (hread (.sourceGetParams self) rfl rfl rfl).bind fun _ _ =>
    (hread (.sourceGetTaskCount self) rfl rfl rfl).bind fun _ _ =>
    (hread (.sourceGetRegistrantCount self) rfl rfl rfl).bind fun _ _ => .pure trivial

theorem Task.snapshot_returns (hready : net.load.Ready s) (hhost : host.Parses) {self : Task}
    (hserves : net.Serves host "TaskAbi" self.address) :
    Returns s (self.snapshot net) fun _ => True := by
  have hread := Read.returns_instance hready hhost hserves
  -- The snapshot takes the text of the source, without an instance.
  have hsource : Returns s (viewStr net (self.call "getSource")) fun _ => True := by
    have hanswered : ((Read.taskGetSource self).reading net host).Answered net host s := by
      refine ((Read.taskGetSource self).fits net host).answered hready (.inl rfl) ?_ ?_
      · simp [Read.reading, Task.call]
      · rintro _ _ - ⟨⟩
        exact hserves
    exact (Shown.address hanswered rfl).returns
  exact hsource.bind fun _ _ =>
    (hread (.taskGetStatus self) rfl rfl rfl).bind fun _ _ =>
    (hread (.taskGetParams self) rfl rfl rfl).bind fun _ _ =>
    (hread (.taskGetPayment self) rfl rfl rfl).bind fun _ _ =>
    (hread (.taskGetExpiryTime self) rfl rfl rfl).bind fun _ _ =>
    (hread (.taskGetDeliveryMethod self) rfl rfl rfl).bind fun _ _ =>
    (hread (.taskGetAttemptCount self) rfl rfl rfl).bind fun _ _ =>
    (hread (.taskGetWinningProvider self) rfl rfl rfl).bind fun _ _ => .pure trivial

theorem Response.snapshot_returns (hready : net.load.Ready s) (hhost : host.Parses)
    {self : Response} (hserves : net.Serves host "ResponseAbi" self.address) :
    Returns s (self.snapshot net) fun _ => True := by
  have hread := Read.returns_instance hready hhost hserves
  exact (hread (.responseGetParams self) rfl rfl rfl).bind fun _ _ =>
    (hread (.responseGetStatus self) rfl rfl rfl).bind fun _ _ =>
    (hread (.responseGetTimestamp self) rfl rfl rfl).bind fun _ _ =>
    (hread (.responseIsConfirmed self) rfl rfl rfl).bind fun _ _ => .pure trivial

theorem Provider.snapshot_returns (hready : net.load.Ready s) (hhost : host.Parses)
    (hserves : ∀ abiName ∈ ["TerminalAbi", "VaultAbi"], net.ServesSingleton host s abiName)
    (self : Provider host) : Returns s (self.snapshot net) fun _ => True := by
  have hterminal :=
    Read.returns_singleton hready hhost (hserves "TerminalAbi" (by simp)) self.checksummed
  have hvault := Read.returns_singleton hready hhost (hserves "VaultAbi" (by simp)) self.checksummed
  exact (hterminal (.terminalGetMasterOf _) rfl rfl rfl).bind fun _ _ =>
    (hterminal (.terminalGetBaseDataOf _) rfl rfl rfl).bind fun _ _ =>
    (hterminal (.terminalGetLiveDataOf _) rfl rfl rfl).bind fun _ _ =>
    (hterminal (.terminalIsProvider _) rfl rfl rfl).bind fun _ _ =>
    (hterminal (.terminalIsDefaultAgentDisabled _) rfl rfl rfl).bind fun _ _ =>
    (hvault (.vaultGetBalanceOf _) rfl rfl rfl).bind fun _ _ =>
    (hvault (.vaultGetLockupOf _) rfl rfl rfl).bind fun _ _ =>
    (hvault (.vaultGetUnbondingOf _) rfl rfl rfl).bind fun _ _ =>
    (hvault (.vaultGetUnbondingTimestamp _) rfl rfl rfl).bind fun _ _ =>
    (hvault (.vaultGetTotalEarningsOf _) rfl rfl rfl).bind fun _ _ =>
    (hvault (.vaultGetFrozenPayment _) rfl rfl rfl).bind fun _ _ =>
    (hvault (.vaultGetSanctionOf _) rfl rfl rfl).bind fun _ _ =>
    (hvault (.vaultIsEligible _) rfl rfl rfl).bind fun _ _ =>
    (hvault (.vaultIsWhitelisted _) rfl rfl rfl).bind fun _ _ => .pure trivial

theorem Master.snapshot_returns (hready : net.load.Ready s) (hhost : host.Parses)
    (hserves : ∀ abiName ∈ ["TerminalAbi", "VaultAbi"], net.ServesSingleton host s abiName)
    (self : Master host) : Returns s (self.snapshot net) fun _ => True := by
  have hterminal :=
    Read.returns_singleton hready hhost (hserves "TerminalAbi" (by simp)) self.checksummed
  have hvault := Read.returns_singleton hready hhost (hserves "VaultAbi" (by simp)) self.checksummed
  exact (hterminal (.terminalGetProviderOf _) rfl rfl rfl).bind fun _ _ =>
    (hterminal (.terminalIsMaster _) rfl rfl rfl).bind fun _ _ =>
    (hvault (.vaultGetBalanceOf _) rfl rfl rfl).bind fun _ _ =>
    (hvault (.vaultGetLockupOf _) rfl rfl rfl).bind fun _ _ =>
    (hvault (.vaultGetUnbondingOf _) rfl rfl rfl).bind fun _ _ =>
    (hvault (.vaultGetTotalEarningsOf _) rfl rfl rfl).bind fun _ _ =>
    (hvault (.vaultGetFrozenPayment _) rfl rfl rfl).bind fun _ _ =>
    (hvault (.vaultIsEligible _) rfl rfl rfl).bind fun _ _ =>
    (hvault (.vaultIsWhitelisted _) rfl rfl rfl).bind fun _ _ => .pure trivial

end

/-! ## Where the chain is now -/

section

variable {net : ReadNet} {host : Host} {w : World}

/-- Where the node serves the ABI files, no snapshot fails: each shows its picture. -/
theorem snapshots_return (hready : net.load.Ready w.chain.settings) (hhost : host.Parses) :
    (∀ self : Source, net.Serves host "SourceAbi" self.address → ∃ snap w',
        (self.snapshot net).exec w = (.ok snap, w') ∧ snap.Pictures self net w w') ∧
      (∀ self : Task, net.Serves host "TaskAbi" self.address → ∃ snap w',
        (self.snapshot net).exec w = (.ok snap, w') ∧ snap.Pictures self net w w') ∧
      (∀ self : Response, net.Serves host "ResponseAbi" self.address → ∃ snap w',
        (self.snapshot net).exec w = (.ok snap, w') ∧ snap.Pictures self net w w') ∧
      ((∀ abiName ∈ ["TerminalAbi", "VaultAbi"], ∀ address,
          w.chain.singleton abiName = some address → net.Serves host abiName address) →
        (∀ self : Provider host, ∃ snap w', (self.snapshot net).exec w = (.ok snap, w') ∧
          snap.Pictures self net w w') ∧
        ∀ self : Master host, ∃ snap w', (self.snapshot net).exec w = (.ok snap, w') ∧
          snap.Pictures self net w w') := by
  refine ⟨fun self hserves => ?_, fun self hserves => ?_, fun self hserves => ?_, fun hserves => ?_⟩
  · obtain ⟨snap, w', hexec, -⟩ := self.snapshot_returns hready hhost hserves w rfl
    exact ⟨snap, w', hexec, Source.snapshot_pictures hexec⟩
  · obtain ⟨snap, w', hexec, -⟩ := self.snapshot_returns hready hhost hserves w rfl
    exact ⟨snap, w', hexec, Task.snapshot_pictures hexec⟩
  · obtain ⟨snap, w', hexec, -⟩ := self.snapshot_returns hready hhost hserves w rfl
    exact ⟨snap, w', hexec, Response.snapshot_pictures hexec⟩
  · have hsingletons : ∀ abiName ∈ ["TerminalAbi", "VaultAbi"],
        net.ServesSingleton host w.chain.settings abiName := by
      intro abiName hmem current address hcurrent hsingleton
      rw [ChainState.singleton_congr (congrArg Settings.current hcurrent)] at hsingleton
      exact hserves abiName hmem address hsingleton
    constructor
    · intro self
      obtain ⟨snap, w', hexec, -⟩ := self.snapshot_returns hready hhost hsingletons w rfl
      exact ⟨snap, w', hexec, Provider.snapshot_pictures hexec⟩
    · intro self
      obtain ⟨snap, w', hexec, -⟩ := self.snapshot_returns hready hhost hsingletons w rfl
      exact ⟨snap, w', hexec, Master.snapshot_pictures hexec⟩

end

/-! ## Providers and masters -/

/-- What a load returns is the checksummed account, of which the Terminal has said during the load
that it has the role. -/
def FindsOnly {I : Type} (net : ReadNet) (host : Host) (functionName : String) (new : Address → I)
    (load : String → SDK I) : Prop :=
  ∀ text w i w', (load text).exec w = (.ok i, w') → ∃ address,
    host.toChecksumAddress text = .ok address ∧ i = new address ∧
      Saw net w w' [(Terminal.terminal functionName (host.text address), .bool true)]

/-- The load asks the Terminal for the role of the account, and the answer decides. -/
def Decides {I : Type} (net : ReadNet) (functionName account : String) (w : World) (load : SDK I)
    (found : I) (notFound : OGPUError) : Prop :=
  ∃ registered w', Saw net w w' [(Terminal.terminal functionName account, .bool registered)] ∧
    load.exec w = (if registered then .ok found else .error notFound.raised, w')

section

variable {net : ReadNet} {host : Host} {w : World} {I : Type} {functionName text : String}
  {address : Address} {new : Address → I} {notFound : String → OGPUError}

/-- Nothing is seen while a text is checksummed. -/
theorem checksummed_ok {w' : World}
    (h : (checksummed net host text).exec w = (.ok address, w')) :
    host.toChecksumAddress text = .ok address ∧ Saw net w w' [] := by
  obtain ⟨web3, w₁, hweb3, h⟩ := exec_bind_eq_ok h
  have hsettings := configured_getWeb3 net.load.connected w rfl
  have hle := (keeps_getWeb3 (P := fun _ _ => True) net.load.connected w).clock_le
  rw [hweb3] at hsettings hle
  cases hanswer : host.toChecksumAddress text with
  | error exc =>
    rw [hanswer] at h
    cases h
  | ok address' =>
    rw [hanswer] at h
    cases h
    exact ⟨rfl, congrArg Settings.current hsettings, .nil hle⟩

theorem loadAccount_finds :
    FindsOnly net host functionName new (loadAccount net host new
      (fun address => viewBool net (Terminal.terminal functionName address)) notFound) := by
  intro text w i w' h
  obtain ⟨address, w₁, hchecksummed, h⟩ := exec_bind_eq_ok h
  obtain ⟨haddress, hsaw⟩ := checksummed_ok hchecksummed
  obtain ⟨registered, w₂, hsaw', h⟩ := sees_viewBool.peel h
  cases registered with
  | true =>
    cases h
    exact ⟨address, haddress, rfl, hsaw.trans hsaw'⟩
  | false => cases h

theorem loadAccount_decides (hready : net.load.Ready w.chain.settings)
    (haddress : host.toChecksumAddress text = .ok address)
    (hshown : Shown net w.chain.settings (Terminal.terminal functionName (host.text address))
      (viewBool net (Terminal.terminal functionName (host.text address)))
      fun b raw => raw = .bool b) :
    Decides net functionName (host.text address) w
      (loadAccount net host new
        (fun address => viewBool net (Terminal.terminal functionName address)) notFound text)
      (new address) (notFound text) := by
  have hchecksummed : Returns w.chain.settings (checksummed net host text) (· = address) :=
    hready.getWeb3.bind fun _ _ => .lift haddress rfl
  obtain ⟨_, w₁, hexec, hsettings, -, rfl⟩ := hchecksummed w rfl
  obtain ⟨registered, _, w₂, hasked, -, hsaw, rfl⟩ := hshown w₁ hsettings
  refine ⟨registered, w₂, (checksummed_ok hexec).2.trans hsaw, ?_⟩
  unfold loadAccount
  rw [exec_bind_ok hexec]
  dsimp only
  rw [exec_bind_ok hasked]
  cases registered <;> rfl

/-- `Provider.load` and `Master.load` find only accounts that the Terminal says have the role, at a
moment of the call; and on a node that serves the Terminal they find each of them, however it is
spelled, and raise the error of an account that is not found for every other. -/
theorem accountLoads_exact (net : ReadNet) (host : Host) :
    FindsOnly net host "isProvider" Provider.of (Provider.load net host) ∧
      FindsOnly net host "isMaster" Master.of (Master.load net host) ∧
      ∀ w : World, net.load.Ready w.chain.settings → host.Parses →
        (∀ address, w.chain.singleton "TerminalAbi" = some address →
          net.Serves host "TerminalAbi" address) →
        ∀ text address, host.toChecksumAddress text = .ok address →
          Decides net "isProvider" (host.text address) w (Provider.load net host text) (.of address)
              (.providerNotFoundError text) ∧
            Decides net "isMaster" (host.text address) w (Master.load net host text) (.of address)
              (.masterNotFoundError text) := by
  refine ⟨loadAccount_finds, loadAccount_finds, fun w hready hhost hserves text address haddress => ?_⟩
  have hsingleton : net.ServesSingleton host w.chain.settings "TerminalAbi" := by
    intro current address hcurrent hsingleton
    rw [ChainState.singleton_congr (congrArg Settings.current hcurrent)] at hsingleton
    exact hserves address hsingleton
  have hshown := Read.shown_singleton hready hhost hsingleton (host.checksummed_text address)
  exact ⟨loadAccount_decides hready haddress (hshown (.terminalIsProvider _) rfl rfl rfl),
    loadAccount_decides hready haddress (hshown (.terminalIsMaster _) rfl rfl rfl)⟩

end

/-! ## A node that answers with one value of each type -/

mutual

/-- A value of the type. -/
def AbiType.sample : AbiType → Arg
  | .address => .str (lowerText 0x9#160)
  | .bool => .int 0
  | .string => .str ""
  | .uint _ => .int 0
  | .tuple components => .tuple (AbiType.samples components)
  | .array _ => .tuple []

def AbiType.samples : List AbiType → List Arg
  | [] => []
  | t :: ts => t.sample :: AbiType.samples ts

end

/-- The address a text spells, in any case. -/
def parseAddress (text : String) : Except Exc Address :=
  match (text.toList.drop 2).mapM hexValue with
  | some values => .ok (BitVec.ofNat 160 (Nat.ofDigits 16 values.reverse))
  | none => .error (.raw ⟨.exception "ValueError", s!"Unknown format {text}"⟩)

theorem mapM_hexValue {cs : List Char} {values : List Nat}
    (h : cs.map hexValue = values.map some) : cs.mapM hexValue = some values := by
  induction cs generalizing values with
  | nil =>
    cases values with
    | nil => rfl
    | cons => cases h
  | cons c cs ih =>
    cases values with
    | nil => cases h
    | cons n values =>
      rw [List.map_cons, List.map_cons, List.cons.injEq] at h
      rw [List.mapM_cons, h.1, ih h.2]
      rfl

theorem parseAddress_of_spells {text : String} {address : Address} (h : Spells text address) :
    parseAddress text = .ok address := by
  obtain ⟨x, cs, values, htext, -, hvalues, -, hdigits⟩ := h
  unfold parseAddress
  rw [htext, List.drop_succ_cons, List.drop_succ_cons, List.drop_zero, mapM_hexValue hvalues]
  dsimp only
  rw [hdigits, BitVec.ofNat_toNat, BitVec.setWidth_eq]

/-- Addresses are written in lower case, and read in any case. -/
def Host.parsing : Host := { Host.trial with toChecksumAddress := parseAddress }

theorem Host.parsing_parses : Host.parsing.Parses := by
  intro address
  have hparse := parseAddress_of_spells (spells_lowerText address)
  simpa only [parsing, trial] using hparse

mutual

theorem AbiType.takes_sample : ∀ t : AbiType, t.Takes .parsing t.sample
  | .address => ⟨_, rfl⟩
  | .bool => .inl rfl
  | .string => trivial
  | .uint _ => ⟨le_refl _, by positivity⟩
  | .tuple components => AbiType.takesAll_samples components
  | .array _ => fun _ h => by cases h

theorem AbiType.takesAll_samples :
    ∀ ts : List AbiType, AbiType.TakesAll .parsing ts (AbiType.samples ts)
  | [] => trivial
  | t :: ts => ⟨t.takes_sample, AbiType.takesAll_samples ts⟩

end

/-- The file of the contract at an address: a source, a task, a response, and the Terminal and the
Vault of the mainnet. -/
def ReadNet.deployed (address : Address) : String :=
  if address = 0x5#160 then "SourceAbi"
  else if address = 0x7#160 then "TaskAbi"
  else if address = 0x8#160 then "ResponseAbi"
  else if address = 0xaEBC7b712D38Fc4d841f0732c21B8774339869D3#160 then "TerminalAbi"
  else "VaultAbi"

def ReadNet.sampling : ReadNet where
  load := .prompt
  took := fun _ _ => ⟨1, 1⟩
  state := fun _ call =>
    match (AbiFiles.views (deployed call.contract)).find? (·.name == call.functionName) with
    | some v => .ok v.output.sample
    | none => undecoded call.functionName

/-- No file has two view functions of one name. -/
theorem AbiFiles.views_nodup (abiName : String) : ((views abiName).map (·.name)).Nodup := by
  unfold views
  split <;> decide

theorem find?_name_of_mem {vs : List AbiView} {v : AbiView} (hmem : v ∈ vs)
    (hnodup : (vs.map (·.name)).Nodup) : vs.find? (·.name == v.name) = some v := by
  induction vs with
  | nil => cases hmem
  | cons v' vs ih =>
    rw [List.map_cons, List.nodup_cons] at hnodup
    rcases List.mem_cons.mp hmem with rfl | hmem
    · simp
    · have hne : v'.name ≠ v.name := fun heq => hnodup.1 (heq ▸ List.mem_map_of_mem hmem)
      rw [List.find?_cons_of_neg (by simpa using hne)]
      exact ih hmem hnodup.2

theorem AbiType.sample_int {t : AbiType} {n : ℤ} (h : t.sample = .int n) : n = 0 := by
  cases t <;> simp_all [sample]

theorem ReadNet.sampling_serves {abiName : String} {address : Address}
    (h : deployed address = abiName) : ReadNet.sampling.Serves .parsing abiName address where
  answers := by
    rintro v hmem - args - t
    subst h
    refine ⟨v.output.sample, ?_, v.output.takes_sample⟩
    unfold ReadNet.sampling
    dsimp only
    rw [find?_name_of_mem hmem (AbiFiles.views_nodup _)]
  codes := by
    intro functionName n hn t args code hstate
    have hpos : 0 < n := by
      unfold AbiFiles.enumMembers at hn
      split at hn <;> cases hn <;> decide
    unfold ReadNet.sampling at hstate
    dsimp only at hstate
    split at hstate
    · rw [AbiType.sample_int (Except.ok.inj hstate)]
      exact Int.natCast_pos.mpr hpos
    · cases hstate

theorem ContractNet.prompt_ready (clock : Clock) :
    ContractNet.prompt.Ready (World.imported clock).chain.settings where
  selected := ⟨.OGPU_MAINNET, _, rfl, rfl, rfl, by decide⟩
  connected := rfl
  files _ _ := rfl
  contract := rfl

/-- Every class has its snapshot. -/
theorem snapshots_return_sampling :
    (∃ snap w', (Source.snapshot .sampling ⟨0x5#160⟩).exec (.imported ⟨0, 0⟩) = (.ok snap, w') ∧
        snap.Pictures ⟨0x5#160⟩ .sampling (.imported ⟨0, 0⟩) w') ∧
      (∃ snap w', (Task.snapshot .sampling ⟨0x7#160⟩).exec (.imported ⟨0, 0⟩) = (.ok snap, w') ∧
        snap.Pictures ⟨0x7#160⟩ .sampling (.imported ⟨0, 0⟩) w') ∧
      (∃ snap w', (Response.snapshot .sampling ⟨0x8#160⟩).exec (.imported ⟨0, 0⟩) =
        (.ok snap, w') ∧ snap.Pictures ⟨0x8#160⟩ .sampling (.imported ⟨0, 0⟩) w') ∧
      (∃ snap w', (Provider.snapshot .sampling (.of 0x9#160 : Provider .parsing)).exec
        (.imported ⟨0, 0⟩) = (.ok snap, w') ∧
          snap.Pictures (.of 0x9#160 : Provider .parsing) .sampling (.imported ⟨0, 0⟩) w') ∧
      ∃ snap w', (Master.snapshot .sampling (.of 0x9#160 : Master .parsing)).exec
        (.imported ⟨0, 0⟩) = (.ok snap, w') ∧
          snap.Pictures (.of 0x9#160 : Master .parsing) .sampling (.imported ⟨0, 0⟩) w' := by
  obtain ⟨hsource, htask, hresponse, haccounts⟩ := @snapshots_return .sampling .parsing
    (.imported ⟨0, 0⟩) (ContractNet.prompt_ready _) Host.parsing_parses
  obtain ⟨hprovider, hmaster⟩ := haccounts (by
    intro abiName hmem address hsingleton
    rcases List.mem_pair.mp hmem with rfl | rfl
    · cases hsingleton
      exact ReadNet.sampling_serves (by decide)
    · cases hsingleton
      exact ReadNet.sampling_serves (by decide))
  exact ⟨hsource _ (ReadNet.sampling_serves rfl), htask _ (ReadNet.sampling_serves rfl),
    hresponse _ (ReadNet.sampling_serves rfl), hprovider _, hmaster _⟩

/-- An account that has no role is not found. -/
theorem accountLoads_exact_sampling : ∃ w',
    (Provider.load .sampling .parsing (lowerText 0x9#160)).exec (.imported ⟨0, 0⟩) =
      (.error (OGPUError.providerNotFoundError (lowerText 0x9#160)).raised, w') := by
  obtain ⟨-, -, hdecides⟩ := accountLoads_exact .sampling .parsing
  obtain ⟨⟨registered, w', hsaw, hload⟩, -⟩ := hdecides (.imported ⟨0, 0⟩)
    (ContractNet.prompt_ready _) Host.parsing_parses (by
      rintro _ ⟨⟩
      exact ReadNet.sampling_serves (by decide)) _ _ (Host.parsing_parses 0x9#160)
  obtain ⟨t, -, -, hanswer⟩ := hsaw.seen.answered List.mem_cons_self
  cases registered with
  | false => exact ⟨w', hload⟩
  | true => cases hanswer

end OgpuSdk
