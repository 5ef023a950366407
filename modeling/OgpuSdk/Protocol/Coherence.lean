import OgpuSdk.Lib.Machine
import OgpuSdk.Lib.Invariant
import OgpuSdk.Protocol.Contract

/-!
# Coherence of the chain configuration

Runs here are sequences of calls that read or write the chain configuration,
from the import state on: `ChainConfig.set_chain`, `set_rpc`, `reset_rpc`,
`get_rpc` and `load_abi`, `Web3Manager.get_web3_instance` and `load_contract`,
whatever they return or raise. `Consistent` is what every one of them keeps;
`configured` is the URL a run leaves a chain with, read off the calls that
went through.
-/

namespace OgpuSdk

open Prog

/-! ## What the calls do to the configuration -/

namespace ChainState

/-- `update_rpc_url`: a new URL, and no instance. -/
def withRpc (s : ChainState) (c : ChainId) (url : Url) : ChainState :=
  { s with
    rpcUrls := Function.update s.rpcUrls c (some url)
    web3Instances := Function.update s.web3Instances c none }

/-- A new instance. -/
def withInstance (s : ChainState) (c : ChainId) (url : Url) : ChainState :=
  { s with web3Instances := Function.update s.web3Instances c (some url) }

/-- An ABI loaded. -/
def withAbi (s : ChainState) (c : ChainId) (abiName : String) (abi : Json) : ChainState :=
  { s with
    loadedAbis := Function.update s.loadedAbis c
      (Function.update (s.loadedAbis c) abiName (some abi)) }

/-- The chain a `chain` argument stands for. -/
def named (s : ChainState) (chain : Option ChainId) : Option ChainId := chain.or s.currentChain

end ChainState

namespace ChainConfig

variable (s : ChainState)

theorem exec_getCurrentChain :
    getCurrentChain.exec s =
      match s.currentChain with
      | some c => (.ok c, s)
      | none => (.error (OGPUError.chainNotSupportedError none).raised, s) := by
  unfold getCurrentChain
  rw [exec_bind_ok (exec_get s)]
  cases s.currentChain <;> rfl

theorem exec_target (chain : Option ChainId) :
    (target chain).exec s =
      match s.named chain with
      | some c => (.ok c, s)
      | none => (.error (OGPUError.chainNotSupportedError none).raised, s) := by
  cases chain with
  | some c => rfl
  | none => exact exec_getCurrentChain s

/-- `set_chain` selects a supported chain, or raises and changes nothing. -/
theorem setChain_cases (c : ChainId) :
    (c.supported = true ∧ (setChain c).exec s = (.ok (), { s with currentChain := some c })) ∨
      ∃ e, (setChain c).exec s = (.error e, s) := by
  unfold setChain
  by_cases hc : c.supported = true
  · rw [if_pos hc]
    exact .inl ⟨hc, rfl⟩
  · rw [if_neg hc]
    exact .inr ⟨_, rfl⟩

/-- `set_rpc` sets the URL of a supported chain after a probe that succeeds, or raises and changes
nothing. -/
theorem setRpc_cases (url : Url) (chain : Option ChainId) (probe : Except Exc Bool) :
    (∃ c, s.named chain = some c ∧ c.supported = true ∧ probe = .ok true ∧
        (setRpc url chain probe).exec s = (.ok (), s.withRpc c url)) ∨
      ∃ e, (setRpc url chain probe).exec s = (.error e, s) := by
  unfold setRpc
  rw [exec_bind, exec_target]
  cases hn : s.named chain with
  | none => exact .inr ⟨_, rfl⟩
  | some c =>
    dsimp only
    by_cases hc : c.supported = true
    · rcases probe with exc | _ | _
      · by_cases hexc : exc.isException = true
        · exact .inr ⟨_, by simp [hc, hexc]; rfl⟩
        · exact .inr ⟨_, by simp [hc, hexc]; rfl⟩
      · exact .inr ⟨_, by simp [hc]; rfl⟩
      · exact .inl ⟨c, rfl, hc, rfl, by simp [hc]; rfl⟩
    · exact .inr ⟨_, by simp [hc, exec_bind]; rfl⟩

/-- `reset_rpc` restores the default URL of a chain that has one, or raises and changes nothing. -/
theorem resetRpc_cases (chain : Option ChainId) :
    (∃ c url, s.named chain = some c ∧ DEFAULT_RPC_URLS c = some url ∧
        (resetRpc chain).exec s = (.ok (), s.withRpc c url)) ∨
      ∃ e, (resetRpc chain).exec s = (.error e, s) := by
  unfold resetRpc
  rw [exec_bind, exec_target]
  cases hn : s.named chain with
  | none => exact .inr ⟨_, rfl⟩
  | some c =>
    dsimp only
    cases hd : DEFAULT_RPC_URLS c with
    | none => exact .inr ⟨_, rfl⟩
    | some url => exact .inl ⟨c, url, rfl, hd, rfl⟩

theorem exec_getRpc {chain : Option ChainId} {c : ChainId} {url : Url} (hn : s.named chain = some c)
    (hc : c.supported = true) (hurl : s.rpcUrls c = some url) :
    (getRpc chain).exec s = (.ok url, s) := by
  unfold getRpc
  rw [exec_bind, exec_target, hn]
  simp [hc, hurl, exec_bind]

theorem getRpc_eq (chain : Option ChainId) :
    ((getRpc chain).exec s).2 = s := by
  unfold getRpc
  rw [exec_bind, exec_target]
  cases hn : s.named chain with
  | none => rfl
  | some c =>
    dsimp only
    by_cases hc : c.supported = true
    · cases hu : s.rpcUrls c <;> simp [hc, hu, exec_bind]
    · simp [hc, exec_bind]

/-- `load_abi` returns the ABI loaded before, or loads the file of the current chain, or raises. -/
theorem loadAbi_cases (files : String → String → Option Json) (abiName : String) :
    (∃ c abi, s.currentChain = some c ∧ s.loadedAbis c abiName = some abi ∧
        (loadAbi files abiName).exec s = (.ok abi, s)) ∨
      (∃ c directory abi, s.currentChain = some c ∧ CHAIN_DIRECTORIES c = some directory ∧
        files directory abiName = some abi ∧
        (loadAbi files abiName).exec s = (.ok abi, s.withAbi c abiName abi)) ∨
      ∃ e, (loadAbi files abiName).exec s = (.error e, s) := by
  unfold loadAbi
  rw [exec_bind, exec_getCurrentChain]
  cases hc : s.currentChain with
  | none => exact .inr (.inr ⟨_, rfl⟩)
  | some c =>
    dsimp only
    rw [exec_bind_ok (exec_get s)]
    cases hl : s.loadedAbis c abiName with
    | some abi => exact .inl ⟨c, abi, rfl, hl, rfl⟩
    | none =>
      dsimp only
      cases hd : CHAIN_DIRECTORIES c with
      | none => exact .inr (.inr ⟨_, rfl⟩)
      | some directory =>
        dsimp only
        cases hf : files directory abiName with
        | none => exact .inr (.inr ⟨_, rfl⟩)
        | some abi => exact .inr (.inl ⟨c, directory, abi, rfl, hd, hf, rfl⟩)

theorem getContractAddress_cases (contractName : String) :
    (∃ c contracts address, s.currentChain = some c ∧ CHAIN_CONTRACTS c = some contracts ∧
        contracts.lookup contractName = some address ∧
        (getContractAddress contractName).exec s = (.ok address, s)) ∨
      ∃ e, (getContractAddress contractName).exec s = (.error e, s) := by
  unfold getContractAddress
  rw [exec_bind, exec_getCurrentChain]
  cases hc : s.currentChain with
  | none => exact .inr ⟨_, rfl⟩
  | some c =>
    dsimp only
    cases hcs : CHAIN_CONTRACTS c with
    | none => exact .inr ⟨_, rfl⟩
    | some contracts =>
      dsimp only
      cases ha : contracts.lookup contractName with
      | none => exact .inr ⟨_, rfl⟩
      | some address => exact .inl ⟨c, contracts, address, rfl, hcs, ha, rfl⟩

end ChainConfig

/-- `get_web3_instance` returns the cached instance, or makes one with the configured URL, or
raises. -/
theorem Web3Manager.getWeb3Instance_cases (s : ChainState) (chain : Option ChainId)
    (connected : Except Exc Bool) :
    (∃ c url, s.named chain = some c ∧ s.web3Instances c = some url ∧
        (getWeb3Instance chain connected).exec s = (.ok url, s)) ∨
      (∃ c url, s.named chain = some c ∧ s.rpcUrls c = some url ∧
        (getWeb3Instance chain connected).exec s = (.ok url, s.withInstance c url)) ∨
      ∃ e, (getWeb3Instance chain connected).exec s = (.error e, s) := by
  unfold getWeb3Instance
  rw [exec_bind, ChainConfig.exec_target]
  cases hn : s.named chain with
  | none => exact .inr (.inr ⟨_, rfl⟩)
  | some c =>
    dsimp only
    rw [exec_bind_ok (exec_get s)]
    cases hi : s.web3Instances c with
    | some url => exact .inl ⟨c, url, rfl, hi, rfl⟩
    | none =>
      unfold getRpcUrlForChain
      cases hu : s.rpcUrls c with
      | none => exact .inr (.inr ⟨_, by simp [hu, exec_bind]; rfl⟩)
      | some url =>
        by_cases hempty : url = ""
        · exact .inr (.inr ⟨_, by simp [hu, hempty, exec_bind]; rfl⟩)
        · rcases connected with exc | _ | _
          · exact .inr (.inr ⟨_, by simp [hu, exec_bind]; rfl⟩)
          · exact .inr (.inr ⟨_, by simp [hu, exec_bind]; rfl⟩)
          · exact .inr (.inl ⟨c, url, rfl, hu, by simp [hu, exec_bind, exec_map, Except.map]; rfl⟩)

/-! ## What every call keeps -/

/-- Instances and ABIs are those of their chains: an instance was built with the URL configured
now, an ABI is the file of its chain. The current chain is one of the supported ones. -/
structure ChainState.Consistent (files : String → String → Option Json) (s : ChainState) :
    Prop where
  selected : ∀ c, s.currentChain = some c → c.supported = true
  built : ∀ c url, s.web3Instances c = some url → s.rpcUrls c = some url
  loaded : ∀ c abiName abi, s.loadedAbis c abiName = some abi →
    ∃ directory, ChainConfig.CHAIN_DIRECTORIES c = some directory ∧
      files directory abiName = some abi

namespace ChainState.Consistent

variable {files : String → String → Option Json} {s : ChainState} {c : ChainId}

theorem imported : ChainState.imported.Consistent files where
  selected := by
    rintro c ⟨⟩
    rfl
  built := by
    rintro c url ⟨⟩
  loaded := by
    rintro c abiName abi ⟨⟩

theorem select (h : s.Consistent files) (hc : c.supported = true) :
    ChainState.Consistent files { s with currentChain := some c } where
  selected := by
    rintro c' ⟨⟩
    exact hc
  built := h.built
  loaded := h.loaded

/-- The instance of the chain is dropped with its URL. -/
theorem withRpc (h : s.Consistent files) (c : ChainId) (url : Url) :
    (s.withRpc c url).Consistent files where
  selected := h.selected
  built := by
    intro c' url' hc'
    by_cases hcc : c' = c
    · subst hcc
      simp [ChainState.withRpc] at hc'
    · simp only [ChainState.withRpc, Function.update_of_ne hcc] at hc' ⊢
      exact h.built c' url' hc'
  loaded := h.loaded

theorem connect (h : s.Consistent files) {url : Url} (hc : s.rpcUrls c = some url) :
    (s.withInstance c url).Consistent files where
  selected := h.selected
  built := by
    intro c' url' hc'
    unfold ChainState.withInstance at hc'
    by_cases hcc : c' = c
    · subst hcc
      simp only [Function.update_self, Option.some.injEq] at hc'
      exact hc' ▸ hc
    · simp only [Function.update_of_ne hcc] at hc'
      exact h.built c' url' hc'
  loaded := h.loaded

theorem load (h : s.Consistent files) {directory abiName : String} {abi : Json}
    (hd : ChainConfig.CHAIN_DIRECTORIES c = some directory)
    (hf : files directory abiName = some abi) :
    (s.withAbi c abiName abi).Consistent files where
  selected := h.selected
  built := h.built
  loaded := by
    intro c' abiName' abi' hc'
    unfold ChainState.withAbi at hc'
    by_cases hcc : c' = c
    · subst hcc
      simp only [Function.update_self] at hc'
      by_cases hname : abiName' = abiName
      · subst hname
        simp only [Function.update_self, Option.some.injEq] at hc'
        exact ⟨directory, hd, hc' ▸ hf⟩
      · simp only [Function.update_of_ne hname] at hc'
        exact h.loaded c' abiName' abi' hc'
    · simp only [Function.update_of_ne hcc] at hc'
      exact h.loaded c' abiName' abi' hc'

end ChainState.Consistent

/-- The configuration is consistent, with these URLs and this chain selected. -/
def ChainState.Holds (files : String → String → Option Json) (rpcUrls : ChainId → Option Url)
    (current : Option ChainId) (s : ChainState) : Prop :=
  s.rpcUrls = rpcUrls ∧ s.currentChain = current ∧ s.Consistent files

section

variable {files : String → String → Option Json} {rpcUrls : ChainId → Option Url}
  {current : Option ChainId}

theorem holds_getWeb3Instance (chain : Option ChainId) (connected : Except Exc Bool) :
    Preserves (ChainState.Holds files rpcUrls current)
      (Web3Manager.getWeb3Instance chain connected) := by
  rintro s ⟨hrpc, hcur, hs⟩
  rcases Web3Manager.getWeb3Instance_cases s chain connected with
    ⟨_, _, _, _, he⟩ | ⟨c, url, _, hurl, he⟩ | ⟨_, he⟩
  · rw [he]
    exact ⟨hrpc, hcur, hs⟩
  · rw [he]
    exact ⟨hrpc, hcur, hs.connect hurl⟩
  · rw [he]
    exact ⟨hrpc, hcur, hs⟩

theorem holds_loadAbi (abiName : String) :
    Preserves (ChainState.Holds files rpcUrls current) (ChainConfig.loadAbi files abiName) := by
  rintro s ⟨hrpc, hcur, hs⟩
  rcases ChainConfig.loadAbi_cases s files abiName with
    ⟨_, _, _, _, he⟩ | ⟨c, directory, abi, _, hd, hf, he⟩ | ⟨_, he⟩
  · rw [he]
    exact ⟨hrpc, hcur, hs⟩
  · rw [he]
    exact ⟨hrpc, hcur, hs.load hd hf⟩
  · rw [he]
    exact ⟨hrpc, hcur, hs⟩

theorem holds_getContractAddress (contractName : String) :
    Preserves (ChainState.Holds files rpcUrls current)
      (ChainConfig.getContractAddress contractName) := by
  refine .of_unchanged fun s => ?_
  rcases ChainConfig.getContractAddress_cases s contractName with
    ⟨_, _, _, _, _, _, he⟩ | ⟨_, he⟩ <;> rw [he]

/-- A world whose configuration `Holds`. -/
def World.Holds (files : String → String → Option Json) (rpcUrls : ChainId → Option Url)
    (current : Option ChainId) (w : World) : Prop :=
  w.chain.Holds files rpcUrls current

theorem holds_chain {α : Type} {x : ChainProg α}
    (h : Preserves (ChainState.Holds files rpcUrls current) x) :
    Preserves (World.Holds files rpcUrls current) (SDK.chain x) :=
  fun w hw => h w.chain hw

theorem holds_getWeb3 (connected : Reply Bool) :
    Preserves (World.Holds files rpcUrls current) (getWeb3 connected) := by
  intro w hw
  rw [exec_getWeb3]
  exact holds_getWeb3Instance none connected.answer w.chain hw

theorem holds_contractAddress (abiName : String) (address : Option Address) :
    Preserves (World.Holds files rpcUrls current) (contractAddress abiName address) := by
  unfold contractAddress
  split
  · exact .pure _
  · exact holds_chain (holds_getContractAddress _)
  · exact .raise _

theorem holds_lift {α : Type} (answer : Except Exc α) :
    Preserves (World.Holds files rpcUrls current) (SDK.lift answer) := by
  cases answer with
  | ok a => exact .pure a
  | error exc => exact .raise _

theorem holds_loadContract (net : ContractNet) (hnet : net.files = files) (abiName : String)
    (address : Option Address) :
    Preserves (World.Holds files rpcUrls current) (loadContract net abiName address) := by
  unfold loadContract
  rw [hnet]
  exact .bind (holds_getWeb3 _) fun _ => .bind (holds_chain (holds_loadAbi _)) fun _ =>
    .bind (holds_contractAddress _ _) fun _ => .bind (holds_lift _) fun _ => .pure _

end

/-! ## Runs -/

/-- A call that reads or writes the configuration, with what the outside answers to it. -/
inductive ConfigOp where
  | setChain (chainId : ChainId)
  | setRpc (url : Url) (chain : Option ChainId) (probe : Except Exc Bool)
  | resetRpc (chain : Option ChainId)
  | getRpc (chain : Option ChainId)
  | loadAbi (abiName : String)
  | getWeb3Instance (chainId : Option ChainId) (connected : Except Exc Bool)
  | loadContract (abiName : String) (address : Option Address) (connected : Reply Bool)
      (contract : Except Exc Unit)

namespace ConfigOp

/-- The call, over fixed ABI files. -/
def run (files : String → String → Option Json) : ConfigOp → SDK Unit
  | .setChain chainId => SDK.chain (ChainConfig.setChain chainId)
  | .setRpc url chain probe => SDK.chain (ChainConfig.setRpc url chain probe)
  | .resetRpc chain => SDK.chain (ChainConfig.resetRpc chain)
  | .getRpc chain => do let _ ← SDK.chain (ChainConfig.getRpc chain)
  | .loadAbi abiName => do let _ ← SDK.chain (ChainConfig.loadAbi files abiName)
  | .getWeb3Instance chainId connected => do
    let _ ← SDK.chain (Web3Manager.getWeb3Instance chainId connected)
  | .loadContract abiName address connected contract => do
    let _ ← OgpuSdk.loadContract ⟨connected, files, contract⟩ abiName address

/-- A call that is made to change the configuration. -/
def configures : ConfigOp → Bool
  | .setChain _ | .setRpc _ _ _ | .resetRpc _ => true
  | .getRpc _ | .loadAbi _ | .getWeb3Instance _ _ | .loadContract _ _ _ _ => false

variable (files : String → String → Option Json)

def after (w : World) (op : ConfigOp) : World := ((op.run files).exec w).2

/-- The URL the call gives to `c`, if it goes through. -/
def gives (c : ChainId) (w : World) (op : ConfigOp) : Option Url :=
  match op, ((op.run files).exec w).1 with
  | .setRpc url chain _, .ok () => if w.chain.named chain = some c then some url else none
  | .resetRpc chain, .ok () =>
    if w.chain.named chain = some c then ChainConfig.DEFAULT_RPC_URLS c else none
  | _, _ => none

/-- The URL of `c` after a run, from `url` on: that of the last `set_rpc` or `reset_rpc` on `c`
that went through. -/
def configured (c : ChainId) : World → Option Url → List ConfigOp → Option Url
  | _, url, [] => url
  | w, url, op :: ops => configured c (op.after files w) ((op.gives files c w).or url) ops

/-- Runs of calls, from the import state. -/
def machine : Machine World ConfigOp where
  init w := ∃ clock, w = .imported clock
  step w op := some (op.after files w)

variable {files} {w w' : World} {op : ConfigOp}

theorem after_eq {r : Except Raised Unit} (h : (op.run files).exec w = (r, w')) :
    op.after files w = w' := by
  unfold after
  rw [h]

theorem exec_chain_eq {x : ChainProg Unit} {r : Except Raised Unit} {s : ChainState}
    (h : x.exec w.chain = (r, s)) : (SDK.chain x).exec w = (r, { w with chain := s }) := by
  unfold SDK.chain
  rw [exec_zoom, h]

/-- A call that is made to change the configuration selects a supported chain, gives a chain a URL,
or raises and changes nothing. -/
theorem configures_cases (files : String → String → Option Json) (w : World)
    (hop : op.configures = true) :
    (∃ c, c.supported = true ∧
        (op.run files).exec w =
          (.ok (), { w with chain := { w.chain with currentChain := some c } }) ∧
        ∀ c', op.gives files c' w = none) ∨
      (∃ c url, (op.run files).exec w = (.ok (), { w with chain := w.chain.withRpc c url }) ∧
        ∀ c', op.gives files c' w = if c' = c then some url else none) ∨
      ∃ e, (op.run files).exec w = (.error e, w) := by
  cases op with
  | setChain chainId =>
    rcases ChainConfig.setChain_cases w.chain chainId with ⟨hc, he⟩ | ⟨e, he⟩
    · exact .inl ⟨chainId, hc, exec_chain_eq he, fun _ => rfl⟩
    · exact .inr (.inr ⟨e, exec_chain_eq he⟩)
  | setRpc url chain probe =>
    rcases ChainConfig.setRpc_cases w.chain url chain probe with ⟨c, hn, -, -, he⟩ | ⟨e, he⟩
    · refine .inr (.inl ⟨c, url, exec_chain_eq he, fun c' => ?_⟩)
      unfold gives run
      rw [exec_chain_eq he]
      simp [hn, eq_comm]
    · exact .inr (.inr ⟨e, exec_chain_eq he⟩)
  | resetRpc chain =>
    rcases ChainConfig.resetRpc_cases w.chain chain with ⟨c, url, hn, hd, he⟩ | ⟨e, he⟩
    · refine .inr (.inl ⟨c, url, exec_chain_eq he, fun c' => ?_⟩)
      unfold gives run
      rw [exec_chain_eq he]
      by_cases hc : c' = c
      · subst hc
        simp [hn, hd]
      · simp [hn, hc, Ne.symm hc]
    · exact .inr (.inr ⟨e, exec_chain_eq he⟩)
  | _ => cases hop

/-- Any other call leaves the URLs and the current chain as they are. -/
theorem holds_after (hop : op.configures = false) {rpcUrls : ChainId → Option Url}
    {current : Option ChainId} (hw : w.Holds files rpcUrls current) :
    (op.after files w).Holds files rpcUrls current := by
  have hdrop : ∀ {α : Type} {x : SDK α}, Preserves (World.Holds files rpcUrls current) x →
      Preserves (World.Holds files rpcUrls current) (do let _ ← x : SDK Unit) :=
    fun hx => .bind hx fun _ => .pure _
  cases op with
  | getRpc chain =>
    exact hdrop (holds_chain (.of_unchanged fun s => ChainConfig.getRpc_eq s chain)) w hw
  | loadAbi abiName => exact hdrop (holds_chain (holds_loadAbi abiName)) w hw
  | getWeb3Instance chainId connected =>
    exact hdrop (holds_chain (holds_getWeb3Instance chainId connected)) w hw
  | loadContract abiName address connected contract =>
    exact hdrop (holds_loadContract ⟨connected, files, contract⟩ rfl abiName address) w hw
  | _ => cases hop

theorem gives_eq_none (hop : op.configures = false) (c : ChainId) : op.gives files c w = none := by
  cases op with
  | setChain _ => cases hop
  | setRpc _ _ _ => cases hop
  | resetRpc _ => cases hop
  | _ => rfl

/-- What a call keeps, and what it does to the URLs. -/
theorem after_consistent (op : ConfigOp) (hw : w.chain.Consistent files) :
    (op.after files w).chain.Consistent files ∧
      ∀ c, (op.after files w).chain.rpcUrls c = (op.gives files c w).or (w.chain.rpcUrls c) := by
  cases hop : op.configures with
  | false =>
    obtain ⟨hrpc, -, hcons⟩ := holds_after hop (show w.Holds files _ _ from ⟨rfl, rfl, hw⟩)
    refine ⟨hcons, fun c => ?_⟩
    rw [gives_eq_none hop, hrpc]
    rfl
  | true =>
    rcases configures_cases files w hop with
      ⟨c, hc, he, hgives⟩ | ⟨c, url, he, hgives⟩ | ⟨e, he⟩
    · rw [after_eq he]
      refine ⟨hw.select hc, fun c' => ?_⟩
      rw [hgives]
      rfl
    · rw [after_eq he]
      refine ⟨hw.withRpc c url, fun c' => ?_⟩
      rw [hgives]
      by_cases hcc : c' = c
      · subst hcc
        simp [ChainState.withRpc]
      · simp [ChainState.withRpc, hcc]
    · have hgives : ∀ c, op.gives files c w = none := by
        intro c
        unfold gives
        rw [he]
        cases op <;> rfl
      rw [after_eq he]
      refine ⟨hw, fun c => ?_⟩
      rw [hgives]
      rfl

theorem configured_snoc (c : ChainId) {w₀ : World} {url : Option Url} {ops : List ConfigOp}
    (hr : (machine files).run w₀ ops = some w) :
    configured files c w₀ url (ops ++ [op]) =
      (op.gives files c w).or (configured files c w₀ url ops) := by
  induction ops generalizing w₀ url with
  | nil =>
    cases hr
    rfl
  | cons a ops ih => exact ih hr

/-- A chain that had a URL has one. -/
theorem configured_isSome (files : String → String → Option Json) (c : ChainId) {w₀ : World}
    {url : Option Url} (h : url.isSome = true) (ops : List ConfigOp) :
    (configured files c w₀ url ops).isSome = true := by
  induction ops generalizing w₀ url with
  | nil => exact h
  | cons op ops ih => exact ih (by simp [Option.isSome_or, h])

/-- After every run the configuration is consistent, and the URL of a chain is the one the run has
left it with. -/
theorem run_consistent {clock : Clock} {ops : List ConfigOp}
    (hr : (machine files).run (.imported clock) ops = some w) :
    w.chain.Consistent files ∧ ∀ c, w.chain.rpcUrls c =
      configured files c (.imported clock) (ChainConfig.DEFAULT_RPC_URLS c) ops := by
  refine Machine.run_inv (P := fun _ => True) (I := fun ops w => w.chain.Consistent files ∧
    ∀ c, w.chain.rpcUrls c =
      configured files c (.imported clock) (ChainConfig.DEFAULT_RPC_URLS c) ops)
    ⟨.imported, fun _ => rfl⟩ ?_ (fun _ _ => trivial) hr
  rintro ops w op w' - hr hstep ⟨hw, hurls⟩
  cases hstep
  obtain ⟨hcons, hrpc⟩ := after_consistent op hw
  refine ⟨hcons, fun c => ?_⟩
  rw [hrpc, configured_snoc c hr, hurls]

end ConfigOp

/-! ## Coherence -/

/-- The contract combines the instance, the ABI and the address of one chain, the current one of
`w` and of `w'`. -/
def Contract.OfCurrentChain (files : String → String → Option Json) (abiName : String)
    (contract : Contract) (w w' : World) : Prop :=
  ∃ c, w.chain.currentChain = some c ∧ w'.chain.currentChain = some c ∧
    w.chain.rpcUrls c = some contract.web3 ∧ w'.chain.web3Instances c = some contract.web3 ∧
    (∃ directory, ChainConfig.CHAIN_DIRECTORIES c = some directory ∧
      files directory abiName = some contract.abi) ∧
    ∃ key contracts, SINGLETON_ABI_TO_KEY.lookup abiName = some key ∧
      ChainConfig.CHAIN_CONTRACTS c = some contracts ∧ contracts.lookup key = some contract.address

/-- What a run from `w₀` leaves behind in `w`. -/
structure Coherent (files : String → String → Option Json) (w₀ : World) (ops : List ConfigOp)
    (w : World) : Prop where
  built : ∀ c url, w.chain.web3Instances c = some url → w.chain.rpcUrls c = some url
  getRpc : ∀ chain c, w.chain.named chain = some c → c.supported = true → ∃ url,
    ConfigOp.configured files c w₀ (ChainConfig.DEFAULT_RPC_URLS c) ops = some url ∧
      (ChainConfig.getRpc chain).exec w.chain = (.ok url, w.chain)
  loadContract : ∀ (net : ContractNet) abiName contract w', net.files = files →
    (loadContract net abiName none).exec w = (.ok contract, w') →
      contract.OfCurrentChain files abiName w w'
  refused : ∀ (op : ConfigOp) e w', op.configures = true →
    (op.run files).exec w = (.error e, w') →
      w'.chain.currentChain = w.chain.currentChain ∧ w'.chain.rpcUrls = w.chain.rpcUrls ∧
        w'.chain.web3Instances = w.chain.web3Instances

section

variable {files : String → String → Option Json} {w w' : World}

theorem exec_chain_eq_ok {α : Type} {x : ChainProg α} {a : α}
    (h : (SDK.chain x).exec w = (.ok a, w')) : x.exec w.chain = (.ok a, w'.chain) := by
  unfold SDK.chain at h
  rw [exec_zoom, Prod.mk.injEq] at h
  obtain ⟨ha, rfl⟩ := h
  exact Prod.ext ha rfl

/-- The instance `_get_web3()` returns is the current chain's, and built with its URL. -/
theorem getWeb3_ok (hw : w.chain.Consistent files) {connected : Reply Bool} {web3 : Url}
    (h : (getWeb3 connected).exec w = (.ok web3, w')) :
    ∃ c, w.chain.currentChain = some c ∧ w.chain.rpcUrls c = some web3 ∧
      w'.chain.currentChain = some c ∧ w'.chain.web3Instances c = some web3 ∧
      w'.chain.Consistent files := by
  rw [exec_getWeb3, Prod.mk.injEq] at h
  obtain ⟨hok, rfl⟩ := h
  rcases Web3Manager.getWeb3Instance_cases w.chain none connected.answer with
    ⟨c, url, hn, hi, he⟩ | ⟨c, url, hn, hu, he⟩ | ⟨e, he⟩
  · rw [he, Except.ok.injEq] at hok
    subst hok
    rw [he]
    exact ⟨c, hn, hw.built c url hi, hn, hi, hw⟩
  · rw [he, Except.ok.injEq] at hok
    subst hok
    rw [he]
    exact ⟨c, hn, hu, hn, Function.update_self _ _ _, hw.connect hu⟩
  · rw [he] at hok
    cases hok

/-- The ABI `load_abi` returns is the file of the current chain. -/
theorem loadAbi_ok {s s' : ChainState} (hs : s.Consistent files) {abiName : String} {abi : Json}
    (h : (ChainConfig.loadAbi files abiName).exec s = (.ok abi, s')) :
    ∃ c directory, s.currentChain = some c ∧ ChainConfig.CHAIN_DIRECTORIES c = some directory ∧
      files directory abiName = some abi ∧ s'.currentChain = s.currentChain ∧
      s'.web3Instances = s.web3Instances := by
  rcases ChainConfig.loadAbi_cases s files abiName with
    ⟨c, abi', hc, hl, he⟩ | ⟨c, directory, abi', hc, hd, hf, he⟩ | ⟨e, he⟩
  · rw [he] at h
    cases h
    obtain ⟨directory, hd, hf⟩ := hs.loaded c abiName abi hl
    exact ⟨c, directory, hc, hd, hf, rfl, rfl⟩
  · rw [he] at h
    cases h
    exact ⟨c, directory, hc, hd, hf, rfl, rfl⟩
  · rw [he] at h
    cases h

/-- The address of a singleton is the current chain's. -/
theorem contractAddress_ok {abiName : String} {address : Address}
    (h : (contractAddress abiName none).exec w = (.ok address, w')) :
    ∃ c key contracts, w.chain.currentChain = some c ∧
      SINGLETON_ABI_TO_KEY.lookup abiName = some key ∧
      ChainConfig.CHAIN_CONTRACTS c = some contracts ∧ contracts.lookup key = some address ∧
      w'.chain = w.chain := by
  unfold contractAddress at h
  cases hk : SINGLETON_ABI_TO_KEY.lookup abiName with
  | none =>
    rw [hk] at h
    cases h
  | some key =>
    rw [hk] at h
    have hexec := exec_chain_eq_ok h
    rcases ChainConfig.getContractAddress_cases w.chain key with
      ⟨c, contracts, address', hc, hcs, ha, he⟩ | ⟨e, he⟩
    · rw [he, Prod.mk.injEq, Except.ok.injEq] at hexec
      obtain ⟨rfl, hchain⟩ := hexec
      exact ⟨c, key, contracts, hc, rfl, hcs, ha, hchain.symm⟩
    · rw [he] at hexec
      cases hexec

theorem loadContract_ofCurrentChain (hw : w.chain.Consistent files) {net : ContractNet}
    {abiName : String} {contract : Contract} (hnet : net.files = files)
    (h : (loadContract net abiName none).exec w = (.ok contract, w')) :
    contract.OfCurrentChain files abiName w w' := by
  unfold loadContract at h
  rw [hnet] at h
  obtain ⟨web3, w₁, hweb3, h⟩ := exec_bind_eq_ok h
  obtain ⟨abi, w₂, habi, h⟩ := exec_bind_eq_ok h
  obtain ⟨address, w₃, haddress, h⟩ := exec_bind_eq_ok h
  obtain ⟨_, w₄, hlift, h⟩ := exec_bind_eq_ok h
  cases h
  have hw₄ : w' = w₃ := by
    cases hc : net.contract with
    | ok _ => rw [hc] at hlift; cases hlift; rfl
    | error _ => rw [hc] at hlift; cases hlift
  subst hw₄
  -- The three parts are read from one current chain, which none of them changes.
  obtain ⟨c, hc, hurl, hc₁, hinstance, hw₁⟩ := getWeb3_ok hw hweb3
  obtain ⟨c', directory, hc', hd, hf, hcur, hinst⟩ := loadAbi_ok hw₁ (exec_chain_eq_ok habi)
  obtain ⟨c'', key, contracts, hc'', hkey, hcs, hlookup, hchain⟩ := contractAddress_ok haddress
  obtain rfl : c = c' := Option.some.inj (hc₁.symm.trans hc')
  obtain rfl : c = c'' := Option.some.inj (hc₁.symm.trans (hcur.symm.trans hc''))
  refine ⟨c, hc, ?_, hurl, ?_, ⟨directory, hd, hf⟩, key, contracts, hkey, hcs, hlookup⟩
  · rw [hchain]
    exact hc''
  · rw [hchain, hinst]
    exact hinstance

/-- After every run of calls from the import state, whatever each of them returns or raises, the
chain configuration is coherent. -/
theorem coherent {clock : Clock} {ops : List ConfigOp}
    (hr : (ConfigOp.machine files).run (.imported clock) ops = some w) :
    Coherent files (.imported clock) ops w where
  built := (ConfigOp.run_consistent hr).1.built
  getRpc := by
    intro chain c hn hc
    have hdefault : (ChainConfig.DEFAULT_RPC_URLS c).isSome = true := by
      cases c with
      | other _ => cases hc
      | _ => rfl
    obtain ⟨url, hurl⟩ := Option.isSome_iff_exists.mp
      (ConfigOp.configured_isSome files c hdefault ops)
    refine ⟨url, hurl, ChainConfig.exec_getRpc w.chain hn hc ?_⟩
    rw [(ConfigOp.run_consistent hr).2 c, hurl]
  loadContract := fun _ _ _ _ hnet h =>
    loadContract_ofCurrentChain (ConfigOp.run_consistent hr).1 hnet h
  refused := by
    intro op e w' hop he
    rcases ConfigOp.configures_cases files w hop with
      ⟨_, _, hexec, _⟩ | ⟨_, _, hexec, _⟩ | ⟨_, hexec⟩
    · rw [hexec] at he
      cases he
    · rw [hexec] at he
      cases he
    · rw [hexec] at he
      cases he
      exact ⟨rfl, rfl, rfl⟩

/-- A fork of the testnet is selected and used, a second endpoint is refused, and the testnet's own
is restored under the instance. -/
theorem coherent_fork :
    Coherent (fun _ _ => some .null) (.imported ⟨0, 0⟩)
      [.setChain .OGPU_TESTNET, .setRpc "http://127.0.0.1:8545" none (.ok true),
        .loadContract "NexusAbi" none ⟨⟨0, 0⟩, .ok true⟩ (.ok ()),
        .setRpc "http://127.0.0.1:9545" none (.ok false), .setChain (.other "1"),
        .resetRpc (some .OGPU_TESTNET)]
      ([.setChain .OGPU_TESTNET, .setRpc "http://127.0.0.1:8545" none (.ok true),
        .loadContract "NexusAbi" none ⟨⟨0, 0⟩, .ok true⟩ (.ok ()),
        .setRpc "http://127.0.0.1:9545" none (.ok false), .setChain (.other "1"),
        .resetRpc (some .OGPU_TESTNET)].foldl
          (fun w op => ConfigOp.after (fun _ _ => some .null) w op) (.imported ⟨0, 0⟩)) :=
  coherent rfl

end

end OgpuSdk
