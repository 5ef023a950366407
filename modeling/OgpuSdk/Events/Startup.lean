import OgpuSdk.Protocol.Coherence

/-!
# Watchers starting up while the configuration changes

A watcher takes its Web3 instance by the URL of the current chain and, once it
has the instance, the NEXUS address and ABI of the current chain. Between the
two it waits for `is_connected()` if the URL has no instance yet, and other
coroutines run: watchers that start up, and calls that configure the chains.
Which chains a watcher's URL is an endpoint of, where it reads the URL and where it
takes the contract, is kept as a record, which the code does not have.
-/

namespace OgpuSdk

open Prog

/-- Load the Nexus contract for async event filtering. -/
def getNexusContract (files : String → String → Option Json) (w3 : Url) : ChainProg Contract := do
  let address ← ChainConfig.getContractAddress "NEXUS"
  let abi ← ChainConfig.loadAbi files "NexusAbi"
  pure ⟨w3, abi, address⟩

/-- How far a watcher's start-up has come. -/
inductive Startup where
  | idle
  /-- waits for `is_connected()` of a new instance at `url` -/
  | connecting (url : Url)
  | failed (error : Raised)
  /-- polls a filter of this contract -/
  | watching (contract : Contract)

/-- The process: the watchers by their number, and what they and other code share. -/
structure Process where
  world : World
  /-- `_async_web3._instances` -/
  instances : Url → Bool
  startups : Nat → Startup
  /-- the chains whose URL a watcher's was when it read it, or is when it takes its contract -/
  endpoints : Nat → ChainId → Bool

inductive ProcessAct where
  /-- other code configures a chain, or loads something -/
  | config (op : ConfigOp)
  /-- a watcher starts up and runs until it waits -/
  | start (id : Nat)
  /-- `is_connected()` answers a watcher that waits -/
  | answer (id : Nat) (connected : Except Exc Bool)

namespace Process

def goto (s : Process) (id : Nat) (startup : Startup) : Process :=
  { s with startups := Function.update s.startups id startup }

/-- The chains whose URL is now `url` go on the watcher's record. -/
def record (s : Process) (id : Nat) (url : Url) : Process :=
  let chains := fun c => s.endpoints id c || s.world.chain.rpcUrls c == some url
  { s with endpoints := Function.update s.endpoints id chains }

/-- The second half of a start-up: `get_nexus_contract`, and the filter. -/
def finish (files : String → String → Option Json) (s : Process) (id : Nat) (url : Url) : Process :=
  let (r, chain) := (getNexusContract files url).exec s.world.chain
  { s.record id url with world := { s.world with chain } }.goto id
    (match r with
      | .ok contract => .watching contract
      | .error e => .failed e)

/-- The first half: `get_async_web3`, up to where it waits for a new instance. -/
def begin (files : String → String → Option Json) (s : Process) (id : Nat) : Process :=
  match ((ChainConfig.getRpc none).exec s.world.chain).1 with
  | .error e => s.goto id (.failed e)
  | .ok url =>
    if s.instances url then s.finish files id url
    else (s.record id url).goto id (.connecting url)

/-- What `get_async_web3` does with the answer it waited for. -/
def connected (files : String → String → Option Json) (s : Process) (id : Nat) (url : Url) :
    Except Exc Bool → Process
  | .error exc => s.goto id (.failed exc.raised)
  | .ok false =>
    s.goto id (.failed (raised "ConnectionError" s!"Async Web3 cannot connect to {url}"))
  | .ok true => { s with instances := Function.update s.instances url true }.finish files id url

def step (files : String → String → Option Json) (s : Process) : ProcessAct → Option Process
  | .config op => some { s with world := op.after files s.world }
  | .start id =>
    match s.startups id with
    | .idle => some (s.begin files id)
    | _ => none
  | .answer id answer =>
    match s.startups id with
    | .connecting url => some (s.connected files id url answer)
    | _ => none

@[simp] theorem goto_startups (s : Process) (id : Nat) (startup : Startup) :
    (s.goto id startup).startups = Function.update s.startups id startup := rfl

def imported (clock : Clock) : Process where
  world := .imported clock
  instances := fun _ => false
  startups := fun _ => .idle
  endpoints := fun _ _ => false

def machine (files : String → String → Option Json) : Machine Process ProcessAct where
  init s := ∃ clock, s = .imported clock
  step := step files

end Process

/-! ## One chain each -/

/-- The address and the ABI are those of the NEXUS contract of `c`. -/
structure Contract.IsNexus (files : String → String → Option Json) (c : ChainId)
    (contract : Contract) : Prop where
  address : ∃ contracts, ChainConfig.CHAIN_CONTRACTS c = some contracts ∧
    contracts.lookup "NEXUS" = some contract.address
  abi : ∃ directory, ChainConfig.CHAIN_DIRECTORIES c = some directory ∧
    files directory "NexusAbi" = some contract.abi

/-- Each watcher polls the NEXUS contract of some chain whose URL its endpoint was when it read it,
or was when it took the contract. -/
def Process.Unmixed (files : String → String → Option Json) (s : Process) : Prop :=
  ∀ id contract, s.startups id = .watching contract →
    ∃ c, s.endpoints id c = true ∧ contract.IsNexus files c

/-- A watcher that waited for a new instance finds a current chain, with a NEXUS ABI, only if that
chain's URL is the one it connects to, or was when it read it. -/
def Process.Settled (files : String → String → Option Json) (s : Process) (a : ProcessAct) : Prop :=
  ∀ id url c directory, a = .answer id (.ok true) → s.startups id = .connecting url →
    s.world.chain.currentChain = some c → ChainConfig.CHAIN_DIRECTORIES c = some directory →
    (files directory "NexusAbi").isSome = true →
    s.endpoints id c = true ∨ s.world.chain.rpcUrls c = some url

section

variable {files : String → String → Option Json} {s s' : Process}

/-- The NEXUS contracts of two chains are at two addresses. -/
theorem Contract.IsNexus.unique {c c' : ChainId} {contract contract' : Contract}
    (h : contract.IsNexus files c) (h' : contract'.IsNexus files c')
    (haddress : contract.address = contract'.address) : c = c' := by
  obtain ⟨contracts, hc, hlookup⟩ := h.address
  obtain ⟨contracts', hc', hlookup'⟩ := h'.address
  rw [haddress] at hlookup
  cases c with
  | other _ => cases hc
  | OGPU_MAINNET =>
    cases c' with
    | other _ => cases hc'
    | OGPU_MAINNET => rfl
    | OGPU_TESTNET =>
      cases hc
      cases hc'
      exact absurd (hlookup.trans hlookup'.symm) (by decide)
  | OGPU_TESTNET =>
    cases c' with
    | other _ => cases hc'
    | OGPU_MAINNET =>
      cases hc
      cases hc'
      exact absurd (hlookup.trans hlookup'.symm) (by decide)
    | OGPU_TESTNET => rfl

/-- A chain with ABI files has a NEXUS contract. -/
theorem ChainConfig.nexus_of_directory {c : ChainId} {directory : String}
    (h : CHAIN_DIRECTORIES c = some directory) :
    ∃ contracts address, CHAIN_CONTRACTS c = some contracts ∧
      contracts.lookup "NEXUS" = some address := by
  cases c with
  | OGPU_MAINNET => exact ⟨_, _, rfl, rfl⟩
  | OGPU_TESTNET => exact ⟨_, _, rfl, rfl⟩
  | other _ => cases h

/-- An ABI that has a file is loaded, now or before. -/
theorem ChainConfig.loadAbi_of_file {chain : ChainState} (hs : chain.Consistent files) {c : ChainId}
    {directory abiName : String} {abi : Json} (hc : chain.currentChain = some c)
    (hd : CHAIN_DIRECTORIES c = some directory) (hf : files directory abiName = some abi) :
    ∃ chain', (loadAbi files abiName).exec chain = (.ok abi, chain') ∧
      chain'.Consistent files := by
  unfold loadAbi
  rw [exec_bind, exec_getCurrentChain, hc]
  dsimp only
  rw [exec_bind_ok (exec_get chain)]
  cases hl : chain.loadedAbis c abiName with
  | some abi' =>
    obtain ⟨directory', hd', hf'⟩ := hs.loaded c abiName abi' hl
    obtain rfl : directory = directory' := Option.some.inj (hd.symm.trans hd')
    obtain rfl : abi = abi' := Option.some.inj (hf.symm.trans hf')
    exact ⟨chain, rfl, hs⟩
  | none =>
    dsimp only
    rw [hd]
    dsimp only
    rw [hf]
    exact ⟨chain.withAbi c abiName abi, rfl, hs.load hd hf⟩

/-- `get_nexus_contract` gives the NEXUS contract of the current chain, or raises for want of its
ABI file. -/
theorem getNexusContract_cases {chain : ChainState} (hs : chain.Consistent files) (w3 : Url) :
    (∃ c contract chain', chain.currentChain = some c ∧ contract.IsNexus files c ∧
        chain'.Consistent files ∧
        (getNexusContract files w3).exec chain = (.ok contract, chain')) ∨
      ∃ e, (getNexusContract files w3).exec chain = (.error e, chain) ∧
        ∀ c directory, chain.currentChain = some c →
          ChainConfig.CHAIN_DIRECTORIES c = some directory →
          files directory "NexusAbi" = none := by
  unfold getNexusContract
  by_cases hfile : ∃ c directory abi, chain.currentChain = some c ∧
      ChainConfig.CHAIN_DIRECTORIES c = some directory ∧ files directory "NexusAbi" = some abi
  · left
    obtain ⟨c, directory, abi, hc, hd, hf⟩ := hfile
    obtain ⟨contracts, address, hcs, ha⟩ := ChainConfig.nexus_of_directory hd
    obtain ⟨chain', hload, hs'⟩ := ChainConfig.loadAbi_of_file hs hc hd hf
    have haddress : (ChainConfig.getContractAddress "NEXUS").exec chain = (.ok address, chain) := by
      unfold ChainConfig.getContractAddress
      rw [exec_bind, ChainConfig.exec_getCurrentChain, hc]
      dsimp only
      rw [hcs]
      dsimp only
      rw [ha]
      rfl
    refine ⟨c, ⟨w3, abi, address⟩, chain', hc, ⟨⟨contracts, hcs, ha⟩, directory, hd, hf⟩, hs', ?_⟩
    rw [exec_bind_ok haddress, exec_bind_ok hload]
    rfl
  · right
    have hnone : ∀ c directory, chain.currentChain = some c →
        ChainConfig.CHAIN_DIRECTORIES c = some directory → files directory "NexusAbi" = none := by
      intro c directory hc hd
      rw [Option.eq_none_iff_forall_ne_some]
      intro abi hf
      exact hfile ⟨c, directory, abi, hc, hd, hf⟩
    rcases ChainConfig.getContractAddress_cases chain "NEXUS" with
      ⟨_, _, address, _, _, _, he⟩ | ⟨e, he⟩
    · rw [exec_bind_ok he]
      rcases ChainConfig.loadAbi_cases chain files "NexusAbi" with
        ⟨c, abi, hc, hl, -⟩ | ⟨c, directory, abi, hc, hd, hf, -⟩ | ⟨e, he⟩
      · obtain ⟨directory, hd, hf⟩ := hs.loaded c "NexusAbi" abi hl
        exact absurd ⟨c, directory, abi, hc, hd, hf⟩ hfile
      · exact absurd ⟨c, directory, abi, hc, hd, hf⟩ hfile
      · exact ⟨e, exec_bind_error he, hnone⟩
    · exact ⟨e, exec_bind_error he, hnone⟩

/-- `get_rpc` without a chain gives the URL of the current one. -/
theorem ChainConfig.getRpc_ok {chain : ChainState} {url : Url}
    (h : ((getRpc none).exec chain).1 = .ok url) :
    ∃ c, chain.currentChain = some c ∧ chain.rpcUrls c = some url := by
  unfold getRpc at h
  rw [exec_bind, exec_target] at h
  cases hc : chain.named none with
  | none =>
    rw [hc] at h
    cases h
  | some c =>
    rw [hc] at h
    refine ⟨c, hc, ?_⟩
    by_cases hsupported : c.supported = true
    · cases hurl : chain.rpcUrls c with
      | none => simp [hsupported, hurl, exec_bind] at h
      | some url' =>
        simp [hsupported, hurl, exec_bind] at h
        rw [h]
    · simp [hsupported, exec_bind] at h

namespace Process

/-- What every step keeps. -/
def Inv (files : String → String → Option Json) (s : Process) : Prop :=
  s.world.chain.Consistent files

theorem endpoints_record (id : Nat) (url : Url) (c : ChainId) :
    (s.record id url).endpoints id c = true ↔
      s.endpoints id c = true ∨ s.world.chain.rpcUrls c = some url := by
  simp [record]

theorem Unmixed.goto (h : s.Unmixed files) {id : Nat} {startup : Startup}
    (hne : ∀ contract, startup ≠ .watching contract) : (s.goto id startup).Unmixed files := by
  intro id' contract hwatching
  rw [goto_startups] at hwatching
  by_cases hid : id' = id
  · subst hid
    rw [Function.update_self] at hwatching
    exact absurd hwatching (hne contract)
  · rw [Function.update_of_ne hid] at hwatching
    exact h id' contract hwatching

/-- A record only grows. -/
theorem Unmixed.record (h : s.Unmixed files) (id : Nat) (url : Url) :
    (s.record id url).Unmixed files := by
  intro id' contract hwatching
  obtain ⟨c, hendpoint, hnexus⟩ := h id' contract hwatching
  refine ⟨c, ?_, hnexus⟩
  by_cases hid : id' = id
  · subst hid
    exact (endpoints_record id' url c).mpr (.inl hendpoint)
  · simpa [Process.record, hid] using hendpoint

/-- The current chain has a NEXUS contract only if its URL is `url`, or was when the watcher read
it. -/
def Reached (files : String → String → Option Json) (s : Process) (id : Nat) (url : Url) : Prop :=
  ∀ c directory, s.world.chain.currentChain = some c →
    ChainConfig.CHAIN_DIRECTORIES c = some directory →
    (files directory "NexusAbi").isSome = true →
    s.endpoints id c = true ∨ s.world.chain.rpcUrls c = some url

theorem Inv.finish (hs : s.Inv files) (id : Nat) (url : Url) :
    (s.finish files id url).Inv files := by
  unfold Process.finish
  rcases getNexusContract_cases hs url with ⟨c, contract, chain', -, -, hs', he⟩ | ⟨e, he, -⟩
  · rw [he]
    exact hs'
  · rw [he]
    exact hs

/-- A watcher that comes to its contract with `url` is unmixed exactly if the current chain is one
that `url` reaches. -/
theorem Unmixed.finish_iff (hs : s.Inv files) (h : s.Unmixed files) (id : Nat) (url : Url) :
    (s.finish files id url).Unmixed files ↔ s.Reached files id url := by
  unfold Process.finish
  rcases getNexusContract_cases hs url with
    ⟨c, contract, chain', hc, hnexus, -, he⟩ | ⟨e, he, hnone⟩
  · rw [he]
    constructor
    · intro h' c' directory hc' _ _
      obtain rfl : c = c' := Option.some.inj (hc.symm.trans hc')
      obtain ⟨c', hendpoint, hnexus'⟩ := h' id contract (Function.update_self ..)
      rw [hnexus.unique hnexus' rfl]
      exact (endpoints_record id url c').mp hendpoint
    · intro hreached id' contract' hwatching
      by_cases hid : id' = id
      · subst hid
        obtain rfl : contract = contract' := by
          simpa [Process.goto] using hwatching
        obtain ⟨directory, hd, hf⟩ := hnexus.abi
        refine ⟨c, (endpoints_record id' url c).mpr ?_, hnexus⟩
        exact hreached c directory hc hd (Option.isSome_iff_exists.mpr ⟨_, hf⟩)
      · refine h.record id url id' contract' ?_
        simpa [Process.goto, hid] using hwatching
  · rw [he]
    constructor
    · intro _ c directory hc hd hsome
      rw [hnone c directory hc hd] at hsome
      cases hsome
    · intro _
      exact (h.record id url).goto fun contract => Startup.noConfusion

theorem Inv.step {a : ProcessAct} (h : step files s a = some s') (hs : s.Inv files) :
    s'.Inv files := by
  cases a with
  | config op =>
    cases h
    exact (ConfigOp.after_consistent op hs).1
  | start id =>
    simp only [Process.step] at h
    split at h <;> cases h
    unfold begin
    split
    · exact hs
    · split
      · exact hs.finish id _
      · exact hs
  | answer id connected =>
    simp only [Process.step] at h
    split at h <;> cases h
    next url _ =>
    rcases connected with exc | _ | _
    · exact hs
    · exact hs
    · exact Inv.finish (s := { s with instances := Function.update s.instances url true }) hs id url

/-- A step keeps every watcher on one chain exactly if it takes no watcher, on its way from the
instance to the contract, to another chain. -/
theorem Unmixed.step_iff {a : ProcessAct} (h : step files s a = some s') (hs : s.Inv files)
    (hu : s.Unmixed files) : s'.Unmixed files ↔ s.Settled files a := by
  cases a with
  | config op =>
    cases h
    refine iff_of_true hu ?_
    rintro id url c directory ⟨⟩
  | start id =>
    simp only [Process.step] at h
    split at h <;> cases h
    refine iff_of_true ?_ ?_
    · unfold begin
      split
      · exact hu.goto fun contract => Startup.noConfusion
      next url hurl =>
      split
      · -- A cached instance is the current chain's: nothing runs before the contract is taken.
        obtain ⟨c, hc, hrpc⟩ := ChainConfig.getRpc_ok hurl
        refine (hu.finish_iff hs id url).mpr ?_
        intro c' directory hc' _ _
        obtain rfl : c = c' := Option.some.inj (hc.symm.trans hc')
        exact .inr hrpc
      · exact (hu.record id url).goto fun contract => Startup.noConfusion
    · rintro id url c directory ⟨⟩
  | answer id connected =>
    simp only [Process.step] at h
    split at h <;> cases h
    next url hstartup =>
    rcases connected with exc | _ | _
    · exact iff_of_true (hu.goto fun contract => Startup.noConfusion)
        (by rintro id url c directory ⟨⟩)
    · exact iff_of_true (hu.goto fun contract => Startup.noConfusion)
        (by rintro id url c directory ⟨⟩)
    · have hfinish := Unmixed.finish_iff
        (s := { s with instances := Function.update s.instances url true }) hs hu id url
      refine hfinish.trans ⟨?_, ?_⟩
      · rintro hreached id' url' c directory ⟨⟩ hurl' hc hd hsome
        obtain rfl : url = url' := Startup.connecting.inj (hstartup.symm.trans hurl')
        exact hreached c directory hc hd hsome
      · intro hsettled c directory hc hd hsome
        exact hsettled id url c directory rfl hstartup hc hd hsome

end Process

end

/-- In every run, from the import of the modules on, every watcher polls the NEXUS contract of one
chain through the endpoint of that chain, at every moment, exactly if every start-up that waited
for its connection finds a chain selected whose URL it connected to. -/
theorem watchers_unmixed_iff (files : String → String → Option Json) (clock : Clock)
    (as : List ProcessAct) (s : Process)
    (hr : (Process.machine files).run (.imported clock) as = some s) :
    (Process.machine files).Always (Process.Unmixed files) (.imported clock) as ↔
      (Process.machine files).EachStep (Process.Settled files) (.imported clock) as := by
  refine Machine.always_iff_eachStep (J := Process.Inv files) ?_ .imported
    (fun _ _ _ hstep hs => Process.Inv.step hstep hs)
    (fun _ _ _ hstep hs hu => hu.step_iff hstep hs) hr
  rintro id contract ⟨⟩

/-- Both chains have the same NEXUS ABI. -/
def nexusFiles (_ abiName : String) : Option Json :=
  if abiName = "NexusAbi" then some (.arr []) else none

/-- A watcher connects and starts, the other chain is selected, and a second watcher does the
same there. -/
theorem watchers_unmixed_serial :
    (Process.machine nexusFiles).Always (Process.Unmixed nexusFiles) (.imported ⟨0, 0⟩)
      [.start 0, .answer 0 (.ok true), .config (.setChain .OGPU_TESTNET), .start 1,
        .answer 1 (.ok true)] := by
  refine (watchers_unmixed_iff nexusFiles ⟨0, 0⟩ _ _ rfl).mpr ?_
  refine Machine.eachStep_cons.mpr ⟨?_, ?_⟩
  · rintro _ _ _ _ ⟨⟩
  rintro _ ⟨⟩
  refine Machine.eachStep_cons.mpr ⟨?_, ?_⟩
  · rintro _ _ _ _ ⟨⟩ ⟨⟩ ⟨⟩ ⟨⟩ _
    exact .inr rfl
  rintro _ ⟨⟩
  refine Machine.eachStep_cons.mpr ⟨?_, ?_⟩
  · rintro _ _ _ _ ⟨⟩
  rintro _ ⟨⟩
  refine Machine.eachStep_cons.mpr ⟨?_, ?_⟩
  · rintro _ _ _ _ ⟨⟩
  rintro _ ⟨⟩
  refine Machine.eachStep_cons.mpr ⟨?_, ?_⟩
  · rintro _ _ _ _ ⟨⟩ ⟨⟩ ⟨⟩ ⟨⟩ _
    exact .inr rfl
  exact fun _ _ => Machine.eachStep_nil

/-- The other chain is selected while a watcher waits for its connection: it asks mainnet for the
events of the testnet address. -/
theorem not_watchers_unmixed :
    ∃ s, (Process.machine nexusFiles).run (.imported ⟨0, 0⟩)
        [.start 0, .config (.setChain .OGPU_TESTNET), .answer 0 (.ok true)] = some s ∧
      s.startups 0 = .watching ⟨"https://mainnet-rpc.ogpuscan.io", .arr [],
        0xF87bb2f3edB991a998992f14d35fE142e6Bb50b1#160⟩ ∧
      ¬ s.Unmixed nexusFiles := by
  refine ⟨_, rfl, rfl, ?_⟩
  intro h
  obtain ⟨c, hendpoint, hnexus⟩ := h 0 _ rfl
  obtain ⟨contracts, hcontracts, hlookup⟩ := hnexus.address
  cases c with
  | OGPU_MAINNET =>
    cases hcontracts
    exact absurd hlookup (by decide)
  | OGPU_TESTNET => exact absurd hendpoint (by decide)
  | other _ => cases hcontracts

end OgpuSdk
