import OgpuSdk.Lib.Prog
import OgpuSdk.Types.Errors

/-!
# Chain configuration and the Web3 cache

The process-wide state of `ChainConfig`, `CHAIN_RPC_URLS` and `Web3Manager`:
the current chain, one RPC URL per chain, one cached Web3 instance per chain
and the ABIs loaded so far. A Web3 instance is the URL its provider was built
with. What a probe (`is_connected()`) answers and what the ABI files hold are
arguments.
-/

namespace OgpuSdk

/-- Addresses of the singleton contracts of a chain, by contract name. -/
def ChainConfig.CHAIN_CONTRACTS : ChainId → Option (List (String × Address))
  | .OGPU_TESTNET => some [
      ("NEXUS", 0xF87bb2f3edB991a998992f14d35fE142e6Bb50b1#160),
      ("CONTROLLER", 0x9fb6022074Fd7Bdb429de0776eb693cA0CB55E09#160),
      ("TERMINAL", 0x1ea332Fc14a5AFD3AF3852B45C263Ab5b1Dd6f52#160),
      ("VAULT", 0x15905a2FbD3EF5d3532b931b5656BB9EB493Bb15#160)]
  | .OGPU_MAINNET => some [
      ("NEXUS", 0x2b0cC6058313801D5feb184a539e3a0C5A87a6a1#160),
      ("CONTROLLER", 0x8661F4B9c30e07A04d795A192478dfD905625a1D#160),
      ("TERMINAL", 0xaEBC7b712D38Fc4d841f0732c21B8774339869D3#160),
      ("VAULT", 0xa5c582254AA313528898311362bc698b041580cC#160)]
  | .other _ => none

def ChainConfig.CHAIN_DIRECTORIES : ChainId → Option String
  | .OGPU_TESTNET => some "testnet"
  | .OGPU_MAINNET => some "mainnet"
  | .other _ => none

def ChainConfig.DEFAULT_RPC_URLS : ChainId → Option Url
  | .OGPU_MAINNET => some "https://mainnet-rpc.ogpuscan.io"
  | .OGPU_TESTNET => some "https://testnetrpc.ogpuscan.io"
  | .other _ => none

/-- The chain supports contracts, so `set_chain` and `set_rpc` take it. -/
def ChainId.supported (c : ChainId) : Bool := (ChainConfig.CHAIN_CONTRACTS c).isSome

structure ChainState where
  /-- `ChainConfig._current_chain` -/
  currentChain : Option ChainId
  /-- `CHAIN_RPC_URLS` -/
  rpcUrls : ChainId → Option Url
  /-- `Web3Manager._web3_instances`, each by the URL it was built with -/
  web3Instances : ChainId → Option Url
  /-- `ChainConfig._loaded_abis` -/
  loadedAbis : ChainId → String → Option Json

/-- The state right after the modules are imported. -/
def ChainState.imported : ChainState where
  currentChain := some .OGPU_MAINNET
  rpcUrls := ChainConfig.DEFAULT_RPC_URLS
  web3Instances := fun _ => none
  loadedAbis := fun _ _ => none

/-- The current chain has a URL and no instance yet: `get_web3_instance` makes one and probes it. -/
def ChainState.probes (s : ChainState) : Bool :=
  match s.currentChain with
  | none => false
  | some c => (s.web3Instances c).isNone && (s.rpcUrls c).any (· ≠ "")

abbrev ChainProg := Prog ChainState Raised

open Prog

namespace Web3Manager

def getRpcUrlForChain (chainId : ChainId) : ChainProg Url := do
  match (← get).rpcUrls chainId with
  | none => raise (raised "ValueError" s!"RPC URL not configured for chain {chainId.str}")
  | some "" => raise (raised "ValueError" s!"RPC URL for chain {chainId.str} is not set")
  | some url => pure url

def updateRpcUrl (chainId : ChainId) (rpcUrl : Url) : ChainProg Unit :=
  modify fun s => { s with
    rpcUrls := Function.update s.rpcUrls chainId (some rpcUrl)
    web3Instances := Function.update s.web3Instances chainId none }

end Web3Manager

namespace ChainConfig

def setChain (chainId : ChainId) : ChainProg Unit := do
  if chainId.supported then
    modify fun s => { s with currentChain := some chainId }
  else
    raise (OGPUError.chainNotSupportedError (some chainId)).raised

def getCurrentChain : ChainProg ChainId := do
  match (← get).currentChain with
  | none => raise (OGPUError.chainNotSupportedError none).raised
  | some c => pure c

def getContractAddress (contractName : String) : ChainProg Address := do
  let current ← getCurrentChain
  match CHAIN_CONTRACTS current with
  | none => raise (OGPUError.chainNotSupportedError (some current)).raised
  | some contracts =>
    match contracts.lookup contractName with
    | none => raise (raised "ValueError"
        s!"Contract {contractName} not configured for chain {current.str}")
    | some address => pure address

/-- The chain an optional `chain` argument stands for. -/
def target (chain : Option ChainId) : ChainProg ChainId :=
  match chain with
  | some c => pure c
  | none => getCurrentChain

/-- `probe` is what `is_connected()` of a fresh instance at `url` answers. -/
def setRpc (url : Url) (chain : Option ChainId) (probe : Except Exc Bool) : ChainProg Unit := do
  let target ← target chain
  if !target.supported then
    raise (OGPUError.chainNotSupportedError (some target)).raised
  match probe with
  | .error exc =>
    if exc.isException then raise ((OGPUError.invalidRpcUrlError url).from exc)
    else raise exc.raised
  | .ok false => raise (OGPUError.invalidRpcUrlError url).raised
  | .ok true => Web3Manager.updateRpcUrl target url

def getRpc (chain : Option ChainId) : ChainProg Url := do
  let target ← target chain
  if !target.supported then
    raise (OGPUError.chainNotSupportedError (some target)).raised
  match (← get).rpcUrls target with
  | none => raise (raised "KeyError" target.str)
  | some url => pure url

def resetRpc (chain : Option ChainId) : ChainProg Unit := do
  let target ← target chain
  match DEFAULT_RPC_URLS target with
  | none => raise (OGPUError.chainNotSupportedError (some target)).raised
  | some url => Web3Manager.updateRpcUrl target url

/-- `files directory name` is the parsed `name.json` of an ABI directory, if there is one. -/
def loadAbi (files : String → String → Option Json) (abiName : String) : ChainProg Json := do
  let current ← getCurrentChain
  match (← get).loadedAbis current abiName with
  | some abi => pure abi
  | none =>
    match CHAIN_DIRECTORIES current with
    | none => raise (OGPUError.chainNotSupportedError (some current)).raised
    | some directory =>
      match files directory abiName with
      | none => raise (raised "FileNotFoundError"
          s!"ABI file not found: abis/{directory}/{abiName}.json")
      | some abi => do
        modify fun s => { s with
          loadedAbis := Function.update s.loadedAbis current
            (Function.update (s.loadedAbis current) abiName (some abi)) }
        pure abi

end ChainConfig

/-- `connected` is what `is_connected()` of a fresh instance answers. -/
def Web3Manager.getWeb3Instance (chainId : Option ChainId) (connected : Except Exc Bool) :
    ChainProg Url := do
  let chainId ← ChainConfig.target chainId
  match (← get).web3Instances chainId with
  | some web3 => pure web3
  | none => do
    let rpcUrl ← getRpcUrlForChain chainId
    match connected with
    | .error exc => raise exc.raised
    | .ok false => raise (raised "ConnectionError"
        s!"Failed to connect to {chainId.name} node at {rpcUrl}")
    | .ok true => do
      modify fun s => { s with web3Instances := Function.update s.web3Instances chainId (some rpcUrl) }
      pure rpcUrl

end OgpuSdk
