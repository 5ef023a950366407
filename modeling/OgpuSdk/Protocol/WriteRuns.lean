import OgpuSdk.Client.Runs
import OgpuSdk.Protocol.Coherence
import OgpuSdk.Protocol.Writes

/-!
# What a write operation broadcasts

`WriteOp.Describes` relates an operation to the transactions it may broadcast
from a world: who signs them, which contract they go to and what they call.
Every run of an operation, whatever the outside answers, broadcasts nothing
else (`run_sends`) and leaves the settings alone (`configured_run`).
-/

namespace OgpuSdk

open Prog

/-- The address of a singleton contract on the current chain. -/
def ChainState.singleton (s : ChainState) (abiName : String) : Option Address :=
  match s.currentChain, SINGLETON_ABI_TO_KEY.lookup abiName with
  | some c, some key => (ChainConfig.CHAIN_CONTRACTS c).bind (·.lookup key)
  | _, _ => none

/-- The account a signer argument stands for, with its fallback. -/
def Signs (keys : Keys) (signer : Option Signer) (role : Option Role) (account : Account) : Prop :=
  ∀ w, (resolveSigner keys signer role).exec w = (.ok account, w)

/-- The answer of a resolution does not depend on the world. -/
theorem signs_of_exec {keys : Keys} {signer : Option Signer} {role : Option Role}
    {account : Account} {w w' : World}
    (h : (resolveSigner keys signer role).exec w = (.ok account, w')) :
    Signs keys signer role account ∧ w' = w := by
  have hconst : ∀ w u, ((resolveSigner keys signer role).exec w).1 =
      ((resolveSigner keys signer role).exec u).1 := by
    intro w u
    unfold resolveSigner invalidSigner
    rcases signer with _ | text | account | typeName
    · cases role with
      | none => rfl
      | some role =>
        dsimp only
        split
        · rfl
        · split
          · rfl
          · split <;> rfl
    · dsimp only
      split
      · rfl
      · split <;> rfl
    · rfl
    · rfl
  have hsnd := exec_resolveSigner_snd keys signer role w
  rw [h] at hsnd
  refine ⟨fun u => Prod.ext ?_ (exec_resolveSigner_snd keys signer role u), hsnd⟩
  rw [hconst u w, h]

/-- Every transaction a call of `execute` broadcasts is the executor's, under some nonce. -/
theorem TxExecutor.execute_sends (self : TxExecutor) (net : Nat → AttemptNet)
    (connected : Reply Bool) (w : World) :
    ∀ x ∈ ((self.execute net connected).exec w).2.sends,
      x ∈ w.sends ∨ ∃ nonce, x.1 = self.tx nonce := by
  have hpath : World.Path (fun _ op => ∀ x, op.send? = some x →
      x ∈ w.sends ∨ ∃ nonce, x.1 = self.tx nonce) w ((self.execute net connected).exec w).2 := by
    apply execute_path
    · intro u op hq x hx
      cases op with
      | send => cases hq
      | _ => cases hx
    · intro u address nonce x hx
      cases hx
    · intro k s u tx _ hs _ x hx
      obtain ⟨pending, -, -, -, rfl⟩ := sending_eq_some.mp hs
      cases hx
      exact .inr ⟨_, rfl⟩
  exact hpath.sends_allowed fun x hx => .inl hx

/-! ## The configuration during a run -/

/-- A fact about the chain configuration of a world. -/
def OnChain (J : ChainState → Prop) (w : World) : Prop := J w.chain

namespace OnChain

variable {J : ChainState → Prop} {α : Type}

theorem elapse (e : Elapsed) : Preserves (OnChain J) (SDK.elapse e) := fun _ h => h

theorem record (op : Op) : Preserves (OnChain J) (SDK.record op) := fun _ h => h

theorem nonces (x : NonceProg α) : Preserves (OnChain J) (SDK.nonces x) := fun _ h => h

theorem monotonic : Preserves (OnChain J) SDK.monotonic := fun _ h => h

theorem second : Preserves (OnChain J) SDK.second := fun _ h => h

theorem lift (answer : Except Exc α) : Preserves (OnChain J) (SDK.lift answer) := by
  cases answer with
  | ok a => exact .pure a
  | error exc => exact .raise _

theorem await (reply : Reply α) : Preserves (OnChain J) (SDK.await reply) :=
  .bind (elapse _) fun _ => lift _

theorem sleep (took : ℚ → Elapsed) (seconds : ℚ) : Preserves (OnChain J) (SDK.sleep took seconds) :=
  .bind (record _) fun _ => elapse _

end OnChain

/-- What is configured by calls that are made to: the current chain, and the URL of each chain. -/
structure Settings where
  current : Option ChainId
  rpcUrls : ChainId → Option Url

def ChainState.settings (s : ChainState) : Settings := ⟨s.currentChain, s.rpcUrls⟩

def Configured (settings : Settings) : World → Prop := OnChain (·.settings = settings)

section

variable {settings : Settings}

theorem configured_getWeb3Instance (chain : Option ChainId) (connected : Except Exc Bool) :
    Preserves (Configured settings) (SDK.chain (Web3Manager.getWeb3Instance chain connected)) := by
  intro w hw
  change ((Web3Manager.getWeb3Instance chain connected).exec w.chain).2.settings = settings
  rcases Web3Manager.getWeb3Instance_cases w.chain chain connected with
    ⟨_, _, _, _, he⟩ | ⟨_, _, _, _, he⟩ | ⟨_, he⟩
  · rw [he]
    exact hw
  · rw [he]
    exact hw
  · rw [he]
    exact hw

theorem configured_getWeb3 (connected : Reply Bool) :
    Preserves (Configured settings) (getWeb3 connected) := by
  intro w hw
  rw [exec_getWeb3]
  exact configured_getWeb3Instance none connected.answer w hw

theorem configured_loadAbi (files : String → String → Option Json) (abiName : String) :
    Preserves (Configured settings) (SDK.chain (ChainConfig.loadAbi files abiName)) := by
  intro w hw
  change ((ChainConfig.loadAbi files abiName).exec w.chain).2.settings = settings
  rcases ChainConfig.loadAbi_cases w.chain files abiName with
    ⟨_, _, _, _, he⟩ | ⟨_, _, _, _, _, _, he⟩ | ⟨_, he⟩
  · rw [he]
    exact hw
  · rw [he]
    exact hw
  · rw [he]
    exact hw

/-- Loading a contract selects no chain and gives no chain a URL. -/
theorem configured_loadContract (net : ContractNet) (abiName : String)
    (address : Option Address) :
    Preserves (Configured settings) (loadContract net abiName address) := by
  have haddress : Preserves (Configured settings) (contractAddress abiName address) := by
    unfold contractAddress
    split
    · exact .pure _
    · intro w hw
      change ((ChainConfig.getContractAddress _).exec w.chain).2.settings = settings
      rcases ChainConfig.getContractAddress_cases w.chain _ with ⟨_, _, _, _, _, _, he⟩ | ⟨_, he⟩
      · rw [he]
        exact hw
      · rw [he]
        exact hw
    · exact .raise _
  exact .bind (configured_getWeb3 _) fun _ => .bind (configured_loadAbi _ _) fun _ =>
    .bind haddress fun _ => .bind (OnChain.lift _) fun _ => .pure _

/-- The address a contract is loaded at is the one given, or the current chain's. -/
theorem loadContract_singleton {net : ContractNet} {abiName : String} {address : Option Address}
    {contract : Contract} {w w' : World}
    (h : (loadContract net abiName address).exec w = (.ok contract, w')) :
    address.or (w.chain.singleton abiName) = some contract.address := by
  cases address with
  | some address =>
    rw [loadContract_address h]
    rfl
  | none =>
    unfold loadContract at h
    obtain ⟨web3, w₁, hweb3, h⟩ := exec_bind_eq_ok h
    obtain ⟨abi, w₂, habi, h⟩ := exec_bind_eq_ok h
    obtain ⟨address, w₃, haddress, h⟩ := exec_bind_eq_ok h
    obtain ⟨_, w₄, -, h⟩ := exec_bind_eq_ok h
    cases h
    have h₁ : w₁.chain.settings = w.chain.settings := by
      have := configured_getWeb3 net.connected w rfl
      rwa [hweb3] at this
    have h₂ : w₂.chain.settings = w₁.chain.settings := by
      have := configured_loadAbi net.files abiName w₁ rfl
      rwa [habi] at this
    obtain ⟨c, key, contracts, hc, hkey, hcs, hlookup, -⟩ := contractAddress_ok haddress
    have hcurrent : w₂.chain.currentChain = w.chain.currentChain :=
      congrArg Settings.current (h₂.trans h₁)
    rw [hcurrent] at hc
    simp [ChainState.singleton, hc, hkey, hcs, hlookup]

end

/-! ## Putting a call together -/

namespace Prep

variable {P : World → Op → Prop} (host : Host) (connected : Reply Bool)

theorem run_keeps (prep : Prep) : SDK.Keeps P (prep.run host connected) := by
  induction prep with
  | call prepared => exact .pure _
  | web3 rest ih => exact .bind (keeps_getWeb3 _) fun _ => ih
  | checksum text rest ih => exact .bind (.lift _) fun _ => ih _
  | checkAddress text error rest ih =>
    unfold run
    cases host.isAddress text with
    | true => exact ih
    | false => exact .of_unchanged fun _ => rfl

variable {host connected}

theorem run_ok {prep : Prep} {prepared : PreparedCall} {w w' : World}
    (h : (prep.run host connected).exec w = (.ok prepared, w')) :
    prep.result host = some prepared := by
  induction prep generalizing w with
  | call prepared' =>
    cases h
    rfl
  | web3 rest ih =>
    obtain ⟨_, w₁, -, h⟩ := exec_bind_eq_ok h
    exact ih h
  | checksum text rest ih =>
    obtain ⟨address, w₁, haddress, h⟩ := exec_bind_eq_ok h
    unfold result
    cases hc : host.toChecksumAddress text with
    | error exc =>
      rw [hc] at haddress
      cases haddress
    | ok address' =>
      rw [hc] at haddress
      cases haddress
      exact ih _ h
  | checkAddress text error rest ih =>
    unfold run at h
    unfold result
    cases ha : host.isAddress text with
    | true =>
      rw [ha] at h
      exact ih h
    | false =>
      rw [ha] at h
      cases h

/-- Whatever the addresses are, the call that comes out satisfies `Q`. -/
def Yields (host : Host) (Q : PreparedCall → Prop) : Prep → Prop
  | call prepared => Q prepared
  | web3 rest => rest.Yields host Q
  | checksum _ rest => ∀ address, (rest (host.text address)).Yields host Q
  | checkAddress _ _ rest => rest.Yields host Q

theorem Yields.of_result {Q : PreparedCall → Prop} {prep : Prep} {prepared : PreparedCall}
    (h : prep.Yields host Q) (hr : prep.result host = some prepared) : Q prepared := by
  induction prep with
  | call prepared' =>
    cases hr
    exact h
  | web3 rest ih => exact ih h hr
  | checksum text rest ih =>
    unfold result at hr
    split at hr
    · exact ih _ (h _) hr
    · cases hr
  | checkAddress text error rest ih =>
    unfold result at hr
    split at hr
    · exact ih h hr
    · cases hr

theorem configured_run {settings : Settings} (prep : Prep) :
    Preserves (Configured settings) (prep.run host connected) := by
  induction prep with
  | call prepared => exact .pure _
  | web3 rest ih => exact .bind (configured_getWeb3 _) fun _ => ih
  | checksum text rest ih => exact .bind (OnChain.lift _) fun _ => ih _
  | checkAddress text error rest ih =>
    unfold run
    cases host.isAddress text with
    | true => exact ih
    | false => exact .raise _

end Prep

/-! ## Operations -/

namespace WriteOp

/-- The transaction is one that the operation, called in `w` with this signer, describes: signed by
the account the signer stands for, and carrying the operation's call to its contract. -/
structure Describes (op : WriteOp) (host : Host) (signer : Option Signer) (w : World) (tx : Tx) :
    Prop where
  sender : ∃ account, Signs host.keys signer op.role account ∧ tx.sender = account.address
  contract : op.address.or (w.chain.singleton op.abiName) = some tx.call.contract
  call : ∃ prepared, op.prep.result host = some prepared ∧
    tx.call.functionName = prepared.functionName ∧ tx.call.args = prepared.args ∧
    tx.value = if prepared.value = 0 then none else some prepared.value

variable {op : WriteOp} {host : Host} {net : WriteNet} {signer : Option Signer} {w w' : World}
  {exe : TxExecutor}

/-- The executor of an operation broadcasts what the operation describes. -/
theorem executor_describes (h : (op.executor host net signer).exec w = (.ok exe, w')) (nonce : Nat) :
    op.Describes host signer w (exe.tx nonce) := by
  unfold executor at h
  obtain ⟨account, w₁, hsigner, hrest⟩ := exec_bind_eq_ok h
  obtain ⟨hsigns, rfl⟩ := signs_of_exec hsigner
  obtain ⟨contract, w₂, hcontract, hrest⟩ := exec_bind_eq_ok hrest
  obtain ⟨prepared, w₃, hprepared, hrest⟩ := exec_bind_eq_ok hrest
  cases hrest
  exact ⟨⟨account, hsigns, rfl⟩, loadContract_singleton hcontract,
    prepared, Prep.run_ok hprepared, rfl, rfl, rfl⟩

theorem executor_keeps {P : World → Op → Prop} (op : WriteOp) (host : Host) (net : WriteNet)
    (signer : Option Signer) : SDK.Keeps P (op.executor host net signer) :=
  .bind (.of_unchanged (exec_resolveSigner_snd _ _ _)) fun _ =>
    .bind (loadContract_keeps _ _ _) fun _ => .bind (Prep.run_keeps _ _ _) fun _ => .pure _

/-- A run broadcasts only what the operation describes. -/
theorem run_sends :
    ∀ x ∈ ((op.run host net signer).exec w).2.sends,
      x ∈ w.sends ∨ op.Describes host signer w x.1 := by
  have hkeeps : World.Path (fun _ op => op.send? = none) w
      ((op.executor host net signer).exec w).2 := op.executor_keeps host net signer w
  unfold run
  rcases he : (op.executor host net signer).exec w with ⟨e | exe, w₁⟩
  · rw [he] at hkeeps
    rw [exec_bind_error he, hkeeps.sends_eq]
    exact fun x hx => .inl hx
  · rw [he] at hkeeps
    rw [exec_bind_ok he]
    intro x hx
    rcases exe.execute_sends _ _ _ x hx with hx | ⟨nonce, hx⟩
    · rw [hkeeps.sends_eq] at hx
      exact .inl hx
    · rw [hx]
      exact .inr (executor_describes he nonce)

end WriteOp

namespace TxExecutor

variable {J : ChainState → Prop} (self : TxExecutor) (net : AttemptNet)

theorem onChain_broadcastTx (nonce : Nat) : Preserves (OnChain J) (self.broadcastTx net nonce) := by
  refine .onRaise (.bind (OnChain.await _) fun _ => .bind (OnChain.await _) fun _ =>
    .bind (OnChain.lift _) fun _ => .bind OnChain.monotonic fun now => ?_)
    fun _ => .bind (OnChain.record _) fun _ => OnChain.nonces _
  dsimp only
  split
  · exact .of_unchanged fun _ => rfl
  · exact .bind (OnChain.record _) fun _ => .bind (OnChain.elapse _) fun _ => OnChain.lift _

theorem onChain_awaitReceipt (hash : TxHash) :
    Preserves (OnChain J) (self.awaitReceipt net hash) := by
  refine .bind OnChain.monotonic fun now => .bind (OnChain.record _) fun _ =>
    .bind (OnChain.elapse _) fun _ => ?_
  split
  · refine .bind (OnChain.lift _) fun status => ?_
    dsimp only
    split
    · exact .of_unchanged fun _ => rfl
    · exact .bind (OnChain.lift _) fun _ => .bind OnChain.second fun _ => OnChain.lift _
  · exact .raise _
  · exact .raise _

theorem onChain_handle (k nonce : Nat) (broadcast : Bool) (raised : Raised) :
    Preserves (OnChain J) (self.handle net k nonce broadcast raised) := by
  have hreset : Preserves (OnChain J) self.resetNonce :=
    .bind (OnChain.record _) fun _ => OnChain.nonces _
  unfold handle
  split
  · exact .raise _
  · split
    · exact .raise _
    · exact .raise _
    · split
      · refine .bind hreset fun _ => ?_
        split
        · exact .pure _
        · exact .raise _
      · split
        · refine .bind hreset fun _ => ?_
          split
          · exact .bind (OnChain.sleep _ _) fun _ => .pure _
          · exact .raise _
        · split
          · exact .bind (OnChain.sleep _ _) fun _ => .pure _
          · exact .raise _

theorem onChain_attempt (k : Nat) : Preserves (OnChain J) (self.attempt net k) := by
  refine .bind OnChain.monotonic fun now => ?_
  dsimp only
  split
  · exact .of_unchanged fun _ => rfl
  refine .bind (.bind (OnChain.elapse _) fun _ => .bind (OnChain.nonces _) fun _ =>
    .bind (OnChain.record _) fun _ => .pure _) fun nonce =>
      .bind (.attempt (self.onChain_broadcastTx net nonce)) fun sent => ?_
  split
  · exact self.onChain_handle _ _ _ _ _
  · refine .bind (.attempt (self.onChain_awaitReceipt net _)) fun received => ?_
    split
    · exact self.onChain_handle _ _ _ _ _
    · exact .pure _

/-- A call of `execute` leaves the chain configuration as getting a Web3 instance does. -/
theorem onChain_execute (net : Nat → AttemptNet) {connected : Reply Bool}
    (h : Preserves (OnChain J) (getWeb3 connected)) :
    Preserves (OnChain J) (self.execute net connected) := by
  refine .bind h fun _ => .loop (fun k _ => self.onChain_attempt (net k) k) ?_ _ _ _
  intro lastError
  cases lastError with
  | none => exact .raise _
  | some lastError => exact .raise _

end TxExecutor

namespace WriteOp

/-- An operation selects no chain and gives no chain a URL. -/
theorem configured_run (op : WriteOp) (host : Host) (net : WriteNet) (signer : Option Signer)
    {settings : Settings} : Preserves (Configured settings) (op.run host net signer) := by
  unfold run executor
  exact .bind (.bind (.of_unchanged (exec_resolveSigner_snd _ _ _)) fun _ =>
    .bind (configured_loadContract _ _ _) fun _ => .bind (Prep.configured_run _) fun _ => .pure _)
    fun exe => exe.onChain_execute _ (configured_getWeb3 _)

end WriteOp

end OgpuSdk
