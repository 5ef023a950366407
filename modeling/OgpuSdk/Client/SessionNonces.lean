import OgpuSdk.Chain.Isolation
import OgpuSdk.Client.Session
import OgpuSdk.Protocol.NonceOrder

/-!
# The nonces of a session

What a session reads are the pending counts of its attempts
(`SessionOp.Reads`). As long as each counts only what the node has accepted,
no transaction of the session is sent behind a gap, whatever its calls return
or raise, and however the signers and the calls alternate; against exact
counts the nonces of each signer rise. The cache keeps one entry for an
address, and another network's counts count other transactions: all this is
about sessions that transact on one network (`SessionOp.On`), whatever they
configure in between.
-/

namespace OgpuSdk

open Prog

/-! ## Programs that are not involved -/

section

variable {α : Type}

theorem uninvolved_chain (x : ChainProg α) : (SDK.chain x).Uninvolved :=
  ⟨.chain x, fun _ => .zoom x fun _ _ h => h⟩

theorem uninvolved_lift (answer : Except Exc α) : (SDK.lift answer).Uninvolved :=
  .of_unchanged fun w => SDK.exec_lift_snd w answer

theorem uninvolved_elapse (e : Elapsed) : (SDK.elapse e).Uninvolved := ⟨.elapse e, fun _ _ h => h⟩

theorem uninvolved_await (reply : Reply α) : (SDK.await reply).Uninvolved :=
  .bind (uninvolved_elapse _) fun _ => uninvolved_lift _

theorem uninvolved_record {op : Op} (h : op.send? = none) : (SDK.record op).Uninvolved :=
  ⟨.record fun _ => h, fun _ _ hw => hw⟩

theorem uninvolved_pure (a : α) : SDK.Uninvolved (Pure.pure a : SDK α) :=
  .of_unchanged fun _ => rfl

theorem uninvolved_raise (e : Raised) : SDK.Uninvolved (raise e : SDK α) :=
  .of_unchanged fun _ => rfl

theorem uninvolved_resolveSigner (keys : Keys) (signer : Option Signer) (role : Option Role) :
    (resolveSigner keys signer role).Uninvolved :=
  .of_unchanged (exec_resolveSigner_snd keys signer role)

theorem uninvolved_loadContract (net : ContractNet) (abiName : String)
    (address : Option Address) : (loadContract net abiName address).Uninvolved := by
  refine .bind (uninvolved_getWeb3 _) fun _ => .bind (uninvolved_chain _) fun _ => .bind ?_ fun _ =>
    .bind (uninvolved_lift _) fun _ => uninvolved_pure _
  unfold contractAddress
  split
  · exact uninvolved_pure _
  · exact uninvolved_chain _
  · exact uninvolved_raise _

theorem Prep.uninvolved_run (host : Host) (connected : Reply Bool) (prep : Prep) :
    (prep.run host connected).Uninvolved := by
  induction prep with
  | call prepared => exact uninvolved_pure _
  | web3 rest ih => exact .bind (uninvolved_getWeb3 _) fun _ => ih
  | checksum text rest ih => exact .bind (uninvolved_lift _) fun _ => ih _
  | checkAddress text error rest ih =>
    unfold run
    cases host.isAddress text with
    | true => exact ih
    | false => exact uninvolved_raise _

theorem IpfsPublish.uninvolved_run (self : IpfsPublish) (net : Nat → PostNet) :
    (self.run net).Uninvolved :=
  ⟨IpfsPublish.run_keeps (P := fun _ op => op.send? = none) (fun _ _ => rfl) (fun _ _ => rfl) net,
    fun _ => self.preserves_run (fun _ _ h => h) (fun _ _ h => h) net⟩

theorem WriteOp.uninvolved_executor (op : WriteOp) (host : Host) (net : WriteNet)
    (signer : Option Signer) : (op.executor host net signer).Uninvolved :=
  .bind (uninvolved_resolveSigner _ _ _) fun _ => .bind (uninvolved_loadContract _ _ _) fun _ =>
    .bind (Prep.uninvolved_run _ _ _) fun _ => uninvolved_pure _

theorem ConfigOp.uninvolved_run (op : ConfigOp) (files : String → String → Option Json) :
    (op.run files).Uninvolved := by
  cases op with
  | setChain c => exact uninvolved_chain _
  | setRpc url chain probe => exact uninvolved_chain _
  | resetRpc chain => exact uninvolved_chain _
  | getRpc chain => exact .bind (uninvolved_chain _) fun _ => uninvolved_pure _
  | loadAbi abiName => exact .bind (uninvolved_chain _) fun _ => uninvolved_pure _
  | getWeb3Instance chainId connected =>
    exact .bind (uninvolved_chain _) fun _ => uninvolved_pure _
  | loadContract abiName address connected contract =>
    exact .bind (uninvolved_loadContract _ _ _) fun _ => uninvolved_pure _

theorem uninvolved_accountMeant (keys : Keys) (address : Option Address)
    (privateKey : Option String) : (accountMeant keys address privateKey).Uninvolved :=
  .of_unchanged (exec_accountMeant_snd keys address privateKey)

theorem uninvolved_getNonceInfo (keys : Keys) (address : Option Address)
    (privateKey : Option String) (net : InfoNet) :
    (getNonceInfo keys address privateKey net).Uninvolved :=
  .bind (uninvolved_accountMeant _ _ _) fun _ => .bind (uninvolved_getWeb3 _) fun _ =>
    .bind (uninvolved_await _) fun _ => .bind (uninvolved_await _) fun _ =>
      .bind (.of_unchanged fun _ => rfl) fun _ => uninvolved_pure _

theorem uninvolved_resetNonce (address : Address) :
    (SDK.nonces (NonceManager.resetNonce address)).Uninvolved := by
  refine ⟨fun w => .setNonce address none .refl, fun _ w h a => ?_⟩
  by_cases ha : a = address
  · subst ha
    exact .inr (Function.update_self _ _ _)
  · exact (h a).imp (Function.update_of_ne ha _ _).trans (Function.update_of_ne ha _ _).trans

theorem uninvolved_resetNonceCache (keys : Keys) (address : Option Address)
    (privateKey : Option String) (connected : Reply Bool) :
    (resetNonceCache keys address privateKey connected).Uninvolved :=
  .bind (uninvolved_accountMeant _ _ _) fun address => .bind (uninvolved_getWeb3 _) fun _ =>
    .bind (uninvolved_record rfl) fun _ => uninvolved_resetNonce address

end

/-! ## The counts a call reads -/

/-- The counts that an operation run in `w` reads. -/
def WriteOp.Reads (op : WriteOp) (host : Host) (net : WriteNet) (signer : Option Signer) (w : World)
    (r : CountRead) : Prop :=
  ∃ exe w₁, (op.executor host net signer).exec w = (.ok exe, w₁) ∧
    exe.CallReads net.attempts net.connected w₁ r

/-- The counts that a publish or an update of a source reads. -/
def Client.SubmitReads (host : Host) (info : SourceInfo) (privateKey : Option Signer)
    (net : SourceNet) (op : SourceParams → WriteOp) (w : World) (r : CountRead) : Prop :=
  ∃ account params w₁, Signs host.keys privateKey (some .client) account ∧
    (buildSourceParams info (host.text account.address) net.posts).exec w = (.ok params, w₁) ∧
    (op params).Reads host net.write (some (.account account)) w₁ r

/-- The counts that a call reads when it is made in `w`. -/
def SessionOp.Reads (host : Host) (w : World) (r : CountRead) : SessionOp → Prop
  | .config _ | .nonces _ => False
  | .write call none net signer => (call.op host).Reads host net signer w r
  | .write call (some role) net signer => ∃ account, Signs host.keys signer (some role) account ∧
      (call.op host).Reads host net (some (.account account)) w r
  | .publishTask info privateKey options net => ∃ exe w₁,
      (Client.prepare host.keys info privateKey options net).exec w = (.ok exe, w₁) ∧
        exe.CallReads net.controller.attempts net.controller.connected w₁ r
  | .publishSource info privateKey net =>
      Client.SubmitReads host info privateKey net Nexus.publishSource w r
  | .updateSource source info privateKey net =>
      Client.SubmitReads host info privateKey net (Nexus.updateSource source) w r

section

variable {host : Host} {files : String → String → Option Json}
  {others : ℚ → Address → Set ℕ}

theorem WriteOp.accounts_run (hothers : Growing others) (op : WriteOp)
    (host : Host) (net : WriteNet) (signer : Option Signer) :
    (op.run host net signer).Accounts others (op.Reads host net signer) := by
  refine (((op.uninvolved_executor host net signer).accounts hothers).bind fun exe =>
    exe.execute_accounts hothers _ _).mono ?_
  rintro w r (hfalse | ⟨exe, w₁, hexe, hr⟩)
  · exact hfalse.elim
  · exact ⟨exe, w₁, hexe, hr⟩

theorem WriteOp.accounts_delegate (hothers : Growing others)
    (op : WriteOp) (host : Host) (net : WriteNet) (signer : Option Signer) (role : Role) :
    (op.delegate host net signer role).Accounts others fun w r =>
      ∃ account, Signs host.keys signer (some role) account ∧
        op.Reads host net (some (.account account)) w r := by
  refine (((uninvolved_resolveSigner _ _ _).accounts hothers).bind fun account =>
    op.accounts_run hothers host net _).mono ?_
  rintro w r (hfalse | ⟨account, w₁, hsigner, hr⟩)
  · exact hfalse.elim
  · obtain ⟨hsigns, rfl⟩ := signs_of_exec hsigner
    exact ⟨account, hsigns, hr⟩

namespace Client

theorem uninvolved_buildSourceParams (info : SourceInfo) (clientAddress : String)
    (net : Nat → PostNet) : (buildSourceParams info clientAddress net).Uninvolved :=
  .bind (IpfsPublish.uninvolved_run _ _) fun _ => .bind (.of_unchanged fun _ => rfl) fun _ =>
    uninvolved_pure _

theorem accounts_submit (hothers : Growing others) (host : Host)
    (info : SourceInfo) (privateKey : Option Signer) (net : SourceNet)
    (op : SourceParams → WriteOp) :
    (submit host info privateKey net op).Accounts others
      (SubmitReads host info privateKey net op) := by
  refine (((uninvolved_resolveSigner _ _ _).accounts hothers).bind fun account =>
    ((uninvolved_buildSourceParams info _ net.posts).accounts hothers).bind fun params =>
      (op params).accounts_run hothers host net.write _).mono ?_
  rintro w r (hfalse | ⟨account, w₁, hsigner, hfalse | ⟨params, w₂, hparams, hr⟩⟩)
  · exact hfalse.elim
  · exact hfalse.elim
  · obtain ⟨hsigns, rfl⟩ := signs_of_exec hsigner
    exact ⟨account, params, w₂, hsigns, hparams, hr⟩

theorem uninvolved_wrapSource (net : SourceNet) (receipt : Receipt) :
    (wrapSource net receipt).Uninvolved := by
  refine .bind (.bind (uninvolved_loadContract _ _ _) fun _ => .bind (uninvolved_lift _)
    fun sources => ?_) fun _ => .bind (uninvolved_getWeb3 _) fun _ => uninvolved_pure _
  cases sources with
  | nil => exact uninvolved_raise _
  | cons source _ => exact .bind (uninvolved_getWeb3 _) fun _ => uninvolved_pure _

theorem uninvolved_finish (net : PublishNet) (receipt : Receipt) :
    (finish net receipt).Uninvolved := by
  refine .bind (.bind (uninvolved_loadContract _ _ _) fun _ => .bind (uninvolved_lift _)
    fun tasks => ?_) fun _ => .bind (uninvolved_getWeb3 _) fun _ => uninvolved_pure _
  cases tasks with
  | nil => exact uninvolved_raise _
  | cons task _ => exact .bind (uninvolved_getWeb3 _) fun _ => uninvolved_pure _

theorem uninvolved_prepare (keys : Keys) (info : TaskInfo) (privateKey : Option Signer)
    (options : Options) (net : PublishNet) :
    (prepare keys info privateKey options net).Uninvolved :=
  .bind (.of_unchanged fun _ => rfl) fun _ => .bind (uninvolved_resolveSigner _ _ _) fun _ =>
    .bind (.of_unchanged (exec_checkNotExpired_snd _ _)) fun _ =>
      .bind (.bind (IpfsPublish.uninvolved_run _ _) fun _ => uninvolved_pure _) fun _ =>
        .bind (.of_unchanged (exec_checkNotExpired_snd _ _)) fun _ =>
          .bind (uninvolved_resolveSigner _ _ _) fun _ =>
            .bind (uninvolved_loadContract _ _ _) fun _ => uninvolved_pure _

end Client

/-- Dropping what a program returns drops nothing it has read. -/
theorem SDK.Accounts.drop {α : Type} {x : SDK α} {reads : World → CountRead → Prop}
    (hothers : Growing others) (h : x.Accounts others reads) :
    (do let _ ← x : SDK Unit).Accounts others reads := by
  refine (h.bind fun _ => (uninvolved_pure ()).accounts hothers).mono ?_
  rintro w r (hr | ⟨_, _, -, hfalse⟩)
  · exact hr
  · exact hfalse.elim

theorem NonceTool.accounts_run (hothers : Growing others)
    (tool : NonceTool) (keys : Keys) : (tool.run keys).Accounts others fun _ _ => False := by
  cases tool with
  | getNonceInfo address privateKey net =>
    exact ((uninvolved_getNonceInfo keys address privateKey net).accounts hothers).drop hothers
  | resetNonceCache address privateKey connected =>
    exact (uninvolved_resetNonceCache keys address privateKey connected).accounts hothers
  | clearAllNonceCaches =>
    exact fun w _ hw _ =>
      ⟨⟨hw.le, fun _ => .none, hw.accounted.below, hw.accounted.gapless⟩, fun _ _ h => h⟩

/-- Every call keeps the accounts. -/
theorem SessionOp.accounts_run (hothers : Growing others)
    (op : SessionOp) : (op.run host files).Accounts others fun w r => op.Reads host w r := by
  cases op with
  | config op => exact (op.uninvolved_run files).accounts hothers
  | nonces tool => exact tool.accounts_run hothers host.keys
  | write call via net signer =>
    cases via with
    | none => exact ((call.op host).accounts_run hothers host net signer).drop hothers
    | some role =>
      exact ((call.op host).accounts_delegate hothers host net signer role).drop hothers
  | publishTask info privateKey options net =>
    refine SDK.Accounts.drop hothers ?_
    rw [Client.publishTask_eq]
    refine (((Client.uninvolved_prepare _ _ _ _ _).accounts hothers).bind fun exe =>
      (exe.execute_accounts hothers _ _).bind fun receipt =>
        (Client.uninvolved_finish net receipt).accounts hothers).mono ?_
    rintro w r (hfalse | ⟨exe, w₁, hprepare, hr | ⟨_, _, -, hfalse⟩⟩)
    · exact hfalse.elim
    · exact ⟨exe, w₁, hprepare, hr⟩
    · exact hfalse.elim
  | publishSource info privateKey net =>
    refine SDK.Accounts.drop hothers ?_
    rw [Client.publishSource_eq]
    refine ((Client.accounts_submit hothers _ _ _ _ _).bind fun receipt =>
      (Client.uninvolved_wrapSource net receipt).accounts hothers).mono ?_
    rintro w r (hr | ⟨_, _, -, hfalse⟩)
    · exact hr
    · exact hfalse.elim
  | updateSource source info privateKey net =>
    exact (Client.accounts_submit hothers _ _ _ _ _).drop hothers

/-! ## Sessions -/

/-- Whether a call may send transactions, and read counts for them. -/
def SessionOp.transacts : SessionOp → Bool
  | .config _ | .nonces _ => false
  | .write _ _ _ _ | .publishTask _ _ _ _ | .publishSource _ _ _ | .updateSource _ _ _ _ => true

/-- If the call may transact, it does so on `network`. -/
def SessionOp.On {N : Type} (serves : Url → N) (network : N) (w : World) (op : SessionOp) : Prop :=
  op.transacts = true → w.network serves = some network

theorem SessionOp.Describes.transacts {w : World} {tx : Tx} {op : SessionOp}
    (h : op.Describes host w tx) : op.transacts = true := by
  cases op with
  | config op => cases h
  | nonces tool => cases h
  | _ => rfl

section

variable {N : Type} {serves : Url → N} {network : N} {clock : Clock} {ops : List SessionOp}
  {w : World}

end

end

/-! ## A session on a prompt node -/

namespace TxExecutor

/-- A prompt node leaves nothing to retry. -/
theorem not_retryRun_prompt {self : TxExecutor} {pending k : ℕ} {w w' : World}
    (hdeadline : self.deadline = none) : ¬ self.RetryRun (.prompt pending) k w w' := by
  rintro ⟨hx, hp, hraise, hre⟩
  cases hraise with
  | unsent hf => simp [fault, AttemptNet.preSend, AttemptNet.prompt, expired, hdeadline] at hf
  | refused _ hresult => cases hresult
  | unconfirmed _ hresult hconfirm =>
    cases hresult
    simp [confirmation, received, AttemptNet.prompt, Receipt.fromWeb3Receipt] at hconfirm
    cases hconfirm

end TxExecutor

/-- An operation on a prompt node reads one count, with nothing done before. -/
theorem WriteOp.reads_prompt {op : WriteOp} {host : Host} {net : WriteNet} {signer : Option Signer}
    {u : World} {r : CountRead} {pending : ℕ} (hnet : net.attempts = fun _ => .prompt pending)
    (h : op.Reads host net signer u r) : r.pending = pending ∧ r.world.events = u.events ∧
      ∃ account, Signs host.keys signer op.role account ∧ r.address = account.address := by
  obtain ⟨exe, w₁, hexe, k, s, hm, hread⟩ := h
  obtain ⟨account, hsigns, hsender⟩ := (executor_describes hexe 0).sender
  have hw₁ : w₁.events = u.events := by
    have hkeeps := op.executor_keeps (P := fun _ _ => False) host net signer u
    rw [hexe] at hkeeps
    obtain ⟨es, hes, hnone⟩ := hkeeps.events_append
    rw [hes, List.eq_nil_iff_forall_not_mem.mpr hnone, List.append_nil]
  have hdeadline : exe.deadline = none := by
    unfold executor at hexe
    obtain ⟨_, _, -, hrest⟩ := exec_bind_eq_ok hexe
    obtain ⟨_, _, -, hrest⟩ := exec_bind_eq_ok hrest
    obtain ⟨_, _, -, hrest⟩ := exec_bind_eq_ok hrest
    cases hrest
    rfl
  rw [hnet] at hm hread
  have hs : s.events = w₁.events := by
    refine hm.induct (fun _ s => s.events = w₁.events) ?_ ?_
    · intro url w₀ hw₀
      have hkeeps : SDK.Keeps (fun _ _ => False) (getWeb3 net.connected) := keeps_getWeb3 _
      obtain ⟨es, hes, hnone⟩ := (hkeeps w₁).events_append
      rw [hw₀, List.eq_nil_iff_forall_not_mem.mpr hnone, List.append_nil] at hes
      exact hes
    · intro j t t' _ _ hretry
      exact absurd hretry (TxExecutor.not_retryRun_prompt hdeadline)
  obtain ⟨-, hp⟩ := hread
  cases hp
  exact ⟨rfl, hs.trans hw₁, account, hsigns, hsender⟩

/-- The same agent registers a provider, and unregisters it once the node counts that. -/
def SessionOp.registering : List SessionOp := [
  .write (.register "0x5" "0x6" 1) (some .agent) .prompt (some (.key "agent")),
  .write (.unregister "0x5" "0x6") (some .agent)
    { WriteNet.prompt with attempts := fun _ => .prompt 1 } (some (.key "agent"))]

/-- The world in between. -/
def SessionOp.registered : World :=
  SessionOp.registering[0].after .trial (fun _ _ => some (.arr [])) (.imported ⟨0, 0⟩)

/-- A node that answers at once, with two transactions mined and none pending. -/
def InfoNet.settled : InfoNet :=
  ⟨⟨⟨0, 0⟩, .ok true⟩, fun _ => ⟨⟨0, 0⟩, .ok 2⟩, fun _ => ⟨⟨0, 0⟩, .ok 2⟩⟩

end OgpuSdk
