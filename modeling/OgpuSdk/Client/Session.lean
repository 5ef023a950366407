import OgpuSdk.Chain.NonceTools
import OgpuSdk.Client.PublishSource
import OgpuSdk.Client.Replies
import OgpuSdk.Lib.Machine
import OgpuSdk.Protocol.Abi

/-!
# Sessions

A session is any sequence of calls that configure the chains, write to them or
look after the nonce cache, from the import state on, whatever each of them
returns or raises. The settings are read off the sequence itself: only the
configuring calls change them (`settle`). What a call may broadcast follows
from its arguments and from the world it is made in (`Describes`). A run agrees
with both: the configuration it ends with is the settled one, and every
transaction is described by the call that broadcast it, at the settings of that
moment.
-/

namespace OgpuSdk

open Prog

/-! ## The calls -/

inductive SessionOp where
  | config (op : ConfigOp)
  | nonces (tool : NonceTool)
  | write (call : Write) (via : Option Role) (net : WriteNet) (signer : Option Signer)
  | publishTask (info : Client.TaskInfo) (privateKey : Option Signer) (options : Client.Options)
      (net : Client.PublishNet)
  | publishSource (info : SourceInfo) (privateKey : Option Signer) (net : Client.SourceNet)
  | updateSource (source : String) (info : SourceInfo) (privateKey : Option Signer)
      (net : Client.SourceNet)

namespace SessionOp

variable (host : Host) (files : String → String → Option Json)

def run : SessionOp → SDK Unit
  | .config op => op.run files
  | .nonces tool => tool.run host.keys
  | .write call via net signer => do
    let _ ← call.run host via net signer
  | .publishTask info privateKey options net => do
    let _ ← Client.publishTask host.keys info privateKey options net
  | .publishSource info privateKey net => do
    let _ ← Client.publishSource host info privateKey net
  | .updateSource source info privateKey net => do
    let _ ← Client.updateSource host info privateKey net source

def after (w : World) (op : SessionOp) : World := ((op.run host files).exec w).2

/-- What the call may broadcast when it is made in `w`. -/
def Describes (w : World) (tx : Tx) : SessionOp → Prop
  | .config _ | .nonces _ => False
  | .write call none _ signer => (call.op host).Describes host signer w tx
  | .write call (some role) _ signer => ∃ account, Signs host.keys signer (some role) account ∧
      (call.op host).Describes host (some (.account account)) w tx
  | .publishTask info privateKey options net => ∃ account config w₁,
      Signs host.keys privateKey (some .client) account ∧
        ((Client.taskUpload info options w.clock.mono).run net.posts).exec w = (.ok config, w₁) ∧
        (Controller.publishTaskOp ⟨info.source, config, info.expiryTime, info.payment⟩).Describes
          host (some (.account account)) w tx
  | .publishSource info privateKey net => ∃ account url w₁,
      Signs host.keys privateKey (some .client) account ∧
        ((Client.metadataUpload info).run net.posts).exec w = (.ok url, w₁) ∧
        (Nexus.publishSource (Client.sourceParams info (host.text account.address) url
          w₁.clock.second)).Describes host (some (.account account)) w tx
  | .updateSource source info privateKey net => ∃ account url w₁,
      Signs host.keys privateKey (some .client) account ∧
        ((Client.metadataUpload info).run net.posts).exec w = (.ok url, w₁) ∧
        (Nexus.updateSource source (Client.sourceParams info (host.text account.address) url
          w₁.clock.second)).Describes host (some (.account account)) w tx

/-- Runs of calls, from the import state. -/
def machine : Machine World SessionOp where
  init w := ∃ clock, w = .imported clock
  step w op := some (op.after host files w)

end SessionOp

/-! ## The settings -/

/-- A URL given to a chain. -/
def Settings.withRpc (s : Settings) (c : ChainId) (url : Url) : Settings :=
  { s with rpcUrls := Function.update s.rpcUrls c (some url) }

/-- What a call makes of the settings. -/
def ConfigOp.settle (op : ConfigOp) (s : Settings) : Settings :=
  match op with
  | .setChain c => if c.supported then { s with current := some c } else s
  | .setRpc url chain probe =>
    match chain.or s.current, probe with
    | some c, .ok true => if c.supported then s.withRpc c url else s
    | _, _ => s
  | .resetRpc chain =>
    match chain.or s.current with
    | some c =>
      match ChainConfig.DEFAULT_RPC_URLS c with
      | some url => s.withRpc c url
      | none => s
    | none => s
  | .getRpc _ | .loadAbi _ | .getWeb3Instance _ _ | .loadContract _ _ _ _ => s

def SessionOp.settle (op : SessionOp) (s : Settings) : Settings :=
  match op with
  | .config op => op.settle s
  | .nonces _ | .write _ _ _ _ | .publishTask _ _ _ _ | .publishSource _ _ _
  | .updateSource _ _ _ _ => s

/-- The settings after these calls. -/
def settled (ops : List SessionOp) : Settings :=
  ops.foldl (fun s op => op.settle s) ChainState.imported.settings

section

variable {host : Host} {files : String → String → Option Json} {w : World}

theorem ChainConfig.setChain_settings (s : ChainState) (c : ChainId) :
    ((setChain c).exec s).2.settings = (ConfigOp.setChain c).settle s.settings := by
  unfold setChain ConfigOp.settle
  cases hc : c.supported with
  | true => simp [hc, ChainState.settings]
  | false => simp [hc]

theorem ChainConfig.setRpc_settings (s : ChainState) (url : Url) (chain : Option ChainId)
    (probe : Except Exc Bool) :
    ((setRpc url chain probe).exec s).2.settings =
      (ConfigOp.setRpc url chain probe).settle s.settings := by
  have hnamed : chain.or s.settings.current = s.named chain := rfl
  unfold setRpc ConfigOp.settle
  rw [exec_bind, exec_target]
  dsimp only
  rw [hnamed]
  cases s.named chain with
  | none => rfl
  | some c =>
    cases hc : c.supported with
    | true =>
      rcases probe with exc | _ | _
      · cases hexc : exc.isException <;> simp [hc, hexc]
      · simp [hc]
      · simp [hc]
        rfl
    | false => rcases probe with exc | _ | _ <;> simp [hc, exec_bind]

theorem ChainConfig.resetRpc_settings (s : ChainState) (chain : Option ChainId) :
    ((resetRpc chain).exec s).2.settings = (ConfigOp.resetRpc chain).settle s.settings := by
  have hnamed : chain.or s.settings.current = s.named chain := rfl
  unfold resetRpc ConfigOp.settle
  rw [exec_bind, exec_target]
  dsimp only
  rw [hnamed]
  cases s.named chain with
  | none => rfl
  | some c =>
    dsimp only
    cases DEFAULT_RPC_URLS c with
    | none => rfl
    | some url => rfl

theorem ConfigOp.after_settings (op : ConfigOp) :
    (op.after files w).chain.settings = op.settle w.chain.settings := by
  have hdrop : ∀ {α : Type} {x : SDK α}, Preserves (Configured w.chain.settings) x →
      Preserves (Configured w.chain.settings) (do let _ ← x : SDK Unit) :=
    fun hx => .bind hx fun _ => .pure _
  cases op with
  | setChain c => exact ChainConfig.setChain_settings w.chain c
  | setRpc url chain probe => exact ChainConfig.setRpc_settings w.chain url chain probe
  | resetRpc chain => exact ChainConfig.resetRpc_settings w.chain chain
  | getRpc chain =>
    have hget : Preserves (Configured w.chain.settings) (SDK.chain (ChainConfig.getRpc chain)) := by
      intro u hu
      change ((ChainConfig.getRpc chain).exec u.chain).2.settings = _
      rw [ChainConfig.getRpc_eq]
      exact hu
    exact hdrop hget w rfl
  | loadAbi abiName => exact hdrop (configured_loadAbi files abiName) w rfl
  | getWeb3Instance chainId connected =>
    exact hdrop (configured_getWeb3Instance chainId connected) w rfl
  | loadContract abiName address connected contract =>
    exact hdrop (configured_loadContract ⟨connected, files, contract⟩ abiName address) w rfl

/-! ## What the writes leave alone -/

theorem Write.configured_run {settings : Settings} (call : Write) (host : Host)
    (via : Option Role) (net : WriteNet) (signer : Option Signer) :
    Preserves (Configured settings) (call.run host via net signer) := by
  cases via with
  | none => exact (call.op host).configured_run host net signer
  | some role =>
    exact .bind (.of_unchanged (exec_resolveSigner_snd _ _ _)) fun _ =>
      (call.op host).configured_run host net _

namespace Client

variable {settings : Settings}

theorem configured_publishTask (keys : Keys) (info : TaskInfo) (privateKey : Option Signer)
    (options : Options) (net : PublishNet) :
    Preserves (Configured settings) (publishTask keys info privateKey options net) := by
  have hextract : ∀ receipt, Preserves (Configured settings) (finish net receipt) := by
    intro receipt
    refine .bind (.bind (configured_loadContract _ _ _) fun _ => .bind (OnChain.lift _)
      fun tasks => ?_) fun _ => .bind (configured_getWeb3 _) fun _ => .pure _
    cases tasks with
    | nil => exact .raise _
    | cons task _ => exact .bind (configured_getWeb3 _) fun _ => .pure _
  rw [publishTask_eq]
  refine .bind ?_ fun exe => .bind (exe.onChain_execute _ (configured_getWeb3 _)) hextract
  exact .bind OnChain.monotonic fun _ => .bind (.of_unchanged (exec_resolveSigner_snd _ _ _))
    fun _ => .bind (.of_unchanged (exec_checkNotExpired_snd _ _)) fun _ =>
      .bind (.bind (IpfsPublish.onChain_run _ _) fun _ => .pure _) fun _ =>
        .bind (.of_unchanged (exec_checkNotExpired_snd _ _)) fun _ =>
          .bind (.of_unchanged (exec_resolveSigner_snd _ _ _)) fun _ =>
            .bind (configured_loadContract _ _ _) fun _ => .pure _

theorem configured_submit (host : Host) (info : SourceInfo) (privateKey : Option Signer)
    (net : SourceNet) (op : SourceParams → WriteOp) :
    Preserves (Configured settings) (submit host info privateKey net op) :=
  .bind (.of_unchanged (exec_resolveSigner_snd _ _ _)) fun _ =>
    .bind (.bind (IpfsPublish.onChain_run _ _) fun _ => .bind OnChain.second fun _ => .pure _)
      fun params => (op params).configured_run _ _ _

theorem configured_publishSource (host : Host) (info : SourceInfo) (privateKey : Option Signer)
    (net : SourceNet) : Preserves (Configured settings) (publishSource host info privateKey net) := by
  rw [publishSource_eq]
  refine .bind (configured_submit _ _ _ _ _) fun receipt => ?_
  refine .bind (.bind (configured_loadContract _ _ _) fun _ => .bind (OnChain.lift _)
    fun sources => ?_) fun _ => .bind (configured_getWeb3 _) fun _ => .pure _
  cases sources with
  | nil => exact .raise _
  | cons source _ => exact .bind (configured_getWeb3 _) fun _ => .pure _

end Client

/-- A call makes of the settings what is read off it. -/
theorem SessionOp.after_settings (op : SessionOp) :
    (op.after host files w).chain.settings = op.settle w.chain.settings := by
  have hdrop : ∀ {α : Type} {x : SDK α}, Preserves (Configured w.chain.settings) x →
      Preserves (Configured w.chain.settings) (do let _ ← x : SDK Unit) :=
    fun hx => .bind hx fun _ => .pure _
  cases op with
  | config op => exact op.after_settings
  | nonces tool =>
    exact tool.preserves_run (fun _ _ h => h) (fun _ _ h => h) configured_getWeb3
      (fun _ _ _ h => h) host.keys w rfl
  | write call via net signer => exact hdrop (call.configured_run host via net signer) w rfl
  | publishTask info privateKey options net =>
    exact hdrop (Client.configured_publishTask host.keys info privateKey options net) w rfl
  | publishSource info privateKey net =>
    exact hdrop (Client.configured_publishSource host info privateKey net) w rfl
  | updateSource source info privateKey net =>
    exact hdrop (Client.configured_submit host info privateKey net _) w rfl

/-! ## What the calls broadcast -/

theorem ConfigOp.after_sends (op : ConfigOp) : (op.after files w).sends = w.sends := by
  have hkeeps : SDK.Keeps (fun _ op => op.send? = none) (op.run files) := by
    cases op with
    | setChain c => exact .chain _
    | setRpc url chain probe => exact .chain _
    | resetRpc chain => exact .chain _
    | getRpc chain => exact .bind (.chain _) fun _ => .pure _
    | loadAbi abiName => exact .bind (.chain _) fun _ => .pure _
    | getWeb3Instance chainId connected => exact .bind (.chain _) fun _ => .pure _
    | loadContract abiName address connected contract =>
      exact .bind (loadContract_keeps _ _ _) fun _ => .pure _
  exact (hkeeps w).sends_eq

/-- A wrapper broadcasts what the operation describes for the account it has resolved. -/
theorem WriteOp.delegate_sends {op : WriteOp} {net : WriteNet} {signer : Option Signer}
    {role : Role} :
    ∀ x ∈ ((op.delegate host net signer role).exec w).2.sends, x ∈ w.sends ∨
      ∃ account, Signs host.keys signer (some role) account ∧
        op.Describes host (some (.account account)) w x.1 := by
  unfold delegate
  rcases hsigner : (resolveSigner host.keys signer (some role)).exec w with ⟨e | account, w₁⟩
  · have hw₁ := exec_resolveSigner_snd host.keys signer (some role) w
    rw [hsigner] at hw₁
    dsimp only at hw₁
    subst hw₁
    rw [exec_bind_error hsigner]
    exact fun x hx => .inl hx
  · obtain ⟨hsigns, rfl⟩ := signs_of_exec hsigner
    rw [exec_bind_ok hsigner]
    intro x hx
    rcases run_sends x hx with hx | hx
    · exact .inl hx
    · exact .inr ⟨account, hsigns, hx⟩

namespace Client

variable {info : TaskInfo} {privateKey : Option Signer} {options : Options} {net : PublishNet}
  {exe : TxExecutor} {w₁ : World}

/-- The executor of a publish carries the task, with the link of its upload, to the Controller of
the current chain. -/
theorem prepare_describes
    (h : (prepare host.keys info privateKey options net).exec w = (.ok exe, w₁)) :
    ∃ account config w₂, Signs host.keys privateKey (some .client) account ∧
      ((taskUpload info options w.clock.mono).run net.posts).exec w = (.ok config, w₂) ∧ ∀ nonce,
        (Controller.publishTaskOp ⟨info.source, config, info.expiryTime, info.payment⟩).Describes
          host (some (.account account)) w (exe.tx nonce) := by
  unfold prepare at h
  rw [exec_bind_ok (SDK.exec_monotonic w)] at h
  obtain ⟨account, u, hsigner, h⟩ := exec_bind_eq_ok h
  obtain ⟨hsigns, rfl⟩ := signs_of_exec hsigner
  obtain ⟨_, u₁, hstart, h⟩ := exec_bind_eq_ok h
  obtain ⟨params, u₂, hparams, h⟩ := exec_bind_eq_ok h
  obtain ⟨_, u₃, hend, h⟩ := exec_bind_eq_ok h
  obtain ⟨_, u₄, hsame, h⟩ := exec_bind_eq_ok h
  obtain ⟨contract, u₅, hcontract, h⟩ := exec_bind_eq_ok h
  cases h
  cases hsame
  obtain ⟨config, u₆, hconfig, hpure⟩ := exec_bind_eq_ok hparams
  cases hpure
  -- Neither the checks nor the upload touch the chain configuration.
  have h₁ : u₁ = u := by
    have := exec_checkNotExpired_snd info.expiryTime "start" u
    rwa [hstart] at this
  have h₂ : u₂.chain = u₁.chain := by
    have hupload : Preserves (OnChain (· = u₁.chain)) (buildTaskParams info options.ipfsTimeout
        options.ipfsRetries options.ipfsBackoff (options.totalTimeout.map (u.clock.mono + ·))
        net.posts) := .bind (IpfsPublish.onChain_run _ _) fun _ => .pure _
    have := hupload u₁ rfl
    rwa [hparams] at this
  have h₃ : u₃ = u₂ := by
    have := exec_checkNotExpired_snd info.expiryTime "pre-transaction (after IPFS pin)" u₂
    rwa [hend] at this
  have haddress := loadContract_singleton hcontract
  subst h₁ h₃
  rw [h₂] at haddress
  exact ⟨account, config, _, hsigns, hconfig, fun nonce => ⟨⟨account, fun _ => rfl, rfl⟩,
    haddress, _, rfl, rfl, rfl, rfl⟩⟩

theorem publishTask_sends :
    ∀ x ∈ ((publishTask host.keys info privateKey options net).exec w).2.sends, x ∈ w.sends ∨
      (SessionOp.publishTask info privateKey options net).Describes host w x.1 := by
  have hpath : World.Path (fun _ op => ∀ x, op.send? = some x → x ∈ w.sends ∨
      (SessionOp.publishTask info privateKey options net).Describes host w x.1)
      w ((publishTask host.keys info privateKey options net).exec w).2 := by
    apply publishTask_path
    · intro u timeout _ x hx
      cases hx
    · intro u op hq x hx
      cases op with
      | send => cases hq
      | _ => cases hx
    · intro u address nonce x hx
      cases hx
    · rintro exe k s u tx ⟨w₁, hp, -⟩ hs - x hx
      cases hx
      obtain ⟨account, config, w₂, hsigns, hupload, hdescribes⟩ := prepare_describes hp
      obtain ⟨pending, -, -, -, rfl⟩ := TxExecutor.sending_eq_some.mp hs
      exact .inr ⟨account, config, w₂, hsigns, hupload, hdescribes _⟩
  exact hpath.sends_allowed fun x hx => .inl hx

end Client

theorem Write.run_sends {call : Write} {via : Option Role} {net : WriteNet}
    {signer : Option Signer} :
    ∀ x ∈ ((call.run host via net signer).exec w).2.sends,
      x ∈ w.sends ∨ (SessionOp.write call via net signer).Describes host w x.1 := by
  cases via with
  | none => exact WriteOp.run_sends
  | some role => exact WriteOp.delegate_sends

/-- A call broadcasts only what it describes. -/
theorem SessionOp.after_sends (op : SessionOp) :
    ∀ x ∈ (op.after host files w).sends, x ∈ w.sends ∨ op.Describes host w x.1 := by
  cases op with
  | config op =>
    intro x hx
    exact .inl (op.after_sends ▸ hx)
  | nonces tool =>
    have hsends : Preserves (fun u : World => u.sends = w.sends) (tool.run host.keys) := by
      refine tool.preserves_run (fun _ _ h => h) (fun u address h => ?_) (fun connected u h => ?_)
        (fun _ _ _ h => h) host.keys
      · rw [World.sends_record, h]
        exact List.append_nil _
      · exact (World.Path.sends_eq (keeps_getWeb3 connected u)).trans h
    intro x hx
    exact .inl (hsends w rfl ▸ hx)
  | write call via net signer =>
    unfold after run
    rw [exec_drop]
    exact call.run_sends
  | publishTask info privateKey options net =>
    unfold after run
    rw [exec_drop]
    exact Client.publishTask_sends
  | publishSource info privateKey net =>
    unfold after run
    rw [exec_drop]
    intro x hx
    rcases Client.publishSource_submitted.sends x hx with hx | ⟨account, url, w₁, hsigns, hurl, -, h⟩
    · exact .inl hx
    · exact .inr ⟨account, url, w₁, hsigns, hurl, h⟩
  | updateSource source info privateKey net =>
    unfold after run
    rw [exec_drop]
    intro x hx
    rcases Client.submit_submitted.sends x hx with hx | ⟨account, url, w₁, hsigns, hurl, -, h⟩
    · exact .inl hx
    · exact .inr ⟨account, url, w₁, hsigns, hurl, h⟩

/-! ## Runs -/

/-- What is read off a session agrees with its run. -/
structure Faithful (host : Host) (files : String → String → Option Json) (clock : Clock)
    (ops : List SessionOp) (w : World) : Prop where
  settings : w.chain.settings = settled ops
  /-- Every transaction was broadcast by a call of the session, which described it when it was
  made. -/
  sends : ∀ x ∈ w.sends, ∃ before op u, before ++ [op] <+: ops ∧
    (SessionOp.machine host files).run (.imported clock) before = some u ∧
    x ∉ u.sends ∧ x ∈ (op.after host files u).sends ∧
    u.chain.settings = settled before ∧ op.Describes host u x.1

theorem settings_run {clock : Clock} {ops : List SessionOp}
    (hr : (SessionOp.machine host files).run (.imported clock) ops = some w) :
    w.chain.settings = settled ops := by
  refine Machine.run_inv (P := fun _ => True) (I := fun ops w => w.chain.settings = settled ops)
    rfl ?_ (by simp) hr
  rintro ops u op _ - - ⟨⟩ hu
  rw [SessionOp.after_settings, hu, settled, settled, List.foldl_append]
  rfl

/-- Every transaction of a run is broadcast by a call of it, which describes it. -/
theorem described_run {clock : Clock} {ops : List SessionOp}
    (hr : (SessionOp.machine host files).run (.imported clock) ops = some w) :
    ∀ x ∈ w.sends, ∃ before op u, before ++ [op] <+: ops ∧
      (SessionOp.machine host files).run (.imported clock) before = some u ∧
        x ∉ u.sends ∧ x ∈ (op.after host files u).sends ∧ op.Describes host u x.1 := by
  intro x hx
  have hnone : x ∉ (World.imported clock).sends := List.not_mem_nil
  obtain ⟨before, op, u, u', hprefix, hu, hstep, hnew, hmem⟩ :=
    Machine.made_by_step (I := fun u => x ∈ u.sends) hr hnone hx
  cases hstep
  exact ⟨before, op, u, hprefix, hu, hnew, hmem, (op.after_sends x hmem).resolve_left hnew⟩

/-- Whatever the calls of a session return or raise, the settings it ends with are those the calls
that configure make, and each transaction carries one of its writes, signed by the account that the
write's signer stands for, to the contract of the chain selected at that moment. -/
theorem session_faithful {clock : Clock} {ops : List SessionOp}
    (hr : (SessionOp.machine host files).run (.imported clock) ops = some w) :
    Faithful host files clock ops w where
  settings := settings_run hr
  sends := by
    intro x hx
    obtain ⟨before, op, u, hprefix, hu, hnew, hmem, hdescribes⟩ := described_run hr x hx
    exact ⟨before, op, u, hprefix, hu, hnew, hmem, settings_run hu, hdescribes⟩

/-! ## The ABIs of the selected chains -/

/-- The write operations that a call may run. -/
def SessionOp.Carries (host : Host) (write : Write) : SessionOp → Prop
  | .config _ | .nonces _ => False
  | .write call _ _ _ => write = call
  | .publishTask info _ _ _ => ∃ config,
      write = .publishTask ⟨info.source, config, info.expiryTime, info.payment⟩
  | .publishSource info _ _ => ∃ account url second,
      write = .publishSource (Client.sourceParams info (host.text account) url second)
  | .updateSource source info _ _ => ∃ account url second,
      write = .updateSource source (Client.sourceParams info (host.text account) url second)

theorem SessionOp.Describes.carries {op : SessionOp} {tx : Tx} (h : op.Describes host w tx) :
    ∃ write signer, op.Carries host write ∧ (write.op host).Describes host signer w tx := by
  cases op with
  | config op => cases h
  | nonces tool => cases h
  | write call via net signer =>
    cases via with
    | none => exact ⟨call, signer, rfl, h⟩
    | some role =>
      obtain ⟨account, -, h⟩ := h
      exact ⟨call, _, rfl, h⟩
  | publishTask info privateKey options net =>
    obtain ⟨account, config, w₁, -, -, h⟩ := h
    exact ⟨.publishTask _, _, ⟨config, rfl⟩, h⟩
  | publishSource info privateKey net =>
    obtain ⟨account, url, w₁, -, -, h⟩ := h
    exact ⟨.publishSource _, _, ⟨account.address, url, _, rfl⟩, h⟩
  | updateSource source info privateKey net =>
    obtain ⟨account, url, w₁, -, -, h⟩ := h
    exact ⟨.updateSource source _, _, ⟨account.address, url, _, rfl⟩, h⟩

/-- The ABI directory of the current chain. -/
def Settings.directory (s : Settings) : Option String :=
  s.current.bind ChainConfig.CHAIN_DIRECTORIES

theorem ConfigOp.settle_directory (op : ConfigOp) {s : Settings} (h : s.directory.isSome = true) :
    (op.settle s).directory.isSome = true := by
  cases op with
  | setChain c =>
    cases c with
    | OGPU_MAINNET => rfl
    | OGPU_TESTNET => rfl
    | other repr => exact h
  | setRpc url chain probe =>
    unfold settle
    dsimp only
    split
    · split
      · exact h
      · exact h
    · exact h
  | resetRpc chain =>
    unfold settle
    dsimp only
    split
    · split
      · exact h
      · exact h
    · exact h
  | _ => exact h

/-- A session is always on a chain that has ABIs. -/
theorem settled_directory (ops : List SessionOp) :
    (settled ops).directory = some "mainnet" ∨ (settled ops).directory = some "testnet" := by
  have hsome : (settled ops).directory.isSome = true := by
    induction ops using List.reverseRecOn with
    | nil => rfl
    | append_singleton ops op ih =>
      rw [settled, List.foldl_append]
      cases op with
      | config op => exact op.settle_directory ih
      | _ => exact ih
  generalize settled ops = s at hsome ⊢
  obtain ⟨_ | (_ | _ | _), urls⟩ := s
  · cases hsome
  · exact .inl rfl
  · exact .inr rfl
  · cases hsome

/-- Each transaction of a session is of one of the writes of the call that broadcast it, and fits
the ABI of the chain selected at that moment. -/
theorem session_fits_abi {clock : Clock} {ops : List SessionOp}
    (hr : (SessionOp.machine host files).run (.imported clock) ops = some w) :
    ∀ x ∈ w.sends, ∃ before op u write directory, before ++ [op] <+: ops ∧
      (SessionOp.machine host files).run (.imported clock) before = some u ∧
      x ∉ u.sends ∧ x ∈ (op.after host files u).sends ∧ op.Carries host write ∧
      (settled before).directory = some directory ∧ write.FitsAbi host directory x.1 := by
  intro x hx
  obtain ⟨before, op, u, hprefix, hu, hnew, hmem, hdescribes⟩ := described_run hr x hx
  obtain ⟨write, signer, hcarries, hdescribes⟩ := hdescribes.carries
  rcases settled_directory before with hdirectory | hdirectory
  · exact ⟨before, op, u, write, _, hprefix, hu, hnew, hmem, hcarries, hdirectory,
      Write.describes_fits hdescribes (.inl rfl)⟩
  · exact ⟨before, op, u, write, _, hprefix, hu, hnew, hmem, hcarries, hdirectory,
      Write.describes_fits hdescribes (.inr rfl)⟩

end

/-- A provider registers on the mainnet, the cached nonces are cleared, the testnet is selected, and
a task published there; a cancellation without a signer is refused. -/
def SessionOp.trial : List SessionOp := [
  .write (.register "0x5" "0x6" 1) (some .agent) .prompt (some (.key "agent")),
  .nonces .clearAllNonceCaches,
  .config (.setChain .OGPU_TESTNET),
  .publishTask (.trial 100) (some (.key "client")) .default .prompt,
  .write (.cancelTask "0x3") none .prompt none]

/-- The world that session ends in. -/
def SessionOp.trialWorld : World :=
  SessionOp.trial.foldl (fun w op => op.after .trial (fun _ _ => some (.arr [])) w)
    (.imported ⟨0, 0⟩)

/-- Two transactions are broadcast, and both are described. -/
theorem session_faithful_trial :
    SessionOp.trialWorld.sends.map (·.1.call.functionName) = ["register", "publishTask"] ∧
      Faithful .trial (fun _ _ => some (.arr [])) ⟨0, 0⟩ SessionOp.trial SessionOp.trialWorld :=
  ⟨by decide +kernel, session_faithful rfl⟩

/-- The transactions of that session fit the ABIs of the two chains. -/
theorem session_fits_abi_trial : SessionOp.trialWorld.sends.length = 2 ∧
    ∀ x ∈ SessionOp.trialWorld.sends, ∃ before op u write directory,
      before ++ [op] <+: SessionOp.trial ∧
        (SessionOp.machine .trial fun _ _ => some (.arr [])).run (.imported ⟨0, 0⟩) before = some u ∧
        x ∉ u.sends ∧ x ∈ (op.after .trial (fun _ _ => some (.arr [])) u).sends ∧
        op.Carries .trial write ∧ (settled before).directory = some directory ∧
        write.FitsAbi .trial directory x.1 :=
  ⟨by decide +kernel,
    @session_fits_abi .trial (fun _ _ => some (.arr [])) SessionOp.trialWorld ⟨0, 0⟩ SessionOp.trial rfl⟩

end OgpuSdk
