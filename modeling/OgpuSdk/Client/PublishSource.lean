import OgpuSdk.Ipfs.Runs
import OgpuSdk.Protocol.PostBroadcast
import OgpuSdk.Protocol.WriteRuns

/-!
# `client.publish_source` and `client.update_source`

Both resolve the signer, upload the metadata of the source, put the on-chain
parameters together and send one Nexus operation: `submit`. A run has two
phases, an upload that spends nothing and a transaction that uploads nothing,
and every transaction of the second carries what came out of the first:
`Submitted`.
-/

namespace OgpuSdk

open Prog

/-- What the outside answers to `extract_source_address`. -/
structure Nexus.ExtractNet where
  load : ContractNet
  /-- the sources of the `SourcePublished` events among logs -/
  processReceipt : List Json → Except Exc (List Address)
  connected : Reply Bool

def Nexus.extractSourceAddress (net : ExtractNet) (receipt : Receipt) : SDK Address := do
  let _ ← loadContract net.load "NexusAbi" none
  match ← SDK.lift (net.processReceipt receipt.logs) with
  | [] => raise (raised "ValueError" "SourcePublished event not found in receipt logs")
  | source :: _ => do
    let _ ← getWeb3 net.connected
    pure source

def SourceInfo.metadata (info : SourceInfo) : SourceMetadata where
  cpu := info.imageEnvs.cpu
  nvidia := info.imageEnvs.nvidia
  amd := info.imageEnvs.amd
  name := info.name
  description := info.description
  logoUrl := info.logoUrl

namespace Client

def buildSourceParams (info : SourceInfo) (clientAddress : String) (net : Nat → PostNet) :
    SDK SourceParams := do
  let metadataUrl ← publishToIpfs (.dumped info.metadata.toDict) "imageMetadata.json"
    "application/json" 30 2 (.float (1 / 2)) none net
  pure {
    client := clientAddress
    imageMetadataUrl := metadataUrl
    imageEnvironments := info.imageEnvs.combined
    minPayment := info.minPayment
    minAvailableLockup := info.minAvailableLockup
    maxExpiryDuration := info.maxExpiryDuration
    privacyEnabled := false
    optionalParamsUrl := ""
    deliveryMethod := info.deliveryMethod.value
    lastUpdateTime := ← SDK.second }

/-- What the outside answers to `publish_source` or `update_source`. -/
structure SourceNet where
  posts : Nat → PostNet
  write : WriteNet
  extract : Nexus.ExtractNet
  /-- a probe for the instance `Source` checksums with -/
  connected : Reply Bool

/-- A service, a node and a chain that answer at once, and do what they are asked. -/
def SourceNet.prompt : SourceNet where
  posts := fun _ => ⟨fun _ => ⟨⟨0, 0⟩, .ok ⟨201, .ok (.obj [("link", .str "ipfs://source")])⟩⟩,
    fun seconds => ⟨seconds.toNNRat, seconds⟩⟩
  write := .prompt
  extract := ⟨.prompt, fun _ => .ok [0x4#160], ⟨⟨0, 0⟩, .ok true⟩⟩
  connected := ⟨⟨0, 0⟩, .ok true⟩

section

variable (host : Host) (info : SourceInfo) (privateKey : Option Signer) (net : SourceNet)

def publishSource : SDK Source := do
  let account ← resolveSigner host.keys privateKey (some .client)
  let params ← buildSourceParams info (host.text account.address) net.posts
  let receipt ← (Nexus.publishSource params).run host net.write (some (.account account))
  let addr ← Nexus.extractSourceAddress net.extract receipt
  let _ ← getWeb3 net.connected
  pure ⟨addr⟩

def updateSource (source : String) : SDK Receipt := do
  let account ← resolveSigner host.keys privateKey (some .client)
  let params ← buildSourceParams info (host.text account.address) net.posts
  (Nexus.updateSource source params).run host net.write (some (.account account))

/-- What the two have in common. -/
def submit (op : SourceParams → WriteOp) : SDK Receipt := do
  let account ← resolveSigner host.keys privateKey (some .client)
  let params ← buildSourceParams info (host.text account.address) net.posts
  (op params).run host net.write (some (.account account))

/-- What `publish_source` does after the transaction. -/
def wrapSource (receipt : Receipt) : SDK Source := do
  let addr ← Nexus.extractSourceAddress net.extract receipt
  let _ ← getWeb3 net.connected
  pure ⟨addr⟩

theorem publishSource_eq :
    publishSource host info privateKey net =
      submit host info privateKey net Nexus.publishSource >>= wrapSource net := by
  unfold publishSource submit wrapSource
  simp only [bind_assoc]

end

/-! ## Runs -/

/-- The upload of a source's metadata. -/
def metadataUpload (info : SourceInfo) : IpfsPublish where
  file := ⟨"imageMetadata.json", .dumped info.metadata.toDict, "application/json"⟩
  timeout := 30
  retries := 2
  backoff := .float (1 / 2)
  deadline := none

/-- The parameters of a source with this metadata URL, put together at this second. -/
def sourceParams (info : SourceInfo) (client url : String) (second : ℤ) : SourceParams where
  client := client
  imageMetadataUrl := url
  imageEnvironments := info.imageEnvs.combined
  minPayment := info.minPayment
  minAvailableLockup := info.minAvailableLockup
  maxExpiryDuration := info.maxExpiryDuration
  privacyEnabled := false
  optionalParamsUrl := ""
  deliveryMethod := info.deliveryMethod.value
  lastUpdateTime := second

/-- What a submission from `w` has done when it leaves `w'`, whether it returns or raises. -/
structure Submitted (host : Host) (info : SourceInfo) (privateKey : Option Signer)
    (net : SourceNet) (op : SourceParams → WriteOp) (w w' : World) : Prop where
  /-- First the metadata is uploaded and nothing spent, then nothing is uploaded. -/
  phases : ∃ uploads rest, w'.events = w.events ++ uploads ++ rest ∧
    (∀ e ∈ uploads, e.op.spends = false ∧
      ∀ x, e.op.post? = some x → x.1 = (metadataUpload info).file) ∧
    ∀ e ∈ rest, e.op.post? = none
  /-- A transaction is signed by the account the signer stands for, names it as the client, and
  carries the link that the upload of this call returned, of which nothing is undone. -/
  sends : ∀ x ∈ w'.sends, x ∈ w.sends ∨ ∃ account url w₁,
    Signs host.keys privateKey (some .client) account ∧
    ((metadataUpload info).run net.posts).exec w = (.ok url, w₁) ∧ w₁.events <+: w'.events ∧
    (op (sourceParams info (host.text account.address) url w₁.clock.second)).Describes host
      (some (.account account)) w x.1

end Client

/-- What is done on a path is allowed, whatever the world. -/
theorem World.Path.events_append {Q : Op → Prop} {w w' : World}
    (h : World.Path (fun _ => Q) w w') :
    ∃ es, w'.events = w.events ++ es ∧ ∀ e ∈ es, Q e.op := by
  refine h.events_inv (I := fun events => ∃ es, events = w.events ++ es ∧ ∀ e ∈ es, Q e.op) ?_
    ⟨[], (List.append_nil _).symm, by simp⟩
  rintro u op hop ⟨es, hes, hall⟩
  refine ⟨es ++ [⟨u.clock, op⟩], ?_, ?_⟩
  · rw [World.record_events, hes, List.append_assoc]
  · intro e he
    rcases List.mem_append.mp he with he | he
    · exact hall e he
    · rw [List.mem_singleton.mp he]
      exact hop

/-- An upload preserves what neither time nor what is recorded touches. -/
theorem IpfsPublish.preserves_run {I : World → Prop} (hadvance : ∀ w e, I w → I (w.advance e))
    (hrecord : ∀ w op, I w → I (w.record op)) (self : IpfsPublish) (net : Nat → PostNet) :
    Preserves I (self.run net) := by
  have hmonotonic : Preserves I SDK.monotonic := .of_unchanged fun _ => rfl
  have helapse : ∀ e, Preserves I (SDK.elapse e) := fun e w => hadvance w e
  have hpause : ∀ (net : PostNet) (k : Nat), Preserves I (self.pause net k) := by
    intro net k
    refine .bind hmonotonic fun now => .bind (.of_unchanged fun w => SDK.exec_lift_snd w _) fun seconds => ?_
    split
    · split
      · exact .raise _
      · exact .bind (fun w => hrecord w _) fun _ => helapse _
    · exact .pure ()
  refine .loop (fun k lastError => .bind hmonotonic fun now => ?_) ?_ _ _ _
  · dsimp only
    split
    · exact .pure _
    · refine .bind (fun w => hrecord w _) fun _ => .bind (helapse _) fun _ => ?_
      unfold conclude
      split
      · exact .raise _
      · exact .pure _
      · split
        · exact .bind (hpause _ _) fun _ => .pure _
        · exact .pure _
  · intro lastError
    rcases lastError with _ | text | statusCode <;> exact .raise _

/-- An upload leaves the chain configuration alone. -/
theorem IpfsPublish.onChain_run {J : ChainState → Prop} (self : IpfsPublish)
    (net : Nat → PostNet) : Preserves (OnChain J) (self.run net) :=
  self.preserves_run (fun _ _ h => h) (fun _ _ h => h) net

namespace WriteOp

/-- A run of an operation uploads nothing. -/
theorem run_uploads_nothing (op : WriteOp) (host : Host) (net : WriteNet)
    (signer : Option Signer) : SDK.Keeps (fun _ op => op.post? = none) (op.run host net signer) := by
  intro w
  have hkeeps : World.Path (fun _ op => op.post? = none) w
      ((op.executor host net signer).exec w).2 := op.executor_keeps host net signer w
  unfold run
  rcases he : (op.executor host net signer).exec w with ⟨e | exe, w₁⟩
  · rw [he] at hkeeps
    rw [exec_bind_error he]
    exact hkeeps
  · rw [he] at hkeeps
    rw [exec_bind_ok he]
    refine hkeeps.trans (exe.execute_path ?_ (fun _ _ _ => rfl) fun _ _ _ _ _ _ _ => rfl)
    intro u op hq
    cases op with
    | post => cases hq
    | _ => rfl

end WriteOp

namespace Client

variable {host : Host} {info : SourceInfo} {privateKey : Option Signer} {net : SourceNet}
  {op : SourceParams → WriteOp} {w : World}

theorem exec_buildSourceParams (info : SourceInfo) (client : String) (net : Nat → PostNet)
    (w : World) :
    (buildSourceParams info client net).exec w =
      match ((metadataUpload info).run net).exec w with
      | (.ok url, w₁) => (.ok (sourceParams info client url w₁.clock.second), w₁)
      | (.error e, w₁) => (.error e, w₁) := by
  unfold buildSourceParams publishToIpfs metadataUpload
  rw [exec_bind]
  rcases (IpfsPublish.run _ net).exec w with ⟨e | url, w₁⟩ <;> rfl

theorem submit_submitted :
    Submitted host info privateKey net op w
      ((submit host info privateKey net op).exec w).2 := by
  have hupload : World.Path (fun _ op => op.spends = false ∧
      ∀ x, op.post? = some x → x.1 = (metadataUpload info).file) w
      (((metadataUpload info).run net.posts).exec w).2 := by
    refine IpfsPublish.run_keeps (fun u _ => ⟨rfl, ?_⟩) (fun u seconds => ⟨rfl, ?_⟩) _ w
    · rintro x ⟨⟩
      rfl
    · rintro x ⟨⟩
  have hchain : w.chain = ((((metadataUpload info).run net.posts).exec w).2).chain :=
    (IpfsPublish.onChain_run (J := (w.chain = ·)) _ _) w rfl
  unfold submit
  rcases hsigner : (resolveSigner host.keys privateKey (some .client)).exec w with
    ⟨e | account, w₀⟩
  · have hw₀ := exec_resolveSigner_snd host.keys privateKey (some .client) w
    rw [hsigner] at hw₀
    dsimp only at hw₀
    subst hw₀
    rw [exec_bind_error hsigner]
    exact ⟨⟨[], [], by simp, by simp, by simp⟩, fun x hx => .inl hx⟩
  obtain ⟨hsigns, rfl⟩ := signs_of_exec hsigner
  rw [exec_bind_ok hsigner, exec_bind, exec_buildSourceParams]
  obtain ⟨uploads, huploads, hall⟩ := hupload.events_append
  have hsends : (((metadataUpload info).run net.posts).exec w₀).2.sends = w₀.sends := by
    refine World.Path.sends_eq (IpfsPublish.run_keeps ?_ ?_ _ w₀)
    · exact fun _ _ => rfl
    · exact fun _ _ => rfl
  rcases hurl : ((metadataUpload info).run net.posts).exec w₀ with ⟨e | url, w₁⟩
  · rw [hurl] at huploads hsends
    dsimp only at huploads hsends ⊢
    exact ⟨⟨uploads, [], by simp [huploads], hall, by simp⟩, fun x hx => .inl (hsends ▸ hx)⟩
  · rw [hurl] at huploads hsends hchain
    dsimp only at huploads hsends hchain ⊢
    obtain ⟨rest, hrest, hnone⟩ := ((op (sourceParams info (host.text account.address) url
      w₁.clock.second)).run_uploads_nothing host net.write (some (.account account)) w₁).events_append
    refine ⟨⟨uploads, rest, by rw [hrest, huploads], hall, hnone⟩, ?_⟩
    intro x hx
    rcases WriteOp.run_sends x hx with hx | ⟨hsender, hcontract, hcall⟩
    · exact .inl (hsends ▸ hx)
    · exact .inr ⟨account, url, w₁, hsigns, hurl, ⟨rest, hrest.symm⟩, hsender,
        by rw [hchain]; exact hcontract, hcall⟩

theorem wrapSource_keeps {P : World → Op → Prop} (receipt : Receipt) :
    SDK.Keeps P (wrapSource net receipt) := by
  unfold wrapSource Nexus.extractSourceAddress
  refine .bind (.bind (loadContract_keeps _ _ _) fun _ => .bind (.lift _) fun sources => ?_)
    fun addr => .bind (keeps_getWeb3 _) fun _ => .pure _
  cases sources with
  | nil => exact .raise _
  | cons source _ => exact .bind (keeps_getWeb3 _) fun _ => .pure _

theorem publishSource_submitted :
    Submitted host info privateKey net Nexus.publishSource w
      ((publishSource host info privateKey net).exec w).2 := by
  rw [publishSource_eq, exec_bind]
  have h : Submitted host info privateKey net Nexus.publishSource w
      ((submit host info privateKey net Nexus.publishSource).exec w).2 := submit_submitted
  generalize (submit host info privateKey net Nexus.publishSource).exec w = r at h
  rcases r with ⟨e | receipt, w₁⟩
  · exact h
  · -- Wrapping the receipt does nothing that is recorded.
    have hkeeps : SDK.Keeps (fun _ _ => False) (wrapSource net receipt) := wrapSource_keeps receipt
    obtain ⟨es, hes, hnone⟩ := (hkeeps w₁).events_append
    obtain rfl : es = [] := List.eq_nil_iff_forall_not_mem.mpr hnone
    rw [List.append_nil] at hes
    refine ⟨?_, ?_⟩
    · rw [hes]
      exact h.phases
    · unfold World.sends
      rw [hes]
      exact h.sends

/-- Publishing a source and updating one are two phases, and what is broadcast in the second is
what came out of the first. -/
theorem source_submitted :
    Submitted host info privateKey net Nexus.publishSource w
        ((publishSource host info privateKey net).exec w).2 ∧
      ∀ source, Submitted host info privateKey net (Nexus.updateSource source) w
        ((updateSource host info privateKey net source).exec w).2 :=
  ⟨publishSource_submitted, fun _ => submit_submitted⟩

end Client

end OgpuSdk
