import OgpuSdk.Client.Runs
import OgpuSdk.Ipfs.Replies

/-!
# Reply bodies, up to the chain

The config URL of a published task is the link its upload returned. So what a
reply body is taken for is decided at the upload: `replies_iff` puts the upload,
the fetch and the transactions of a publish together.
-/

namespace OgpuSdk

open Prog

/-- The config URL among the arguments of a `publishTask` call. -/
def Tx.config? (tx : Tx) : Option String :=
  match tx.call.args with
  | [.tuple [.str _, .str config, .int _, .int _]] => some config
  | _ => none

/-- A service that answers every upload at once, with this body. -/
def PostNet.answering (body : Json) : PostNet :=
  ⟨fun _ => ⟨⟨0, 0⟩, .ok ⟨201, .ok body⟩⟩, fun seconds => ⟨seconds.toNNRat, seconds⟩⟩

namespace Client

/-- The upload of a publish that starts when the monotonic clock reads `start`. -/
def taskUpload (info : TaskInfo) (options : Options) (start : ℚ) : IpfsPublish where
  file := ⟨"taskConfig.json", .dumped info.config.toDict, "application/json"⟩
  timeout := options.ipfsTimeout
  retries := options.ipfsRetries
  backoff := options.ipfsBackoff
  deadline := options.totalTimeout.map (start + ·)

/-- Every transaction of a publish from `w` carries, as its config URL, the string under `link` in
a reply to the upload. -/
def PinnedOnChain (keys : Keys) (info : TaskInfo) (privateKey : Option Signer) (options : Options)
    (net : PublishNet) (w : World) : Prop :=
  ∀ x ∈ ((publishTask keys info privateKey options net).exec w.blank).2.sends,
    ∃ k s link, (taskUpload info options w.clock.mono).Requested net.posts w.blank k s ∧
      (PostOutcome.pinned link).Is
        ((taskUpload info options w.clock.mono).reply (net.posts k) s) ∧
      x.1.config? = some link

variable {keys : Keys} {info : TaskInfo} {privateKey : Option Signer} {options : Options}
  {net : PublishNet} {w w₁ : World} {exe : TxExecutor}

/-- The executor of a publish is given what the upload returned, and nothing is undone of that. -/
theorem prepare_upload (h : (prepare keys info privateKey options net).exec w = (.ok exe, w₁)) :
    ∃ link w₂, ((taskUpload info options w.clock.mono).run net.posts).exec w = (.ok link, w₂) ∧
      w₂.events <+: w₁.events ∧ exe.call.args =
        [(⟨info.source, link, info.expiryTime, info.payment⟩ : TaskParams).toTuple] := by
  unfold prepare at h
  rw [exec_bind_ok (SDK.exec_monotonic w)] at h
  obtain ⟨account, u, hsigner, h⟩ := exec_bind_eq_ok h
  obtain ⟨_, u', hcheck, h⟩ := exec_bind_eq_ok h
  obtain ⟨params, u₂, hparams, h⟩ := exec_bind_eq_ok h
  obtain ⟨_, u₃, hlate, h⟩ := exec_bind_eq_ok h
  obtain ⟨_, _, hsame, h⟩ := exec_bind_eq_ok h
  obtain ⟨contract, _, hload, h⟩ := exec_bind_eq_ok h
  cases h
  cases hsame
  -- Neither the signer nor the check changes anything before the upload.
  have hu := exec_resolveSigner_snd keys privateKey (some .client) w
  rw [hsigner] at hu
  have hu' := exec_checkNotExpired_snd info.expiryTime "start" u
  rw [hcheck] at hu'
  dsimp only at hu hu'
  subst hu hu'
  obtain ⟨link, w₂, hlink, hpure⟩ := exec_bind_eq_ok hparams
  cases hpure
  have hu₃ := exec_checkNotExpired_snd info.expiryTime "pre-transaction (after IPFS pin)" u₂
  rw [hlate] at hu₃
  dsimp only at hu₃
  subst hu₃
  have hpath : World.Path (fun _ _ => True) u₃
      ((loadContract net.controller.load "ControllerAbi" none).exec u₃).2 :=
    loadContract_keeps _ _ _ u₃
  rw [hload] at hpath
  exact ⟨link, u₃, hlink, hpath.events_isPrefix, rfl⟩

theorem pinnedOnChain_of_publishes
    (h : (taskUpload info options w.clock.mono).PublishesString net.posts w.blank
      (((taskUpload info options w.clock.mono).run net.posts).exec w.blank).1) :
    PinnedOnChain keys info privateKey options net w := by
  have hpath : World.Path (fun _ op => ∀ x, op.send? = some x →
      ∃ k s link, (taskUpload info options w.clock.mono).Requested net.posts w.blank k s ∧
        (PostOutcome.pinned link).Is
          ((taskUpload info options w.clock.mono).reply (net.posts k) s) ∧
        x.1.config? = some link)
      w.blank ((publishTask keys info privateKey options net).exec w.blank).2 := by
    apply publishTask_path
    · intro u timeout _ x hx
      cases hx
    · intro u op hq x hx
      cases op with
      | send => cases hq
      | _ => cases hx
    · intro u address nonce x hx
      cases hx
    · rintro exe k s u tx ⟨w₁, hp, -⟩ hs - x hx
      cases hx
      obtain ⟨link, w₂, hlink, -, hargs⟩ := prepare_upload hp
      obtain ⟨pending, -, -, -, rfl⟩ := TxExecutor.sending_eq_some.mp hs
      have hrun : (((taskUpload info options w.clock.mono).run net.posts).exec w.blank).1 =
          .ok link := congrArg Prod.fst hlink
      obtain ⟨j, t, hrequested, hpinned⟩ := h.returns link hrun
      have hconfig : (exe.tx (exe.issue pending s)).config? = some link := by
        unfold Tx.config?
        rw [show (exe.tx (exe.issue pending s)).call = exe.call from rfl, hargs]
        rfl
      exact ⟨j, t, link, hrequested, hpinned, hconfig⟩
  apply hpath.sends_allowed
  intro x hx
  cases hx

end Client

open Client in
/-- An upload, a fetch and a publish use every reply body as it is declared, or raise one of the
two IPFS errors, exactly when each of their requests gets a usable reply and the uploads can make
the pauses between theirs. -/
theorem replies_iff (data : Content) (filename contentType : String) (timeout : ℚ) (retries : ℤ)
    (backoff : Seconds) (deadline : Option ℚ) (posts : Nat → PostNet) (url : String)
    (get : ℚ → Reply HttpResponse) (keys : Keys) (info : TaskInfo) (privateKey : Option Signer)
    (options : Options) (net : PublishNet) (w : World) :
    let upload : IpfsPublish := ⟨⟨filename, data, contentType⟩, timeout, retries, backoff, deadline⟩
    let config : IpfsPublish := taskUpload info options w.clock.mono
    (upload.PublishesString posts w
      ((publishToIpfs data filename contentType timeout retries backoff deadline posts).exec w).1 ↔
        upload.AnsweredUsably posts w ∧ upload.CanRest posts w) ∧
    (IpfsFetch.FetchesObject (get timeout).answer ((fetchIpfsJson url timeout get).exec w).1 ↔
      IpfsFetch.Usable (get timeout).answer) ∧
    (config.PublishesString net.posts w.blank ((config.run net.posts).exec w.blank).1 ∧
      PinnedOnChain keys info privateKey options net w ↔
        config.AnsweredUsably net.posts w.blank ∧ config.CanRest net.posts w.blank) := by
  intro upload config
  refine ⟨IpfsPublish.run_publishes_iff, ?_, ?_⟩
  · rw [exec_fetchIpfsJson]
    exact IpfsFetch.parsed_iff url _
  · constructor
    · intro h
      exact IpfsPublish.run_publishes_iff.mp h.1
    · intro h
      have hpublishes := IpfsPublish.run_publishes_iff.mpr h
      exact ⟨hpublishes, pinnedOnChain_of_publishes hpublishes⟩

open Client in
/-- An array for a body makes an upload raise `TypeError` and a fetch return the array; a number
under `link` goes on-chain as the config URL of the task. -/
theorem not_replies_misshapen :
    ¬ IpfsPublish.PublishesString
      ⟨⟨"data.json", .raw "", "application/json"⟩, 30, 2, .float (1 / 2), none⟩
      (fun _ => .answering (.arr [.int 1])) (.imported ⟨0, 0⟩)
      ((publishToIpfs (.raw "") "data.json" "application/json" 30 2 (.float (1 / 2)) none
        fun _ => .answering (.arr [.int 1])).exec (.imported ⟨0, 0⟩)).1 ∧
    ¬ IpfsFetch.FetchesObject (.ok ⟨200, .ok (.arr [.int 1])⟩)
      ((fetchIpfsJson "ipfs://a" 30 fun _ => ⟨⟨0, 0⟩, .ok ⟨200, .ok (.arr [.int 1])⟩⟩).exec
        (.imported ⟨0, 0⟩)).1 ∧
    ((publishTask .trial (.trial 60) (some (.key "key")) .default
      { PublishNet.prompt with posts := fun _ => .answering (.obj [("link", .int 5)]) }).exec
        (.imported ⟨0, 0⟩)).2.sends.map (·.1.config?) = [some "5"] ∧
    ¬ PinnedOnChain .trial (.trial 60) (some (.key "key")) .default
      { PublishNet.prompt with posts := fun _ => .answering (.obj [("link", .int 5)]) }
      (.imported ⟨0, 0⟩) := by
  have hsent : ((publishTask .trial (.trial 60) (some (.key "key")) .default
      { PublishNet.prompt with posts := fun _ => .answering (.obj [("link", .int 5)]) }).exec
        (.imported ⟨0, 0⟩)).2.sends.map (·.1.config?) = [some "5"] := by
    decide +kernel
  refine ⟨fun h => ?_, fun h => ?_, hsent, fun h => ?_⟩
  · have htyped := h.raises (raised "TypeError" "list indices must be integers or slices, not str")
      rfl
    cases htyped
  · obtain ⟨fields, hfields, -⟩ := h.returns (.arr [.int 1]) rfl
    cases hfields
  · have hmem : some "5" ∈ [some "5"] := List.mem_singleton.mpr rfl
    rw [← hsent, List.mem_map] at hmem
    obtain ⟨x, hx, -⟩ := hmem
    obtain ⟨k, s, link, -, hpinned, -⟩ := h x hx
    obtain ⟨fields, hjson, hlink⟩ := (IpfsPublish.pinned_iff (.inr rfl)).mp hpinned
    cases hjson
    simp [Json.field?] at hlink

end OgpuSdk
