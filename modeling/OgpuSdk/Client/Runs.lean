import OgpuSdk.Client.PublishTask
import OgpuSdk.Protocol.Runs
import Mathlib.Tactic.Linarith

/-!
# Runs of `publish_task`

What the parts of a publish may do: the upload posts only while time is left,
with a timeout no longer than that; everything around the executor sends
nothing. `Publishing` is the relation "attempt `k` of the call's executor is
made, in this world", and the facts about attempts lift to the whole call.
-/

namespace OgpuSdk

open Prog

variable {P : World → Op → Prop}

theorem IpfsPublish.conclude_keeps {self : IpfsPublish} (hsleep : ∀ u seconds, P u (.sleep seconds))
    (net : PostNet) (k : Nat) (answer : Except Exc HttpResponse) :
    SDK.Keeps P (self.conclude net k answer) := by
  have hpause : SDK.Keeps P (self.pause net k) := by
    unfold pause
    refine .bind .monotonic fun now => .bind (.lift _) fun seconds => ?_
    split
    · split
      · exact .raise _
      · exact .sleep _ (fun u => hsleep u _)
    · exact .pure ()
  unfold conclude
  split
  · exact .raise _
  · exact .pure _
  · split
    · exact .bind hpause fun _ => .pure _
    · exact .pure _

theorem IpfsPublish.attempt_keeps {self : IpfsPublish} (hpost : ∀ u,
      self.exhausted u.clock.mono = false →
      P u (.post self.file (self.effectiveTimeout u.clock.mono)))
    (hsleep : ∀ u seconds, P u (.sleep seconds)) (net : PostNet) (k : Nat)
    (lastError : Option LastError) : SDK.Keeps P (self.attempt net k lastError) := by
  intro w
  unfold attempt
  rw [exec_bind_ok (SDK.exec_monotonic w)]
  cases hx : self.exhausted w.clock.mono with
  | true => exact .refl
  | false =>
    simp only [Bool.false_eq_true, if_false]
    rw [exec_bind_ok (SDK.exec_record _ _), exec_bind_ok (SDK.exec_elapse _ _)]
    exact (World.Path.advance _ (.record .refl (hpost w hx))).trans (conclude_keeps hsleep _ _ _ _)

theorem IpfsPublish.run_keeps {self : IpfsPublish} (hpost : ∀ u,
      self.exhausted u.clock.mono = false →
      P u (.post self.file (self.effectiveTimeout u.clock.mono)))
    (hsleep : ∀ u seconds, P u (.sleep seconds)) (net : Nat → PostNet) :
    SDK.Keeps P (self.run net) := by
  refine .loop (fun k lastError => attempt_keeps hpost hsleep (net k) k lastError) ?_ _ _ _
  intro lastError
  rcases lastError with _ | text | statusCode <;> exact .raise _

/-- Resolving a signer changes nothing. -/
theorem exec_resolveSigner_snd (keys : Keys) (signer : Option Signer) (role : Option Role)
    (w : World) : ((resolveSigner keys signer role).exec w).2 = w := by
  have hinvalid : ∀ reason exc,
      ((invalidSigner reason exc : SDK Account).exec w).2 = w := by
    intro reason exc
    unfold invalidSigner
    split <;> rfl
  unfold resolveSigner
  rcases signer with _ | text | account | typeName
  · cases role with
    | none => rfl
    | some role =>
      dsimp only
      split
      · rfl
      · split
        · rfl
        · exact hinvalid _ _
  · dsimp only
    split
    · rfl
    · exact hinvalid _ _
  · rfl
  · rfl

theorem loadContract_keeps (net : ContractNet) (abiName : String) (address : Option Address) :
    SDK.Keeps P (loadContract net abiName address) := by
  unfold loadContract
  refine .bind (keeps_getWeb3 _) fun web3 => .bind (.chain _) fun abi => .bind ?_ fun address =>
    .bind (.lift _) fun _ => .pure _
  unfold contractAddress
  split
  · exact .pure _
  · exact .chain _
  · exact .raise _

namespace Client

variable (keys : Keys) (info : TaskInfo) (privateKey : Option Signer) (options : Options)
  (net : PublishNet)

theorem exec_checkNotExpired_snd (expiryTime : ℤ) (stage : String) (w : World) :
    ((checkNotExpired expiryTime stage).exec w).2 = w := by
  unfold checkNotExpired
  rw [exec_bind_ok (SDK.exec_second w)]
  split <;> rfl

/-- Nothing is sent before the executor runs. -/
theorem prepare_keeps {keys : Keys} {info : TaskInfo} {privateKey : Option Signer}
    {options : Options} {net : PublishNet} {w : World}
    (hpost : ∀ u timeout, (∀ B, options.totalTimeout = some B →
        u.clock.mono < w.clock.mono + B ∧ timeout ≤ w.clock.mono + B - u.clock.mono) →
      P u (.post ⟨"taskConfig.json", .dumped info.config.toDict, "application/json"⟩ timeout))
    (hsleep : ∀ u seconds, P u (.sleep seconds)) :
    World.Path P w ((prepare keys info privateKey options net).exec w).2 := by
  unfold prepare
  rw [exec_bind_ok (SDK.exec_monotonic w)]
  refine SDK.Keeps.bind (.of_unchanged (exec_resolveSigner_snd _ _ _)) (fun account => .bind
    (.of_unchanged (exec_checkNotExpired_snd _ _)) fun _ => .bind ?_ fun params => .bind
    (.of_unchanged (exec_checkNotExpired_snd _ _)) fun _ => ?_) w
  · unfold buildTaskParams publishToIpfs
    refine .bind (IpfsPublish.run_keeps ?_ hsleep _) fun _ => .pure _
    intro u hx
    refine hpost u _ fun B hB => ?_
    simp only [IpfsPublish.exhausted, IpfsPublish.effectiveTimeout, hB, Option.map_some,
      Option.any_some, decide_eq_false_iff_not, not_le] at hx ⊢
    exact ⟨by linarith, min_le_right _ _⟩
  · unfold Controller.executor
    exact .bind (.of_unchanged (exec_resolveSigner_snd _ _ _)) fun _ => .bind
      (loadContract_keeps _ _ _) fun _ => .pure _

theorem finish_keeps (receipt : Receipt) : SDK.Keeps P (finish net receipt) := by
  unfold finish Controller.extractTaskAddress
  refine .bind (.bind (loadContract_keeps _ _ _) fun _ => .bind (.lift _) fun tasks => ?_)
    fun task => .bind (keeps_getWeb3 _) fun _ => .pure _
  cases tasks with
  | nil => exact .raise _
  | cons task _ => exact .bind (keeps_getWeb3 _) fun _ => .pure _

section

variable {keys : Keys} {info : TaskInfo} {privateKey : Option Signer} {options : Options}
  {net : PublishNet} {w w₁ : World} {exe : TxExecutor}

/-- The executor of a publish shares the deadline of the call. -/
theorem prepare_deadline (h : (prepare keys info privateKey options net).exec w = (.ok exe, w₁)) :
    exe.deadline = options.totalTimeout.map (w.clock.mono + ·) := by
  unfold prepare at h
  rw [exec_bind_ok (SDK.exec_monotonic w)] at h
  obtain ⟨account, _, -, h⟩ := exec_bind_eq_ok h
  obtain ⟨_, _, -, h⟩ := exec_bind_eq_ok h
  obtain ⟨params, _, -, h⟩ := exec_bind_eq_ok h
  obtain ⟨_, _, -, h⟩ := exec_bind_eq_ok h
  obtain ⟨_, _, -, h⟩ := exec_bind_eq_ok h
  obtain ⟨_, _, -, h⟩ := exec_bind_eq_ok h
  rw [exec_pure, Prod.mk.injEq] at h
  obtain ⟨h, -⟩ := h
  cases h
  rfl

/-- The ways a publish goes. -/
inductive PublishRun (keys : Keys) (info : TaskInfo) (privateKey : Option Signer)
    (options : Options) (net : PublishNet) (w : World) : Except Raised Address × World → Prop where
  | unprepared {e : Raised} {w' : World} :
      (prepare keys info privateKey options net).exec w = (.error e, w') →
      PublishRun keys info privateKey options net w (.error e, w')
  | failed {exe : TxExecutor} {w₁ w' : World} {e : Raised} :
      (prepare keys info privateKey options net).exec w = (.ok exe, w₁) →
      (exe.execute net.controller.attempts net.controller.connected).exec w₁ = (.error e, w') →
      PublishRun keys info privateKey options net w (.error e, w')
  | mined {exe : TxExecutor} {w₁ w₂ : World} {receipt : Receipt} :
      (prepare keys info privateKey options net).exec w = (.ok exe, w₁) →
      (exe.execute net.controller.attempts net.controller.connected).exec w₁ = (.ok receipt, w₂) →
      PublishRun keys info privateKey options net w ((finish net receipt).exec w₂)

theorem publishTask_run :
    PublishRun keys info privateKey options net w
      ((publishTask keys info privateKey options net).exec w) := by
  rw [publishTask_eq]
  rcases hp : (prepare keys info privateKey options net).exec w with ⟨e | exe, w₁⟩
  · rw [exec_bind_error hp]
    exact .unprepared hp
  · rw [exec_bind_ok hp]
    rcases he : (exe.execute net.controller.attempts net.controller.connected).exec w₁ with
      ⟨e | receipt, w₂⟩
    · rw [exec_bind_error he]
      exact .failed hp he
    · rw [exec_bind_ok he]
      exact .mined hp he

/-- The call made in `w` prepares `exe`, and makes its attempt `k` in the world `s`. -/
def Publishing (keys : Keys) (info : TaskInfo) (privateKey : Option Signer) (options : Options)
    (net : PublishNet) (w : World) (exe : TxExecutor) (k : Nat) (s : World) : Prop :=
  ∃ w₁, (prepare keys info privateKey options net).exec w = (.ok exe, w₁) ∧
    exe.Made net.controller.attempts net.controller.connected w₁ k s

/-- What the upload and the attempts that are made may do, the call may do. -/
theorem publishTask_path
    (hpost : ∀ u timeout, (∀ B, options.totalTimeout = some B →
        u.clock.mono < w.clock.mono + B ∧ timeout ≤ w.clock.mono + B - u.clock.mono) →
      P u (.post ⟨"taskConfig.json", .dumped info.config.toDict, "application/json"⟩ timeout))
    (hq : ∀ u op, op.quiet = true → P u op)
    (hreserve : ∀ u address nonce, P u (.reserve address nonce))
    (hsend : ∀ exe k s u tx, Publishing keys info privateKey options net w exe k s →
      exe.sending (net.controller.attempts k) s = some tx →
      u.clock = TxExecutor.sendClock (net.controller.attempts k) s.clock →
      P u (.send tx (net.controller.attempts k).send)) :
    World.Path P w ((publishTask keys info privateKey options net).exec w).2 := by
  have hprepare : World.Path P w ((prepare keys info privateKey options net).exec w).2 :=
    prepare_keeps hpost fun u seconds => hq u (.sleep seconds) rfl
  have hexecute : ∀ exe w₁, (prepare keys info privateKey options net).exec w = (.ok exe, w₁) →
      World.Path P w₁
        ((exe.execute net.controller.attempts net.controller.connected).exec w₁).2 :=
    fun exe w₁ hp => exe.execute_path hq hreserve fun k s u tx hm =>
      hsend exe k s u tx ⟨w₁, hp, hm⟩
  have hrun : PublishRun keys info privateKey options net w
    ((publishTask keys info privateKey options net).exec w) := publishTask_run
  generalize (publishTask keys info privateKey options net).exec w = r at hrun
  cases hrun with
  | unprepared hp =>
    rw [hp] at hprepare
    exact hprepare
  | failed hp he =>
    rw [hp] at hprepare
    have h := hexecute _ _ hp
    rw [he] at h
    exact hprepare.trans h
  | mined hp he =>
    rw [hp] at hprepare
    have h := hexecute _ _ hp
    rw [he] at h
    exact (hprepare.trans h).trans (finish_keeps _ _ _)

/-- The executor does nothing that the rest of the call undoes. -/
theorem execute_path_final {w₁ : World}
    (hp : (prepare keys info privateKey options net).exec w = (.ok exe, w₁)) :
    World.Path (fun _ _ => True)
      ((exe.execute net.controller.attempts net.controller.connected).exec w₁).2
      ((publishTask keys info privateKey options net).exec w).2 := by
  have hrun : PublishRun keys info privateKey options net w
    ((publishTask keys info privateKey options net).exec w) := publishTask_run
  generalize (publishTask keys info privateKey options net).exec w = r at hrun
  cases hrun with
  | unprepared hp' => rw [hp] at hp'; cases hp'
  | failed hp' he =>
    cases hp.symm.trans hp'
    rw [he]
    exact .refl
  | mined hp' he =>
    cases hp.symm.trans hp'
    rw [he]
    exact finish_keeps _ _ _

/-- The send of an attempt is among the events of the call. -/
theorem Publishing.mem_events {k : Nat} {s : World} {tx : Tx}
    (h : Publishing keys info privateKey options net w exe k s)
    (hs : exe.sending (net.controller.attempts k) s = some tx) :
    ⟨TxExecutor.sendClock (net.controller.attempts k) s.clock,
      .send tx (net.controller.attempts k).send⟩ ∈
        ((publishTask keys info privateKey options net).exec w).2.events := by
  obtain ⟨w₁, hp, hm⟩ := h
  exact (execute_path_final hp).events_isPrefix.subset (hm.mem_events hs)

end

end Client

end OgpuSdk
