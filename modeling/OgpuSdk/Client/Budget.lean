import OgpuSdk.Client.Runs
import OgpuSdk.Ipfs.Pace
import OgpuSdk.Protocol.Pace

/-!
# The total budget

Every wait of the upload is clipped to what is left of the budget, so where
RPC calls take no time the upload ends within it. The executor clips its
receipt wait to no less than a second, and its backoffs not at all: a publish
keeps within its budget exactly when every attempt that is made does, which
`publishTask_budget_iff` says in terms of what is left when it is made.
-/

namespace OgpuSdk

open Prog

variable {d : ℚ}

theorem within_getWeb3 {connected : Reply Bool} (h : connected.took.mono = 0) :
    Preserves (World.Within d) (getWeb3 connected) := by
  intro w hw
  rw [exec_getWeb3]
  show (connecting connected w).clock.mono ≤ d
  unfold connecting
  cases w.chain.probes with
  | true =>
    rw [if_pos rfl, World.advance_clock, Clock.advance_mono, h, NNRat.cast_zero, add_zero]
    exact hw
  | false => exact hw

theorem within_chain {α : Type} (x : ChainProg α) : Preserves (World.Within d) (SDK.chain x) :=
  .zoom x fun _ _ hw => hw

theorem within_lift {α : Type} (answer : Except Exc α) :
    Preserves (World.Within d) (SDK.lift answer) :=
  .of_unchanged fun w => SDK.exec_lift_snd w answer

theorem within_loadContract {net : ContractNet} (h : net.connected.took.mono = 0)
    (abiName : String) (address : Option Address) :
    Preserves (World.Within d) (loadContract net abiName address) := by
  unfold loadContract contractAddress
  refine .bind (within_getWeb3 h) fun web3 => .bind (within_chain _) fun abi => .bind ?_
    fun address => .bind (within_lift _) fun _ => .pure _
  split
  · exact .pure _
  · exact within_chain _
  · exact .raise _

/-! ## The whole call -/

namespace Client

/-- Only requests, receipt waits and sleeps take time, and no more than they are given. -/
structure PublishNet.Punctual (net : PublishNet) : Prop where
  posts : ∀ k, (net.posts k).Punctual
  load : net.controller.load.connected.took.mono = 0
  web3 : net.controller.connected.took.mono = 0
  attempts : ∀ k, (net.controller.attempts k).Punctual
  nexus : net.extract.load.connected.took.mono = 0
  extract : net.extract.connected.took.mono = 0
  connected : net.connected.took.mono = 0

variable {keys : Keys} {info : TaskInfo} {privateKey : Option Signer} {options : Options}
  {net : PublishNet} {w : World} {B : ℚ}

theorem within_prepare (hnet : net.Punctual) (hopt : options.totalTimeout = some B) (hB : 0 ≤ B) :
    (((prepare keys info privateKey options net).exec w).2).Within (w.clock.mono + B) := by
  unfold prepare
  rw [exec_bind_ok (SDK.exec_monotonic w)]
  refine Preserves.bind (.of_unchanged (exec_resolveSigner_snd _ _ _)) (fun account => .bind
    (.of_unchanged (exec_checkNotExpired_snd _ _)) fun _ => .bind ?_ fun params => .bind
    (.of_unchanged (exec_checkNotExpired_snd _ _)) fun _ => ?_) w ?_
  · unfold buildTaskParams publishToIpfs
    refine .bind (IpfsPublish.within_run ?_ hnet.posts) fun _ => .pure _
    rw [hopt]
    rfl
  · unfold Controller.executor
    exact .bind (.of_unchanged (exec_resolveSigner_snd _ _ _)) fun _ => .bind
      (within_loadContract hnet.load _ _) fun _ => .pure _
  · show w.clock.mono ≤ w.clock.mono + B
    linarith

theorem within_finish (hnet : net.Punctual) (receipt : Receipt) :
    Preserves (World.Within d) (finish net receipt) := by
  unfold finish Controller.extractTaskAddress
  refine .bind (.bind (within_loadContract hnet.nexus _ _) fun _ => .bind (within_lift _)
    fun tasks => ?_) fun task => .bind (within_getWeb3 hnet.connected) fun _ => .pure _
  cases tasks with
  | nil => exact .raise _
  | cons task _ => exact .bind (within_getWeb3 hnet.extract) fun _ => .pure _

theorem within_execute {exe : TxExecutor} {w₁ : World} (hnet : net.Punctual)
    (hd : exe.deadline = some d) (hw : w₁.Within d)
    (hbudget : ∀ k s, exe.Made net.controller.attempts net.controller.connected w₁ k s →
      exe.InBudget (net.controller.attempts k) d k s) :
    (((exe.execute net.controller.attempts net.controller.connected).exec w₁).2).Within d := by
  have hrun := exe.execute_run net.controller.attempts net.controller.connected w₁
  generalize (exe.execute net.controller.attempts net.controller.connected).exec w₁ = r at hrun
  cases hrun with
  | unconnected hweb3 =>
    have h := within_getWeb3 hnet.web3 w₁ hw
    rw [hweb3] at h
    exact h
  | raised hm ha => exact (ha.mono_le_iff (hnet.attempts _) hd).mpr (hbudget _ _ hm)
  | done hm ha => exact (ha.mono_le_iff (hnet.attempts _) hd).mpr (hbudget _ _ hm)

/-- An attempt that is made ends before the call does. -/
theorem Publishing.inBudget {exe : TxExecutor} {k : Nat} {s : World} (hnet : net.Punctual)
    (hopt : options.totalTimeout = some B)
    (h : Publishing keys info privateKey options net w exe k s)
    (hle : ((publishTask keys info privateKey options net).exec w).2.clock.mono ≤
      w.clock.mono + B) :
    exe.InBudget (net.controller.attempts k) (w.clock.mono + B) k s := by
  obtain ⟨w₁, hp, hm⟩ := h
  have hd : exe.deadline = some (w.clock.mono + B) := by rw [prepare_deadline hp, hopt]; rfl
  have ha := exe.attempt_run (net.controller.attempts k) k s
  have hafter := ((hm.attempt_path_final ha).trans (execute_path_final hp)).clock_le
  exact (ha.mono_le_iff (hnet.attempts k) hd).mp (le_trans hafter hle)

/-- Every attempt of the call's executor keeps within a budget of `B` seconds. -/
def AttemptsInBudget (keys : Keys) (info : TaskInfo) (privateKey : Option Signer)
    (options : Options) (net : PublishNet) (w : World) (B : ℚ) : Prop :=
  ∀ exe k s, Publishing keys info privateKey options net w exe k s →
    exe.InBudget (net.controller.attempts k) (w.clock.mono + B) k s

/-- Where only requests, receipt waits and sleeps take time, a publish ends within its budget
exactly when every attempt of its executor that is made keeps within it. -/
theorem publishTask_budget_iff (hnet : net.Punctual) (hopt : options.totalTimeout = some B)
    (hB : 0 ≤ B) :
    ((publishTask keys info privateKey options net).exec w).2.clock.mono ≤ w.clock.mono + B ↔
      AttemptsInBudget keys info privateKey options net w B := by
  constructor
  · intro hle exe k s h
    exact h.inBudget hnet hopt hle
  · intro h
    have hprepare : (((prepare keys info privateKey options net).exec w).2).Within
        (w.clock.mono + B) := within_prepare hnet hopt hB
    have hexecute : ∀ exe w₁,
        (prepare keys info privateKey options net).exec w = (.ok exe, w₁) →
        (((exe.execute net.controller.attempts net.controller.connected).exec w₁).2).Within
          (w.clock.mono + B) := by
      intro exe w₁ hp
      rw [hp] at hprepare
      refine within_execute hnet ?_ hprepare fun k s hm => h exe k s ⟨w₁, hp, hm⟩
      rw [prepare_deadline hp, hopt]
      rfl
    have hrun : PublishRun keys info privateKey options net w
      ((publishTask keys info privateKey options net).exec w) := publishTask_run
    generalize (publishTask keys info privateKey options net).exec w = r at hrun
    cases hrun with
    | unprepared hp =>
      rw [hp] at hprepare
      exact hprepare
    | failed hp he =>
      have := hexecute _ _ hp
      rw [he] at this
      exact this
    | mined hp he =>
      have := hexecute _ _ hp
      rw [he] at this
      exact within_finish hnet _ _ this

/-! ## Runs of the two kinds -/

theorem PublishNet.prompt_punctual : PublishNet.prompt.Punctual where
  posts := fun _ => ⟨fun _ => le_max_right _ _, fun _ h => Rat.coe_toNNRat _ h⟩
  load := rfl
  web3 := rfl
  attempts := fun _ => AttemptNet.prompt_punctual 0
  nexus := rfl
  extract := rfl
  connected := rfl

theorem PublishNet.underpriced_punctual : PublishNet.underpriced.Punctual :=
  { PublishNet.prompt_punctual with
    attempts := fun
      | 0 => { AttemptNet.prompt_punctual 0 with }
      | _ + 1 => AttemptNet.prompt_punctual 0 }

theorem publishTask_budget_prompt :
    AttemptsInBudget .trial (.trial 60) (some (.key "key"))
      { Options.default with totalTimeout := some 3 } .prompt (.imported ⟨0, 0⟩) 3 :=
  (publishTask_budget_iff PublishNet.prompt_punctual rfl (by decide)).mp (by decide +kernel)

/-- Three seconds are given, the first send is refused at once, and the backoff takes five. -/
theorem not_budget_underpriced :
    PublishNet.underpriced.Punctual ∧
      ¬ ((publishTask .trial (.trial 60) (some (.key "key"))
        { Options.default with totalTimeout := some 3 } .underpriced).exec
          (.imported ⟨0, 0⟩)).2.clock.mono ≤ 0 + 3 :=
  ⟨PublishNet.underpriced_punctual, by decide +kernel⟩

end Client

end OgpuSdk
