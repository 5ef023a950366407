import OgpuSdk.Protocol.Runs

/-!
# Which exceptions leave `execute`

The handlers type every exception of the `try` block (`failure_typed`). What
is outside of it, `_get_web3()` and the reservation, lets an exception out as
it is, so a call raises only the SDK's own errors exactly when those two do.
-/

namespace OgpuSdk

open Prog

/-- The current chain's Web3 instance is there or can be made, or the SDK says in its own words
that no chain is set. -/
def ChainState.connects (s : ChainState) (connected : Except Exc Bool) : Prop :=
  match s.currentChain with
  | none => True
  | some c => (s.web3Instances c).isSome = true ∨
      ∃ url, s.rpcUrls c = some url ∧ url ≠ "" ∧
        (connected = .ok true ∨ ∃ e, connected = .error (.ogpu e))

theorem raised_not_typed (cls text : String) : ¬ (raised cls text).Typed := by
  rintro ⟨e, he⟩
  cases he

theorem getWeb3Instance_typed_iff {connected : Except Exc Bool} {s : ChainState} :
    (∀ e s', (Web3Manager.getWeb3Instance none connected).exec s = (.error e, s') → e.Typed) ↔
      s.connects connected := by
  unfold Web3Manager.getWeb3Instance ChainConfig.target ChainConfig.getCurrentChain
    ChainState.connects
  cases hc : s.currentChain with
  | none => simp [exec_bind, hc, Raised.Typed, OGPUError.raised]
  | some c =>
    cases hi : s.web3Instances c with
    | some web3 => simp [exec_bind, hc, hi]
    | none =>
      simp only [exec_bind, exec_get, hc, hi, exec_pure, Web3Manager.getRpcUrlForChain]
      cases hu : s.rpcUrls c with
      | none => simp [raised_not_typed]
      | some url =>
        by_cases he : url = ""
        · subst he
          simp [raised_not_typed]
        · rcases connected with exc | _ | _
          · simp [he, Raised.Typed, Exc.raised]
          · simp [raised_not_typed]
          · simp [he, exec_map, Except.map]

theorem getWeb3_typed_iff {connected : Reply Bool} {w : World} :
    (∀ e w', (getWeb3 connected).exec w = (.error e, w') → e.Typed) ↔
      w.chain.connects connected.answer := by
  rw [exec_getWeb3, ← getWeb3Instance_typed_iff]
  constructor
  · intro h e s' he
    exact h e _ (by rw [he])
  · intro h e w' he
    rw [Prod.mk.injEq] at he
    exact h e _ (Prod.ext he.1 rfl)

namespace TxExecutor

variable {self : TxExecutor}

/-- The handlers turn an `Exception` into one of the SDK's errors. -/
theorem failure_typed {e : Raised} (he : e.exc.isException = true) (nonce : Nat) :
    (self.failure nonce e).Typed := by
  rcases e with ⟨e | ⟨cls, text⟩, cause⟩
  · exact ⟨e, rfl⟩
  · cases cls with
    | contractLogicError => exact ⟨_, rfl⟩
    | baseException name => simp [Exc.isException] at he
    | _ =>
      unfold failure
      simp only
      split_ifs <;> exact ⟨_, rfl⟩

theorem Raises.isException {net : AttemptNet} (h : net.RaisesOnly (·.isException = true))
    {nonce : Nat} {w w' : World} {broadcast : Bool} {e : Raised}
    (hr : self.Raises net nonce w broadcast e w') : e.exc.isException = true := by
  cases hr with
  | unsent hf =>
    rcases fault_eq_some self net hf with rfl | ⟨exc, hpre, rfl⟩
    · rfl
    · rcases AttemptNet.preSend_eq_some hpre with hb | hs | hc
      · exact h.build exc hb
      · exact h.sign exc hs
      · exact h.check exc hc
  | refused _ hs => exact h.send _ hs
  | unconfirmed _ _ hc =>
    rcases confirmation_error self net h.wait h.receipt hc with ⟨_, _, rfl⟩ | rfl | ⟨exc, hexc, rfl⟩
    · rfl
    · rfl
    · exact hexc

variable {net : Nat → AttemptNet} {connected : Reply Bool} {w : World}

/-- What a call raises is one of the SDK's own errors. -/
def FailsTyped (exe : TxExecutor) (net : Nat → AttemptNet) (connected : Reply Bool)
    (w : World) : Prop :=
  ∀ e w', (exe.execute net connected).exec w = (.error e, w') → e.Typed

/-- `execute` raises only the SDK's own errors exactly when `_get_web3()` does and no attempt's
pending count read raises anything else. -/
theorem execute_typed_iff (hnet : ∀ k, (net k).RaisesOnly (·.isException = true)) :
    self.FailsTyped net connected w ↔
      w.chain.connects connected.answer ∧
        ∀ k s, self.Made net connected w k s → self.expired s.clock.mono = false →
          ∀ exc, (net k).pendingCount.answer = .error exc → ∃ e, exc = .ogpu e := by
  rw [← getWeb3_typed_iff]
  constructor
  · intro h
    refine ⟨fun e w' hw => h e w' (execute_unconnected hw), ?_⟩
    intro k s hm hx exc hp
    exact h _ _ (hm.execute_raised (.unreserved hx hp))
  · rintro ⟨hweb3, hcount⟩ e w' hexec
    have hrun := self.execute_run net connected w
    rw [hexec] at hrun
    generalize hr : (Except.error e, w') = r at hrun
    cases hrun with
    | unconnected hw =>
      cases hr
      exact hweb3 _ _ hw
    | done => cases hr
    | raised hm ha =>
      cases hr
      generalize hr : (Except.error e, w') = r at ha
      cases ha with
      | expired => cases hr; exact ⟨_, rfl⟩
      | unreserved hx hp =>
        cases hr
        exact hcount _ _ hm hx _ hp
      | done => cases hr
      | handled hx hp hraise =>
        rw [Prod.mk.injEq] at hr
        obtain ⟨ho, -⟩ := hr
        unfold outcome at ho
        split at ho
        · cases ho
        · cases ho
          exact failure_typed (hraise.isException (hnet _)) _

theorem execute_typed_prompt :
    trial.FailsTyped (fun _ => .prompt 0) ⟨⟨0, 0⟩, .ok true⟩ (.imported ⟨0, 0⟩) := by
  refine (execute_typed_iff fun _ => AttemptNet.prompt_raisesOnly _ 0).mpr ⟨?_, ?_⟩
  · exact .inr ⟨_, rfl, by decide, .inl rfl⟩
  · rintro _ _ _ _ exc ⟨⟩

/-- The node is reached, and the read of the pending count times out. -/
def unread : AttemptNet :=
  { AttemptNet.prompt 0 with
    pendingCount := ⟨⟨30, 30⟩, .error (.raw ⟨.requestException, "Read timed out."⟩)⟩ }

theorem execute_untyped :
    ¬ trial.FailsTyped (fun _ => unread) ⟨⟨0, 0⟩, .ok true⟩ (.imported ⟨0, 0⟩) := by
  intro h
  obtain ⟨e, he⟩ := h _ _ rfl
  cases he

end TxExecutor

end OgpuSdk
