import OgpuSdk.World

/-!
# Nonces and networks

The nonce cache is keyed by address alone, while which network an address
sends on changes with every `set_chain`, `set_rpc` and `reset_rpc`. Runs here
are sequences of such switches and of calls of the nonce manager; `calls` is
what of a run concerns one address on one network, `answers` what those calls
answer, and `alone` what they would answer if nothing else had happened.
`Undisturbed` runs are those in which each of the calls finds the entry as the
one before left it: there the answers are those of the calls alone.
-/

namespace OgpuSdk

open Prog

/-- A call of the nonce manager for one address, with the pending count it reads. -/
inductive NonceCall where
  | getNonce (forceRefresh : Bool) (pending : Except Exc Nat)
  | reserveNonce (pending : Except Exc Nat)
  | releaseNonce (nonce : Nat)
  | incrementNonce
  | resetNonce
  deriving DecidableEq

namespace NonceCall

/-- The call, with the nonce it hands out. -/
def run (address : Address) : NonceCall → NonceProg (Option Nat)
  | .getNonce forceRefresh pending => do
    pure (some (← NonceManager.getNonce address forceRefresh pending))
  | .reserveNonce pending => do pure (some (← NonceManager.reserveNonce address pending))
  | .releaseNonce nonce => do NonceManager.releaseNonce address nonce; pure none
  | .incrementNonce => do NonceManager.incrementNonce address; pure none
  | .resetNonce => do NonceManager.resetNonce address; pure none

/-- What becomes of the entry. -/
def entry : NonceCall → Counter → Counter
  | .getNonce forceRefresh (.ok pending), c => some (c.refreshed pending forceRefresh)
  | .getNonce _ (.error _), c => c
  | .reserveNonce (.ok pending), c => c.reserve pending
  | .reserveNonce (.error _), c => c
  | .releaseNonce nonce, c => c.release nonce
  | .incrementNonce, c => c.increment
  | .resetNonce, _ => none

def answer : NonceCall → Counter → Except Raised (Option Nat)
  | .getNonce forceRefresh (.ok pending), c => .ok (some (c.refreshed pending forceRefresh))
  | .reserveNonce (.ok pending), c => .ok (some (c.current pending))
  | .getNonce _ (.error exc), _ | .reserveNonce (.error exc), _ => .error exc.raised
  | .releaseNonce _, _ | .incrementNonce, _ | .resetNonce, _ => .ok none

/-- A call reads and writes the entry of its address. -/
theorem exec_run (address : Address) (call : NonceCall) (nonces : Nonces) :
    (call.run address).exec nonces =
      (call.answer (nonces address),
        Function.update nonces address (call.entry (nonces address))) := by
  cases call with
  | getNonce forceRefresh pending =>
    cases pending with
    | ok _ => rfl
    | error _ => rw [entry, Function.update_eq_self]; rfl
  | reserveNonce pending =>
    cases pending with
    | ok _ => rfl
    | error _ => rw [entry, Function.update_eq_self]; rfl
  | _ => rfl

end NonceCall

/-! ## Runs on several networks -/

/-- The URL calls on the current chain go to: that of its instance, or of the one to be made. -/
def ChainState.endpoint (s : ChainState) : Option Url :=
  s.currentChain.bind fun c => (s.web3Instances c).or (s.rpcUrls c)

/-- What changes or uses the network the SDK talks to. -/
inductive NetOp where
  | setChain (chainId : ChainId)
  | setRpc (url : Url) (chain : Option ChainId) (probe : Except Exc Bool)
  | resetRpc (chain : Option ChainId)
  /-- `_get_web3()` -/
  | getWeb3 (connected : Reply Bool)
  | nonce (address : Address) (call : NonceCall)

def NetOp.run : NetOp → SDK (Option Nat)
  | .setChain chainId => do SDK.chain (ChainConfig.setChain chainId); pure none
  | .setRpc url chain probe => do SDK.chain (ChainConfig.setRpc url chain probe); pure none
  | .resetRpc chain => do SDK.chain (ChainConfig.resetRpc chain); pure none
  | .getWeb3 connected => do let _ ← OgpuSdk.getWeb3 connected; pure none
  | .nonce address call => SDK.nonces (call.run address)

/-- The world after an operation, whether it raises or not. -/
def World.after (w : World) (op : NetOp) : World := (op.run.exec w).2

theorem World.after_nonce (w : World) (address : Address) (call : NonceCall) :
    (w.after (.nonce address call)).nonces =
      Function.update w.nonces address (call.entry (w.nonces address)) := by
  unfold after NetOp.run SDK.nonces
  rw [exec_zoom, NonceCall.exec_run]

/-- Switching networks does not touch the nonce cache. -/
theorem World.after_nonces {op : NetOp} (h : ∀ address call, op ≠ .nonce address call)
    (w : World) : (w.after op).nonces = w.nonces := by
  have hpure : ∀ {α : Type} (x : SDK α), (x.exec w).2.nonces = w.nonces →
      ((x >>= fun _ => pure none : SDK (Option Nat)).exec w).2.nonces = w.nonces := by
    intro α x hx
    rw [exec_bind]
    rcases hr : x.exec w with ⟨e | a, w'⟩ <;> rw [hr] at hx <;> exact hx
  cases op with
  | nonce address call => exact absurd rfl (h address call)
  | getWeb3 connected => exact hpure _ (getWeb3_nonces connected w)
  | _ => exact hpure _ rfl

/-- The instance calls are made with talks to the endpoint. -/
theorem getWeb3_endpoint {connected : Reply Bool} {w w' : World} {url : Url}
    (h : (getWeb3 connected).exec w = (.ok url, w')) : w.chain.endpoint = some url := by
  rw [exec_getWeb3, Prod.mk.injEq] at h
  obtain ⟨h, -⟩ := h
  unfold ChainState.endpoint
  unfold Web3Manager.getWeb3Instance ChainConfig.target ChainConfig.getCurrentChain at h
  cases hc : w.chain.currentChain with
  | none => simp [exec_bind, hc] at h
  | some c =>
    cases hi : w.chain.web3Instances c with
    | some web3 =>
      simp [exec_bind, hc, hi] at h
      simp [hi, h]
    | none =>
      cases hu : w.chain.rpcUrls c with
      | none => simp [exec_bind, hc, hi, Web3Manager.getRpcUrlForChain, hu] at h
      | some rpcUrl =>
        by_cases hempty : rpcUrl = ""
        · simp [exec_bind, hc, hi, Web3Manager.getRpcUrlForChain, hu, hempty] at h
        · rcases connected with ⟨took, exc | _ | _⟩ <;>
            simp [exec_bind, exec_map, Except.map, hc, hi, Web3Manager.getRpcUrlForChain, hu] at h
          simp [hi, hu, h]

/-- The network the current chain's endpoint serves. -/
def World.network {N : Type} (serves : Url → N) (w : World) : Option N :=
  w.chain.endpoint.map serves

namespace Networks

variable {N : Type} [DecidableEq N] (serves : Url → N) (n : N) (address : Address)

/-- The call of the nonce manager that `op` makes for `address` with network `n` selected. -/
def callOn (w : World) : NetOp → Option NonceCall
  | .nonce address' call =>
    if address' = address ∧ w.network serves = some n then some call else none
  | _ => none

/-- What of a run concerns `address` on `n`, with the pending counts read there. -/
def calls : World → List NetOp → List NonceCall
  | _, [] => []
  | w, op :: ops => (callOn serves n address w op).toList ++ calls (w.after op) ops

/-- What those calls answer. -/
def answers : World → List NetOp → List (Except Raised (Option Nat))
  | _, [] => []
  | w, op :: ops =>
    ((callOn serves n address w op).map fun _ => (op.run.exec w).1).toList ++
      answers (w.after op) ops

/-- The entries those calls find. -/
def found : World → List NetOp → List Counter
  | _, [] => []
  | w, op :: ops =>
    ((callOn serves n address w op).map fun _ => w.nonces address).toList ++
      found (w.after op) ops

/-- The entries calls find that nothing comes between, from the entry `c` on. -/
def left : Counter → List NonceCall → List Counter
  | _, [] => []
  | c, call :: calls => c :: left (call.entry c) calls

/-- What such calls answer. -/
def alone (c : Counter) (calls : List NonceCall) : List (Except Raised (Option Nat)) :=
  calls.zipWith NonceCall.answer (left c calls)

/-- Each call for `address` on `n` finds the entry as the one before left it, and the first one
finds none. -/
def Undisturbed (w : World) (ops : List NetOp) : Prop :=
  found serves n address w ops = left none (calls serves n address w ops)

instance (w : World) (ops : List NetOp) : Decidable (Undisturbed serves n address w ops) :=
  inferInstanceAs (Decidable (_ = _))

variable {serves n address}

theorem callOn_eq_some {op : NetOp} {w : World} {call : NonceCall}
    (h : callOn serves n address w op = some call) : op = .nonce address call := by
  cases op with
  | nonce address' call' =>
    simp only [callOn] at h
    split at h
    · next hc =>
      cases h
      rw [hc.1]
    · cases h
  | _ => cases h

theorem exec_run_nonce (call : NonceCall) (w : World) :
    ((NetOp.nonce address call).run.exec w).1 = call.answer (w.nonces address) := by
  unfold NetOp.run SDK.nonces
  rw [exec_zoom, NonceCall.exec_run]

/-- A call answers by the entry it finds, and nothing else. -/
theorem answers_eq_zipWith (w : World) (ops : List NetOp) :
    answers serves n address w ops =
      (calls serves n address w ops).zipWith NonceCall.answer (found serves n address w ops) := by
  induction ops generalizing w with
  | nil => rfl
  | cons op ops ih =>
    unfold answers calls found
    cases hcall : callOn serves n address w op with
    | none => exact ih (w.after op)
    | some call =>
      obtain rfl := callOn_eq_some hcall
      simp only [Option.map_some, Option.toList_some, List.singleton_append,
        List.zipWith_cons_cons, exec_run_nonce, ih]

/-- In an undisturbed run the calls answer what they would alone. -/
theorem answers_eq_alone {w : World} {ops : List NetOp} (h : Undisturbed serves n address w ops) :
    answers serves n address w ops = alone none (calls serves n address w ops) := by
  unfold Undisturbed at h
  rw [answers_eq_zipWith, h]
  rfl

/-- Two undisturbed runs that agree on what concerns an address on a network hand out the same
nonces to it there, whatever they do on other networks. -/
theorem answers_eq {w₁ w₂ : World} {ops₁ ops₂ : List NetOp}
    (h₁ : Undisturbed serves n address w₁ ops₁)
    (h₂ : Undisturbed serves n address w₂ ops₂)
    (hcalls : calls serves n address w₁ ops₁ = calls serves n address w₂ ops₂) :
    answers serves n address w₁ ops₁ = answers serves n address w₂ ops₂ := by
  rw [answers_eq_alone h₁, answers_eq_alone h₂, hcalls]

/-- Every call for `address` is made with `n` selected. -/
def OneNetwork (serves : Url → N) (n : N) (address : Address) : World → List NetOp → Prop
  | _, [] => True
  | w, op :: ops => (∀ call, op = .nonce address call → w.network serves = some n) ∧
      OneNetwork serves n address (w.after op) ops

/-- An address that is used on one network only is not disturbed. -/
theorem OneNetwork.undisturbed {w : World} {ops : List NetOp}
    (h : OneNetwork serves n address w ops) (hw : w.nonces address = none) :
    Undisturbed serves n address w ops := by
  unfold Undisturbed
  generalize (none : Counter) = c at hw
  induction ops generalizing w c with
  | nil => rfl
  | cons op ops ih =>
    obtain ⟨hon, hrest⟩ := h
    unfold found calls
    cases op with
    | nonce address' call =>
      by_cases haddress : address' = address
      · subst haddress
        have hcall : callOn serves n address' w (.nonce address' call) = some call :=
          if_pos ⟨rfl, hon call rfl⟩
        have hnext : (w.after (.nonce address' call)).nonces address' = call.entry c := by
          rw [World.after_nonce, Function.update_self, hw]
        rw [hcall, Option.map_some, Option.toList_some, Option.toList_some, List.singleton_append,
          List.singleton_append, left, hw, ih hrest _ hnext]
      · have hcall : callOn serves n address w (.nonce address' call) = none :=
          if_neg fun hc => haddress hc.1
        have hnext : (w.after (.nonce address' call)).nonces address = c := by
          rw [World.after_nonce, Function.update_of_ne (Ne.symm haddress), hw]
        rw [hcall]
        exact ih hrest _ hnext
    | _ =>
      refine ih hrest _ ?_
      rw [World.after_nonces (by simp), hw]

/-! ## A local fork -/

/-- Work on a fork of the testnet, and then a reservation on the testnet itself. -/
def forked (work : List NonceCall) : List NetOp :=
  [.setChain .OGPU_TESTNET, .setRpc "http://127.0.0.1:8545" none (.ok true)] ++
    work.map (.nonce 0x2#160) ++ [.resetRpc none, .nonce 0x2#160 (.reserveNonce (.ok 7))]

/-- Work that ends with a reset leaves the testnet alone. -/
theorem answers_eq_forked :
    answers id "https://testnetrpc.ogpuscan.io" 0x2#160 (.imported ⟨0, 0⟩)
        (forked [.reserveNonce (.ok 7), .resetNonce]) =
      answers id "https://testnetrpc.ogpuscan.io" 0x2#160 (.imported ⟨0, 0⟩) (forked []) :=
  answers_eq (by decide +kernel) (by decide +kernel) (by decide +kernel)

/-- Reservations on the fork move the next one on the testnet. -/
theorem not_isolated :
    ¬ ∀ w₁ w₂ ops₁ ops₂, w₁.nonces 0x2#160 = none → w₂.nonces 0x2#160 = none →
      calls id "https://testnetrpc.ogpuscan.io" 0x2#160 w₁ ops₁ =
        calls id "https://testnetrpc.ogpuscan.io" 0x2#160 w₂ ops₂ →
      answers id "https://testnetrpc.ogpuscan.io" 0x2#160 w₁ ops₁ =
        answers id "https://testnetrpc.ogpuscan.io" 0x2#160 w₂ ops₂ := by
  intro h
  have heq := h (.imported ⟨0, 0⟩) (.imported ⟨0, 0⟩)
    (forked [.reserveNonce (.ok 7), .reserveNonce (.ok 7)]) (forked []) rfl rfl (by decide +kernel)
  revert heq
  decide +kernel

end Networks

end OgpuSdk
