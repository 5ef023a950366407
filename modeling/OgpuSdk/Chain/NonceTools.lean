import OgpuSdk.Chain.FixNonce
import OgpuSdk.Lib.Invariant

/-!
# Looking at the nonce cache, and emptying it

Besides `fix_nonce`, a user has three helpers: `get_nonce_info` reads the
counts of the chain and the cached nonce of an account, `reset_nonce_cache`
forgets the cached nonce of one account and `clear_all_nonce_caches` those of
all. The first two want a key even when they are given an address.
-/

namespace OgpuSdk

open Prog

/-- What `get_nonce_info` returns. -/
structure NonceInfo where
  address : Address
  minedNonce : Nat
  pendingNonce : Nat
  cachedNonce : Counter
  hasPending : Bool
  pendingCount : ℤ

/-- What the outside answers to `get_nonce_info`. -/
structure InfoNet where
  connected : Reply Bool
  mined : Address → Reply Nat
  pending : Address → Reply Nat

/-- The account that is meant: the one given, or that of the key. The key is wanted in any case. -/
def accountMeant (keys : Keys) (address : Option Address) (privateKey : Option String) :
    SDK Address :=
  match requirePrivateKey keys privateKey with
  | .error raised => raise raised
  | .ok privateKey =>
    match keys.fromKey privateKey with
    | .ok acc => pure (address.getD acc.address)
    | .error exc => raise (Exc.raw exc).raised

def getNonceInfo (keys : Keys) (address : Option Address) (privateKey : Option String)
    (net : InfoNet) : SDK NonceInfo := do
  let address ← accountMeant keys address privateKey
  let _ ← getWeb3 net.connected
  let minedNonce ← SDK.await (net.mined address)
  let pendingNonce ← SDK.await (net.pending address)
  let cachedNonce ← SDK.nonces (NonceManager.getCachedNonce address)
  pure {
    address := address
    minedNonce := minedNonce
    pendingNonce := pendingNonce
    cachedNonce := cachedNonce
    hasPending := minedNonce < pendingNonce
    pendingCount := pendingNonce - minedNonce }

def resetNonceCache (keys : Keys) (address : Option Address) (privateKey : Option String)
    (connected : Reply Bool) : SDK Unit := do
  let address ← accountMeant keys address privateKey
  let _ ← getWeb3 connected
  SDK.record (.reset address)
  SDK.nonces (NonceManager.resetNonce address)

def clearAllNonceCaches : SDK Unit := SDK.nonces NonceManager.clearAll

/-- The helpers, as calls. -/
inductive NonceTool where
  | getNonceInfo (address : Option Address) (privateKey : Option String) (net : InfoNet)
  | resetNonceCache (address : Option Address) (privateKey : Option String)
      (connected : Reply Bool)
  | clearAllNonceCaches

def NonceTool.run (keys : Keys) : NonceTool → SDK Unit
  | .getNonceInfo address privateKey net => do
    let _ ← OgpuSdk.getNonceInfo keys address privateKey net
  | .resetNonceCache address privateKey connected =>
    OgpuSdk.resetNonceCache keys address privateKey connected
  | .clearAllNonceCaches => OgpuSdk.clearAllNonceCaches

/-! ## What they leave alone -/

/-- Finding out which account is meant changes nothing. -/
theorem exec_accountMeant_snd (keys : Keys) (address : Option Address)
    (privateKey : Option String) (w : World) :
    ((accountMeant keys address privateKey).exec w).2 = w := by
  unfold accountMeant
  cases requirePrivateKey keys privateKey with
  | error raised => rfl
  | ok privateKey =>
    dsimp only
    cases keys.fromKey privateKey <;> rfl

/-- What neither time, nor records, nor a Web3 instance, nor forgetting a nonce touches, is left
alone by every helper. -/
theorem NonceTool.preserves_run {I : World → Prop} (hadvance : ∀ w e, I w → I (w.advance e))
    (hrecord : ∀ w address, I w → I (w.record (.reset address)))
    (hconnect : ∀ connected, Preserves I (getWeb3 connected))
    (hforget : ∀ w nonces, (∀ address, nonces address = w.nonces address ∨ nonces address = none) →
      I w → I { w with nonces := nonces }) (keys : Keys) (tool : NonceTool) :
    Preserves I (tool.run keys) := by
  have hmeant : ∀ address privateKey, Preserves I (accountMeant keys address privateKey) :=
    fun address privateKey => .of_unchanged (exec_accountMeant_snd keys address privateKey)
  have hawait : ∀ reply : Reply Nat, Preserves I (SDK.await reply) := by
    intro reply
    refine .bind (fun w => hadvance w _) fun _ => .of_unchanged fun w => ?_
    cases reply.answer <;> rfl
  cases tool with
  | getNonceInfo address privateKey net =>
    exact .bind (.bind (hmeant _ _) fun address => .bind (hconnect _) fun _ =>
      .bind (hawait _) fun _ => .bind (hawait _) fun _ => .bind (.of_unchanged fun _ => rfl)
        fun _ => .pure _) fun _ => .pure _
  | resetNonceCache address privateKey connected =>
    refine .bind (hmeant _ _) fun address => .bind (hconnect _) fun _ =>
      .bind (fun w => hrecord w _) fun _ w hw => hforget w _ (fun other => ?_) hw
    by_cases hother : other = address
    · subst hother
      exact .inr (Function.update_self _ _ _)
    · exact .inl (Function.update_of_ne hother _ _)
  | clearAllNonceCaches => exact fun w hw => hforget w _ (fun _ => .inr rfl) hw

end OgpuSdk
