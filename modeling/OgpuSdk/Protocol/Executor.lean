import OgpuSdk.Lib.Loop
import OgpuSdk.Protocol.Revert
import OgpuSdk.World

/-!
# The transaction executor

`TxExecutor.execute` builds, signs, sends and confirms one transaction, with
retries. What the outside answers to attempt `k` is `net k`; each interaction
happens at most once in an attempt, so this covers every behaviour of the node.
The nested `try` blocks of the source are `broadcastTx` (up to the return of
`send_raw_transaction`, handing the nonce back on any exception) and
`awaitReceipt` (everything after it); the `broadcast` flag an exception is
handled with is which of the two raised it.
-/

namespace OgpuSdk

open Prog

structure Account where
  address : Address
  key : String

/-- What the outside answers during one attempt. -/
structure AttemptNet where
  /-- `eth_getTransactionCount(address, "pending")` of the reservation -/
  pendingCount : Reply Nat
  /-- finding and encoding the call, `build_transaction` -/
  build : Reply Unit
  sign : Reply Unit
  /-- an exception delivered at the second deadline check -/
  check : Except Exc Unit
  sendTook : Elapsed
  send : SendAnswer
  /-- `wait_for_transaction_receipt` with a timeout -/
  wait : ℚ → Reply TxReceipt
  /-- what `time.sleep` makes of its argument -/
  sleep : ℚ → Elapsed

namespace AttemptNet

/-- The exception that comes up before the send, from the build, the signing or the check. -/
def preSend (net : AttemptNet) : Option Exc :=
  match net.build.answer, net.sign.answer, net.check with
  | .error exc, _, _ => some exc
  | .ok _, .error exc, _ => some exc
  | .ok _, .ok _, .error exc => some exc
  | .ok _, .ok _, .ok _ => none

theorem preSend_eq_some {net : AttemptNet} {exc : Exc} (h : net.preSend = some exc) :
    net.build.answer = .error exc ∨ net.sign.answer = .error exc ∨ net.check = .error exc := by
  unfold preSend at h
  cases hb : net.build.answer with
  | error _ => rw [hb] at h; cases h; exact .inl rfl
  | ok _ =>
    cases hs : net.sign.answer with
    | error _ => rw [hb, hs] at h; cases h; exact .inr (.inl rfl)
    | ok _ =>
      cases hc : net.check with
      | error _ => rw [hb, hs, hc] at h; cases h; exact .inr (.inr rfl)
      | ok _ => rw [hb, hs, hc] at h; cases h

end AttemptNet

/-- A node that answers at once, and mines what it is sent. -/
def AttemptNet.prompt (pending : Nat) : AttemptNet where
  pendingCount := ⟨⟨0, 0⟩, .ok pending⟩
  build := ⟨⟨0, 0⟩, .ok ()⟩
  sign := ⟨⟨0, 0⟩, .ok ()⟩
  check := .ok ()
  sendTook := ⟨0, 0⟩
  send := .accepted (.str "0x01")
  wait := fun _ => ⟨⟨0, 0⟩, .ok ⟨.ok (.str "0x01"), .ok 1, .ok 21000, .ok 1, .ok []⟩⟩
  sleep := fun seconds => ⟨seconds.toNNRat, seconds⟩

/-- Every interaction of an attempt succeeds or raises what satisfies `Q`. -/
structure AttemptNet.RaisesOnly (Q : Exc → Prop) (net : AttemptNet) : Prop where
  pendingCount : OgpuSdk.RaisesOnly Q net.pendingCount.answer
  build : OgpuSdk.RaisesOnly Q net.build.answer
  sign : OgpuSdk.RaisesOnly Q net.sign.answer
  check : OgpuSdk.RaisesOnly Q net.check
  send : OgpuSdk.RaisesOnly Q net.send.result
  wait : ∀ timeout, OgpuSdk.RaisesOnly Q (net.wait timeout).answer
  receipt : ∀ timeout receipt, (net.wait timeout).answer = .ok receipt → receipt.RaisesOnly Q

theorem AttemptNet.prompt_raisesOnly (Q : Exc → Prop) (pending : Nat) :
    (prompt pending).RaisesOnly Q where
  pendingCount := .ok _
  build := .ok _
  sign := .ok _
  check := .ok _
  send := .ok _
  wait := fun _ => .ok _
  receipt := by
    rintro timeout receipt ⟨⟩
    exact ⟨.ok _, .ok _, .ok _, .ok _, .ok _⟩

structure TxExecutor where
  call : ContractCall
  signer : Account
  value : ℤ
  context : String
  maxRetries : Nat
  maxRetries_pos : 0 < maxRetries
  receiptTimeout : ℚ
  deadline : Option ℚ
  budget : Option ℚ

namespace TxExecutor

/-- `TxExecutor(...)`: at least one attempt is always made. The default context names the
contract, here spelled in lower case. -/
def init (call : ContractCall) (signer : Account) (value : ℤ) (context : Option String)
    (maxRetries : ℤ) (receiptTimeout : ℚ) (deadline budget : Option ℚ) : TxExecutor where
  call := call
  signer := signer
  value := value
  context := (context.filter (· ≠ "")).getD s!"0x{call.contract.toHex}.{call.functionName}"
  maxRetries := (max 1 maxRetries).toNat
  maxRetries_pos := by omega
  receiptTimeout := receiptTimeout
  deadline := deadline
  budget := budget

/-- An executor for trying a node out: three attempts, no deadline. -/
def trial : TxExecutor :=
  init ⟨0x1#160, "vote", []⟩ ⟨0x2#160, "key"⟩ 0 none 3 DEFAULT_RECEIPT_TIMEOUT none none

variable (self : TxExecutor)

/-- The deadline has passed at this reading of the monotonic clock. -/
def expired (now : ℚ) : Bool := self.deadline.any (· ≤ now)

def publishTimeout : Raised :=
  (OGPUError.publishTimeoutError (self.budget.getD 0) "pre-transaction").raised

def tx (nonce : Nat) : Tx where
  sender := self.signer.address
  nonce := nonce
  value := if self.value = 0 then none else some self.value
  call := self.call

def reserveNonce (net : AttemptNet) : SDK Nat := do
  SDK.elapse net.pendingCount.took
  let nonce ← SDK.nonces (NonceManager.reserveNonce self.signer.address net.pendingCount.answer)
  SDK.record (.reserve self.signer.address nonce)
  pure nonce

def releaseNonce (nonce : Nat) : SDK Unit := do
  SDK.record (.release self.signer.address nonce)
  SDK.nonces (NonceManager.releaseNonce self.signer.address nonce)

def resetNonce : SDK Unit := do
  SDK.record (.reset self.signer.address)
  SDK.nonces (NonceManager.resetNonce self.signer.address)

/-- Build, sign and send; the nonce is handed back unless the send returned. -/
def broadcastTx (net : AttemptNet) (nonce : Nat) : SDK TxHash :=
  onRaise (do
    SDK.await net.build
    SDK.await net.sign
    SDK.lift net.check
    if self.expired (← SDK.monotonic) then
      raise self.publishTimeout
    SDK.record (.send (self.tx nonce) net.send)
    SDK.elapse net.sendTook
    SDK.lift net.send.result)
  fun _ => self.releaseNonce nonce

/-- The receipt wait never outlasts the deadline, but for the floor of one second. -/
def effectiveTimeout (now : ℚ) : ℚ :=
  match self.deadline with
  | none => self.receiptTimeout
  | some deadline => min self.receiptTimeout (max (deadline - now) 1)

/-- Check a receipt that came in time and wrap it. -/
def checkReceipt (hash : TxHash) (receipt : TxReceipt) : SDK Receipt := do
  let status ← SDK.lift receipt.status
  if status ≠ 1 then
    raise (OGPUError.txRevertError s!"Transaction {hash.text} mined but reverted").raised
  -- `int(web3_receipt["blockNumber"])` of the log line
  let _ ← SDK.lift receipt.blockNumber
  SDK.lift (Receipt.fromWeb3Receipt receipt (← SDK.second))

/-- Wait for the receipt of a sent transaction. -/
def awaitReceipt (net : AttemptNet) (hash : TxHash) : SDK Receipt := do
  let timeout := self.effectiveTimeout (← SDK.monotonic)
  SDK.record (.wait hash timeout)
  SDK.elapse (net.wait timeout).took
  match (net.wait timeout).answer with
  | .ok receipt => checkReceipt hash receipt
  | .error (.raw ⟨.timeExhausted, text⟩) =>
    raise ((OGPUError.txReceiptTimeoutError hash.text timeout).from (.raw ⟨.timeExhausted, text⟩))
  | .error exc => raise exc.raised

/-- The handlers of the outer `try`: retry, or raise a typed error. -/
def handle (net : AttemptNet) (attempt nonce : Nat) (broadcast : Bool) (raised : Raised) :
    SDK (Turn Receipt (Option RawExc)) :=
  match raised.exc with
  | .ogpu _ => raise raised
  | .raw exc =>
    match exc.cls with
    | .contractLogicError =>
      raise ((decodeRevert exc self.context self.signer.address).from raised.exc)
    | .baseException _ => raise raised
    | _ =>
      if isNonceError exc then do
        self.resetNonce
        if attempt + 1 < self.maxRetries then pure (.next (some exc))
        else raise ((OGPUError.nonceError self.signer.address nonce (-1)).from raised.exc)
      else if isUnderpriced exc then do
        self.resetNonce
        if attempt + 1 < self.maxRetries then do
          SDK.sleep net.sleep UNDERPRICED_BACKOFF_SECONDS
          pure (.next (some exc))
        else raise ((OGPUError.gasError exc.text).from raised.exc)
      else if isTransientRpc exc && !broadcast && attempt + 1 < self.maxRetries then do
        SDK.sleep net.sleep TRANSIENT_RPC_BACKOFF_SECONDS
        pure (.next (some exc))
      else raise ((OGPUError.txRpcError exc.text).from raised.exc)

/-- One turn of the retry loop. -/
def attempt (net : AttemptNet) (attempt : Nat) : SDK (Turn Receipt (Option RawExc)) := do
  if self.expired (← SDK.monotonic) then
    raise self.publishTimeout
  let nonce ← self.reserveNonce net
  match ← Prog.attempt (self.broadcastTx net nonce) with
  | .error raised => self.handle net attempt nonce false raised
  | .ok hash =>
    match ← Prog.attempt (self.awaitReceipt net hash) with
    | .error raised => self.handle net attempt nonce true raised
    | .ok receipt => pure (.done receipt)

/-- The code after the loop: `last_error` is what the last attempt left. -/
def afterLoop : Option RawExc → SDK Receipt
  | none => raise (raised "AssertionError" "")
  | some lastError => raise ((OGPUError.txRpcError lastError.text).from (.raw lastError))

def execute (net : Nat → AttemptNet) (connected : Reply Bool) : SDK Receipt := do
  let _ ← getWeb3 connected
  loop (fun k _ => self.attempt (net k) k) afterLoop self.maxRetries 0 none

end TxExecutor

end OgpuSdk
