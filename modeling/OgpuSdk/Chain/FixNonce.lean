import OgpuSdk.Lib.Loop
import OgpuSdk.Protocol.Contract

/-!
# Repairing an account's nonces

`fix_nonce` reads how many transactions of an account are mined and how many
are pending, and sends a transfer of nothing at every nonce in between, one
after the other, whatever becomes of each. Then it drops the cached nonce. A
run is a program over `Recovery`, which adds to the world the nonces a
cancellation was tried for and the transfers that were broadcast.
-/

namespace OgpuSdk

open Prog

/-- `cancel_tx`. -/
structure Transfer where
  sender : Address
  recipient : Address
  value : Nat
  nonce : Nat
  gas : Nat
  gasPrice : Nat
  chainId : Nat

/-- The world, and what `fix_nonce` did to an account. -/
structure Recovery where
  world : World
  tried : List Nat
  broadcasts : List (Transfer × SendAnswer)

abbrev RecoveryProg := Prog Recovery Raised

namespace Recovery

def sdk {α : Type} (x : SDK α) : RecoveryProg α :=
  zoom (·.world) (fun w s => { s with world := w }) x

/-- `_cancel_transaction_with_nonce` is called for this nonce. -/
def trying (nonce : Nat) : RecoveryProg Unit :=
  modify fun s => { s with tried := s.tried ++ [nonce] }

/-- `send_raw_transaction` is called with this transfer. -/
def broadcast (transfer : Transfer) (answer : SendAnswer) : RecoveryProg Unit :=
  modify fun s => { s with broadcasts := s.broadcasts ++ [(transfer, answer)] }

@[simp] theorem exec_trying (nonce : Nat) (s : Recovery) :
    (trying nonce).exec s = (.ok (), { s with tried := s.tried ++ [nonce] }) := rfl

@[simp] theorem exec_broadcast (transfer : Transfer) (answer : SendAnswer) (s : Recovery) :
    (broadcast transfer answer).exec s =
      (.ok (), { s with broadcasts := s.broadcasts ++ [(transfer, answer)] }) := rfl

end Recovery

open Recovery

/-! ## The price of a replacement -/

/-- The double nearest to `n`, ties to even: what is above 53 binary digits is rounded away. -/
def nearestDouble (n : Nat) : Nat :=
  let unit := 2 ^ (n.log2 - 52)
  let quotient := n / unit
  let rest := n % unit
  if unit < 2 * rest ∨ 2 * rest = unit ∧ quotient % 2 = 1 then (quotient + 1) * unit
  else quotient * unit

/-- `int(current_gas_price * 1.2)`, in double arithmetic: the factor is the double
`5404319552844595 / 2 ^ 52`, and doubles end below `2 ^ 1024`. -/
def replacementGasPrice (currentGasPrice : Nat) : Except Exc Nat :=
  let price := nearestDouble currentGasPrice
  let product := nearestDouble (price * 5404319552844595)
  if 1024 ≤ price.log2 then
    .error (.raw ⟨.exception "OverflowError", "int too large to convert to float"⟩)
  else if 1024 + 52 ≤ product.log2 then
    .error (.raw ⟨.exception "OverflowError", "cannot convert float infinity to integer"⟩)
  else .ok (product / 2 ^ 52)

/-! ## One cancellation -/

/-- What the outside answers during one cancellation. -/
structure CancelNet where
  gasPrice : Reply Nat
  chainId : Reply Nat
  sign : Reply Unit
  sendTook : Elapsed
  send : SendAnswer
  /-- what `time.sleep` makes of its argument -/
  sleep : ℚ → Elapsed

/-- `tx_hash.hex()`: a string has no such method. -/
def TxHash.hex : TxHash → Except Exc String
  | .str _ => .error (.raw ⟨.exception "AttributeError", "'str' object has no attribute 'hex'"⟩)
  | hash => .ok hash.text

/-- `Account.from_key(private_key)`. -/
def accountFromKey (keys : Keys) (privateKey : String) : RecoveryProg Account :=
  match keys.fromKey privateKey with
  | .ok acc => pure acc
  | .error exc => raise (Exc.raw exc).raised

/-- The sender is the account of the key; `_address` is not used. -/
def cancelTransactionWithNonce (keys : Keys) (_address : Address) (nonce : Nat)
    (privateKey : String) (net : CancelNet) : RecoveryProg String := do
  let acc ← accountFromKey keys privateKey
  let currentGasPrice ← sdk (SDK.await net.gasPrice)
  let replacementGasPrice ← sdk (SDK.lift (replacementGasPrice currentGasPrice))
  let chainId ← sdk (SDK.await net.chainId)
  sdk (SDK.await net.sign)
  broadcast ⟨acc.address, acc.address, 0, nonce, 21000, replacementGasPrice, chainId⟩ net.send
  sdk (SDK.elapse net.sendTook)
  let txHash ← sdk (SDK.lift net.send.result)
  sdk (SDK.lift txHash.hex)

/-! ## The whole call -/

/-- The key, or that of the environment. -/
def requirePrivateKey (keys : Keys) (privateKey : Option String) : Except Raised String :=
  match privateKey, (keys.getenv "CLIENT_PRIVATE_KEY").filter (· ≠ "") with
  | some privateKey, _ => .ok privateKey
  | none, some key => .ok key
  | none, none => .error (raised "ValueError"
      ("CLIENT_PRIVATE_KEY environment variable is not set. " ++
        "Pass private_key= explicitly or set CLIENT_PRIVATE_KEY."))

/-- What the outside answers to one `fix_nonce`. -/
structure FixNet where
  connected : Reply Bool
  /-- `eth_getTransactionCount(address, "latest")` -/
  mined : Address → Reply Nat
  /-- `eth_getTransactionCount(address, "pending")`, before the cancellations -/
  pending : Address → Reply Nat
  cancels : Nat → CancelNet
  sleep : ℚ → Elapsed
  /-- `eth_getTransactionCount(address, "pending")`, after them -/
  final : Address → Reply Nat

/-- One turn of the loop: a cancellation that fails is passed over. -/
def cancelTurn (keys : Keys) (address : Address) (privateKey : String) (net : FixNet)
    (nonce successCount : Nat) : RecoveryProg (Turn Nat Nat) := do
  trying nonce
  match ← Prog.attempt (cancelTransactionWithNonce keys address nonce privateKey
    (net.cancels nonce)) with
  | .ok _ => do
    sdk (SDK.sleep (net.cancels nonce).sleep (1 / 2))
    pure (.next (successCount + 1))
  | .error raised =>
    if raised.exc.isException then pure (.next successCount) else raise raised

/-- The code after the loop. Without pending transactions there are no turns and no successes. -/
def afterCancellations (address : Address) (net : FixNet) (successCount : Nat) :
    RecoveryProg Nat := do
  if 0 < successCount then
    sdk (SDK.sleep net.sleep 3)
  sdk (SDK.record (.reset address))
  sdk (SDK.nonces (NonceManager.resetNonce address))
  sdk (SDK.await (net.final address))

def fixNonce (keys : Keys) (address : Option Address) (privateKey : Option String) (net : FixNet) :
    RecoveryProg Nat := do
  match requirePrivateKey keys privateKey with
  | .error raised => raise raised
  | .ok privateKey => do
    let acc ← accountFromKey keys privateKey
    let address := address.getD acc.address
    let _ ← sdk (getWeb3 net.connected)
    let minedNonce ← sdk (SDK.await (net.mined address))
    let pendingNonce ← sdk (SDK.await (net.pending address))
    loop (fun nonce successCount => cancelTurn keys address privateKey net nonce successCount)
      (afterCancellations address net) (pendingNonce - minedNonce) minedNonce 0

end OgpuSdk
