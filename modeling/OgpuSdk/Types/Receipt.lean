import OgpuSdk.Types.Errors

/-!
# Receipts

`TxReceipt` is the raw receipt web3 returns: reading a field (and turning it
into an `int`) may raise, so a field holds what reading it gives. `Receipt` is
the SDK's own, built by `from_web3_receipt`.
-/

namespace OgpuSdk

structure TxReceipt where
  transactionHash : Except Exc TxHash
  blockNumber : Except Exc ℤ
  gasUsed : Except Exc ℤ
  status : Except Exc ℤ
  logs : Except Exc (List Json)

structure Receipt where
  txHash : String
  blockNumber : ℤ
  gasUsed : ℤ
  status : ℤ
  logs : List Json
  timestamp : ℤ

/-- The hash as `from_web3_receipt` writes it: always with `0x`. -/
def Receipt.hashText (h : TxHash) : String :=
  if "0x".toList.isPrefixOf h.text.toList then h.text else "0x" ++ h.text

def Receipt.fromWeb3Receipt (receipt : TxReceipt) (timestamp : ℤ) : Except Exc Receipt := do
  let txHash ← receipt.transactionHash
  let blockNumber ← receipt.blockNumber
  let gasUsed ← receipt.gasUsed
  let status ← receipt.status
  let logs ← receipt.logs
  return ⟨hashText txHash, blockNumber, gasUsed, status, logs, timestamp⟩

/-! ## What may be raised -/

/-- What is raised, if anything, satisfies `Q`. -/
def RaisesOnly {α : Type} (Q : Exc → Prop) (answer : Except Exc α) : Prop :=
  ∀ exc, answer = .error exc → Q exc

variable {Q : Exc → Prop}

theorem RaisesOnly.ok {α : Type} (a : α) : RaisesOnly Q (.ok a) := fun _ h => nomatch h

theorem RaisesOnly.bind {α β : Type} {x : Except Exc α} {f : α → Except Exc β}
    (hx : RaisesOnly Q x) (hf : ∀ a, RaisesOnly Q (f a)) : RaisesOnly Q (x >>= f) := by
  cases x with
  | error exc => exact fun exc' h => hx exc' (by cases h; rfl)
  | ok a => exact hf a

/-- Every field of the receipt reads, or raises what satisfies `Q`. -/
structure TxReceipt.RaisesOnly (Q : Exc → Prop) (receipt : TxReceipt) : Prop where
  transactionHash : OgpuSdk.RaisesOnly Q receipt.transactionHash
  blockNumber : OgpuSdk.RaisesOnly Q receipt.blockNumber
  gasUsed : OgpuSdk.RaisesOnly Q receipt.gasUsed
  status : OgpuSdk.RaisesOnly Q receipt.status
  logs : OgpuSdk.RaisesOnly Q receipt.logs

theorem Receipt.fromWeb3Receipt_raises {receipt : TxReceipt} (h : receipt.RaisesOnly Q)
    (timestamp : ℤ) : RaisesOnly Q (fromWeb3Receipt receipt timestamp) :=
  .bind h.transactionHash fun _ => .bind h.blockNumber fun _ => .bind h.gasUsed fun _ =>
    .bind h.status fun _ => .bind h.logs fun _ => .ok _

end OgpuSdk
