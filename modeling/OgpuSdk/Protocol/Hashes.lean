import OgpuSdk.Events.Types
import OgpuSdk.Protocol.Attempt

/-!
# One hash, three places

A transaction hash reaches the user in a receipt, in the error of a receipt
timeout and in an event. The receipt puts `0x` in front of a hash that has
none; the other two pass on what `hex()` gives, so that the three agree on a
hash exactly when web3 hands the last two over with the prefix on.
-/

namespace OgpuSdk

/-- The shapes web3 hands a hash over in. -/
inductive HashShape where
  | bytes
  | hexBytes (prefixed : Bool)
  | str (prefixed : Bool)
  deriving DecidableEq

/-- The hash text, with `0x` or without. -/
def hashText (prefixed : Bool) (b : List UInt8) : String :=
  if prefixed then "0x" ++ hexOf b else hexOf b

/-- The hash of bytes `b` in a shape. -/
def HashShape.of (b : List UInt8) : HashShape → TxHash
  | .bytes => .bytes b
  | .hexBytes prefixed => .hexBytes b prefixed
  | .str prefixed => .str (hashText prefixed b)

/-- The text of the shape starts with `0x`. -/
def HashShape.isPrefixed : HashShape → Bool
  | .bytes => false
  | .hexBytes prefixed | .str prefixed => prefixed

theorem HashShape.text_of (b : List UInt8) (shape : HashShape) :
    (shape.of b).text = hashText shape.isPrefixed b := by
  cases shape with
  | bytes => rfl
  | hexBytes prefixed => cases prefixed <;> rfl
  | str prefixed => rfl

/-- No digit is the letter of the prefix. -/
theorem hexOf_unprefixed (b : List UInt8) : ¬ "0x".toList <+: (hexOf b).toList := by
  have hdigit : ∀ n < 16, hexDigit n ≠ 'x' := by decide
  unfold hexOf
  rw [String.toList_ofList, String.toList_ofList]
  cases b with
  | nil => simp
  | cons x b =>
    rintro ⟨t, ht⟩
    have hsecond : hexDigit (x.toNat % 16) = 'x' := by
      simp only [List.flatMap_cons, List.cons_append, List.nil_append, List.cons.injEq] at ht
      exact ht.2.1.symm
    exact hdigit _ (Nat.mod_lt _ (by decide)) hsecond

theorem hashText_eq_iff (prefixed : Bool) (b : List UInt8) :
    hashText prefixed b = "0x" ++ hexOf b ↔ prefixed = true := by
  cases prefixed with
  | true => simp [hashText]
  | false =>
    constructor
    · intro h
      have hprefix : "0x".toList <+: (hexOf b).toList := by
        rw [show hexOf b = "0x" ++ hexOf b from h, String.toList_append]
        exact List.prefix_append _ _
      exact absurd hprefix (hexOf_unprefixed b)
    · simp

/-- Whatever the shape, a receipt has the prefix once. -/
theorem Receipt.hashText_of (b : List UInt8) (shape : HashShape) :
    Receipt.hashText (shape.of b) = "0x" ++ hexOf b := by
  unfold Receipt.hashText
  rw [shape.text_of]
  cases shape.isPrefixed with
  | true =>
    rw [if_pos]
    · rfl
    · rw [List.isPrefixOf_iff_prefix, OgpuSdk.hashText, if_pos rfl, String.toList_append]
      exact List.prefix_append _ _
  | false =>
    rw [if_neg]
    · rfl
    · rw [List.isPrefixOf_iff_prefix]
      exact hexOf_unprefixed b

/-- A receipt, the error of a receipt timeout and an event all give the hash of bytes `b` as the
same text, whatever else they hold. -/
structure OneHash (b : List UInt8) (received sent logged : HashShape) : Prop where
  receipt : ∀ (receipt : TxReceipt) timestamp R, receipt.transactionHash = .ok (received.of b) →
    Receipt.fromWeb3Receipt receipt timestamp = .ok R → R.txHash = "0x" ++ hexOf b
  timeout : ∀ (self : TxExecutor) net w text,
    (net.wait (self.effectiveTimeout w.clock.mono)).answer = .error (.raw ⟨.timeExhausted, text⟩) →
    ((self.awaitReceipt net (sent.of b)).exec w).1 =
      .error ((OGPUError.txReceiptTimeoutError ("0x" ++ hexOf b)
        (self.effectiveTimeout w.clock.mono)).from (.raw ⟨.timeExhausted, text⟩))
  event : ∀ entry : LogEntry, entry.transactionHash = some (logged.of b) →
    (baseFields entry).transactionHash = "0x" ++ hexOf b

section

variable {b : List UInt8}

theorem txHash_of_fromWeb3Receipt {receipt : TxReceipt} {timestamp : ℤ} {R : Receipt}
    {hash : TxHash} (hhash : receipt.transactionHash = .ok hash)
    (h : Receipt.fromWeb3Receipt receipt timestamp = .ok R) : R.txHash = Receipt.hashText hash := by
  unfold Receipt.fromWeb3Receipt at h
  rw [hhash] at h
  cases hb : receipt.blockNumber <;> cases hg : receipt.gasUsed <;> cases hs : receipt.status <;>
    cases hl : receipt.logs <;> rw [hb, hg, hs, hl] at h <;> cases h
  rfl

/-- The error of a receipt timeout carries what `hex()` gives. -/
theorem awaitReceipt_timeout {self : TxExecutor} {net : AttemptNet} {w : World} {text : String}
    (hwait : (net.wait (self.effectiveTimeout w.clock.mono)).answer =
      .error (.raw ⟨.timeExhausted, text⟩)) (hash : TxHash) :
    ((self.awaitReceipt net hash).exec w).1 =
      .error ((OGPUError.txReceiptTimeoutError hash.text
        (self.effectiveTimeout w.clock.mono)).from (.raw ⟨.timeExhausted, text⟩)) := by
  rw [TxExecutor.exec_awaitReceipt, TxExecutor.confirmation, hwait]

/-- The node answers as `prompt` does, but for a receipt that never comes. -/
def AttemptNet.mute : AttemptNet :=
  { prompt 0 with wait := fun _ => ⟨⟨0, 0⟩, .error (.raw ⟨.timeExhausted, "no receipt"⟩)⟩ }

theorem OneHash.prefixed {received sent logged : HashShape} (h : OneHash b received sent logged) :
    sent.isPrefixed = true ∧ logged.isPrefixed = true := by
  constructor
  · have hanswer := h.timeout .trial .mute (.imported ⟨0, 0⟩) "no receipt" rfl
    rw [awaitReceipt_timeout rfl, Except.error.injEq, sent.text_of] at hanswer
    rw [← hashText_eq_iff]
    simpa [OGPUError.from] using hanswer
  · have hevent := h.event ⟨none, none, some (logged.of b), none⟩ rfl
    rwa [← hashText_eq_iff, ← logged.text_of]

/-- The three agree exactly when the hash that was sent and the one that was logged come with
their prefix, whatever the shape of the one received. -/
theorem oneHash_iff (b : List UInt8) (received sent logged : HashShape) :
    OneHash b received sent logged ↔ sent.isPrefixed = true ∧ logged.isPrefixed = true := by
  refine ⟨OneHash.prefixed, ?_⟩
  rintro ⟨hsent, hlogged⟩
  constructor
  · intro receipt timestamp R hhash hR
    rw [txHash_of_fromWeb3Receipt hhash hR, Receipt.hashText_of]
  · intro self net w text hwait
    rw [awaitReceipt_timeout hwait, sent.text_of, (hashText_eq_iff _ _).mpr hsent]
  · intro entry hentry
    show (entry.transactionHash.getD (.bytes [])).text = _
    rw [hentry, Option.getD_some, logged.text_of, (hashText_eq_iff _ _).mpr hlogged]

/-- A hash of 32 bytes that web3 hands over as `HexBytes` without a prefix. -/
theorem not_oneHash_unprefixed :
    ¬ OneHash (List.replicate 32 0xab) (.hexBytes false) (.hexBytes false) (.hexBytes false) := by
  intro h
  cases h.prefixed.1

end

end OgpuSdk
