import OgpuSdk.Protocol.Executor
import OgpuSdk.Trace

/-!
# What one attempt does

Every fact about `TxExecutor.execute` is derived from here: `attempt_run` says
once what a turn of the retry loop can do, in terms of what the outside
answers and the world before it. The stages are equations: `exec_reserveNonce`,
`exec_broadcastTx`, `exec_awaitReceipt` and `exec_handle` give the answer and
the world after each.
-/

namespace OgpuSdk.TxExecutor

open Prog

variable (self : TxExecutor) (net : AttemptNet)

/-! ## Reserving and handing back -/

/-- The nonce a reservation hands out in `w`. -/
def issue (pending : Nat) (w : World) : Nat := (w.nonces self.signer.address).current pending

/-- The world after a successful reservation. -/
def reserved (pending : Nat) (w : World) : World :=
  ((w.advance net.pendingCount.took).setNonce self.signer.address
    ((w.nonces self.signer.address).reserve pending)).record
      (.reserve self.signer.address (self.issue pending w))

/-- The world after `release_nonce`. -/
def handedBack (nonce : Nat) (w : World) : World :=
  (w.record (.release self.signer.address nonce)).setNonce self.signer.address
    ((w.nonces self.signer.address).release nonce)

/-- The world after `reset_nonce`. -/
def dropped (w : World) : World :=
  (w.record (.reset self.signer.address)).setNonce self.signer.address none

theorem exec_reserveNonce_ok {pending : Nat} (h : net.pendingCount.answer = .ok pending)
    (w : World) :
    (self.reserveNonce net).exec w =
      (.ok (self.issue pending w), self.reserved net pending w) := by
  unfold reserveNonce
  rw [h]
  rfl

theorem exec_reserveNonce_error {exc : Exc} (h : net.pendingCount.answer = .error exc)
    (w : World) :
    (self.reserveNonce net).exec w = (.error exc.raised, w.advance net.pendingCount.took) := by
  unfold reserveNonce
  rw [h]
  rfl

@[simp] theorem exec_releaseNonce (nonce : Nat) (w : World) :
    (self.releaseNonce nonce).exec w = (.ok (), self.handedBack nonce w) := rfl

@[simp] theorem exec_resetNonce (w : World) :
    self.resetNonce.exec w = (.ok (), self.dropped w) := rfl

/-! ## Up to the send -/

/-- The world when the transaction is built and signed. -/
def ready (w : World) : World := (w.advance net.build.took).advance net.sign.took

/-- The clock then, when the `try` block is entered at `c`. -/
def readyClock (c : Clock) : Clock := (c.advance net.build.took).advance net.sign.took

/-- What keeps an attempt whose `try` block is entered at `c` from its send, if anything does. -/
def fault (c : Clock) : Option Raised :=
  match net.preSend with
  | some exc => some exc.raised
  | none => if self.expired (readyClock net c).mono then some self.publishTimeout else none

/-- The world an attempt kept from its send is in. -/
def faultAt (w : World) : World :=
  match net.build.answer with
  | .error _ => w.advance net.build.took
  | .ok _ => ready net w

/-- The world after the send, whatever came of it. -/
def sent (nonce : Nat) (w : World) : World :=
  ((ready net w).record (.send (self.tx nonce) net.send)).advance net.sendTook

/-- What keeps an attempt from its send is an exception that comes up before it, or the deadline. -/
theorem fault_eq_some {c : Clock} {e : Raised} (h : self.fault net c = some e) :
    e = self.publishTimeout ∨ ∃ exc, net.preSend = some exc ∧ e = exc.raised := by
  unfold fault at h
  split at h
  · next exc hpre =>
    cases h
    exact .inr ⟨exc, hpre, rfl⟩
  · split at h
    · cases h
      exact .inl rfl
    · cases h

theorem exec_broadcastTx (nonce : Nat) (w : World) :
    (self.broadcastTx net nonce).exec w =
      match self.fault net w.clock, net.send.result with
      | some e, _ => (.error e, self.handedBack nonce (faultAt net w))
      | none, .error exc => (.error exc.raised, self.handedBack nonce (self.sent net nonce w))
      | none, .ok hash => (.ok hash, self.sent net nonce w) := by
  unfold broadcastTx fault faultAt AttemptNet.preSend
  rw [exec_onRaise]
  cases hb : net.build.answer with
  | error exc => simp [exec_bind, hb]
  | ok _ =>
    cases hs : net.sign.answer with
    | error exc => simp [exec_bind, hb, hs, ready]
    | ok _ =>
      cases hc : net.check with
      | error exc => simp [exec_bind, hb, hs, ready]
      | ok _ =>
        cases hd : self.expired (readyClock net w.clock).mono with
        | true =>
          simp only [readyClock, Clock.advance_mono] at hd
          simp [exec_bind, hb, hs, hd, ready]
        | false =>
          simp only [readyClock, Clock.advance_mono] at hd
          cases hr : net.send.result <;> simp [exec_bind, hb, hs, hd, sent, ready]

/-! ## From the send to the receipt -/

/-- The world after the receipt wait. -/
def awaited (hash : TxHash) (w : World) : World :=
  (w.record (.wait hash (self.effectiveTimeout w.clock.mono))).advance
    (net.wait (self.effectiveTimeout w.clock.mono)).took

/-- What a receipt that came in time is turned into at second `second`. -/
def received (hash : TxHash) (second : ℤ) (receipt : TxReceipt) : Except Raised Receipt :=
  match receipt.status with
  | .error exc => .error exc.raised
  | .ok status =>
    if status ≠ 1 then
      .error (OGPUError.txRevertError s!"Transaction {hash.text} mined but reverted").raised
    else
      match receipt.blockNumber, Receipt.fromWeb3Receipt receipt second with
      | .error exc, _ => .error exc.raised
      | .ok _, .error exc => .error exc.raised
      | .ok _, .ok r => .ok r

/-- What the steps after a send that returned at `c` come to. -/
def confirmation (hash : TxHash) (c : Clock) : Except Raised Receipt :=
  match (net.wait (self.effectiveTimeout c.mono)).answer with
  | .error (.raw ⟨.timeExhausted, text⟩) =>
    .error ((OGPUError.txReceiptTimeoutError hash.text (self.effectiveTimeout c.mono)).from
      (.raw ⟨.timeExhausted, text⟩))
  | .error exc => .error exc.raised
  | .ok receipt =>
    received hash (c.advance (net.wait (self.effectiveTimeout c.mono)).took).second receipt

theorem exec_checkReceipt (hash : TxHash) (receipt : TxReceipt) (w : World) :
    (checkReceipt hash receipt).exec w = (received hash w.clock.second receipt, w) := by
  unfold checkReceipt received
  cases hs : receipt.status with
  | error exc => simp [exec_bind]
  | ok status =>
    by_cases hm : status = 1
    · cases hb : receipt.blockNumber with
      | error exc => simp [hm, exec_bind]
      | ok _ =>
        cases hf : Receipt.fromWeb3Receipt receipt w.clock.second <;> simp [hm, hf, exec_bind]
    · simp [hm, exec_bind]

theorem exec_awaitReceipt (hash : TxHash) (w : World) :
    (self.awaitReceipt net hash).exec w =
      (self.confirmation net hash w.clock, self.awaited net hash w) := by
  unfold awaitReceipt confirmation
  simp only [exec_bind, SDK.exec_monotonic, SDK.exec_record, SDK.exec_elapse]
  split
  · next receipt h => rw [exec_checkReceipt, h]; rfl
  · next text h => rw [h]; rfl
  · next exc hne h =>
    rw [h]
    rcases exc with e | ⟨cls, text⟩
    · rfl
    · cases cls with
      | timeExhausted => exact absurd rfl (hne text)
      | _ => rfl

/-- What the steps after the send raise: a receipt timeout, a revert, or an exception that
reading the receipt raised. -/
theorem confirmation_error {Q : Exc → Prop} {hash : TxHash} {c : Clock} {e : Raised}
    (hwait : ∀ timeout, RaisesOnly Q (net.wait timeout).answer)
    (hreceipt : ∀ timeout receipt, (net.wait timeout).answer = .ok receipt → receipt.RaisesOnly Q)
    (h : self.confirmation net hash c = .error e) :
    (∃ timeout text, e = (OGPUError.txReceiptTimeoutError hash.text timeout).from
        (.raw ⟨.timeExhausted, text⟩)) ∨
      e = (OGPUError.txRevertError s!"Transaction {hash.text} mined but reverted").raised ∨
      ∃ exc, Q exc ∧ e = exc.raised := by
  unfold confirmation at h
  split at h
  · next text _ =>
    cases h
    exact .inl ⟨_, text, rfl⟩
  · next exc _ hexc =>
    cases h
    exact .inr (.inr ⟨exc, hwait _ exc hexc, rfl⟩)
  · next receipt hok =>
    have hr := hreceipt _ _ hok
    have hf := Receipt.fromWeb3Receipt_raises hr
      (c.advance (net.wait (self.effectiveTimeout c.mono)).took).second
    unfold received at h
    cases hs : receipt.status with
    | error exc =>
      rw [hs] at h
      cases h
      exact .inr (.inr ⟨exc, hr.status exc hs, rfl⟩)
    | ok status =>
      simp only [hs] at h
      split at h
      · cases h
        exact .inr (.inl rfl)
      · split at h
        · next exc hb =>
          cases h
          exact .inr (.inr ⟨exc, hr.blockNumber exc hb, rfl⟩)
        · next exc _ hfe =>
          cases h
          exact .inr (.inr ⟨exc, hf exc hfe, rfl⟩)
        · cases h

/-! ## The handlers -/

/-- The handlers drop the cached nonce on this exception. -/
def resets (raised : Raised) : Bool :=
  match raised.exc with
  | .ogpu _ => false
  | .raw exc => exc.ordinary && (isNonceError exc || isUnderpriced exc)

/-- The exception, when attempt `k` is followed by another because of it. -/
def retried (k : Nat) (broadcast : Bool) (raised : Raised) : Option RawExc :=
  match raised.exc with
  | .ogpu _ => none
  | .raw exc =>
    if exc.ordinary && decide (k + 1 < self.maxRetries) &&
        (isNonceError exc || isUnderpriced exc || isTransientRpc exc && !broadcast) then
      some exc
    else none

/-- What the handlers raise when they do not retry. -/
def failure (nonce : Nat) (raised : Raised) : Raised :=
  match raised.exc with
  | .ogpu _ => raised
  | .raw exc =>
    match exc.cls with
    | .contractLogicError => (decodeRevert exc self.context self.signer.address).from raised.exc
    | .baseException _ => raised
    | _ =>
      if isNonceError exc then
        (OGPUError.nonceError self.signer.address nonce (-1)).from raised.exc
      else if isUnderpriced exc then (OGPUError.gasError exc.text).from raised.exc
      else (OGPUError.txRpcError exc.text).from raised.exc

theorem failure_ordinary {nonce : Nat} {e : Raised} {exc : RawExc} (he : e.exc = .raw exc)
    (hord : exc.ordinary = true) :
    self.failure nonce e =
      if isNonceError exc then
        (OGPUError.nonceError self.signer.address nonce (-1)).from (.raw exc)
      else if isUnderpriced exc then (OGPUError.gasError exc.text).from (.raw exc)
      else (OGPUError.txRpcError exc.text).from (.raw exc) := by
  rcases e with ⟨_, cause⟩
  subst he
  rcases exc with ⟨cls, text⟩
  cases cls with
  | contractLogicError => cases hord
  | baseException name => cases hord
  | _ => rfl

/-- How long the handlers sleep before the next attempt. -/
def backoff (exc : RawExc) : Option ℚ :=
  if isNonceError exc then none
  else if isUnderpriced exc then some UNDERPRICED_BACKOFF_SECONDS
  else some TRANSIENT_RPC_BACKOFF_SECONDS

def slept (exc : RawExc) (w : World) : World :=
  match backoff exc with
  | none => w
  | some seconds => (w.record (.sleep seconds)).advance (net.sleep seconds)

/-- What the handlers come to. -/
def outcome (k nonce : Nat) (broadcast : Bool) (raised : Raised) :
    Except Raised (Turn Receipt (Option RawExc)) :=
  match self.retried k broadcast raised with
  | some exc => .ok (.next (some exc))
  | none => .error (self.failure nonce raised)

/-- The world the handlers leave. -/
def settled (k : Nat) (broadcast : Bool) (raised : Raised) (w : World) : World :=
  match self.retried k broadcast raised with
  | some exc => slept net exc (if resets raised then self.dropped w else w)
  | none => if resets raised then self.dropped w else w

/-- The last handler, `except Exception`. -/
theorem handle_ordinary {k nonce : Nat} {broadcast : Bool} {e : Raised} {exc : RawExc}
    (he : e.exc = .raw exc) (hord : exc.ordinary = true) :
    self.handle net k nonce broadcast e =
      if isNonceError exc then do
        self.resetNonce
        if k + 1 < self.maxRetries then pure (.next (some exc))
        else raise ((OGPUError.nonceError self.signer.address nonce (-1)).from (.raw exc))
      else if isUnderpriced exc then do
        self.resetNonce
        if k + 1 < self.maxRetries then do
          SDK.sleep net.sleep UNDERPRICED_BACKOFF_SECONDS
          pure (.next (some exc))
        else raise ((OGPUError.gasError exc.text).from (.raw exc))
      else if isTransientRpc exc && !broadcast && k + 1 < self.maxRetries then do
        SDK.sleep net.sleep TRANSIENT_RPC_BACKOFF_SECONDS
        pure (.next (some exc))
      else raise ((OGPUError.txRpcError exc.text).from (.raw exc)) := by
  rcases e with ⟨_, cause⟩
  subst he
  rcases exc with ⟨cls, text⟩
  cases cls with
  | contractLogicError => cases hord
  | baseException name => cases hord
  | _ => rfl

theorem exec_handle_ordinary {k nonce : Nat} {broadcast : Bool} {e : Raised} {exc : RawExc}
    (he : e.exc = .raw exc) (hord : exc.ordinary = true) (w : World) :
    (self.handle net k nonce broadcast e).exec w =
      (self.outcome k nonce broadcast e, self.settled net k broadcast e w) := by
  unfold outcome settled retried resets
  rw [self.handle_ordinary net he hord, self.failure_ordinary he hord, he]
  simp only [hord, Bool.true_and, slept, backoff]
  -- The three retry classes in the order of the source, then whether an attempt is left.
  by_cases hnonce : isNonceError exc = true
  · rw [if_pos hnonce, exec_bind_ok (self.exec_resetNonce w)]
    by_cases hk : k + 1 < self.maxRetries <;> simp [hnonce, hk]
  · rw [if_neg hnonce]
    by_cases hunderpriced : isUnderpriced exc = true
    · rw [if_pos hunderpriced, exec_bind_ok (self.exec_resetNonce w)]
      by_cases hk : k + 1 < self.maxRetries
      · simp [hnonce, hunderpriced, hk, exec_map, Except.map]
      · simp [hnonce, hunderpriced, hk]
    · rw [if_neg hunderpriced]
      by_cases hretry : (isTransientRpc exc && !broadcast && k + 1 < self.maxRetries) = true
      · rw [if_pos hretry, exec_bind_ok (SDK.exec_sleep _ _ _)]
        simp only [Bool.and_eq_true, decide_eq_true_eq] at hretry
        simp [hnonce, hunderpriced, hretry.1.1, hretry.1.2, hretry.2]
      · rw [if_neg hretry]
        have hnone : (decide (k + 1 < self.maxRetries) &&
            (isTransientRpc exc && !broadcast)) = false := by
          rw [Bool.and_comm]
          exact Bool.eq_false_iff.mpr hretry
        simp only [Bool.not_eq_true] at hnonce hunderpriced
        simp only [hnonce, hunderpriced, Bool.false_or, hnone, Bool.false_eq_true, if_false]
        rfl

theorem exec_handle (k nonce : Nat) (broadcast : Bool) (raised : Raised) (w : World) :
    (self.handle net k nonce broadcast raised).exec w =
      (self.outcome k nonce broadcast raised, self.settled net k broadcast raised w) := by
  rcases raised with ⟨e | exc, cause⟩
  · rfl
  · by_cases hord : exc.ordinary = true
    · exact self.exec_handle_ordinary net rfl hord w
    · rcases exc with ⟨cls, text⟩
      cases cls with
      | contractLogicError => rfl
      | baseException name => rfl
      | _ => exact absurd rfl hord

/-! ## One attempt -/

/-- The `try` body raises `e` in `w'`, entered with nonce `nonce`; the flag says whether the send
had returned. -/
inductive Raises (nonce : Nat) (w : World) : Bool → Raised → World → Prop where
  | unsent {e : Raised} : self.fault net w.clock = some e →
      Raises nonce w false e (self.handedBack nonce (faultAt net w))
  | refused {exc : Exc} : self.fault net w.clock = none → net.send.result = .error exc →
      Raises nonce w false exc.raised (self.handedBack nonce (self.sent net nonce w))
  | unconfirmed {hash : TxHash} {e : Raised} : self.fault net w.clock = none →
      net.send.result = .ok hash → self.confirmation net hash (self.sent net nonce w).clock = .error e →
      Raises nonce w true e (self.awaited net hash (self.sent net nonce w))

/-- The `try` body returns `r` in `w'`. -/
inductive Returns (nonce : Nat) (w : World) : Receipt → World → Prop where
  | confirmed {hash : TxHash} {r : Receipt} : self.fault net w.clock = none →
      net.send.result = .ok hash → self.confirmation net hash (self.sent net nonce w).clock = .ok r →
      Returns nonce w r (self.awaited net hash (self.sent net nonce w))

/-- What attempt `k` can do from `w`: its answer and the world it leaves. -/
inductive AttemptRun (k : Nat) (w : World) :
    Except Raised (Turn Receipt (Option RawExc)) × World → Prop where
  /-- the deadline has passed -/
  | expired : self.expired w.clock.mono = true → AttemptRun k w (.error self.publishTimeout, w)
  /-- the pending count could not be read; no handler is around the reservation -/
  | unreserved {exc : Exc} : self.expired w.clock.mono = false →
      net.pendingCount.answer = .error exc →
      AttemptRun k w (.error exc.raised, w.advance net.pendingCount.took)
  | handled {pending : Nat} {broadcast : Bool} {e : Raised} {w' : World} :
      self.expired w.clock.mono = false → net.pendingCount.answer = .ok pending →
      self.Raises net (self.issue pending w) (self.reserved net pending w) broadcast e w' →
      AttemptRun k w (self.outcome k (self.issue pending w) broadcast e,
        self.settled net k broadcast e w')
  | done {pending : Nat} {r : Receipt} {w' : World} :
      self.expired w.clock.mono = false → net.pendingCount.answer = .ok pending →
      self.Returns net (self.issue pending w) (self.reserved net pending w) r w' →
      AttemptRun k w (.ok (.done r), w')

/-- An attempt does one of the four. -/
theorem attempt_run (k : Nat) (w : World) :
    self.AttemptRun net k w ((self.attempt net k).exec w) := by
  unfold attempt
  rw [exec_bind_ok (SDK.exec_monotonic w)]
  cases hx : self.expired w.clock.mono with
  | true => exact .expired hx
  | false =>
    simp only [Bool.false_eq_true, if_false]
    cases hp : net.pendingCount.answer with
    | error exc =>
      rw [exec_bind_error (self.exec_reserveNonce_error net hp w)]
      exact .unreserved hx hp
    | ok pending =>
      rw [exec_bind_ok (self.exec_reserveNonce_ok net hp w), exec_bind_ok (exec_attempt _ _),
        exec_broadcastTx]
      cases hf : self.fault net (self.reserved net pending w).clock with
      | some e =>
        rw [exec_handle]
        exact .handled hx hp (.unsent hf)
      | none =>
        cases hr : net.send.result with
        | error exc =>
          rw [exec_handle]
          exact .handled hx hp (.refused hf hr)
        | ok hash =>
          simp only [exec_bind, exec_attempt, exec_awaitReceipt]
          cases hc : self.confirmation net hash
              (self.sent net (self.issue pending w) (self.reserved net pending w)).clock with
          | error e =>
            rw [exec_handle]
            exact .handled hx hp (.unconfirmed hf hr hc)
          | ok r => exact .done hx hp (.confirmed hf hr hc)

theorem Raises.unique {nonce : Nat} {w u v : World} {b c : Bool} {e f : Raised}
    (h : self.Raises net nonce w b e u) (h' : self.Raises net nonce w c f v) :
    b = c ∧ e = f ∧ u = v := by
  cases h <;> cases h' <;> simp_all

theorem Raises.not_returns {nonce : Nat} {w u v : World} {b : Bool} {e : Raised} {r : Receipt}
    (h : self.Raises net nonce w b e u) (h' : self.Returns net nonce w r v) : False := by
  cases h <;> cases h' <;> simp_all

theorem Returns.unique {nonce : Nat} {w u v : World} {r t : Receipt}
    (h : self.Returns net nonce w r u) (h' : self.Returns net nonce w t v) : r = t ∧ u = v := by
  cases h
  cases h'
  simp_all

/-- What an attempt can do is what it does. -/
theorem AttemptRun.exec_eq {k : Nat} {w : World}
    {r : Except Raised (Turn Receipt (Option RawExc)) × World} (h : self.AttemptRun net k w r) :
    (self.attempt net k).exec w = r := by
  have hrun := self.attempt_run net k w
  generalize (self.attempt net k).exec w = t at hrun
  cases h with
  | expired hx => cases hrun <;> simp_all
  | unreserved hx hp => cases hrun <;> simp_all
  | handled hx hp hr =>
    cases hrun with
    | handled _ hp' hr' =>
      cases hp.symm.trans hp'
      obtain ⟨rfl, rfl, rfl⟩ := hr.unique self net hr'
      rfl
    | done _ hp' hr' =>
      cases hp.symm.trans hp'
      exact (hr.not_returns self net hr').elim
    | _ => simp_all
  | done hx hp hr =>
    cases hrun with
    | handled _ hp' hr' =>
      cases hp.symm.trans hp'
      exact (hr'.not_returns self net hr).elim
    | done _ hp' hr' =>
      cases hp.symm.trans hp'
      obtain ⟨rfl, rfl⟩ := hr.unique self net hr'
      rfl
    | _ => simp_all

/-! ## What an attempt sends -/

/-- The clock when an attempt made at `c` gets to its second deadline check. -/
def sendClock (c : Clock) : Clock := readyClock net (c.advance net.pendingCount.took)

/-- The clock when the send of an attempt made at `c` is over. -/
def sentClock (c : Clock) : Clock := (sendClock net c).advance net.sendTook

/-- The transaction an attempt made in `w` hands to `send_raw_transaction`, if it gets there. -/
def sending (w : World) : Option Tx :=
  match net.pendingCount.answer with
  | .error _ => none
  | .ok pending =>
    if self.expired w.clock.mono then none
    else match self.fault net (w.clock.advance net.pendingCount.took) with
      | some _ => none
      | none => some (self.tx (self.issue pending w))

@[simp] theorem reserved_clock (pending : Nat) (w : World) :
    (self.reserved net pending w).clock = w.clock.advance net.pendingCount.took := rfl

@[simp] theorem sent_reserved_clock (nonce pending : Nat) (w : World) :
    (self.sent net nonce (self.reserved net pending w)).clock = sentClock net w.clock := rfl

variable {self net}

theorem sending_eq_some {w : World} {tx : Tx} :
    self.sending net w = some tx ↔
      ∃ pending, net.pendingCount.answer = .ok pending ∧ self.expired w.clock.mono = false ∧
        self.fault net (w.clock.advance net.pendingCount.took) = none ∧
        tx = self.tx (self.issue pending w) := by
  unfold sending
  cases net.pendingCount.answer with
  | error exc => simp
  | ok pending =>
    cases self.expired w.clock.mono <;>
      cases self.fault net (w.clock.advance net.pendingCount.took) <;> simp [eq_comm]

theorem preSend_of_fault {c : Clock} (h : self.fault net c = none) : net.preSend = none := by
  unfold fault at h
  split at h
  · cases h
  · assumption

theorem fault_clock {c : Clock} (h : self.fault net c = none) :
    self.expired (readyClock net c).mono = false := by
  unfold fault at h
  split at h
  · cases h
  · simpa using h

/-- A transaction is handed over at a moment when the deadline has not passed. -/
theorem sending_clock {w : World} {tx : Tx} (h : self.sending net w = some tx) :
    self.expired (sendClock net w.clock).mono = false := by
  obtain ⟨pending, -, -, hf, -⟩ := sending_eq_some.mp h
  exact fault_clock hf

@[simp] theorem sends_faultAt (w : World) : (faultAt net w).sends = w.sends := by
  unfold faultAt
  cases net.build.answer <;> simp [ready]

@[simp] theorem sends_dropped (w : World) : (self.dropped w).sends = w.sends := by
  simp [dropped, Op.send?]

@[simp] theorem sends_slept (exc : RawExc) (w : World) : (slept net exc w).sends = w.sends := by
  unfold slept
  cases backoff exc with
  | none => rfl
  | some seconds => simp [Op.send?]

@[simp] theorem sends_settled (k : Nat) (broadcast : Bool) (e : Raised) (w : World) :
    (self.settled net k broadcast e w).sends = w.sends := by
  unfold settled
  cases self.retried k broadcast e <;> cases resets e <;> simp

theorem sends_sent (nonce : Nat) (w : World) :
    (self.sent net nonce w).sends = w.sends ++ [(self.tx nonce, net.send)] := by
  simp [sent, ready, Op.send?]

@[simp] theorem sends_handedBack (nonce : Nat) (w : World) :
    (self.handedBack nonce w).sends = w.sends := by
  simp [handedBack, Op.send?]

@[simp] theorem sends_awaited (hash : TxHash) (w : World) :
    (self.awaited net hash w).sends = w.sends := by
  simp [awaited, Op.send?]

@[simp] theorem sends_reserved (pending : Nat) (w : World) :
    (self.reserved net pending w).sends = w.sends := by
  simp [reserved, Op.send?]

theorem Raises.sends {nonce : Nat} {w w' : World} {broadcast : Bool} {e : Raised}
    (h : self.Raises net nonce w broadcast e w') :
    w'.sends = w.sends ++
      if self.fault net w.clock = none then [(self.tx nonce, net.send)] else [] := by
  cases h with
  | unsent hf => simp [hf]
  | refused hf _ => simp [hf, sends_sent]
  | unconfirmed hf _ _ => simp [hf, sends_sent]

/-- Once the nonce is reserved, the attempt sends unless something keeps it from its send. -/
theorem sending_reserved {pending : Nat} {w : World} (hx : self.expired w.clock.mono = false)
    (hp : net.pendingCount.answer = .ok pending) :
    ((self.sending net w).map (·, net.send)).toList =
      if self.fault net (w.clock.advance net.pendingCount.took) = none then
        [(self.tx (self.issue pending w), net.send)] else [] := by
  split
  · next hf =>
    rw [sending_eq_some.mpr ⟨pending, hp, hx, hf, rfl⟩]
    rfl
  · next hf =>
    cases hs : self.sending net w with
    | none => rfl
    | some tx =>
      obtain ⟨pending', hp', -, hf', -⟩ := sending_eq_some.mp hs
      rw [hp] at hp'
      cases hp'
      exact absurd hf' hf

theorem sending_eq_none {w : World}
    (h : self.expired w.clock.mono = true ∨ ∃ exc, net.pendingCount.answer = .error exc) :
    self.sending net w = none := by
  rw [Option.eq_none_iff_forall_ne_some]
  intro tx htx
  obtain ⟨pending, hp, hx, -⟩ := sending_eq_some.mp htx
  rcases h with h | ⟨exc, h⟩
  · rw [hx] at h
    cases h
  · rw [hp] at h
    cases h

/-- An attempt sends `sending`, and nothing else. -/
theorem AttemptRun.sends {k : Nat} {w w' : World}
    {a : Except Raised (Turn Receipt (Option RawExc))} (h : self.AttemptRun net k w (a, w')) :
    w'.sends = w.sends ++ ((self.sending net w).map (·, net.send)).toList := by
  generalize hr : (a, w') = r at h
  cases h with
  | expired hx =>
    cases hr
    simp [sending_eq_none (.inl hx)]
  | unreserved hx hp =>
    cases hr
    simp [sending_eq_none (.inr ⟨_, hp⟩)]
  | handled hx hp hraise =>
    cases hr
    rw [sends_settled, hraise.sends, sends_reserved, sending_reserved hx hp, reserved_clock]
  | done hx hp hret =>
    cases hr
    obtain ⟨hf, -, -⟩ := hret
    rw [reserved_clock] at hf
    rw [sends_awaited, sends_sent, sends_reserved, sending_reserved hx hp, if_pos hf]

/-! ## What an attempt leaves in the cache -/

@[simp] theorem slept_nonces (exc : RawExc) (w : World) : (slept net exc w).nonces = w.nonces := by
  unfold slept
  cases backoff exc <;> rfl

@[simp] theorem faultAt_nonces (w : World) : (faultAt net w).nonces = w.nonces := by
  unfold faultAt
  cases net.build.answer <;> rfl

/-- Handing a nonce back right after its reservation makes it the next one again. -/
theorem handedBack_reserved {pending : Nat} {u w : World}
    (hu : u.nonces = (self.reserved net pending w).nonces) :
    (self.handedBack (self.issue pending w) u).nonces self.signer.address =
      some (self.issue pending w) := by
  simp [handedBack, hu, reserved, issue]

/-! ## What an attempt may do, and when -/

section

variable {P : World → Op → Prop} {w w' : World}

theorem path_handedBack (hq : ∀ u op, op.quiet = true → P u op) (nonce : Nat)
    (h : World.Path P w w') : World.Path P w (self.handedBack nonce w') :=
  (h.record (hq _ _ rfl)).setNonce _ _

theorem path_ready (h : World.Path P w w') : World.Path P w (ready net w') :=
  (h.advance _).advance _

theorem path_faultAt (h : World.Path P w w') : World.Path P w (faultAt net w') := by
  unfold faultAt
  cases net.build.answer with
  | error exc => exact h.advance _
  | ok _ => exact path_ready h

theorem path_sent (nonce : Nat) (h : World.Path P w w')
    (hs : P (ready net w') (.send (self.tx nonce) net.send)) :
    World.Path P w (self.sent net nonce w') :=
  ((path_ready h).record hs).advance _

theorem path_awaited (hq : ∀ u op, op.quiet = true → P u op) (hash : TxHash)
    (h : World.Path P w w') : World.Path P w (self.awaited net hash w') :=
  (h.record (hq _ _ rfl)).advance _

theorem path_slept (hq : ∀ u op, op.quiet = true → P u op) (exc : RawExc)
    (h : World.Path P w w') : World.Path P w (slept net exc w') := by
  unfold slept
  cases backoff exc with
  | none => exact h
  | some seconds => exact (h.record (hq _ _ rfl)).advance _

theorem path_settled (hq : ∀ u op, op.quiet = true → P u op) (k : Nat) (broadcast : Bool)
    (e : Raised) (h : World.Path P w w') :
    World.Path P w (self.settled net k broadcast e w') := by
  have hdrop : World.Path P w (if resets e then self.dropped w' else w') := by
    cases resets e with
    | true => exact (h.record (hq _ _ rfl)).setNonce _ _
    | false => exact h
  unfold settled
  cases self.retried k broadcast e with
  | none => exact hdrop
  | some exc => exact path_slept hq exc hdrop

/-- The `try` body sends when nothing keeps it from it, and otherwise cleans up and waits. -/
theorem Raises.path (hq : ∀ u op, op.quiet = true → P u op) {nonce : Nat} {b : Bool} {e : Raised}
    (hsend : self.fault net w.clock = none → P (ready net w) (.send (self.tx nonce) net.send))
    (h : self.Raises net nonce w b e w') : World.Path P w w' := by
  cases h with
  | unsent hf => exact path_handedBack hq _ (path_faultAt .refl)
  | refused hf _ => exact path_handedBack hq _ (path_sent _ .refl (hsend hf))
  | unconfirmed hf _ _ => exact path_awaited hq _ (path_sent _ .refl (hsend hf))

theorem Returns.path (hq : ∀ u op, op.quiet = true → P u op) {nonce : Nat} {r : Receipt}
    (hsend : self.fault net w.clock = none → P (ready net w) (.send (self.tx nonce) net.send))
    (h : self.Returns net nonce w r w') : World.Path P w w' := by
  obtain ⟨hf, -, -⟩ := h
  exact path_awaited hq _ (path_sent _ .refl (hsend hf))

/-- From its reservation on, an attempt sends `sending` when it is `ready`, and otherwise cleans up
and waits. -/
theorem AttemptRun.path_reserved (hq : ∀ u op, op.quiet = true → P u op) {pending : Nat}
    (hx : self.expired w.clock.mono = false) (hp : net.pendingCount.answer = .ok pending)
    (hsend : ∀ u tx, self.sending net w = some tx → u.clock = sendClock net w.clock →
      u.events = (self.reserved net pending w).events → P u (.send tx net.send))
    {k : Nat} {a : Except Raised (Turn Receipt (Option RawExc))}
    (h : self.AttemptRun net k w (a, w')) : World.Path P (self.reserved net pending w) w' := by
  generalize hr : (a, w') = r at h
  have hready : self.fault net (self.reserved net pending w).clock = none →
      P (ready net (self.reserved net pending w)) (.send (self.tx (self.issue pending w)) net.send) :=
    fun hf => hsend _ _ (sending_eq_some.mpr ⟨pending, hp, hx, hf, rfl⟩) rfl rfl
  cases h with
  | expired hx' => rw [hx] at hx'; cases hx'
  | unreserved _ hp' => rw [hp] at hp'; cases hp'
  | handled _ hp' hraise =>
    cases hr
    cases hp.symm.trans hp'
    exact path_settled hq k _ _ (hraise.path hq hready)
  | done _ hp' hret =>
    cases hr
    cases hp.symm.trans hp'
    exact hret.path hq hready

/-- An attempt reserves, sends `sending` when it is `ready`, and otherwise cleans up and waits. -/
theorem AttemptRun.path (hq : ∀ u op, op.quiet = true → P u op)
    (hreserve : ∀ u nonce, u.events = w.events → P u (.reserve self.signer.address nonce))
    (hsend : ∀ u pending tx, self.sending net w = some tx → u.clock = sendClock net w.clock →
      u.events = (self.reserved net pending w).events → P u (.send tx net.send))
    {k : Nat} {a : Except Raised (Turn Receipt (Option RawExc))}
    (h : self.AttemptRun net k w (a, w')) : World.Path P w w' := by
  have hrun := h
  have hres : ∀ pending, World.Path P w (self.reserved net pending w) := fun pending =>
    .record (.setNonce _ _ (.advance _ .refl)) (hreserve _ _ rfl)
  generalize hr : (a, w') = r at h
  cases h with
  | expired => cases hr; exact .refl
  | unreserved => cases hr; exact .advance _ .refl
  | handled hx hp _ => exact (hres _).trans (hrun.path_reserved hq hx hp (fun u => hsend u _))
  | done hx hp _ => exact (hres _).trans (hrun.path_reserved hq hx hp (fun u => hsend u _))

/-- The send of an attempt is among the events it leaves, stamped with `sendClock`. -/
theorem AttemptRun.mem_events {k : Nat} {tx : Tx}
    {a : Except Raised (Turn Receipt (Option RawExc))} (h : self.AttemptRun net k w (a, w'))
    (hs : self.sending net w = some tx) :
    ⟨sendClock net w.clock, .send tx net.send⟩ ∈ w'.events := by
  obtain ⟨pending, hp, hx, hf, rfl⟩ := sending_eq_some.mp hs
  have hmem : ⟨sendClock net w.clock, .send (self.tx (self.issue pending w)) net.send⟩ ∈
      (self.sent net (self.issue pending w) (self.reserved net pending w)).events := by
    simp [sent, ready, sendClock, readyClock]
  have hq : ∀ (u : World) (op : Op), op.quiet = true → True := fun _ _ _ => trivial
  generalize hr : (a, w') = r at h
  cases h with
  | expired hx' => rw [hx] at hx'; cases hx'
  | unreserved _ hp' => rw [hp] at hp'; cases hp'
  | handled _ hp' hraise =>
    cases hr
    cases hp.symm.trans hp'
    refine (path_settled hq k _ _ .refl).events_isPrefix.subset ?_
    cases hraise with
    | unsent hf' => rw [reserved_clock, hf] at hf'; cases hf'
    | refused => exact (path_handedBack hq _ .refl).events_isPrefix.subset hmem
    | unconfirmed => exact (path_awaited hq _ .refl).events_isPrefix.subset hmem
  | done _ hp' hret =>
    cases hr
    cases hp.symm.trans hp'
    obtain ⟨-, -, -⟩ := hret
    exact (path_awaited hq _ .refl).events_isPrefix.subset hmem

end

end OgpuSdk.TxExecutor
