import OgpuSdk.Protocol.Pace

/-!
# What the retries come to

Without a deadline, and with reservations that succeed, an attempt gets a
receipt or a `Failure`. The kinds of failure are tried in the order of the
handlers: a text may match several. `Verdict` says what the kinds mean for a
call: where it stops, and what it returns or raises.
-/

namespace OgpuSdk

open Prog

/-- The classes `execute` raises raw failures as. -/
inductive FailureClass where
  | nonceError | gasError | txRpcError
  deriving DecidableEq

def OGPUError.failureClass : OGPUError → Option FailureClass
  | .nonceError _ _ _ => some .nonceError
  | .gasError _ => some .gasError
  | .txRpcError _ => some .txRpcError
  | _ => none

def Raised.failureClass (e : Raised) : Option FailureClass :=
  match e.exc with
  | .ogpu err => err.failureClass
  | .raw _ => none

/-- No revert is decoded to one of them. -/
theorem decodeRevert_failureClass (exc : RawExc) (context : String) (caller : Address) :
    (decodeRevert exc context caller).failureClass = none := by
  have hhandlers : ∀ entry ∈ REVERT_PATTERN_MAP,
      (entry.2 context caller).failureClass = none := by
    have hpermission : (permissionErrorFor context caller).failureClass = none := by
      unfold permissionErrorFor
      split <;> rfl
    simp only [REVERT_PATTERN_MAP, List.forall_mem_cons]
    exact ⟨hpermission, rfl, rfl, rfl, rfl, rfl, rfl, rfl, rfl, rfl, rfl, by simp⟩
  unfold decodeRevert
  dsimp only
  split
  · next handler hlookup =>
    obtain ⟨before, after, heq, -⟩ := List.lookup_eq_some_iff.mp hlookup
    exact hhandlers (extractRevertReason exc, handler) (by rw [heq]; simp)
  · split
    · next entry handler hfind => exact hhandlers _ (List.mem_of_find?_eq_some hfind)
    · rfl

namespace TxExecutor

/-! ## Kinds of failure -/

/-- What an attempt that gets no receipt of status 1 fails with. -/
inductive Failure where
  /-- a receipt timeout, a mined revert, or an error that came up typed -/
  | typed (err : OGPUError) (cause : Option Exc)
  | contractRevert (exc : RawExc)
  /-- `KeyboardInterrupt`, `SystemExit` -/
  | interrupt (exc : RawExc) (cause : Option Exc)
  | nonceCollision (exc : RawExc)
  | underpriced (exc : RawExc)
  | transient (broadcast : Bool) (exc : RawExc)
  | unclassified (exc : RawExc)
  deriving DecidableEq

namespace Failure

def of (broadcast : Bool) (e : Raised) : Failure :=
  match e.exc with
  | .ogpu err => .typed err e.cause
  | .raw exc =>
    match exc.cls with
    | .contractLogicError => .contractRevert exc
    | .baseException _ => .interrupt exc e.cause
    | _ =>
      if isNonceError exc then .nonceCollision exc
      else if isUnderpriced exc then .underpriced exc
      else if isTransientRpc exc then .transient broadcast exc
      else .unclassified exc

/-- No attempt follows, whatever is left of them. -/
def stops : Failure → Bool
  | .nonceCollision _ | .underpriced _ => false
  | .transient broadcast _ => broadcast
  | .typed _ _ | .contractRevert _ | .interrupt _ _ | .unclassified _ => true

/-- What the call raises after its last attempt failed so, with `nonce` reserved. -/
def error (exe : TxExecutor) (nonce : Nat) : Failure → Raised
  | .typed err cause => ⟨.ogpu err, cause⟩
  | .contractRevert exc => (decodeRevert exc exe.context exe.signer.address).from (.raw exc)
  | .interrupt exc cause => ⟨.raw exc, cause⟩
  | .nonceCollision exc => (OGPUError.nonceError exe.signer.address nonce (-1)).from (.raw exc)
  | .underpriced exc => (OGPUError.gasError exc.text).from (.raw exc)
  | .transient _ exc | .unclassified exc => (OGPUError.txRpcError exc.text).from (.raw exc)

end Failure

variable {self : TxExecutor} {e : Raised} {exc : RawExc}

/-- An ordinary exception, by the classes of its text. -/
theorem Failure.of_ordinary {cause : Option Exc} (h : exc.ordinary = true) (broadcast : Bool) :
    Failure.of broadcast ⟨.raw exc, cause⟩ =
      if isNonceError exc then .nonceCollision exc
      else if isUnderpriced exc then .underpriced exc
      else if isTransientRpc exc then .transient broadcast exc
      else .unclassified exc := by
  rcases exc with ⟨cls, text⟩
  cases cls with
  | contractLogicError => cases h
  | baseException name => cases h
  | _ => rfl

/-- The handlers raise by the kind of the failure. -/
theorem failure_eq (nonce : Nat) (broadcast : Bool) (e : Raised) :
    self.failure nonce e = (Failure.of broadcast e).error self nonce := by
  rcases e with ⟨err | exc, cause⟩
  · rfl
  · by_cases hord : exc.ordinary = true
    · rw [self.failure_ordinary rfl hord, Failure.of_ordinary hord]
      split_ifs <;> rfl
    · rcases exc with ⟨cls, text⟩
      cases cls with
      | contractLogicError => rfl
      | baseException name => rfl
      | _ => exact absurd rfl hord

/-- They retry while attempts are left, unless the kind stops them. -/
theorem retried_eq_none_iff {k : Nat} {broadcast : Bool} :
    self.retried k broadcast e = none ↔
      (Failure.of broadcast e).stops = true ∨ self.maxRetries ≤ k + 1 := by
  rcases e with ⟨err | exc, cause⟩
  · exact iff_of_true rfl (.inl rfl)
  · by_cases hord : exc.ordinary = true
    · rw [Failure.of_ordinary hord]
      unfold retried
      simp only [hord, Bool.true_and]
      by_cases hk : k + 1 < self.maxRetries
      · have hleft : ¬ self.maxRetries ≤ k + 1 := by omega
        simp only [hk, hleft, decide_true, Bool.true_and, or_false]
        cases isNonceError exc <;> cases isUnderpriced exc <;> cases isTransientRpc exc <;>
          cases broadcast <;> simp [Failure.stops]
      · have hleft : self.maxRetries ≤ k + 1 := by omega
        simp [hk, hleft]
    · refine iff_of_true ?_ (.inl ?_)
      · simp [retried, hord]
      · rcases exc with ⟨cls, text⟩
        cases cls with
        | contractLogicError => rfl
        | baseException name => rfl
        | _ => exact absurd rfl hord

/-- The class a call raises after such a failure. -/
def Failure.failureClass : Failure → Option FailureClass
  | .typed err _ => err.failureClass
  | .nonceCollision _ => some .nonceError
  | .underpriced _ => some .gasError
  | .transient _ _ | .unclassified _ => some .txRpcError
  | .contractRevert _ | .interrupt _ _ => none

theorem Failure.error_failureClass (f : Failure) (nonce : Nat) :
    (f.error self nonce).failureClass = f.failureClass := by
  cases f with
  | contractRevert exc => exact decodeRevert_failureClass exc self.context self.signer.address
  | _ => rfl

/-! ## How an attempt goes -/

/-- What an attempt made in `w` fails with, if it does. -/
def failed (self : TxExecutor) (net : AttemptNet) (w : World) : Option Failure :=
  (self.interruption net w.clock).map fun i => .of i.1 i.2

/-- An attempt made in `w` gets a receipt of status 1, and `r` is built from it. -/
def Confirms (self : TxExecutor) (net : AttemptNet) (w : World) (r : Receipt) : Prop :=
  ∃ hash receipt, net.send = .accepted hash ∧
    (net.wait self.receiptTimeout).answer = .ok receipt ∧ receipt.status = .ok 1 ∧
    Receipt.fromWeb3Receipt receipt
      ((sentClock net w.clock).advance (net.wait self.receiptTimeout).took).second = .ok r

section

variable {net : AttemptNet} {w w' : World} {k : Nat}

theorem expired_of_none (h : self.deadline = none) (now : ℚ) : self.expired now = false := by
  unfold expired
  rw [h]
  rfl

theorem received_eq_ok {hash : TxHash} {second : ℤ} {receipt : TxReceipt} {r : Receipt}
    (h : received hash second receipt = .ok r) :
    receipt.status = .ok 1 ∧ Receipt.fromWeb3Receipt receipt second = .ok r := by
  unfold received at h
  cases hstatus : receipt.status with
  | error exc => rw [hstatus] at h; cases h
  | ok status =>
    simp only [hstatus] at h
    split at h
    · cases h
    · next hone =>
      split at h
      · cases h
      · cases h
      · next hreceipt =>
        cases h
        exact ⟨by simpa using hone, hreceipt⟩

theorem Returns.confirms (hdeadline : self.deadline = none) {pending : Nat} {r : Receipt}
    (h : self.Returns net (self.issue pending w) (self.reserved net pending w) r w') :
    self.Confirms net w r := by
  have htimeout : ∀ now, self.effectiveTimeout now = self.receiptTimeout := by
    intro now
    unfold effectiveTimeout
    rw [hdeadline]
  obtain ⟨-, hsend, hconfirmed⟩ := h
  rw [sent_reserved_clock] at hconfirmed
  unfold confirmation at hconfirmed
  rw [htimeout] at hconfirmed
  split at hconfirmed
  · cases hconfirmed
  · cases hconfirmed
  · next receipt hwait =>
    obtain ⟨hstatus, hreceipt⟩ := received_eq_ok hconfirmed
    exact ⟨_, receipt, SendAnswer.result_eq_ok.mp hsend, hwait, hstatus, hreceipt⟩

/-- An attempt that is followed by another fails with what does not stop the call. -/
theorem RetryRun.failed (h : self.RetryRun net k w w') :
    ∃ f, self.failed net w = some f ∧ f.stops = false := by
  obtain ⟨hx, hp, hraise, hretried⟩ := h
  unfold TxExecutor.failed
  rw [hraise.interruption hx hp]
  refine ⟨_, rfl, ?_⟩
  by_contra hstops
  rw [retried_eq_none_iff.mpr (.inl (by simpa using hstops))] at hretried
  cases hretried

/-- An attempt that ends the call with an exception fails with what stops it, or is the last one
there is. -/
theorem AttemptRun.failed (hdeadline : self.deadline = none)
    (hreserved : ∃ pending, net.pendingCount.answer = .ok pending)
    (h : self.AttemptRun net k w (.error e, w')) :
    ∃ f pending, net.pendingCount.answer = .ok pending ∧ self.failed net w = some f ∧
      (f.stops = true ∨ self.maxRetries ≤ k + 1) ∧ e = f.error self (self.issue pending w) := by
  generalize hr : (Except.error e, w') = r at h
  cases h with
  | expired hx =>
    rw [expired_of_none hdeadline] at hx
    cases hx
  | unreserved hx hp =>
    obtain ⟨pending, hok⟩ := hreserved
    rw [hok] at hp
    cases hp
  | done => cases hr
  | @handled pending broadcast cause u hx hp hraise =>
    rw [Prod.mk.injEq] at hr
    obtain ⟨houtcome, -⟩ := hr
    unfold outcome at houtcome
    split at houtcome
    · cases houtcome
    · next hnone =>
      cases houtcome
      refine ⟨.of broadcast cause, pending, hp, ?_, retried_eq_none_iff.mp hnone, ?_⟩
      · unfold TxExecutor.failed
        rw [hraise.interruption hx hp]
        rfl
      · exact failure_eq _ broadcast cause

/-- An attempt that ends the call with a receipt does not fail. -/
theorem AttemptRun.confirms (hdeadline : self.deadline = none) {r : Receipt}
    (h : self.AttemptRun net k w (.ok (.done r), w')) :
    self.failed net w = none ∧ self.Confirms net w r := by
  generalize hr : (Except.ok (Turn.done r), w') = result at h
  cases h with
  | expired => cases hr
  | unreserved => cases hr
  | handled =>
    rw [Prod.mk.injEq] at hr
    obtain ⟨houtcome, -⟩ := hr
    unfold outcome at houtcome
    split at houtcome <;> cases houtcome
  | done hx hp hret =>
    cases hr
    refine ⟨?_, hret.confirms hdeadline⟩
    unfold TxExecutor.failed
    rw [hret.interruption hp]
    rfl

end

/-! ## Calls -/

/-- `execute` with other code after the loop. -/
def executeThen (self : TxExecutor) (after : Option RawExc → SDK Receipt)
    (net : Nat → AttemptNet) (connected : Reply Bool) : SDK Receipt := do
  let _ ← getWeb3 connected
  loop (fun k _ => self.attempt (net k) k) after self.maxRetries 0 none

/-- A call from `w` that made its last attempt, the one numbered `k`, in `s` and came to
`result`. -/
structure Verdict (exe : TxExecutor) (maxRetries : ℤ) (net : Nat → AttemptNet)
    (connected : Reply Bool) (w : World) (result : Except Raised Receipt) (k : Nat) (s : World) :
    Prop where
  last : exe.Made net connected w k s
  attempts : ∀ j, (∃ t, exe.Made net connected w j t) ↔ j ≤ k
  bound : (k : ℤ) + 1 ≤ max 1 maxRetries
  /-- The attempts before the last one failed with what does not stop the call. -/
  continues : ∀ j t, j < k → exe.Made net connected w j t →
    ∃ f, exe.failed (net j) t = some f ∧ f.stops = false
  /-- The last one did, or was the last one permitted. -/
  stops : ∀ f, exe.failed (net k) s = some f → f.stops = true ∨ (k : ℤ) + 1 = max 1 maxRetries
  receipt : ∀ r, result = .ok r → exe.failed (net k) s = none ∧ exe.Confirms (net k) s r
  raises : ∀ f, exe.failed (net k) s = some f → ∃ pending,
    (net k).pendingCount.answer = .ok pending ∧ result = .error (f.error exe (exe.issue pending s))
  /-- `NonceError` comes from the last permitted attempt, unless the attempt itself raised it. -/
  nonceError : (∃ e, result = .error e ∧ e.failureClass = some .nonceError) ↔
    (k : ℤ) + 1 = max 1 maxRetries ∧ (∃ exc, exe.failed (net k) s = some (.nonceCollision exc)) ∨
      ∃ err cause, exe.failed (net k) s = some (.typed err cause) ∧
        err.failureClass = some .nonceError
  gasError : (∃ e, result = .error e ∧ e.failureClass = some .gasError) ↔
    (k : ℤ) + 1 = max 1 maxRetries ∧ (∃ exc, exe.failed (net k) s = some (.underpriced exc)) ∨
      ∃ err cause, exe.failed (net k) s = some (.typed err cause) ∧
        err.failureClass = some .gasError
  txRpcError : ∀ exc, (∃ broadcast, exe.failed (net k) s = some (.transient broadcast exc)) ∨
      exe.failed (net k) s = some (.unclassified exc) →
    result = .error ((OGPUError.txRpcError exc.text).from (.raw exc))

section

variable {net : Nat → AttemptNet} {connected : Reply Bool} {w w' s : World} {k : Nat}

/-- The code after the loop is never run: it may as well be any other. -/
theorem exec_executeThen (self : TxExecutor) (after : Option RawExc → SDK Receipt)
    (net : Nat → AttemptNet) (connected : Reply Bool) (w : World) :
    (self.executeThen after net connected).exec w = (self.execute net connected).exec w := by
  have hrun := self.execute_run net connected w
  generalize (self.execute net connected).exec w = r at hrun
  unfold executeThen
  cases hrun with
  | unconnected hw => rw [exec_bind_error hw]
  | raised hm ha =>
    have hk := hm.lt_maxRetries
    obtain ⟨url, w₀, b, hw, hreached⟩ := hm
    rw [exec_bind_ok hw]
    exact hreached.raised after (by omega) (ha.exec_eq _ _)
  | done hm ha =>
    have hk := hm.lt_maxRetries
    obtain ⟨url, w₀, b, hw, hreached⟩ := hm
    rw [exec_bind_ok hw]
    exact hreached.done after (by omega) (ha.exec_eq _ _)

/-- The attempts of a call that ends with attempt `k`. -/
theorem Made.attempts_iff (h : self.Made net connected w k s)
    {a : Except Raised (Turn Receipt (Option RawExc))} (ha : self.AttemptRun (net k) k s (a, w'))
    (hlast : ∀ exc, a ≠ .ok (.next exc)) (j : Nat) :
    (∃ t, self.Made net connected w j t) ↔ j ≤ k := by
  constructor
  · rintro ⟨t, ht⟩
    exact ht.le_last h ha hlast
  · intro hj
    rcases Nat.lt_or_eq_of_le hj with hlt | rfl
    · obtain ⟨t, _, ht, -⟩ := h.earlier hlt
      exact ⟨t, ht⟩
    · exact ⟨s, h⟩

theorem Made.continues (h : self.Made net connected w k s) {j : Nat} {t : World} (hj : j < k)
    (ht : self.Made net connected w j t) :
    ∃ f, self.failed (net j) t = some f ∧ f.stops = false := by
  obtain ⟨u, u', hu, hretry⟩ := h.earlier hj
  cases ht.unique hu
  exact hretry.failed

/-- The class of what is raised after a failure that stops the call or ends it. -/
theorem Failure.class_iff {f : Failure} {last : Prop} (hstops : f.stops = true ∨ last)
    (c : FailureClass) : f.failureClass = some c ↔
      (c = .nonceError ∧ last ∧ ∃ exc, f = .nonceCollision exc) ∨
      (c = .gasError ∧ last ∧ ∃ exc, f = .underpriced exc) ∨
      (c = .txRpcError ∧ ((∃ broadcast exc, f = .transient broadcast exc) ∨
        ∃ exc, f = .unclassified exc)) ∨
      ∃ err cause, f = .typed err cause ∧ err.failureClass = some c := by
  cases f with
  | nonceCollision exc | underpriced exc =>
    have hlast : last := hstops.resolve_left Bool.false_ne_true
    simp [failureClass, hlast, eq_comm]
  | _ => simp [failureClass, eq_comm]

/-- A call whose last attempt fails. -/
theorem Made.verdict_failed {m : ℤ} (hmax : self.maxRetries = (max 1 m).toNat)
    (h : self.Made net connected w k s) (ha : self.AttemptRun (net k) k s (.error e, w'))
    {f : Failure} {pending : Nat} (hp : (net k).pendingCount.answer = .ok pending)
    (hf : self.failed (net k) s = some f) (hstops : f.stops = true ∨ self.maxRetries ≤ k + 1)
    (he : e = f.error self (self.issue pending s)) :
    self.Verdict m net connected w (.error e) k s := by
  have hk := h.lt_maxRetries
  have hlast : f.stops = true ∨ (k : ℤ) + 1 = max 1 m := by
    rcases hstops with hstops | hle
    · exact .inl hstops
    · exact .inr (by omega)
  have hclass : ∀ c, (∃ e', (Except.error e : Except Raised Receipt) = .error e' ∧
      e'.failureClass = some c) ↔ f.failureClass = some c := by
    intro c
    simp [he, Failure.error_failureClass]
  exact {
    last := h
    attempts := h.attempts_iff ha (by simp)
    bound := by omega
    continues := fun _ _ hj ht => h.continues hj ht
    stops := by
      rintro f' hf'
      cases hf.symm.trans hf'
      exact hlast
    receipt := by rintro r ⟨⟩
    raises := by
      rintro f' hf'
      cases hf.symm.trans hf'
      exact ⟨pending, hp, by rw [he]⟩
    nonceError := by
      rw [hclass, Failure.class_iff hlast]
      simp [hf]
    gasError := by
      rw [hclass, Failure.class_iff hlast]
      simp [hf]
    txRpcError := by
      rintro exc (⟨broadcast, hf'⟩ | hf') <;> cases hf.symm.trans hf' <;> rw [he] <;> rfl }

/-- A call whose last attempt gets a receipt. -/
theorem Made.verdict_confirmed {m : ℤ} {r : Receipt} (hmax : self.maxRetries = (max 1 m).toNat)
    (h : self.Made net connected w k s)
    (ha : self.AttemptRun (net k) k s (.ok (.done r), w')) (hf : self.failed (net k) s = none)
    (hr : self.Confirms (net k) s r) : self.Verdict m net connected w (.ok r) k s := by
  have hk := h.lt_maxRetries
  exact {
    last := h
    attempts := h.attempts_iff ha (by simp)
    bound := by omega
    continues := fun _ _ hj ht => h.continues hj ht
    stops := by simp [hf]
    receipt := by
      rintro r ⟨⟩
      exact ⟨hf, hr⟩
    raises := by simp [hf]
    nonceError := by simp [hf]
    gasError := by simp [hf]
    txRpcError := by simp [hf] }

/-- Every call without a deadline whose reservations succeed raises what `_get_web3()` does, or
comes to a verdict; and the code after its loop is never run. -/
theorem execute_verdict (call : ContractCall) (signer : Account) (value : ℤ)
    (context : Option String) (maxRetries : ℤ) (receiptTimeout : ℚ) (budget : Option ℚ)
    (connected : Reply Bool) (w : World)
    (hreserved : ∀ k, ∃ pending, (net k).pendingCount.answer = .ok pending) :
    let exe := init call signer value context maxRetries receiptTimeout none budget
    ((∃ e w₀, (getWeb3 connected).exec w = (.error e, w₀) ∧
        (exe.execute net connected).exec w = (.error e, w₀)) ∨
      ∃ k s, exe.Verdict maxRetries net connected w ((exe.execute net connected).exec w).1 k s) ∧
    ∀ after, (exe.executeThen after net connected).exec w = (exe.execute net connected).exec w := by
  intro exe
  refine ⟨?_, fun after => exe.exec_executeThen after net connected w⟩
  have hrun := exe.execute_run net connected w
  generalize (exe.execute net connected).exec w = r at hrun
  cases hrun with
  | unconnected hw => exact .inl ⟨_, _, hw, rfl⟩
  | @raised k s w' e hm ha =>
    obtain ⟨f, pending, hp, hf, hstops, he⟩ := ha.failed rfl (hreserved k)
    exact .inr ⟨k, s, hm.verdict_failed rfl ha hp hf hstops he⟩
  | @done k s w' r hm ha =>
    obtain ⟨hf, hr⟩ := ha.confirms rfl
    exact .inr ⟨k, s, hm.verdict_confirmed rfl ha hf hr⟩

/-- A node that has the first nonce already, and mines the second transaction. -/
def behind (k : Nat) : AttemptNet :=
  { AttemptNet.prompt 7 with
    send := if k = 0 then .rejected (.raw ⟨.exception "ValueError", "nonce too low"⟩)
      else .accepted (.str "0x01") }

theorem execute_verdict_behind :
    ∃ k s, trial.Verdict 3 behind ⟨⟨0, 0⟩, .ok true⟩ (.imported ⟨0, 0⟩)
      ((trial.execute behind ⟨⟨0, 0⟩, .ok true⟩).exec (.imported ⟨0, 0⟩)).1 k s := by
  have hreserved : ∀ k, ∃ pending, (behind k).pendingCount.answer = .ok pending :=
    fun _ => ⟨7, rfl⟩
  obtain ⟨hverdict, -⟩ := execute_verdict ⟨0x1#160, "vote", []⟩ ⟨0x2#160, "key"⟩ 0 none 3
    DEFAULT_RECEIPT_TIMEOUT none ⟨⟨0, 0⟩, .ok true⟩ (.imported ⟨0, 0⟩) hreserved
  rcases hverdict with ⟨e, w₀, hw, -⟩ | hverdict
  · have hconnected : ((getWeb3 ⟨⟨0, 0⟩, .ok true⟩).exec (.imported ⟨0, 0⟩)).1.isOk = true := by
      decide +kernel
    rw [hw] at hconnected
    cases hconnected
  · exact hverdict

end

end TxExecutor

end OgpuSdk
