import OgpuSdk.Protocol.Pace

/-!
# When an attempt gets to its send

The clock at each attempt of a call is the clock the loop starts at and what
the attempts before it took: their count reads, builds and signings, their
sends and receipt waits as far as they got to them, and their backoffs.
`clockAt` adds these up from the answers of the node, and `Tries` and
`GetsToSend` say from the same answers which attempts are made, and which of
them get to their send.
-/

namespace OgpuSdk.TxExecutor

open Prog

section

variable (self : TxExecutor) (net : AttemptNet)

/-- The clock when the `try` block of an attempt made at `c` is left. -/
def leftClock (c : Clock) : Clock :=
  match net.build.answer with
  | .error _ => (c.advance net.pendingCount.took).advance net.build.took
  | .ok _ =>
    match self.fault net (c.advance net.pendingCount.took), net.send.result with
    | some _, _ => sendClock net c
    | none, .error _ => sentClock net c
    | none, .ok _ =>
      (sentClock net c).advance (net.wait (self.effectiveTimeout (sentClock net c).mono)).took

/-- The clock after the backoff that follows attempt `k`, made at `c`. -/
def retryClock (k : Nat) (c : Clock) : Clock :=
  match (self.retriedOn net k c).bind backoff with
  | some seconds => (self.leftClock net c).advance (net.sleep seconds)
  | none => self.leftClock net c

/-- An attempt made at `c` gets to its send: the pending count is read, the transaction built and
signed, and the deadline passed at neither check. -/
structure GetsToSend (c : Clock) : Prop where
  reserved : ∃ pending, net.pendingCount.answer = .ok pending
  prepared : net.preSend = none
  start : self.expired c.mono = false
  check : self.expired (sendClock net c).mono = false

end

/-- The clock when attempt `k` of a call is made, whose loop starts at `c`. -/
def clockAt (self : TxExecutor) (net : Nat → AttemptNet) (c : Clock) : Nat → Clock
  | 0 => c
  | k + 1 => self.retryClock (net k) k (clockAt self net c k)

/-- A call whose loop starts at `c` makes attempt `k`: it retries on what each one before fails
with. -/
def Tries (self : TxExecutor) (net : Nat → AttemptNet) (c : Clock) (k : Nat) : Prop :=
  ∀ j < k, (self.retriedOn (net j) j (self.clockAt net c j)).isSome = true

variable {self : TxExecutor}

section

variable {net : AttemptNet} {k : Nat} {w w' : World}

theorem getsToSend_iff : self.GetsToSend net w.clock ↔ ∃ tx, self.sending net w = some tx := by
  constructor
  · rintro ⟨⟨pending, hp⟩, hpre, hx, hcheck⟩
    refine ⟨_, sending_eq_some.mpr ⟨pending, hp, hx, ?_, rfl⟩⟩
    unfold fault
    rw [hpre]
    exact if_neg (by simpa [sendClock] using hcheck)
  · rintro ⟨tx, hs⟩
    have hcheck := sending_clock hs
    obtain ⟨pending, hp, hx, hf, -⟩ := sending_eq_some.mp hs
    exact ⟨⟨pending, hp⟩, preSend_of_fault hf, hx, hcheck⟩

theorem Raises.leftClock {pending : Nat} {broadcast : Bool} {e : Raised}
    (h : self.Raises net (self.issue pending w) (self.reserved net pending w) broadcast e w') :
    w'.clock = self.leftClock net w.clock := by
  unfold TxExecutor.leftClock
  cases h with
  | unsent hf =>
    rw [reserved_clock] at hf
    unfold faultAt handedBack
    cases net.build.answer with
    | error exc => rfl
    | ok _ =>
      rw [hf]
      rfl
  | refused hf hs =>
    rw [reserved_clock] at hf
    cases hb : net.build.answer with
    | error exc =>
      have hpre := preSend_of_fault hf
      simp [AttemptNet.preSend, hb] at hpre
    | ok _ =>
      rw [hf, hs]
      rfl
  | unconfirmed hf hs _ =>
    rw [reserved_clock] at hf
    cases hb : net.build.answer with
    | error exc =>
      have hpre := preSend_of_fault hf
      simp [AttemptNet.preSend, hb] at hpre
    | ok _ =>
      rw [hf, hs]
      rfl

/-- An attempt that is followed by another is one the call retries on, and the next is made when
its backoff is over. -/
theorem RetryRun.retryClock (h : self.RetryRun net k w w') :
    (self.retriedOn net k w.clock).isSome = true ∧
      w'.clock = self.retryClock net k w.clock := by
  obtain @⟨pending, broadcast, e, w', exc, hx, hp, hraise, hre⟩ := h
  have hon : self.retriedOn net k w.clock = some exc := by
    unfold retriedOn
    rw [hraise.interruption hx hp]
    exact hre
  have hdropped : (if resets e then self.dropped w' else w').clock = self.leftClock net w.clock := by
    rw [← hraise.leftClock]
    cases resets e <;> rfl
  refine ⟨by rw [hon]; rfl, ?_⟩
  unfold TxExecutor.retryClock slept
  rw [hon, Option.bind_some]
  cases backoff exc with
  | none => exact hdropped
  | some seconds => exact congrArg (Clock.advance · (net.sleep seconds)) hdropped

/-- What the call retries on is followed by another attempt. -/
theorem exists_retryRun (h : (self.retriedOn net k w.clock).isSome = true) :
    ∃ w', self.RetryRun net k w w' := by
  have hrun := self.attempt_run net k w
  generalize (self.attempt net k).exec w = r at hrun
  cases hrun with
  | expired hx => simp [retriedOn, interruption, hx] at h
  | unreserved hx hp => simp [retriedOn, interruption, hx, hp] at h
  | done hx hp hret => simp [retriedOn, hret.interruption hp] at h
  | handled hx hp hraise =>
    unfold retriedOn at h
    rw [hraise.interruption hx hp, Option.bind_some, Option.isSome_iff_exists] at h
    obtain ⟨exc, hre⟩ := h
    exact ⟨_, .mk hx hp hraise hre⟩

end

variable {net : Nat → AttemptNet} {connected : Reply Bool} {w w₀ s : World} {url : Url} {k : Nat}

theorem Made.clockAt (h : self.Made net connected w k s)
    (hw : (getWeb3 connected).exec w = (.ok url, w₀)) :
    self.Tries net w₀.clock k ∧ s.clock = self.clockAt net w₀.clock k := by
  refine h.induct (fun k s => self.Tries net w₀.clock k ∧ s.clock = self.clockAt net w₀.clock k)
    ?_ ?_
  · intro url' w' hw'
    cases hw.symm.trans hw'
    exact ⟨fun j hj => absurd hj (Nat.not_lt_zero j), rfl⟩
  · rintro j t t' - ⟨htries, hclock⟩ hretry
    obtain ⟨hon, hclock'⟩ := hretry.retryClock
    rw [hclock] at hon hclock'
    refine ⟨fun i hi => ?_, hclock'⟩
    rcases Nat.lt_or_eq_of_le (Nat.le_of_lt_succ hi) with hlt | rfl
    · exact htries i hlt
    · exact hon

theorem Tries.made (hw : (getWeb3 connected).exec w = (.ok url, w₀))
    (h : self.Tries net w₀.clock k) : ∃ s, self.Made net connected w k s := by
  induction k with
  | zero => exact ⟨w₀, .start hw⟩
  | succ k ih =>
    obtain ⟨s, hm⟩ := ih fun j hj => h j (by omega)
    have hon := h k (Nat.lt_succ_self k)
    rw [← (hm.clockAt hw).2] at hon
    obtain ⟨s', hretry⟩ := exists_retryRun hon
    exact ⟨s', hm.next hretry⟩

end OgpuSdk.TxExecutor
