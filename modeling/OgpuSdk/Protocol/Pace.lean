import OgpuSdk.Protocol.Runs
import Mathlib.Tactic.Linarith

/-!
# How long an attempt takes

Where only receipt waits and sleeps take time, an attempt takes as long as its
receipt wait and its backoff, and both are functions of what the outside
answers and the world before it: `waited` and `paused`. The receipt wait is
clipped to what is left of the deadline, but for its floor of one second; the
backoff is not.
-/

namespace OgpuSdk

open Prog

/-- Only the receipt wait, which keeps to its timeout, and the sleep take time. -/
structure AttemptNet.Punctual (net : AttemptNet) : Prop where
  pendingCount : net.pendingCount.took.mono = 0
  build : net.build.took.mono = 0
  sign : net.sign.took.mono = 0
  send : net.sendTook.mono = 0
  wait : ∀ timeout, (net.wait timeout).took.mono ≤ max timeout 0
  sleep : ∀ seconds, 0 ≤ seconds → (net.sleep seconds).mono = seconds

theorem AttemptNet.prompt_punctual (pending : Nat) : (prompt pending).Punctual where
  pendingCount := rfl
  build := rfl
  sign := rfl
  send := rfl
  wait := fun _ => le_max_right _ _
  sleep := fun _ h => Rat.coe_toNNRat _ h

namespace TxExecutor

variable (self : TxExecutor) (net : AttemptNet)

/-- How long the receipt wait of an attempt made in `w` takes, if there is one. -/
def waited (w : World) : ℚ :=
  match self.sending net w, net.send.result with
  | some _, .ok _ => (net.wait (self.effectiveTimeout (sentClock net w.clock).mono)).took.mono
  | _, _ => 0

/-- What an attempt made at `c` raises in its `try` block, and whether its send had returned. -/
def interruption (c : Clock) : Option (Bool × Raised) :=
  if self.expired c.mono then none
  else match net.pendingCount.answer with
    | .error _ => none
    | .ok _ =>
      match self.fault net (c.advance net.pendingCount.took), net.send.result with
      | some e, _ => some (false, e)
      | none, .error exc => some (false, exc.raised)
      | none, .ok hash =>
        match self.confirmation net hash (sentClock net c) with
        | .error e => some (true, e)
        | .ok _ => none

/-- The exception attempt `k`, made at `c`, is retried on. -/
def retriedOn (k : Nat) (c : Clock) : Option RawExc :=
  (self.interruption net c).bind fun i => self.retried k i.1 i.2

/-- How long attempt `k`, made at `c`, sleeps before the next one. -/
def paused (k : Nat) (c : Clock) : ℚ := ((self.retriedOn net k c).bind backoff).getD 0

variable {self net} {w w' : World} {k : Nat}

theorem Raises.interruption {pending : Nat} {broadcast : Bool} {e : Raised}
    (hx : self.expired w.clock.mono = false) (hp : net.pendingCount.answer = .ok pending)
    (h : self.Raises net (self.issue pending w) (self.reserved net pending w) broadcast e w') :
    self.interruption net w.clock = some (broadcast, e) := by
  unfold TxExecutor.interruption
  rw [hx, hp]
  cases h with
  | unsent hf =>
    rw [reserved_clock] at hf
    simp [hf]
  | refused hf hs =>
    rw [reserved_clock] at hf
    simp [hf, hs]
  | unconfirmed hf hs hc =>
    rw [reserved_clock] at hf
    rw [sent_reserved_clock] at hc
    simp [hf, hs, hc]

theorem Returns.interruption {pending : Nat} {r : Receipt}
    (hp : net.pendingCount.answer = .ok pending)
    (h : self.Returns net (self.issue pending w) (self.reserved net pending w) r w') :
    self.interruption net w.clock = none := by
  unfold TxExecutor.interruption
  obtain ⟨hf, hs, hc⟩ := h
  rw [reserved_clock] at hf
  rw [sent_reserved_clock] at hc
  simp [hp, hf, hs, hc]

/-- What kept an attempt from its send kept it from waiting as well. -/
theorem waited_of_none (h : self.sending net w = none) : self.waited net w = 0 := by
  unfold waited
  rw [h]

theorem waited_of_error {exc : Exc} (h : net.send.result = .error exc) :
    self.waited net w = 0 := by
  unfold waited
  rw [h]
  cases self.sending net w <;> rfl

theorem backoff_nonneg {exc : RawExc} {b : ℚ} (h : backoff exc = some b) : 0 ≤ b := by
  unfold backoff at h
  split_ifs at h <;> cases h <;> decide

/-! ## The clock after an attempt -/

section

variable (hnet : net.Punctual)
include hnet

theorem sentClock_mono (c : Clock) : (sentClock net c).mono = c.mono := by
  simp [sentClock, sendClock, readyClock, hnet.pendingCount, hnet.build, hnet.sign, hnet.send]

theorem faultAt_mono : (faultAt net w).clock.mono = w.clock.mono := by
  unfold faultAt
  cases net.build.answer <;> simp [ready, hnet.build, hnet.sign]

theorem slept_mono (exc : RawExc) :
    (slept net exc w).clock.mono = w.clock.mono + (backoff exc).getD 0 := by
  unfold slept
  cases hb : backoff exc with
  | none => simp
  | some b =>
    have hsleep := hnet.sleep b (backoff_nonneg hb)
    simp [hsleep]

theorem settled_mono (broadcast : Bool) (e : Raised) :
    (self.settled net k broadcast e w).clock.mono =
      w.clock.mono + ((self.retried k broadcast e).bind backoff).getD 0 := by
  have hdrop : (if resets e then self.dropped w else w).clock = w.clock := by
    cases resets e <;> rfl
  unfold settled
  cases self.retried k broadcast e with
  | none => simp [hdrop]
  | some exc =>
    rw [slept_mono hnet, hdrop]
    rfl

theorem awaited_mono {pending : Nat} {hash : TxHash} (hx : self.expired w.clock.mono = false)
    (hp : net.pendingCount.answer = .ok pending)
    (hf : self.fault net (w.clock.advance net.pendingCount.took) = none)
    (hs : net.send.result = .ok hash) :
    (self.awaited net hash (self.sent net (self.issue pending w)
      (self.reserved net pending w))).clock.mono = w.clock.mono + self.waited net w := by
  have hsending := sending_eq_some.mpr ⟨pending, hp, hx, hf, rfl⟩
  unfold waited awaited
  rw [hsending, hs, World.advance_clock, World.record_clock, sent_reserved_clock,
    Clock.advance_mono, sentClock_mono hnet]

theorem Raises.mono {pending : Nat} {broadcast : Bool} {e : Raised}
    (hx : self.expired w.clock.mono = false) (hp : net.pendingCount.answer = .ok pending)
    (h : self.Raises net (self.issue pending w) (self.reserved net pending w) broadcast e w') :
    w'.clock.mono = w.clock.mono + self.waited net w := by
  have hreserved : (self.reserved net pending w).clock.mono = w.clock.mono := by
    simp [hnet.pendingCount]
  cases h with
  | unsent hf =>
    rw [reserved_clock] at hf
    have hnone : self.sending net w = none := by
      unfold sending
      simp [hp, hx, hf]
    rw [waited_of_none hnone, add_zero, ← hreserved]
    exact faultAt_mono hnet
  | refused hf hs =>
    rw [waited_of_error hs, add_zero]
    exact sentClock_mono hnet w.clock
  | unconfirmed hf hs _ => exact awaited_mono hnet hx hp hf hs

/-- An attempt takes its receipt wait and its backoff, and nothing more. -/
theorem AttemptRun.mono {a : Except Raised (Turn Receipt (Option RawExc))}
    (h : self.AttemptRun net k w (a, w')) :
    w'.clock.mono = w.clock.mono + self.waited net w + self.paused net k w.clock := by
  generalize hr : (a, w') = r at h
  cases h with
  | expired hx =>
    cases hr
    rw [waited_of_none (sending_eq_none (.inl hx))]
    simp [paused, retriedOn, interruption, hx]
  | unreserved hx hp =>
    cases hr
    rw [waited_of_none (sending_eq_none (.inr ⟨_, hp⟩))]
    simp [paused, retriedOn, interruption, hx, hp, hnet.pendingCount]
  | handled hx hp hraise =>
    cases hr
    rw [settled_mono hnet, hraise.mono hnet hx hp]
    unfold paused retriedOn
    rw [hraise.interruption hx hp]
    rfl
  | done hx hp hret =>
    cases hr
    have hnone := hret.interruption hp
    obtain ⟨hf, hs, -⟩ := hret
    rw [awaited_mono hnet hx hp hf hs]
    simp [paused, retriedOn, hnone]

/-- With a second or more left, the receipt wait keeps within the deadline. -/
theorem waited_le {d : ℚ} (hd : self.deadline = some d) (h : w.clock.mono + 1 ≤ d) :
    w.clock.mono + self.waited net w ≤ d := by
  unfold waited
  split
  · have hwait := hnet.wait (self.effectiveTimeout (sentClock net w.clock).mono)
    have htimeout : self.effectiveTimeout (sentClock net w.clock).mono ≤ d - w.clock.mono := by
      unfold effectiveTimeout
      rw [hd, sentClock_mono hnet]
      dsimp only
      rw [max_eq_left (by linarith)]
      exact min_le_right _ _
    have hmax : max (self.effectiveTimeout (sentClock net w.clock).mono) 0 ≤ d - w.clock.mono :=
      max_le htimeout (by linarith)
    linarith
  · linarith

end

/-- Attempt `k`, made in `w`, keeps within `d`: with less than a second left its receipt wait takes
no longer than what is left, and a backoff after it neither. -/
structure InBudget (self : TxExecutor) (net : AttemptNet) (d : ℚ) (k : Nat) (w : World) : Prop where
  wait : d < w.clock.mono + 1 → w.clock.mono + self.waited net w ≤ d
  backoff : ∀ exc b, self.retriedOn net k w.clock = some exc → backoff exc = some b →
    w.clock.mono + self.waited net w + b ≤ d

/-- An attempt ends in time exactly when it keeps within the budget. -/
theorem AttemptRun.mono_le_iff {a : Except Raised (Turn Receipt (Option RawExc))} {d : ℚ}
    (hnet : net.Punctual) (hd : self.deadline = some d) (h : self.AttemptRun net k w (a, w')) :
    w'.clock.mono ≤ d ↔ self.InBudget net d k w := by
  rw [h.mono hnet]
  constructor
  · intro hle
    refine ⟨fun _ => ?_, fun exc b hexc hb => ?_⟩
    · have hpaused : 0 ≤ self.paused net k w.clock := by
        unfold paused
        cases hb : (self.retriedOn net k w.clock).bind TxExecutor.backoff with
        | none => exact le_refl _
        | some b =>
          obtain ⟨exc, -, hb⟩ := Option.bind_eq_some_iff.mp hb
          exact backoff_nonneg hb
      linarith
    · unfold paused at hle
      rw [hexc, Option.bind_some, hb] at hle
      exact hle
  · rintro ⟨hwait, hbackoff⟩
    have hwaited : w.clock.mono + self.waited net w ≤ d := by
      rcases le_or_gt (w.clock.mono + 1) d with hle | hlt
      · exact waited_le hnet hd hle
      · exact hwait hlt
    unfold paused
    cases hb : (self.retriedOn net k w.clock).bind TxExecutor.backoff with
    | none => simpa using hwaited
    | some b =>
      obtain ⟨exc, hexc, hb⟩ := Option.bind_eq_some_iff.mp hb
      exact hbackoff exc b hexc hb

end TxExecutor

end OgpuSdk
