import OgpuSdk.Ipfs.Runs
import OgpuSdk.Lib.Invariant
import Mathlib.Tactic.Linarith

/-!
# How long an upload takes

Without a deadline the timeouts add up, and the pauses double: `allowance` is
what the first attempts may take. With a deadline every request and every
pause is clipped to what is left of it, so it is not overrun.
-/

namespace OgpuSdk

open Prog

/-- The deadline `d` has not been overrun. -/
def World.Within (d : ℚ) (w : World) : Prop := w.clock.mono ≤ d

/-- A request keeps to its timeout, and a sleep lasts what it is asked to. -/
structure PostNet.Punctual (net : PostNet) : Prop where
  post : ∀ timeout, (net.post timeout).took.mono ≤ max timeout 0
  sleep : ∀ seconds, 0 ≤ seconds → (net.sleep seconds).mono = seconds

namespace IpfsPublish

/-! ## With a deadline -/

section

variable {self : IpfsPublish} {net : PostNet} {d : ℚ}

theorem within_pause (hd : self.deadline = some d) (hnet : net.Punctual) (k : Nat) :
    Preserves (World.Within d) (self.pause net k) := by
  intro w hw
  unfold pause
  rw [exec_bind_ok (SDK.exec_monotonic w)]
  cases hs : self.sleepFor k w.clock.mono with
  | error exc => exact hw
  | ok seconds =>
    rw [exec_bind_ok (SDK.exec_lift_ok w seconds)]
    split
    · next hpos =>
      cases seconds.unsleepable with
      | some exc => exact hw
      | none =>
        dsimp only
        rw [SDK.exec_sleep]
        have hsleep := hnet.sleep _ (le_of_lt hpos)
        have hle := sleepFor_le hd hs
        rw [max_eq_left (sub_nonneg.mpr hw)] at hle
        show w.clock.mono + _ ≤ d
        rw [hsleep]
        linarith
    · exact hw

theorem within_conclude (hd : self.deadline = some d) (hnet : net.Punctual) (k : Nat)
    (answer : Except Exc HttpResponse) :
    Preserves (World.Within d) (self.conclude net k answer) := by
  unfold conclude
  split
  · exact .raise _
  · exact .pure _
  · split
    · exact .bind (within_pause hd hnet k) fun _ => .pure _
    · exact .pure _

theorem within_attempt (hd : self.deadline = some d) (hnet : net.Punctual) (k : Nat)
    (lastError : Option LastError) :
    Preserves (World.Within d) (self.attempt net k lastError) := by
  intro w hw
  unfold attempt
  rw [exec_bind_ok (SDK.exec_monotonic w)]
  cases hx : self.exhausted w.clock.mono with
  | true => exact hw
  | false =>
    simp only [Bool.false_eq_true, if_false]
    rw [exec_bind_ok (SDK.exec_record _ _), exec_bind_ok (SDK.exec_elapse _ _)]
    refine within_conclude hd hnet k _ _ ?_
    -- The request is given no more than what is left, which is something.
    have hpost := hnet.post (self.effectiveTimeout w.clock.mono)
    unfold exhausted at hx
    rw [hd, Option.any_some, decide_eq_false_iff_not, not_le] at hx
    have hle : self.effectiveTimeout w.clock.mono ≤ d - w.clock.mono := by
      unfold effectiveTimeout
      rw [hd]
      exact min_le_right _ _
    have hmax : max (self.effectiveTimeout w.clock.mono) 0 ≤ d - w.clock.mono :=
      max_le hle (le_of_lt hx)
    show w.clock.mono + _ ≤ d
    linarith

theorem within_run {net : Nat → PostNet} (hd : self.deadline = some d)
    (hnet : ∀ k, (net k).Punctual) : Preserves (World.Within d) (self.run net) := by
  refine .loop (fun k lastError => within_attempt hd (hnet k) k lastError) ?_ _ _ _
  intro lastError
  rcases lastError with _ | text | statusCode <;> exact .raise _

end

/-- A call that is made when its deadline has passed ends at once. -/
theorem run_late {self : IpfsPublish} {d : ℚ} {w : World} (hd : self.deadline = some d)
    (hlate : d ≤ w.clock.mono) (net : Nat → PostNet) :
    (self.run net).exec w = (.error (OGPUError.ipfsFetchError IPFS_PUBLISH_URL
      "publish budget exhausted before any attempt").raised, w) := by
  have hx : self.exhausted w.clock.mono = true := by
    unfold exhausted
    rw [hd, Option.any_some, decide_eq_true_eq]
    exact sub_nonpos.mpr hlate
  have hturn : (self.attempt (net 0) 0 none).exec w = (.ok (.stop none), w) := by
    unfold attempt
    rw [exec_bind_ok (SDK.exec_monotonic w), hx]
    rfl
  obtain ⟨n, hn⟩ : ∃ n, self.attempts = n + 1 := by
    refine ⟨self.attempts - 1, ?_⟩
    unfold attempts
    omega
  unfold run
  rw [hn, loop, exec_bind_ok hturn]
  rfl

/-- The requests made since `w` were all given time. -/
def Timely (w s : World) : Prop := ∃ posts, s.posts = w.posts ++ posts ∧ ∀ post ∈ posts, 0 < post.2

theorem effectiveTimeout_pos {self : IpfsPublish} (htimeout : 0 < self.timeout) {now : ℚ}
    (hx : self.exhausted now = false) : 0 < self.effectiveTimeout now := by
  unfold effectiveTimeout
  unfold exhausted at hx
  cases hd : self.deadline with
  | none => exact htimeout
  | some d =>
    rw [hd, Option.any_some, decide_eq_false_iff_not, not_le] at hx
    exact lt_min htimeout hx

theorem timely_run {self : IpfsPublish} (htimeout : 0 < self.timeout) (net : Nat → PostNet)
    (w : World) : Timely w ((self.run net).exec w).2 := by
  refine Preserves.loop (I := Timely w) ?_ ?_ _ _ _ w ⟨[], by simp, by simp⟩
  · intro k b s hs
    have hrun := self.attempt_run (net k) k b s
    have hposted : self.exhausted s.clock.mono = false → Timely w (self.posted (net k) s) := by
      intro hx
      obtain ⟨posts, hposts, hpos⟩ := hs
      refine ⟨posts ++ [(self.file, self.effectiveTimeout s.clock.mono)], by simp [hposts], ?_⟩
      intro post hpost
      rcases List.mem_append.mp hpost with hpost | hpost
      · exact hpos post hpost
      · rw [List.mem_singleton.mp hpost]
        exact effectiveTimeout_pos htimeout hx
    generalize (self.attempt (net k) k b).exec s = r at hrun
    cases hrun with
    | exhausted => exact hs
    | raised hx _ => exact hposted hx
    | done hx _ => exact hposted hx
    | next hx _ _ =>
      obtain ⟨posts, hposts, hpos⟩ := hposted hx
      exact ⟨posts, by rw [posts_rested, hposts], hpos⟩
    | overflowed hx _ _ _ => exact hposted hx
  · intro b
    rcases b with _ | text | statusCode <;> exact .raise _

/-! ## Without one -/

section

variable {self : IpfsPublish} {net : Nat → PostNet} {w s : World} {b : Option LastError} {k : Nat}

/-- What the first `k` attempts may take: their timeouts, and the pauses between attempts. -/
def allowance (self : IpfsPublish) (k : Nat) : ℚ :=
  k * self.timeout + self.backoff.value * (2 ^ min k (self.attempts - 1) - 1)

theorem allowance_succ (k : Nat) :
    self.allowance (k + 1) =
      self.allowance k + self.timeout +
        if k + 1 < self.attempts then self.backoff.value * 2 ^ k else 0 := by
  unfold allowance
  by_cases hk : k + 1 < self.attempts
  · have h1 : min k (self.attempts - 1) = k := by omega
    have h2 : min (k + 1) (self.attempts - 1) = k + 1 := by omega
    rw [if_pos hk, h1, h2, pow_succ]
    push_cast
    ring
  · have h : min (k + 1) (self.attempts - 1) = min k (self.attempts - 1) := by omega
    rw [if_neg hk, h]
    push_cast
    ring

theorem allowance_attempts : self.allowance self.attempts =
    self.attempts * self.timeout + self.backoff.value * (2 ^ (self.attempts - 1) - 1) := by
  have h : min self.attempts (self.attempts - 1) = self.attempts - 1 := by omega
  unfold allowance
  rw [h]

variable (htimeout : 0 < self.timeout) (hbackoff : 0 ≤ self.backoff.value)
include htimeout hbackoff

theorem allowance_mono {j : Nat} (h : k ≤ j) : self.allowance k ≤ self.allowance j := by
  induction h with
  | refl => exact le_refl _
  | @step j _ ih =>
    have hpause : 0 ≤ if j + 1 < self.attempts then self.backoff.value * 2 ^ j else 0 := by
      split
      · positivity
      · exact le_refl _
    have := self.allowance_succ j
    linarith

variable (hd : self.deadline = none) (hnet : ∀ k, (net k).Punctual)
include hd hnet

omit hbackoff in
theorem posted_mono_le (k : Nat) (s : World) :
    (self.posted (net k) s).clock.mono ≤ s.clock.mono + self.timeout := by
  have htaken := effectiveTimeout_of_none hd s.clock.mono
  have hpost := (hnet k).post self.timeout
  rw [max_eq_left (le_of_lt htimeout)] at hpost
  show s.clock.mono + _ ≤ _
  rw [htaken]
  linarith

omit htimeout in
theorem rested_mono_le (k : Nat) (s : World) :
    (self.rested (net k) k s).clock.mono ≤
      s.clock.mono + if k + 1 < self.attempts then self.backoff.value * 2 ^ k else 0 := by
  have hnonneg : 0 ≤ self.backoff.value * 2 ^ k := by positivity
  have hslept : self.slept k s.clock.mono ≤ self.backoff.value * 2 ^ k := by
    unfold slept
    rw [sleepFor_of_none hd]
    cases hs : self.backoff.doubled k with
    | error exc => exact hnonneg
    | ok seconds => exact le_of_eq (Seconds.value_doubled hs)
  unfold rested
  by_cases hk : k + 1 < self.attempts
  · rw [if_pos hk]
    by_cases hpos : 0 < self.slept k s.clock.mono
    · have hsleep := (hnet k).sleep _ (le_of_lt hpos)
      rw [if_pos ⟨hk, hpos⟩]
      show s.clock.mono + _ ≤ _
      rw [hsleep]
      linarith
    · rw [if_neg fun h => hpos h.2]
      linarith
  · rw [if_neg fun h => hk h.1, if_neg hk, add_zero]

/-- An attempt that is made is made within the allowance of those before it. -/
theorem reached_mono_le
    (h : Reached (fun k lastError => self.attempt (net k) k lastError) 0 none w k b s) :
    s.clock.mono ≤ w.clock.mono + self.allowance k := by
  induction h with
  | start => simp [allowance]
  | @next k b b' s s' _ hturn ih =>
    obtain ⟨lastError, -, -, rfl⟩ := attempt_next hturn
    have hposted := posted_mono_le htimeout hd hnet k s
    have hrested := rested_mono_le hbackoff hd hnet k (self.posted (net k) s)
    rw [allowance_succ]
    linarith

/-- A call without a deadline ends within the allowance of its attempts. -/
theorem run_mono_le :
    ((self.run net).exec w).2.clock.mono ≤ w.clock.mono + self.allowance self.attempts := by
  have hattempt : ∀ {k b s s' a}, k < 0 + self.attempts →
      Reached (fun k lastError => self.attempt (net k) k lastError) 0 none w k b s →
      (self.attempt (net k) k b).exec s = (a, s') →
      s'.clock.mono ≤ w.clock.mono + self.allowance self.attempts := by
    intro k b s s' a hk hreached hturn
    have hstart := reached_mono_le htimeout hbackoff hd hnet hreached
    have hposted := posted_mono_le htimeout hd hnet k s
    have hrested := rested_mono_le hbackoff hd hnet k (self.posted (net k) s)
    have hsucc := self.allowance_succ k
    have hnow := allowance_mono htimeout hbackoff (show k ≤ self.attempts by omega)
    have hnext := allowance_mono htimeout hbackoff (show k + 1 ≤ self.attempts by omega)
    have hpause : 0 ≤ if k + 1 < self.attempts then self.backoff.value * 2 ^ k else 0 := by
      split
      · positivity
      · exact le_refl _
    have hrun := self.attempt_run (net k) k b s
    rw [hturn] at hrun
    generalize hr : (a, s') = r at hrun
    cases hrun <;> cases hr <;> linarith
  have hends := loop_ends (fun k lastError => self.attempt (net k) k lastError) afterLoop
    self.attempts 0 none w
  unfold run
  generalize (loop (fun k lastError => self.attempt (net k) k lastError) afterLoop
    self.attempts 0 none).exec w = r at hends
  cases hends with
  | done hreached hk hturn => exact hattempt hk hreached hturn
  | raised hreached hk hturn => exact hattempt hk hreached hturn
  | @stopped _ _ b' _ s' hreached hk hturn =>
    obtain ⟨e, hafter⟩ := exec_afterLoop b'
    rw [hafter]
    exact hattempt hk hreached hturn
  | @usedUp b s hreached =>
    have hle := reached_mono_le htimeout hbackoff hd hnet hreached
    obtain ⟨e, hafter⟩ := exec_afterLoop b
    rw [Nat.zero_add] at hle
    rw [hafter]
    exact hle

end

end IpfsPublish

/-- The time bounds of an upload begun in `w`. -/
structure UploadInTime (upload : Option ℚ → SDK String) (timeout backoff : ℚ) (attempts : Nat)
    (w : World) : Prop where
  unlimited : ((upload none).exec w).2.clock.mono ≤
    w.clock.mono + (attempts * timeout + backoff * (2 ^ (attempts - 1) - 1))
  limited : ∀ d, ((upload (some d)).exec w).2.clock.mono ≤ max w.clock.mono d
  /-- No request is given a timeout that is not positive. -/
  timely : ∀ deadline, IpfsPublish.Timely w ((upload deadline).exec w).2
  /-- With the deadline passed there is no request: the world is left as it was. -/
  late : ∀ d, d ≤ w.clock.mono → (upload (some d)).exec w =
    (.error (OGPUError.ipfsFetchError IPFS_PUBLISH_URL
      "publish budget exhausted before any attempt").raised, w)

/-- Where requests keep to their timeouts and sleeps last what they are asked to, an upload keeps
to its time bounds. -/
theorem publishToIpfs_inTime (data : Content) (filename contentType : String) {timeout : ℚ}
    (retries : ℤ) {backoff : Seconds} {net : Nat → PostNet} (w : World) (htimeout : 0 < timeout)
    (hbackoff : 0 ≤ backoff.value) (hnet : ∀ k, (net k).Punctual) :
    UploadInTime (fun deadline =>
        publishToIpfs data filename contentType timeout retries backoff deadline net)
      timeout backoff.value (max 1 retries).toNat w where
  unlimited := by
    have hle : ((publishToIpfs data filename contentType timeout retries backoff none net).exec
        w).2.clock.mono ≤ _ := IpfsPublish.run_mono_le htimeout hbackoff rfl hnet
    rw [IpfsPublish.allowance_attempts] at hle
    exact hle
  limited := by
    intro d
    rcases le_total d w.clock.mono with hlate | hearly
    · unfold publishToIpfs
      rw [IpfsPublish.run_late rfl hlate]
      exact le_max_left _ _
    · exact le_trans (IpfsPublish.within_run rfl hnet w hearly) (le_max_right _ _)
  timely := fun _ => IpfsPublish.timely_run htimeout net w
  late := fun _ hlate => IpfsPublish.run_late rfl hlate net

/-- A service that never responds. -/
def PostNet.stalled : PostNet where
  post := fun timeout =>
    ⟨⟨timeout.toNNRat, timeout⟩, .error (.raw ⟨.requestException, "timed out"⟩)⟩
  sleep := fun seconds => ⟨seconds.toNNRat, seconds⟩

theorem publishToIpfs_inTime_stalled :
    UploadInTime (fun deadline =>
        publishToIpfs (.raw "hi") "note.txt" "text/plain" 30 3 (.float (1 / 2)) deadline fun _ =>
          .stalled)
      30 (1 / 2) 3 (.imported ⟨0, 0⟩) :=
  publishToIpfs_inTime _ _ _ 3 _ (by norm_num) (by norm_num [Seconds.value]) fun _ =>
    ⟨fun _ => le_refl _, fun _ h => Rat.coe_toNNRat _ h⟩

end OgpuSdk
