import OgpuSdk.Ipfs.Publish

/-!
# What one upload attempt does

`attempt_run` says once what a turn of the retry loop of `publish_to_ipfs` can
do: find no time left, or make its request and then raise, return the link, or
rest before the next turn, unless the rest is too long to be made.
-/

namespace OgpuSdk

open Prog

/-- The upload an operation makes, with the timeout it is given. -/
def Op.post? : Op → Option (Upload × ℚ)
  | .post file timeout => some (file, timeout)
  | _ => none

/-- The uploads made so far. -/
def World.posts (w : World) : List (Upload × ℚ) := w.events.filterMap (·.op.post?)

@[simp] theorem World.posts_advance (w : World) (e : Elapsed) : (w.advance e).posts = w.posts := rfl

@[simp] theorem World.posts_record (w : World) (op : Op) :
    (w.record op).posts = w.posts ++ op.post?.toList := by
  unfold posts
  rw [record_events, List.filterMap_append]
  cases h : op.post? <;> simp [h]

theorem Seconds.value_doubled {x y : Seconds} {k : Nat} (h : x.doubled k = .ok y) :
    y.value = x.value * 2 ^ k := by
  cases x with
  | int n =>
    cases h
    simp [value]
  | float x =>
    by_cases hk : k < 1024
    · simp only [doubled, if_pos hk, Except.ok.injEq] at h
      rw [← h]
      rfl
    · simp [doubled, if_neg hk] at h

namespace IpfsPublish

variable (self : IpfsPublish) (net : PostNet)

/-- The reply to the request of an attempt made in `w`. -/
def reply (w : World) : Except Exc HttpResponse :=
  (net.post (self.effectiveTimeout w.clock.mono)).answer

/-- The world when it comes. -/
def posted (w : World) : World :=
  (w.record (.post self.file (self.effectiveTimeout w.clock.mono))).advance
    (net.post (self.effectiveTimeout w.clock.mono)).took

/-- How long the pause after attempt `k` is, made when the clock reads `now`. -/
def slept (k : Nat) (now : ℚ) : ℚ :=
  match self.sleepFor k now with
  | .ok seconds => seconds.value
  | .error _ => 0

/-- What that pause raises instead, if anything. -/
def pauseFault (k : Nat) (now : ℚ) : Option Exc :=
  match self.sleepFor k now with
  | .ok seconds => if 0 < seconds.value then seconds.unsleepable else none
  | .error exc => some exc

/-- The world after the pause that follows attempt `k`. -/
def rested (k : Nat) (w : World) : World :=
  if k + 1 < self.attempts ∧ 0 < self.slept k w.clock.mono then
    (w.record (.sleep (self.slept k w.clock.mono))).advance (net.sleep (self.slept k w.clock.mono))
  else w

/-- What attempt `k` can do from `w`: its answer and the world it leaves. -/
inductive AttemptRun (k : Nat) (b : Option LastError) (w : World) :
    Except Raised (Turn String (Option LastError)) × World → Prop where
  | exhausted : self.exhausted w.clock.mono = true → AttemptRun k b w (.ok (.stop b), w)
  | raised {e : Raised} : self.exhausted w.clock.mono = false →
      reaction (self.reply net w) = .error e → AttemptRun k b w (.error e, self.posted net w)
  | done {link : String} : self.exhausted w.clock.mono = false →
      reaction (self.reply net w) = .ok (.inl link) →
      AttemptRun k b w (.ok (.done link), self.posted net w)
  | next {lastError : LastError} : self.exhausted w.clock.mono = false →
      reaction (self.reply net w) = .ok (.inr lastError) →
      (k + 1 < self.attempts → self.pauseFault k (self.posted net w).clock.mono = none) →
      AttemptRun k b w (.ok (.next (some lastError)), self.rested net k (self.posted net w))
  /-- the pause is too long to be made -/
  | overflowed {lastError : LastError} {exc : Exc} : self.exhausted w.clock.mono = false →
      reaction (self.reply net w) = .ok (.inr lastError) → k + 1 < self.attempts →
      self.pauseFault k (self.posted net w).clock.mono = some exc →
      AttemptRun k b w (.error exc.raised, self.posted net w)

theorem exec_pause (k : Nat) (w : World) (hk : k + 1 < self.attempts) :
    (self.pause net k).exec w =
      match self.pauseFault k w.clock.mono with
      | some exc => (.error exc.raised, w)
      | none => (.ok (), self.rested net k w) := by
  unfold pause rested pauseFault slept
  rw [exec_bind_ok (SDK.exec_monotonic w)]
  cases hs : self.sleepFor k w.clock.mono with
  | error exc => rfl
  | ok seconds =>
    rw [exec_bind_ok (SDK.exec_lift_ok w seconds)]
    dsimp only
    by_cases hpos : 0 < seconds.value
    · rw [if_pos hpos, if_pos hpos, if_pos ⟨hk, hpos⟩]
      cases seconds.unsleepable <;> rfl
    · rw [if_neg hpos, if_neg hpos, if_neg fun h => hpos h.2]
      rfl

/-- An attempt does one of the five. -/
theorem attempt_run (k : Nat) (b : Option LastError) (w : World) :
    self.AttemptRun net k b w ((self.attempt net k b).exec w) := by
  unfold attempt
  rw [exec_bind_ok (SDK.exec_monotonic w)]
  dsimp only
  cases hx : self.exhausted w.clock.mono with
  | true => exact .exhausted hx
  | false =>
    simp only [Bool.false_eq_true, if_false]
    rw [exec_bind_ok (SDK.exec_record _ _), exec_bind_ok (SDK.exec_elapse _ _)]
    show self.AttemptRun net k b w
      ((self.conclude net k (self.reply net w)).exec (self.posted net w))
    unfold conclude
    cases hr : reaction (self.reply net w) with
    | error e => exact .raised hx hr
    | ok answer =>
      cases answer with
      | inl link => exact .done hx hr
      | inr lastError =>
        dsimp only
        by_cases hk : k + 1 < self.attempts
        · have hpause := self.exec_pause net k (self.posted net w) hk
          cases hf : self.pauseFault k (self.posted net w).clock.mono with
          | some exc =>
            rw [hf] at hpause
            rw [if_pos hk, exec_bind_error hpause]
            exact .overflowed hx hr hk hf
          | none =>
            rw [hf] at hpause
            rw [if_pos hk, exec_bind_ok hpause]
            exact .next hx hr fun _ => hf
        · have hnext := AttemptRun.next (k := k) (b := b) hx hr fun h => absurd h hk
          have hrested : self.rested net k (self.posted net w) = self.posted net w :=
            if_neg fun h => hk h.1
          rw [if_neg hk]
          rw [hrested] at hnext
          exact hnext

section

variable {self : IpfsPublish} {net : PostNet} {k : Nat} {b b' : Option LastError} {w w' : World}

/-- An attempt that raises made its request, and raises what the reply comes to or what its pause
does. -/
theorem attempt_raised {e : Raised} (h : (self.attempt net k b).exec w = (.error e, w')) :
    self.exhausted w.clock.mono = false ∧ w' = self.posted net w ∧
      (reaction (self.reply net w) = .error e ∨
        ∃ lastError exc, reaction (self.reply net w) = .ok (.inr lastError) ∧
          k + 1 < self.attempts ∧ self.pauseFault k (self.posted net w).clock.mono = some exc ∧
          e = exc.raised) := by
  have hrun := self.attempt_run net k b w
  rw [h] at hrun
  generalize hans : (Except.error e, w') = r at hrun
  cases hrun with
  | exhausted | done | next => cases hans
  | raised hx hr =>
    cases hans
    exact ⟨hx, rfl, .inl hr⟩
  | overflowed hx hr hk hf =>
    cases hans
    exact ⟨hx, rfl, .inr ⟨_, _, hr, hk, hf, rfl⟩⟩

theorem attempt_done {link : String}
    (h : (self.attempt net k b).exec w = (.ok (.done link), w')) :
    self.exhausted w.clock.mono = false ∧ reaction (self.reply net w) = .ok (.inl link) ∧
      w' = self.posted net w := by
  have hrun := self.attempt_run net k b w
  rw [h] at hrun
  generalize hans : (Except.ok (Turn.done link), w') = r at hrun
  cases hrun with
  | exhausted | raised | next | overflowed => cases hans
  | done hx hr =>
    cases hans
    exact ⟨hx, hr, rfl⟩

/-- An attempt that is followed by another made its request, and rested. -/
theorem attempt_next (h : (self.attempt net k b).exec w = (.ok (.next b'), w')) :
    ∃ lastError, b' = some lastError ∧ reaction (self.reply net w) = .ok (.inr lastError) ∧
      w' = self.rested net k (self.posted net w) := by
  have hrun := self.attempt_run net k b w
  rw [h] at hrun
  generalize hans : (Except.ok (Turn.next b'), w') = r at hrun
  cases hrun with
  | exhausted | raised | done | overflowed => cases hans
  | next _ hr =>
    cases hans
    exact ⟨_, rfl, hr, rfl⟩

/-- An attempt that comes to a pause it cannot make raises what that does. -/
theorem attempt_overflowed {lastError : LastError} {exc : Exc}
    (hx : self.exhausted w.clock.mono = false)
    (hr : reaction (self.reply net w) = .ok (.inr lastError)) (hk : k + 1 < self.attempts)
    (hf : self.pauseFault k (self.posted net w).clock.mono = some exc) :
    (self.attempt net k b).exec w = (.error exc.raised, self.posted net w) := by
  have hrun := self.attempt_run net k b w
  generalize (self.attempt net k b).exec w = r at hrun
  cases hrun with
  | exhausted hx' => simp [hx] at hx'
  | raised _ hr' => simp [hr] at hr'
  | done _ hr' => simp [hr] at hr'
  | next _ _ hf' =>
    rw [hf' hk] at hf
    cases hf
  | overflowed _ _ _ hf' =>
    rw [hf] at hf'
    cases hf'
    rfl

end

/-- The code after the loop raises, and does nothing else. -/
theorem exec_afterLoop (b : Option LastError) : ∃ e, ∀ s, (afterLoop b).exec s = (.error e, s) := by
  rcases b with _ | text | statusCode <;> exact ⟨_, fun _ => rfl⟩

@[simp] theorem posts_posted (w : World) :
    (self.posted net w).posts = w.posts ++ [(self.file, self.effectiveTimeout w.clock.mono)] := by
  simp [posted, Op.post?]

/-- An upload that returns ends with the request whose reply held the link. -/
theorem run_done {posts : Nat → PostNet} {w w' : World} {link : String}
    (h : (self.run posts).exec w = (.ok link, w')) : ∃ k s,
      reaction (self.reply (posts k) s) = .ok (.inl link) ∧ w' = self.posted (posts k) s := by
  unfold run at h
  have hends := loop_ends (fun k lastError => self.attempt (posts k) k lastError) afterLoop
    self.attempts 0 none w
  rw [h] at hends
  have hafter : ∀ b s, (afterLoop b).exec s ≠ (.ok link, w') := by
    intro b s hb
    obtain ⟨e, he⟩ := exec_afterLoop b
    rw [he] at hb
    cases hb
  generalize hr : (Except.ok link, w') = r at hends
  cases hends with
  | stopped => exact absurd hr.symm (hafter _ _)
  | usedUp => exact absurd hr.symm (hafter _ _)
  | raised => cases hr
  | @done k b s s' link' hreached hk hturn =>
    cases hr
    obtain ⟨-, hreaction, hposted⟩ := attempt_done hturn
    exact ⟨k, s, hreaction, hposted⟩

@[simp] theorem posts_rested (k : Nat) (w : World) : (self.rested net k w).posts = w.posts := by
  unfold rested
  split
  · simp [Op.post?]
  · rfl

/-- Clipping a pause raises nothing: only the factor can. -/
theorem sleepFor_error {k : Nat} {now : ℚ} {exc : Exc} (h : self.sleepFor k now = .error exc) :
    self.backoff.doubled k = .error exc := by
  unfold sleepFor at h
  cases hs : self.backoff.doubled k with
  | error exc' =>
    rw [hs] at h
    exact h
  | ok seconds =>
    rw [hs] at h
    cases hd : self.deadline with
    | none =>
      rw [hd] at h
      cases h
    | some d =>
      rw [hd] at h
      change (if max (d - now) 0 < seconds.value then Except.ok (Seconds.float (max (d - now) 0))
        else .ok seconds) = .error exc at h
      split at h <;> cases h

/-! ## Without a deadline -/

section

variable {self : IpfsPublish}

theorem exhausted_of_none (hd : self.deadline = none) (now : ℚ) : self.exhausted now = false := by
  unfold exhausted
  rw [hd]
  rfl

theorem effectiveTimeout_of_none (hd : self.deadline = none) (now : ℚ) :
    self.effectiveTimeout now = self.timeout := by
  unfold effectiveTimeout
  rw [hd]

theorem sleepFor_of_none (hd : self.deadline = none) (k : Nat) (now : ℚ) :
    self.sleepFor k now = self.backoff.doubled k := by
  unfold sleepFor
  rw [hd]
  cases self.backoff.doubled k <;> rfl

end

/-! ## With one -/

/-- A pause is no longer than what is left of the deadline. -/
theorem sleepFor_le {self : IpfsPublish} {d now : ℚ} {k : Nat} {seconds : Seconds}
    (hd : self.deadline = some d) (h : self.sleepFor k now = .ok seconds) :
    seconds.value ≤ max (d - now) 0 := by
  unfold sleepFor at h
  rw [hd] at h
  cases hs : self.backoff.doubled k with
  | error exc =>
    rw [hs] at h
    cases h
  | ok doubled =>
    rw [hs] at h
    change (if max (d - now) 0 < doubled.value then Except.ok (Seconds.float (max (d - now) 0))
      else .ok doubled) = .ok seconds at h
    split at h
    · cases h
      exact le_refl _
    · next hle =>
      cases h
      exact not_lt.mp hle

end IpfsPublish

end OgpuSdk
