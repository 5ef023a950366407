import OgpuSdk.Chain.Reservations

/-!
# Who owns a reserved nonce

Threads run attempts: each reserves, and then sends or hands the nonce back
and perhaps resets the cache. A nonce is issued twice only when the cache was
dropped while it was held: until then the entry stays above every nonce that
is held, and each has one holder. `Exposed` is this past: the nonce has been
held ever since a state without an entry.
-/

namespace OgpuSdk

/-- The action is part of an attempt: anything but a `get_nonce`. -/
def NonceAct.ofAttempt {T : Type} : NonceAct T → Bool
  | .read _ (.getNonce _) _ => false
  | _ => true

namespace Reservations

variable {T : Type} [DecidableEq T]

/-- No two threads hold one nonce. -/
def Exclusive (s : Reservations T) : Prop :=
  ∀ t t' n, s.holds t = some n → s.holds t' = some n → t = t'

/-- A reservation of `n` has been live ever since a state of the run in which the cache had no
entry: the cache was dropped under it. -/
def Exposed (s₀ : Reservations T) (as : List (NonceAct T)) (n : ℕ) : Prop :=
  (machine T).Since (·.Live n) (·.counter = none) s₀ as

/-- A nonce that is held and not exposed has one holder and is below the entry. -/
structure Guarded (s : Reservations T) (exposed : ℕ → Prop) : Prop where
  attempting : ∀ t forceRefresh pending, s.lock ≠ some (t, .getNonce forceRefresh, pending)
  above : ∀ n, s.Live n → ¬ exposed n → s.counter.Above n
  unique : ∀ t t' n, ¬ exposed n → s.holds t = some n → s.holds t' = some n → t = t'

variable {s s' : Reservations T} {E E' : ℕ → Prop} {t t' : T} {n m : ℕ}

omit [DecidableEq T] in
theorem Guarded.mono (h : s.Guarded E) (hE : ∀ n, s.Live n → E n → E' n) : s.Guarded E' where
  attempting := h.attempting
  above := fun n hlive hn => h.above n hlive fun he => hn (hE n hlive he)
  unique := fun t t' n hn ht ht' => h.unique t t' n (fun he => hn (hE n ⟨t, ht⟩ he)) ht ht'

omit [DecidableEq T] in
/-- What the node has accepted does not matter. -/
theorem Guarded.accept (h : s.Guarded E) (accepted : Finset ℕ) :
    Guarded { s with accepted := accepted } E := ⟨h.attempting, h.above, h.unique⟩

/-- Nor does a holder that gives its nonce up. -/
theorem Guarded.giveUp (h : s.Guarded E) (t : T) :
    Guarded { s with holds := Function.update s.holds t none } E := by
  refine ⟨h.attempting, ?_, ?_⟩
  · rintro n ⟨t', ht'⟩ hE
    exact h.above n ⟨t', (holds_of_update_none ht').2⟩ hE
  · intro t₁ t₂ n hE h₁ h₂
    exact h.unique t₁ t₂ n hE (holds_of_update_none h₁).2 (holds_of_update_none h₂).2

/-- A reservation is above everything that is guarded, so it takes nothing of it. -/
theorem Guarded.reserve (h : s.Guarded E) (hfree : s.holds t = none) (pending : ℕ) :
    (s.complete t .reserveNonce pending).Guarded E := by
  have hother : ∀ t' n, ¬ E n → (s.complete t .reserveNonce pending).holds t' = some n →
      t' = t ∧ n = s.counter.current pending ∨
        t' ≠ t ∧ s.holds t' = some n ∧ s.counter.Above n := by
    intro t' n hn ht'
    by_cases htt : t' = t
    · subst htt
      simp only [complete, Function.update_self, Option.some.injEq] at ht'
      exact .inl ⟨rfl, ht'.symm⟩
    · simp only [complete, holds_update_ne htt] at ht'
      exact .inr ⟨htt, ht', h.above n ⟨t', ht'⟩ hn⟩
  refine ⟨by rintro _ _ _ ⟨⟩, ?_, ?_⟩
  · rintro n ⟨t', ht'⟩ hn
    rcases hother t' n hn ht' with ⟨-, rfl⟩ | ⟨-, -, habove⟩
    · exact ⟨_, rfl, Nat.lt_succ_self _⟩
    · exact habove.reserve pending
  · intro t₁ t₂ n hn h₁ h₂
    rcases hother t₁ n hn h₁ with ⟨rfl, rfl⟩ | ⟨-, h₁, habove⟩
    · rcases hother t₂ _ hn h₂ with ⟨rfl, -⟩ | ⟨-, -, habove⟩
      · rfl
      · exact absurd (habove.lt_current pending) (Nat.lt_irrefl _)
    · rcases hother t₂ n hn h₂ with ⟨-, rfl⟩ | ⟨-, h₂, -⟩
      · exact absurd (habove.lt_current pending) (Nat.lt_irrefl _)
      · exact h.unique t₁ t₂ n hn h₁ h₂

/-- Rolling back leaves what is guarded below the entry: a second holder of the nonce handed back
would mean it was exposed. -/
theorem Guarded.release (h : s.Guarded E) (hn : s.holds t = some n)
    (hkept : s.counter.release n ≠ none) :
    Guarded { s with
      counter := s.counter.release n
      holds := Function.update s.holds t none } E := by
  refine ⟨h.attempting, ?_, (h.giveUp t).unique⟩
  rintro m ⟨t', ht'⟩ hm
  obtain ⟨hne, hold⟩ := holds_of_update_none ht'
  refine (h.above m ⟨t', hold⟩ hm).release ?_ hkept
  rintro rfl
  exact hne (h.unique t' t m hm hold hn)

omit [DecidableEq T] in
/-- With no entry everything is exposed. -/
theorem Guarded.of_exposed (h : s.Guarded E) {counter : Counter} {holds : T → Option ℕ}
    (hE : ∀ t n, holds t = some n → E' n) :
    Guarded { s with counter := counter, holds := holds } E' where
  attempting := h.attempting
  above := by
    rintro n ⟨t, ht⟩ hn
    exact absurd (hE t n ht) hn
  unique := fun t _ n hn ht _ => absurd (hE t n ht) hn

/-- A step keeps what is guarded, and exposes what is live when it leaves no entry. -/
theorem Guarded.step {a : NonceAct T} (h : s.Guarded E) (hsound : s.Sound)
    (ha : a.ofAttempt = true) (hstep : s.Step a s')
    (hE : ∀ n, s'.Live n → E n ∨ s'.counter = none → E' n) : s'.Guarded E' := by
  have hkeep : ∀ n, s'.Live n → E n → E' n := fun n hlive he => hE n hlive (.inl he)
  cases hstep with
  | @read t call pending =>
    cases call with
    | getNonce => cases ha
    | reserveNonce => exact Guarded.mono ⟨by rintro _ _ _ ⟨⟩, h.above, h.unique⟩ hkeep
  | @finish t call pending hlock =>
    cases call with
    | getNonce => exact absurd hlock (h.attempting _ _ _)
    | reserveNonce => exact (h.reserve (hsound.idle _ _ hlock) pending).mono hkeep
  | @send t n _ => exact ((h.accept (insert n s.accepted)).giveUp t).mono hkeep
  | lost => exact (h.accept _).mono hkeep
  | @release t n hlock hn =>
    by_cases hdrop : s.counter.release n = none
    · exact h.of_exposed fun t' m ht' => hE m ⟨t', ht'⟩ (.inr hdrop)
    · exact (h.release hn hdrop).mono hkeep
  | reset => exact h.of_exposed fun t' m ht' => hE m ⟨t', ht'⟩ (.inr rfl)
  | external => exact (h.accept _).mono hkeep

/-- Along every run of attempts, what has not been exposed is guarded. -/
theorem guarded {s₀ : Reservations T} {as : List (NonceAct T)} (h₀ : (machine T).init s₀)
    (has : ∀ a ∈ as, a.ofAttempt = true) (hr : (machine T).run s₀ as = some s) :
    s.Guarded (Exposed s₀ as) := by
  have hsound : ∀ as u, (machine T).run s₀ as = some u → u.Sound := fun as u hu =>
    sound (P := fun _ => True) ⟨s₀, as, h₀, fun _ _ => trivial, hu⟩
  obtain ⟨-, hlock, hholds⟩ := h₀
  refine Machine.run_inv (P := (·.ofAttempt = true))
    (I := fun as s => s.Guarded (Exposed s₀ as)) ?_ ?_ has hr
  · refine ⟨by simp [hlock], ?_, ?_⟩
    · rintro n ⟨t, ht⟩
      rw [hholds t] at ht
      cases ht
    · intro t t' n _ ht
      rw [hholds t] at ht
      cases ht
  · intro as u a u' ha hu hstep hguarded
    exact hguarded.step (hsound as u hu) ha (step_run hstep) fun n hlive hn =>
      .snoc hu hstep hlive hn

/-! ## Shared nonces -/

/-- Two threads hold one nonce only when the cache was dropped under it. -/
theorem shared_exposed {s₀ : Reservations T} {as : List (NonceAct T)} (h₀ : (machine T).init s₀)
    (has : ∀ a ∈ as, a.ofAttempt = true) (hr : (machine T).run s₀ as = some s) (htt : t ≠ t')
    (ht : s.holds t = some n) (ht' : s.holds t' = some n) : Exposed s₀ as n := by
  by_contra hn
  exact htt ((guarded h₀ has hr).unique t t' n hn ht ht')

/-- Threads 0 and 1 reserve, 0 hands its nonce back from below and drops the cache, and the next
two reservations start over: thread 3 gets the nonce thread 1 holds. -/
def reissued : List (NonceAct ℕ) :=
  reserving 0 0 ++ reserving 1 0 ++ [.release 0] ++ reserving 2 0 ++ reserving 3 0

theorem shared_exposed_reissued : Exposed (fresh ℕ) reissued 1 := by
  have h₁ : (after reissued).holds 1 = some 1 := by decide
  have h₃ : (after reissued).holds 3 = some 1 := by decide
  exact shared_exposed ⟨rfl, rfl, fun _ => rfl⟩ (by decide) (run_after (by decide)) (by decide)
    h₁ h₃

theorem not_exclusive :
    ¬ ∀ s : Reservations ℕ, (machine ℕ).Reachable (·.ofAttempt = true) s → s.Exclusive := by
  intro h
  have hs := h (after reissued) (reachable_after (by decide) (by decide))
  exact absurd (hs 1 3 1 (by decide) (by decide)) (by decide)

/-! ## Rolling back -/

/-- Handing `n` back takes the roll-back branch only with no reservation of another thread at or
above `n`; with one there the cache is dropped. -/
structure RollsBackClean (s : Reservations T) (t : T) (n : ℕ) : Prop where
  rolled : s.counter.release n = some n → ∀ t' m, t' ≠ t → s.holds t' = some m → m < n
  dropped : ∀ t' m, t' ≠ t → s.holds t' = some m → n ≤ m → s.counter.release n = none

theorem rollsBackClean_iff {s₀ : Reservations T} {as : List (NonceAct T)}
    (h₀ : (machine T).init s₀) (has : ∀ a ∈ as, a.ofAttempt = true)
    (hr : (machine T).run s₀ as = some s) (hn : s.holds t = some n) :
    s.RollsBackClean t n ↔ s.counter ≠ some (n + 1) ∨
      ∀ t' m, t' ≠ t → s.holds t' = some m → n ≤ m → ¬ Exposed s₀ as m := by
  have hguarded := guarded h₀ has hr
  by_cases hc : s.counter = some (n + 1)
  · -- The entry is rolled back, so no other thread may be at or above `n`.
    have hrel : s.counter.release n = some n := by rw [hc, Counter.release_succ]
    constructor
    · intro h
      refine .inr fun t' m hne ht' hle => ?_
      have := h.rolled hrel t' m hne ht'
      omega
    · rintro (hne | hall)
      · exact absurd hc hne
      have hbelow : ∀ t' m, t' ≠ t → s.holds t' = some m → m < n := by
        intro t' m hne ht'
        by_contra hle
        have hm := hall t' m hne ht' (by omega)
        obtain ⟨k, hk, hlt⟩ := hguarded.above m ⟨t', ht'⟩ hm
        rw [hc, Option.some.injEq] at hk
        obtain rfl : m = n := by omega
        exact hne (hguarded.unique t' t m hm ht' hn)
      refine ⟨fun _ => hbelow, fun t' m hne ht' hle => ?_⟩
      have := hbelow t' m hne ht'
      omega
  · have hrel : s.counter.release n = none := by
      unfold Counter.release
      rw [if_neg hc]
    refine iff_of_true ⟨?_, fun _ _ _ _ _ => hrel⟩ (.inl hc)
    intro h
    rw [hrel] at h
    cases h

theorem rollsBackClean_two :
    (after (T := Bool) (reserving false 0 ++ reserving true 0)).RollsBackClean true 1 := by
  have hr := run_after (show ((machine Bool).run (fresh Bool)
    (reserving false 0 ++ reserving true 0)).isSome = true by decide)
  refine (rollsBackClean_iff ⟨rfl, rfl, fun _ => rfl⟩ (by decide) hr (by decide)).mpr (.inr ?_)
  rintro (_ | _) m hne ht' hle
  · cases ht'
    cases hle
  · exact absurd rfl hne

/-- Thread 0 hands its nonce back from below, gets it again from the dropped cache, and hands it
back once more: the entry is one above it, and thread 1 still holds the next one. -/
theorem not_rollsBackClean :
    ¬ ∀ s : Reservations ℕ, (machine ℕ).Reachable (·.ofAttempt = true) s →
      ∀ t n, s.holds t = some n → s.RollsBackClean t n := by
  intro h
  have hs := h (after (reserving 0 0 ++ reserving 1 0 ++ [.release 0] ++ reserving 0 0))
    (reachable_after (by decide) (by decide)) 0 0 (by decide)
  exact absurd (hs.rolled (by decide) 1 1 (by decide) (by decide)) (by decide)

end Reservations

end OgpuSdk
