import OgpuSdk.Lib.Machine
import OgpuSdk.Chain.Nonce
import Mathlib.Data.Finset.Basic
import Mathlib.Order.Bounds.Basic

/-!
# Threads that share the nonces of an address

One address on one network, its cache entry, its lock and any number of
threads, in any interleaving. `reserve_nonce` and `get_nonce` read the pending
count with the lock taken, so each is two steps: another thread may send in
between, and the count is stale when the entry is written. The node reports a
count that never falls and counts only transactions it has accepted.

`Covers` says that no nonce below the entry is lost: each is accepted by the
node or held by a thread that still has to send it or hand it back.
-/

namespace OgpuSdk

/-- What a thread has the lock of the address for. -/
inductive LockedCall where
  | reserveNonce
  | getNonce (forceRefresh : Bool)
  deriving DecidableEq

/-- The state of one address. -/
structure Reservations (T : Type) where
  /-- `_nonces[address]` -/
  counter : Counter
  /-- the thread inside a locked call, and the pending count it read -/
  lock : Option (T × LockedCall × ℕ)
  /-- nonces of the transactions the node has accepted -/
  accepted : Finset ℕ
  /-- the pending count reported last -/
  reported : ℕ
  /-- the live reservation of a thread: reserved, not yet sent and not yet released -/
  holds : T → Option ℕ

inductive NonceAct (T : Type) where
  /-- take the lock and read the pending count -/
  | read (t : T) (call : LockedCall) (pending : ℕ)
  /-- write the entry and give the lock back -/
  | finish (t : T)
  /-- a send that returns a hash -/
  | send (t : T)
  /-- a send the node takes, and that raises all the same -/
  | lost (t : T)
  | release (t : T)
  | reset (t : T)
  /-- a transaction of another wallet -/
  | external (nonce : ℕ)

namespace Reservations

variable {T : Type}

/-- A thread holds a reservation of the nonce. -/
def Live (s : Reservations T) (n : ℕ) : Prop := ∃ t, s.holds t = some n

section

variable [DecidableEq T]

/-- What a locked call writes, and what it hands to its thread. -/
def complete (s : Reservations T) (t : T) : LockedCall → ℕ → Reservations T
  | .reserveNonce, pending => { s with
      counter := s.counter.reserve pending
      lock := none
      holds := Function.update s.holds t (some (s.counter.current pending)) }
  | .getNonce forceRefresh, pending => { s with
      counter := some (s.counter.refreshed pending forceRefresh)
      lock := none }

def step (s : Reservations T) : NonceAct T → Option (Reservations T)
  | .read t call pending =>
    if s.lock = none ∧ s.reported ≤ pending ∧ (∀ n < pending, n ∈ s.accepted) ∧
        (call = .reserveNonce → s.holds t = none) then
      some { s with lock := some (t, call, pending), reported := pending }
    else none
  | .finish t =>
    match s.lock with
    | some (t', call, pending) => if t' = t then some (s.complete t call pending) else none
    | none => none
  | .send t =>
    (s.holds t).map fun n =>
      { s with accepted := insert n s.accepted, holds := Function.update s.holds t none }
  | .lost t => (s.holds t).map fun n => { s with accepted := insert n s.accepted }
  | .release t =>
    match s.lock, s.holds t with
    | none, some n => some { s with
        counter := s.counter.release n
        holds := Function.update s.holds t none }
    | _, _ => none
  | .reset _ => if s.lock = none then some { s with counter := none } else none
  | .external n => some { s with accepted := insert n s.accepted }

/-- The process has just started; the node may have accepted transactions before. -/
def machine (T : Type) [DecidableEq T] : Machine (Reservations T) (NonceAct T) where
  init s := s.counter = none ∧ s.lock = none ∧ ∀ t, s.holds t = none
  step := step

theorem step_finish {s : Reservations T} {t : T} {call : LockedCall} {pending : ℕ}
    (h : s.lock = some (t, call, pending)) :
    s.step (.finish t) = some (s.complete t call pending) := by
  simp [step, h]

/-- What a step does: one case for each action. -/
inductive Step (s : Reservations T) : NonceAct T → Reservations T → Prop where
  | read {t : T} {call : LockedCall} {pending : ℕ} : s.lock = none → s.reported ≤ pending →
      (∀ n < pending, n ∈ s.accepted) → (call = .reserveNonce → s.holds t = none) →
      Step s (.read t call pending) { s with lock := some (t, call, pending), reported := pending }
  | finish {t : T} {call : LockedCall} {pending : ℕ} : s.lock = some (t, call, pending) →
      Step s (.finish t) (s.complete t call pending)
  | send {t : T} {n : ℕ} : s.holds t = some n →
      Step s (.send t) { s with
        accepted := insert n s.accepted
        holds := Function.update s.holds t none }
  | lost {t : T} {n : ℕ} : s.holds t = some n →
      Step s (.lost t) { s with accepted := insert n s.accepted }
  | release {t : T} {n : ℕ} : s.lock = none → s.holds t = some n →
      Step s (.release t) { s with
        counter := s.counter.release n
        holds := Function.update s.holds t none }
  | reset {t : T} : s.lock = none → Step s (.reset t) { s with counter := none }
  | external {n : ℕ} : Step s (.external n) { s with accepted := insert n s.accepted }

theorem step_run {s s' : Reservations T} {a : NonceAct T} (h : s.step a = some s') :
    s.Step a s' := by
  cases a with
  | read t call pending =>
    simp only [step] at h
    split at h
    · next hc =>
      cases h
      obtain ⟨hlock, hrep, hacc, hidle⟩ := hc
      exact .read hlock hrep hacc hidle
    · cases h
  | finish t =>
    simp only [step] at h
    split at h
    · next t' call pending hlock =>
      split at h
      · next ht =>
        cases h
        subst ht
        exact .finish hlock
      · cases h
    · cases h
  | send t =>
    obtain ⟨n, hn, rfl⟩ := Option.map_eq_some_iff.mp h
    exact .send hn
  | lost t =>
    obtain ⟨n, hn, rfl⟩ := Option.map_eq_some_iff.mp h
    exact .lost hn
  | release t =>
    simp only [step] at h
    split at h
    · next n hlock hn =>
      cases h
      exact .release hlock hn
    · cases h
  | reset t =>
    simp only [step] at h
    split at h
    · next hlock =>
      cases h
      exact .reset hlock
    · cases h
  | external n =>
    cases h
    exact .external

/-! ## No gaps -/

/-- The nonces that are not lost: accepted by the node, or held. -/
def Kept (s : Reservations T) : Set ℕ := {n | n ∈ s.accepted ∨ s.Live n}

/-- What every step keeps. -/
structure Sound (s : Reservations T) : Prop where
  /-- a count that was read counts accepted transactions only -/
  counted : ∀ t call pending, s.lock = some (t, call, pending) → ∀ n < pending, n ∈ s.accepted
  /-- a thread that reserves holds nothing -/
  idle : ∀ t pending, s.lock = some (t, .reserveNonce, pending) → s.holds t = none
  covered : s.counter.Covers s.Kept

variable {s s' : Reservations T} {t t' : T} {n m : ℕ}

theorem holds_update_ne (h : t' ≠ t) {o : Option ℕ} :
    Function.update s.holds t o t' = s.holds t' := Function.update_of_ne h _ _

/-- Who holds a nonce after `t` gave its own up held it before, and is another. -/
theorem holds_of_update_none (h : Function.update s.holds t none t' = some n) :
    t' ≠ t ∧ s.holds t' = some n := by
  by_cases ht : t' = t
  · subst ht
    rw [Function.update_self] at h
    cases h
  · rw [holds_update_ne ht] at h
    exact ⟨ht, h⟩

/-- Who holds another nonce still does. -/
theorem Live.update_none (h : s.Live m) (hn : s.holds t = some n) (hne : m ≠ n) :
    ∃ t', Function.update s.holds t none t' = some m := by
  obtain ⟨t', ht'⟩ := h
  refine ⟨t', ?_⟩
  rw [holds_update_ne, ht']
  rintro rfl
  rw [hn, Option.some.injEq] at ht'
  exact hne ht'.symm

theorem Live.update_some (h : s.Live m) (ht : s.holds t = none) (o : Option ℕ) :
    ∃ t', Function.update s.holds t o t' = some m := by
  obtain ⟨t', ht'⟩ := h
  refine ⟨t', ?_⟩
  rw [holds_update_ne, ht']
  rintro rfl
  rw [ht] at ht'
  cases ht'

theorem Sound.complete (h : s.Sound) {call : LockedCall} {pending : ℕ}
    (hlock : s.lock = some (t, call, pending)) : (s.complete t call pending).Sound := by
  have hcounted : ∀ n < pending, n ∈ s.accepted := h.counted _ _ _ hlock
  cases call with
  | reserveNonce =>
    have hidle := h.idle _ _ hlock
    refine ⟨by rintro _ _ _ ⟨⟩, by rintro _ _ ⟨⟩, ?_⟩
    refine (h.covered.reserve fun n hn => .inl (hcounted n hn)).mono ?_
    rintro n (rfl | hacc | hlive)
    · exact .inr ⟨t, Function.update_self _ _ _⟩
    · exact .inl hacc
    · exact .inr (hlive.update_some hidle _)
  | getNonce forceRefresh =>
    refine ⟨by rintro _ _ _ ⟨⟩, by rintro _ _ ⟨⟩, ?_⟩
    exact h.covered.refreshed (fun n hn => .inl (hcounted n hn)) forceRefresh

omit [DecidableEq T] in
theorem Sound.accept (h : s.Sound) (n : ℕ) :
    Sound { s with accepted := insert n s.accepted } where
  counted := fun t call pending hl k hk =>
    Finset.mem_insert_of_mem (h.counted t call pending hl k hk)
  idle := h.idle
  covered := by
    apply h.covered.mono
    rintro m (hacc | hlive)
    · exact .inl (Finset.mem_insert_of_mem hacc)
    · exact .inr hlive

/-- A reservation of an accepted nonce is no longer needed. -/
theorem Sound.giveUp (h : s.Sound) (hn : s.holds t = some n) (hacc : n ∈ s.accepted) :
    Sound { s with holds := Function.update s.holds t none } where
  counted := h.counted
  idle := by
    intro t' pending hl
    by_cases ht : t' = t
    · subst ht
      exact Function.update_self _ _ _
    · exact (holds_update_ne ht).trans (h.idle t' pending hl)
  covered := by
    apply h.covered.mono
    rintro m (hm | hlive)
    · exact .inl hm
    · by_cases hmn : m = n
      · exact .inl (hmn ▸ hacc)
      · exact .inr (hlive.update_none hn hmn)

theorem Sound.step {a : NonceAct T} (h : s.Sound) (hstep : s.Step a s') : s'.Sound := by
  cases hstep with
  | read hlock hrep hacc hfree =>
    refine ⟨?_, ?_, h.covered⟩
    · rintro _ _ _ ⟨⟩
      exact hacc
    · rintro _ _ ⟨⟩
      exact hfree rfl
  | finish hlock => exact h.complete hlock
  | send hn => exact (h.accept _).giveUp hn (Finset.mem_insert_self _ _)
  | lost hn => exact h.accept _
  | release hlock hn =>
    refine ⟨by simp [hlock], by simp [hlock], h.covered.release ?_⟩
    rintro m (hacc | hlive) hne
    · exact .inl hacc
    · exact .inr (hlive.update_none hn hne)
  | reset hlock => exact ⟨h.counted, h.idle, .none⟩
  | external => exact h.accept _

theorem sound {P : NonceAct T → Prop} (h : (machine T).Reachable P s) : s.Sound := by
  refine h.inv ?_ fun u a u' _ hstep hu => hu.step (step_run hstep)
  rintro s₀ ⟨hcounter, hlock, -⟩
  refine ⟨by simp [hlock], by simp [hlock], ?_⟩
  rw [hcounter]
  exact .none

/-- No nonce below the entry, or below one that is handed out, is lost. -/
structure GapFree (s : Reservations T) : Prop where
  below : ∀ c, s.counter = some c → ∀ n < c, n ∈ s.accepted ∨ s.Live n
  returned : ∀ t pending s' n, s.lock = some (t, .reserveNonce, pending) →
    s.step (.finish t) = some s' → s'.holds t = some n → ∀ m < n, m ∈ s'.accepted ∨ s'.Live m
  /-- with nothing held, the entry is no higher than the node's first missing nonce -/
  settled : (∀ n, ¬ s.Live n) → ∀ c, s.counter = some c →
    ∀ p, IsLeast {n | n ∉ s.accepted} p → c ≤ p

theorem gapFree (h : (machine T).Reachable (fun _ => True) s) : s.GapFree := by
  have hsound := sound h
  refine ⟨hsound.covered, ?_, ?_⟩
  · intro t pending s' n hlock hstep hn m hm
    have hnext := hsound.step (step_run hstep)
    -- The entry is left one above the nonce that is handed out.
    rw [step_finish hlock] at hstep
    cases hstep
    simp only [complete, Function.update_self, Option.some.injEq] at hn
    subst hn
    exact hnext.covered _ rfl m (by omega)
  · intro hfree c hc p hp
    by_contra hlt
    rcases hsound.covered c hc p (by omega) with hacc | hlive
    · exact hp.1 hacc
    · exact hfree p hlive

/-! ## Runs on fixed actions -/

/-- An address nothing has been sent from, in a process that has just started. -/
def fresh (T : Type) : Reservations T := ⟨none, none, ∅, 0, fun _ => none⟩

/-- Where a list of actions leads from there. -/
def after (as : List (NonceAct T)) : Reservations T := ((machine T).run (fresh T) as).getD (fresh T)

theorem run_after {as : List (NonceAct T)} (h : ((machine T).run (fresh T) as).isSome = true) :
    (machine T).run (fresh T) as = some (after as) := by
  obtain ⟨s, hs⟩ := Option.isSome_iff_exists.mp h
  unfold after
  rw [hs]
  rfl

theorem reachable_after {P : NonceAct T → Prop} {as : List (NonceAct T)} (hP : ∀ a ∈ as, P a)
    (h : ((machine T).run (fresh T) as).isSome = true) : (machine T).Reachable P (after as) :=
  ⟨fresh T, as, ⟨rfl, rfl, fun _ => rfl⟩, hP, run_after h⟩

/-- `reserve_nonce` with nothing in between. -/
def reserving (t : T) (pending : ℕ) : List (NonceAct T) :=
  [.read t .reserveNonce pending, .finish t]

/-- Two threads reserve, one loses its reply and hands the nonce back, the other resets. -/
theorem gapFree_two : GapFree (after (T := ℕ)
    (reserving 0 0 ++ reserving 1 0 ++ [.lost 0, .release 0, .reset 1, .external 1])) :=
  gapFree (reachable_after (by simp) (by decide))

end

end Reservations

end OgpuSdk
