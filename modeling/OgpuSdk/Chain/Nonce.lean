import OgpuSdk.Lib.Prog
import OgpuSdk.Types.Errors
import Mathlib.Data.Set.Insert

/-!
# The nonce cache

`NonceManager._nonces` maps an address to the next unreserved nonce. Each
operation reads and writes the entry of one address, so it is first a function
of that entry (`Counter`), with the pending count the node reports where the
operation asks for it; the operations on the whole map apply it at the
address. The per-address lock makes one operation a step of its own; who runs
when is the business of the modules about several threads.
-/

namespace OgpuSdk

/-- An entry of the cache: the next unreserved nonce, when there is one. -/
abbrev Counter := Option Nat

namespace Counter

/-- The nonce a reservation hands out. -/
def current (c : Counter) (pending : Nat) : Nat := max (c.getD pending) pending

def reserve (c : Counter) (pending : Nat) : Counter := some (c.current pending + 1)

def release (c : Counter) (nonce : Nat) : Counter :=
  if c = some (nonce + 1) then some nonce else none

/-- What `get_nonce` stores and returns. -/
def refreshed (c : Counter) (pending : Nat) (forceRefresh : Bool) : Nat :=
  match forceRefresh, c with
  | false, some n => max n pending
  | _, _ => pending

def increment (c : Counter) : Counter := c.map (· + 1)

theorem cached_le_current {c : Counter} {n : Nat} (h : c = some n) (pending : Nat) :
    n ≤ c.current pending := by
  subst h
  exact Nat.le_max_left _ _

/-- A reservation hands out the cached nonce or the pending count. -/
theorem current_cases (c : Counter) (pending : Nat) :
    c.current pending = pending ∨ c = some (c.current pending) := by
  cases c with
  | none => simp [current]
  | some n => simp only [current, Option.getD_some, Option.some.injEq]; omega

@[simp] theorem reserve_eq (c : Counter) (pending : Nat) :
    c.reserve pending = some (c.current pending + 1) := rfl

/-- Handing back the nonce reserved last restores it as the next one. -/
@[simp] theorem release_succ (nonce : Nat) :
    Counter.release (some (nonce + 1)) nonce = some nonce := by
  simp [release]

theorem release_eq_some {c : Counter} {nonce n : Nat} (h : c.release nonce = some n) :
    n = nonce ∧ c = some (nonce + 1) := by
  unfold release at h
  split at h
  · cases h; exact ⟨rfl, ‹_›⟩
  · cases h

/-! ## What lies below an entry -/

/-- Every nonce below the entry is in `S`. -/
def Covers (c : Counter) (S : Set ℕ) : Prop := ∀ m, c = some m → ∀ n < m, n ∈ S

namespace Covers

variable {c : Counter} {S S' : Set ℕ} {pending nonce : ℕ}

theorem none : Covers none S := by
  intro m h
  cases h

theorem mono (h : Covers c S) (hS : S ⊆ S') : Covers c S' := fun m hm n hn => hS (h m hm n hn)

/-- Nothing below the nonce a reservation hands out is left over. -/
theorem current (h : Covers c S) (hp : ∀ n < pending, n ∈ S) :
    ∀ n < c.current pending, n ∈ S := by
  intro n hn
  rcases c.current_cases pending with hc | hc
  · exact hp n (hc ▸ hn)
  · exact h _ hc n hn

theorem reserve (h : Covers c S) (hp : ∀ n < pending, n ∈ S) :
    Covers (c.reserve pending) (insert (c.current pending) S) := by
  intro m hm n hn
  rw [reserve_eq, Option.some.injEq] at hm
  subst hm
  rcases Nat.lt_or_eq_of_le (Nat.le_of_lt_succ hn) with hlt | rfl
  · exact Set.mem_insert_of_mem _ (h.current hp n hlt)
  · exact Set.mem_insert _ _

theorem refreshed (h : Covers c S) (hp : ∀ n < pending, n ∈ S) (forceRefresh : Bool) :
    Covers (some (c.refreshed pending forceRefresh)) S := by
  intro m hm n hn
  cases hm
  unfold Counter.refreshed at hn
  split at hn
  · next k =>
    rcases lt_max_iff.mp hn with hk | hk
    · exact h k rfl n hk
    · exact hp n hk
  · exact hp n hn

/-- Handing `nonce` back leaves only it out. -/
theorem release (h : Covers c S) (hS : ∀ n ∈ S, n ≠ nonce → n ∈ S') :
    Covers (c.release nonce) S' := by
  intro m hm n hn
  obtain ⟨rfl, hc⟩ := release_eq_some hm
  exact hS n (h _ hc n (by omega)) (by omega)

end Covers

/-- The entry is above `n`: the next reservations leave it alone. -/
def Above (c : Counter) (n : ℕ) : Prop := ∃ m, c = some m ∧ n < m

namespace Above

variable {c : Counter} {n nonce : ℕ}

theorem lt_current (h : Above c n) (pending : ℕ) : n < c.current pending := by
  obtain ⟨m, hm, hn⟩ := h
  have := cached_le_current hm pending
  omega

theorem reserve (h : Above c n) (pending : ℕ) : Above (c.reserve pending) n := by
  have := h.lt_current pending
  exact ⟨_, rfl, by omega⟩

theorem release (h : Above c n) (hne : n ≠ nonce) (hkept : c.release nonce ≠ Option.none) :
    Above (c.release nonce) n := by
  obtain ⟨m, hm, hn⟩ := h
  obtain ⟨k, hk⟩ := Option.ne_none_iff_exists'.mp hkept
  obtain ⟨rfl, hc⟩ := release_eq_some hk
  rw [hc, Option.some.injEq] at hm
  exact ⟨k, hk, by omega⟩

end Above

end Counter

/-- `NonceManager._nonces`. -/
abbrev Nonces := Address → Counter

abbrev NonceProg := Prog Nonces Raised

namespace NonceManager

open Prog

/-- Rewrite one address's entry. -/
def set (address : Address) (c : Counter) : NonceProg Unit :=
  modify fun nonces => Function.update nonces address c

def getNonce (address : Address) (forceRefresh : Bool) (pending : Except Exc Nat) :
    NonceProg Nat := do
  match pending with
  | .error exc => raise exc.raised
  | .ok pendingNonce => do
    let cached := (← get) address
    set address (some (cached.refreshed pendingNonce forceRefresh))
    pure (cached.refreshed pendingNonce forceRefresh)

def reserveNonce (address : Address) (pending : Except Exc Nat) : NonceProg Nat := do
  match pending with
  | .error exc => raise exc.raised
  | .ok pendingNonce => do
    let cached := (← get) address
    set address (cached.reserve pendingNonce)
    pure (cached.current pendingNonce)

def releaseNonce (address : Address) (nonce : Nat) : NonceProg Unit := do
  set address (((← get) address).release nonce)

def incrementNonce (address : Address) : NonceProg Unit := do
  set address ((← get) address).increment

def resetNonce (address : Address) : NonceProg Unit := set address none

def clearAll : NonceProg Unit := modify fun _ _ => none

def getCachedNonce (address : Address) : NonceProg Counter := do
  pure ((← get) address)

end NonceManager

end OgpuSdk
