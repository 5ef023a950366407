import OgpuSdk.Lib.Prog

/-!
# Bounded loops with early exits

`loop body after n k b` takes turns `k`, `k + 1`, … , at most `n` of them,
carrying a value `b`; a turn ends the call (`done`), goes on (`next`) or
leaves the loop (`stop`), and `after` runs when the loop is left or used up.
`Reached` is the relation "turn `k` is taken, from this value and this state",
and `Ends` lists the ways a loop can end; `loop_ends` is the one case analysis
every fact about a loop starts from.
-/

namespace OgpuSdk.Prog

variable {σ ε α β : Type}

/-- How a turn of a loop ends, unless it raises. -/
inductive Turn (α β : Type) where
  | done (a : α)
  | next (b : β)
  | stop (b : β)

def loop (body : Nat → β → Prog σ ε (Turn α β)) (after : β → Prog σ ε α) :
    Nat → Nat → β → Prog σ ε α
  | 0, _, b => after b
  | n + 1, k, b => do
    match ← body k b with
    | .done a => pure a
    | .next b' => loop body after n (k + 1) b'
    | .stop b' => after b'

/-- Turn `k` is taken with value `b` from state `s`. -/
inductive Reached (body : Nat → β → Prog σ ε (Turn α β)) (k₀ : Nat) (b₀ : β) (s₀ : σ) :
    Nat → β → σ → Prop where
  | start : Reached body k₀ b₀ s₀ k₀ b₀ s₀
  | next {k : Nat} {b b' : β} {s s' : σ} : Reached body k₀ b₀ s₀ k b s →
      (body k b).exec s = (.ok (.next b'), s') → Reached body k₀ b₀ s₀ (k + 1) b' s'

section

variable {body : Nat → β → Prog σ ε (Turn α β)} {after : β → Prog σ ε α}
  {k₀ k : Nat} {b₀ b b' : β} {s₀ s s' : σ}

theorem Reached.le (h : Reached body k₀ b₀ s₀ k b s) : k₀ ≤ k := by
  induction h with
  | start => exact Nat.le_refl _
  | next _ _ ih => omega

/-- A turn is taken with one value and from one state only. -/
theorem Reached.unique (h : Reached body k₀ b₀ s₀ k b s) (h' : Reached body k₀ b₀ s₀ k b' s') :
    b = b' ∧ s = s' := by
  induction h generalizing b' s' with
  | start =>
    cases h' with
    | start => exact ⟨rfl, rfl⟩
    | next hr _ => have := hr.le; omega
  | @next j c c' t t' hr ht ih =>
    cases h' with
    | start => have := hr.le; omega
    | next hr' ht' =>
      obtain ⟨rfl, rfl⟩ := ih hr'
      rw [ht] at ht'
      cases ht'
      exact ⟨rfl, rfl⟩

/-- Every turn up to a taken one was taken. -/
theorem Reached.earlier (h : Reached body k₀ b₀ s₀ k b s) {j : Nat} (h0 : k₀ ≤ j) (hj : j < k) :
    ∃ c t c' t', Reached body k₀ b₀ s₀ j c t ∧ (body j c).exec t = (.ok (.next c'), t') ∧
      Reached body j c t k b s := by
  induction h with
  | start => omega
  | @next i c c' t t' hr ht ih =>
    rcases Nat.lt_or_eq_of_le (Nat.le_of_lt_succ hj) with hji | rfl
    · obtain ⟨d, u, d', u', h1, h2, h3⟩ := ih hji
      exact ⟨d, u, d', u', h1, h2, .next h3 ht⟩
    · exact ⟨c, t, c', t', hr, ht, .next .start ht⟩

theorem Reached.trans {j : Nat} {c : β} {t : σ} (h : Reached body k₀ b₀ s₀ j c t)
    (h' : Reached body j c t k b s) : Reached body k₀ b₀ s₀ k b s := by
  induction h' with
  | start => exact h
  | next _ ht ih => exact .next ih ht

/-- What holds before the first turn and is handed on by every turn that goes on holds before every
turn. -/
theorem Reached.inv {I : Nat → β → σ → Prop} (h : Reached body k₀ b₀ s₀ k b s) (h0 : I k₀ b₀ s₀)
    (hnext : ∀ k b s b' s', I k b s → (body k b).exec s = (.ok (.next b'), s') →
      I (k + 1) b' s') : I k b s := by
  induction h with
  | start => exact h0
  | next _ ht ih => exact hnext _ _ _ _ _ ih ht

variable (after)

/-- A loop whose turn `k` is taken, or would be the next one, does what it does from there. -/
theorem Reached.loop_from (h : Reached body k₀ b₀ s₀ k b s) {n : Nat} (hn : k ≤ k₀ + n) :
    (loop body after n k₀ b₀).exec s₀ = (loop body after (k₀ + n - k) k b).exec s := by
  induction h with
  | start => rw [show k₀ + n - k₀ = n by omega]
  | @next j c c' t t' _ ht ih =>
    rw [ih (by omega), show k₀ + n - j = k₀ + n - (j + 1) + 1 by omega, loop, exec_bind_ok ht]

theorem Reached.loop_eq (h : Reached body k₀ b₀ s₀ k b s) {n : Nat} (hn : k < k₀ + n) :
    ∃ m, (loop body after n k₀ b₀).exec s₀ = (loop body after (m + 1) k b).exec s := by
  refine ⟨k₀ + n - k - 1, ?_⟩
  rw [h.loop_from after (by omega), show k₀ + n - k - 1 + 1 = k₀ + n - k by omega]

/-- A loop that takes all its turns ends with what is after it. -/
theorem Reached.usedUp {n : Nat} (h : Reached body k₀ b₀ s₀ (k₀ + n) b s) :
    (loop body after n k₀ b₀).exec s₀ = (after b).exec s := by
  rw [h.loop_from after (Nat.le_refl _), Nat.sub_self]
  rfl

/-- The turn that raises is the last. -/
theorem Reached.raised (h : Reached body k₀ b₀ s₀ k b s) {n : Nat} (hn : k < k₀ + n) {e : ε}
    (hb : (body k b).exec s = (.error e, s')) :
    (loop body after n k₀ b₀).exec s₀ = (.error e, s') := by
  obtain ⟨m, hm⟩ := h.loop_eq after hn
  rw [hm, loop, exec_bind_error hb]

/-- The turn that is done is the last. -/
theorem Reached.done (h : Reached body k₀ b₀ s₀ k b s) {n : Nat} (hn : k < k₀ + n) {a : α}
    (hb : (body k b).exec s = (.ok (.done a), s')) :
    (loop body after n k₀ b₀).exec s₀ = (.ok a, s') := by
  obtain ⟨m, hm⟩ := h.loop_eq after hn
  rw [hm, loop, exec_bind_ok hb]
  rfl

end

/-- The ways a loop of at most `n` turns can end. -/
inductive Ends (body : Nat → β → Prog σ ε (Turn α β)) (after : β → Prog σ ε α)
    (n k₀ : Nat) (b₀ : β) (s₀ : σ) : Except ε α × σ → Prop where
  | done {k : Nat} {b : β} {s s' : σ} {a : α} : Reached body k₀ b₀ s₀ k b s → k < k₀ + n →
      (body k b).exec s = (.ok (.done a), s') → Ends body after n k₀ b₀ s₀ (.ok a, s')
  | raised {k : Nat} {b : β} {s s' : σ} {e : ε} : Reached body k₀ b₀ s₀ k b s → k < k₀ + n →
      (body k b).exec s = (.error e, s') → Ends body after n k₀ b₀ s₀ (.error e, s')
  | stopped {k : Nat} {b b' : β} {s s' : σ} : Reached body k₀ b₀ s₀ k b s → k < k₀ + n →
      (body k b).exec s = (.ok (.stop b'), s') →
      Ends body after n k₀ b₀ s₀ ((after b').exec s')
  | usedUp {b : β} {s : σ} : Reached body k₀ b₀ s₀ (k₀ + n) b s →
      Ends body after n k₀ b₀ s₀ ((after b).exec s)

/-- How a loop ends. -/
theorem loop_ends (body : Nat → β → Prog σ ε (Turn α β)) (after : β → Prog σ ε α) :
    ∀ (n k : Nat) (b : β) (s : σ), Ends body after n k b s ((loop body after n k b).exec s)
  | 0, _, _, _ => .usedUp .start
  | n + 1, k, b, s => by
    rcases hb : (body k b).exec s with ⟨e | t, s'⟩
    · rw [loop, exec_bind_error hb]
      exact .raised .start (by omega) hb
    rw [loop, exec_bind_ok hb]
    cases t with
    | done a => exact .done .start (by omega) hb
    | stop b' => exact .stopped .start (by omega) hb
    | next b' =>
      -- The rest of the loop ends in one of the four ways, and turn `k` precedes it.
      have hr : Reached body k b s (k + 1) b' s' := .next .start hb
      show Ends body after (n + 1) k b s ((loop body after n (k + 1) b').exec s')
      have ih := loop_ends body after n (k + 1) b' s'
      generalize (loop body after n (k + 1) b').exec s' = r at ih
      cases ih with
      | done h hk h' => exact .done (hr.trans h) (by omega) h'
      | raised h hk h' => exact .raised (hr.trans h) (by omega) h'
      | stopped h hk h' => exact .stopped (hr.trans h) (by omega) h'
      | usedUp h => exact .usedUp (by rw [show k + (n + 1) = k + 1 + n by omega]; exact hr.trans h)

end OgpuSdk.Prog
