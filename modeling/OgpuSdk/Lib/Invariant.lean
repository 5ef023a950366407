import OgpuSdk.Lib.Loop

/-!
# Invariants of programs

`Preserves I x`: from a state with `I`, the program `x` ends in a state with
`I`, whether it returns or raises. The rules follow the constructs programs
are made of.
-/

namespace OgpuSdk.Prog

variable {σ τ ε α β : Type}

def Preserves (I : σ → Prop) (x : Prog σ ε α) : Prop := ∀ s, I s → I (x.exec s).2

namespace Preserves

variable {I : σ → Prop}

/-- A program that changes nothing preserves everything. -/
theorem of_unchanged {x : Prog σ ε α} (h : ∀ s, (x.exec s).2 = s) : Preserves I x := by
  intro s hs
  rw [h]
  exact hs

theorem pure (a : α) : Preserves I (Pure.pure a : Prog σ ε α) := of_unchanged fun _ => rfl

theorem raise (e : ε) : Preserves I (Prog.raise e : Prog σ ε α) := of_unchanged fun _ => rfl

theorem bind {x : Prog σ ε α} {f : α → Prog σ ε β} (hx : Preserves I x)
    (hf : ∀ a, Preserves I (f a)) : Preserves I (x >>= f) := by
  intro s hs
  have h := hx s hs
  rw [exec_bind]
  rcases hr : x.exec s with ⟨e | a, s'⟩
  · rw [hr] at h
    exact h
  · rw [hr] at h
    exact hf a s' h

theorem attempt {x : Prog σ ε α} (hx : Preserves I x) : Preserves I (Prog.attempt x) :=
  fun s hs => hx s hs

theorem onRaise {x : Prog σ ε α} {fin : ε → Prog σ ε Unit} (hx : Preserves I x)
    (hfin : ∀ e, Preserves I (fin e)) : Preserves I (Prog.onRaise x fin) := by
  refine bind (attempt hx) fun answer => ?_
  cases answer with
  | ok a => exact pure a
  | error e => exact bind (hfin e) fun _ => raise e

theorem zoom {get : τ → σ} {set : σ → τ → τ} {I : τ → Prop} (x : Prog σ ε α)
    (h : ∀ s t, I t → I (set s t)) : Preserves I (Prog.zoom get set x) := fun t ht => h _ t ht

theorem loop {body : Nat → β → Prog σ ε (Turn α β)} {after : β → Prog σ ε α}
    (hbody : ∀ k b, Preserves I (body k b)) (hafter : ∀ b, Preserves I (after b)) :
    ∀ n k b, Preserves I (Prog.loop body after n k b)
  | 0, _, b => hafter b
  | n + 1, k, b => by
    refine bind (hbody k b) fun turn => ?_
    cases turn with
    | done a => exact pure a
    | next b' => exact loop hbody hafter n (k + 1) b'
    | stop b' => exact hafter b'

/-- Only the turns a loop can take have to preserve it. -/
theorem loop_range {body : Nat → β → Prog σ ε (Turn α β)} {after : β → Prog σ ε α}
    (hafter : ∀ b, Preserves I (after b)) :
    ∀ n k b, (∀ j b, k ≤ j → j < k + n → Preserves I (body j b)) →
      Preserves I (Prog.loop body after n k b)
  | 0, _, b, _ => hafter b
  | n + 1, k, b, hbody => by
    refine bind (hbody k b (Nat.le_refl _) (by omega)) fun turn => ?_
    cases turn with
    | done a => exact pure a
    | next b' =>
      exact loop_range hafter n (k + 1) b' fun j b hj hlt => hbody j b (by omega) (by omega)
    | stop b' => exact hafter b'

end Preserves

end OgpuSdk.Prog
