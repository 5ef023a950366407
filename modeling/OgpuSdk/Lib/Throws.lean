import OgpuSdk.Lib.Loop

/-!
# What programs raise

`Throws Q x`: whatever state it starts from, the program `x` returns or raises
something that satisfies `Q`. The rules follow the constructs programs are
made of; where a program handles what another one raised, the rule hands the
handler what is known of it.
-/

namespace OgpuSdk.Prog

variable {σ τ ε α β : Type}

def Throws (Q : ε → Prop) (x : Prog σ ε α) : Prop := ∀ s e s', x.exec s = (.error e, s') → Q e

namespace Throws

variable {P Q : ε → Prop}

theorem mono {x : Prog σ ε α} (h : Throws P x) (hPQ : ∀ e, P e → Q e) : Throws Q x :=
  fun s e s' hx => hPQ e (h s e s' hx)

theorem pure (a : α) : Throws Q (Pure.pure a : Prog σ ε α) := by
  intro s e s' h
  cases h

theorem raise {e : ε} (he : Q e) : Throws Q (Prog.raise e : Prog σ ε α) := by
  intro s e' s' h
  cases h
  exact he

theorem get : Throws Q (MonadState.get : Prog σ ε σ) := by
  intro s e s' h
  cases h

theorem modify (f : σ → σ) : Throws Q (modify f : Prog σ ε Unit) := by
  intro s e s' h
  cases h

/-- The rule for a sequence, with what the first part returned. -/
theorem bind_of {x : Prog σ ε α} {f : α → Prog σ ε β} (hx : Throws Q x)
    (hf : ∀ a s s', x.exec s = (.ok a, s') → Throws Q (f a)) : Throws Q (x >>= f) := by
  intro s e s' h
  rw [exec_bind] at h
  rcases hr : x.exec s with ⟨e' | a, t⟩
  · rw [hr] at h
    cases h
    exact hx s _ _ hr
  · rw [hr] at h
    exact hf a s t hr _ _ _ h

theorem bind {x : Prog σ ε α} {f : α → Prog σ ε β} (hx : Throws Q x)
    (hf : ∀ a, Throws Q (f a)) : Throws Q (x >>= f) := hx.bind_of fun a _ _ _ => hf a

/-- A handler is given what the program raises. -/
theorem attempt_bind {x : Prog σ ε α} {f : Except ε α → Prog σ ε β} (hx : Throws P x)
    (hok : ∀ a, Throws Q (f (.ok a))) (herror : ∀ e, P e → Throws Q (f (.error e))) :
    Throws Q (Prog.attempt x >>= f) := by
  intro s e s' h
  rw [exec_bind_ok (exec_attempt x s)] at h
  rcases hr : x.exec s with ⟨e' | a, t⟩
  · rw [hr] at h
    exact herror e' (hx s _ _ hr) _ _ _ h
  · rw [hr] at h
    exact hok a _ _ _ h

theorem onRaise {x : Prog σ ε α} {fin : ε → Prog σ ε Unit} (hx : Throws Q x)
    (hfin : ∀ e, Throws Q (fin e)) : Throws Q (Prog.onRaise x fin) :=
  hx.attempt_bind pure fun e he => (hfin e).bind fun _ => raise he

theorem zoom {get : τ → σ} {set : σ → τ → τ} {x : Prog σ ε α} (h : Throws Q x) :
    Throws Q (Prog.zoom get set x) := by
  intro t e t' ht
  rw [exec_zoom, Prod.mk.injEq] at ht
  exact h (get t) e _ (Prod.ext ht.1 rfl)

theorem loop {body : Nat → β → Prog σ ε (Turn α β)} {after : β → Prog σ ε α}
    (hbody : ∀ k b, Throws Q (body k b)) (hafter : ∀ b, Throws Q (after b)) :
    ∀ n k b, Throws Q (Prog.loop body after n k b)
  | 0, _, b => hafter b
  | n + 1, k, b => by
    refine bind (hbody k b) fun turn => ?_
    cases turn with
    | done a => exact pure a
    | next b' => exact loop hbody hafter n (k + 1) b'
    | stop b' => exact hafter b'

end Throws

end OgpuSdk.Prog
