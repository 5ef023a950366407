import Mathlib.Tactic.Common

/-!
# Programs with state and exceptions

`Prog σ ε α` is a program over states `σ` that returns an `α` or raises an
`ε`; what it did to the state before raising stays done, as in an imperative
language. `exec` evaluates it, and the `exec_*` lemmas push `exec` through the
`do` fragment.
-/

namespace OgpuSdk

/-- A program over `σ` that returns an `α` or raises an `ε`; the state survives a raise. -/
abbrev Prog (σ ε α : Type) := ExceptT ε (StateM σ) α

namespace Prog

variable {σ τ ε α β γ : Type}

/-- What the program answers from state `s`, and the state it leaves. -/
def exec (x : Prog σ ε α) (s : σ) : Except ε α × σ := (ExceptT.run x).run s

def raise (e : ε) : Prog σ ε α := throw e

/-- The answer of `x` as a value: nothing escapes. -/
def attempt (x : Prog σ ε α) : Prog σ ε (Except ε α) :=
  ExceptT.lift (ExceptT.run x)

/-- Run `fin e` when `x` raises `e`, then raise `e` again. -/
def onRaise (x : Prog σ ε α) (fin : ε → Prog σ ε Unit) : Prog σ ε α := do
  match ← attempt x with
  | .ok a => pure a
  | .error e => fin e; raise e

/-- A program over a part of the state. -/
def zoom (get : τ → σ) (set : σ → τ → τ) (x : Prog σ ε α) : Prog τ ε α :=
  ExceptT.mk fun t => ((x.exec (get t)).1, set (x.exec (get t)).2 t)

@[simp] theorem exec_pure (a : α) (s : σ) : (pure a : Prog σ ε α).exec s = (.ok a, s) := rfl

@[simp] theorem exec_raise (e : ε) (s : σ) : (raise e : Prog σ ε α).exec s = (.error e, s) := rfl

theorem exec_bind (x : Prog σ ε α) (f : α → Prog σ ε β) (s : σ) :
    (x >>= f).exec s =
      match x.exec s with
      | (.ok a, s') => (f a).exec s'
      | (.error e, s') => (.error e, s') := by
  simp only [exec, ExceptT.run, bind, ExceptT.bind, ExceptT.mk, StateT.run, StateT.bind]
  rcases h : x s with ⟨a | a, s'⟩ <;> rfl

@[simp] theorem exec_get (s : σ) : (get : Prog σ ε σ).exec s = (.ok s, s) := rfl

@[simp] theorem exec_modify (f : σ → σ) (s : σ) :
    (modify f : Prog σ ε Unit).exec s = (.ok (), f s) := rfl

@[simp] theorem exec_attempt (x : Prog σ ε α) (s : σ) :
    (attempt x).exec s = (.ok (x.exec s).1, (x.exec s).2) := rfl

@[simp] theorem exec_zoom (get : τ → σ) (set : σ → τ → τ) (x : Prog σ ε α) (t : τ) :
    (zoom get set x).exec t = ((x.exec (get t)).1, set (x.exec (get t)).2 t) := rfl

theorem exec_map (f : α → β) (x : Prog σ ε α) (s : σ) :
    (f <$> x).exec s = ((x.exec s).1.map f, (x.exec s).2) := by
  rw [map_eq_pure_bind, exec_bind]
  rcases x.exec s with ⟨a | a, s'⟩ <;> rfl

theorem exec_bind_ok {x : Prog σ ε α} {f : α → Prog σ ε β} {s s' : σ} {a : α}
    (h : x.exec s = (.ok a, s')) : (x >>= f).exec s = (f a).exec s' := by
  rw [exec_bind, h]

theorem exec_bind_error {x : Prog σ ε α} {f : α → Prog σ ε β} {s s' : σ} {e : ε}
    (h : x.exec s = (.error e, s')) : (x >>= f).exec s = (.error e, s') := by
  rw [exec_bind, h]

/-- Dropping what a program returns drops nothing of what it has done. -/
theorem exec_drop (x : Prog σ ε α) (s : σ) :
    ((do let _ ← x : Prog σ ε Unit).exec s).2 = (x.exec s).2 := by
  rw [exec_bind]
  rcases x.exec s with ⟨e | a, s'⟩ <;> rfl

/-- A sequence that returns went through both parts. -/
theorem exec_bind_eq_ok {x : Prog σ ε α} {f : α → Prog σ ε β} {s s' : σ} {b : β}
    (h : (x >>= f).exec s = (.ok b, s')) :
    ∃ a t, x.exec s = (.ok a, t) ∧ (f a).exec t = (.ok b, s') := by
  rw [exec_bind] at h
  rcases hx : x.exec s with ⟨e | a, t⟩
  · rw [hx] at h
    cases h
  · rw [hx] at h
    exact ⟨a, t, rfl, h⟩

/-- A program of whose answer something is known has returned. -/
theorem returned_of_map {r : Except ε α × σ} {f : α → β} {b : β}
    (h : r.1.toOption.map f = some b) : ∃ a s, r = (.ok a, s) ∧ f a = b := by
  rcases r with ⟨e | a, s⟩
  · cases h
  · exact ⟨a, s, rfl, Option.some.inj h⟩

theorem exec_onRaise (x : Prog σ ε α) (fin : ε → Prog σ ε Unit) (s : σ) :
    (onRaise x fin).exec s =
      match x.exec s with
      | (.ok a, s') => (.ok a, s')
      | (.error e, s') => (fin e >>= fun _ => raise e).exec s' := by
  unfold onRaise
  rw [exec_bind_ok (exec_attempt x s)]
  rcases x.exec s with ⟨a | a, s'⟩ <;> rfl

end Prog

end OgpuSdk
