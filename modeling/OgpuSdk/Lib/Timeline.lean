import Mathlib.Data.List.Sublists
import Mathlib.Order.Basic
import Mathlib.Tactic.Common

/-!
# What is seen of a state that changes

A `state` answers questions, differently at different times. `Seen state s t
seen` says that the answers in `seen` were given one after the other between
`s` and `t`. Whoever asks several questions in a row gets no picture of any one
moment, but the order of the questions says in which order the moments were:
what follows at every later moment from an answer holds of the answers after
it (`pair`). `EachAfter` is about a list of what happened: every entry fits
what happened before it.
-/

namespace OgpuSdk

variable {T Q A : Type} [Preorder T]

inductive Seen (state : T → Q → A) : T → T → List (Q × A) → Prop where
  | nil {s t : T} (h : s ≤ t) : Seen state s t []
  | cons {s t u : T} {question : Q} {seen : List (Q × A)} (h : s ≤ u) (rest : Seen state u t seen) :
      Seen state s t ((question, state u question) :: seen)

namespace Seen

variable {state : T → Q → A} {s t u : T} {seen seen' : List (Q × A)} {question question' : Q}
  {answer answer' : A}

theorem one (h : s ≤ u) (h' : u ≤ t) (ha : state u question = answer) :
    Seen state s t [(question, answer)] := ha ▸ .cons h (.nil h')

theorem le (h : Seen state s t seen) : s ≤ t := by
  induction h with
  | nil h => exact h
  | cons h _ ih => exact h.trans ih

theorem mono_left (h : Seen state s t seen) (hle : u ≤ s) : Seen state u t seen := by
  cases h with
  | nil h => exact .nil (hle.trans h)
  | cons h rest => exact .cons (hle.trans h) rest

theorem append (h : Seen state s u seen) (h' : Seen state u t seen') :
    Seen state s t (seen ++ seen') := by
  induction h with
  | nil h => exact h'.mono_left h
  | cons h _ ih => exact .cons h (ih h')

/-- Every answer was the answer at a moment in between. -/
theorem answered (h : Seen state s t seen) (hmem : (question, answer) ∈ seen) :
    ∃ u, s ≤ u ∧ u ≤ t ∧ state u question = answer := by
  induction h with
  | nil => cases hmem
  | @cons s t v _ _ h rest ih =>
    rcases List.mem_cons.mp hmem with heq | hmem
    · cases heq
      exact ⟨v, h, rest.le, rfl⟩
    · obtain ⟨u, hu, ht, ha⟩ := ih hmem
      exact ⟨u, h.trans hu, ht, ha⟩

/-- Two answers, one after the other, were given at two moments, one after the other. -/
theorem pair (h : Seen state s t seen)
    (hsub : [(question, answer), (question', answer')].Sublist seen) :
    ∃ u v, s ≤ u ∧ u ≤ v ∧ v ≤ t ∧ state u question = answer ∧ state v question' = answer' := by
  induction h with
  | nil => cases hsub
  | @cons s t w _ _ h rest ih =>
    cases hsub with
    | cons _ hsub =>
      obtain ⟨u, v, hu, hv, ht, ha⟩ := ih hsub
      exact ⟨u, v, h.trans hu, hv, ht, ha⟩
    | cons_cons _ hsub =>
      obtain ⟨v, hv, ht, ha⟩ := rest.answered (List.singleton_sublist.mp hsub)
      exact ⟨w, v, h, hv, ht, rfl, ha⟩

end Seen

/-- Every entry fits those before it. -/
def EachAfter {E : Type} (Q : List E → E → Prop) (entries : List E) : Prop :=
  ∀ before e, before ++ [e] <+: entries → Q before e

namespace EachAfter

variable {E : Type} {Q : List E → E → Prop} {entries : List E} {e : E}

theorem nil : EachAfter Q [] := by
  intro before e h
  simp at h

theorem concat (h : EachAfter Q entries) (he : Q entries e) : EachAfter Q (entries ++ [e]) := by
  intro before e' hprefix
  rcases List.prefix_concat_iff.mp hprefix with heq | hprefix
  · obtain ⟨rfl, rfl⟩ := List.append_singleton_inj.mp heq
    exact he
  · exact h before e' hprefix

end EachAfter

end OgpuSdk
