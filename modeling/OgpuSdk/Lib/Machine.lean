import Mathlib.Data.List.Induction
import Mathlib.Tactic.Common

/-!
# Labelled machines, invariants and the past of a run

A `Machine` has initial states and a partial step by action; `run` takes a
list of actions in order. `run_inv` is the induction every fact about runs is
proved by: the invariant speaks of the state and of the actions that led to
it. `Since` is the past-time "since": something has held ever since a state of
the run in which something else did. `Always` and `EachStep` speak of all the
states and of all the steps along a run; `RunBy` is a run with a condition on
its steps.
-/

namespace OgpuSdk

structure Machine (σ α : Type) where
  init : σ → Prop
  step : σ → α → Option σ

namespace Machine

variable {σ α : Type} (M : Machine σ α)

def run : σ → List α → Option σ
  | s, [] => some s
  | s, a :: as => (M.step s a).bind (run · as)

/-- `s` is reached from an initial state by actions satisfying `P`. -/
def Reachable (P : α → Prop) (s : σ) : Prop :=
  ∃ s₀ as, M.init s₀ ∧ (∀ a ∈ as, P a) ∧ M.run s₀ as = some s

/-- Actions satisfying `P` lead from `s` to `s'`. -/
def Leads (P : α → Prop) (s s' : σ) : Prop := ∃ as, (∀ a ∈ as, P a) ∧ M.run s as = some s'

/-- Along the run of `as` from `s₀`, `keep` has held ever since a state with `start`. -/
def Since (keep start : σ → Prop) (s₀ : σ) (as : List α) : Prop :=
  ∃ bs cs u, as = bs ++ cs ∧ M.run s₀ bs = some u ∧ start u ∧
    ∀ ds v, ds <+: cs → M.run u ds = some v → keep v

/-- Every state along the run of `as` from `s₀` has `P`. -/
def Always (P : σ → Prop) (s₀ : σ) (as : List α) : Prop :=
  ∀ bs s, bs <+: as → M.run s₀ bs = some s → P s

/-- Every step along the run of `as` from `s₀` is taken from a state that `G` relates to it. -/
def EachStep (G : σ → α → Prop) (s₀ : σ) (as : List α) : Prop :=
  ∀ bs a s, bs ++ [a] <+: as → M.run s₀ bs = some s → G s a

/-- `as` leads from `s₀` to `s`, by steps that `G` relates to the states they are taken from. -/
structure RunBy (G : σ → α → Prop) (s₀ : σ) (as : List α) (s : σ) : Prop where
  run : M.run s₀ as = some s
  steps : M.EachStep G s₀ as

/-- A step along the run of `as` from `s₀` bears `b`. -/
def Bears {β : Type} (born : σ → α → β → Prop) (s₀ : σ) (as : List α) (b : β) : Prop :=
  ∃ bs a s, bs ++ [a] <+: as ∧ M.run s₀ bs = some s ∧ born s a b

variable {M}

theorem run_append (s : σ) (as bs : List α) :
    M.run s (as ++ bs) = (M.run s as).bind (M.run · bs) := by
  induction as generalizing s with
  | nil => rfl
  | cons a as ih =>
    simp only [List.cons_append, run]
    cases M.step s a with
    | none => rfl
    | some t => simpa using ih t

theorem run_snoc {s₀ s' : σ} {a : α} {as : List α} :
    M.run s₀ (as ++ [a]) = some s' ↔ ∃ s, M.run s₀ as = some s ∧ M.step s a = some s' := by
  rw [run_append]
  simp [run, Option.bind_eq_some_iff]

theorem Leads.refl {P : α → Prop} (s : σ) : M.Leads P s s := ⟨[], by simp, rfl⟩

theorem Leads.tail {P : α → Prop} {s t u : σ} {a : α} (h : M.Leads P s t) (ha : P a)
    (hstep : M.step t a = some u) : M.Leads P s u := by
  obtain ⟨as, has, hr⟩ := h
  refine ⟨as ++ [a], ?_, run_snoc.mpr ⟨t, hr, hstep⟩⟩
  intro b hb
  rw [List.mem_append, List.mem_singleton] at hb
  rcases hb with hb | rfl
  · exact has b hb
  · exact ha

/-- A step of a run of `as`, by its number. -/
theorem eq_take_of_concat_prefix {before as : List α} {a : α} (h : before ++ [a] <+: as) :
    ∃ i, before = as.take i ∧ as[i]? = some a := by
  obtain ⟨rest, rfl⟩ := h
  exact ⟨before.length, by simp, by simp⟩

/-- What holds at the start and is kept by every step holds after every run. -/
theorem run_inv {P : α → Prop} {s₀ : σ} {I : List α → σ → Prop} (hinit : I [] s₀)
    (hstep : ∀ as s a s', P a → M.run s₀ as = some s → M.step s a = some s' → I as s →
      I (as ++ [a]) s') {as : List α} {s : σ} (hP : ∀ a ∈ as, P a) (hr : M.run s₀ as = some s) :
    I as s := by
  induction as using List.reverseRecOn generalizing s with
  | nil =>
    simp only [run, Option.some.injEq] at hr
    subst hr
    exact hinit
  | append_singleton as a ih =>
    obtain ⟨t, ht, ha⟩ := run_snoc.mp hr
    exact hstep as t a s (hP a (by simp)) ht ha (ih (fun b hb => hP b (by simp [hb])) ht)

theorem Bears.earlier {β : Type} {born : σ → α → β → Prop} {s₀ : σ} {as : List α} {b : β}
    (h : M.Bears born s₀ as b) (cs : List α) : M.Bears born s₀ (as ++ cs) b := by
  obtain ⟨bs, a, s, hprefix, hs, hborn⟩ := h
  exact ⟨bs, a, s, hprefix.trans (List.prefix_append _ _), hs, hborn⟩

/-- What holds at the end of a run, and did not at its start, was made to hold by a step of it. -/
theorem made_by_step {I : σ → Prop} {s₀ s : σ} {as : List α} (hr : M.run s₀ as = some s)
    (hinit : ¬ I s₀) (h : I s) :
    ∃ bs a t u, bs ++ [a] <+: as ∧ M.run s₀ bs = some t ∧ M.step t a = some u ∧ ¬ I t ∧ I u := by
  induction as using List.reverseRecOn generalizing s with
  | nil =>
    cases hr
    exact absurd h hinit
  | append_singleton as a ih =>
    obtain ⟨t, ht, ha⟩ := run_snoc.mp hr
    by_cases hI : I t
    · obtain ⟨bs, b, t', u, hprefix, hrest⟩ := ih ht hI
      exact ⟨bs, b, t', u, hprefix.trans (List.prefix_append _ _), hrest⟩
    · exact ⟨as, a, t, s, List.prefix_rfl, ht, ha, hI, h⟩

theorem RunBy.made_by_step {G : σ → α → Prop} {I : σ → Prop} {s₀ s : σ} {as : List α}
    (hr : M.RunBy G s₀ as s) (hinit : ¬ I s₀) (h : I s) :
    ∃ bs a t u, bs ++ [a] <+: as ∧ M.run s₀ bs = some t ∧ M.step t a = some u ∧ G t a ∧
      ¬ I t ∧ I u := by
  obtain ⟨bs, a, t, u, hprefix, ht, ha, hnot, hI⟩ := Machine.made_by_step hr.run hinit h
  exact ⟨bs, a, t, u, hprefix, ht, ha, hr.steps bs a t hprefix ht, hnot, hI⟩

theorem Bears.last {β : Type} {born : σ → α → β → Prop} {s₀ s : σ} {as : List α} {a : α} {b : β}
    (hr : M.run s₀ as = some s) (h : born s a b) : M.Bears born s₀ (as ++ [a]) b :=
  ⟨as, a, s, List.prefix_rfl, hr, h⟩

/-- An inductive invariant holds in every reachable state. -/
theorem Reachable.inv {P : α → Prop} {I : σ → Prop} {s : σ} (h : M.Reachable P s)
    (hinit : ∀ s₀, M.init s₀ → I s₀)
    (hstep : ∀ s a s', P a → M.step s a = some s' → I s → I s') : I s := by
  obtain ⟨s₀, as, h0, hP, hr⟩ := h
  exact run_inv (I := fun _ => I) (hinit s₀ h0) (fun _ s a s' ha _ => hstep s a s' ha) hP hr

theorem run_prefix {s₀ s : σ} {as bs : List α} (hr : M.run s₀ as = some s) (h : bs <+: as) :
    ∃ t, M.run s₀ bs = some t := by
  obtain ⟨cs, rfl⟩ := h
  rw [run_append, Option.bind_eq_some_iff] at hr
  obtain ⟨t, ht, -⟩ := hr
  exact ⟨t, ht⟩

theorem eachStep_nil {G : σ → α → Prop} {s : σ} : M.EachStep G s [] := by
  intro bs a t h
  have hlen := h.length_le
  rw [List.length_append, List.length_singleton, List.length_nil] at hlen
  omega

theorem eachStep_cons {G : σ → α → Prop} {s : σ} {a : α} {as : List α} :
    M.EachStep G s (a :: as) ↔ G s a ∧ ∀ t, M.step s a = some t → M.EachStep G t as := by
  constructor
  · intro h
    refine ⟨h [] a s (by simp) rfl, ?_⟩
    intro t ha bs b u hbs hu
    refine h (a :: bs) b u (by simpa using hbs) ?_
    rw [run, ha, Option.bind_some, hu]
  · rintro ⟨hG, h⟩ bs b u hbs hu
    cases bs with
    | nil =>
      obtain ⟨rfl, -⟩ := List.cons_prefix_cons.mp hbs
      cases hu
      exact hG
    | cons c bs =>
      obtain ⟨rfl, htail⟩ := List.cons_prefix_cons.mp hbs
      obtain ⟨t, ht, htu⟩ := Option.bind_eq_some_iff.mp hu
      exact h t ht bs b u htail htu

/-- What holds at the start, and is kept by every step that `G` allows, holds along a run of such
steps. -/
theorem EachStep.always {I : σ → Prop} {G : σ → α → Prop} {s₀ : σ} {as : List α}
    (h : M.EachStep G s₀ as) (hI : I s₀)
    (hstep : ∀ s a s', M.step s a = some s' → G s a → I s → I s') : M.Always I s₀ as := by
  intro bs
  induction bs using List.reverseRecOn with
  | nil =>
    intro t _ ht
    cases ht
    exact hI
  | append_singleton bs a ih =>
    intro t' hbs ht'
    obtain ⟨t, ht, ha⟩ := run_snoc.mp ht'
    exact hstep t a t' ha (h bs a t hbs ht) (ih t ((List.prefix_append bs [a]).trans hbs) ht)

/-- Where a step keeps `I` exactly if `G` allows it, every state of a run has `I` exactly if every
step of it is one `G` allows. The invariant `J` holds either way. -/
theorem always_iff_eachStep {I J : σ → Prop} {G : σ → α → Prop} {s₀ s : σ} {as : List α}
    (hI : I s₀) (hJ : J s₀) (hstepJ : ∀ s a s', M.step s a = some s' → J s → J s')
    (hstep : ∀ s a s', M.step s a = some s' → J s → I s → (I s' ↔ G s a))
    (hr : M.run s₀ as = some s) : M.Always I s₀ as ↔ M.EachStep G s₀ as := by
  have hinv : ∀ {bs t}, M.run s₀ bs = some t → J t := fun ht =>
    run_inv (P := fun _ => True) (I := fun _ => J) hJ (fun _ s a s' _ _ => hstepJ s a s')
      (fun _ _ => trivial) ht
  constructor
  · intro h bs a t hbs ht
    obtain ⟨t', ht'⟩ := run_prefix hr hbs
    obtain ⟨u, hu, ha⟩ := run_snoc.mp ht'
    obtain rfl : t = u := Option.some.inj (ht.symm.trans hu)
    have hIt : I t := h bs t ((List.prefix_append bs [a]).trans hbs) ht
    exact (hstep t a t' ha (hinv ht) hIt).mp (h _ t' hbs ht')
  · intro h
    have halways : M.Always (fun s => J s ∧ I s) s₀ as := by
      refine h.always (I := fun s => J s ∧ I s) ⟨hJ, hI⟩ ?_
      rintro s a s' ha hG ⟨hJs, hIs⟩
      exact ⟨hstepJ s a s' ha hJs, (hstep s a s' ha hJs hIs).mpr hG⟩
    exact fun bs t hbs ht => (halways bs t hbs ht).2

/-- What a step keeps, or starts, has held since. -/
theorem Since.snoc {keep start : σ → Prop} {s₀ s s' : σ} {as : List α} {a : α}
    (hr : M.run s₀ as = some s) (ha : M.step s a = some s') (hkeep : keep s')
    (h : M.Since keep start s₀ as ∨ start s') : M.Since keep start s₀ (as ++ [a]) := by
  have hr' : M.run s₀ (as ++ [a]) = some s' := run_snoc.mpr ⟨s, hr, ha⟩
  rcases h with ⟨bs, cs, u, rfl, hu, hstart, hall⟩ | hstart
  · refine ⟨bs, cs ++ [a], u, by simp, hu, hstart, ?_⟩
    intro ds v hds hv
    rcases List.prefix_concat_iff.mp hds with rfl | hds
    · rw [List.append_assoc, run_append, hu, Option.bind_some, hv, Option.some.injEq] at hr'
      exact hr' ▸ hkeep
    · exact hall ds v hds hv
  · refine ⟨as ++ [a], [], s', by simp, hr', hstart, ?_⟩
    intro ds v hds hv
    rw [List.prefix_nil.mp hds, run, Option.some.injEq] at hv
    exact hv ▸ hkeep

end Machine

end OgpuSdk
