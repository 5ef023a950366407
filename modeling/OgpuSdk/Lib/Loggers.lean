import Mathlib.Data.List.Nodup
import Mathlib.Logic.Function.Basic

/-!
# Hierarchical loggers

Loggers are named by the segments of a dotted name, the last one first: the
parent of a logger has the tail of its name, and the root logger has none. A
record goes to the handlers of its logger and on to the parent's as long as
records are propagated (`called`), if the first level that is set on the way
to the root lets it (`effectiveLevel`). A logger nobody has asked for has no
handlers, no level, and propagates.
-/

namespace OgpuSdk

abbrev LoggerName := List String

structure Logger (H : Type) where
  /-- 0 if it is not set -/
  level : Nat
  handlers : List H
  propagate : Bool

abbrev Loggers (H : Type) := LoggerName → Logger H

namespace Loggers

variable {H : Type}

/-- The root logger lets warnings through, and there are no handlers. -/
def fresh : Loggers H
  | [] => ⟨30, [], true⟩
  | _ :: _ => ⟨0, [], true⟩

section

variable (L : Loggers H)

def effectiveLevel : LoggerName → Nat
  | [] => (L []).level
  | s :: parent => if (L (s :: parent)).level = 0 then effectiveLevel parent
    else (L (s :: parent)).level

/-- The handlers that are looked at for a record of this logger, in order. -/
def called : LoggerName → List H
  | [] => (L []).handlers
  | s :: parent => (L (s :: parent)).handlers ++
      if (L (s :: parent)).propagate then called parent else []

def isEnabledFor (name : LoggerName) (level : Nat) : Bool := L.effectiveLevel name ≤ level

/-- The handlers that a record is emitted by. -/
def emitters (handlerLevel : H → Nat) (name : LoggerName) (level : Nat) : List H :=
  if L.isEnabledFor name level then (L.called name).filter (handlerLevel · ≤ level) else []

/-- The record has no handler at all: it falls to the one of last resort. -/
def unhandled (name : LoggerName) (level : Nat) : Bool :=
  L.isEnabledFor name level && (L.called name).isEmpty

/-- Reconfigure one logger. -/
def change (name : LoggerName) (g : Logger H → Logger H) : Loggers H :=
  Function.update L name (g (L name))

def setLevel (name : LoggerName) (level : Nat) : Loggers H :=
  L.change name fun logger => { logger with level := level }

def setPropagate (name : LoggerName) (propagate : Bool) : Loggers H :=
  L.change name fun logger => { logger with propagate := propagate }

def clearHandlers (name : LoggerName) : Loggers H :=
  L.change name fun logger => { logger with handlers := [] }

variable [DecidableEq H]

def addHandler (name : LoggerName) (h : H) : Loggers H :=
  L.change name fun logger => { logger with
    handlers := if h ∈ logger.handlers then logger.handlers else logger.handlers ++ [h] }

def removeHandler (name : LoggerName) (h : H) : Loggers H :=
  L.change name fun logger => { logger with handlers := logger.handlers.erase h }

/-- The loggers without a handler, wherever it is. -/
def without (h : H) : Loggers H :=
  fun name => { L name with handlers := (L name).handlers.erase h }

end

variable {L : Loggers H} {name other : LoggerName} {h h' : H} {g : Logger H → Logger H}

/-! ## One change -/

theorem change_apply : L.change name g other = if other = name then g (L name) else L other := by
  unfold change
  exact Function.update_apply _ _ _ _

/-- What a change leaves alone in its logger, it leaves alone. -/
theorem change_field {β : Type} (field : Logger H → β) (hg : ∀ logger, field (g logger) = field logger) :
    field (L.change name g other) = field (L other) := by
  rw [change_apply]
  split
  · next ho => rw [hg, ho]
  · rfl

@[simp] theorem handlers_setLevel (level : Nat) :
    (L.setLevel name level other).handlers = (L other).handlers :=
  change_field (·.handlers) fun _ => rfl

@[simp] theorem handlers_setPropagate (propagate : Bool) :
    (L.setPropagate name propagate other).handlers = (L other).handlers :=
  change_field (·.handlers) fun _ => rfl

theorem handlers_clearHandlers :
    (L.clearHandlers name other).handlers = if other = name then [] else (L other).handlers := by
  unfold clearHandlers
  rw [change_apply]
  split <;> rfl

@[simp] theorem propagate_setLevel (level : Nat) :
    (L.setLevel name level other).propagate = (L other).propagate :=
  change_field (·.propagate) fun _ => rfl

theorem propagate_setPropagate (propagate : Bool) :
    (L.setPropagate name propagate other).propagate =
      if other = name then propagate else (L other).propagate := by
  unfold setPropagate
  rw [change_apply]
  split <;> rfl

@[simp] theorem propagate_clearHandlers :
    (L.clearHandlers name other).propagate = (L other).propagate :=
  change_field (·.propagate) fun _ => rfl

theorem setLevel_setLevel (level level' : Nat) :
    (L.setLevel name level).setLevel name level' = L.setLevel name level' := by
  funext other
  unfold setLevel
  simp only [change_apply]
  split <;> rfl

/-- A change that does not mind the level of its logger does not mind it. -/
theorem setLevel_change {level : Nat}
    (hg : ∀ logger, { g logger with level := level } =
      { g { logger with level := level } with level := level }) :
    (L.change other g).setLevel name level =
      ((L.setLevel name level).change other g).setLevel name level := by
  funext m
  unfold setLevel
  simp only [change_apply]
  by_cases hm : m = name
  · subst hm
    by_cases ho : m = other
    · subst ho
      simpa using hg (L m)
    · simp [ho]
  · by_cases ho : m = other
    · subst ho
      simp [hm]
    · simp [hm, ho]

variable [DecidableEq H]

@[simp] theorem propagate_addHandler :
    (L.addHandler name h other).propagate = (L other).propagate :=
  change_field (·.propagate) fun _ => rfl

@[simp] theorem propagate_removeHandler :
    (L.removeHandler name h other).propagate = (L other).propagate :=
  change_field (·.propagate) fun _ => rfl

theorem mem_addHandler :
    h' ∈ (L.addHandler name h other).handlers ↔
      h' ∈ (L other).handlers ∨ other = name ∧ h' = h := by
  unfold addHandler
  rw [change_apply]
  split
  · next ho =>
    subst ho
    dsimp only
    split
    · next hmem =>
      constructor
      · exact .inl
      · rintro (hold | ⟨-, rfl⟩)
        · exact hold
        · exact hmem
    · simp
  · next ho => simp [ho]

theorem mem_of_mem_removeHandler (hmem : h' ∈ (L.removeHandler name h other).handlers) :
    h' ∈ (L other).handlers := by
  unfold removeHandler at hmem
  rw [change_apply] at hmem
  split at hmem
  · next ho =>
    subst ho
    exact List.mem_of_mem_erase hmem
  · exact hmem

theorem mem_removeHandler_of_ne (hne : h' ≠ h) :
    h' ∈ (L.removeHandler name h other).handlers ↔ h' ∈ (L other).handlers := by
  unfold removeHandler
  rw [change_apply]
  split
  · next ho =>
    subst ho
    exact List.mem_erase_of_ne hne
  · exact Iff.rfl

/-! ## No handler twice -/

/-- No logger has a handler twice. -/
def Distinct (L : Loggers H) : Prop := ∀ name, (L name).handlers.Nodup

namespace Distinct

omit [DecidableEq H] in
theorem change (hL : L.Distinct) (name : LoggerName)
    (hg : ∀ logger : Logger H, logger.handlers.Nodup → (g logger).handlers.Nodup) :
    (L.change name g).Distinct := by
  intro other
  rw [change_apply]
  split
  · exact hg _ (hL name)
  · exact hL other

theorem addHandler (hL : L.Distinct) (name : LoggerName) (h : H) :
    (L.addHandler name h).Distinct := by
  refine hL.change name fun logger hnodup => ?_
  dsimp only
  split
  · exact hnodup
  · next hmem =>
    rw [List.nodup_append]
    refine ⟨hnodup, List.nodup_singleton _, ?_⟩
    rintro a ha b hb rfl
    rw [List.mem_singleton] at hb
    exact hmem (hb ▸ ha)

theorem removeHandler (hL : L.Distinct) (name : LoggerName) (h : H) :
    (L.removeHandler name h).Distinct := hL.change name fun _ hnodup => hnodup.erase h

/-- Of what is removed nothing is left. -/
theorem not_mem_removeHandler (hL : L.Distinct) :
    h ∉ (L.removeHandler name h name).handlers := by
  unfold Loggers.removeHandler
  rw [change_apply, if_pos rfl]
  exact (hL name).not_mem_erase

end Distinct

/-! ## Who is called -/

/-- Records of the logger are propagated up to `home`. -/
inductive Reaches (L : Loggers H) (home : LoggerName) : LoggerName → Prop where
  | here : Reaches L home home
  | up {s : String} {parent : LoggerName} : (L (s :: parent)).propagate = true →
      Reaches L home parent → Reaches L home (s :: parent)

omit [DecidableEq H] in
theorem Reaches.length_le {home : LoggerName} (h : L.Reaches home name) :
    home.length ≤ name.length := by
  induction h with
  | here => exact Nat.le_refl _
  | up _ _ ih => exact Nat.le_succ_of_le ih

omit [DecidableEq H] in
theorem mem_called : h ∈ L.called name ↔ ∃ home, L.Reaches home name ∧ h ∈ (L home).handlers := by
  induction name with
  | nil =>
    constructor
    · intro hmem
      exact ⟨[], .here, hmem⟩
    · rintro ⟨home, hreaches, hmem⟩
      cases hreaches with
      | here => exact hmem
  | cons s parent ih =>
    unfold called
    rw [List.mem_append]
    constructor
    · rintro (hmem | hmem)
      · exact ⟨_, .here, hmem⟩
      · split at hmem
        · next hpropagate =>
          obtain ⟨home, hreaches, hhome⟩ := ih.mp hmem
          exact ⟨home, .up hpropagate hreaches, hhome⟩
        · cases hmem
    · rintro ⟨home, hreaches, hmem⟩
      cases hreaches with
      | here => exact .inl hmem
      | up hpropagate hreaches =>
        rw [if_pos hpropagate]
        exact .inr (ih.mpr ⟨home, hreaches, hmem⟩)

omit [DecidableEq H] in
theorem called_of_not_propagate {s : String} {parent : LoggerName}
    (hpropagate : (L (s :: parent)).propagate = false) :
    L.called (s :: parent) = (L (s :: parent)).handlers := by
  unfold called
  rw [hpropagate]
  exact List.append_nil _

/-- A handler of one logger only is called at most once. -/
theorem Distinct.count_called (hL : L.Distinct) {home : LoggerName}
    (hhome : ∀ other, h ∈ (L other).handlers → other = home) (name : LoggerName) :
    (L.called name).count h ≤ 1 := by
  have hone : ∀ other, ((L other).handlers).count h ≤ 1 := fun other =>
    List.nodup_iff_count_le_one.mp (hL other) h
  induction name with
  | nil => exact hone []
  | cons s parent ih =>
    unfold called
    rw [List.count_append]
    by_cases hmem : h ∈ (L (s :: parent)).handlers
    · -- Above its own logger there is no other one with the handler.
      have habove : h ∉ (if (L (s :: parent)).propagate then L.called parent else []) := by
        split
        · intro hcalled
          obtain ⟨other, hreaches, hother⟩ := mem_called.mp hcalled
          have hle := hreaches.length_le
          rw [hhome other hother, ← hhome _ hmem, List.length_cons] at hle
          omega
        · exact List.not_mem_nil
      rw [List.count_eq_zero.mpr habove]
      exact hone _
    · rw [List.count_eq_zero.mpr hmem, Nat.zero_add]
      split
      · exact ih
      · simp

/-! ## Doing without a handler -/

/-- A change that does not mind the handler in its logger does not mind it. -/
theorem without_change
    (hg : ∀ logger : Logger H, { g logger with handlers := (g logger).handlers.erase h } =
      g { logger with handlers := logger.handlers.erase h }) :
    (L.change name g).without h = (L.without h).change name g := by
  funext other
  unfold without
  rw [change_apply, change_apply]
  split
  · exact hg _
  · rfl

theorem without_addHandler (hne : h' ≠ h) :
    (L.addHandler name h').without h = (L.without h).addHandler name h' := by
  refine without_change fun logger => ?_
  have hmem : h' ∈ logger.handlers.erase h ↔ h' ∈ logger.handlers := List.mem_erase_of_ne hne
  have hconcat : (logger.handlers ++ [h']).erase h = logger.handlers.erase h ++ [h'] := by
    rw [List.erase_append]
    split
    · rfl
    · next hnot =>
      rw [List.erase_of_not_mem hnot, List.erase_of_not_mem (by simpa using Ne.symm hne)]
  by_cases hin : h' ∈ logger.handlers
  · simp [hin, hmem]
  · simp [hin, hmem, hconcat]

theorem without_removeHandler :
    (L.removeHandler name h').without h = (L.without h).removeHandler name h' :=
  without_change fun logger => by simp [List.erase_comm]

/-- One that has just been added can be done without. -/
theorem without_addHandler_self (hmem : ∀ name, h ∉ (L name).handlers) :
    (L.addHandler name h).without h = L := by
  funext other
  unfold addHandler without
  rw [change_apply]
  split
  · next ho =>
    subst ho
    simp [hmem other, List.erase_append_right _ (hmem other)]
  · rw [List.erase_of_not_mem (hmem other)]

/-- A handler that one logger only has is removed from it. -/
theorem removeHandler_eq_without (hhome : ∀ other, h ∈ (L other).handlers → other = name) :
    L.removeHandler name h = L.without h := by
  funext other
  unfold removeHandler without
  rw [change_apply]
  split
  · next ho => rw [ho]
  · next ho => rw [List.erase_of_not_mem fun hmem => ho (hhome other hmem)]

end Loggers

end OgpuSdk
