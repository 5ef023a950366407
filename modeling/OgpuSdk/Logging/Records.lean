import OgpuSdk.Logging.SetVerbose

/-!
# What becomes of a record

Three facts hold in every state: the handler that prints is on `ogpu` alone
and is the one that is remembered (`Tidy`); unless the process has cleared
that logger, what the SDK put there is still there (`Attached`); and unless it
has switched it back on, `ogpu.service` does not propagate (`Alone`). Together
they say how often a record is printed.
-/

namespace OgpuSdk

/-- The printing handler is on `ogpu` only, and the one that is remembered. -/
structure Tidy (L : Loggers LogHandler) (verboseHandler : Option Nat) : Prop where
  distinct : L.Distinct
  verbose : ∀ name id, .verbose id ∈ (L name).handlers → name = LogState.ogpu ∧
    verboseHandler = some id

namespace Tidy

variable {L L' : Loggers LogHandler} {v : Option Nat}

theorem fresh : Tidy .fresh none where
  distinct name := by cases name <;> exact List.nodup_nil
  verbose := by
    intro name id h
    cases name <;> cases h

/-- Handlers that are not verbose may come and go. -/
theorem of_handlers (h : Tidy L v) (hdistinct : L'.Distinct) (hhandlers : ∀ name id,
    .verbose id ∈ (L' name).handlers → .verbose id ∈ (L name).handlers) : Tidy L' v where
  distinct := hdistinct
  verbose name id hmem := h.verbose name id (hhandlers name id hmem)

theorem addHandler (h : Tidy L v) (name : LoggerName) {handler : LogHandler}
    (hhandler : handler.isVerbose = false) : Tidy (L.addHandler name handler) v := by
  refine h.of_handlers (h.distinct.addHandler _ _) fun other id hmem => ?_
  rcases Loggers.mem_addHandler.mp hmem with hold | ⟨-, rfl⟩
  · exact hold
  · cases hhandler

theorem removeHandler (h : Tidy L v) (name : LoggerName) (handler : LogHandler) :
    Tidy (L.removeHandler name handler) v :=
  h.of_handlers (h.distinct.removeHandler _ _) fun _ _ => Loggers.mem_of_mem_removeHandler

theorem setLevel (h : Tidy L v) (name : LoggerName) (level : Nat) :
    Tidy (L.setLevel name level) v := by
  refine h.of_handlers (h.distinct.change _ fun _ hnodup => hnodup) fun other id hmem => ?_
  rwa [Loggers.handlers_setLevel] at hmem

theorem setPropagate (h : Tidy L v) (name : LoggerName) (propagate : Bool) :
    Tidy (L.setPropagate name propagate) v := by
  refine h.of_handlers (h.distinct.change _ fun _ hnodup => hnodup) fun other id hmem => ?_
  rwa [Loggers.handlers_setPropagate] at hmem

theorem clearHandlers (h : Tidy L v) (name : LoggerName) : Tidy (L.clearHandlers name) v := by
  refine h.of_handlers (h.distinct.change _ fun _ _ => List.nodup_nil) fun other id hmem => ?_
  rw [Loggers.handlers_clearHandlers] at hmem
  split at hmem
  · cases hmem
  · exact hmem

theorem ite {p : Prop} [Decidable p] (h : Tidy L v) (h' : Tidy L' v) :
    Tidy (if p then L else L') v := by
  split
  · exact h
  · exact h'

/-- Where no handler is remembered, one may be attached. -/
theorem attach (h : Tidy L none) (id : Nat) :
    Tidy (L.addHandler LogState.ogpu (.verbose id)) (some id) := by
  refine ⟨h.distinct.addHandler _ _, fun name id' hmem => ?_⟩
  rcases Loggers.mem_addHandler.mp hmem with hold | ⟨hname, hid⟩
  · cases (h.verbose name id' hold).2
  · cases hid
    exact ⟨hname, rfl⟩

/-- Once the remembered handler is taken away, there is none. -/
theorem detach {id : Nat} (h : Tidy L (some id)) :
    Tidy (L.removeHandler LogState.ogpu (.verbose id)) none := by
  refine ⟨h.distinct.removeHandler _ _, fun name id' hmem => ?_⟩
  obtain ⟨rfl, hid⟩ := h.verbose name id' (Loggers.mem_of_mem_removeHandler hmem)
  rw [Option.some.injEq] at hid
  subst hid
  exact absurd hmem h.distinct.not_mem_removeHandler

end Tidy

namespace LogState

variable {s s' : LogState}

theorem tidy_setVerbose (h : Tidy s.loggers s.verboseHandler) (enabled : Bool) (level : Nat) :
    Tidy (s.setVerbose enabled level).loggers (s.setVerbose enabled level).verboseHandler := by
  obtain ⟨L, imported, serviceImported, v, made⟩ := s
  cases enabled with
  | true =>
    cases v with
    | none => exact (h.attach made).setLevel ogpu level
    | some id => exact h.setLevel ogpu level
  | false =>
    cases v with
    | none => exact h
    | some id => exact h.detach.setLevel ogpu 0

theorem tidy_importSdk (h : Tidy s.loggers s.verboseHandler) (env : Option String) :
    Tidy (s.importSdk env).loggers (s.importSdk env).verboseHandler := by
  have hnull : Tidy (s.loggers.addHandler ogpu .null) s.verboseHandler := h.addHandler ogpu rfl
  unfold importSdk
  dsimp only
  split
  · exact tidy_setVerbose hnull true 10
  · exact hnull

theorem tidy_importService (h : Tidy s.loggers s.verboseHandler) :
    Tidy s.importService.loggers s.importService.verboseHandler := by
  have hpropagate := h.setPropagate service false
  exact (Tidy.ite (hpropagate.addHandler service rfl) hpropagate).setLevel service 20

end LogState

namespace LogOp

variable {s s' : LogState}

theorem tidy_step {op : LogOp} (h : Tidy s.loggers s.verboseHandler)
    (hs : op.step s = some s') : Tidy s'.loggers s'.verboseHandler := by
  cases op with
  | importSdk env =>
    cases hs
    by_cases hi : s.imported = true
    · rw [if_pos hi]
      exact h
    · rw [if_neg hi]
      exact LogState.tidy_importSdk h env
  | importService =>
    obtain ⟨-, rfl⟩ := step_importService hs
    by_cases hi : s.serviceImported = true
    · rw [if_pos hi]
      exact h
    · rw [if_neg hi]
      exact LogState.tidy_importService h
  | setVerbose enabled level =>
    obtain ⟨-, rfl⟩ := step_setVerbose hs
    exact LogState.tidy_setVerbose h enabled level
  | addHandler name id level =>
    cases hs
    exact h.addHandler name rfl
  | removeHandler name id level =>
    cases hs
    exact h.removeHandler name _
  | clearHandlers name =>
    cases hs
    exact h.clearHandlers name
  | setLevel name level =>
    cases hs
    exact h.setLevel name level
  | setPropagate name propagate =>
    cases hs
    exact h.setPropagate name propagate

/-- Whether the SDK is imported, and whether it is to print: what was asked for last counts, and at
the first import the environment does. -/
def asked : Bool × Bool → LogOp → Bool × Bool
  | (imported, printing), importSdk env =>
    (true, if imported then printing else LogState.wantsVerbose env)
  | (imported, _), setVerbose enabled _ => (imported, enabled)
  | before, _ => before

def history (ops : List LogOp) : Bool × Bool := ops.foldl asked (false, false)

theorem history_snoc (ops : List LogOp) (op : LogOp) :
    history (ops ++ [op]) = asked (history ops) op := List.foldl_append

end LogOp

/-- A handler of the SDK. -/
def LogHandler.isOwn : LogHandler → Bool
  | .user _ _ => false
  | _ => true

namespace LogState

/-- The handlers that the SDK has put on `ogpu` are there. -/
structure Attached (s : LogState) : Prop where
  printing : ∀ id, s.verboseHandler = some id → .verbose id ∈ (s.loggers ogpu).handlers
  silent : s.imported = true → .null ∈ (s.loggers ogpu).handlers

variable {s s' : LogState}

/-- It is enough that no handler of the SDK is lost. -/
theorem Attached.of_own (h : s.Attached) (hverbose : s'.verboseHandler = s.verboseHandler)
    (himported : s'.imported = s.imported)
    (hown : ∀ handler, handler.isOwn = true → handler ∈ (s.loggers ogpu).handlers →
      handler ∈ (s'.loggers ogpu).handlers) : s'.Attached where
  printing id hid := hown _ rfl (h.printing id (hverbose ▸ hid))
  silent hi := hown _ rfl (h.silent (himported ▸ hi))

theorem Attached.setVerbose (h : s.Attached) (enabled : Bool) (level : Nat) :
    (s.setVerbose enabled level).Attached := by
  obtain ⟨L, imported, serviceImported, v, made⟩ := s
  cases enabled with
  | true =>
    cases v with
    | none =>
      refine ⟨fun id hid => ?_, fun hi => ?_⟩
      · cases hid
        show _ ∈ (Loggers.setLevel _ ogpu level ogpu).handlers
        rw [Loggers.handlers_setLevel, Loggers.mem_addHandler]
        exact .inr ⟨rfl, rfl⟩
      · show _ ∈ (Loggers.setLevel _ ogpu level ogpu).handlers
        rw [Loggers.handlers_setLevel, Loggers.mem_addHandler]
        exact .inl (h.silent hi)
    | some id =>
      refine h.of_own rfl rfl fun handler _ hmem => ?_
      show _ ∈ (Loggers.setLevel _ ogpu level ogpu).handlers
      rwa [Loggers.handlers_setLevel]
  | false =>
    cases v with
    | none => exact h
    | some id =>
      refine ⟨nofun, fun hi => ?_⟩
      show _ ∈ (Loggers.setLevel _ ogpu 0 ogpu).handlers
      rw [Loggers.handlers_setLevel]
      refine (Loggers.mem_removeHandler_of_ne ?_).mpr (h.silent hi)
      exact nofun

theorem Attached.importSdk (h : s.Attached) (env : Option String) :
    (s.importSdk env).Attached := by
  have hnull : ({ s with
      loggers := s.loggers.addHandler ogpu .null
      imported := true } : LogState).Attached := by
    refine ⟨fun id hid => ?_, fun _ => ?_⟩
    · exact Loggers.mem_addHandler.mpr (.inl (h.printing id hid))
    · exact Loggers.mem_addHandler.mpr (.inr ⟨rfl, rfl⟩)
  unfold LogState.importSdk
  dsimp only
  split
  · exact hnull.setVerbose true 10
  · exact hnull

theorem Attached.importService (h : s.Attached) : s.importService.Attached := by
  refine h.of_own rfl rfl fun handler _ hmem => ?_
  rw [importService_loggers, Loggers.handlers_setLevel]
  by_cases hempty : (s.loggers.setPropagate service false service).handlers.isEmpty = true
  · rw [if_pos hempty, Loggers.mem_addHandler, Loggers.handlers_setPropagate]
    exact .inl hmem
  · rw [if_neg hempty, Loggers.handlers_setPropagate]
    exact hmem

end LogState

theorem LogOp.attached_step {s s' : LogState} {op : LogOp} (hop : op ≠ .clearHandlers LogState.ogpu)
    (hs : op.step s = some s') (h : s.Attached) : s'.Attached := by
  cases op with
  | importSdk env =>
    cases hs
    by_cases hi : s.imported = true
    · rw [if_pos hi]
      exact h
    · rw [if_neg hi]
      exact h.importSdk env
  | importService =>
    obtain ⟨-, rfl⟩ := step_importService hs
    by_cases hi : s.serviceImported = true
    · rw [if_pos hi]
      exact h
    · rw [if_neg hi]
      exact h.importService
  | setVerbose enabled level =>
    obtain ⟨-, rfl⟩ := step_setVerbose hs
    exact h.setVerbose enabled level
  | addHandler name id level =>
    cases hs
    exact h.of_own rfl rfl fun handler _ hmem => Loggers.mem_addHandler.mpr (.inl hmem)
  | removeHandler name id level =>
    cases hs
    refine h.of_own rfl rfl fun handler hown hmem => ?_
    refine (Loggers.mem_removeHandler_of_ne ?_).mpr hmem
    rintro rfl
    cases hown
  | clearHandlers name =>
    cases hs
    refine h.of_own rfl rfl fun handler _ hmem => ?_
    show handler ∈ (Loggers.clearHandlers _ name LogState.ogpu).handlers
    rw [Loggers.handlers_clearHandlers, if_neg]
    · exact hmem
    · rintro rfl
      exact hop rfl
  | setLevel name level =>
    cases hs
    refine h.of_own rfl rfl fun handler _ hmem => ?_
    show handler ∈ (Loggers.setLevel _ name level LogState.ogpu).handlers
    rwa [Loggers.handlers_setLevel]
  | setPropagate name propagate =>
    cases hs
    refine h.of_own rfl rfl fun handler _ hmem => ?_
    show handler ∈ (Loggers.setPropagate _ name propagate LogState.ogpu).handlers
    rwa [Loggers.handlers_setPropagate]

/-- Once `ogpu.service` is imported, its records go no further. -/
def LogState.Alone (s : LogState) : Prop :=
  s.serviceImported = true → (s.loggers LogState.service).propagate = false

namespace LogState

variable {s s' : LogState}

theorem Alone.of_propagate (h : s.Alone) (hservice : s'.serviceImported = s.serviceImported)
    (hpropagate : (s'.loggers service).propagate = (s.loggers service).propagate) : s'.Alone := by
  intro hs
  rw [hpropagate]
  exact h (hservice ▸ hs)

theorem Alone.setVerbose (h : s.Alone) (enabled : Bool) (level : Nat) :
    (s.setVerbose enabled level).Alone := by
  obtain ⟨L, imported, serviceImported, v, made⟩ := s
  cases enabled with
  | true =>
    cases v with
    | none =>
      exact h.of_propagate rfl ((Loggers.propagate_setLevel _).trans Loggers.propagate_addHandler)
    | some id => exact h.of_propagate rfl (Loggers.propagate_setLevel _)
  | false =>
    cases v with
    | none => exact h
    | some id =>
      exact h.of_propagate rfl
        ((Loggers.propagate_setLevel _).trans Loggers.propagate_removeHandler)

theorem Alone.importSdk (h : s.Alone) (env : Option String) : (s.importSdk env).Alone := by
  have hnull : ({ s with
      loggers := s.loggers.addHandler ogpu .null
      imported := true } : LogState).Alone := h.of_propagate rfl Loggers.propagate_addHandler
  unfold LogState.importSdk
  dsimp only
  split
  · exact hnull.setVerbose true 10
  · exact hnull

theorem alone_importService (s : LogState) : s.importService.Alone := by
  intro _
  rw [importService_loggers, Loggers.propagate_setLevel]
  by_cases hempty : (s.loggers.setPropagate service false service).handlers.isEmpty = true
  · rw [if_pos hempty, Loggers.propagate_addHandler, Loggers.propagate_setPropagate, if_pos rfl]
  · rw [if_neg hempty, Loggers.propagate_setPropagate, if_pos rfl]

end LogState

theorem LogOp.alone_step {s s' : LogState} {op : LogOp}
    (hop : ∀ propagate, op ≠ .setPropagate LogState.service propagate)
    (hs : op.step s = some s') (h : s.Alone) : s'.Alone := by
  cases op with
  | importSdk env =>
    cases hs
    by_cases hi : s.imported = true
    · rw [if_pos hi]
      exact h
    · rw [if_neg hi]
      exact h.importSdk env
  | importService =>
    obtain ⟨-, rfl⟩ := step_importService hs
    by_cases hi : s.serviceImported = true
    · rw [if_pos hi]
      exact h
    · rw [if_neg hi]
      exact s.alone_importService
  | setVerbose enabled level =>
    obtain ⟨-, rfl⟩ := step_setVerbose hs
    exact h.setVerbose enabled level
  | addHandler name id level =>
    cases hs
    exact h.of_propagate rfl Loggers.propagate_addHandler
  | removeHandler name id level =>
    cases hs
    exact h.of_propagate rfl Loggers.propagate_removeHandler
  | clearHandlers name =>
    cases hs
    exact h.of_propagate rfl Loggers.propagate_clearHandlers
  | setLevel name level =>
    cases hs
    exact h.of_propagate rfl (Loggers.propagate_setLevel _)
  | setPropagate name propagate =>
    cases hs
    refine h.of_propagate rfl ((Loggers.propagate_setPropagate _).trans (if_neg ?_))
    rintro rfl
    exact hop propagate rfl

/-- Nothing printed before the first import. -/
theorem LogOp.asked_step {s s' : LogState} {op : LogOp} (hs : op.step s = some s')
    (hfirst : s.imported = false → s.verboseHandler = none) :
    (s'.imported, s'.verboseHandler.isSome) = op.asked (s.imported, s.verboseHandler.isSome) := by
  have hset : ∀ (s : LogState) enabled level,
      ((s.setVerbose enabled level).imported, (s.setVerbose enabled level).verboseHandler.isSome) =
        (s.imported, enabled) := by
    rintro ⟨L, imported, serviceImported, v, made⟩ enabled level
    cases enabled <;> cases v <;> rfl
  cases op with
  | importSdk env =>
    cases hs
    cases hi : s.imported with
    | true => simp [asked, hi]
    | false =>
      unfold LogState.importSdk
      cases hwants : LogState.wantsVerbose env with
      | true =>
        refine (hset _ true 10).trans ?_
        simp [asked, hwants]
      | false => simp [asked, hwants, hfirst hi]
  | importService =>
    obtain ⟨-, rfl⟩ := step_importService hs
    by_cases hi : s.serviceImported = true
    · rw [if_pos hi]
      rfl
    · rw [if_neg hi]
      rfl
  | setVerbose enabled level =>
    obtain ⟨-, rfl⟩ := step_setVerbose hs
    exact hset s enabled level
  | _ =>
    cases hs
    rfl

/-! ## Runs -/

/-- What holds after these calls. -/
structure LogState.Inv (ops : List LogOp) (s : LogState) : Prop where
  tidy : Tidy s.loggers s.verboseHandler
  asked : (s.imported, s.verboseHandler.isSome) = LogOp.history ops
  first : s.imported = false → s.verboseHandler = none
  attached : .clearHandlers ogpu ∉ ops → s.Attached
  alone : (∀ propagate, .setPropagate service propagate ∉ ops) → s.Alone

theorem LogState.Inv.step {ops : List LogOp} {s s' : LogState} {op : LogOp} (h : s.Inv ops)
    (hs : op.step s = some s') : s'.Inv (ops ++ [op]) where
  tidy := LogOp.tidy_step h.tidy hs
  asked := by rw [LogOp.history_snoc, ← h.asked, LogOp.asked_step hs h.first]
  first := by
    intro hi
    have hasked := LogOp.asked_step hs h.first
    rw [hi, Prod.mk.injEq] at hasked
    cases op with
    | importSdk env => cases hasked.1
    | importService =>
      rw [← Option.isNone_iff_eq_none, ← Option.not_isSome, hasked.2, h.first hasked.1.symm]
      rfl
    | setVerbose enabled level =>
      obtain ⟨himported, -⟩ := LogOp.step_setVerbose hs
      rw [himported] at hasked
      cases hasked.1
    | _ =>
      cases hs
      exact h.first hi
  attached := by
    intro hops
    rw [List.mem_append, List.mem_singleton, not_or] at hops
    exact LogOp.attached_step (Ne.symm hops.2) hs (h.attached hops.1)
  alone := by
    intro hops
    have hsplit := fun propagate => not_or.mp fun hmem =>
      hops propagate (List.mem_append.mpr (hmem.imp id List.mem_singleton.mpr))
    exact LogOp.alone_step (fun propagate => Ne.symm (hsplit propagate).2) hs
      (h.alone fun propagate => (hsplit propagate).1)

theorem LogOp.run_inv {ops : List LogOp} {s : LogState}
    (hr : machine.run .started ops = some s) : s.Inv ops := by
  refine Machine.run_inv (P := fun _ => True) (I := fun ops s => s.Inv ops) ?_
    (fun _ _ _ _ _ _ hs h => h.step hs) (fun _ _ => trivial) hr
  exact ⟨.fresh, rfl, fun _ => rfl, fun _ => ⟨nofun, nofun⟩, fun _ => nofun⟩

/-! ## What a record comes to -/

/-- How many handlers print a record. -/
def LogState.printed (s : LogState) (name : LoggerName) (level : Nat) : Nat :=
  (s.loggers.emitters LogHandler.level name level).countP (·.isVerbose)

namespace Tidy

variable {L : Loggers LogHandler} {v : Option Nat} {name : LoggerName}

/-- The printing handlers that are called are all the one that is remembered. -/
theorem countP_called (h : Tidy L v) (name : LoggerName) :
    (L.called name).countP (·.isVerbose) = (v.map fun id => (L.called name).count (.verbose id)).getD 0 := by
  have hmem : ∀ id, .verbose id ∈ L.called name → v = some id := by
    intro id hid
    obtain ⟨home, -, hhome⟩ := Loggers.mem_called.mp hid
    exact (h.verbose home id hhome).2
  cases v with
  | none =>
    refine List.countP_eq_zero.mpr fun handler hhandler hverbose => ?_
    cases handler with
    | verbose id => cases hmem id hhandler
    | _ => cases hverbose
  | some id =>
    refine List.countP_congr fun handler hhandler => ?_
    cases handler with
    | verbose id' =>
      cases hmem id' hhandler
      simp [LogHandler.isVerbose]
    | _ => simp [LogHandler.isVerbose]

theorem count_called_le (h : Tidy L v) (id : Nat) : (L.called name).count (.verbose id) ≤ 1 :=
  h.distinct.count_called (fun other hmem => (h.verbose other id hmem).1) name

end Tidy

namespace LogState

variable {s : LogState} {ops : List LogOp} {name : LoggerName} {level : Nat}

theorem printed_eq (s : LogState) (name : LoggerName) (level : Nat) :
    s.printed name level = if s.loggers.isEnabledFor name level then
      (s.loggers.called name).countP (·.isVerbose) else 0 := by
  unfold printed Loggers.emitters
  split
  · rw [List.countP_filter]
    refine List.countP_congr fun handler _ => ?_
    cases handler <;> simp [LogHandler.isVerbose, LogHandler.level]
  · rfl

theorem printed_le_one (h : Tidy s.loggers s.verboseHandler) : s.printed name level ≤ 1 := by
  rw [printed_eq, h.countP_called]
  split
  · cases s.verboseHandler with
    | none => exact Nat.zero_le _
    | some id => exact h.count_called_le id
  · exact Nat.zero_le _

theorem printed_eq_one_iff (h : Tidy s.loggers s.verboseHandler) (hattached : s.Attached) :
    s.printed name level = 1 ↔ s.verboseHandler.isSome = true ∧ s.loggers.Reaches ogpu name ∧
      s.loggers.isEnabledFor name level = true := by
  rw [printed_eq, h.countP_called]
  have hcalled : ∀ id, s.verboseHandler = some id →
      ((s.loggers.called name).count (.verbose id) = 1 ↔ s.loggers.Reaches ogpu name) := by
    intro id hid
    have hle : (s.loggers.called name).count (.verbose id) ≤ 1 := h.count_called_le id
    constructor
    · intro hone
      obtain ⟨home, hreaches, hmem⟩ := Loggers.mem_called.mp
        (List.count_pos_iff.mp (by omega : 0 < (s.loggers.called name).count (.verbose id)))
      rwa [(h.verbose home id hmem).1] at hreaches
    · intro hreaches
      have hpos : 0 < (s.loggers.called name).count (.verbose id) :=
        List.count_pos_iff.mpr (Loggers.mem_called.mpr ⟨ogpu, hreaches, hattached.printing id hid⟩)
      omega
  cases hv : s.verboseHandler with
  | none => simp
  | some id =>
    rw [hv] at hcalled
    by_cases henabled : s.loggers.isEnabledFor name level = true
    · simp [henabled, hcalled id rfl]
    · simp [henabled]

end LogState

/-- What the loggers make of a record after these calls. -/
structure LogState.Logs (ops : List LogOp) (s : LogState) : Prop where
  /-- no record is printed twice -/
  once : ∀ name level, s.printed name level ≤ 1
  /-- and it is printed if printing was asked for last and it gets as far as `ogpu` -/
  prints : .clearHandlers ogpu ∉ ops → ∀ name level, s.printed name level = 1 ↔
    (LogOp.history ops).2 = true ∧ s.loggers.Reaches ogpu name ∧
      s.loggers.isEnabledFor name level = true
  /-- a record that is not printed stays silent -/
  silent : .clearHandlers ogpu ∉ ops → (LogOp.history ops).1 = true → ∀ name level,
    s.loggers.Reaches ogpu name → s.loggers.unhandled name level = false
  /-- what `ogpu.service` logs is left to the handlers of that logger -/
  alone : (∀ propagate, .setPropagate service propagate ∉ ops) → s.serviceImported = true →
    ∀ level, s.printed service level = 0 ∧
      ∀ h ∈ s.loggers.emitters LogHandler.level service level, h ∈ (s.loggers service).handlers

theorem LogState.Inv.logs {ops : List LogOp} {s : LogState} (h : s.Inv ops) : s.Logs ops where
  once name level := printed_le_one h.tidy
  prints := by
    intro hops name level
    rw [printed_eq_one_iff h.tidy (h.attached hops), ← h.asked]
  silent := by
    intro hops himported name level hreaches
    rw [← h.asked] at himported
    have hnull := (h.attached hops).silent himported
    have hcalled : LogHandler.null ∈ s.loggers.called name :=
      Loggers.mem_called.mpr ⟨ogpu, hreaches, hnull⟩
    have hempty : (s.loggers.called name).isEmpty = false := by
      cases hlist : s.loggers.called name with
      | nil =>
        rw [hlist] at hcalled
        cases hcalled
      | cons handler handlers => rfl
    simp [Loggers.unhandled, hempty]
  alone := by
    intro hops hservice level
    have hown : s.loggers.called service = (s.loggers service).handlers :=
      Loggers.called_of_not_propagate (h.alone hops hservice)
    have hmem : ∀ handler ∈ s.loggers.emitters LogHandler.level service level,
        handler ∈ (s.loggers service).handlers := by
      intro handler hhandler
      unfold Loggers.emitters at hhandler
      split at hhandler
      · rw [hown] at hhandler
        exact List.mem_of_mem_filter hhandler
      · cases hhandler
    refine ⟨List.countP_eq_zero.mpr fun handler hhandler hverbose => ?_, hmem⟩
    cases handler with
    | verbose id =>
      have hname : service = ogpu := (h.tidy.verbose _ _ (hmem _ hhandler)).1
      exact absurd hname (by decide)
    | _ => cases hverbose

/-- The service is imported while printing is on, and printing is asked for again. -/
def LogOp.trial : List LogOp := [.addHandler [] 1 0, .importSdk (some " Yes "), .importService,
  .setVerbose true 20, .setLevel ["ipfs", "ogpu"] 10]

end OgpuSdk
