import OgpuSdk.Logging.Records

/-!
# An episode of printing

From `set_verbose(True)` to `set_verbose(False)` two processes are compared,
one that prints and one that does not, and that configure their loggers
alike. `Alike` is what they have in common all along: everything but the
printing handler and the level of `ogpu`.
-/

namespace OgpuSdk

/-- The call is one of `set_verbose`. -/
def LogOp.isSetVerbose : LogOp → Bool
  | setVerbose _ _ => true
  | _ => false

/-- The process `s` prints and `t` does not; but for the handler, and for the level of `ogpu`, they
are alike. -/
structure LogState.Alike (id : Nat) (s t : LogState) : Prop where
  loggers : (s.loggers.without (.verbose id)).setLevel ogpu 0 = t.loggers.setLevel ogpu 0
  imported : s.imported = true ∧ t.imported = true
  serviceImported : s.serviceImported = t.serviceImported
  on : s.verboseHandler = some id
  off : t.verboseHandler = none

namespace LogState.Alike

variable {s t s' : LogState} {id : Nat}

/-- A change that minds neither the handler nor the level may be made on both sides. -/
theorem change {f : Loggers LogHandler → Loggers LogHandler} (h : Alike id s t)
    (hwithout : (f s.loggers).without (.verbose id) = f (s.loggers.without (.verbose id)))
    (hlevel : ∀ L : Loggers LogHandler, (f L).setLevel ogpu 0 = (f (L.setLevel ogpu 0)).setLevel ogpu 0) :
    Alike id { s with loggers := f s.loggers } { t with loggers := f t.loggers } where
  loggers := by
    show ((f s.loggers).without _).setLevel ogpu 0 = (f t.loggers).setLevel ogpu 0
    rw [hwithout, hlevel, h.loggers, ← hlevel]
  imported := h.imported
  serviceImported := h.serviceImported
  on := h.on
  off := h.off

/-- Asking for printing again changes the level only. -/
theorem setVerbose (h : Alike id s t) (level : Nat) : Alike id (s.setVerbose true level) t := by
  obtain ⟨L, imported, serviceImported, v, made⟩ := s
  obtain rfl : v = some id := h.on
  refine ⟨?_, h.imported, h.serviceImported, rfl, h.off⟩
  show ((L.setLevel ogpu level).without _).setLevel ogpu 0 = _
  rw [show (L.setLevel ogpu level).without (.verbose id) =
    (L.without (.verbose id)).setLevel ogpu level from Loggers.without_change fun _ => rfl]
  rw [← h.loggers]
  exact Loggers.setLevel_setLevel _ _

theorem importService (h : Alike id s t) (htidy : Tidy s.loggers s.verboseHandler) :
    Alike id s.importService t.importService := by
  have hhandlers : (s.loggers service).handlers = (t.loggers service).handlers := by
    have hservice := congrArg (fun L : Loggers LogHandler => (L service).handlers) h.loggers
    simp only [Loggers.handlers_setLevel] at hservice
    rw [← hservice]
    refine (List.erase_of_not_mem fun hmem => ?_).symm
    exact absurd (htidy.verbose _ _ hmem).1 (by decide)
  have hempty : (s.loggers.setPropagate service false service).handlers.isEmpty =
      (t.loggers.setPropagate service false service).handlers.isEmpty := by
    rw [Loggers.handlers_setPropagate, Loggers.handlers_setPropagate, hhandlers]
  have hpropagate := h.change (f := (·.setPropagate service false))
    (Loggers.without_change fun _ => rfl) fun L => Loggers.setLevel_change fun _ => rfl
  have hattached : ∀ b : Bool, Alike id
      { s with loggers := if b then (s.loggers.setPropagate service false).addHandler service .service
        else s.loggers.setPropagate service false }
      { t with loggers := if b then (t.loggers.setPropagate service false).addHandler service .service
        else t.loggers.setPropagate service false } := by
    rintro (_ | _)
    · exact hpropagate
    · exact hpropagate.change (f := (·.addHandler service .service))
        (Loggers.without_addHandler nofun) fun L => Loggers.setLevel_change fun _ => rfl
  have hlevel := (hattached (s.loggers.setPropagate service false service).handlers.isEmpty).change
    (f := (·.setLevel service 20)) (Loggers.without_change fun _ => rfl)
    fun L => Loggers.setLevel_change fun _ => rfl
  refine ⟨?_, h.imported, rfl, h.on, h.off⟩
  rw [importService_loggers, importService_loggers, ← hempty]
  exact hlevel.loggers

theorem step {op : LogOp} (h : Alike id s t) (htidy : Tidy s.loggers s.verboseHandler)
    (hs : op.step s = some s') (hop : op.isSetVerbose = false) :
    ∃ t', op.step t = some t' ∧ Alike id s' t' := by
  cases op with
  | importSdk env =>
    cases hs
    refine ⟨t, ?_, ?_⟩
    · show some (if t.imported then t else _) = _
      rw [if_pos h.imported.2]
    · rw [if_pos h.imported.1]
      exact h
  | importService =>
    obtain ⟨-, rfl⟩ := LogOp.step_importService hs
    refine ⟨if t.serviceImported then t else t.importService, ?_, ?_⟩
    · show (if t.imported then some (if t.serviceImported then t else t.importService) else none) = _
      rw [if_pos h.imported.2]
    · rw [← h.serviceImported]
      by_cases hi : s.serviceImported = true
      · rw [if_pos hi, if_pos hi]
        exact h
      · rw [if_neg hi, if_neg hi]
        exact h.importService htidy
  | setVerbose enabled level => cases hop
  | addHandler name id' level =>
    cases hs
    exact ⟨_, rfl, h.change (f := (·.addHandler name (.user id' level)))
      (Loggers.without_addHandler nofun) fun L => Loggers.setLevel_change fun _ => rfl⟩
  | removeHandler name id' level =>
    cases hs
    exact ⟨_, rfl, h.change (f := (·.removeHandler name (.user id' level)))
      Loggers.without_removeHandler fun L => Loggers.setLevel_change fun _ => rfl⟩
  | clearHandlers name =>
    cases hs
    exact ⟨_, rfl, h.change (f := (·.clearHandlers name)) (Loggers.without_change fun _ => rfl)
      fun L => Loggers.setLevel_change fun _ => rfl⟩
  | setLevel name level =>
    cases hs
    exact ⟨_, rfl, h.change (f := (·.setLevel name level)) (Loggers.without_change fun _ => rfl)
      fun L => Loggers.setLevel_change fun _ => rfl⟩
  | setPropagate name propagate =>
    cases hs
    exact ⟨_, rfl, h.change (f := (·.setPropagate name propagate))
      (Loggers.without_change fun _ => rfl) fun L => Loggers.setLevel_change fun _ => rfl⟩

/-- The process that does not print does the rest of what the other one does. -/
theorem run {ops : List LogOp} (h : Alike id s t) (htidy : Tidy s.loggers s.verboseHandler)
    (hr : LogOp.machine.run s ops = some s') (hops : ∀ level, .setVerbose false level ∉ ops) :
    Tidy s'.loggers s'.verboseHandler ∧
      ∃ t', LogOp.machine.run t (ops.filter (!·.isSetVerbose)) = some t' ∧ Alike id s' t' := by
  induction ops generalizing s t with
  | nil =>
    cases hr
    exact ⟨htidy, t, rfl, h⟩
  | cons op ops ih =>
    obtain ⟨u, hu, hrest⟩ := Option.bind_eq_some_iff.mp hr
    have htidy' : Tidy u.loggers u.verboseHandler := LogOp.tidy_step htidy hu
    have hops' : ∀ level, .setVerbose false level ∉ ops := fun level hmem =>
      hops level (List.mem_cons_of_mem _ hmem)
    cases hop : op.isSetVerbose with
    | true =>
      rw [List.filter_cons_of_neg (by simp [hop])]
      cases op with
      | setVerbose enabled level =>
        cases enabled with
        | true =>
          obtain ⟨-, rfl⟩ := LogOp.step_setVerbose hu
          exact ih (h.setVerbose level) htidy' hrest hops'
        | false => exact absurd List.mem_cons_self (hops level)
      | _ => cases hop
    | false =>
      rw [List.filter_cons_of_pos (by simp [hop])]
      obtain ⟨t', ht', halike⟩ := h.step htidy hu hop
      obtain ⟨hfinal, t'', ht'', halike'⟩ := ih halike htidy' hrest hops'
      exact ⟨hfinal, t'', Option.bind_eq_some_iff.mpr ⟨t', ht', ht''⟩, halike'⟩

/-- What is left when printing is switched off. -/
theorem switchedOff (h : Alike id s t) (htidy : Tidy s.loggers s.verboseHandler) (level : Nat) :
    (s.setVerbose false level).loggers = t.loggers.setLevel ogpu 0 ∧
      (s.setVerbose false level).verboseHandler = none := by
  rw [← h.loggers]
  obtain ⟨L, imported, serviceImported, v, made⟩ := s
  obtain rfl : v = some id := h.on
  refine ⟨?_, rfl⟩
  show (L.removeHandler ogpu (.verbose id)).setLevel ogpu 0 = _
  rw [Loggers.removeHandler_eq_without fun other hmem => (htidy.verbose other id hmem).1]

end LogState.Alike

theorem LogState.alike_setVerbose {s : LogState} (htidy : Tidy s.loggers s.verboseHandler)
    (hoff : s.verboseHandler = none) (himported : s.imported = true) (level : Nat) :
    Alike s.made (s.setVerbose true level) s := by
  obtain ⟨L, imported, serviceImported, v, made⟩ := s
  obtain rfl : v = none := hoff
  refine ⟨?_, ⟨himported, himported⟩, rfl, rfl, rfl⟩
  have hnot : ∀ name, .verbose made ∉ (L name).handlers := by
    intro name hmem
    cases (htidy.verbose name made hmem).2
  show (((L.addHandler ogpu (.verbose made)).setLevel ogpu level).without _).setLevel ogpu 0 = _
  rw [show ((L.addHandler ogpu (.verbose made)).setLevel ogpu level).without (.verbose made) =
    ((L.addHandler ogpu (.verbose made)).without (.verbose made)).setLevel ogpu level from
      Loggers.without_change fun _ => rfl, Loggers.without_addHandler_self hnot]
  exact Loggers.setLevel_setLevel _ _

/-- However the process configures its loggers while printing is on, and however often printing is
asked for: once it is switched off, the loggers are what they would be without it, except that the
level of `ogpu` is not set. -/
theorem verbose_undone {ops during : List LogOp} {level level' : Nat} {s s' : LogState}
    (hr : LogOp.machine.run .started ops = some s) (hoff : (LogOp.history ops).2 = false)
    (hr' : LogOp.machine.run s
      (.setVerbose true level :: during ++ [.setVerbose false level']) = some s')
    (hduring : ∀ level, .setVerbose false level ∉ during) :
    ∃ t, LogOp.machine.run s (during.filter (!·.isSetVerbose)) = some t ∧
      s'.loggers = t.loggers.setLevel LogState.ogpu 0 ∧ s'.verboseHandler = none := by
  have hinv := LogOp.run_inv hr
  obtain ⟨u, hu, hlast⟩ := Machine.run_snoc.mp hr'
  obtain ⟨s₁, hs₁, hrest⟩ := Option.bind_eq_some_iff.mp hu
  obtain ⟨himported, rfl⟩ := LogOp.step_setVerbose hs₁
  have hnone : s.verboseHandler = none := by
    have hasked := congrArg Prod.snd hinv.asked
    rw [hoff] at hasked
    simpa using hasked
  obtain ⟨htidy, t, ht, halike⟩ := (LogState.alike_setVerbose hinv.tidy hnone himported level).run
    (LogState.tidy_setVerbose hinv.tidy true level) hrest hduring
  obtain ⟨-, rfl⟩ := LogOp.step_setVerbose hlast
  exact ⟨t, ht, halike.switchedOff htidy level'⟩

/-- What the process does while printing is on. -/
def LogOp.trialDuring : List LogOp := [.addHandler ["ipfs", "ogpu"] 1 0, .setVerbose true 20,
  .importService, .setLevel ["ogpu"] 30]

theorem verbose_undone_trial : ∃ s s' t,
    LogOp.machine.run .started [.setLevel ["ogpu"] 40, .importSdk none] = some s ∧
      LogOp.machine.run s (.setVerbose true 10 :: LogOp.trialDuring ++ [.setVerbose false 10]) =
        some s' ∧
      LogOp.machine.run s (LogOp.trialDuring.filter (!·.isSetVerbose)) = some t ∧
        s'.loggers = t.loggers.setLevel LogState.ogpu 0 := by
  obtain ⟨t, ht, hloggers, -⟩ := @verbose_undone [.setLevel ["ogpu"] 40, .importSdk none]
    LogOp.trialDuring 10 10 _ _ rfl (by decide) rfl (by simp [LogOp.trialDuring])
  exact ⟨_, _, t, rfl, rfl, ht, hloggers⟩

end OgpuSdk
