import OgpuSdk.Protocol.Attempt

/-!
# Runs of `execute`

`Made` is the relation "attempt `k` is made, in this world". An attempt that
is followed by another is a `RetryRun`; a call ends in one of the ways
`ExecuteRun` lists. Facts about whole calls are inductions over `Made` with
`RetryRun` as the step, and one look at the last attempt.
-/

namespace OgpuSdk.TxExecutor

open Prog

variable {self : TxExecutor} {net : Nat → AttemptNet}

/-! ## Attempts that are followed by another -/

theorem retried_eq_some {k : Nat} {broadcast : Bool} {e : Raised} {exc : RawExc}
    (h : self.retried k broadcast e = some exc) :
    e.exc = .raw exc ∧ exc.ordinary = true ∧ k + 1 < self.maxRetries ∧
      (isNonceError exc = true ∨ isUnderpriced exc = true ∨
        isTransientRpc exc = true ∧ broadcast = false) := by
  unfold retried at h
  split at h
  · cases h
  · next exc' he =>
    split at h
    · next hc =>
      cases h
      simp only [Bool.and_eq_true, Bool.or_eq_true, decide_eq_true_eq, Bool.not_eq_true',
        or_assoc] at hc
      exact ⟨he, hc.1.1, hc.1.2, hc.2⟩
    · cases h

/-- Attempt `k`, made in `w`, is followed by another, made in `w'`. -/
inductive RetryRun (self : TxExecutor) (net : AttemptNet) (k : Nat) (w : World) : World → Prop where
  | mk {pending : Nat} {broadcast : Bool} {e : Raised} {w' : World} {exc : RawExc} :
      self.expired w.clock.mono = false → net.pendingCount.answer = .ok pending →
      self.Raises net (self.issue pending w) (self.reserved net pending w) broadcast e w' →
      self.retried k broadcast e = some exc →
      RetryRun self net k w (slept net exc (if resets e then self.dropped w' else w'))

theorem attempt_next {net : AttemptNet} {k : Nat} {w w' : World} {b : Option RawExc}
    (h : (self.attempt net k).exec w = (.ok (.next b), w')) : self.RetryRun net k w w' := by
  have hrun := self.attempt_run net k w
  rw [h] at hrun
  generalize hr : (Except.ok (Turn.next b), w') = r at hrun
  cases hrun with
  | expired => cases hr
  | unreserved => cases hr
  | done => cases hr
  | handled hx hp hraise =>
    rw [Prod.mk.injEq] at hr
    obtain ⟨ho, rfl⟩ := hr
    unfold outcome at ho
    split at ho
    · next exc hre =>
      have := RetryRun.mk hx hp hraise hre
      unfold settled
      rw [hre]
      exact this
    · cases ho

theorem attempt_not_stop {net : AttemptNet} {k : Nat} {w w' : World} {b : Option RawExc} :
    (self.attempt net k).exec w ≠ (.ok (.stop b), w') := by
  intro h
  have hrun := self.attempt_run net k w
  rw [h] at hrun
  generalize hr : (Except.ok (Turn.stop b), w') = r at hrun
  cases hrun with
  | expired => cases hr
  | unreserved => cases hr
  | done => cases hr
  | handled hx hp hraise =>
    rw [Prod.mk.injEq] at hr
    obtain ⟨ho, -⟩ := hr
    unfold outcome at ho
    split at ho <;> cases ho

theorem RetryRun.attemptRun {net : AttemptNet} {k : Nat} {w w' : World}
    (h : self.RetryRun net k w w') :
    ∃ exc, self.AttemptRun net k w (.ok (.next (some exc)), w') := by
  obtain ⟨hx, hp, hraise, hre⟩ := h
  have hrun := AttemptRun.handled (k := k) hx hp hraise
  unfold outcome settled at hrun
  rw [hre] at hrun
  exact ⟨_, hrun⟩

/-! ## Attempts that are made -/

section

variable {connected : Reply Bool} {w w₀ s s' w' : World} {url : Url} {k : Nat}

/-- The call made in `w` makes attempt `k`, in the world `s`. -/
def Made (self : TxExecutor) (net : Nat → AttemptNet) (connected : Reply Bool) (w : World) (k : Nat)
    (s : World) : Prop :=
  ∃ url w₀ b, (getWeb3 connected).exec w = (.ok url, w₀) ∧
    Reached (fun k _ => self.attempt (net k) k) 0 none w₀ k b s

namespace Made

theorem start (hw : (getWeb3 connected).exec w = (.ok url, w₀)) :
    self.Made net connected w 0 w₀ := ⟨url, w₀, none, hw, .start⟩

theorem next (h : self.Made net connected w k s) (hr : self.RetryRun (net k) k s s') :
    self.Made net connected w (k + 1) s' := by
  obtain ⟨url, w₀, b, hw, hreach⟩ := h
  obtain ⟨exc, hrun⟩ := hr.attemptRun
  exact ⟨url, w₀, _, hw, .next hreach (hrun.exec_eq _ _)⟩

theorem unique (h : self.Made net connected w k s) (h' : self.Made net connected w k s') :
    s = s' := by
  obtain ⟨url, w₀, b, hw, hr⟩ := h
  obtain ⟨url', w₀', b', hw', hr'⟩ := h'
  cases hw.symm.trans hw'
  exact (hr.unique hr').2

/-- The induction over the attempts of a call. -/
theorem induct (I : Nat → World → Prop) (h : self.Made net connected w k s)
    (h0 : ∀ url w₀, (getWeb3 connected).exec w = (.ok url, w₀) → I 0 w₀)
    (hstep : ∀ j t t', self.Made net connected w j t → I j t → self.RetryRun (net j) j t t' →
      I (j + 1) t') : I k s := by
  obtain ⟨url, w₀, b, hw, hr⟩ := h
  induction hr with
  | start => exact h0 url w₀ hw
  | next hr ha ih => exact hstep _ _ _ ⟨url, w₀, _, hw, hr⟩ ih (attempt_next ha)

/-- Every attempt before one that is made was made and failed. -/
theorem earlier (h : self.Made net connected w k s) {j : Nat} (hj : j < k) :
    ∃ t t', self.Made net connected w j t ∧ self.RetryRun (net j) j t t' := by
  obtain ⟨url, w₀, b, hw, hr⟩ := h
  obtain ⟨c, t, c', t', h1, h2, -⟩ := hr.earlier (Nat.zero_le j) hj
  exact ⟨t, t', ⟨url, w₀, c, hw, h1⟩, attempt_next h2⟩

theorem lt_maxRetries (h : self.Made net connected w k s) : k < self.maxRetries := by
  refine h.induct (fun j _ => j < self.maxRetries) (fun _ _ _ => self.maxRetries_pos) ?_
  intro j t t' _ _ hretry
  obtain ⟨_, _, _, hre⟩ := hretry
  exact (retried_eq_some hre).2.2.1

/-- A call ends with the attempt that raises. -/
theorem execute_raised (h : self.Made net connected w k s) {e : Raised}
    (ha : self.AttemptRun (net k) k s (.error e, w')) :
    (self.execute net connected).exec w = (.error e, w') := by
  have hk := h.lt_maxRetries
  obtain ⟨url, w₀, b, hw, hr⟩ := h
  unfold execute
  rw [exec_bind_ok hw]
  exact hr.raised afterLoop (by omega) (ha.exec_eq _ _)

/-- A call ends with the attempt that is done. -/
theorem execute_done (h : self.Made net connected w k s) {r : Receipt}
    (ha : self.AttemptRun (net k) k s (.ok (.done r), w')) :
    (self.execute net connected).exec w = (.ok r, w') := by
  have hk := h.lt_maxRetries
  obtain ⟨url, w₀, b, hw, hr⟩ := h
  unfold execute
  rw [exec_bind_ok hw]
  exact hr.done afterLoop (by omega) (ha.exec_eq _ _)

end Made

/-! ## Calls -/

/-- The ways a call of `execute` ends. -/
inductive ExecuteRun (self : TxExecutor) (net : Nat → AttemptNet) (connected : Reply Bool)
    (w : World) : Except Raised Receipt × World → Prop where
  /-- there is no Web3 instance to be had -/
  | unconnected {e : Raised} {w' : World} : (getWeb3 connected).exec w = (.error e, w') →
      ExecuteRun self net connected w (.error e, w')
  | raised {k : Nat} {s w' : World} {e : Raised} : self.Made net connected w k s →
      self.AttemptRun (net k) k s (.error e, w') → ExecuteRun self net connected w (.error e, w')
  | done {k : Nat} {s w' : World} {r : Receipt} : self.Made net connected w k s →
      self.AttemptRun (net k) k s (.ok (.done r), w') → ExecuteRun self net connected w (.ok r, w')

/-- A call ends with an attempt: the code after the loop is never run. -/
theorem execute_run (self : TxExecutor) (net : Nat → AttemptNet) (connected : Reply Bool)
    (w : World) : self.ExecuteRun net connected w ((self.execute net connected).exec w) := by
  unfold execute
  rcases hw : (getWeb3 connected).exec w with ⟨e | url, w₀⟩
  · rw [exec_bind_error hw]
    exact .unconnected hw
  · rw [exec_bind_ok hw]
    have hends := loop_ends (fun k _ => self.attempt (net k) k) afterLoop self.maxRetries 0 none w₀
    generalize (loop (fun k _ => self.attempt (net k) k) afterLoop self.maxRetries 0 none).exec w₀
      = r at hends
    cases hends with
    | done hr _ ha => exact .done ⟨url, w₀, _, hw, hr⟩ (ha ▸ self.attempt_run _ _ _)
    | raised hr _ ha => exact .raised ⟨url, w₀, _, hw, hr⟩ (ha ▸ self.attempt_run _ _ _)
    | stopped _ _ ha => exact absurd ha attempt_not_stop
    | usedUp hr =>
      have hm : self.Made net connected w (0 + self.maxRetries) _ := ⟨url, w₀, _, hw, hr⟩
      have := hm.lt_maxRetries
      omega

/-- A call that cannot get a Web3 instance raises what `_get_web3()` does. -/
theorem execute_unconnected {e : Raised} (hw : (getWeb3 connected).exec w = (.error e, w')) :
    (self.execute net connected).exec w = (.error e, w') := by
  unfold execute
  rw [exec_bind_error hw]

/-! ## What happens in between -/

/-- Nothing an attempt does is undone. -/
theorem AttemptRun.anyPath {net : AttemptNet} {k : Nat}
    {a : Except Raised (Turn Receipt (Option RawExc))} (h : self.AttemptRun net k w (a, w')) :
    World.Path (fun _ _ => True) w w' :=
  h.path (fun _ _ _ => trivial) (fun _ _ _ => trivial) (fun _ _ _ _ _ _ => trivial)

theorem Made.path {j : Nat} {t : World} (h : self.Made net connected w k s)
    (ht : self.Made net connected w j t) (hj : j ≤ k) : World.Path (fun _ _ => True) t s := by
  revert hj
  refine h.induct (fun k s => j ≤ k → World.Path (fun _ _ => True) t s) ?_ ?_
  · intro url w₀ hw hj
    obtain rfl : j = 0 := by omega
    rw [ht.unique (start hw)]
    exact .refl
  · intro k u u' hu ih hretry hj
    obtain ⟨exc, hrun⟩ := hretry.attemptRun
    rcases Nat.lt_or_eq_of_le hj with hlt | rfl
    · exact (ih (by omega)).trans hrun.anyPath
    · rw [ht.unique (hu.next hretry)]
      exact .refl

/-- No attempt is made after one that raises or is done. -/
theorem Made.le_last (h : self.Made net connected w k s) {j : Nat} {t : World}
    (ht : self.Made net connected w j t) {a : Except Raised (Turn Receipt (Option RawExc))}
    (ha : self.AttemptRun (net j) j t (a, w')) (hlast : ∀ exc, a ≠ .ok (.next exc)) : k ≤ j := by
  by_contra hlt
  obtain ⟨u, u', hu, hretry⟩ := h.earlier (Nat.lt_of_not_le hlt)
  obtain ⟨exc, hrun⟩ := hretry.attemptRun
  cases ht.unique hu
  cases (ha.exec_eq _ _).symm.trans (hrun.exec_eq _ _)
  exact hlast _ rfl

theorem Made.path_final (h : self.Made net connected w k s) :
    World.Path (fun _ _ => True) s ((self.execute net connected).exec w).2 := by
  have hrun := self.execute_run net connected w
  generalize (self.execute net connected).exec w = r at hrun
  cases hrun with
  | unconnected hw =>
    obtain ⟨url, w₀, b, hw', -⟩ := h
    rw [hw] at hw'
    cases hw'
  | raised hm ha =>
    exact (hm.path h (h.le_last hm ha (by simp))).trans ha.anyPath
  | done hm ha =>
    exact (hm.path h (h.le_last hm ha (by simp))).trans ha.anyPath

/-- Nor is anything an attempt does undone by the rest of the call. -/
theorem Made.attempt_path_final (h : self.Made net connected w k s)
    {a : Except Raised (Turn Receipt (Option RawExc))} (ha : self.AttemptRun (net k) k s (a, w')) :
    World.Path (fun _ _ => True) w' ((self.execute net connected).exec w).2 := by
  rcases a with e | r | b | b
  · rw [h.execute_raised ha]
    exact .refl
  · rw [h.execute_done ha]
    exact .refl
  · exact (h.next (attempt_next (ha.exec_eq _ _))).path_final
  · exact absurd (ha.exec_eq _ _) attempt_not_stop

/-- The reservation of an attempt that makes one is among the events of the call, after everything
earlier attempts did. -/
theorem Made.reserve_prefix_final (h : self.Made net connected w k s)
    (hx : self.expired s.clock.mono = false) {pending : Nat}
    (hp : (net k).pendingCount.answer = .ok pending) :
    (self.reserved (net k) pending s).events <+:
      ((self.execute net connected).exec w).2.events := by
  have ha := self.attempt_run (net k) k s
  have hpath := ha.path_reserved (P := fun _ _ => True) (fun _ _ _ => trivial) hx hp
    (fun _ _ _ _ _ => trivial)
  exact (hpath.trans (h.attempt_path_final ha)).events_isPrefix

/-- The send of an attempt is among the events of the call. -/
theorem Made.mem_events (h : self.Made net connected w k s) {tx : Tx}
    (hs : self.sending (net k) s = some tx) :
    ⟨sendClock (net k) s.clock, .send tx (net k).send⟩ ∈
      ((self.execute net connected).exec w).2.events := by
  have ha := self.attempt_run (net k) k s
  exact (h.attempt_path_final ha).events_isPrefix.subset (ha.mem_events hs)

/-- What every attempt that is made may do, the call may do. -/
theorem execute_path {P : World → Op → Prop} (hq : ∀ u op, op.quiet = true → P u op)
    (hreserve : ∀ u address nonce, P u (.reserve address nonce))
    (hsend : ∀ k s u tx, self.Made net connected w k s → self.sending (net k) s = some tx →
      u.clock = sendClock (net k) s.clock → P u (.send tx (net k).send)) :
    World.Path P w ((self.execute net connected).exec w).2 := by
  have hattempt : ∀ k s s' a, self.Made net connected w k s →
      self.AttemptRun (net k) k s (a, s') → World.Path P s s' := fun k s s' a hm ha =>
    ha.path hq (fun u nonce _ => hreserve u _ nonce) fun u _ tx hs hu _ => hsend k s u tx hm hs hu
  have hmade : ∀ k s, self.Made net connected w k s → World.Path P w s := by
    intro k s hm
    refine hm.induct (fun _ s => World.Path P w s) ?_ ?_
    · intro url w₀ hw
      have hpath := keeps_getWeb3 (P := P) connected w
      rw [hw] at hpath
      exact hpath
    · intro j t t' ht ih hretry
      obtain ⟨exc, ha⟩ := hretry.attemptRun
      exact ih.trans (hattempt _ _ _ _ ht ha)
  have hrun := self.execute_run net connected w
  generalize (self.execute net connected).exec w = r at hrun
  cases hrun with
  | unconnected hw =>
    have hpath := keeps_getWeb3 (P := P) connected w
    rw [hw] at hpath
    exact hpath
  | raised hm ha => exact (hmade _ _ hm).trans (hattempt _ _ _ _ hm ha)
  | done hm ha => exact (hmade _ _ hm).trans (hattempt _ _ _ _ hm ha)

end

end OgpuSdk.TxExecutor
