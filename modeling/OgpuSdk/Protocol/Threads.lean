import OgpuSdk.Chain.Exclusive
import OgpuSdk.Protocol.Attempt

/-!
# An attempt as the steps of a thread

What the executor does to the nonce cache in one attempt is what one thread of
`Reservations` does: it reserves, sends or hands the nonce back, and perhaps
resets the cache. So calls of any number of threads are runs of that machine,
and what holds in its reachable states holds of the cache they share.
-/

namespace OgpuSdk.TxExecutor

open Prog Reservations

variable {self : TxExecutor} {net : AttemptNet} {T : Type} [DecidableEq T] {t : T} {w w' : World}

/-- The thread `t` may make an attempt in `s`: the cache is the one of `w`, and the pending count
the node answers with is one it may report. -/
structure Attempting (exe : TxExecutor) (net : AttemptNet) (w : World) (t : T)
    (s : Reservations T) : Prop where
  counter : s.counter = w.nonces exe.signer.address
  lock : s.lock = none
  holds : s.holds t = none
  counted : ∀ pending, net.pendingCount.answer = .ok pending →
    s.reported ≤ pending ∧ ∀ n < pending, n ∈ s.accepted

/-- Steps of attempts lead from `s` to a state with the cache of `w`, in which `t` holds `held`. -/
def LeadsTo (self : TxExecutor) (s : Reservations T) (t : T) (held : Option ℕ) (w : World) : Prop :=
  ∃ s', (machine T).Leads (·.ofAttempt = true) s s' ∧
    s'.counter = w.nonces self.signer.address ∧ s'.lock = none ∧ s'.holds t = held

variable {s : Reservations T} {nonce : ℕ}

theorem LeadsTo.of_nonces {held : Option ℕ} (h : self.LeadsTo s t held w)
    (hw : w'.nonces self.signer.address = w.nonces self.signer.address) :
    self.LeadsTo s t held w' := by
  obtain ⟨s', hs', hcounter, hlock, hheld⟩ := h
  exact ⟨s', hs', hcounter.trans hw.symm, hlock, hheld⟩

theorem Attempting.leadsTo (h : Attempting self net w t s) : self.LeadsTo s t none w :=
  ⟨s, .refl s, h.counter, h.lock, h.holds⟩

theorem Attempting.reserve (h : Attempting self net w t s) {pending : ℕ}
    (hp : net.pendingCount.answer = .ok pending) :
    self.LeadsTo s t (some (self.issue pending w)) (self.reserved net pending w) := by
  obtain ⟨hreported, hcounted⟩ := h.counted pending hp
  obtain ⟨u, hu⟩ : ∃ u : Reservations T,
      u = { s with lock := some (t, .reserveNonce, pending), reported := pending } := ⟨_, rfl⟩
  have hread : (machine T).step s (.read t .reserveNonce pending) = some u :=
    hu ▸ if_pos ⟨h.lock, hreported, hcounted, fun _ => h.holds⟩
  have hfinish : (machine T).step u (.finish t) = some (u.complete t .reserveNonce pending) :=
    step_finish (hu ▸ rfl)
  refine ⟨_, ((Machine.Leads.refl s).tail (P := (·.ofAttempt = true)) rfl hread).tail rfl hfinish,
    ?_, rfl, ?_⟩
  · simp [hu, complete, reserved, issue, h.counter]
  · simp [hu, complete, issue, h.counter]

theorem LeadsTo.send (h : self.LeadsTo s t (some nonce) w) : self.LeadsTo s t none w := by
  obtain ⟨u, hu, hcounter, hlock, hheld⟩ := h
  have hstep : (machine T).step u (.send t) = some { u with
      accepted := insert nonce u.accepted
      holds := Function.update u.holds t none } := by
    simp [machine, Reservations.step, hheld]
  exact ⟨_, hu.tail rfl hstep, hcounter, hlock, Function.update_self _ _ _⟩

theorem LeadsTo.lost (h : self.LeadsTo s t (some nonce) w) : self.LeadsTo s t (some nonce) w := by
  obtain ⟨u, hu, hcounter, hlock, hheld⟩ := h
  have hstep : (machine T).step u (.lost t) = some { u with
      accepted := insert nonce u.accepted } := by
    simp [machine, Reservations.step, hheld]
  exact ⟨_, hu.tail rfl hstep, hcounter, hlock, hheld⟩

theorem LeadsTo.release (h : self.LeadsTo s t (some nonce) w) :
    self.LeadsTo s t none (self.handedBack nonce w) := by
  obtain ⟨u, hu, hcounter, hlock, hheld⟩ := h
  have hstep : (machine T).step u (.release t) = some { u with
      counter := u.counter.release nonce
      holds := Function.update u.holds t none } := by
    simp [machine, Reservations.step, hlock, hheld]
  refine ⟨_, hu.tail rfl hstep, ?_, hlock, Function.update_self _ _ _⟩
  simp [handedBack, hcounter]

theorem LeadsTo.reset (h : self.LeadsTo s t none w) : self.LeadsTo s t none (self.dropped w) := by
  obtain ⟨u, hu, hcounter, hlock, hheld⟩ := h
  have hstep : (machine T).step u (.reset t) = some { u with counter := none } := if_pos hlock
  refine ⟨_, hu.tail rfl hstep, ?_, hlock, hheld⟩
  simp [dropped]

theorem LeadsTo.settled (h : self.LeadsTo s t none w) (k : Nat) (broadcast : Bool) (e : Raised) :
    self.LeadsTo s t none (self.settled net k broadcast e w) := by
  have hdrop : self.LeadsTo s t none (if resets e then self.dropped w else w) := by
    cases resets e with
    | true => exact h.reset
    | false => exact h
  unfold TxExecutor.settled
  cases self.retried k broadcast e with
  | none => exact hdrop
  | some exc => exact hdrop.of_nonces (by rw [slept_nonces])

/-- An attempt is the steps of one thread, and leaves it with nothing held. -/
theorem AttemptRun.leadsTo {k : Nat} {a : Except Raised (Turn Receipt (Option RawExc))}
    (h : self.AttemptRun net k w (a, w')) (hs : Attempting self net w t s) :
    self.LeadsTo s t none w' := by
  generalize hr : (a, w') = r at h
  cases h with
  | expired =>
    cases hr
    exact hs.leadsTo
  | unreserved =>
    cases hr
    exact hs.leadsTo.of_nonces rfl
  | @handled pending broadcast e u hx hp hraise =>
    cases hr
    have hreserved := hs.reserve hp
    refine LeadsTo.settled ?_ k broadcast e
    cases hraise with
    | unsent => exact (hreserved.of_nonces (by rw [faultAt_nonces])).release
    | refused _ hresult =>
      -- The node may have taken the transaction all the same.
      cases hsend : net.send with
      | accepted hash => rw [hsend] at hresult; cases hresult
      | rejected exc => exact (hreserved.of_nonces rfl).release
      | lost exc => exact (hreserved.lost.of_nonces rfl).release
    | unconfirmed => exact hreserved.send.of_nonces rfl
  | done hx hp hret =>
    cases hr
    obtain ⟨-, -, -⟩ := hret
    exact (hs.reserve hp).send.of_nonces rfl

end OgpuSdk.TxExecutor
