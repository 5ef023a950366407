import OgpuSdk.Protocol.Runs

/-!
# After the broadcast

Once `send_raw_transaction` has returned a hash, a call should take no further
nonce, send nothing more, and end with news of that transaction. The transient
branch of the handlers looks at the `broadcast` flag; the nonce and the
underpriced branch do not, so the exception a later step raises must be of
neither class: `postBroadcast_iff`.
-/

namespace OgpuSdk

open Prog

/-- The send returned a hash. -/
def SendAnswer.acknowledged : SendAnswer → Bool
  | .accepted _ => true
  | .rejected _ | .lost _ => false

namespace Op

def acknowledged : Op → Bool
  | .send _ answer => answer.acknowledged
  | _ => false

/-- A nonce is taken or a transaction sent. -/
def spends : Op → Bool
  | .reserve _ _ | .send _ _ => true
  | _ => false

theorem quiet_not_spends {op : Op} (h : op.quiet = true) : op.spends = false := by
  cases op <;> first | rfl | cases h

end Op

/-- Some send returned a hash. -/
def World.Acknowledged (w : World) : Prop := ∃ e ∈ w.events, e.op.acknowledged = true

theorem World.acknowledged_iff {w : World} :
    w.Acknowledged ↔ ∃ x ∈ w.sends, x.2.acknowledged = true := by
  unfold Acknowledged sends
  constructor
  · rintro ⟨e, he, hack⟩
    cases hop : e.op with
    | send tx answer =>
      rw [hop] at hack
      exact ⟨(tx, answer), List.mem_filterMap.mpr ⟨e, he, by rw [hop]; rfl⟩, hack⟩
    | _ => rw [hop] at hack; cases hack
  · rintro ⟨x, hx, hack⟩
    obtain ⟨e, he, hsend⟩ := List.mem_filterMap.mp hx
    refine ⟨e, he, ?_⟩
    cases hop : e.op with
    | send tx answer =>
      rw [hop] at hsend
      cases hsend
      exact hack
    | _ => rw [hop] at hsend; cases hsend

/-- After a send that returned a hash, no nonce is taken and nothing is sent. -/
def NothingMore (events : List Event) : Prop :=
  events.Pairwise fun e e' => e.op.acknowledged = true → e'.op.spends = false

theorem NothingMore.record {u : World} {op : Op} (h : NothingMore u.events)
    (hop : u.Acknowledged → op.spends = false) : NothingMore (u.record op).events := by
  unfold NothingMore
  rw [World.record_events, List.pairwise_append]
  refine ⟨h, List.pairwise_singleton _ _, ?_⟩
  intro e he e' he' hack
  rw [List.mem_singleton] at he'
  subst he'
  exact hop ⟨e, he, hack⟩

/-- An exception that is not the SDK's own and no contract revert. -/
def Exc.Plain (exc : Exc) : Prop := ∃ r, exc = .raw r ∧ r.ordinary = true

/-- The steps after the send raise plain exceptions only. -/
structure AttemptNet.PlainLater (net : AttemptNet) : Prop where
  wait : ∀ timeout, OgpuSdk.RaisesOnly Exc.Plain (net.wait timeout).answer
  receipt : ∀ timeout receipt, (net.wait timeout).answer = .ok receipt →
    receipt.RaisesOnly Exc.Plain

/-- How a call that has broadcast `hash` may end, given what the later steps came to. -/
inductive EndsAbout (hash : TxHash) : Except Raised Receipt → Except Raised Receipt → Prop where
  | receipt (r : Receipt) : EndsAbout hash (.ok r) (.ok r)
  | receiptTimeout (timeout : ℚ) (exc : Exc) :
      EndsAbout hash (.error ((OGPUError.txReceiptTimeoutError hash.text timeout).from exc))
        (.error ((OGPUError.txReceiptTimeoutError hash.text timeout).from exc))
  | revert :
      EndsAbout hash
        (.error (OGPUError.txRevertError s!"Transaction {hash.text} mined but reverted").raised)
        (.error (OGPUError.txRevertError s!"Transaction {hash.text} mined but reverted").raised)
  | rpc (r : RawExc) :
      EndsAbout hash (.error (Exc.raw r).raised) (.error ((OGPUError.txRpcError r.text).from (.raw r)))

theorem EndsAbout.error_cases {hash : TxHash} {step : Except Raised Receipt} {e : Raised}
    (h : EndsAbout hash step (.error e)) :
    (∃ timeout exc, e = (OGPUError.txReceiptTimeoutError hash.text timeout).from exc) ∨
      (e = (OGPUError.txRevertError s!"Transaction {hash.text} mined but reverted").raised ∧
        step = .error e) ∨
      ∃ r : RawExc, e = (OGPUError.txRpcError r.text).from (.raw r) := by
  generalize hr : Except.error e = result at h
  cases h with
  | receipt => cases hr
  | receiptTimeout timeout exc => cases hr; exact .inl ⟨timeout, exc, rfl⟩
  | revert => cases hr; exact .inr (.inl ⟨rfl, rfl⟩)
  | rpc r => cases hr; exact .inr (.inr ⟨r, rfl⟩)

namespace TxExecutor

variable {self : TxExecutor} {net : Nat → AttemptNet} {connected : Reply Bool} {w : World}

/-- The discipline of a call from `w`. -/
structure PostBroadcast (exe : TxExecutor) (net : Nat → AttemptNet) (connected : Reply Bool)
    (w : World) : Prop where
  nothing_more : NothingMore ((exe.execute net connected).exec w.blank).2.events
  ends_about : ∀ tx hash,
    (tx, .accepted hash) ∈ ((exe.execute net connected).exec w.blank).2.sends →
    ∃ k s, exe.Made net connected w.blank k s ∧ exe.sending (net k) s = some tx ∧
      (net k).send = .accepted hash ∧
      EndsAbout hash (exe.confirmation (net k) hash (sentClock (net k) s.clock))
        ((exe.execute net connected).exec w.blank).1

/-- No attempt of the call that got its hash failed afterwards with an exception of the nonce or
the underpriced class. -/
def LaterFailuresPlain (self : TxExecutor) (net : Nat → AttemptNet) (connected : Reply Bool)
    (w : World) : Prop :=
  ∀ k s tx hash e r, self.Made net connected w.blank k s → self.sending (net k) s = some tx →
    (net k).send = .accepted hash →
    self.confirmation (net k) hash (sentClock (net k) s.clock) = .error e → e.exc = .raw r →
    isNonceError r = false ∧ isUnderpriced r = false

/-! ## Attempts that broadcast -/

section

variable {net : AttemptNet} {k : Nat} {s s' : World} {tx : Tx} {hash : TxHash}

/-- An attempt that got its hash raises what a later step does. -/
theorem Raises.broadcast {nonce : Nat} {b : Bool} {e : Raised}
    (h : self.Raises net nonce s b e s') (hf : self.fault net s.clock = none)
    (ha : net.send = .accepted hash) :
    b = true ∧ self.confirmation net hash (self.sent net nonce s).clock = .error e := by
  cases h with
  | unsent hf' => rw [hf] at hf'; cases hf'
  | refused _ hr => rw [ha] at hr; cases hr
  | unconfirmed _ hr hc =>
    rw [ha] at hr
    cases hr
    exact ⟨rfl, hc⟩

/-- An attempt that got its hash and is followed by another: a nonce or underpriced error. -/
theorem RetryRun.broadcast (h : self.RetryRun net k s s') (hs : self.sending net s = some tx)
    (ha : net.send = .accepted hash) :
    ∃ e r, self.confirmation net hash (sentClock net s.clock) = .error e ∧ e.exc = .raw r ∧
      (isNonceError r = true ∨ isUnderpriced r = true) := by
  obtain ⟨hx, hp, hraise, hre⟩ := h
  obtain ⟨_, _, _, hf, _⟩ := sending_eq_some.mp hs
  obtain ⟨rfl, hc⟩ := hraise.broadcast hf ha
  obtain ⟨he, -, -, hclass⟩ := retried_eq_some hre
  refine ⟨_, _, hc, he, ?_⟩
  rcases hclass with h | h | ⟨-, h⟩
  · exact .inl h
  · exact .inr h
  · cases h

theorem AttemptRun.nothing_more {a : Except Raised (Turn Receipt (Option RawExc))}
    (h : self.AttemptRun net k s (a, s')) (hs : ¬ s.Acknowledged) (hm : NothingMore s.events) :
    NothingMore s'.events := by
  have hpath : World.Path (fun u op => u.Acknowledged → op.spends = false) s s' := by
    refine h.path (fun u op hq _ => Op.quiet_not_spends hq) ?_ ?_
    · intro u nonce hu hack
      unfold World.Acknowledged at hack
      rw [hu] at hack
      exact absurd hack hs
    · intro u pending tx _ _ hu hack
      unfold World.Acknowledged at hack
      rw [hu] at hack
      obtain ⟨e, he, hack⟩ := hack
      simp only [reserved, World.record_events, List.mem_append, List.mem_singleton] at he
      rcases he with he | rfl
      · exact absurd ⟨e, he, hack⟩ hs
      · cases hack
  exact hpath.events_inv (I := NothingMore) (fun u op hP ih => ih.record hP) hm

end

theorem AttemptRun.acknowledged_iff {net : AttemptNet} {k : Nat} {s s' : World}
    {a : Except Raised (Turn Receipt (Option RawExc))} (h : self.AttemptRun net k s (a, s')) :
    s'.Acknowledged ↔ s.Acknowledged ∨
      ∃ tx hash, self.sending net s = some tx ∧ net.send = .accepted hash := by
  simp only [World.acknowledged_iff, h.sends, List.mem_append]
  constructor
  · rintro ⟨x, hx | hx, hack⟩
    · exact .inl ⟨x, hx, hack⟩
    · cases hs : self.sending net s with
      | none => rw [hs] at hx; cases hx
      | some tx =>
        rw [hs] at hx
        simp only [Option.map_some, Option.toList_some, List.mem_singleton] at hx
        subst hx
        cases ha : net.send with
        | accepted hash => exact .inr ⟨tx, hash, rfl, rfl⟩
        | _ => simp [ha, SendAnswer.acknowledged] at hack
  · rintro (⟨x, hx, hack⟩ | ⟨tx, hash, hs, ha⟩)
    · exact ⟨x, .inl hx, hack⟩
    · exact ⟨(tx, net.send), .inr (by simp [hs]), by simp [ha, SendAnswer.acknowledged]⟩

/-! ## When the later failures are plain -/

section

variable {k : Nat} {s s' : World} {tx : Tx} {hash : TxHash}

/-- Only the last attempt gets a hash. -/
theorem Made.not_acknowledged (hlater : self.LaterFailuresPlain net connected w)
    (h : self.Made net connected w.blank k s) : ¬ s.Acknowledged ∧ NothingMore s.events := by
  refine h.induct (fun _ s => ¬ s.Acknowledged ∧ NothingMore s.events) ?_ ?_
  · intro url w₀ hw
    have hnil : w₀.events = [] := by
      have hev := getWeb3_events connected w.blank
      rw [hw] at hev
      exact hev
    refine ⟨?_, ?_⟩
    · rintro ⟨e, he, -⟩
      rw [hnil] at he
      cases he
    · rw [hnil]
      exact List.Pairwise.nil
  · intro j t t' ht ih hretry
    obtain ⟨exc, hrun⟩ := hretry.attemptRun
    refine ⟨?_, hrun.nothing_more ih.1 ih.2⟩
    rw [hrun.acknowledged_iff]
    rintro (hack | ⟨tx, hash, hs, ha⟩)
    · exact ih.1 hack
    · obtain ⟨e, r, hc, he, hclass⟩ := hretry.broadcast hs ha
      obtain ⟨hn, hu⟩ := hlater j t tx hash e r ht hs ha hc he
      rcases hclass with h | h
      · rw [hn] at h; cases h
      · rw [hu] at h; cases h

/-- An attempt that got its hash ends the call about it, unless a later step failed with an
exception of the nonce or the underpriced class. -/
theorem AttemptRun.ends_about {net : AttemptNet} (hplain : net.PlainLater)
    {e : Raised} (h : self.AttemptRun net k s (.error e, s')) (hs : self.sending net s = some tx)
    (ha : net.send = .accepted hash)
    (hlater : ∀ e r, self.confirmation net hash (sentClock net s.clock) = .error e →
      e.exc = .raw r → isNonceError r = false ∧ isUnderpriced r = false) :
    EndsAbout hash (self.confirmation net hash (sentClock net s.clock)) (.error e) := by
  obtain ⟨pending, hp, hx, hf, -⟩ := sending_eq_some.mp hs
  generalize hr : (Except.error e, s') = r at h
  cases h with
  | expired hx' => rw [hx] at hx'; cases hx'
  | unreserved _ hp' => rw [hp] at hp'; cases hp'
  | done => cases hr
  | handled _ _ hraise =>
    obtain ⟨rfl, hc⟩ := hraise.broadcast hf ha
    rw [sent_reserved_clock] at hc
    rw [Prod.mk.injEq] at hr
    obtain ⟨ho, -⟩ := hr
    unfold outcome at ho
    split at ho
    · cases ho
    · cases ho
      rw [hc]
      rcases confirmation_error self net hplain.wait hplain.receipt hc with
        ⟨timeout, text, rfl⟩ | rfl | ⟨exc, ⟨r, rfl, hord⟩, rfl⟩
      · exact .receiptTimeout _ _
      · exact .revert
      · obtain ⟨hn, hu⟩ := hlater _ r hc rfl
        rw [self.failure_ordinary rfl hord, hn, hu]
        exact .rpc r

theorem AttemptRun.done_about {net : AttemptNet} {r : Receipt}
    (h : self.AttemptRun net k s (.ok (.done r), s')) (ha : net.send = .accepted hash) :
    EndsAbout hash (self.confirmation net hash (sentClock net s.clock)) (.ok r) := by
  generalize hr : (Except.ok (Turn.done r), s') = t at h
  cases h with
  | expired => cases hr
  | unreserved => cases hr
  | handled _ _ _ =>
    rw [Prod.mk.injEq] at hr
    obtain ⟨ho, -⟩ := hr
    unfold outcome at ho
    split at ho <;> cases ho
  | done _ _ hret =>
    cases hr
    obtain ⟨-, hsend, hc⟩ := hret
    rw [ha] at hsend
    cases hsend
    rw [sent_reserved_clock] at hc
    rw [hc]
    exact .receipt r

/-- What a call sent last is what its last attempt sent. -/
theorem AttemptRun.sending_of_mem {net : AttemptNet}
    {a : Except Raised (Turn Receipt (Option RawExc))} (h : self.AttemptRun net k s (a, s'))
    (hack : ¬ s.Acknowledged) (hmem : (tx, .accepted hash) ∈ s'.sends) :
    self.sending net s = some tx ∧ net.send = .accepted hash := by
  rw [h.sends, List.mem_append] at hmem
  rcases hmem with hmem | hmem
  · exact absurd (World.acknowledged_iff.mpr ⟨_, hmem, rfl⟩) hack
  · cases hs : self.sending net s with
    | none => rw [hs] at hmem; cases hmem
    | some tx' =>
      rw [hs] at hmem
      simp only [Option.map_some, Option.toList_some, List.mem_singleton, Prod.mk.injEq] at hmem
      exact ⟨congrArg some hmem.1.symm, hmem.2.symm⟩

theorem postBroadcast_of_plain (hplain : ∀ k, (net k).PlainLater)
    (hlater : self.LaterFailuresPlain net connected w) : self.PostBroadcast net connected w := by
  have hrun := self.execute_run net connected w.blank
  generalize hexec : (self.execute net connected).exec w.blank = t at hrun
  cases hrun with
  | unconnected hw =>
    have hev := getWeb3_events connected w.blank
    rw [hw] at hev
    constructor
    · rw [hexec, hev]
      exact List.Pairwise.nil
    · intro tx hash hmem
      rw [hexec] at hmem
      unfold World.sends at hmem
      rw [hev] at hmem
      cases hmem
  | raised hm ha =>
    obtain ⟨hack, hmore⟩ := hm.not_acknowledged hlater
    constructor
    · rw [hexec]
      exact ha.nothing_more hack hmore
    · intro tx hash hmem
      rw [hexec] at hmem ⊢
      obtain ⟨hs, hsend⟩ := ha.sending_of_mem hack hmem
      exact ⟨_, _, hm, hs, hsend,
        ha.ends_about (hplain _) hs hsend fun e r => hlater _ _ _ _ e r hm hs hsend⟩
  | done hm ha =>
    obtain ⟨hack, hmore⟩ := hm.not_acknowledged hlater
    constructor
    · rw [hexec]
      exact ha.nothing_more hack hmore
    · intro tx hash hmem
      rw [hexec] at hmem ⊢
      obtain ⟨hs, hsend⟩ := ha.sending_of_mem hack hmem
      exact ⟨_, _, hm, hs, hsend, ha.done_about hsend⟩

end

/-! ## When one is not -/

section

variable {j k : Nat} {s t s' : World} {tx : Tx} {hash : TxHash}

theorem Made.acknowledged (h : self.Made net connected w k s) (ht : self.Made net connected w j t)
    (hs : self.sending (net j) t = some tx) (ha : (net j).send = .accepted hash) (hj : j < k) :
    s.Acknowledged := by
  obtain ⟨u, u', hu, hretry⟩ := h.earlier hj
  cases ht.unique hu
  obtain ⟨exc, hrun⟩ := hretry.attemptRun
  obtain ⟨e, he, hack⟩ := hrun.acknowledged_iff.mpr (.inr ⟨tx, hash, hs, ha⟩)
  exact ⟨e, (h.path (hu.next hretry) hj).events_isPrefix.subset he, hack⟩

/-- No attempt that reserves follows one that got its hash. -/
theorem PostBroadcast.no_reserve (hpost : self.PostBroadcast net connected w)
    (h : self.Made net connected w.blank k s) (hack : s.Acknowledged)
    (hx : self.expired s.clock.mono = false) {pending : Nat}
    (hp : (net k).pendingCount.answer = .ok pending) : False := by
  have hmore := hpost.nothing_more.sublist (h.reserve_prefix_final hx hp).sublist
  simp only [reserved, World.record_events, List.pairwise_append] at hmore
  obtain ⟨e, he, hack⟩ := hack
  have := hmore.2.2 e he _ (List.mem_singleton_self _) hack
  cases this

theorem Made.mem_sends (h : self.Made net connected w k s) (hs : self.sending (net k) s = some tx) :
    (tx, (net k).send) ∈ ((self.execute net connected).exec w).2.sends :=
  List.mem_filterMap.mpr ⟨_, h.mem_events hs, rfl⟩

/-- No attempt follows one that got its hash, and then failed with an exception that is not the
SDK's own: how the next one goes contradicts one of the two clauses. -/
theorem PostBroadcast.no_next (hpost : self.PostBroadcast net connected w) {e : Raised} {r : RawExc}
    (hm : self.Made net connected w.blank k s) (hs : self.sending (net k) s = some tx)
    (ha : (net k).send = .accepted hash)
    (hc : self.confirmation (net k) hash (sentClock (net k) s.clock) = .error e)
    (he : e.exc = .raw r) (hnext : self.Made net connected w.blank (k + 1) t) : False := by
  obtain ⟨pending, hp, hx, -, -⟩ := sending_eq_some.mp hs
  obtain ⟨k', s', hm', hs', ha', hends⟩ := hpost.ends_about tx hash (ha ▸ hm.mem_sends hs)
  have hack := hnext.acknowledged hm hs ha (Nat.lt_succ_self k)
  have hrun := self.attempt_run (net (k + 1)) (k + 1) t
  generalize (self.attempt (net (k + 1)) (k + 1)).exec t = result at hrun
  cases hrun with
  | expired hx' =>
    rw [hnext.execute_raised (.expired hx')] at hends
    rcases hends.error_cases with ⟨_, _, h⟩ | ⟨h, -⟩ | ⟨_, h⟩ <;> cases h
  | unreserved hx' hp' =>
    have hle := hm'.le_last hnext (.unreserved hx' hp') (by simp)
    rw [hnext.execute_raised (.unreserved hx' hp')] at hends
    rcases hends.error_cases with ⟨_, _, h⟩ | ⟨h, hc'⟩ | ⟨_, h⟩
    · cases h
    · -- A read that raises what a revert raises does not make it news of this transaction.
      rcases Nat.lt_trichotomy k' k with hlt | rfl | hlt
      · exact hpost.no_reserve hm (hm.acknowledged hm' hs' ha' hlt) hx hp
      · cases hm.unique hm'
        cases hc.symm.trans hc'
        rw [h] at he
        cases he
      · obtain rfl : k' = k + 1 := by omega
        cases hnext.unique hm'
        rw [sending_eq_none (.inr ⟨_, hp'⟩)] at hs'
        cases hs'
    · cases h
  | handled hx' hp' _ => exact hpost.no_reserve hnext hack hx' hp'
  | done hx' hp' _ => exact hpost.no_reserve hnext hack hx' hp'

/-- `NonceError` and `GasError` are no news of a transaction. -/
theorem EndsAbout.failure_class {step : Except Raised Receipt} {nonce : Nat} {e : Raised}
    {r : RawExc} (he : e.exc = .raw r) (hord : r.ordinary = true)
    (h : EndsAbout hash step (.error (self.failure nonce e))) :
    isNonceError r = false ∧ isUnderpriced r = false := by
  rw [self.failure_ordinary he hord] at h
  cases hn : isNonceError r with
  | true =>
    rw [hn] at h
    rcases h.error_cases with ⟨_, _, h⟩ | ⟨h, -⟩ | ⟨_, h⟩ <;> cases h
  | false =>
    cases hu : isUnderpriced r with
    | true =>
      rw [hn, hu] at h
      rcases h.error_cases with ⟨_, _, h⟩ | ⟨h, -⟩ | ⟨_, h⟩ <;> cases h
    | false => exact ⟨rfl, rfl⟩

theorem plain_of_postBroadcast (hplain : ∀ k, (net k).PlainLater)
    (hpost : self.PostBroadcast net connected w) : self.LaterFailuresPlain net connected w := by
  intro k s tx hash e r hm hs ha hc he
  obtain ⟨pending, hp, hx, hf, -⟩ := sending_eq_some.mp hs
  have hraise : self.Raises (net k) (self.issue pending s) (self.reserved (net k) pending s) true e
      _ := .unconfirmed hf (SendAnswer.result_eq_ok.mpr ha) (by rw [sent_reserved_clock]; exact hc)
  cases hre : self.retried k true e with
  | some exc => exact (hpost.no_next hm hs ha hc he (hm.next (.mk hx hp hraise hre))).elim
  | none =>
    -- The attempt is the last, and the call ends with what its handlers raise.
    have hrun := AttemptRun.handled (k := k) hx hp hraise
    unfold outcome at hrun
    rw [hre] at hrun
    obtain ⟨_, _, -, -, -, hends⟩ := hpost.ends_about tx hash (ha ▸ hm.mem_sends hs)
    rw [hm.execute_raised hrun] at hends
    have hord : r.ordinary = true := by
      rcases confirmation_error self (net k) (hplain k).wait (hplain k).receipt hc with
        ⟨_, _, rfl⟩ | rfl | ⟨_, ⟨r', rfl, hr'⟩, rfl⟩
      · cases he
      · cases he
      · cases he
        exact hr'
    exact EndsAbout.failure_class he hord hends

/-- The discipline holds exactly when no attempt that got its hash fails afterwards with an
exception of the nonce or the underpriced class. -/
theorem postBroadcast_iff (hplain : ∀ k, (net k).PlainLater) :
    self.PostBroadcast net connected w ↔ self.LaterFailuresPlain net connected w :=
  ⟨plain_of_postBroadcast hplain, postBroadcast_of_plain hplain⟩

theorem prompt_confirmation (self : TxExecutor) (pending : Nat) (hash : TxHash) (c : Clock) :
    ∃ r, self.confirmation (.prompt pending) hash c = .ok r := ⟨_, rfl⟩

theorem postBroadcast_prompt :
    trial.PostBroadcast (fun _ => .prompt 0) ⟨⟨0, 0⟩, .ok true⟩ (World.imported ⟨0, 0⟩) := by
  refine (postBroadcast_iff fun _ => ?_).mpr ?_
  · have h := AttemptNet.prompt_raisesOnly Exc.Plain 0
    exact ⟨h.wait, h.receipt⟩
  · intro k s tx hash e r _ _ _ hc
    obtain ⟨receipt, hok⟩ := prompt_confirmation trial 0 hash (sentClock (.prompt 0) s.clock)
    rw [hok] at hc
    cases hc

/-- The receipt of the first transaction is asked of a node that still calls it known. -/
def echo : Nat → AttemptNet
  | 0 => { AttemptNet.prompt 0 with
      wait := fun _ => ⟨⟨0, 0⟩, .error (.raw ⟨.exception "ValueError", "already known"⟩)⟩ }
  | _ => .prompt 1

theorem not_postBroadcast_echo :
    ¬ trial.PostBroadcast echo ⟨⟨0, 0⟩, .ok true⟩ (World.imported ⟨0, 0⟩) := by
  intro h
  have hmore := h.nothing_more
  revert hmore
  unfold NothingMore
  decide +kernel

end

end TxExecutor

end OgpuSdk
