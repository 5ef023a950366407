import OgpuSdk.Protocol.PostBroadcast

/-!
# One publish per call

A node may take a transaction and lose its reply. The call then hands the
nonce back and, if the text of the exception is one it retries on, sends the
same contract call again. That is harmless as long as the new attempt gets the
same nonce, and what nonce an attempt gets is a matter of the pending counts
read and of which failures drop the cache: `nonceAt`. So a call publishes at
most once exactly when no attempt that lost its reply is followed by one the
node takes under another nonce: `onePublish_iff`.
-/

namespace OgpuSdk

open Prog

/-- The transactions the node took, up to the first send that returned a hash. -/
def takenUpToHash : List (Tx × SendAnswer) → List Tx
  | [] => []
  | (_, .rejected _) :: sends => takenUpToHash sends
  | (tx, .lost _) :: sends => tx :: takenUpToHash sends
  | (tx, .accepted _) :: _ => [tx]

/-- The node takes at most one of the transactions. -/
def OnePublish (sends : List (Tx × SendAnswer)) : Prop :=
  ∀ tx ∈ takenUpToHash sends, ∀ tx' ∈ takenUpToHash sends, tx = tx'

theorem takenUpToHash_append_of_acknowledged {sends : List (Tx × SendAnswer)}
    (h : ∃ x ∈ sends, x.2.acknowledged = true) (more : List (Tx × SendAnswer)) :
    takenUpToHash (sends ++ more) = takenUpToHash sends := by
  induction sends with
  | nil =>
    obtain ⟨x, hx, -⟩ := h
    cases hx
  | cons x sends ih =>
    obtain ⟨tx, answer⟩ := x
    cases answer with
    | accepted hash => rfl
    | rejected exc =>
      simp only [List.exists_mem_cons_iff, SendAnswer.acknowledged, Bool.false_eq_true,
        false_or] at h
      exact ih h
    | lost exc =>
      simp only [List.exists_mem_cons_iff, SendAnswer.acknowledged, Bool.false_eq_true,
        false_or] at h
      exact congrArg (tx :: ·) (ih h)

theorem takenUpToHash_append {sends : List (Tx × SendAnswer)}
    (h : ¬ ∃ x ∈ sends, x.2.acknowledged = true) (more : List (Tx × SendAnswer)) :
    takenUpToHash (sends ++ more) = takenUpToHash sends ++ takenUpToHash more := by
  induction sends with
  | nil => rfl
  | cons x sends ih =>
    obtain ⟨tx, answer⟩ := x
    cases answer with
    | accepted hash => simp [SendAnswer.acknowledged] at h
    | rejected exc =>
      simp only [List.exists_mem_cons_iff, SendAnswer.acknowledged, Bool.false_eq_true,
        false_or] at h
      exact ih h
    | lost exc =>
      simp only [List.exists_mem_cons_iff, SendAnswer.acknowledged, Bool.false_eq_true,
        false_or] at h
      exact congrArg (tx :: ·) (ih h)

theorem takenUpToHash_singleton (tx : Tx) (answer : SendAnswer) :
    takenUpToHash [(tx, answer)] = if answer.taken then [tx] else [] := by
  cases answer <;> rfl

/-! ## The nonce an attempt gets -/

namespace AttemptNet

/-- The pending count read for the reservation. -/
def pending (net : AttemptNet) : Nat :=
  match net.pendingCount.answer with
  | .ok pending => pending
  | .error _ => 0

/-- The exception that keeps the send from returning a hash. -/
def failure (net : AttemptNet) : Option Exc :=
  match net.preSend, net.send.result with
  | some exc, _ => some exc
  | none, .error exc => some exc
  | none, .ok _ => none

/-- The handlers drop the cached nonce because of it. -/
def drops (net : AttemptNet) : Bool := net.failure.any fun exc => TxExecutor.resets exc.raised

end AttemptNet

/-- The nonce attempt `k` gets: the highest pending count read since the cached nonce was last
dropped, or the nonce cached when the call started if that is higher still. -/
def nonceAt (cached : Counter) (net : Nat → AttemptNet) : Nat → Nat
  | 0 => cached.current (net 0).pending
  | k + 1 =>
    if (net k).drops then (net (k + 1)).pending
    else max (nonceAt cached net k) (net (k + 1)).pending

namespace TxExecutor

variable {self : TxExecutor} {net : Nat → AttemptNet} {connected : Reply Bool} {w : World}

/-- What an attempt that got no hash leaves in the cache when another follows. -/
theorem RetryRun.counter {net : AttemptNet} {k : Nat} {s s' : World}
    (h : self.RetryRun net k s s') (hs' : ¬ s'.Acknowledged) :
    s'.nonces self.signer.address =
      if net.drops then none else some (self.issue net.pending s) := by
  have hack := h.attemptRun
  obtain @⟨pending, broadcast, e, w', exc, hx, hp, hraise, hre⟩ := h
  obtain ⟨_, hrun⟩ := hack
  have hpending : net.pending = pending := by simp [AttemptNet.pending, hp]
  -- The exception is the one `failure` finds, and the nonce was handed back.
  have hcase : net.failure.map Exc.raised = some e ∧
      w'.nonces self.signer.address = some (self.issue pending s) := by
    cases hraise with
    | unsent hf =>
      rcases fault_eq_some self net hf with rfl | ⟨exc, hpre, rfl⟩
      · cases (retried_eq_some hre).1
      · refine ⟨by simp [AttemptNet.failure, hpre], ?_⟩
        exact handedBack_reserved (faultAt_nonces _)
    | refused hf hr =>
      refine ⟨by simp [AttemptNet.failure, preSend_of_fault hf, hr], ?_⟩
      exact handedBack_reserved rfl
    | @unconfirmed hash _ hf hr _ =>
      have hsend : net.send = .accepted hash := SendAnswer.result_eq_ok.mp hr
      exact absurd (hrun.acknowledged_iff.mpr (.inr
        ⟨_, _, sending_eq_some.mpr ⟨pending, hp, hx, hf, rfl⟩, hsend⟩)) hs'
  obtain ⟨hfail, hnonce⟩ := hcase
  obtain ⟨exc', hexc', rfl⟩ := Option.map_eq_some_iff.mp hfail
  rw [slept_nonces, hpending]
  unfold AttemptNet.drops
  rw [hexc', Option.any_some]
  cases resets exc'.raised with
  | true => simp [dropped]
  | false => simpa using hnonce

/-- Before any hash came back, the nonce of an attempt is `nonceAt`. -/
theorem Made.issue_eq {k : Nat} {s : World} (h : self.Made net connected w k s)
    (hs : ¬ s.Acknowledged) :
    self.issue (net k).pending s = nonceAt (w.nonces self.signer.address) net k := by
  revert hs
  refine h.induct (fun k s => ¬ s.Acknowledged →
    self.issue (net k).pending s = nonceAt (w.nonces self.signer.address) net k) ?_ ?_
  · intro url w₀ hw _
    have hn := getWeb3_nonces connected w
    rw [hw] at hn
    unfold issue nonceAt
    rw [hn]
  · intro j t t' _ ih hretry ht'
    have ht : ¬ t.Acknowledged := by
      obtain ⟨exc, hrun⟩ := hretry.attemptRun
      exact fun hack => ht' (hrun.acknowledged_iff.mpr (.inl hack))
    unfold issue nonceAt
    rw [hretry.counter ht', ih ht]
    cases (net j).drops with
    | true => simp [Counter.current]
    | false => simp [Counter.current]

/-! ## The transactions the node takes, attempt by attempt -/

/-- Before any hash came back, attempt `k` sends `tx` and the node takes it. -/
def Takes (self : TxExecutor) (net : Nat → AttemptNet) (connected : Reply Bool) (w : World)
    (k : Nat) (tx : Tx) : Prop :=
  ∃ s, self.Made net connected w.blank k s ∧ ¬ s.Acknowledged ∧
    self.sending (net k) s = some tx ∧ (net k).send.taken = true

/-- Before any hash came back, attempt `k` sends `tx`, the node takes it, and the call raises. -/
def LosesReply (self : TxExecutor) (net : Nat → AttemptNet) (connected : Reply Bool) (w : World)
    (k : Nat) (tx : Tx) : Prop :=
  self.Takes net connected w k tx ∧ ∃ exc, (net k).send = .lost exc

/-- An attempt takes the nonce its reservation issues. -/
theorem Takes.tx_eq {k : Nat} {tx : Tx} (h : self.Takes net connected w k tx) :
    tx = self.tx (nonceAt (w.nonces self.signer.address) net k) := by
  obtain ⟨s, hm, hack, hs, -⟩ := h
  obtain ⟨pending, hp, -, -, rfl⟩ := sending_eq_some.mp hs
  have hissue := hm.issue_eq hack
  simp only [AttemptNet.pending, hp] at hissue
  rw [hissue]
  rfl

theorem tx_injective {m n : Nat} (h : self.tx m = self.tx n) : m = n := congrArg Tx.nonce h

/-- The transactions taken after an attempt are those taken before and its own. -/
theorem AttemptRun.mem_taken {net : AttemptNet} {k : Nat} {s s' : World} {tx : Tx}
    {a : Except Raised (Turn Receipt (Option RawExc))} (h : self.AttemptRun net k s (a, s')) :
    tx ∈ takenUpToHash s'.sends ↔ tx ∈ takenUpToHash s.sends ∨
      ¬ s.Acknowledged ∧ self.sending net s = some tx ∧ net.send.taken = true := by
  rw [h.sends]
  by_cases hack : s.Acknowledged
  · rw [takenUpToHash_append_of_acknowledged (World.acknowledged_iff.mp hack)]
    simp [hack]
  · rw [takenUpToHash_append (fun h => hack (World.acknowledged_iff.mpr h)), List.mem_append]
    cases hs : self.sending net s with
    | none => simp [takenUpToHash]
    | some tx' =>
      rw [Option.map_some, Option.toList_some, takenUpToHash_singleton]
      cases net.send.taken <;> simp [hack, eq_comm]

theorem Made.mem_taken {k : Nat} {s : World} {tx : Tx} (h : self.Made net connected w.blank k s) :
    tx ∈ takenUpToHash s.sends ↔ ∃ j < k, self.Takes net connected w j tx := by
  refine h.induct (fun k s => tx ∈ takenUpToHash s.sends ↔
    ∃ j < k, self.Takes net connected w j tx) ?_ ?_
  · intro url w₀ hw
    have hev := getWeb3_events connected w.blank
    rw [hw] at hev
    unfold World.sends
    rw [hev]
    simp [World.blank, takenUpToHash]
  · intro j t t' ht ih hretry
    obtain ⟨exc, hrun⟩ := hretry.attemptRun
    rw [hrun.mem_taken, ih]
    constructor
    · rintro (⟨i, hi, htakes⟩ | ⟨hack, hs, htaken⟩)
      · exact ⟨i, Nat.lt_succ_of_lt hi, htakes⟩
      · exact ⟨j, Nat.lt_succ_self j, t, ht, hack, hs, htaken⟩
    · rintro ⟨i, hi, htakes⟩
      rcases Nat.lt_or_eq_of_le (Nat.le_of_lt_succ hi) with hlt | rfl
      · exact .inl ⟨i, hlt, htakes⟩
      · obtain ⟨u, hu, hack, hs, htaken⟩ := htakes
        cases ht.unique hu
        exact .inr ⟨hack, hs, htaken⟩

/-- The transactions the node took in a call are those its attempts sent. -/
theorem mem_taken_iff {tx : Tx} :
    tx ∈ takenUpToHash ((self.execute net connected).exec w.blank).2.sends ↔
      ∃ k, self.Takes net connected w k tx := by
  have hlast : ∀ {k : Nat} {s w' : World} {a : Except Raised (Turn Receipt (Option RawExc))},
      self.Made net connected w.blank k s → self.AttemptRun (net k) k s (a, w') →
      (∀ exc, a ≠ .ok (.next exc)) →
      (tx ∈ takenUpToHash w'.sends ↔ ∃ k, self.Takes net connected w k tx) := by
    intro k s w' a hm ha hnext
    rw [ha.mem_taken, hm.mem_taken]
    constructor
    · rintro (⟨j, -, htakes⟩ | ⟨hack, hs, htaken⟩)
      · exact ⟨j, htakes⟩
      · exact ⟨k, s, hm, hack, hs, htaken⟩
    · rintro ⟨j, htakes⟩
      obtain ⟨t, ht, hack, hs, htaken⟩ := htakes
      rcases Nat.lt_or_eq_of_le (ht.le_last hm ha hnext) with hlt | rfl
      · exact .inl ⟨j, hlt, t, ht, hack, hs, htaken⟩
      · cases hm.unique ht
        exact .inr ⟨hack, hs, htaken⟩
  have hrun := self.execute_run net connected w.blank
  generalize (self.execute net connected).exec w.blank = r at hrun
  cases hrun with
  | unconnected hw =>
    have hev := getWeb3_events connected w.blank
    rw [hw] at hev
    unfold World.sends
    rw [hev]
    refine iff_of_false (by simp [World.blank, takenUpToHash]) ?_
    rintro ⟨k, s, ⟨url, w₀, b, hw', -⟩, -⟩
    rw [hw] at hw'
    cases hw'
  | raised hm ha => exact hlast hm ha (by simp)
  | done hm ha => exact hlast hm ha (by simp)

/-- A call publishes at most once exactly when no attempt that lost its reply is followed by one
whose transaction the node takes under another nonce. -/
theorem onePublish_iff :
    OnePublish ((self.execute net connected).exec w.blank).2.sends ↔
      ∀ j k tx tx', j < k → self.LosesReply net connected w j tx →
        self.Takes net connected w k tx' →
        nonceAt (w.nonces self.signer.address) net j =
          nonceAt (w.nonces self.signer.address) net k := by
  unfold OnePublish
  simp only [mem_taken_iff]
  constructor
  · rintro h j k tx tx' - ⟨hj, -⟩ hk
    have heq := h tx ⟨j, hj⟩ tx' ⟨k, hk⟩
    rw [hj.tx_eq, hk.tx_eq] at heq
    exact tx_injective heq
  · -- Of two attempts the node took a transaction of, the earlier one lost its reply.
    intro h
    have hlt : ∀ j k tx tx', j < k → self.Takes net connected w j tx →
        self.Takes net connected w k tx' → tx = tx' := by
      intro j k tx tx' hjk hj hk
      have hlost : self.LosesReply net connected w j tx := by
        refine ⟨hj, ?_⟩
        obtain ⟨s, hm, -, hs, htaken⟩ := hj
        obtain ⟨t, ht, hack, -, -⟩ := hk
        cases hsend : (net j).send with
        | rejected exc => rw [hsend] at htaken; cases htaken
        | accepted hash => exact absurd (ht.acknowledged hm hs hsend hjk) hack
        | lost exc => exact ⟨exc, rfl⟩
      rw [hj.tx_eq, hk.tx_eq, h j k tx tx' hjk hlost hk]
    rintro tx ⟨j, hj⟩ tx' ⟨k, hk⟩
    rcases Nat.lt_trichotomy j k with hjk | rfl | hjk
    · exact hlt j k tx tx' hjk hj hk
    · rw [hj.tx_eq, hk.tx_eq]
    · exact (hlt k j tx' tx hjk hk hj).symm

/-- The node takes the first transaction and drops the connection; the second attempt reads the
pending count that the first one moved. -/
def lossy : Nat → AttemptNet
  | 0 => { AttemptNet.prompt 0 with
      send := .lost (.raw ⟨.requestException, "Connection reset by peer"⟩) }
  | _ => .prompt 1

theorem not_onePublish_lossy :
    ¬ OnePublish ((trial.execute lossy ⟨⟨0, 0⟩, .ok true⟩).exec
      (World.imported ⟨0, 0⟩).blank).2.sends := by
  intro h
  have htaken : (takenUpToHash ((trial.execute lossy ⟨⟨0, 0⟩, .ok true⟩).exec
      (World.imported ⟨0, 0⟩).blank).2.sends).map Tx.nonce = [0, 1] := by decide +kernel
  obtain ⟨tx, htx, h0⟩ := List.mem_map.mp (htaken ▸ List.mem_cons_self : 0 ∈ _)
  obtain ⟨tx', htx', h1⟩ := List.mem_map.mp
    (htaken ▸ List.mem_cons_of_mem 0 List.mem_cons_self : 1 ∈ _)
  rw [h tx htx tx' htx', h1] at h0
  cases h0

end TxExecutor

end OgpuSdk
