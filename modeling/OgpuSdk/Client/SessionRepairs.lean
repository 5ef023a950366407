import OgpuSdk.Chain.Repair
import OgpuSdk.Client.SessionNonces

/-!
# Sessions with repairs

Any call of a session may be followed by a `fix_nonce`. For the nonces of the
session a repair is only a reset: it sends its transfers at nonces below the
pending count it has read, and forgets the cached nonce. So a session with
repairs keeps the order of one without. And it needs no order to start with:
whatever was sent and cached before, after a `fix_nonce` that returned, the
account sends no transaction behind a gap. As before, both are about sessions
that transact, and repair, on one network.
-/

namespace OgpuSdk

open Prog Recovery

variable {host : Host} {files : String → String → Option Json} {others : ℚ → Address → Set ℕ}
  {keys : Keys} {address : Option Address} {privateKey : Option String} {net : FixNet}

/-! ## What a repair does to the world -/

theorem uninvolved_sleep (took : ℚ → Elapsed) (seconds : ℚ) : (SDK.sleep took seconds).Uninvolved :=
  .bind (uninvolved_record rfl) fun _ => uninvolved_elapse _

section

variable {I : Recovery → Prop}
  (hsdk : ∀ {α : Type} {x : SDK α}, x.Uninvolved → Preserves I (sdk x))
include hsdk

theorem preserves_afterCancellations (address : Address) (successCount : Nat) :
    Preserves I (afterCancellations address net successCount) := by
  have hreset : Preserves I (do
      sdk (SDK.record (.reset address))
      sdk (SDK.nonces (NonceManager.resetNonce address))
      sdk (SDK.await (net.final address))) :=
    .bind (hsdk (uninvolved_record rfl)) fun _ =>
      .bind (hsdk (uninvolved_resetNonce address)) fun _ => hsdk (uninvolved_await _)
  unfold afterCancellations
  by_cases hpos : 0 < successCount
  · rw [if_pos hpos]
    exact .bind (hsdk (uninvolved_sleep _ _)) fun _ => hreset
  · rw [if_neg hpos]
    exact hreset

/-- What the cancellations in the range preserve is preserved by the loop and what is after it. -/
theorem preserves_cancels (htrying : ∀ nonce, Preserves I (trying nonce)) (address : Address)
    (key : String) {mined pending : Nat}
    (hcancel : ∀ nonce, mined ≤ nonce → nonce < pending → Preserves I
      (cancelTransactionWithNonce keys address nonce key (net.cancels nonce))) :
    Preserves I (loop (fun nonce successCount => cancelTurn keys address key net nonce successCount)
      (afterCancellations address net) (pending - mined) mined 0) := by
  refine .loop_range (preserves_afterCancellations hsdk address) _ _ _ fun nonce _ hlo hhi => ?_
  refine .bind (htrying nonce) fun _ =>
    .bind (.attempt (hcancel nonce hlo (by omega))) fun answer => ?_
  cases answer with
  | ok hash => exact .bind (hsdk (uninvolved_sleep _ _)) fun _ => .pure _
  | error raised =>
    dsimp only
    cases raised.exc.isException with
    | true => exact .pure _
    | false => exact .raise _

end

/-- From `w` on nothing was sent, and nonces were only forgotten. -/
def SilentSince (w : World) (s : Recovery) : Prop :=
  World.Path (fun _ op => op.send? = none) w s.world ∧ s.world.Forgets w.nonces

theorem silent_sdk {α : Type} {w : World} {x : SDK α} (h : x.Uninvolved) :
    Preserves (SilentSince w) (sdk x) :=
  fun s hs => ⟨hs.1.trans (h.keeps s.world), h.nonces w.nonces s.world hs.2⟩

theorem silent_accountFromKey {w : World} (key : String) :
    Preserves (SilentSince w) (accountFromKey keys key) := by
  unfold accountFromKey
  cases keys.fromKey key with
  | ok acc => exact .pure _
  | error exc => exact .raise _

theorem silent_cancel {w : World} (address : Address) (nonce : Nat) (key : String)
    (net : CancelNet) :
    Preserves (SilentSince w) (cancelTransactionWithNonce keys address nonce key net) :=
  .bind (silent_accountFromKey key) fun _ => .bind (silent_sdk (uninvolved_await _)) fun _ =>
    .bind (silent_sdk (uninvolved_lift _)) fun _ => .bind (silent_sdk (uninvolved_await _)) fun _ =>
      .bind (silent_sdk (uninvolved_await _)) fun _ => .bind (fun _ hs => hs) fun _ =>
        .bind (silent_sdk (uninvolved_elapse _)) fun _ =>
          .bind (silent_sdk (uninvolved_lift _)) fun _ => silent_sdk (uninvolved_lift _)

/-- However it ends, a repair has sent no transaction of the SDK, and forgotten some nonces at
most. -/
theorem fixNonce_silent (s : Recovery) :
    SilentSince s.world ((fixNonce keys address privateKey net).exec s).2 := by
  have hfix : Preserves (SilentSince s.world) (fixNonce keys address privateKey net) := by
    unfold fixNonce
    cases requirePrivateKey keys privateKey with
    | error raised => exact .raise _
    | ok key =>
      exact .bind (silent_accountFromKey key) fun _ =>
        .bind (silent_sdk (uninvolved_getWeb3 _)) fun _ =>
          .bind (silent_sdk (uninvolved_await _)) fun _ =>
            .bind (silent_sdk (uninvolved_await _)) fun _ =>
              preserves_cancels silent_sdk (fun _ _ hs => hs) _ key fun _ _ _ =>
                silent_cancel _ _ _ _
  exact hfix s ⟨.refl, fun _ => .inl rfl⟩

/-- No turn of the loop returns from the call, or leaves the loop. -/
theorem cancelTurn_next {address : Address} {key : String} {nonce successCount : Nat}
    {s s' : Recovery} {turn : Turn Nat Nat}
    (h : (cancelTurn keys address key net nonce successCount).exec s = (.ok turn, s')) :
    ∃ successCount', turn = .next successCount' := by
  unfold cancelTurn at h
  obtain ⟨_, _, -, h⟩ := exec_bind_eq_ok h
  obtain ⟨answer, _, -, h⟩ := exec_bind_eq_ok h
  cases answer with
  | ok hash =>
    obtain ⟨_, _, -, h⟩ := exec_bind_eq_ok h
    cases h
    exact ⟨_, rfl⟩
  | error raised =>
    dsimp only at h
    split at h
    · cases h
      exact ⟨_, rfl⟩
    · cases h

/-- A repair that returns has forgotten the nonce of the account it was asked to repair. -/
theorem fixNonce_forgets {key : String} {acc : Account} {s s' : Recovery} {n : Nat}
    (hkey : requirePrivateKey keys privateKey = .ok key) (hacc : keys.fromKey key = .ok acc)
    (h : (fixNonce keys address privateKey net).exec s = (.ok n, s')) :
    s'.world.nonces (address.getD acc.address) = none := by
  have haccount : accountFromKey keys key = pure acc := by
    unfold accountFromKey
    rw [hacc]
  unfold fixNonce at h
  rw [hkey] at h
  dsimp only at h
  rw [haccount, pure_bind] at h
  obtain ⟨_, s₁, -, h⟩ := exec_bind_eq_ok h
  obtain ⟨mined, s₂, -, h⟩ := exec_bind_eq_ok h
  obtain ⟨pending, s₃, -, h⟩ := exec_bind_eq_ok h
  have hends := loop_ends (cancelTurn keys (address.getD acc.address) key net)
    (afterCancellations (address.getD acc.address) net) (pending - mined) mined 0 s₃
  rw [h] at hends
  generalize hr : (Except.ok n, s') = r at hends
  cases hends with
  | done _ _ hturn =>
    obtain ⟨_, hnext⟩ := cancelTurn_next hturn
    cases hnext
  | raised => cases hr
  | stopped _ _ hturn =>
    obtain ⟨_, hnext⟩ := cancelTurn_next hturn
    cases hnext
  | @usedUp successCount s₄ _ =>
    obtain ⟨answer, w, hreset, hw⟩ := exec_afterCancellations (address.getD acc.address) net
      successCount s₄
    rw [hreset] at hr
    cases hr
    show w.nonces _ = none
    rw [hw, Function.update_self]

/-! ## What a repair broadcasts -/

section

variable {Q : Transfer × SendAnswer → Prop}

end

/-! ## Sessions -/

/-- A call of a session, or a repair. -/
inductive RepairOp where
  | call (op : SessionOp)
  | fixNonce (address : Option Address) (privateKey : Option String) (net : FixNet)

namespace RepairOp

def run (host : Host) (files : String → String → Option Json) : RepairOp → RecoveryProg Unit
  | .call op => sdk (op.run host files)
  | .fixNonce address privateKey net => do
    let _ ← OgpuSdk.fixNonce host.keys address privateKey net

def after (host : Host) (files : String → String → Option Json) (s : Recovery) (op : RepairOp) :
    Recovery := ((op.run host files).exec s).2

/-- Runs of calls and repairs, from the import state. -/
def machine (host : Host) (files : String → String → Option Json) : Machine Recovery RepairOp where
  init s := ∃ clock, s = ⟨.imported clock, [], []⟩
  step s op := some (op.after host files s)

/-- If the call may transact, it does so on `network`; and so does a repair. -/
def On {N : Type} (serves : Url → N) (network : N) (s : Recovery) : RepairOp → Prop
  | .call op => op.On serves network s.world
  | .fixNonce _ _ _ => s.world.network serves = some network

/-- The counts that a call reads for its transactions when it is made in `s`. -/
def Reads (host : Host) (s : Recovery) : RepairOp → CountRead → Prop
  | .call op, r => op.Reads host s.world r
  | .fixNonce _ _ _, _ => False

theorem after_fixNonce (s : Recovery) :
    (RepairOp.fixNonce address privateKey net).after host files s =
      ((OgpuSdk.fixNonce host.keys address privateKey net).exec s).2 := by
  unfold after run
  rw [exec_bind]
  rcases (OgpuSdk.fixNonce host.keys address privateKey net).exec s with ⟨e | n, s'⟩ <;> rfl

/-- Every call and every repair keeps the accounts. -/
theorem keepsAccounts (hothers : Growing others) (op : RepairOp) (s : Recovery) :
    KeepsAccounts others s.world (op.after host files s).world (op.Reads host s) := by
  cases op with
  | call op => exact op.accounts_run hothers s.world
  | fixNonce address privateKey net =>
    obtain ⟨hsilent, hforgets⟩ : SilentSince s.world
        ((RepairOp.fixNonce address privateKey net).after host files s) := by
      rw [after_fixNonce]
      exact fixNonce_silent s
    exact .silent hothers hsilent hforgets

end RepairOp

section

variable {N : Type} {serves : Url → N} {network : N} {clock : Clock} {ops : List RepairOp}
  {s s' : Recovery}

/-- So does every run of them. -/
theorem RepairOp.keepsAccounts_run (hothers : Growing others)
    (hr : (RepairOp.machine host files).run s ops = some s') :
    KeepsAccounts others s.world s'.world
      ((RepairOp.machine host files).Bears (RepairOp.Reads host) s ops) := by
  refine .run Recovery.world (RepairOp.Reads host) ?_ hr
  rintro u op _ ⟨⟩
  exact op.keepsAccounts hothers u

/-- Whatever was sent and cached before, on whatever networks: after a repair that has returned, and
as long as its network is kept to, the account sends no transaction behind a gap, if the counts that
are read for it count only what the node accepts; and its nonces rise if they are exact. What
happened before the repair counts only as far as the node still has it. -/
theorem fixNonce_stabilizes (hothers : Growing others) {n : ℕ} {key : String} {acc : Account}
    {s₀ : Recovery} (hkey : requirePrivateKey host.keys privateKey = .ok key)
    (hacc : host.keys.fromKey key = .ok acc)
    (hfix : s₀.world.network serves = some network ∧
      (fixNonce host.keys address privateKey net).exec s₀ = (.ok n, s))
    (hr : (RepairOp.machine host files).RunBy (RepairOp.On serves network) s ops s')
    (hcounts : ∀ r, (RepairOp.machine host files).Bears (RepairOp.Reads host) s ops r →
      r.address = address.getD acc.address → (r.since s.world.events.length).Counts others) :
    GaplessOf {address.getD acc.address} others
        (s'.world.events.drop s.world.events.length) ∧
      ((∀ r, (RepairOp.machine host files).Bears (RepairOp.Reads host) s ops r →
          r.address = address.getD acc.address → (r.since s.world.events.length).Exact others) →
        RisingOf {address.getD acc.address} (s'.world.events.drop s.world.events.length)) := by
  have hforgotten := fixNonce_forgets hkey hacc hfix.2
  generalize address.getD acc.address = account at *
  have hevents : (s.world.since s.world.events.length).events = [] := List.drop_length
  have hstart : AccountedSince (onlyOf {account} others) s.world.events.length s.world := by
    refine ⟨le_refl _, ⟨fun other => ?_, fun other n hn => ?_, ?_⟩⟩
    · show (s.world.nonces other).Covers _
      by_cases hother : other = account
      · rw [hother, hforgotten]
        exact .none
      · exact fun _ _ n _ => mem_acceptedNonces_onlyOf.mpr fun hmem => absurd hmem hother
    · rw [hevents] at hn
      obtain ⟨x, hx, -⟩ := hn
      cases hx
    · rw [hevents]
      exact .nil
  obtain ⟨hw, hrising⟩ := RepairOp.keepsAccounts_run (hothers.onlyOf {account}) hr.run _ hstart (by
    intro r hreads n hn
    exact mem_acceptedNonces_onlyOf.mpr fun hmem => hcounts r hreads hmem n hn)
  refine ⟨hw.accounted.gapless.gaplessOf, fun hexact => ?_⟩
  refine hrising {account} (fun r hreads hmem => ?_) (hevents ▸ .nil)
  exact fun hacc => hexact r hreads hmem (mem_acceptedNonces_onlyOf.mp hacc hmem)

end

/-! ## A repair between two calls -/

/-- A node that answers at once, with these counts. -/
def FixNet.prompt (mined pending : ℕ) : FixNet where
  connected := ⟨⟨0, 0⟩, .ok true⟩
  mined := fun _ => ⟨⟨0, 0⟩, .ok mined⟩
  pending := fun _ => ⟨⟨0, 0⟩, .ok pending⟩
  cancels := fun _ => .prompt
  sleep := fun seconds => ⟨seconds.toNNRat, seconds⟩
  final := fun _ => ⟨⟨0, 0⟩, .ok pending⟩

/-- The agent registers a provider, replaces that transaction, which is still pending, and
unregisters the provider. -/
def RepairOp.registering : List RepairOp := [
  .call (.write (.register "0x5" "0x6" 1) (some .agent) .prompt (some (.key "agent"))),
  .fixNonce none (some "agent") (.prompt 0 1),
  .call (.write (.unregister "0x5" "0x6") (some .agent)
    { WriteNet.prompt with attempts := fun _ => .prompt 1 } (some (.key "agent")))]

/-- A process that remembers nonce 9 of every account. -/
def Recovery.stale : Recovery := ⟨{ World.imported ⟨0, 0⟩ with nonces := fun _ => some 9 }, [], []⟩

/-- The agent registers a provider on a node that counts five transactions. -/
def RepairOp.countingFive : RepairOp :=
  .call (.write (.register "0x5" "0x6" 1) (some .agent)
    { WriteNet.prompt with attempts := fun _ => .prompt 5 } (some (.key "agent")))

/-- The process after a repair. -/
def RepairOp.stabilized : Recovery :=
  (RepairOp.fixNonce none (some "agent") (.prompt 5 5)).after .trial (fun _ _ => some (.arr []))
    .stale

def RepairOp.stabilizedState : Recovery :=
  countingFive.after .trial (fun _ _ => some (.arr [])) stabilized

theorem RepairOp.countingFive_reads {u : Recovery} {r : CountRead}
    (h : countingFive.Reads .trial u r) : r.pending = 5 ∧ r.world.events = u.world.events := by
  obtain ⟨account, -, hr⟩ := h
  obtain ⟨hpending, hevents, -⟩ := WriteOp.reads_prompt rfl hr
  exact ⟨hpending, hevents⟩

/-- Without the repair, nonce 9 would be sent. -/
theorem fixNonce_stabilizes_stale :
    (RepairOp.countingFive.after .trial (fun _ _ => some (.arr [])) .stale).world.sends.map
        (·.1.nonce) = [9] ∧
      RepairOp.stabilizedState.world.sends.map (·.1.nonce) = [5] ∧
      GaplessOf {0x2#160} (fun _ _ => {n | n < 5})
        (RepairOp.stabilizedState.world.events.drop RepairOp.stabilized.world.events.length) ∧
      RisingOf {0x2#160}
        (RepairOp.stabilizedState.world.events.drop RepairOp.stabilized.world.events.length) := by
  have hreturned : ((fixNonce .trial none (some "agent") (.prompt 5 5)).exec
      .stale).1.toOption.map (fun n => n) = some 5 := by decide +kernel
  obtain ⟨n, s, hfix, -⟩ := returned_of_map hreturned
  obtain rfl : RepairOp.stabilized = s := by
    unfold RepairOp.stabilized
    rw [RepairOp.after_fixNonce]
    exact congrArg Prod.snd hfix
  have hreads : ∀ r, (RepairOp.machine .trial fun _ _ => some (.arr [])).Bears
      (RepairOp.Reads .trial) RepairOp.stabilized [RepairOp.countingFive] r →
      r.pending = 5 ∧ r.world.events = RepairOp.stabilized.world.events := by
    rintro r ⟨before, op, u, hprefix, hu, hr⟩
    obtain ⟨i, rfl, hop⟩ := Machine.eq_take_of_concat_prefix hprefix
    rcases i with _ | i
    · cases hop
      cases hu
      exact RepairOp.countingFive_reads hr
    · cases hop
  have hselected : RepairOp.stabilized.world.network (fun url => url) =
      some "https://mainnet-rpc.ogpuscan.io" := by decide +kernel
  have hrun : (RepairOp.machine .trial fun _ _ => some (.arr [])).RunBy
      (RepairOp.On (fun url => url) "https://mainnet-rpc.ogpuscan.io") RepairOp.stabilized
      [RepairOp.countingFive] RepairOp.stabilizedState :=
    ⟨rfl, Machine.eachStep_cons.mpr ⟨fun _ => hselected, fun _ _ => Machine.eachStep_nil⟩⟩
  have hothers : Growing fun _ _ => {n | n < 5} := fun _ _ _ _ _ hn => hn
  have hacc : Host.trial.keys.fromKey "agent" = .ok ⟨0x2#160, "agent"⟩ := rfl
  obtain ⟨hgapless, hrising⟩ := fixNonce_stabilizes hothers rfl hacc ⟨rfl, hfix⟩ hrun (by
      intro r hr _ m hm
      exact .inl ((hreads r hr).1 ▸ hm))
  refine ⟨by decide +kernel, by decide +kernel, hgapless, hrising fun r hr _ => ?_⟩
  obtain ⟨hpending, hevents⟩ := hreads r hr
  have hsince : (r.since RepairOp.stabilized.world.events.length).world.events = [] := by
    show r.world.events.drop _ = []
    rw [hevents, List.drop_length]
  rintro (hlt | hmem)
  · have hlt : r.pending < 5 := hlt
    omega
  · rw [hsince] at hmem
    obtain ⟨x, hx, -⟩ := hmem
    cases hx

end OgpuSdk
