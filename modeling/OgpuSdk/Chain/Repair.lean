import OgpuSdk.Chain.FixNonce

/-!
# Which account a repair repairs

`fix_nonce` computes the range of nonces for the account it is given, and
cancels with the account of the key. The two are the same when the address is
left out; otherwise the transfers of another account fill nonces of that range.
-/

namespace OgpuSdk

open Prog Recovery

/-- A failure of the cancellation satisfies `Q`. -/
structure CancelNet.RaisesOnly (Q : Exc → Prop) (net : CancelNet) : Prop where
  gasPrice : OgpuSdk.RaisesOnly Q net.gasPrice.answer
  chainId : OgpuSdk.RaisesOnly Q net.chainId.answer
  sign : OgpuSdk.RaisesOnly Q net.sign.answer
  send : OgpuSdk.RaisesOnly Q net.send.result

/-- The transfer a cancellation by `acc` gets to broadcast, or what keeps it from that. -/
def CancelNet.transfer (net : CancelNet) (acc : Account) (nonce : Nat) : Except Exc Transfer := do
  let currentGasPrice ← net.gasPrice.answer
  let gasPrice ← replacementGasPrice currentGasPrice
  let chainId ← net.chainId.answer
  net.sign.answer
  pure ⟨acc.address, acc.address, 0, nonce, 21000, gasPrice, chainId⟩

/-- What the cancellation of a nonce broadcasts. -/
def FixNet.sent (net : FixNet) (acc : Account) (nonce : Nat) : Option (Transfer × SendAnswer) :=
  ((net.cancels nonce).transfer acc nonce).toOption.map (·, (net.cancels nonce).send)

/-- From `s` on, only the account is repaired: every nonce from `mined` on and below `pending` is
tried once and in order, what is broadcast is the account's own and at some of these nonces, and
only the account's counter is dropped. -/
structure RepairsOnly (address : Address) (mined pending : Nat) (s s' : Recovery) : Prop where
  tried : s'.tried = s.tried ++ List.range' mined (pending - mined)
  broadcasts : ∃ sent, s'.broadcasts = s.broadcasts ++ sent ∧
    (∀ x ∈ sent, x.1.sender = address) ∧
    (sent.map (·.1.nonce)).Sublist (List.range' mined (pending - mined))
  dropped : s'.world.nonces address = none
  others : ∀ other, other ≠ address → s'.world.nonces other = s.world.nonces other

/-! ## Programs that only let time pass -/

namespace Recovery

variable {α β : Type}

def inWorld (s : Recovery) (w : World) : Recovery := { s with world := w }

@[simp] theorem inWorld_inWorld (s : Recovery) (w w' : World) :
    (s.inWorld w).inWorld w' = s.inWorld w' := rfl

theorem exec_sdk {x : SDK α} {answer : Except Raised α} {s : Recovery} {w : World}
    (h : x.exec s.world = (answer, w)) : (sdk x).exec s = (answer, s.inWorld w) := by
  unfold sdk
  rw [exec_zoom, h]
  rfl

/-- The program gives this answer, and leaves everything but the chain state and the clocks. -/
def Passes (x : RecoveryProg α) (answer : Except Exc α) : Prop :=
  ∀ s, ∃ w, x.exec s = (answer.mapError Exc.raised, s.inWorld w) ∧ w.nonces = s.world.nonces

namespace Passes

theorem pure (a : α) : Passes (Pure.pure a) (.ok a) := fun s => ⟨s.world, rfl, rfl⟩

theorem lift (answer : Except Exc α) : Passes (sdk (SDK.lift answer)) answer := by
  intro s
  refine ⟨s.world, ?_, rfl⟩
  cases answer <;> rfl

theorem elapse (e : Elapsed) : Passes (sdk (SDK.elapse e)) (.ok ()) :=
  fun s => ⟨s.world.advance e, rfl, rfl⟩

theorem await (reply : Reply α) : Passes (sdk (SDK.await reply)) reply.answer := by
  intro s
  refine ⟨s.world.advance reply.took, ?_, rfl⟩
  unfold sdk
  rw [exec_zoom, SDK.exec_await]
  cases reply.answer <;> rfl

theorem bind {x : RecoveryProg α} {f : α → RecoveryProg β} {answer : Except Exc α}
    {g : α → Except Exc β} (hx : Passes x answer) (hf : ∀ a, Passes (f a) (g a)) :
    Passes (x >>= f) (answer >>= g) := by
  intro s
  obtain ⟨w, hexec, hw⟩ := hx s
  cases answer with
  | error exc =>
    refine ⟨w, ?_, hw⟩
    rw [exec_bind_error hexec]
    rfl
  | ok a =>
    obtain ⟨w', hexec', hw'⟩ := hf a (s.inWorld w)
    refine ⟨w', ?_, hw'.trans hw⟩
    rw [exec_bind_ok hexec, hexec']
    rfl

end Passes

end Recovery

/-! ## One cancellation -/

section

variable {keys : Keys} {address : Address} {privateKey : String} {acc : Account} {net : CancelNet}
  {nonce : Nat} {Q : Exc → Prop}

/-- A cancellation before its broadcast. -/
def preparing (net : CancelNet) (acc : Account) (nonce : Nat) : RecoveryProg Transfer := do
  let currentGasPrice ← sdk (SDK.await net.gasPrice)
  let gasPrice ← sdk (SDK.lift (replacementGasPrice currentGasPrice))
  let chainId ← sdk (SDK.await net.chainId)
  sdk (SDK.await net.sign)
  pure ⟨acc.address, acc.address, 0, nonce, 21000, gasPrice, chainId⟩

/-- A cancellation after its broadcast. -/
def concluding (net : CancelNet) : RecoveryProg String := do
  sdk (SDK.elapse net.sendTook)
  let txHash ← sdk (SDK.lift net.send.result)
  sdk (SDK.lift txHash.hex)

theorem cancel_eq (hacc : keys.fromKey privateKey = .ok acc) :
    cancelTransactionWithNonce keys address nonce privateKey net =
      preparing net acc nonce >>= fun transfer =>
        broadcast transfer net.send >>= fun _ => concluding net := by
  unfold cancelTransactionWithNonce preparing concluding accountFromKey
  rw [hacc]
  simp only [bind_assoc, pure_bind]

theorem passes_preparing : Passes (preparing net acc nonce) (net.transfer acc nonce) :=
  .bind (.await _) fun _ => .bind (.lift _) fun _ => .bind (.await _) fun _ =>
    .bind (.await _) fun _ => .pure _

theorem passes_concluding : Passes (concluding net) (net.send.result >>= TxHash.hex) :=
  .bind (.elapse _) fun _ => .bind (.lift _) fun _ => .lift _

theorem replacementGasPrice_raises (price : Nat) :
    RaisesOnly (·.isException = true) (replacementGasPrice price) := by
  intro exc h
  unfold replacementGasPrice at h
  dsimp only at h
  split at h
  · cases h
    rfl
  · split at h
    · cases h
      rfl
    · cases h

theorem hex_raises (hash : TxHash) : RaisesOnly (·.isException = true) hash.hex := by
  intro exc h
  cases hash with
  | str => cases h; rfl
  | bytes | hexBytes => cases h

theorem transfer_raises (hfail : net.RaisesOnly (·.isException = true)) :
    RaisesOnly (·.isException = true) (net.transfer acc nonce) :=
  .bind hfail.gasPrice fun price => .bind (replacementGasPrice_raises price) fun _ =>
    .bind hfail.chainId fun _ => .bind hfail.sign fun _ => .ok _

theorem bind_eq_ok {α β : Type} {x : Except Exc α} {f : α → Except Exc β} {b : β}
    (h : (x >>= f) = .ok b) : ∃ a, x = .ok a ∧ f a = .ok b := by
  cases x with
  | error exc => cases h
  | ok a => exact ⟨a, rfl, h⟩

/-- What is broadcast is the account's own, at the nonce to cancel. -/
theorem transfer_eq_ok {transfer : Transfer} (h : net.transfer acc nonce = .ok transfer) :
    transfer.sender = acc.address ∧ transfer.nonce = nonce := by
  obtain ⟨_, -, h⟩ := bind_eq_ok h
  obtain ⟨_, -, h⟩ := bind_eq_ok h
  obtain ⟨_, -, h⟩ := bind_eq_ok h
  obtain ⟨_, -, h⟩ := bind_eq_ok h
  cases h
  exact ⟨rfl, rfl⟩

end

/-- What a cancellation does: it broadcasts its transfer if it gets there, and leaves the counters
alone. -/
structure Cancelled (net : FixNet) (acc : Account) (nonce : Nat) (s : Recovery) {α : Type}
    (result : Except Raised α × Recovery) : Prop where
  tried : result.2.tried = s.tried
  broadcasts : result.2.broadcasts = s.broadcasts ++ (net.sent acc nonce).toList
  nonces : result.2.world.nonces = s.world.nonces
  raises : ∀ e, result.1 = .error e → e.exc.isException = true

section

variable {keys : Keys} (address : Address) {privateKey : String} {acc : Account} {net : FixNet}
  (hacc : keys.fromKey privateKey = .ok acc)
  (hfail : ∀ nonce, (net.cancels nonce).RaisesOnly (·.isException = true))
include hacc hfail

theorem exec_cancel (nonce : Nat) (s : Recovery) :
    Cancelled net acc nonce s ((cancelTransactionWithNonce keys address nonce privateKey
      (net.cancels nonce)).exec s) := by
  have hraises : RaisesOnly (·.isException = true) ((net.cancels nonce).transfer acc nonce) :=
    transfer_raises (hfail nonce)
  have hraises' : RaisesOnly (·.isException = true)
      ((net.cancels nonce).send.result >>= TxHash.hex) :=
    .bind (hfail nonce).send hex_raises
  have hsent : net.sent acc nonce = ((net.cancels nonce).transfer acc nonce).toOption.map
    (·, (net.cancels nonce).send) := rfl
  have hpreparing : Passes (preparing (net.cancels nonce) acc nonce)
      ((net.cancels nonce).transfer acc nonce) := passes_preparing
  have hconcluding : Passes (concluding (net.cancels nonce))
      ((net.cancels nonce).send.result >>= TxHash.hex) := passes_concluding
  obtain ⟨w, hexec, hw⟩ := hpreparing s
  rw [cancel_eq hacc]
  cases htransfer : (net.cancels nonce).transfer acc nonce with
  | error exc =>
    rw [htransfer] at hexec hsent
    rw [exec_bind_error hexec]
    refine ⟨rfl, ?_, hw, ?_⟩
    · rw [hsent]
      exact (List.append_nil _).symm
    · rintro e ⟨⟩
      exact hraises exc htransfer
  | ok transfer =>
    rw [htransfer] at hexec hsent
    rw [exec_bind_ok hexec, exec_bind_ok (exec_broadcast _ _ _)]
    obtain ⟨w', hexec', hw'⟩ := hconcluding _
    rw [hexec']
    refine ⟨rfl, ?_, hw'.trans hw, ?_⟩
    · rw [hsent]
      rfl
    · intro e he
      cases hhash : (net.cancels nonce).send.result >>= TxHash.hex with
      | error exc =>
        rw [hhash] at he
        cases he
        exact hraises' exc hhash
      | ok hash =>
        rw [hhash] at he
        cases he

/-- A turn goes on whatever becomes of its cancellation. -/
theorem exec_cancelTurn (nonce successCount : Nat) (s : Recovery) :
    ∃ successCount' s',
      (cancelTurn keys address privateKey net nonce successCount).exec s =
        (.ok (.next successCount'), s') ∧
      s'.tried = s.tried ++ [nonce] ∧
      s'.broadcasts = s.broadcasts ++ (net.sent acc nonce).toList ∧
      s'.world.nonces = s.world.nonces := by
  have hcancelled := exec_cancel address hacc hfail nonce
    { s with tried := s.tried ++ [nonce] }
  unfold cancelTurn
  rw [exec_bind_ok (exec_trying _ _), exec_bind_ok (exec_attempt _ _)]
  generalize (cancelTransactionWithNonce keys address nonce privateKey (net.cancels nonce)).exec
    { s with tried := s.tried ++ [nonce] } = r at hcancelled
  obtain ⟨result, s'⟩ := r
  cases result with
  | ok hash =>
    exact ⟨_, _, rfl, hcancelled.tried, hcancelled.broadcasts, hcancelled.nonces⟩
  | error e =>
    have hexc : e.exc.isException = true := hcancelled.raises e rfl
    dsimp only
    rw [if_pos hexc]
    exact ⟨_, _, rfl, hcancelled.tried, hcancelled.broadcasts, hcancelled.nonces⟩

/-- The loop takes every turn, and adds up what they do. -/
theorem reached_cancelTurn (mined : Nat) (s : Recovery) (j : Nat) :
    ∃ successCount s', Reached (cancelTurn keys address privateKey net) mined 0 s
        (mined + j) successCount s' ∧
      s'.tried = s.tried ++ List.range' mined j ∧
      s'.broadcasts = s.broadcasts ++ (List.range' mined j).filterMap (net.sent acc) ∧
      s'.world.nonces = s.world.nonces := by
  induction j with
  | zero => exact ⟨0, s, .start, by simp, by simp, rfl⟩
  | succ j ih =>
    obtain ⟨successCount, s', hreached, htried, hbroadcasts, hnonces⟩ := ih
    obtain ⟨successCount', s'', hturn, htried', hbroadcasts', hnonces'⟩ :=
      exec_cancelTurn address hacc hfail (mined + j) successCount s'
    refine ⟨successCount', s'', .next hreached hturn, ?_, ?_, hnonces'.trans hnonces⟩
    · rw [htried', htried, List.append_assoc, List.range'_1_concat]
    · rw [hbroadcasts', hbroadcasts, List.append_assoc, List.range'_1_concat,
        List.filterMap_append]
      cases hsent : net.sent acc (mined + j) <;> simp [hsent]

end

/-! ## The whole call -/

/-- After the loop the account's counter is dropped. -/
theorem exec_afterCancellations (address : Address) (net : FixNet) (successCount : Nat)
    (s : Recovery) :
    ∃ answer w, (afterCancellations address net successCount).exec s = (answer, s.inWorld w) ∧
      w.nonces = Function.update s.world.nonces address none := by
  have hreset : ∀ u : World, ∃ answer w,
      (sdk (SDK.record (.reset address)) >>= fun _ =>
        sdk (SDK.nonces (NonceManager.resetNonce address)) >>= fun _ =>
          sdk (SDK.await (net.final address))).exec (s.inWorld u) = (answer, s.inWorld w) ∧
        w.nonces = Function.update u.nonces address none := by
    intro u
    obtain ⟨w, hexec, hw⟩ := Passes.await (net.final address)
      (s.inWorld ((u.record (.reset address)).setNonce address none))
    have hrecord : (sdk (SDK.record (.reset address))).exec (s.inWorld u) =
        (.ok (), s.inWorld (u.record (.reset address))) := rfl
    have hnonces : (sdk (SDK.nonces (NonceManager.resetNonce address))).exec
        (s.inWorld (u.record (.reset address))) =
          (.ok (), s.inWorld ((u.record (.reset address)).setNonce address none)) := rfl
    rw [exec_bind_ok hrecord, exec_bind_ok hnonces]
    exact ⟨_, w, hexec, hw⟩
  unfold afterCancellations
  by_cases hpos : 0 < successCount
  · rw [if_pos hpos, exec_bind_ok (exec_sdk (SDK.exec_sleep _ _ _))]
    exact hreset _
  · rw [if_neg hpos]
    exact hreset s.world

variable {keys : Keys} {address : Option Address} {privateKey : Option String} {key : String}
  {acc : Account} {url : Url} {net : FixNet} {mined pending : Nat} {s : Recovery}

/-- What a call does that gets to its loop. -/
theorem exec_fixNonce (hkey : requirePrivateKey keys privateKey = .ok key)
    (hacc : keys.fromKey key = .ok acc)
    (hweb3 : ((getWeb3 net.connected).exec s.world).1 = .ok url)
    (hmined : (net.mined (address.getD acc.address)).answer = .ok mined)
    (hpending : (net.pending (address.getD acc.address)).answer = .ok pending)
    (hfail : ∀ nonce, (net.cancels nonce).RaisesOnly (·.isException = true)) :
    ∃ answer s', (fixNonce keys address privateKey net).exec s = (answer, s') ∧
      s'.tried = s.tried ++ List.range' mined (pending - mined) ∧
      s'.broadcasts = s.broadcasts ++
        (List.range' mined (pending - mined)).filterMap (net.sent acc) ∧
      s'.world.nonces = Function.update s.world.nonces (address.getD acc.address) none := by
  have haccount : accountFromKey keys key = pure acc := by
    unfold accountFromKey
    rw [hacc]
  obtain ⟨w₁, hw₁, hnonces₁⟩ : ∃ w, (getWeb3 net.connected).exec s.world = (.ok url, w) ∧
      w.nonces = s.world.nonces :=
    ⟨_, Prod.ext hweb3 rfl, getWeb3_nonces _ _⟩
  obtain ⟨w₂, hw₂, hnonces₂⟩ := Passes.await (net.mined (address.getD acc.address)) (s.inWorld w₁)
  obtain ⟨w₃, hw₃, hnonces₃⟩ := Passes.await (net.pending (address.getD acc.address)) (s.inWorld w₂)
  rw [hmined, inWorld_inWorld] at hw₂
  rw [hpending, inWorld_inWorld] at hw₃
  obtain ⟨successCount, s', hreached, htried, hbroadcasts, hnonces⟩ :=
    reached_cancelTurn (address.getD acc.address) hacc hfail mined (s.inWorld w₃) (pending - mined)
  obtain ⟨answer, w', hafter, hreset⟩ :=
    exec_afterCancellations (address.getD acc.address) net successCount s'
  refine ⟨answer, s'.inWorld w', ?_, htried, hbroadcasts, ?_⟩
  · unfold fixNonce
    rw [hkey]
    dsimp only
    rw [haccount, pure_bind, exec_bind_ok (exec_sdk hw₁), exec_bind_ok hw₂, exec_bind_ok hw₃]
    rw [hreached.usedUp (afterCancellations (address.getD acc.address) net), hafter]
  · have hkept : s'.world.nonces = s.world.nonces :=
      hnonces.trans (hnonces₃.trans (hnonces₂.trans hnonces₁))
    show w'.nonces = _
    rw [hreset, hkept]

theorem sent_eq_some {x : Transfer × SendAnswer} {nonce : Nat} (h : net.sent acc nonce = some x) :
    x.1.sender = acc.address ∧ x.1.nonce = nonce := by
  unfold FixNet.sent at h
  cases htransfer : (net.cancels nonce).transfer acc nonce with
  | error exc =>
    rw [htransfer] at h
    cases h
  | ok transfer =>
    rw [htransfer] at h
    cases h
    exact transfer_eq_ok htransfer

/-- What is sent is at nonces that were tried, in their order. -/
theorem nonces_sent_sublist (net : FixNet) (acc : Account) (nonces : List Nat) :
    ((nonces.filterMap (net.sent acc)).map (·.1.nonce)).Sublist nonces := by
  induction nonces with
  | nil => exact .slnil
  | cons nonce nonces ih =>
    cases hsent : net.sent acc nonce with
    | none =>
      rw [List.filterMap_cons_none hsent]
      exact ih.cons nonce
    | some x =>
      obtain ⟨-, hnonce⟩ := sent_eq_some hsent
      rw [List.filterMap_cons_some hsent, List.map_cons, hnonce]
      exact ih.cons_cons nonce

/-- A call repairs only the account it was asked to repair exactly when that is the account of the
key, or no cancellation gets to its broadcast. -/
theorem fixNonce_repairs_iff (hkey : requirePrivateKey keys privateKey = .ok key)
    (hacc : keys.fromKey key = .ok acc)
    (hweb3 : ((getWeb3 net.connected).exec s.world).1 = .ok url)
    (hmined : (net.mined (address.getD acc.address)).answer = .ok mined)
    (hpending : (net.pending (address.getD acc.address)).answer = .ok pending)
    (hfail : ∀ nonce, (net.cancels nonce).RaisesOnly (·.isException = true)) :
    RepairsOnly (address.getD acc.address) mined pending s
        ((fixNonce keys address privateKey net).exec s).2 ↔
      address.getD acc.address = acc.address ∨
        ∀ nonce, mined ≤ nonce → nonce < pending → net.sent acc nonce = none := by
  obtain ⟨answer, s', hexec, htried, hbroadcasts, hnonces⟩ :=
    exec_fixNonce hkey hacc hweb3 hmined hpending hfail
  rw [hexec]
  constructor
  · intro h
    by_cases heq : address.getD acc.address = acc.address
    · exact .inl heq
    · refine .inr fun nonce hlo hhi => ?_
      obtain ⟨sent, hsent, hsender, -⟩ := h.broadcasts
      obtain rfl := List.append_cancel_left (hsent.symm.trans hbroadcasts)
      cases hx : net.sent acc nonce with
      | none => rfl
      | some x =>
        have hmem : nonce ∈ List.range' mined (pending - mined) :=
          List.mem_range'_1.mpr ⟨hlo, by omega⟩
        have hown := hsender x (List.mem_filterMap.mpr ⟨nonce, hmem, hx⟩)
        exact absurd (hown.symm.trans (sent_eq_some hx).1) heq
  · intro h
    refine ⟨htried, ⟨_, hbroadcasts, ?_, nonces_sent_sublist net acc _⟩, ?_, ?_⟩
    · intro x hx
      obtain ⟨nonce, hmem, hsent⟩ := List.mem_filterMap.mp hx
      rcases h with heq | hnone
      · rw [heq]
        exact (sent_eq_some hsent).1
      · obtain ⟨hlo, hhi⟩ := List.mem_range'_1.mp hmem
        rw [hnone nonce hlo (by omega)] at hsent
        cases hsent
    · rw [hnonces, Function.update_self]
    · intro other hother
      rw [hnonces, Function.update_of_ne hother]

/-- A node that answers a cancellation at once, and takes its transfer. -/
def CancelNet.prompt : CancelNet where
  gasPrice := ⟨⟨0, 0⟩, .ok 1000000000⟩
  chainId := ⟨⟨0, 0⟩, .ok 1071⟩
  sign := ⟨⟨0, 0⟩, .ok ()⟩
  sendTook := ⟨0, 0⟩
  send := .accepted (.hexBytes [0xde, 0xad] false)
  sleep := fun seconds => ⟨seconds.toNNRat, seconds⟩

/-- Nonces 5 and 6 are stuck, and the first cancellation cannot read the gas price. -/
def FixNet.stuck : FixNet where
  connected := ⟨⟨0, 0⟩, .ok true⟩
  mined := fun _ => ⟨⟨0, 0⟩, .ok 5⟩
  pending := fun _ => ⟨⟨0, 0⟩, .ok 7⟩
  cancels := fun nonce =>
    if nonce = 5 then
      { CancelNet.prompt with
        gasPrice := ⟨⟨0, 0⟩, .error (.raw ⟨.requestException, "Read timed out."⟩)⟩ }
    else .prompt
  sleep := fun seconds => ⟨seconds.toNNRat, seconds⟩
  final := fun _ => ⟨⟨0, 0⟩, .ok 7⟩

theorem FixNet.stuck_raisesOnly (nonce : Nat) :
    (FixNet.stuck.cancels nonce).RaisesOnly (·.isException = true) := by
  have hprompt : CancelNet.prompt.RaisesOnly (·.isException = true) := ⟨.ok _, .ok _, .ok _, .ok _⟩
  unfold stuck
  dsimp only
  split
  · refine { hprompt with gasPrice := ?_ }
    rintro exc ⟨⟩
    rfl
  · exact hprompt

theorem fixNonce_repairs_stuck :
    RepairsOnly 0x2#160 5 7 ⟨.imported ⟨0, 0⟩, [], []⟩
      ((fixNonce .trial none (some "key") .stuck).exec ⟨.imported ⟨0, 0⟩, [], []⟩).2 := by
  have hweb3 : ((getWeb3 FixNet.stuck.connected).exec (.imported ⟨0, 0⟩)).1 =
      .ok "https://mainnet-rpc.ogpuscan.io" := rfl
  have hiff := @fixNonce_repairs_iff .trial none (some "key") "key" ⟨0x2#160, "key"⟩ _ .stuck 5 7
    ⟨.imported ⟨0, 0⟩, [], []⟩ rfl rfl hweb3 rfl rfl FixNet.stuck_raisesOnly
  exact hiff.mpr (.inl rfl)

/-- Account 7 is to be repaired with the key of account 2, which sends a transfer at nonce 6. -/
theorem not_repairsOnly_stuck :
    ((fixNonce .trial (some 0x7#160) (some "key") .stuck).exec
      ⟨.imported ⟨0, 0⟩, [], []⟩).2.broadcasts.map (fun x => (x.1.sender, x.1.nonce)) =
        [(0x2#160, 6)] ∧
      ¬ RepairsOnly 0x7#160 5 7 ⟨.imported ⟨0, 0⟩, [], []⟩
        ((fixNonce .trial (some 0x7#160) (some "key") .stuck).exec
          ⟨.imported ⟨0, 0⟩, [], []⟩).2 := by
  have hbroadcast : ((fixNonce .trial (some 0x7#160) (some "key") .stuck).exec
      ⟨.imported ⟨0, 0⟩, [], []⟩).2.broadcasts.map (fun x => (x.1.sender, x.1.nonce)) =
        [(0x2#160, 6)] := by
    decide +kernel
  refine ⟨hbroadcast, fun h => ?_⟩
  obtain ⟨sent, hsent, hsender, -⟩ := h.broadcasts
  rw [hsent, List.nil_append] at hbroadcast
  have hmem : (0x2#160, 6) ∈ sent.map fun x => (x.1.sender, x.1.nonce) := by
    rw [hbroadcast]
    exact List.mem_singleton.mpr rfl
  obtain ⟨x, hx, hpair⟩ := List.mem_map.mp hmem
  rw [Prod.mk.injEq] at hpair
  have hown := hsender x hx
  rw [hpair.1] at hown
  revert hown
  decide

end OgpuSdk
