import OgpuSdk.Lib.Throws
import OgpuSdk.Lib.Words
import OgpuSdk.Protocol.WriteRuns

/-!
# What a write operation raises

Of the SDK's own errors a write raises a few only: about its signer, about the
chain, and what `TxExecutor` makes of a transaction that fails. `Write.Errs`
lists them with what they carry: an error that names an account names the one
the signer stands for, and a revert is decoded under the operation's context.
web3 raises no SDK errors of its own (`WriteNet.Raw`).
-/

namespace OgpuSdk

open Prog

/-- An exception that is not the SDK's own. -/
def Exc.IsRaw (exc : Exc) : Prop := ∃ r, exc = .raw r

/-- If the exception is the SDK's own, it satisfies `P`. -/
def Raised.Within (P : OGPUError → Prop) (raised : Raised) : Prop :=
  ∀ err, raised.exc = .ogpu err → P err

section

variable {P : OGPUError → Prop}

theorem OGPUError.within_raised {err : OGPUError} (h : P err) : err.raised.Within P := by
  rintro _ ⟨⟩
  exact h

theorem OGPUError.within_from {err : OGPUError} (h : P err) (cause : Exc) :
    (err.from cause).Within P := by
  rintro _ ⟨⟩
  exact h

theorem Exc.IsRaw.within {exc : Exc} (h : exc.IsRaw) : exc.raised.Within P := by
  obtain ⟨r, rfl⟩ := h
  rintro err ⟨⟩

theorem within_builtin (cls text : String) : (raised cls text).Within P := by
  rintro err ⟨⟩

/-! ## Before the transaction -/

theorem throws_lift {α : Type} {answer : Except Exc α} (h : RaisesOnly Exc.IsRaw answer) :
    Throws (Raised.Within P) (SDK.lift answer) := by
  cases answer with
  | ok a => exact .pure a
  | error exc => exact .raise (h exc rfl).within

theorem throws_await {α : Type} {reply : Reply α} (h : RaisesOnly Exc.IsRaw reply.answer) :
    Throws (Raised.Within P) (SDK.await reply) := .bind (.modify _) fun _ => throws_lift h

theorem throws_getCurrentChain (h : ∀ c, P (.chainNotSupportedError c)) :
    Throws (Raised.Within P) ChainConfig.getCurrentChain := by
  refine .bind .get fun s => ?_
  split
  · exact .raise (OGPUError.within_raised (h _))
  · exact .pure _

theorem throws_getWeb3 {connected : Reply Bool} (h : ∀ c, P (.chainNotSupportedError c))
    (hraw : RaisesOnly Exc.IsRaw connected.answer) :
    Throws (Raised.Within P) (getWeb3 connected) := by
  have hinstance : Throws (Raised.Within P)
      (Web3Manager.getWeb3Instance none connected.answer) := by
    refine .bind (throws_getCurrentChain h) fun c => .bind .get fun s => ?_
    split
    · exact .pure _
    · refine .bind (.bind .get fun s => ?_) fun url => ?_
      · split
        · exact .raise (within_builtin _ _)
        · exact .raise (within_builtin _ _)
        · exact .pure _
      · split
        · next exc hexc => exact .raise (hraw exc hexc).within
        · exact .raise (within_builtin _ _)
        · exact .bind (.modify _) fun _ => .pure _
  refine .bind .get fun w => ?_
  dsimp only
  split
  · exact .bind (.modify _) fun _ => .zoom hinstance
  · exact .zoom hinstance

/-- web3 raises no SDK errors when a contract is loaded. -/
structure ContractNet.Raw (net : ContractNet) : Prop where
  connected : RaisesOnly Exc.IsRaw net.connected.answer
  contract : RaisesOnly Exc.IsRaw net.contract

theorem throws_loadContract {net : ContractNet} (h : ∀ c, P (.chainNotSupportedError c))
    (hraw : net.Raw) (abiName : String) (address : Option Address) :
    Throws (Raised.Within P) (loadContract net abiName address) := by
  have habi : Throws (Raised.Within P) (ChainConfig.loadAbi net.files abiName) := by
    refine .bind (throws_getCurrentChain h) fun c => .bind .get fun s => ?_
    split
    · exact .pure _
    · split
      · exact .raise (OGPUError.within_raised (h _))
      · split
        · exact .raise (within_builtin _ _)
        · exact .bind (.modify _) fun _ => .pure _
  have haddress : Throws (Raised.Within P) (contractAddress abiName address) := by
    unfold contractAddress
    split
    · exact .pure _
    · refine .zoom (.bind (throws_getCurrentChain h) fun c => ?_)
      split
      · exact .raise (OGPUError.within_raised (h _))
      · split
        · exact .raise (within_builtin _ _)
        · exact .pure _
    · exact .raise (within_builtin _ _)
  exact .bind (throws_getWeb3 h hraw.connected) fun _ => .bind (.zoom habi) fun _ =>
    .bind haddress fun _ => .bind (throws_lift hraw.contract) fun _ => .pure _

/-- The error a missing or unusable signer comes to. -/
theorem throws_resolveSigner {keys : Keys} {signer : Option Signer} {role : Option Role}
    (hmissing : signer.isNone = true → P (.missingSignerError role))
    (hinvalid : ∀ reason, P (.invalidSignerError reason)) :
    Throws (Raised.Within P) (resolveSigner keys signer role) := by
  have hkey : ∀ reason exc, Throws (Raised.Within P) (invalidSigner (α := Account) reason exc) := by
    intro reason exc
    unfold invalidSigner
    split
    · exact .raise (OGPUError.within_from (hinvalid _) _)
    · exact .raise (Exc.IsRaw.within ⟨exc, rfl⟩)
  unfold resolveSigner
  rcases signer with _ | text | account | typeName
  · have hnone := hmissing rfl
    cases role with
    | none => exact .raise (OGPUError.within_raised hnone)
    | some role =>
      dsimp only
      split
      · exact .raise (OGPUError.within_raised hnone)
      · split
        · exact .pure _
        · exact hkey _ _
  · dsimp only
    split
    · exact .pure _
    · exact hkey _ _
  · exact .pure _
  · exact .raise (OGPUError.within_raised (hinvalid _))

/-- The checks of an operation raise errors with `P`. -/
def Prep.ChecksWith (host : Host) (P : OGPUError → Prop) : Prep → Prop
  | call _ => True
  | web3 rest => rest.ChecksWith host P
  | checksum _ rest => ∀ address, (rest (host.text address)).ChecksWith host P
  | checkAddress _ error rest => P error ∧ rest.ChecksWith host P

theorem throws_prep {host : Host} {connected : Reply Bool}
    (h : ∀ c, P (.chainNotSupportedError c)) (hraw : RaisesOnly Exc.IsRaw connected.answer)
    (hhost : ∀ text, RaisesOnly Exc.IsRaw (host.toChecksumAddress text)) {prep : Prep}
    (hprep : prep.ChecksWith host P) : Throws (Raised.Within P) (prep.run host connected) := by
  induction prep with
  | call prepared => exact .pure _
  | web3 rest ih => exact .bind (throws_getWeb3 h hraw) fun _ => ih hprep
  | checksum text rest ih =>
    exact .bind (throws_lift (hhost text)) fun address => ih _ (hprep address)
  | checkAddress text error rest ih =>
    unfold Prep.run
    cases host.isAddress text with
    | true => exact ih hprep.2
    | false => exact .bind (.raise (OGPUError.within_raised hprep.1)) fun _ => ih hprep.2

end

/-! ## The transaction -/

/-- What a transaction without a deadline fails with. -/
inductive TxErrs (context : String) (caller : Address) : OGPUError → Prop where
  | reverted (exc : RawExc) : TxErrs context caller (decodeRevert exc context caller)
  | nonce (tried : ℤ) : TxErrs context caller (.nonceError caller tried (-1))
  | gas (reason : String) : TxErrs context caller (.gasError reason)
  | rpc (reason : String) : TxErrs context caller (.txRpcError reason)
  | mined (hash : TxHash) :
      TxErrs context caller (.txRevertError s!"Transaction {hash.text} mined but reverted")
  | receiptTimeout (hash : TxHash) (timeout : ℚ) :
      TxErrs context caller (.txReceiptTimeoutError hash.text timeout)

namespace TxExecutor

variable {P : OGPUError → Prop} {self : TxExecutor} {net : AttemptNet}

theorem expired_of_deadline (h : self.deadline = none) (now : ℚ) : self.expired now = false := by
  unfold expired
  rw [h]
  rfl

theorem throws_reserveNonce (hraw : net.RaisesOnly Exc.IsRaw) :
    Throws (Raised.Within P) (self.reserveNonce net) := by
  refine .bind (.modify _) fun _ => .bind (.zoom ?_) fun nonce => .bind (.modify _) fun _ => .pure _
  unfold NonceManager.reserveNonce
  split
  · next exc hexc => exact .raise (hraw.pendingCount exc hexc).within
  · exact .bind .get fun _ => .bind (.modify _) fun _ => .pure _

theorem throws_broadcastTx (hdeadline : self.deadline = none) (hraw : net.RaisesOnly Exc.IsRaw)
    (nonce : Nat) :
    Throws (Raised.Within P) (self.broadcastTx net nonce) := by
  refine .onRaise (.bind (throws_await hraw.build) fun _ => .bind (throws_await hraw.sign)
    fun _ => .bind (throws_lift hraw.check) fun _ => .bind (.bind .get fun _ => .pure _)
      fun now => ?_) fun _ => .bind (.modify _) fun _ => .zoom (.bind .get fun _ => .modify _)
  dsimp only
  rw [expired_of_deadline hdeadline]
  exact .bind (.modify _) fun _ => .bind (.modify _) fun _ => throws_lift hraw.send

theorem throws_awaitReceipt (hraw : net.RaisesOnly Exc.IsRaw)
    (hmined : ∀ hash : TxHash, P (.txRevertError s!"Transaction {hash.text} mined but reverted"))
    (htimeout : ∀ (hash : TxHash) timeout, P (.txReceiptTimeoutError hash.text timeout))
    (hash : TxHash) : Throws (Raised.Within P) (self.awaitReceipt net hash) := by
  refine .bind (.bind .get fun _ => .pure _) fun now => .bind (.modify _) fun _ =>
    .bind (.modify _) fun _ => ?_
  split
  · next receipt hreceipt =>
    have hfields := hraw.receipt _ receipt hreceipt
    refine .bind (throws_lift hfields.status) fun status => ?_
    dsimp only
    split
    · exact .raise (OGPUError.within_raised (hmined hash))
    · exact .bind (throws_lift hfields.blockNumber) fun _ => .bind (.bind .get fun _ => .pure _)
        fun second => throws_lift (Receipt.fromWeb3Receipt_raises hfields second)
  · exact .raise (OGPUError.within_from (htimeout hash _) _)
  · next exc _ hexc => exact .raise (hraw.wait _ exc hexc).within

/-- The handlers add the SDK's own errors, and let those through that come up. -/
theorem throws_handle (htx : ∀ err, TxErrs self.context self.signer.address err → P err)
    (k nonce : Nat) (broadcast : Bool) {e : Raised} (he : e.Within P) :
    Throws (Raised.Within P) (self.handle net k nonce broadcast e) := by
  have hreset : Throws (Raised.Within P) self.resetNonce := .bind (.modify _) fun _ =>
    .zoom (.modify _)
  have hsleep : ∀ seconds, Throws (Raised.Within P) (SDK.sleep net.sleep seconds) := fun _ =>
    .bind (.modify _) fun _ => .modify _
  unfold handle
  split
  · exact .raise he
  · next exc _ =>
    split
    · exact .raise (OGPUError.within_from (htx _ (.reverted exc)) _)
    · exact .raise he
    · split
      · refine .bind hreset fun _ => ?_
        split
        · exact .pure _
        · exact .raise (OGPUError.within_from (htx _ (.nonce nonce)) _)
      · split
        · refine .bind hreset fun _ => ?_
          split
          · exact .bind (hsleep _) fun _ => .pure _
          · exact .raise (OGPUError.within_from (htx _ (.gas _)) _)
        · split
          · exact .bind (hsleep _) fun _ => .pure _
          · exact .raise (OGPUError.within_from (htx _ (.rpc _)) _)

theorem throws_attempt (hdeadline : self.deadline = none) (hraw : net.RaisesOnly Exc.IsRaw)
    (htx : ∀ err, TxErrs self.context self.signer.address err → P err) (k : Nat) :
    Throws (Raised.Within P) (self.attempt net k) := by
  refine .bind (.bind .get fun _ => .pure _) fun now => ?_
  dsimp only
  rw [expired_of_deadline hdeadline]
  refine .bind (throws_reserveNonce hraw) fun nonce =>
    .attempt_bind (throws_broadcastTx hdeadline hraw nonce) (fun hash => ?_)
      fun e he => throws_handle htx _ _ _ he
  exact .attempt_bind (throws_awaitReceipt hraw (fun hash => htx _ (.mined hash))
    (fun hash timeout => htx _ (.receiptTimeout hash timeout)) hash) (fun receipt => .pure _)
      fun e he => throws_handle htx _ _ _ he

theorem throws_execute {net : Nat → AttemptNet} {connected : Reply Bool}
    (hdeadline : self.deadline = none) (hraw : ∀ k, (net k).RaisesOnly Exc.IsRaw)
    (hconnected : RaisesOnly Exc.IsRaw connected.answer)
    (hchain : ∀ c, P (.chainNotSupportedError c))
    (htx : ∀ err, TxErrs self.context self.signer.address err → P err) :
    Throws (Raised.Within P) (self.execute net connected) := by
  refine .bind (throws_getWeb3 hchain hconnected) fun _ =>
    .loop (fun k _ => throws_attempt hdeadline (hraw k) htx k) (fun lastError => ?_) _ _ _
  cases lastError with
  | none => exact .raise (within_builtin _ _)
  | some lastError => exact .raise (OGPUError.within_from (htx _ (.rpc _)) _)

end TxExecutor

/-! ## Whose permission is missing -/

section

open Text

/-- The context speaks of a source. -/
def Mentions (context : String) : Prop := "source".toList <:+: lower context.toList

instance (context : String) : Decidable (Mentions context) :=
  inferInstanceAs (Decidable (_ <:+: _))

theorem permissionErrorFor_eq (context : String) (caller : Address) :
    permissionErrorFor context caller =
      if Mentions context then .notSourceOwnerError context caller
      else .notTaskOwnerError context caller := by
  unfold permissionErrorFor
  exact if_congr contains_iff rfl rfl

/-- A permission error a revert is decoded to is the one of its context. -/
theorem decodeRevert_permission {exc : RawExc} {context named : String} {caller address : Address}
    (h : decodeRevert exc context caller = .notSourceOwnerError named address ∨
      decodeRevert exc context caller = .notTaskOwnerError named address) :
    decodeRevert exc context caller = permissionErrorFor context caller := by
  have hhandlers : ∀ entry ∈ REVERT_PATTERN_MAP,
      (entry.2 context caller = .notSourceOwnerError named address ∨
        entry.2 context caller = .notTaskOwnerError named address) →
          entry.2 context caller = permissionErrorFor context caller := by
    simp [REVERT_PATTERN_MAP]
  unfold decodeRevert at h ⊢
  dsimp only at h ⊢
  split at h
  · next handler hlookup =>
    obtain ⟨before, after, heq, -⟩ := List.lookup_eq_some_iff.mp hlookup
    exact hhandlers (extractRevertReason exc, handler) (by rw [heq]; simp) h
  · split at h
    · next entry handler hfind => exact hhandlers _ (List.mem_of_find?_eq_some hfind) h
    · rcases h with h | h <;> cases h

/-- No part of the text is a part of `source`. -/
def Quiet (text : String) : Prop := 'o' ∉ lower text.toList

instance (text : String) : Decidable (Quiet text) := inferInstanceAs (Decidable (¬ _))

theorem Quiet.append {s t : String} (hs : Quiet s) (ht : Quiet t) : Quiet (s ++ t) := by
  unfold Quiet at *
  rw [String.toList_append, lower_append, List.mem_append]
  rintro (h | h)
  · exact hs h
  · exact ht h

theorem Spells.quiet {text : String} {address : Address} (h : Spells text address) : Quiet text := by
  obtain ⟨x, cs, values, htext, hx, hcs, -, -⟩ := h
  obtain ⟨hlt, hlower⟩ := lower_hex hcs
  have hdigits : 'o' ∉ lower cs := by
    rw [hlower]
    intro hmem
    obtain ⟨n, hn, heq⟩ := List.mem_map.mp hmem
    have hall : ∀ n < 16, hexDigit n ≠ 'o' := by decide
    exact hall n (hlt n hn) heq
  unfold Quiet
  have hlist : lower text.toList = lower ['0', x] ++ lower cs := by
    rw [htext, ← lower_append]
    rfl
  rw [hlist, List.mem_append]
  rintro (h | h)
  · rcases hx with rfl | rfl
    · exact absurd h (by decide)
    · exact absurd h (by decide)
  · exact hdigits h

theorem Mentions.append {s : String} (h : Mentions s) (t : String) : Mentions (s ++ t) := by
  unfold Mentions at *
  rw [String.toList_append, lower_append]
  exact h.trans (List.prefix_append _ _).isInfix

/-- What stands between the brackets of a context mentions no source. -/
theorem not_mentions {front args : String} (hlast : (lower front.toList).getLast? = some '(')
    (hfront : ¬ Mentions front) (hargs : Quiet args) : ¬ Mentions (front ++ args) := by
  obtain ⟨name, hname⟩ := List.getLast?_eq_some_iff.mp hlast
  unfold Mentions at *
  rw [hname] at hfront
  rw [String.toList_append, lower_append, hname, List.append_assoc]
  show ¬ "source".toList <:+: name ++ '(' :: lower args.toList
  rw [infix_append_cons (by decide)]
  rintro (h | h)
  · exact hfront (h.trans (List.prefix_append _ _).isInfix)
  · exact hargs (h.subset (by decide))

/-- The operations that the owner of a source makes on it. -/
def Write.ofSource : Write → Bool
  | publishSource _ | updateSource _ _ | inactivateSource _ | setStatus _ _ => true
  | _ => false

/-- The context of an operation mentions a source exactly when it is one of these. -/
theorem Write.context_mentions {host : Host} (hhost : host.Spells) (call : Write) :
    (call.op host).prep.Yields host fun prepared =>
      Mentions prepared.context ↔ call.ofSource = true := by
  have htext : ∀ address, Quiet (host.text address) := fun address => (hhost address).quiet
  have hclose : Quiet ")" := by decide
  have hone : ∀ (front : String) a, (lower front.toList).getLast? = some '(' → ¬ Mentions front →
      ∀ back, Quiet back → ¬ Mentions (front ++ host.text a ++ back) := by
    intro front a hlast hfront back hback
    rw [String.append_assoc]
    exact not_mentions hlast hfront ((htext a).append hback)
  have htwo : ∀ (front : String) a b, (lower front.toList).getLast? = some '(' →
      ¬ Mentions front → ¬ Mentions (front ++ host.text a ++ ", " ++ host.text b ++ ")") := by
    intro front a b hlast hfront
    rw [String.append_assoc, String.append_assoc]
    exact hone front a hlast hfront _ (.append (by decide) ((htext b).append hclose))
  have hagent : ∀ value a,
      ¬ Mentions ("Terminal.setAgent(" ++ host.text a ++ ", " ++ boolText value ++ ")") := by
    intro value a
    have hvalue : Quiet (boolText value) := by cases value <;> decide
    rw [String.append_assoc, String.append_assoc]
    exact hone "Terminal.setAgent(" a (by decide) (by decide) _
      (.append (by decide) (hvalue.append hclose))
  have hsource : ∀ front back : String, Mentions front → ∀ a,
      Mentions (front ++ host.text a ++ back) := fun _ _ h _ => (h.append _).append _
  cases call with
  | publishSource =>
    exact iff_of_true (show Mentions "Nexus.publishSource" by decide) rfl
  | updateSource => exact fun a => iff_of_true (hsource "Nexus.updateSource(" _ (by decide) a) rfl
  | inactivateSource =>
    exact fun a => iff_of_true (hsource "Nexus.inactivateSource(" _ (by decide) a) rfl
  | setStatus self => exact iff_of_true (hsource "Source(" _ (by decide) self.address) rfl
  | register =>
    exact fun a b => iff_of_false (htwo "Nexus.register(" a b (by decide) (by decide)) nofun
  | unregister =>
    exact fun a b => iff_of_false (htwo "Nexus.unregister(" a b (by decide) (by decide)) nofun
  | attempt =>
    exact fun a b => iff_of_false (htwo "Nexus.attempt(" a b (by decide) (by decide)) nofun
  | removeContainer =>
    exact fun a b => iff_of_false (htwo "Terminal.removeContainer(" a b (by decide) (by decide)) nofun
  | publishTask =>
    exact iff_of_false (show ¬ Mentions "Controller.publishTask" by decide) nofun
  | confirmResponse =>
    exact fun a => iff_of_false
      (hone "Controller.confirmResponse(" a (by decide) (by decide) _ hclose) nofun
  | cancelTask =>
    exact fun a => iff_of_false
      (hone "Controller.cancelTask(" a (by decide) (by decide) _ hclose) nofun
  | setAgent agent value => exact fun a => iff_of_false (hagent value a) nofun
  | revokeAgent => exact fun a => iff_of_false (hagent false a) nofun
  | announceMaster =>
    exact fun a => iff_of_false
      (hone "Terminal.announceMaster(" a (by decide) (by decide) _ hclose) nofun
  | announceProvider =>
    exact fun a => iff_of_false
      (hone "Terminal.announceProvider(" a (by decide) (by decide) _ hclose) nofun
  | removeProvider =>
    exact fun a => iff_of_false
      (hone "Terminal.removeProvider(" a (by decide) (by decide) _ hclose) nofun
  | deposit =>
    exact fun a => iff_of_false (hone "Vault.deposit(" a (by decide) (by decide) _ hclose) nofun
  | setDefaultAgentDisabled =>
    exact iff_of_false (show ¬ Mentions "Terminal.setDefaultAgentDisabled" by decide) nofun
  | withdraw =>
    exact iff_of_false (show ¬ Mentions "Vault.withdraw" by decide) nofun
  | lock =>
    exact iff_of_false (show ¬ Mentions "Vault.lock" by decide) nofun
  | unbond =>
    exact iff_of_false (show ¬ Mentions "Vault.unbond" by decide) nofun
  | cancelUnbonding =>
    exact iff_of_false (show ¬ Mentions "Vault.cancelUnbonding" by decide) nofun
  | claim =>
    exact iff_of_false (show ¬ Mentions "Vault.claim" by decide) nofun

end

/-! ## What an operation raises -/

/-- web3 raises no SDK errors during an operation. -/
structure WriteNet.Raw (net : WriteNet) : Prop where
  load : net.load.Raw
  checksums : RaisesOnly Exc.IsRaw net.checksums.answer
  connected : RaisesOnly Exc.IsRaw net.connected.answer
  attempts : ∀ k, (net.attempts k).RaisesOnly Exc.IsRaw

def Host.Raw (host : Host) : Prop := ∀ text, RaisesOnly Exc.IsRaw (host.toChecksumAddress text)

/-- The SDK's own errors that an operation may raise when it is called with this signer, through a
wrapper with a role or directly. -/
inductive Write.Errs (call : Write) (host : Host) (via : Option Role) (signer : Option Signer) :
    OGPUError → Prop where
  | missingSigner : signer.isNone = true →
      Errs call host via signer (.missingSignerError (via.or (call.op host).role))
  | invalidSigner (reason : String) : Errs call host via signer (.invalidSignerError reason)
  | chainNotSupported (chainId : Option ChainId) :
      Errs call host via signer (.chainNotSupportedError chainId)
  | transaction {account : Account} {prepared : PreparedCall} {err : OGPUError} :
      Signs host.keys signer (via.or (call.op host).role) account →
        (call.op host).prep.result host = some prepared →
          TxErrs prepared.context account.address err → Errs call host via signer err

section

variable {host : Host} {net : WriteNet} {P : OGPUError → Prop}

theorem Write.checks (call : Write) (h : ∀ reason, P (.invalidSignerError reason)) :
    (call.op host).prep.ChecksWith host P := by
  cases call with
  | setAgent | revokeAgent => exact ⟨h _, fun _ => trivial⟩
  | register | unregister | attempt | removeContainer => exact fun _ _ => trivial
  | updateSource | inactivateSource | confirmResponse | cancelTask | announceMaster
  | announceProvider | removeProvider | deposit => exact fun _ => trivial
  | _ => trivial

theorem Write.context_ne_empty (call : Write) :
    (call.op host).prep.Yields host fun prepared => prepared.context ≠ "" := by
  have hfront : ∀ s t : String, s ≠ "" → s ++ t ≠ "" := by
    intro s t hs h
    exact hs (String.append_eq_empty_iff.mp h).1
  cases call with
  | register | unregister | attempt | removeContainer =>
    exact fun a b => hfront _ _ (hfront _ _ (hfront _ _ (hfront _ _ (by decide))))
  | setAgent | revokeAgent =>
    exact fun a => hfront _ _ (hfront _ _ (hfront _ _ (hfront _ _ (by decide))))
  | updateSource | inactivateSource | confirmResponse | cancelTask | announceMaster
  | announceProvider | removeProvider | deposit =>
    exact fun a => hfront _ _ (hfront _ _ (by decide))
  | setStatus => exact hfront _ _ (hfront _ _ (by decide))
  | publishSource => exact (show "Nexus.publishSource" ≠ "" by decide)
  | publishTask => exact (show "Controller.publishTask" ≠ "" by decide)
  | setDefaultAgentDisabled => exact (show "Terminal.setDefaultAgentDisabled" ≠ "" by decide)
  | withdraw => exact (show "Vault.withdraw" ≠ "" by decide)
  | lock => exact (show "Vault.lock" ≠ "" by decide)
  | unbond => exact (show "Vault.unbond" ≠ "" by decide)
  | cancelUnbonding => exact (show "Vault.cancelUnbonding" ≠ "" by decide)
  | claim => exact (show "Vault.claim" ≠ "" by decide)

namespace Write

variable {call : Write} {via : Option Role} {signer : Option Signer} {w w' : World}

theorem executor_ok {exe : TxExecutor}
    (h : ((call.op host).executor host net signer).exec w = (.ok exe, w')) :
    Signs host.keys signer (call.op host).role exe.signer ∧ exe.deadline = none ∧
      ∃ prepared, (call.op host).prep.result host = some prepared ∧
        exe.context = prepared.context := by
  unfold WriteOp.executor at h
  obtain ⟨account, w₁, hsigner, hrest⟩ := exec_bind_eq_ok h
  obtain ⟨contract, w₂, hcontract, hrest⟩ := exec_bind_eq_ok hrest
  obtain ⟨prepared, w₃, hprepared, hrest⟩ := exec_bind_eq_ok hrest
  cases hrest
  have hresult := Prep.run_ok hprepared
  have hcontext : prepared.context ≠ "" := call.context_ne_empty.of_result hresult
  refine ⟨(signs_of_exec hsigner).1, rfl, prepared, hresult, ?_⟩
  simp [TxExecutor.init, Option.filter, hcontext]

theorem throws_op (hnet : net.Raw) (hhost : host.Raw)
    (hmissing : signer.isNone = true → P (.missingSignerError (call.op host).role))
    (hinvalid : ∀ reason, P (.invalidSignerError reason))
    (hchain : ∀ c, P (.chainNotSupportedError c))
    (htx : ∀ account prepared err, Signs host.keys signer (call.op host).role account →
      (call.op host).prep.result host = some prepared →
        TxErrs prepared.context account.address err → P err) :
    Throws (Raised.Within P) ((call.op host).run host net signer) := by
  have hexecutor : Throws (Raised.Within P) ((call.op host).executor host net signer) :=
    .bind (throws_resolveSigner hmissing hinvalid) fun _ =>
      .bind (throws_loadContract hchain hnet.load _ _) fun _ =>
        .bind (throws_prep hchain hnet.checksums hhost (call.checks hinvalid)) fun _ => .pure _
  refine hexecutor.bind_of fun exe w w' hexe => ?_
  obtain ⟨hsigns, hdeadline, prepared, hresult, hcontext⟩ := executor_ok hexe
  refine TxExecutor.throws_execute hdeadline hnet.attempts hnet.connected hchain fun err herr => ?_
  rw [hcontext] at herr
  exact htx _ _ _ hsigns hresult herr

theorem throws_run (hnet : net.Raw) (hhost : host.Raw) :
    Throws (Raised.Within (call.Errs host via signer)) (call.run host via net signer) := by
  cases via with
  | none =>
    refine throws_op hnet hhost .missingSigner .invalidSigner .chainNotSupported ?_
    intro account prepared err hsigns hresult herr
    exact .transaction hsigns hresult herr
  | some role =>
    refine Throws.bind_of (throws_resolveSigner .missingSigner .invalidSigner)
      fun account u u' haccount => ?_
    refine throws_op hnet hhost (fun h => nomatch h) .invalidSigner .chainNotSupported ?_
    intro account' prepared err hsigns hresult herr
    -- The operation is handed the account the wrapper has resolved.
    have hsame : account = account' := by
      have := hsigns u
      cases this
      rfl
    subst hsame
    exact .transaction (signs_of_exec haccount).1 hresult herr

/-- An operation raises no SDK errors but its own: they name the account its signer stands for and
the context of the call, and a missing permission is one on a source exactly for the operations
that the owner of a source makes. -/
theorem raises_errs (hhost : host.Raw) (htext : host.Spells) (hnet : net.Raw) {err : OGPUError}
    {cause : Option Exc} (h : (call.run host via net signer).exec w = (.error ⟨.ogpu err, cause⟩, w')) :
    call.Errs host via signer err ∧
      (∀ context caller, err = .notSourceOwnerError context caller → call.ofSource = true) ∧
      ∀ context caller, err = .notTaskOwnerError context caller → call.ofSource = false := by
  have herrs : call.Errs host via signer err := throws_run hnet hhost _ _ _ h err rfl
  have hpermission : ∀ context caller, (err = .notSourceOwnerError context caller ∨
      err = .notTaskOwnerError context caller) → ∃ context' caller',
        err = permissionErrorFor context' caller' ∧ (Mentions context' ↔ call.ofSource = true) := by
    intro context caller herr
    cases herrs with
    | transaction hsigns hresult htx =>
      cases htx with
      | reverted exc =>
        exact ⟨_, _, decodeRevert_permission herr, (call.context_mentions htext).of_result hresult⟩
      | _ => rcases herr with herr | herr <;> cases herr
    | _ => rcases herr with herr | herr <;> cases herr
  refine ⟨herrs, fun context caller herr => ?_, fun context caller herr => ?_⟩
  · obtain ⟨context', caller', heq, hiff⟩ := hpermission context caller (.inl herr)
    rw [permissionErrorFor_eq] at heq
    split at heq
    · next hmentions => exact hiff.mp hmentions
    · rw [herr] at heq
      cases heq
  · obtain ⟨context', caller', heq, hiff⟩ := hpermission context caller (.inr herr)
    rw [permissionErrorFor_eq] at heq
    split at heq
    · rw [herr] at heq
      cases heq
    · next hmentions =>
      exact Bool.eq_false_iff.mpr fun hof => hmentions (hiff.mpr hof)

end Write

end

/-- A chain on which every call is reverted, before it is sent. -/
def WriteNet.reverting (reason : String) : WriteNet :=
  { WriteNet.prompt with
    attempts := fun _ => { AttemptNet.prompt 0 with
      build := ⟨⟨0, 0⟩, .error (.raw ⟨.contractLogicError, "execution reverted: " ++ reason⟩)⟩ } }

theorem WriteNet.reverting_raw (reason : String) : (reverting reason).Raw where
  load := ⟨.ok _, .ok _⟩
  checksums := .ok _
  connected := .ok _
  attempts := fun _ =>
    { AttemptNet.prompt_raisesOnly Exc.IsRaw 0 with
      build := by
        rintro exc ⟨⟩
        exact ⟨_, rfl⟩ }

/-- An update of a source. -/
def Write.trialUpdate : Write := .updateSource "0x4" ⟨"", "", 1, 0, 0, 0, false, "", 0, 0⟩

/-- The SDK's own error among what a run comes to. -/
def Raised.own? {α : Type} : Except Raised α → Option OGPUError
  | .error ⟨.ogpu err, _⟩ => some err
  | _ => none

/-- Made by someone else than the owner, it raises an error about the source and the caller. -/
theorem Write.raises_errs_update : ∃ err cause w',
    (trialUpdate.run .trial (some .client) (.reverting "NotOwner") (some (.key "key"))).exec
        (.imported ⟨0, 0⟩) = (.error ⟨.ogpu err, cause⟩, w') ∧
      err = .notSourceOwnerError s!"Nexus.updateSource({lowerText 0x4#160})" 0x2#160 ∧
        trialUpdate.Errs .trial (some .client) (some (.key "key")) err ∧
          trialUpdate.ofSource = true := by
  have hexec : Raised.own? ((trialUpdate.run .trial (some .client) (.reverting "NotOwner")
      (some (.key "key"))).exec (.imported ⟨0, 0⟩)).1 =
        some (.notSourceOwnerError s!"Nexus.updateSource({lowerText 0x4#160})" 0x2#160) := by
    decide +kernel
  rcases hrun : (trialUpdate.run .trial (some .client) (.reverting "NotOwner")
    (some (.key "key"))).exec (.imported ⟨0, 0⟩) with ⟨⟨err | exc, cause⟩ | receipt, w'⟩
  · rw [hrun] at hexec
    cases hexec
    have hhost : Host.trial.Raw := fun text => .ok _
    obtain ⟨herrs, hsource, -⟩ :=
      raises_errs hhost spells_lowerText (WriteNet.reverting_raw "NotOwner") hrun
    exact ⟨_, cause, w', rfl, rfl, herrs, hsource _ _ rfl⟩
  · rw [hrun] at hexec
    cases hexec
  · rw [hrun] at hexec
    cases hexec

end OgpuSdk
