import OgpuSdk.Client.Session

/-!
# Which environment variables a session reads

A call reads the environment for a missing signer only, and then only the
variable of one role: the role of the operation, or that of the wrapper it is
called through. A session therefore does the same in any two environments that
agree on the roles its calls fall back to.
-/

namespace OgpuSdk

open Prog

/-- The same process with other keys in it. -/
def Host.withKeys (host : Host) (keys : Keys) : Host := { host with keys := keys }

/-- The role whose variable a call reads, if it reads one. -/
def SessionOp.fallback (host : Host) : SessionOp → Option Role
  | .config _ => none
  | .nonces (.getNonceInfo _ privateKey _) | .nonces (.resetNonceCache _ privateKey _) =>
    match privateKey with
    | some _ => none
    | none => some .client
  | .nonces .clearAllNonceCaches => none
  | .write _ _ _ (some _) => none
  | .write _ (some role) _ none => some role
  | .write call none _ none => (call.op host).role
  | .publishTask _ privateKey _ _ | .publishSource _ privateKey _
  | .updateSource _ _ privateKey _ =>
    match privateKey with
    | some _ => none
    | none => some .client

/-- Keys are parsed alike, and the variable of the role, if there is one, is set alike. -/
structure Keys.AgreeOn (keys keys' : Keys) (role : Option Role) : Prop where
  fromKey : keys.fromKey = keys'.fromKey
  getenv : ∀ r, role = some r → keys.getenv r.envVar = keys'.getenv r.envVar

section

variable {keys keys' : Keys} {host : Host}

theorem resolveSigner_congr {signer : Option Signer} {role : Option Role}
    (h : keys.AgreeOn keys' (if signer.isSome then none else role)) :
    resolveSigner keys signer role = resolveSigner keys' signer role := by
  unfold resolveSigner
  rcases signer with _ | text | account | typeName
  · cases role with
    | none => rfl
    | some role =>
      dsimp only
      rw [h.fromKey, h.getenv role rfl]
  · rw [h.fromKey]
  · rfl
  · rfl

theorem Prep.run_withKeys (prep : Prep) (connected : Reply Bool) :
    prep.run (host.withKeys keys) connected = prep.run host connected := by
  induction prep with
  | call prepared => rfl
  | web3 rest ih =>
    unfold run
    rw [ih]
  | checksum text rest ih =>
    unfold run
    exact bind_congr fun address => ih _
  | checkAddress text error rest ih =>
    unfold run
    rw [ih]
    rfl

theorem Write.op_withKeys (call : Write) : call.op (host.withKeys keys) = call.op host := by
  cases call <;> rfl

namespace WriteOp

variable (op : WriteOp) (net : WriteNet)

theorem run_congr {signer : Option Signer}
    (h : keys.AgreeOn keys' (if signer.isSome then none else op.role)) :
    op.run (host.withKeys keys) net signer = op.run (host.withKeys keys') net signer := by
  unfold run executor
  simp only [Prep.run_withKeys]
  rw [show (host.withKeys keys).keys = keys from rfl, show (host.withKeys keys').keys = keys' from rfl,
    resolveSigner_congr h]

/-- An account that is given is used as it is. -/
theorem run_account (account : Account) :
    op.run (host.withKeys keys) net (some (.account account)) =
      op.run (host.withKeys keys') net (some (.account account)) := by
  unfold run executor
  simp only [Prep.run_withKeys]
  rfl

theorem delegate_congr {signer : Option Signer} {role : Role}
    (h : keys.AgreeOn keys' (if signer.isSome then none else some role)) :
    op.delegate (host.withKeys keys) net signer role =
      op.delegate (host.withKeys keys') net signer role := by
  unfold delegate
  rw [show (host.withKeys keys).keys = keys from rfl, show (host.withKeys keys').keys = keys' from rfl,
    resolveSigner_congr h]
  exact bind_congr fun account => op.run_account net account

end WriteOp

namespace Client

theorem submit_congr {info : SourceInfo} {privateKey : Option Signer} {net : SourceNet}
    {op : SourceParams → WriteOp}
    (h : keys.AgreeOn keys' (if privateKey.isSome then none else some .client)) :
    submit (host.withKeys keys) info privateKey net op =
      submit (host.withKeys keys') info privateKey net op := by
  unfold submit
  rw [show (host.withKeys keys).keys = keys from rfl, show (host.withKeys keys').keys = keys' from rfl,
    resolveSigner_congr h]
  exact bind_congr fun account => bind_congr fun params =>
    (op params).run_account net.write account

theorem publishTask_congr {info : TaskInfo} {privateKey : Option Signer} {options : Options}
    {net : PublishNet}
    (h : keys.AgreeOn keys' (if privateKey.isSome then none else some .client)) :
    publishTask keys info privateKey options net = publishTask keys' info privateKey options net := by
  unfold publishTask
  rw [resolveSigner_congr h]
  rfl

end Client

theorem accountMeant_congr {address : Option Address} {privateKey : Option String}
    (h : keys.AgreeOn keys' (if privateKey.isSome then none else some .client)) :
    accountMeant keys address privateKey = accountMeant keys' address privateKey := by
  have hkey : requirePrivateKey keys privateKey = requirePrivateKey keys' privateKey := by
    unfold requirePrivateKey
    cases privateKey with
    | some privateKey => rfl
    | none =>
      have henv : keys.getenv "CLIENT_PRIVATE_KEY" = keys'.getenv "CLIENT_PRIVATE_KEY" :=
        h.getenv .client rfl
      rw [henv]
  unfold accountMeant
  rw [hkey, h.fromKey]

theorem NonceTool.run_congr {tool : NonceTool}
    (h : keys.AgreeOn keys' ((SessionOp.nonces tool).fallback host)) :
    tool.run keys = tool.run keys' := by
  cases tool with
  | getNonceInfo address privateKey net =>
    unfold run OgpuSdk.getNonceInfo
    dsimp only
    rw [accountMeant_congr (by cases privateKey <;> exact h)]
  | resetNonceCache address privateKey connected =>
    unfold run OgpuSdk.resetNonceCache
    dsimp only
    rw [accountMeant_congr (by cases privateKey <;> exact h)]
  | clearAllNonceCaches => rfl

/-- A call does the same with keys that agree on its fallback. -/
theorem SessionOp.run_congr {files : String → String → Option Json} {op : SessionOp}
    (h : keys.AgreeOn keys' (op.fallback host)) :
    op.run (host.withKeys keys) files = op.run (host.withKeys keys') files := by
  cases op with
  | config op => rfl
  | nonces tool => exact NonceTool.run_congr h
  | write call via net signer =>
    have hrun : call.run (host.withKeys keys) via net signer =
        call.run (host.withKeys keys') via net signer := by
      unfold Write.run
      rw [call.op_withKeys, call.op_withKeys]
      cases via with
      | none => exact (call.op host).run_congr net (by cases signer <;> exact h)
      | some role => exact (call.op host).delegate_congr net (by cases signer <;> exact h)
    exact congrArg (· >>= fun _ => pure ()) hrun
  | publishTask info privateKey options net =>
    have hrun : Client.publishTask keys info privateKey options net =
        Client.publishTask keys' info privateKey options net :=
      Client.publishTask_congr (by cases privateKey <;> exact h)
    exact congrArg (· >>= fun _ => pure ()) hrun
  | publishSource info privateKey net =>
    have hrun : Client.publishSource (host.withKeys keys) info privateKey net =
        Client.publishSource (host.withKeys keys') info privateKey net := by
      rw [Client.publishSource_eq, Client.publishSource_eq,
        Client.submit_congr (by cases privateKey <;> exact h)]
    exact congrArg (· >>= fun _ => pure ()) hrun
  | updateSource source info privateKey net =>
    have hrun : Client.updateSource (host.withKeys keys) info privateKey net source =
        Client.updateSource (host.withKeys keys') info privateKey net source :=
      Client.submit_congr (by cases privateKey <;> exact h)
    exact congrArg (· >>= fun _ => pure ()) hrun

/-- A session does the same, call by call, in any two environments that agree on the variables of
the roles its calls fall back to. -/
theorem session_reads_fallbacks {files : String → String → Option Json} {ops : List SessionOp}
    (h : ∀ op ∈ ops, keys.AgreeOn keys' (op.fallback host)) (w : World) :
    (SessionOp.machine (host.withKeys keys) files).run w ops =
        (SessionOp.machine (host.withKeys keys') files).run w ops ∧
      ∀ op ∈ ops, ∀ u, (op.run (host.withKeys keys) files).exec u =
        (op.run (host.withKeys keys') files).exec u := by
  refine ⟨?_, fun op hop u => by rw [SessionOp.run_congr (h op hop)]⟩
  induction ops generalizing w with
  | nil => rfl
  | cons op ops ih =>
    have hafter : op.after (host.withKeys keys) files w = op.after (host.withKeys keys') files w := by
      unfold SessionOp.after
      rw [SessionOp.run_congr (h op List.mem_cons_self)]
    show (SessionOp.machine _ files).run (op.after _ files w) ops =
      (SessionOp.machine _ files).run (op.after _ files w) ops
    rw [hafter]
    exact ih (fun op hop => h op (List.mem_cons_of_mem _ hop)) _

end

/-- An environment in which one variable is set. -/
def Keys.holding (envVar text : String) : Keys :=
  { Keys.trial with getenv := fun name => if name = envVar then some text else none }

/-- Whoever attempts as an agent and claims with a key of their own need not care what the client's
variable holds. -/
theorem session_reads_fallbacks_agent :
    (SessionOp.machine (Host.trial.withKeys (.holding "CLIENT_PRIVATE_KEY" "a")) fun _ _ => none).run
        (.imported ⟨0, 0⟩) [.write (.attempt "0x3" "0x6" 5) (some .agent) .prompt none,
          .write .claim none .prompt (some (.key "key"))] =
      (SessionOp.machine (Host.trial.withKeys (.holding "CLIENT_PRIVATE_KEY" "b")) fun _ _ => none).run
        (.imported ⟨0, 0⟩) [.write (.attempt "0x3" "0x6" 5) (some .agent) .prompt none,
          .write .claim none .prompt (some (.key "key"))] := by
  refine (session_reads_fallbacks (fun op hop => ⟨rfl, fun role hrole => ?_⟩) _).1
  simp only [List.mem_cons, List.not_mem_nil, or_false] at hop
  rcases hop with rfl | rfl
  · cases hrole
    decide
  · cases hrole

end OgpuSdk
