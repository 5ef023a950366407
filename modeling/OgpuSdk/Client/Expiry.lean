import OgpuSdk.Protocol.SendTimes
import OgpuSdk.Protocol.WriteRuns

/-!
# No orphaned publish

`publish_task` looks at the wall clock twice, before the upload and before it
hands over to the executor; the executor never does. So a transaction can only
be sent past the task's expiry by time that passes after the second check: in
the probe for an instance, the count reads, builds and signings, and in the
sends, receipt waits and backoffs of earlier attempts. `clockAt` adds that up,
and a publish keeps within the expiry exactly when the sum stays below it at
every attempt that gets to its send: `noOrphan_iff`.
-/

namespace OgpuSdk

open Prog

/-! ## Loading the Controller -/

/-- The current chain has an instance, or a probe makes one. -/
def ChainState.Connects (s : ChainState) (answer : Except Exc Bool) : Prop :=
  (∃ c url, s.currentChain = some c ∧ s.web3Instances c = some url) ∨
    s.probes = true ∧ answer = .ok true

/-- What it takes to load a contract of the current chain, and its address. -/
structure ContractNet.Loads (net : ContractNet) (abiName : String) (s : ChainState)
    (address : Address) : Prop where
  connects : s.Connects net.connected.answer
  /-- the ABI was loaded before, or is on file -/
  abi : ∃ c, s.currentChain = some c ∧ ((s.loadedAbis c abiName).isSome = true ∨
    ∃ directory, ChainConfig.CHAIN_DIRECTORIES c = some directory ∧
      (net.files directory abiName).isSome = true)
  address : s.singleton abiName = some address
  contract : net.contract = .ok ()

section

variable {connected : Reply Bool} {net : ContractNet} {abiName : String} {w w' : World}

/-- A call has an instance afterwards, and changes nothing else of the configuration. -/
theorem getWeb3_instance {url : Url} (h : (getWeb3 connected).exec w = (.ok url, w')) :
    ∃ c, w'.chain.currentChain = some c ∧ w'.chain.web3Instances c = some url := by
  rw [exec_getWeb3, Prod.mk.injEq] at h
  obtain ⟨hurl, rfl⟩ := h
  rcases Web3Manager.getWeb3Instance_cases w.chain none connected.answer with
    ⟨c, url', hc, hi, he⟩ | ⟨c, url', hc, -, he⟩ | ⟨e, he⟩
  · rw [he] at hurl ⊢
    cases hurl
    exact ⟨c, hc, hi⟩
  · rw [he] at hurl ⊢
    cases hurl
    exact ⟨c, hc, by simp [ChainState.withInstance]⟩
  · rw [he] at hurl
    cases hurl

/-- A cached instance is there at once. -/
theorem exec_getWeb3_cached {c : ChainId} {url : Url} (hc : w.chain.currentChain = some c)
    (hi : w.chain.web3Instances c = some url) :
    (getWeb3 connected).exec w = (.ok url, w) := by
  rw [exec_getWeb3]
  unfold Web3Manager.getWeb3Instance connecting
  rw [exec_bind, ChainConfig.exec_target]
  simp [ChainState.named, ChainState.probes, hc, hi, exec_bind]

theorem getWeb3_connects :
    (∃ url w', (getWeb3 connected).exec w = (.ok url, w')) ↔
      w.chain.Connects connected.answer := by
  unfold ChainState.Connects ChainState.probes
  rw [exec_getWeb3]
  unfold Web3Manager.getWeb3Instance
  rw [exec_bind, ChainConfig.exec_target]
  cases hc : w.chain.currentChain with
  | none => simp [ChainState.named, hc]
  | some c =>
    cases hi : w.chain.web3Instances c with
    | some url => simp [ChainState.named, hc, hi, exec_bind]
    | none =>
      cases hu : w.chain.rpcUrls c with
      | none => simp [ChainState.named, hc, hi, hu, exec_bind, Web3Manager.getRpcUrlForChain]
      | some url =>
        by_cases hempty : url = ""
        · simp [ChainState.named, hc, hi, hu, hempty, exec_bind, Web3Manager.getRpcUrlForChain]
        · rcases connected.answer with exc | _ | _ <;>
            simp [ChainState.named, hc, hi, hu, hempty, exec_bind, exec_map, Except.map,
              Web3Manager.getRpcUrlForChain]

theorem getWeb3_keeps_abis {url : Url} (h : (getWeb3 connected).exec w = (.ok url, w')) :
    w'.chain.currentChain = w.chain.currentChain ∧ w'.chain.loadedAbis = w.chain.loadedAbis := by
  rw [exec_getWeb3, Prod.mk.injEq] at h
  obtain ⟨-, rfl⟩ := h
  rcases Web3Manager.getWeb3Instance_cases w.chain none connected.answer with
    ⟨_, _, -, -, he⟩ | ⟨_, _, -, -, he⟩ | ⟨_, he⟩ <;>
    (rw [he]; exact ⟨rfl, rfl⟩)

theorem loadAbi_returns :
    (∃ abi w', (SDK.chain (ChainConfig.loadAbi net.files abiName)).exec w = (.ok abi, w')) ↔
      ∃ c, w.chain.currentChain = some c ∧ ((w.chain.loadedAbis c abiName).isSome = true ∨
        ∃ directory, ChainConfig.CHAIN_DIRECTORIES c = some directory ∧
          (net.files directory abiName).isSome = true) := by
  unfold SDK.chain ChainConfig.loadAbi
  simp only [exec_zoom]
  rw [exec_bind, ChainConfig.exec_getCurrentChain]
  cases hc : w.chain.currentChain with
  | none => simp
  | some c =>
    cases hl : w.chain.loadedAbis c abiName with
    | some abi => simp [exec_bind, hl]
    | none =>
      cases hd : ChainConfig.CHAIN_DIRECTORIES c with
      | none => simp [exec_bind, hl, hd]
      | some directory =>
        cases hf : net.files directory abiName <;>
          simp [exec_bind, hl, hd, hf, exec_map, Except.map]

theorem contractAddress_returns {address : Address} :
    (∃ w', (contractAddress abiName none).exec w = (.ok address, w')) ↔
      w.chain.singleton abiName = some address := by
  unfold contractAddress ChainState.singleton
  cases hk : SINGLETON_ABI_TO_KEY.lookup abiName with
  | none => cases w.chain.currentChain <;> simp
  | some key =>
    dsimp only
    unfold SDK.chain ChainConfig.getContractAddress
    simp only [exec_zoom]
    rw [exec_bind, ChainConfig.exec_getCurrentChain]
    cases hc : w.chain.currentChain with
    | none => simp
    | some c =>
      cases hcs : ChainConfig.CHAIN_CONTRACTS c with
      | none => simp [hcs]
      | some contracts => cases ha : contracts.lookup key <;> simp [hcs, ha]

/-- The clock reads `k`, and the current chain has this instance. -/
def Holding (k : Clock) (web3 : Url) (w : World) : Prop :=
  w.clock = k ∧ ∃ c, w.chain.currentChain = some c ∧ w.chain.web3Instances c = some web3

theorem holding_loadAbi {k : Clock} {web3 : Url} :
    Preserves (Holding k web3) (SDK.chain (ChainConfig.loadAbi net.files abiName)) := by
  intro w hw
  change Holding k web3
    { w with chain := ((ChainConfig.loadAbi net.files abiName).exec w.chain).2 }
  rcases ChainConfig.loadAbi_cases w.chain net.files abiName with
    ⟨_, _, _, _, he⟩ | ⟨_, _, _, _, _, _, he⟩ | ⟨_, he⟩ <;>
    (rw [he]; exact hw)

theorem holding_contractAddress {k : Clock} {web3 : Url} {address : Option Address} :
    Preserves (Holding k web3) (contractAddress abiName address) := by
  unfold contractAddress
  split
  · exact .pure _
  · intro w hw
    change Holding k web3 { w with chain := ((ChainConfig.getContractAddress _).exec w.chain).2 }
    rcases ChainConfig.getContractAddress_cases w.chain _ with ⟨_, _, _, _, _, _, he⟩ | ⟨_, he⟩ <;>
      (rw [he]; exact hw)
  · exact .raise _

/-- A load takes the probe, if one is made, and leaves an instance behind. -/
theorem loadContract_after {address : Option Address} {contract : Contract}
    (h : (loadContract net abiName address).exec w = (.ok contract, w')) :
    w'.clock = (connecting net.connected w).clock ∧
      (getWeb3 connected).exec w' = (.ok contract.web3, w') := by
  unfold loadContract at h
  obtain ⟨web3, w₁, hweb3, h⟩ := exec_bind_eq_ok h
  have hclock : w₁.clock = (connecting net.connected w).clock := by
    rw [exec_getWeb3, Prod.mk.injEq] at hweb3
    rw [← hweb3.2]
  -- Nothing after the instance is got passes time or touches it.
  have hrest : Preserves (Holding w₁.clock web3) (do
      let abi ← SDK.chain (ChainConfig.loadAbi net.files abiName)
      let address ← contractAddress abiName address
      SDK.lift net.contract
      pure (⟨web3, abi, address⟩ : Contract)) :=
    .bind holding_loadAbi fun _ => .bind holding_contractAddress fun _ =>
      .bind (.of_unchanged fun u => SDK.exec_lift_snd u _) fun _ => .pure _
  obtain ⟨hkept, c, hc, hi⟩ := hrest w₁ ⟨rfl, getWeb3_instance hweb3⟩
  rw [h] at hkept hc hi
  obtain ⟨_, _, -, h⟩ := exec_bind_eq_ok h
  obtain ⟨_, _, -, h⟩ := exec_bind_eq_ok h
  obtain ⟨_, _, -, h⟩ := exec_bind_eq_ok h
  cases h
  exact ⟨hkept.trans hclock, exec_getWeb3_cached hc hi⟩

theorem loadContract_returns {address : Address} :
    (∃ contract w', (loadContract net abiName none).exec w = (.ok contract, w') ∧
      contract.address = address) ↔ net.Loads abiName w.chain address := by
  constructor
  · rintro ⟨contract, w', h, rfl⟩
    have haddress := loadContract_singleton h
    unfold loadContract at h
    obtain ⟨web3, w₁, hweb3, h⟩ := exec_bind_eq_ok h
    obtain ⟨abi, w₂, habi, h⟩ := exec_bind_eq_ok h
    obtain ⟨address, w₃, -, h⟩ := exec_bind_eq_ok h
    obtain ⟨_, w₄, hcontract, -⟩ := exec_bind_eq_ok h
    obtain ⟨hcurrent, hloaded⟩ := getWeb3_keeps_abis hweb3
    refine ⟨getWeb3_connects.mp ⟨web3, w₁, hweb3⟩, ?_, haddress, ?_⟩
    · have := loadAbi_returns.mp ⟨abi, w₂, habi⟩
      rwa [hcurrent, hloaded] at this
    · cases hn : net.contract with
      | ok _ => rfl
      | error exc =>
        rw [hn] at hcontract
        cases hcontract
  · rintro ⟨hconnects, habi, haddress, hcontract⟩
    obtain ⟨web3, w₁, hweb3⟩ := getWeb3_connects.mpr hconnects
    obtain ⟨hcurrent, hloaded⟩ := getWeb3_keeps_abis hweb3
    rw [← hcurrent, ← hloaded] at habi
    obtain ⟨abi, w₂, habi⟩ := loadAbi_returns.mpr habi
    have h₂ : w₂.chain.currentChain = w₁.chain.currentChain := by
      have := configured_loadAbi net.files abiName w₁ rfl
      rw [habi] at this
      exact congrArg Settings.current this
    have hsingleton : w₂.chain.singleton abiName = some address := by
      rw [← haddress]
      unfold ChainState.singleton
      rw [h₂, hcurrent]
    obtain ⟨w₃, haddress⟩ := contractAddress_returns.mpr hsingleton
    refine ⟨⟨web3, abi, address⟩, w₃, ?_, rfl⟩
    unfold loadContract
    rw [exec_bind_ok hweb3, exec_bind_ok habi, exec_bind_ok haddress, hcontract]
    rfl

end

end OgpuSdk

namespace OgpuSdk.Client

open Prog

variable {keys : Keys} {info : TaskInfo} {privateKey : Option Signer} {options : Options}
  {net : PublishNet} {w : World}

def taskExpired (info : TaskInfo) : Raised :=
  (OGPUError.taskExpiredError "(not published)" info.expiryTime).raised

/-- What comes before the second check: the signer, the first check and the upload. -/
def upload (keys : Keys) (info : TaskInfo) (privateKey : Option Signer) (options : Options)
    (net : PublishNet) : SDK (ℚ × Account × TaskParams) := do
  let start ← SDK.monotonic
  let account ← resolveSigner keys privateKey (some .client)
  checkNotExpired info.expiryTime "start"
  let params ← buildTaskParams info options.ipfsTimeout options.ipfsRetries options.ipfsBackoff
    (options.totalTimeout.map (start + ·)) net.posts
  pure (start, account, params)

/-- A transaction is only sent before the expiry. -/
def InTime (expiryTime : ℤ) (c : Clock) (op : Op) : Prop :=
  op.send?.isSome = true → c.second < expiryTime

/-- A publish from `w` never hands a transaction over at or past the task's expiry, and when a
check finds the expiry passed it raises `TaskExpiredError` and sends nothing. -/
structure NoOrphan (keys : Keys) (info : TaskInfo) (privateKey : Option Signer)
    (options : Options) (net : PublishNet) (w : World) : Prop where
  in_time : ∀ e ∈ ((publishTask keys info privateKey options net).exec w.blank).2.events,
    InTime info.expiryTime e.start e.op
  late_start : ∀ account w₁,
    (resolveSigner keys privateKey (some .client)).exec w.blank = (.ok account, w₁) →
    info.expiryTime ≤ w₁.clock.second →
    ((publishTask keys info privateKey options net).exec w.blank).1 = .error (taskExpired info) ∧
      ((publishTask keys info privateKey options net).exec w.blank).2.sends = []
  late_upload : ∀ x w₁, (upload keys info privateKey options net).exec w.blank = (.ok x, w₁) →
    info.expiryTime ≤ w₁.clock.second →
    ((publishTask keys info privateKey options net).exec w.blank).1 = .error (taskExpired info) ∧
      ((publishTask keys info privateKey options net).exec w.blank).2.sends = []

/-- The executor of a publish, from what came out of the upload and the Controller's address. -/
def publishExecutor (options : Options) (x : ℚ × Account × TaskParams) (address : Address) :
    TxExecutor :=
  .init ⟨address, "publishTask", [x.2.2.toTuple]⟩ x.2.1 0 (some "Controller.publishTask") 3
    options.receiptTimeout (options.totalTimeout.map (x.1 + ·)) options.totalTimeout

/-- Where the second check lets the call through and the Controller loads, every attempt that gets
to its send gets there before the expiry: the clock read at the check, the probe, the attempts
before, the count read, the build and the signing add up to less. -/
def SendsInTime (keys : Keys) (info : TaskInfo) (privateKey : Option Signer) (options : Options)
    (net : PublishNet) (w : World) : Prop :=
  ∀ x w₁ address k, (upload keys info privateKey options net).exec w.blank = (.ok x, w₁) →
    w₁.clock.second < info.expiryTime →
    net.controller.load.Loads "ControllerAbi" w₁.chain address →
    let exe := publishExecutor options x address
    let start := (connecting net.controller.load.connected w₁).clock
    let made := exe.clockAt net.controller.attempts start k
    exe.Tries net.controller.attempts start k → exe.GetsToSend (net.controller.attempts k) made →
      (TxExecutor.sendClock (net.controller.attempts k) made).second < info.expiryTime

theorem exec_checkNotExpired (stage : String) (w : World) :
    (checkNotExpired info.expiryTime stage).exec w =
      if info.expiryTime ≤ w.clock.second then (.error (taskExpired info), w) else (.ok (), w) := by
  unfold checkNotExpired
  rw [exec_bind_ok (SDK.exec_second w)]
  split <;> rfl

theorem prepare_eq :
    prepare keys info privateKey options net =
      upload keys info privateKey options net >>= fun x =>
        checkNotExpired info.expiryTime "pre-transaction (after IPFS pin)" >>= fun _ =>
          Controller.executor keys net.controller.load x.2.2 (some (.account x.2.1))
            options.receiptTimeout (options.totalTimeout.map (x.1 + ·)) options.totalTimeout := by
  unfold prepare upload
  simp only [bind_assoc, pure_bind]

/-! ## When a check finds the expiry passed -/

theorem exec_checkNotExpired_late {stage : String} (hlate : info.expiryTime ≤ w.clock.second) :
    (checkNotExpired info.expiryTime stage).exec w = (.error (taskExpired info), w) := by
  rw [exec_checkNotExpired, if_pos hlate]

theorem prepare_late_start {account : Account} {w₁ : World}
    (h : (resolveSigner keys privateKey (some .client)).exec w = (.ok account, w₁))
    (hlate : info.expiryTime ≤ w₁.clock.second) :
    ((prepare keys info privateKey options net).exec w).1 = .error (taskExpired info) := by
  unfold prepare
  rw [exec_bind_ok (SDK.exec_monotonic w)]
  dsimp only
  rw [exec_bind_ok h, exec_bind_error (exec_checkNotExpired_late hlate)]

theorem prepare_late_upload {x : ℚ × Account × TaskParams} {w₁ : World}
    (h : (upload keys info privateKey options net).exec w = (.ok x, w₁))
    (hlate : info.expiryTime ≤ w₁.clock.second) :
    ((prepare keys info privateKey options net).exec w).1 = .error (taskExpired info) := by
  rw [prepare_eq, exec_bind_ok h, exec_bind_error (exec_checkNotExpired_late hlate)]

/-- A publish that is not prepared raises what kept it from that, and sends nothing. -/
theorem publishTask_unprepared {e : Raised}
    (h : ((prepare keys info privateKey options net).exec w.blank).1 = .error e) :
    ((publishTask keys info privateKey options net).exec w.blank).1 = .error e ∧
      ((publishTask keys info privateKey options net).exec w.blank).2.sends = [] := by
  have hpath : World.Path (fun _ op => op.send? = none) w.blank
      ((prepare keys info privateKey options net).exec w.blank).2 :=
    prepare_keeps (fun _ _ _ => rfl) (fun _ _ => rfl)
  rcases hp : (prepare keys info privateKey options net).exec w.blank with ⟨a, w'⟩
  rw [hp] at h hpath
  subst h
  rw [publishTask_eq, exec_bind_error hp]
  exact ⟨rfl, hpath.sends_eq⟩

/-! ## When the executor runs -/

/-- What is prepared is the executor of the upload's result, once the check is passed and the
Controller loaded. -/
theorem prepare_eq_ok {exe : TxExecutor} {w₂ : World} :
    (prepare keys info privateKey options net).exec w = (.ok exe, w₂) ↔
      ∃ x w₁ contract, (upload keys info privateKey options net).exec w = (.ok x, w₁) ∧
        w₁.clock.second < info.expiryTime ∧
        (loadContract net.controller.load "ControllerAbi" none).exec w₁ = (.ok contract, w₂) ∧
        exe = publishExecutor options x contract.address := by
  rw [prepare_eq]
  constructor
  · intro h
    obtain ⟨x, w₁, hx, h⟩ := exec_bind_eq_ok h
    obtain ⟨_, u, hcheck, h⟩ := exec_bind_eq_ok h
    rw [exec_checkNotExpired] at hcheck
    split at hcheck
    · cases hcheck
    · next hearly =>
      cases hcheck
      obtain ⟨account, u', hsigner, h⟩ := exec_bind_eq_ok h
      cases hsigner
      obtain ⟨contract, u'', hload, h⟩ := exec_bind_eq_ok h
      cases h
      exact ⟨x, w₁, contract, hx, not_le.mp hearly, hload, rfl⟩
  · rintro ⟨x, w₁, contract, hx, hearly, hload, rfl⟩
    have hcheck : (checkNotExpired info.expiryTime "pre-transaction (after IPFS pin)").exec w₁ =
        (.ok (), w₁) := by
      rw [exec_checkNotExpired, if_neg (not_le.mpr hearly)]
    rw [exec_bind_ok hx, exec_bind_ok hcheck]
    unfold Controller.executor
    have hsigner : (resolveSigner keys (some (.account x.2.1)) (some .client)).exec w₁ =
        (.ok x.2.1, w₁) := rfl
    rw [exec_bind_ok hsigner, exec_bind_ok hload]
    rfl

/-- The attempts that get to their send, by the clock. -/
theorem sendsInTime_iff :
    SendsInTime keys info privateKey options net w ↔
      ∀ exe k s tx, Publishing keys info privateKey options net w.blank exe k s →
        exe.sending (net.controller.attempts k) s = some tx →
        (TxExecutor.sendClock (net.controller.attempts k) s.clock).second < info.expiryTime := by
  constructor
  · rintro h exe k s tx ⟨w₂, hp, hm⟩ hs
    obtain ⟨x, w₁, contract, hx, hearly, hload, rfl⟩ := prepare_eq_ok.mp hp
    obtain ⟨hclock, hweb3⟩ := loadContract_after hload
    obtain ⟨htries, hat⟩ := hm.clockAt hweb3
    have hgets := TxExecutor.getsToSend_iff.mpr ⟨tx, hs⟩
    rw [hclock] at htries hat
    rw [hat] at hgets ⊢
    exact h x w₁ contract.address k hx hearly (loadContract_returns.mp ⟨contract, w₂, hload, rfl⟩)
      htries hgets
  · intro h x w₁ address k hx hearly hloads exe start made htries hgets
    obtain ⟨contract, w₂, hload, rfl⟩ := loadContract_returns.mpr hloads
    obtain ⟨hclock, hweb3⟩ := loadContract_after hload
    have hp := prepare_eq_ok.mpr ⟨x, w₁, contract, hx, hearly, hload, rfl⟩
    rw [show start = w₂.clock from hclock.symm] at htries
    obtain ⟨s, hm⟩ := htries.made hweb3
    have hat : s.clock = made := by
      rw [(hm.clockAt hweb3).2, hclock]
    rw [← hat] at hgets ⊢
    obtain ⟨tx, hs⟩ := TxExecutor.getsToSend_iff.mp hgets
    exact h _ k s tx ⟨w₂, hp, hm⟩ hs

theorem publishTask_inTime (h : SendsInTime keys info privateKey options net w) :
    World.Path (fun u => InTime info.expiryTime u.clock) w.blank
      ((publishTask keys info privateKey options net).exec w.blank).2 := by
  refine publishTask_path (w := w.blank) (fun _ _ _ hs => by cases hs) ?_
    (fun _ _ _ hs => by cases hs) ?_
  · intro u op hq hs
    cases op with
    | send => cases hq
    | _ => cases hs
  · intro exe k s u tx hm hs hu _
    rw [hu]
    exact sendsInTime_iff.mp h exe k s tx hm hs

/-- A publish keeps within the expiry exactly when the times of what comes before each of its sends
add up to less: the checks hold back everything before the executor, and nothing after. -/
theorem noOrphan_iff :
    NoOrphan keys info privateKey options net w ↔
      SendsInTime keys info privateKey options net w := by
  constructor
  · intro h
    refine sendsInTime_iff.mpr fun exe k s tx hm hs => ?_
    have hsent := h.in_time _ (hm.mem_events hs)
    exact hsent rfl
  · intro h
    refine ⟨?_, ?_, ?_⟩
    · have hpath := publishTask_inTime h
      exact hpath.allowed (by simp [World.blank])
    · intro account w₁ ha hlate
      exact publishTask_unprepared (prepare_late_start ha hlate)
    · intro x w₁ hx hlate
      exact publishTask_unprepared (prepare_late_upload hx hlate)

/-- The task expires in three seconds; the first send is refused, and the second is made after the
backoff. -/
theorem not_noOrphan_underpriced :
    ¬ NoOrphan .trial (.trial 3) (some (.key "key")) .default .underpriced
      (.imported ⟨0, 0⟩) := by
  intro h
  have hlate := h.in_time
  unfold InTime at hlate
  revert hlate
  decide +kernel

end OgpuSdk.Client
