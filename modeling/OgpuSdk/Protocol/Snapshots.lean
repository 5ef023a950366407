import OgpuSdk.Protocol.Reads

/-!
# Snapshots

`snapshot()` of a class reads one field after the other, each in a call of its
own, while the chain goes on. What such a picture shows is no one state of the
chain; `Saw` says what it is: every field is what the chain answered at some
moment of the call, and the moments are in the order of the reads.
-/

namespace OgpuSdk

open Prog

/-! ## Reads that are seen -/

/-- What the chain answers to a call at a time, as the SDK is configured. -/
def ReadNet.answer (net : ReadNet) (current : ChainState) (t : ℚ) (call : ViewCall) :
    Option (Except Exc Arg) :=
  (call.resolve current).map (net.state t)

/-- Between two worlds, these answers were given one after the other. -/
structure Saw (net : ReadNet) (w w' : World) (seen : List (ViewCall × Arg)) : Prop where
  selected : w'.chain.currentChain = w.chain.currentChain
  seen : Seen (net.answer w.chain) w.clock.mono w'.clock.mono
    (seen.map fun x => (x.1, some (.ok x.2)))

/-- A read that returns has seen what it returns. -/
def Sees {α : Type} (net : ReadNet) (x : SDK α) (seen : α → List (ViewCall × Arg)) : Prop :=
  ∀ w a w', x.exec w = (.ok a, w') → Saw net w w' (seen a)

section

variable {net : ReadNet} {α β : Type} {w w' w'' : World} {call : ViewCall}

theorem ReadNet.answer_congr {s s' : ChainState} (h : s.currentChain = s'.currentChain) :
    net.answer s = net.answer s' := by
  funext t call
  unfold ReadNet.answer ViewCall.resolve
  rw [ChainState.singleton_congr h]

theorem Saw.trans {seen seen' : List (ViewCall × Arg)} (h : Saw net w w' seen)
    (h' : Saw net w' w'' seen') : Saw net w w'' (seen ++ seen') where
  selected := h'.selected.trans h.selected
  seen := by
    have hrest := h'.seen
    rw [ReadNet.answer_congr h.selected] at hrest
    rw [List.map_append]
    exact h.seen.append hrest

theorem sees_view : Sees net (view net call) fun raw => [(call, raw)] := by
  intro w raw w' h
  cases hload : (loadContract net.load call.abiName call.address).exec w with
  | mk answer w₁ =>
    cases answer with
    | error e =>
      unfold view at h
      rw [exec_bind_error hload] at h
      cases h
    | ok contract =>
      have hselects : w₁.chain.settings = w.chain.settings := by
        have := configured_loadContract net.load call.abiName call.address w rfl
        rwa [hload] at this
      have htarget : call.resolve w.chain =
          some ⟨contract.address, call.functionName, call.args⟩ := by
        unfold ViewCall.resolve
        rw [loadContract_singleton hload]
        rfl
      obtain ⟨u, hview, hchain, hle⟩ := exec_view hload
      rw [h] at hview
      cases hstate : net.state u.clock.mono ⟨contract.address, call.functionName, call.args⟩ with
      | error e =>
        rw [hstate] at hview
        cases hview
      | ok raw' =>
        rw [hstate] at hview
        cases hview
        refine ⟨by rw [hchain]; exact congrArg Settings.current hselects, .one hle (le_refl _) ?_⟩
        unfold ReadNet.answer
        rw [htarget, Option.map_some, hstate]

/-- A read whose answer is decoded has seen what decodes to its value. -/
theorem Sees.decode {ofRaw : Arg → Except Exc α} {arg : α → Arg}
    (hdecode : ∀ raw a, ofRaw raw = .ok a → raw = arg a) :
    Sees net (do let raw ← view net call; SDK.lift (ofRaw raw)) fun a => [(call, arg a)] := by
  intro w a w' h
  obtain ⟨raw, w₁, hview, h⟩ := exec_bind_eq_ok h
  cases hraw : ofRaw raw with
  | error e =>
    rw [hraw] at h
    cases h
  | ok a' =>
    rw [hraw] at h
    cases h
    obtain rfl := hdecode raw a hraw
    exact sees_view w _ w' hview

/-- The first read of several. -/
theorem Sees.peel {x : SDK α} {f : α → SDK β} {seen : α → List (ViewCall × Arg)} {b : β}
    (hx : Sees net x seen) (h : (x >>= f).exec w = (.ok b, w')) :
    ∃ a w₁, Saw net w w₁ (seen a) ∧ (f a).exec w₁ = (.ok b, w') := by
  obtain ⟨a, w₁, hexec, h⟩ := exec_bind_eq_ok h
  exact ⟨a, w₁, hx w a w₁ hexec, h⟩

theorem Arg.asStr_eq_ok {functionName s : String} {raw : Arg} (h : raw.asStr functionName = .ok s) :
    raw = .str s := by
  cases raw <;> cases h
  rfl

theorem Arg.asInt_eq_ok {functionName : String} {raw : Arg} {n : ℤ}
    (h : raw.asInt functionName = .ok n) : raw = .int n := by
  cases raw <;> cases h
  rfl

theorem Arg.asBool_eq_ok {functionName : String} {raw : Arg} {b : Bool}
    (h : raw.asBool functionName = .ok b) : raw = .bool b := by
  unfold asBool at h
  split at h <;> cases h <;> rfl

@[simp] theorem Arg.asBool_bool (functionName : String) (b : Bool) :
    (Arg.bool b).asBool functionName = .ok b := by
  cases b <;> rfl

theorem sees_viewStr : Sees net (viewStr net call) fun s => [(call, .str s)] :=
  .decode fun _ _ => Arg.asStr_eq_ok

theorem sees_viewInt : Sees net (viewInt net call) fun n => [(call, .int n)] :=
  .decode fun _ _ => Arg.asInt_eq_ok

theorem sees_viewBool : Sees net (viewBool net call) fun b => [(call, .bool b)] :=
  .decode fun _ _ => Arg.asBool_eq_ok

end

/-! ## The snapshots -/

structure SourceSnapshot where
  address : Address
  client : String
  status : SourceStatus
  params : SourceParams
  taskCount : ℤ
  registrantCount : ℤ

structure TaskSnapshot where
  address : Address
  source : String
  status : TaskStatus
  params : TaskParams
  payment : ℤ
  expiryTime : ℤ
  deliveryMethod : DeliveryMethod
  attemptCount : ℤ
  winningProvider : Option String

structure ResponseSnapshot where
  address : Address
  task : String
  params : ResponseParams
  data : String
  status : ResponseStatus
  timestamp : ℤ
  confirmed : Bool

structure ProviderSnapshot where
  address : String
  master : String
  baseData : String
  liveData : String
  isProvider : Bool
  defaultAgentDisabled : Bool
  balance : ℤ
  lockup : ℤ
  unbonding : ℤ
  unbondingTimestamp : ℤ
  totalEarnings : ℤ
  frozenPayment : ℤ
  sanction : ℤ
  isEligible : Bool
  isWhitelisted : Bool

structure MasterSnapshot where
  address : String
  provider : String
  isMaster : Bool
  balance : ℤ
  lockup : ℤ
  unbonding : ℤ
  totalEarnings : ℤ
  frozenPayment : ℤ
  isEligible : Bool
  isWhitelisted : Bool

section

variable (net : ReadNet)

def Source.snapshot (self : Source) : SDK SourceSnapshot := do
  pure {
    address := self.address
    client := ← self.getClient net
    status := ← self.readStatus net
    params := ← self.getParams net
    taskCount := ← self.getTaskCount net
    registrantCount := ← self.getRegistrantCount net }

def Task.snapshot (self : Task) : SDK TaskSnapshot := do
  pure {
    address := self.address
    source := ← viewStr net (self.call "getSource")
    status := ← self.readStatus net
    params := ← self.getParams net
    payment := ← self.getPayment net
    expiryTime := ← self.getExpiryTime net
    deliveryMethod := ← self.getDeliveryMethod net
    attemptCount := ← self.getAttemptCount net
    winningProvider := ← self.getWinningProvider net }

def Response.snapshot (self : Response) : SDK ResponseSnapshot := do
  let params ← self.getParams net
  pure {
    address := self.address
    task := params.task
    params := params
    data := params.data
    status := ← self.readStatus net
    timestamp := ← self.getTimestamp net
    confirmed := ← self.isConfirmed net }

def Provider.snapshot {host : Host} (self : Provider host) : SDK ProviderSnapshot := do
  pure {
    address := self.address
    master := ← Terminal.getMasterOf net self.address
    baseData := ← Terminal.getBaseDataOf net self.address
    liveData := ← Terminal.getLiveDataOf net self.address
    isProvider := ← Terminal.isProvider net self.address
    defaultAgentDisabled := ← Terminal.isDefaultAgentDisabled net self.address
    balance := ← Vault.getBalanceOf net self.address
    lockup := ← Vault.getLockupOf net self.address
    unbonding := ← Vault.getUnbondingOf net self.address
    unbondingTimestamp := ← Vault.getUnbondingTimestamp net self.address
    totalEarnings := ← Vault.getTotalEarningsOf net self.address
    frozenPayment := ← Vault.getFrozenPayment net self.address
    sanction := ← Vault.getSanctionOf net self.address
    isEligible := ← Vault.isEligible net self.address
    isWhitelisted := ← Vault.isWhitelisted net self.address }

def Master.snapshot {host : Host} (self : Master host) : SDK MasterSnapshot := do
  pure {
    address := self.address
    provider := ← Terminal.getProviderOf net self.address
    isMaster := ← Terminal.isMaster net self.address
    balance := ← Vault.getBalanceOf net self.address
    lockup := ← Vault.getLockupOf net self.address
    unbonding := ← Vault.getUnbondingOf net self.address
    totalEarnings := ← Vault.getTotalEarningsOf net self.address
    frozenPayment := ← Vault.getFrozenPayment net self.address
    isEligible := ← Vault.isEligible net self.address
    isWhitelisted := ← Vault.isWhitelisted net self.address }

end

/-! ## What the snapshots show -/

/-- What a snapshot shows of its source. -/
structure SourceSnapshot.Pictures (snap : SourceSnapshot) (source : Source) (net : ReadNet)
    (w w' : World) : Prop where
  address : snap.address = source.address
  saw : Saw net w w' [
    (source.call "getClient", .str snap.client),
    (source.call "getStatus", .int snap.status.value),
    (source.call "getSourceParams", snap.params.toTuple),
    (source.call "getTaskCount", .int snap.taskCount),
    (source.call "getRegistrantCount", .int snap.registrantCount)]

/-- No winning provider is the zero address. -/
structure TaskSnapshot.Pictures (snap : TaskSnapshot) (task : Task) (net : ReadNet)
    (w w' : World) : Prop where
  address : snap.address = task.address
  winner : snap.winningProvider ≠ some ZERO_ADDRESS_TEXT
  saw : Saw net w w' [
    (task.call "getSource", .str snap.source),
    (task.call "getStatus", .int snap.status.value),
    (task.call "taskParams", snap.params.toTuple),
    (task.call "getPayment", .int snap.payment),
    (task.call "getExpiryTime", .int snap.expiryTime),
    (task.call "getDeliveryMethod", .int snap.deliveryMethod.value),
    (task.call "getAttemptCount", .int snap.attemptCount),
    (task.call "winningProvider", .str (snap.winningProvider.getD ZERO_ADDRESS_TEXT))]

/-- The parameters are read once, and the fields that repeat them agree with them. -/
structure ResponseSnapshot.Pictures (snap : ResponseSnapshot) (response : Response) (net : ReadNet)
    (w w' : World) : Prop where
  address : snap.address = response.address
  task : snap.task = snap.params.task
  data : snap.data = snap.params.data
  saw : Saw net w w' [
    (response.call "getResponseParams", snap.params.raw),
    (response.call "getStatus", .int snap.status.value),
    (response.call "responseTimestamp", .int snap.timestamp),
    (response.call "confirmedFinal", .bool snap.confirmed)]

/-- The Terminal is read first, then the Vault, both of the chain selected at the start. -/
structure ProviderSnapshot.Pictures {host : Host} (snap : ProviderSnapshot) (provider : Provider host)
    (net : ReadNet) (w w' : World) : Prop where
  address : snap.address = provider.address
  saw : Saw net w w' [
    (Terminal.terminal "masterOf" provider.address, .str snap.master),
    (Terminal.terminal "baseDataOf" provider.address, .str snap.baseData),
    (Terminal.terminal "liveDataOf" provider.address, .str snap.liveData),
    (Terminal.terminal "isProvider" provider.address, .bool snap.isProvider),
    (Terminal.terminal "defaultAgentDisabled" provider.address, .bool snap.defaultAgentDisabled),
    (Vault.vault "balanceOf" provider.address, .int snap.balance),
    (Vault.vault "lockupOf" provider.address, .int snap.lockup),
    (Vault.vault "unbondingOf" provider.address, .int snap.unbonding),
    (Vault.vault "unbondingTimestamp" provider.address, .int snap.unbondingTimestamp),
    (Vault.vault "totalEarningsOf" provider.address, .int snap.totalEarnings),
    (Vault.vault "frozenPayment" provider.address, .int snap.frozenPayment),
    (Vault.vault "sanctionOf" provider.address, .int snap.sanction),
    (Vault.vault "isEligible" provider.address, .bool snap.isEligible),
    (Vault.vault "isWhitelisted" provider.address, .bool snap.isWhitelisted)]

structure MasterSnapshot.Pictures {host : Host} (snap : MasterSnapshot) (master : Master host)
    (net : ReadNet) (w w' : World) : Prop where
  address : snap.address = master.address
  saw : Saw net w w' [
    (Terminal.terminal "providerOf" master.address, .str snap.provider),
    (Terminal.terminal "isMaster" master.address, .bool snap.isMaster),
    (Vault.vault "balanceOf" master.address, .int snap.balance),
    (Vault.vault "lockupOf" master.address, .int snap.lockup),
    (Vault.vault "unbondingOf" master.address, .int snap.unbonding),
    (Vault.vault "totalEarningsOf" master.address, .int snap.totalEarnings),
    (Vault.vault "frozenPayment" master.address, .int snap.frozenPayment),
    (Vault.vault "isEligible" master.address, .bool snap.isEligible),
    (Vault.vault "isWhitelisted" master.address, .bool snap.isWhitelisted)]

section

variable {net : ReadNet} {host : Host} {α : Type} {w w' : World} {call : ViewCall}

/-- An enum read has seen the value of its member. -/
theorem sees_viewEnum {ofInt : ℤ → Except Exc α} {value : α → ℤ}
    (hvalue : ∀ code a, ofInt code = .ok a → code = value a) :
    Sees net (viewEnum net call ofInt) fun a => [(call, .int (value a))] := by
  have hdecode : ∀ (raw : Arg) (a : α), (raw.asInt call.functionName >>= ofInt) = .ok a →
      raw = .int (value a) := by
    intro raw a h
    cases hraw : raw.asInt call.functionName with
    | error e =>
      rw [hraw] at h
      cases h
    | ok code =>
      rw [hraw] at h
      rw [Arg.asInt_eq_ok hraw, hvalue code a h]
  exact .decode hdecode

theorem Source.sees_readStatus (self : Source) : Sees net (self.readStatus net) fun status =>
    [(self.call "getStatus", .int status.value)] :=
  sees_viewEnum fun _ _ => value_of_enumOfInt

theorem Task.sees_readStatus (self : Task) : Sees net (self.readStatus net) fun status =>
    [(self.call "getStatus", .int status.value)] :=
  sees_viewEnum fun _ _ => value_of_enumOfInt

theorem Response.sees_readStatus (self : Response) : Sees net (self.readStatus net) fun status =>
    [(self.call "getStatus", .int status.value)] :=
  sees_viewEnum fun _ _ => value_of_enumOfInt

theorem Task.sees_getDeliveryMethod (self : Task) :
    Sees net (self.getDeliveryMethod net) fun method =>
      [(self.call "getDeliveryMethod", .int method.value)] :=
  sees_viewEnum fun _ _ => value_of_enumOfInt

theorem SourceParams.toTuple_of_ofRaw {raw : Arg} {params : SourceParams}
    (h : SourceParams.ofRaw raw = .ok params) : raw = params.toTuple := by
  unfold SourceParams.ofRaw at h
  split at h
  · split at h
    · next hprivacy =>
      cases h
      rcases hprivacy with rfl | rfl <;> rfl
    · cases h
  · cases h

theorem Source.sees_getParams (self : Source) : Sees net (self.getParams net) fun params =>
    [(self.call "getSourceParams", params.toTuple)] :=
  .decode fun _ _ => SourceParams.toTuple_of_ofRaw

theorem Task.sees_getParams (self : Task) : Sees net (self.getParams net) fun params =>
    [(self.call "taskParams", params.toTuple)] := by
  refine .decode fun raw params h => ?_
  unfold TaskParams.ofRaw at h
  split at h <;> cases h
  rfl

theorem Response.sees_getParams (self : Response) : Sees net (self.getParams net) fun params =>
    [(self.call "getResponseParams", params.raw)] := by
  refine .decode fun raw params h => ?_
  unfold ResponseParams.ofRaw at h
  split at h <;> cases h
  rfl

/-- The zero address is read as nobody. -/
theorem Task.sees_getWinningProvider {self : Task} {winner : Option String}
    (h : (self.getWinningProvider net).exec w = (.ok winner, w')) :
    winner ≠ some ZERO_ADDRESS_TEXT ∧
      Saw net w w' [(self.call "winningProvider", .str (winner.getD ZERO_ADDRESS_TEXT))] := by
  obtain ⟨addr, w₁, hsaw, h⟩ := sees_viewStr.peel h
  cases h
  by_cases hzero : addr = ZERO_ADDRESS_TEXT
  · subst hzero
    exact ⟨by simp, hsaw⟩
  · rw [if_neg hzero]
    exact ⟨by simpa using hzero, hsaw⟩

theorem Source.snapshot_pictures {self : Source} {snap : SourceSnapshot}
    (h : (self.snapshot net).exec w = (.ok snap, w')) : snap.Pictures self net w w' := by
  obtain ⟨client, w₁, h₁, h⟩ := sees_viewStr.peel h
  obtain ⟨status, w₂, h₂, h⟩ := self.sees_readStatus.peel h
  obtain ⟨params, w₃, h₃, h⟩ := self.sees_getParams.peel h
  obtain ⟨taskCount, w₄, h₄, h⟩ := sees_viewInt.peel h
  obtain ⟨registrantCount, w₅, h₅, h⟩ := sees_viewInt.peel h
  cases h
  exact ⟨rfl, h₁.trans <| h₂.trans <| h₃.trans <| h₄.trans h₅⟩

theorem Task.snapshot_pictures {self : Task} {snap : TaskSnapshot}
    (h : (self.snapshot net).exec w = (.ok snap, w')) : snap.Pictures self net w w' := by
  obtain ⟨source, w₁, h₁, h⟩ := sees_viewStr.peel h
  obtain ⟨status, w₂, h₂, h⟩ := self.sees_readStatus.peel h
  obtain ⟨params, w₃, h₃, h⟩ := self.sees_getParams.peel h
  obtain ⟨payment, w₄, h₄, h⟩ := sees_viewInt.peel h
  obtain ⟨expiryTime, w₅, h₅, h⟩ := sees_viewInt.peel h
  obtain ⟨deliveryMethod, w₆, h₆, h⟩ := self.sees_getDeliveryMethod.peel h
  obtain ⟨attemptCount, w₇, h₇, h⟩ := sees_viewInt.peel h
  obtain ⟨winner, w₈, hwinner, h⟩ := exec_bind_eq_ok h
  obtain ⟨hnonzero, h₈⟩ := sees_getWinningProvider hwinner
  cases h
  exact ⟨rfl, hnonzero, h₁.trans <| h₂.trans <| h₃.trans <| h₄.trans <| h₅.trans <| h₆.trans <|
    h₇.trans h₈⟩

theorem Response.snapshot_pictures {self : Response} {snap : ResponseSnapshot}
    (h : (self.snapshot net).exec w = (.ok snap, w')) : snap.Pictures self net w w' := by
  obtain ⟨params, w₁, h₁, h⟩ := self.sees_getParams.peel h
  obtain ⟨status, w₂, h₂, h⟩ := self.sees_readStatus.peel h
  obtain ⟨timestamp, w₃, h₃, h⟩ := sees_viewInt.peel h
  obtain ⟨confirmed, w₄, h₄, h⟩ := sees_viewBool.peel h
  cases h
  exact ⟨rfl, rfl, rfl, h₁.trans <| h₂.trans <| h₃.trans h₄⟩

theorem Provider.snapshot_pictures {self : Provider host} {snap : ProviderSnapshot}
    (h : (self.snapshot net).exec w = (.ok snap, w')) : snap.Pictures self net w w' := by
  obtain ⟨master, w₁, h₁, h⟩ := sees_viewStr.peel h
  obtain ⟨baseData, w₂, h₂, h⟩ := sees_viewStr.peel h
  obtain ⟨liveData, w₃, h₃, h⟩ := sees_viewStr.peel h
  obtain ⟨isProvider, w₄, h₄, h⟩ := sees_viewBool.peel h
  obtain ⟨defaultAgentDisabled, w₅, h₅, h⟩ := sees_viewBool.peel h
  obtain ⟨balance, w₆, h₆, h⟩ := sees_viewInt.peel h
  obtain ⟨lockup, w₇, h₇, h⟩ := sees_viewInt.peel h
  obtain ⟨unbonding, w₈, h₈, h⟩ := sees_viewInt.peel h
  obtain ⟨unbondingTimestamp, w₉, h₉, h⟩ := sees_viewInt.peel h
  obtain ⟨totalEarnings, w₁₀, h₁₀, h⟩ := sees_viewInt.peel h
  obtain ⟨frozenPayment, w₁₁, h₁₁, h⟩ := sees_viewInt.peel h
  obtain ⟨sanction, w₁₂, h₁₂, h⟩ := sees_viewInt.peel h
  obtain ⟨isEligible, w₁₃, h₁₃, h⟩ := sees_viewBool.peel h
  obtain ⟨isWhitelisted, w₁₄, h₁₄, h⟩ := sees_viewBool.peel h
  cases h
  exact ⟨rfl, h₁.trans <| h₂.trans <| h₃.trans <| h₄.trans <| h₅.trans <| h₆.trans <|
    h₇.trans <| h₈.trans <| h₉.trans <| h₁₀.trans <| h₁₁.trans <| h₁₂.trans <| h₁₃.trans h₁₄⟩

theorem Master.snapshot_pictures {self : Master host} {snap : MasterSnapshot}
    (h : (self.snapshot net).exec w = (.ok snap, w')) : snap.Pictures self net w w' := by
  obtain ⟨provider, w₁, h₁, h⟩ := sees_viewStr.peel h
  obtain ⟨isMaster, w₂, h₂, h⟩ := sees_viewBool.peel h
  obtain ⟨balance, w₃, h₃, h⟩ := sees_viewInt.peel h
  obtain ⟨lockup, w₄, h₄, h⟩ := sees_viewInt.peel h
  obtain ⟨unbonding, w₅, h₅, h⟩ := sees_viewInt.peel h
  obtain ⟨totalEarnings, w₆, h₆, h⟩ := sees_viewInt.peel h
  obtain ⟨frozenPayment, w₇, h₇, h⟩ := sees_viewInt.peel h
  obtain ⟨isEligible, w₈, h₈, h⟩ := sees_viewBool.peel h
  obtain ⟨isWhitelisted, w₉, h₉, h⟩ := sees_viewBool.peel h
  cases h
  exact ⟨rfl, h₁.trans <| h₂.trans <| h₃.trans <| h₄.trans <| h₅.trans <| h₆.trans <|
    h₇.trans <| h₈.trans h₉⟩

/-- Whatever the chain does meanwhile, a snapshot that is returned shows what was answered during
the call, in the order of its reads. -/
theorem snapshots_picture (host : Host) :
    (∀ (self : Source) (snap : SourceSnapshot),
        (self.snapshot net).exec w = (.ok snap, w') → snap.Pictures self net w w') ∧
      (∀ (self : Task) (snap : TaskSnapshot),
        (self.snapshot net).exec w = (.ok snap, w') → snap.Pictures self net w w') ∧
      (∀ (self : Response) (snap : ResponseSnapshot),
        (self.snapshot net).exec w = (.ok snap, w') → snap.Pictures self net w w') ∧
      (∀ (self : Provider host) (snap : ProviderSnapshot),
        (self.snapshot net).exec w = (.ok snap, w') → snap.Pictures self net w w') ∧
      ∀ (self : Master host) (snap : MasterSnapshot),
        (self.snapshot net).exec w = (.ok snap, w') → snap.Pictures self net w w' :=
  ⟨fun _ _ => Source.snapshot_pictures, fun _ _ => Task.snapshot_pictures,
    fun _ _ => Response.snapshot_pictures, fun _ _ => Provider.snapshot_pictures,
    fun _ _ => Master.snapshot_pictures⟩

/-! ## Fields that follow from earlier ones -/

/-- From the moment one call is answered with `raw`, the other is answered with what `Q` allows. -/
def ReadNet.Leads (net : ReadNet) (call : ContractCall) (raw : Arg) (call' : ContractCall)
    (Q : Arg → Prop) : Prop :=
  ∀ t t' raw', t ≤ t' → net.state t call = .ok raw → net.state t' call' = .ok raw' → Q raw'

/-- A picture keeps what the chain keeps, as far as the order of the reads shows it. -/
theorem Saw.leads {seen : List (ViewCall × Arg)} {target target' : ContractCall} {raw : Arg}
    {Q : Arg → Prop} (h : Saw net w w' seen) (call call' : ViewCall) (raw' : Arg)
    (hsub : [(call, raw), (call', raw')].Sublist seen) (htarget : call.resolve w.chain = some target)
    (htarget' : call'.resolve w.chain = some target') (hleads : net.Leads target raw target' Q) :
    Q raw' := by
  have hsub' := hsub.map fun x : ViewCall × Arg => (x.1, some (Except.ok (ε := Exc) x.2))
  obtain ⟨t, t', -, hle, -, ht, ht'⟩ := h.seen.pair hsub'
  unfold ReadNet.answer at ht ht'
  rw [htarget, Option.map_some, Option.some.injEq] at ht
  rw [htarget', Option.map_some, Option.some.injEq] at ht'
  exact hleads t t' raw' hle ht ht'

/-- Where a finalized task has a winner from then on, and a confirmed response stays confirmed, no
snapshot shows a finalized task without a winner or a confirmed response that is not. -/
theorem snapshots_settled {task : Task} {response : Response}
    (htask : net.Leads ⟨task.address, "getStatus", []⟩ (.int TaskStatus.finalized.value)
      ⟨task.address, "winningProvider", []⟩ fun raw => raw ≠ .str ZERO_ADDRESS_TEXT)
    (hresponse : net.Leads ⟨response.address, "getStatus", []⟩
      (.int ResponseStatus.confirmed.value) ⟨response.address, "confirmedFinal", []⟩
      fun raw => raw = .bool true) :
    (∀ (snap : TaskSnapshot) (w' : World), (task.snapshot net).exec w = (.ok snap, w') →
        snap.status = .finalized → snap.winningProvider.isSome = true) ∧
      ∀ (snap : ResponseSnapshot) (w' : World), (response.snapshot net).exec w = (.ok snap, w') →
        snap.status = .confirmed → snap.confirmed = true := by
  constructor
  · intro snap w' h hfinalized
    have hsaw := (Task.snapshot_pictures h).saw
    rw [hfinalized] at hsaw
    have hwinner := hsaw.leads (task.call "getStatus") (task.call "winningProvider")
      (.str (snap.winningProvider.getD ZERO_ADDRESS_TEXT)) (by simp) rfl rfl htask
    cases hw : snap.winningProvider with
    | some winner => rfl
    | none =>
      rw [hw] at hwinner
      exact absurd rfl hwinner
  · intro snap w' h hconfirmed
    have hsaw := (Response.snapshot_pictures h).saw
    rw [hconfirmed] at hsaw
    have htrue := hsaw.leads (response.call "getStatus") (response.call "confirmedFinal")
      (.bool snap.confirmed) (by simp) rfl rfl hresponse
    cases hc : snap.confirmed with
    | true => rfl
    | false =>
      rw [hc] at htrue
      cases htrue

end

/-- A chain on which the task at 7 is finalized at the tenth second, with its response confirmed,
and nothing else changes; every call takes four. -/
def ReadNet.finalizing : ReadNet where
  load := .prompt
  took := fun _ _ => ⟨4, 4⟩
  state := fun t call =>
    match call.functionName with
    | "getSource" | "getClient" => .ok (.str "0x5")
    | "masterOf" | "providerOf" | "baseDataOf" | "liveDataOf" => .ok (.str "0x9")
    | "isMaster" | "isProvider" | "isEligible" | "isWhitelisted" => .ok (.bool true)
    | "defaultAgentDisabled" => .ok (.bool false)
    | "getSourceParams" => .ok (SourceParams.toTuple
        ⟨"0x5", "ipfs://image", 1, 100, 5, 60, false, "ipfs://params", 0, 3⟩)
    | "getStatus" =>
      if call.contract = 0x7#160 then .ok (.int (if t < 10 then 2 else 5))
      else .ok (.int (if t < 10 then 0 else 1))
    | "taskParams" => .ok (.tuple [.str "0x5", .str "ipfs://config", .int 100, .int 5])
    | "getResponseParams" => .ok (.tuple [.str "0x7", .str "0x9", .str "ipfs://data", .int 5])
    | "winningProvider" => .ok (.str (if t < 10 then ZERO_ADDRESS_TEXT else "0x9"))
    | "confirmedFinal" => .ok (.bool (¬ t < 10))
    | _ => .ok (.int 1)

theorem ReadNet.finalizing_leads {call call' : ContractCall} {raw : Arg} {Q : Arg → Prop}
    (hbefore : ∀ t : ℚ, t < 10 → finalizing.state t call ≠ .ok raw)
    (hafter : ∀ (t : ℚ) raw', ¬ t < 10 → finalizing.state t call' = .ok raw' → Q raw') :
    finalizing.Leads call raw call' Q := by
  intro t t' raw' hle h h'
  have ht : ¬ t < 10 := fun hlt => hbefore t hlt h
  exact hafter t' raw' (fun hlt => ht (hle.trans_lt hlt)) h'

/-- Read while the task is being finalized, each class has its picture. -/
theorem snapshots_picture_finalizing :
    (∃ snap w', (Source.snapshot .finalizing ⟨0x5#160⟩).exec (.imported ⟨0, 0⟩) = (.ok snap, w') ∧
        snap.Pictures ⟨0x5#160⟩ .finalizing (.imported ⟨0, 0⟩) w') ∧
      (∃ snap w', (Task.snapshot .finalizing ⟨0x7#160⟩).exec (.imported ⟨0, 0⟩) = (.ok snap, w') ∧
        snap.Pictures ⟨0x7#160⟩ .finalizing (.imported ⟨0, 0⟩) w') ∧
      (∃ snap w', (Response.snapshot .finalizing ⟨0x8#160⟩).exec (.imported ⟨0, 0⟩) =
        (.ok snap, w') ∧ snap.Pictures ⟨0x8#160⟩ .finalizing (.imported ⟨0, 0⟩) w') ∧
      (∃ snap w', (Provider.snapshot .finalizing (.of 0x9#160 : Provider .trial)).exec
        (.imported ⟨0, 0⟩) = (.ok snap, w') ∧
          snap.Pictures (.of 0x9#160 : Provider .trial) .finalizing (.imported ⟨0, 0⟩) w') ∧
      ∃ snap w', (Master.snapshot .finalizing (.of 0x9#160 : Master .trial)).exec
        (.imported ⟨0, 0⟩) = (.ok snap, w') ∧
          snap.Pictures (.of 0x9#160 : Master .trial) .finalizing (.imported ⟨0, 0⟩) w' := by
  have hsource : ((Source.snapshot .finalizing ⟨0x5#160⟩).exec (.imported ⟨0, 0⟩)).1.toOption.map
      (·.client) = some "0x5" := by decide +kernel
  have htask : ((Task.snapshot .finalizing ⟨0x7#160⟩).exec (.imported ⟨0, 0⟩)).1.toOption.map
      (·.winningProvider) = some (some "0x9") := by decide +kernel
  have hresponse : ((Response.snapshot .finalizing ⟨0x8#160⟩).exec
      (.imported ⟨0, 0⟩)).1.toOption.map (·.confirmed) = some true := by decide +kernel
  have hprovider : ((Provider.snapshot .finalizing (.of 0x9#160 : Provider .trial)).exec
      (.imported ⟨0, 0⟩)).1.toOption.map (·.isEligible) = some true := by decide +kernel
  have hmaster : ((Master.snapshot .finalizing (.of 0x9#160 : Master .trial)).exec (.imported ⟨0, 0⟩)).1.toOption.map
      (·.isMaster) = some true := by decide +kernel
  obtain ⟨source, w₁, hsource, -⟩ := returned_of_map hsource
  obtain ⟨task, w₂, htask, -⟩ := returned_of_map htask
  obtain ⟨response, w₃, hresponse, -⟩ := returned_of_map hresponse
  obtain ⟨provider, w₄, hprovider, -⟩ := returned_of_map hprovider
  obtain ⟨master, w₅, hmaster, -⟩ := returned_of_map hmaster
  exact ⟨⟨source, w₁, hsource, (snapshots_picture .trial).1 _ source hsource⟩,
    ⟨task, w₂, htask, (snapshots_picture .trial).2.1 _ task htask⟩,
    ⟨response, w₃, hresponse, (snapshots_picture .trial).2.2.1 _ response hresponse⟩,
    ⟨provider, w₄, hprovider, (snapshots_picture .trial).2.2.2.1 _ provider hprovider⟩,
    master, w₅, hmaster, (snapshots_picture .trial).2.2.2.2 _ master hmaster⟩

/-- Read once all is done, the task shows its winner and the response that it is confirmed. -/
theorem snapshots_settled_finalizing :
    (∃ snap w', (Task.snapshot .finalizing ⟨0x7#160⟩).exec (.imported ⟨10, 10⟩) =
        (.ok snap, w') ∧ snap.winningProvider.isSome = true) ∧
      ∃ snap w', (Response.snapshot .finalizing ⟨0x8#160⟩).exec (.imported ⟨10, 10⟩) =
        (.ok snap, w') ∧ snap.confirmed = true := by
  have hstatus : ((Task.snapshot .finalizing ⟨0x7#160⟩).exec (.imported ⟨10, 10⟩)).1.toOption.map
      (·.status) = some .finalized := by decide +kernel
  have hconfirmed : ((Response.snapshot .finalizing ⟨0x8#160⟩).exec
      (.imported ⟨10, 10⟩)).1.toOption.map (·.status) = some .confirmed := by decide +kernel
  have hsettled := @snapshots_settled .finalizing (.imported ⟨10, 10⟩) ⟨0x7#160⟩ ⟨0x8#160⟩
    (ReadNet.finalizing_leads (by simp +contextual [ReadNet.finalizing, TaskStatus.value])
      (by simp +contextual [ReadNet.finalizing, ZERO_ADDRESS_TEXT, eq_comm]))
    (ReadNet.finalizing_leads (by simp +contextual [ReadNet.finalizing, ResponseStatus.value])
      (by simp +contextual [ReadNet.finalizing, eq_comm]))
  obtain ⟨task, w₁, htask, hfinalized⟩ := returned_of_map hstatus
  obtain ⟨response, w₂, hresponse, hconfirmed⟩ := returned_of_map hconfirmed
  exact ⟨⟨task, w₁, htask, hsettled.1 task w₁ htask hfinalized⟩,
    response, w₂, hresponse, hsettled.2 response w₂ hresponse hconfirmed⟩

/-- Read while the task is being finalized, it is not finalized and has a winner. -/
example : ((Task.snapshot .finalizing ⟨0x7#160⟩).exec (.imported ⟨0, 0⟩)).1.toOption.map
    (fun snap => (snap.status, snap.winningProvider)) = some (.responded, some "0x9") := by
  decide +kernel

/-! ## The probe of a load -/

/-- A chain on which nothing changes, as a load asks it. -/
def LoadNet.reads (net : LoadNet) : ReadNet where
  load := net.load
  took := fun _ _ => net.took
  state := fun _ call => (net.state call.contract).getStatus.map fun status => .int status.toNat

/-- Reading a status is what a load probes with. -/
theorem ContractClass.getStatus_reads {I S : Type} (cls : ContractClass I S) (net : LoadNet)
    (address : Address) (w : World) :
    (viewEnum net.reads ⟨cls.abiName, some address, "getStatus", []⟩ cls.status).exec w =
      (cls.getStatus net address).exec w := by
  unfold viewEnum view getStatus
  simp only [bind_assoc]
  rcases hload : (loadContract net.load cls.abiName (some address)).exec w with ⟨e | contract, w₁⟩
  · rw [exec_bind_error hload]
    exact exec_bind_error hload
  · rw [exec_bind_ok hload]
    refine (exec_bind_ok hload).trans ?_
    cases hstatus : (net.state contract.address).getStatus with
    | error exc => simp [exec_bind, LoadNet.reads, hstatus, Except.map]
    | ok status =>
      simp [exec_bind, LoadNet.reads, hstatus, Except.map, Arg.asInt]
      rfl

end OgpuSdk
