import OgpuSdk.Events.Types
import OgpuSdk.Protocol.Contract
import OgpuSdk.Protocol.Pagination

/-!
# Eager construction

`Source.load`, `Task.load` and `Response.load` probe an address with
`getStatus()`, a selector all three kinds of contract answer. What tells them
apart is the decoding of the answer alone, so that a contract of another kind
passes whenever its status is a number the class's enum has.
-/

namespace OgpuSdk

open Prog

/-! ## The chain -/

inductive ContractKind where
  | source | task | response
  deriving DecidableEq, Repr

/-- What is deployed at an address. -/
inductive Deployed where
  | contract (kind : ContractKind) (status : UInt8)
  /-- some other contract, by what a `getStatus()` call of it comes to -/
  | other (answer : Except Exc UInt8)
  | nothing

def Deployed.kind : Deployed → Option ContractKind
  | .contract kind _ => some kind
  | .other _ | .nothing => none

/-- What a call of `getStatus()` comes to. -/
def Deployed.getStatus : Deployed → Except Exc UInt8
  | .contract _ status => .ok status
  | .other answer => answer
  | .nothing => .error (.raw ⟨.exception "BadFunctionCallOutput",
      "Could not transact with/call contract function, is contract deployed correctly and chain synced?"⟩)

/-- What the outside answers to a `load`. -/
structure LoadNet where
  connected : Reply Bool
  load : ContractNet
  state : Address → Deployed
  /-- how long the call of `getStatus()` takes -/
  took : Elapsed

/-! ## The three classes -/

structure Source where
  address : Address

inductive SourceStatus where
  | active | inactive
  deriving DecidableEq, Repr

def SourceStatus.value : SourceStatus → Nat
  | .active => 0
  | .inactive => 1

/-- `SourceStatus(code)` -/
def SourceStatus.ofInt (code : ℤ) : Except Exc SourceStatus :=
  enumOfInt "SourceStatus" (·.value) [.active, .inactive] code

/-- What a class of contracts hands to its constructor and its probe. -/
structure ContractClass (I S : Type) where
  kind : ContractKind
  abiName : String
  new : Address → I
  status : ℤ → Except Exc S
  notFound : Address → OGPUError

namespace ContractClass

variable {I S : Type} (cls : ContractClass I S)

def getStatus (net : LoadNet) (address : Address) : SDK S := do
  let contract ← loadContract net.load cls.abiName (some address)
  let status ← SDK.await ⟨net.took, (net.state contract.address).getStatus⟩
  SDK.lift (cls.status status.toNat)

def load (net : LoadNet) (address : Address) : SDK I := do
  -- The constructor asks for a Web3 instance to checksum the address with.
  let _ ← getWeb3 net.connected
  match ← Prog.attempt (cls.getStatus net address) with
  | .ok _ => pure (cls.new address)
  | .error e =>
    if e.exc.isException then raise ((cls.notFound address).from e.exc) else raise e

end ContractClass

def Source.cls : ContractClass Source SourceStatus where
  kind := .source
  abiName := "SourceAbi"
  new := Source.mk
  status := SourceStatus.ofInt
  notFound := .sourceNotFoundError

def Task.cls : ContractClass Task TaskStatus where
  kind := .task
  abiName := "TaskAbi"
  new := Task.mk
  status := TaskStatus.ofInt
  notFound := .taskNotFoundError

def Response.cls : ContractClass Response ResponseStatus where
  kind := .response
  abiName := "ResponseAbi"
  new := Response.mk
  status := ResponseStatus.ofInt
  notFound := .responseNotFoundError

def Source.getStatus (net : LoadNet) (self : Source) : SDK SourceStatus :=
  Source.cls.getStatus net self.address

def Task.getStatus (net : LoadNet) (self : Task) : SDK TaskStatus :=
  Task.cls.getStatus net self.address

def Response.getStatus (net : LoadNet) (self : Response) : SDK ResponseStatus :=
  Response.cls.getStatus net self.address

def Source.load (net : LoadNet) (address : Address) : SDK Source := Source.cls.load net address

def Task.load (net : LoadNet) (address : Address) : SDK Task := Task.cls.load net address

def Response.load (net : LoadNet) (address : Address) : SDK Response :=
  Response.cls.load net address

/-! ## What a load comes to -/

/-- The contract is there to be called: the SDK has or gets its Web3 instance, and the ABI. -/
def LoadNet.Reaches (net : LoadNet) (w : World) (abiName : String) (address : Address) : Prop :=
  ∃ web3 w₁ contract w₂, (getWeb3 net.connected).exec w = (.ok web3, w₁) ∧
    (loadContract net.load abiName (some address)).exec w₁ = (.ok contract, w₂)

/-- The enum of the class has the members `0`, …, `n - 1`. -/
structure ContractClass.Members {I S : Type} (cls : ContractClass I S) (n : Nat) : Prop where
  member : ∀ code < n, ∃ status, cls.status code = .ok status
  other : ∀ code, n ≤ code → ∃ exc, cls.status code = .error exc ∧ exc.isException = true

/-- The probe of the class takes the answer of what is deployed there: it is a number of the
class's enum. -/
def Deployed.Admitted (deployed : Deployed) (n : Nat) : Prop :=
  ∃ status, deployed.getStatus = .ok status ∧ status.toNat < n

/-- An instance is returned only where a contract of the kind is deployed; the error is raised
where none is. -/
structure LoadsOnly {I : Type} (kind : ContractKind) (notFound : Address → OGPUError)
    (net : LoadNet) (address : Address) (load : SDK I) (w : World) : Prop where
  returns : ∀ self w', load.exec w = (.ok self, w') → (net.state address).kind = some kind
  raises : (net.state address).kind ≠ some kind →
    ∃ cause w', load.exec w = (.error ((notFound address).from cause), w')

theorem loadContract_address {net : ContractNet} {abiName : String} {address : Address}
    {contract : Contract} {w w' : World}
    (h : (loadContract net abiName (some address)).exec w = (.ok contract, w')) :
    contract.address = address := by
  unfold loadContract at h
  obtain ⟨web3, w₁, -, h⟩ := exec_bind_eq_ok h
  obtain ⟨abi, w₂, -, h⟩ := exec_bind_eq_ok h
  obtain ⟨_, w₃, haddress, h⟩ := exec_bind_eq_ok h
  obtain ⟨_, w₄, -, h⟩ := exec_bind_eq_ok h
  cases h
  cases haddress
  rfl

section

variable {I S : Type} {cls : ContractClass I S} {n : Nat} {net : LoadNet} {w : World}
  {address : Address}

/-- A load returns where the probe takes the answer, and raises the class's error where not. -/
theorem ContractClass.Members.load (hmembers : cls.Members n)
    (hreach : net.Reaches w cls.abiName address)
    (hexc : ∀ exc, (net.state address).getStatus = .error exc → exc.isException = true) :
    (net.state address).Admitted n ∧ (∃ w', (cls.load net address).exec w =
        (.ok (cls.new address), w')) ∨
      ¬ (net.state address).Admitted n ∧ ∃ cause w', (cls.load net address).exec w =
        (.error ((cls.notFound address).from cause), w') := by
  obtain ⟨web3, w₁, contract, w₂, hweb3, hcontract⟩ := hreach
  have haddress := loadContract_address hcontract
  have hstatus : (cls.getStatus net address).exec w₁ =
      (do SDK.lift (cls.status (← SDK.await ⟨net.took, (net.state address).getStatus⟩).toNat) :
        SDK S).exec w₂ := by
    unfold ContractClass.getStatus
    rw [exec_bind_ok hcontract, haddress]
  unfold ContractClass.load
  rw [exec_bind_ok hweb3, exec_bind_ok (exec_attempt _ _), hstatus, exec_bind, SDK.exec_await]
  cases hanswer : (net.state address).getStatus with
  | error exc =>
    refine .inr ⟨?_, exc, w₂.advance net.took, ?_⟩
    · rintro ⟨status, hok, -⟩
      rw [hanswer] at hok
      cases hok
    · simp [Exc.raised, hexc exc hanswer]
  | ok status =>
    by_cases hlt : status.toNat < n
    · obtain ⟨s, hs⟩ := hmembers.member _ hlt
      refine .inl ⟨⟨status, hanswer, hlt⟩, w₂.advance net.took, ?_⟩
      simp [hs]
    · obtain ⟨exc, hs, hexc⟩ := hmembers.other _ (Nat.le_of_not_lt hlt)
      refine .inr ⟨?_, exc, w₂.advance net.took, ?_⟩
      · rintro ⟨status', hok, hlt'⟩
        rw [hanswer, Except.ok.injEq] at hok
        exact hlt (hok ▸ hlt')
      · simp [hs, Exc.raised, hexc]

/-- A load is sound exactly where a contract of its kind is deployed or the probe does not take
the answer. -/
theorem ContractClass.Members.loadsOnly_iff (hmembers : cls.Members n)
    (hreach : net.Reaches w cls.abiName address)
    (hexc : ∀ exc, (net.state address).getStatus = .error exc → exc.isException = true) :
    LoadsOnly cls.kind cls.notFound net address (cls.load net address) w ↔
      (net.state address).kind = some cls.kind ∨ ¬ (net.state address).Admitted n := by
  rcases hmembers.load hreach hexc with ⟨hadmitted, w', hexec⟩ | ⟨hnot, cause, w', hexec⟩
  · constructor
    · exact fun h => .inl (h.returns _ _ hexec)
    · rintro (hkind | hnot)
      · exact ⟨fun _ _ _ => hkind, fun hne => absurd hkind hne⟩
      · exact absurd hadmitted hnot
  · constructor
    · exact fun _ => .inr hnot
    · refine fun _ => ⟨?_, fun _ => ⟨cause, w', hexec⟩⟩
      intro self w'' hok
      rw [hexec] at hok
      cases hok

end

/-! ## The members of the enums -/

/-- The class has the members of its enum. -/
theorem ContractClass.Members.of_range {I S : Type} {cls : ContractClass I S} {name : String}
    {value : S → ℤ} {members : List S} {n : Nat} (hcls : cls.status = enumOfInt name value members)
    (hvalues : members.map value = (List.range n).map Int.ofNat) : cls.Members n where
  member code hlt := by
    rw [hcls]
    exact enumOfInt_member hvalues hlt
  other code hle := by
    rw [hcls, enumOfInt_other hvalues hle]
    exact ⟨_, rfl, rfl⟩

theorem Source.members : Source.cls.Members 2 := .of_range rfl rfl

theorem Task.members : Task.cls.Members 6 := .of_range rfl rfl

theorem Response.members : Response.cls.Members 2 := .of_range rfl rfl

/-- Where the SDK reaches the chain, each of the three loads is sound exactly at the addresses of
its own kind and at those whose answer is no number of its enum: 0 or 1 for sources and responses,
0 to 5 for tasks. -/
theorem eagerLoad_iff {net : LoadNet} {w : World} {address : Address}
    (hreach : ∀ abiName ∈ ["SourceAbi", "TaskAbi", "ResponseAbi"], net.Reaches w abiName address)
    (hexc : ∀ exc, (net.state address).getStatus = .error exc → exc.isException = true) :
    (LoadsOnly .source .sourceNotFoundError net address (Source.load net address) w ↔
        (net.state address).kind = some .source ∨ ¬ (net.state address).Admitted 2) ∧
      (LoadsOnly .task .taskNotFoundError net address (Task.load net address) w ↔
        (net.state address).kind = some .task ∨ ¬ (net.state address).Admitted 6) ∧
      (LoadsOnly .response .responseNotFoundError net address (Response.load net address) w ↔
        (net.state address).kind = some .response ∨ ¬ (net.state address).Admitted 2) :=
  ⟨Source.members.loadsOnly_iff (hreach "SourceAbi" (by decide)) hexc,
    Task.members.loadsOnly_iff (hreach "TaskAbi" (by decide)) hexc,
    Response.members.loadsOnly_iff (hreach "ResponseAbi" (by decide)) hexc⟩

/-- A node that answers at once, with `deployed` at every address. -/
def LoadNet.holding (deployed : Deployed) : LoadNet where
  connected := ⟨⟨0, 0⟩, .ok true⟩
  load := ⟨⟨⟨0, 0⟩, .ok true⟩, fun _ _ => some .null, .ok ()⟩
  state := fun _ => deployed
  took := ⟨0, 0⟩

theorem LoadNet.holding_reaches (deployed : Deployed) (address : Address) (abiName : String)
    (hne : abiName ∈ ["SourceAbi", "TaskAbi", "ResponseAbi"]) :
    (holding deployed).Reaches (.imported ⟨0, 0⟩) abiName address := by
  simp only [List.mem_cons, List.not_mem_nil, or_false] at hne
  rcases hne with rfl | rfl | rfl <;> exact ⟨_, _, _, _, rfl, rfl⟩

/-- A finalized task is no source. -/
theorem eagerLoad_finalized :
    LoadsOnly .source .sourceNotFoundError (.holding (.contract .task 5)) 0x7#160
      (Source.load (.holding (.contract .task 5)) 0x7#160) (.imported ⟨0, 0⟩) := by
  refine (eagerLoad_iff (LoadNet.holding_reaches _ _) ?_).1.mpr (.inr ?_)
  · rintro exc ⟨⟩
  · rintro ⟨status, hstatus, hlt⟩
    cases hstatus
    exact absurd hlt (by decide)

/-- A new task is loaded as a source. -/
theorem not_loadsOnly_new :
    ¬ LoadsOnly .source .sourceNotFoundError (.holding (.contract .task 0)) 0x7#160
      (Source.load (.holding (.contract .task 0)) 0x7#160) (.imported ⟨0, 0⟩) := by
  intro h
  cases h.returns ⟨0x7#160⟩ _ rfl

end OgpuSdk
