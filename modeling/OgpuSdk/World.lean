import OgpuSdk.Lib.Prog
import OgpuSdk.Chain.Config
import OgpuSdk.Chain.Nonce
import OgpuSdk.Types.Receipt

/-!
# The world the SDK acts on

`SDK α` is Python code of the SDK: it reads and writes the process-wide state
(`ChainState`, `Nonces`), the clocks pass while it waits for an interaction
with the outside, and what it does to the outside is recorded as events,
stamped with the clock at the moment they start. What the outside answers is
an argument of the code: a `Reply` says how long the interaction took and what
came back.
-/

namespace OgpuSdk

open Prog

/-- What came back from an interaction, and how long it took. -/
structure Reply (α : Type) where
  took : Elapsed
  answer : Except Exc α

/-- A call of a contract function, as `build_transaction` encodes it. -/
inductive Arg where
  | str (s : String)
  | int (n : ℤ)
  | tuple (xs : List Arg)

structure ContractCall where
  contract : Address
  functionName : String
  args : List Arg

structure Tx where
  sender : Address
  nonce : Nat
  /-- `tx_params["value"]`, set for a non-zero value only -/
  value : Option ℤ
  call : ContractCall

/-- What becomes of a `send_raw_transaction` call. -/
inductive SendAnswer where
  /-- the node does not take the transaction and the call raises -/
  | rejected (exc : Exc)
  /-- the node takes the transaction and the call returns its hash -/
  | accepted (hash : TxHash)
  /-- the node takes the transaction and the call raises all the same -/
  | lost (exc : Exc)

/-- The node has the transaction. -/
def SendAnswer.taken : SendAnswer → Bool
  | .rejected _ => false
  | .accepted _ | .lost _ => true

/-- What the call gives the SDK: the node's side of the story is not part of it. -/
def SendAnswer.result : SendAnswer → Except Exc TxHash
  | .rejected exc | .lost exc => .error exc
  | .accepted hash => .ok hash

theorem SendAnswer.result_eq_ok {answer : SendAnswer} {hash : TxHash} :
    answer.result = .ok hash ↔ answer = .accepted hash := by
  cases answer <;> simp [result]

/-- The body of an upload: a dict as `json.dumps` writes it, or a string as it is. -/
inductive Content where
  | dumped (data : Json)
  | raw (text : String)

/-- The file part of an upload form. -/
structure Upload where
  filename : String
  content : Content
  contentType : String

/-- What the SDK does, as far as the properties of its runs speak of it. -/
inductive Op where
  | reserve (address : Address) (nonce : Nat)
  | release (address : Address) (nonce : Nat)
  | reset (address : Address)
  | send (tx : Tx) (answer : SendAnswer)
  | wait (hash : TxHash) (timeout : ℚ)
  | sleep (seconds : ℚ)
  | post (file : Upload) (timeout : ℚ)

structure Event where
  start : Clock
  op : Op

structure World where
  chain : ChainState
  nonces : Nonces
  clock : Clock
  events : List Event

/-- The same world, with nothing done yet. -/
def World.blank (w : World) : World := { w with events := [] }

/-- The world when the SDK has just been imported and the clocks read `clock`. -/
def World.imported (clock : Clock) : World := ⟨.imported, fun _ => none, clock, []⟩

abbrev SDK := Prog World Raised

namespace World

def advance (w : World) (e : Elapsed) : World := { w with clock := w.clock.advance e }

def record (w : World) (op : Op) : World := { w with events := w.events ++ [⟨w.clock, op⟩] }

def setNonce (w : World) (address : Address) (c : Counter) : World :=
  { w with nonces := Function.update w.nonces address c }

section

variable (w : World) (e : Elapsed) (op : Op) (address : Address) (c : Counter)

@[simp] theorem advance_chain : (w.advance e).chain = w.chain := rfl
@[simp] theorem advance_nonces : (w.advance e).nonces = w.nonces := rfl
@[simp] theorem advance_clock : (w.advance e).clock = w.clock.advance e := rfl
@[simp] theorem advance_events : (w.advance e).events = w.events := rfl
@[simp] theorem record_chain : (w.record op).chain = w.chain := rfl
@[simp] theorem record_nonces : (w.record op).nonces = w.nonces := rfl
@[simp] theorem record_clock : (w.record op).clock = w.clock := rfl
@[simp] theorem record_events : (w.record op).events = w.events ++ [⟨w.clock, op⟩] := rfl
@[simp] theorem setNonce_chain : (w.setNonce address c).chain = w.chain := rfl
@[simp] theorem setNonce_nonces :
    (w.setNonce address c).nonces = Function.update w.nonces address c := rfl
@[simp] theorem setNonce_clock : (w.setNonce address c).clock = w.clock := rfl
@[simp] theorem setNonce_events : (w.setNonce address c).events = w.events := rfl

end

end World

namespace SDK

def elapse (e : Elapsed) : SDK Unit := modify (·.advance e)

def record (op : Op) : SDK Unit := modify (·.record op)

/-- `time.monotonic()` -/
def monotonic : SDK ℚ := do pure (← get).clock.mono

/-- `int(time.time())` -/
def second : SDK ℤ := do pure (← get).clock.second

def lift {α : Type} (answer : Except Exc α) : SDK α :=
  match answer with
  | .ok a => pure a
  | .error exc => raise exc.raised

/-- Wait for an interaction to come back. -/
def await {α : Type} (reply : Reply α) : SDK α := do
  elapse reply.took
  lift reply.answer

/-- `time.sleep(seconds)`; `took` is what the clocks make of it. -/
def sleep (took : ℚ → Elapsed) (seconds : ℚ) : SDK Unit := do
  record (.sleep seconds)
  elapse (took seconds)

def chain {α : Type} (x : ChainProg α) : SDK α := zoom (·.chain) (fun c w => { w with chain := c }) x

def nonces {α : Type} (x : NonceProg α) : SDK α :=
  zoom (·.nonces) (fun n w => { w with nonces := n }) x

section

variable {α : Type} (w : World)

@[simp] theorem exec_elapse (e : Elapsed) : (elapse e).exec w = (.ok (), w.advance e) := rfl

@[simp] theorem exec_record (op : Op) : (record op).exec w = (.ok (), w.record op) := rfl

@[simp] theorem exec_monotonic : monotonic.exec w = (.ok w.clock.mono, w) := rfl

@[simp] theorem exec_second : second.exec w = (.ok w.clock.second, w) := rfl

@[simp] theorem exec_lift_ok (a : α) : (lift (.ok a)).exec w = (.ok a, w) := rfl

@[simp] theorem exec_lift_error (exc : Exc) :
    (lift (.error exc) : SDK α).exec w = (.error exc.raised, w) := rfl

@[simp] theorem exec_await (reply : Reply α) :
    (await reply).exec w = (lift reply.answer).exec (w.advance reply.took) := rfl

@[simp] theorem exec_sleep (took : ℚ → Elapsed) (seconds : ℚ) :
    (sleep took seconds).exec w = (.ok (), (w.record (.sleep seconds)).advance (took seconds)) := rfl

theorem exec_lift_snd (answer : Except Exc α) : ((lift answer).exec w).2 = w := by
  cases answer <;> rfl

end

end SDK

/-- `_get_web3()`: the current chain's instance. Only a missing one is probed, so only then
does the probe take its time. -/
def getWeb3 (connected : Reply Bool) : SDK Url := do
  if (← get).chain.probes then
    SDK.elapse connected.took
  SDK.chain (Web3Manager.getWeb3Instance none connected.answer)

/-- How long `_get_web3()` takes. -/
def connecting (connected : Reply Bool) (w : World) : World :=
  if w.chain.probes then w.advance connected.took else w

theorem exec_getWeb3 (connected : Reply Bool) (w : World) :
    (getWeb3 connected).exec w =
      (((Web3Manager.getWeb3Instance none connected.answer).exec w.chain).1,
        { connecting connected w with
          chain := ((Web3Manager.getWeb3Instance none connected.answer).exec w.chain).2 }) := by
  unfold getWeb3 connecting
  rw [exec_bind_ok (exec_get w)]
  cases w.chain.probes <;> rfl

@[simp] theorem getWeb3_nonces (connected : Reply Bool) (w : World) :
    ((getWeb3 connected).exec w).2.nonces = w.nonces := by
  rw [exec_getWeb3]
  unfold connecting
  cases w.chain.probes <;> rfl

@[simp] theorem getWeb3_events (connected : Reply Bool) (w : World) :
    ((getWeb3 connected).exec w).2.events = w.events := by
  rw [exec_getWeb3]
  unfold connecting
  cases w.chain.probes <;> rfl

end OgpuSdk
