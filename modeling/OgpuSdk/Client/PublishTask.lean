import OgpuSdk.Ipfs.Publish
import OgpuSdk.Protocol.Contract

/-!
# `client.publish_task`

The whole of a publish: the signer, the expiry checks, the upload of the task
config, the Controller transaction and the address of the new task. `prepare`
is what comes before the transaction executor runs, `finish` what comes after
it, and `publishTask_eq` puts the three together.
-/

namespace OgpuSdk.Client

open Prog

structure TaskInput where
  functionName : String
  /-- a dict, or a model already dumped -/
  data : Json
  extra : List (String × Json)

/-- The extras are merged over the two fields. -/
def TaskInput.toDict (input : TaskInput) : Json :=
  .obj (Json.update [("function_name", .str input.functionName), ("data", input.data)] input.extra)

structure TaskInfo where
  source : String
  config : TaskInput
  expiryTime : ℤ
  payment : ℤ

/-- The keyword arguments of `publish_task`. -/
structure Options where
  ipfsTimeout : ℚ
  ipfsRetries : ℤ
  ipfsBackoff : Seconds
  receiptTimeout : ℚ
  totalTimeout : Option ℚ

def Options.default : Options where
  ipfsTimeout := 30
  ipfsRetries := 2
  ipfsBackoff := .float (1 / 2)
  receiptTimeout := 120
  totalTimeout := none

/-- What the outside answers to one `publish_task`. -/
structure PublishNet where
  posts : Nat → PostNet
  controller : Controller.PublishNet
  extract : Controller.ExtractNet
  /-- a probe for the instance `Task` checksums with -/
  connected : Reply Bool

/-- A service, a node and a chain that answer at once, and do what they are asked. -/
def PublishNet.prompt : PublishNet where
  posts := fun _ => ⟨fun _ => ⟨⟨0, 0⟩, .ok ⟨201, .ok (.obj [("link", .str "ipfs://config")])⟩⟩,
    fun seconds => ⟨seconds.toNNRat, seconds⟩⟩
  controller := ⟨⟨⟨⟨0, 0⟩, .ok true⟩, fun _ _ => some (.arr []), .ok ()⟩, ⟨⟨0, 0⟩, .ok true⟩,
    fun _ => .prompt 0⟩
  extract := ⟨⟨⟨⟨0, 0⟩, .ok true⟩, fun _ _ => some (.arr []), .ok ()⟩, fun _ => .ok [0x3#160],
    ⟨⟨0, 0⟩, .ok true⟩⟩
  connected := ⟨⟨0, 0⟩, .ok true⟩

/-- The first send is refused as underpriced, and everything else goes well. -/
def PublishNet.underpriced : PublishNet :=
  { PublishNet.prompt with
    controller := { PublishNet.prompt.controller with
      attempts := fun
        | 0 => { AttemptNet.prompt 0 with
            send := .rejected (.raw ⟨.exception "ValueError",
              "replacement transaction underpriced"⟩) }
        | _ => .prompt 0 } }

def TaskInfo.trial (expiryTime : ℤ) : TaskInfo :=
  ⟨"0x4", ⟨"main", .obj [], []⟩, expiryTime, 0⟩

/-- `stage` goes to the log only. -/
def checkNotExpired (expiryTime : ℤ) (_stage : String) : SDK Unit := do
  let now ← SDK.second
  if expiryTime ≤ now then
    raise (OGPUError.taskExpiredError "(not published)" expiryTime).raised

def buildTaskParams (info : TaskInfo) (ipfsTimeout : ℚ) (ipfsRetries : ℤ) (ipfsBackoff : Seconds)
    (deadline : Option ℚ) (net : Nat → PostNet) : SDK TaskParams := do
  let configUrl ← publishToIpfs (.dumped info.config.toDict) "taskConfig.json" "application/json"
    ipfsTimeout ipfsRetries ipfsBackoff deadline net
  pure ⟨info.source, configUrl, info.expiryTime, info.payment⟩

section

variable (keys : Keys) (info : TaskInfo) (privateKey : Option Signer) (options : Options)
  (net : PublishNet)

def publishTask : SDK Address := do
  let start ← SDK.monotonic
  let deadline := options.totalTimeout.map (start + ·)
  let account ← resolveSigner keys privateKey (some .client)
  checkNotExpired info.expiryTime "start"
  let params ← buildTaskParams info options.ipfsTimeout options.ipfsRetries options.ipfsBackoff
    deadline net.posts
  checkNotExpired info.expiryTime "pre-transaction (after IPFS pin)"
  let receipt ← Controller.publishTask keys net.controller params (some (.account account))
    options.receiptTimeout deadline options.totalTimeout
  let task ← Controller.extractTaskAddress net.extract receipt
  let _ ← getWeb3 net.connected
  pure task

/-- Everything before the executor runs. -/
def prepare : SDK TxExecutor := do
  let start ← SDK.monotonic
  let deadline := options.totalTimeout.map (start + ·)
  let account ← resolveSigner keys privateKey (some .client)
  checkNotExpired info.expiryTime "start"
  let params ← buildTaskParams info options.ipfsTimeout options.ipfsRetries options.ipfsBackoff
    deadline net.posts
  checkNotExpired info.expiryTime "pre-transaction (after IPFS pin)"
  Controller.executor keys net.controller.load params (some (.account account))
    options.receiptTimeout deadline options.totalTimeout

/-- Everything after it. -/
def finish (receipt : Receipt) : SDK Address := do
  let task ← Controller.extractTaskAddress net.extract receipt
  let _ ← getWeb3 net.connected
  pure task

theorem publishTask_eq :
    publishTask keys info privateKey options net =
      prepare keys info privateKey options net >>= fun exe =>
        exe.execute net.controller.attempts net.controller.connected >>= finish net := by
  unfold publishTask prepare finish Controller.publishTask
  simp only [bind_assoc]

end

end OgpuSdk.Client
