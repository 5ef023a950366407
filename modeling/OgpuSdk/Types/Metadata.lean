import OgpuSdk.Types.Environments
import OgpuSdk.World

/-!
# Source metadata and parameters

What describes a source: `SourceInfo` is what a client fills in,
`SourceMetadata` what is uploaded and `SourceParams` the tuple the contracts
keep. `toTuple` and `ofRaw` are the two directions of the tuple.
-/

namespace OgpuSdk

/-- A `bool` is the integer 0 or 1. -/
def Arg.bool (b : Bool) : Arg := .int (if b then 1 else 0)

inductive DeliveryMethod where
  | manualConfirmation | firstResponse
  deriving DecidableEq, Repr

def DeliveryMethod.value : DeliveryMethod → ℤ
  | .manualConfirmation => 0
  | .firstResponse => 1

/-- Docker-compose URLs; an empty one stands for an environment that is not supported. -/
structure ImageEnvironments where
  cpu : String
  nvidia : String
  amd : String

/-- The URL of an environment. -/
def ImageEnvironments.url (images : ImageEnvironments) : Environment → String
  | .cpu => images.cpu
  | .nvidia => images.nvidia
  | .amd => images.amd

structure SourceMetadata where
  cpu : String
  nvidia : String
  amd : String
  name : String
  description : String
  logoUrl : String

def SourceMetadata.toDict (metadata : SourceMetadata) : Json :=
  .obj [("cpu", .str metadata.cpu), ("nvidia", .str metadata.nvidia), ("amd", .str metadata.amd),
    ("name", .str metadata.name), ("description", .str metadata.description),
    ("logoUrl", .str metadata.logoUrl)]

structure SourceInfo where
  name : String
  description : String
  logoUrl : String
  imageEnvs : ImageEnvironments
  minPayment : ℤ
  minAvailableLockup : ℤ
  maxExpiryDuration : ℤ
  deliveryMethod : DeliveryMethod

structure SourceParams where
  client : String
  imageMetadataUrl : String
  imageEnvironments : ℤ
  minPayment : ℤ
  minAvailableLockup : ℤ
  maxExpiryDuration : ℤ
  privacyEnabled : Bool
  optionalParamsUrl : String
  deliveryMethod : ℤ
  lastUpdateTime : ℤ

namespace SourceParams

def toTuple (params : SourceParams) : Arg :=
  .tuple [.str params.client, .str params.imageMetadataUrl, .int params.imageEnvironments,
    .int params.minPayment, .int params.minAvailableLockup, .int params.maxExpiryDuration,
    .bool params.privacyEnabled, .str params.optionalParamsUrl, .int params.deliveryMethod,
    .int params.lastUpdateTime]

/-- `SourceParams(client=raw[0], …)`: the model takes values of the fields' types only. -/
def ofRaw : Arg → Except Exc SourceParams
  | .tuple [.str client, .str imageMetadataUrl, .int imageEnvironments, .int minPayment,
      .int minAvailableLockup, .int maxExpiryDuration, .int privacyEnabled,
      .str optionalParamsUrl, .int deliveryMethod, .int lastUpdateTime] =>
    if privacyEnabled = 0 ∨ privacyEnabled = 1 then
      .ok ⟨client, imageMetadataUrl, imageEnvironments, minPayment, minAvailableLockup,
        maxExpiryDuration, privacyEnabled = 1, optionalParamsUrl, deliveryMethod, lastUpdateTime⟩
    else .error (.raw ⟨.exception "ValidationError", "privacyEnabled"⟩)
  | _ => .error (.raw ⟨.exception "ValidationError", "SourceParams"⟩)

theorem ofRaw_toTuple (params : SourceParams) : ofRaw params.toTuple = .ok params := by
  obtain ⟨client, url, environments, payment, lockup, duration, privacy, options, delivery, time⟩ :=
    params
  cases privacy <;> rfl

end SourceParams

/-! ## The environments of a source -/

/-- The bit mask of the environments that have a URL. -/
def ImageEnvironments.combined (images : ImageEnvironments) : ℤ :=
  let combined : ℤ := 0
  let combined := if images.cpu ≠ "" then Int.lor combined Environment.cpu.value else combined
  let combined := if images.nvidia ≠ "" then Int.lor combined Environment.nvidia.value else combined
  if images.amd ≠ "" then Int.lor combined Environment.amd.value else combined

theorem ImageEnvironments.combined_eq (images : ImageEnvironments) :
    images.combined = combineEnvironments
      (Environment.flags.all.filter fun e => images.url e ≠ "") := by
  obtain ⟨cpu, nvidia, amd⟩ := images
  by_cases hcpu : cpu = "" <;> by_cases hnvidia : nvidia = "" <;> by_cases hamd : amd = "" <;>
    simp [combined, url, combineEnvironments, Flags.combine, Environment.flags,
      Environment.value, hcpu, hnvidia, hamd]

/-- The mask of a source parses to the environments that have a URL. -/
theorem ImageEnvironments.parse_combined (images : ImageEnvironments) :
    parseEnvironments images.combined =
      Environment.flags.all.filter fun e => images.url e ≠ "" := by
  rw [combined_eq]
  unfold parseEnvironments combineEnvironments
  rw [Flags.parse_combine]
  refine List.filter_congr fun e he => ?_
  rw [decide_eq_decide, List.mem_filter]
  simp [he]

end OgpuSdk
