import OgpuSdk.Types.Base

/-!
# Exceptions

`OGPUError` is the SDK's own hierarchy, each error with the attributes it
carries. Everything else Python code may meet is a `RawExc`: a class, as far
as the handlers tell classes apart, and the text `str(exc)`. An `Exc` is
either, and `Raised` is an exception on its way up with its `__cause__`.
-/

namespace OgpuSdk

/-- A signer role, by the value that names its environment variable. -/
inductive Role where
  | client | provider | master | agent
  deriving DecidableEq, Repr

def Role.envVar : Role → String
  | .client => "CLIENT_PRIVATE_KEY"
  | .provider => "PROVIDER_PRIVATE_KEY"
  | .master => "MASTER_PRIVATE_KEY"
  | .agent => "AGENT_PRIVATE_KEY"

inductive OGPUError where
  | taskNotFoundError (address : Address)
  | sourceNotFoundError (address : Address)
  | responseNotFoundError (address : Address)
  | providerNotFoundError (address : String)
  | masterNotFoundError (address : String)
  | taskExpiredError (task : String) (expiry : ℤ)
  | taskAlreadyFinalizedError (task : String)
  | responseAlreadyConfirmedError (response : String)
  | sourceInactiveError (source : String)
  | notTaskOwnerError (task : String) (caller : Address)
  | notSourceOwnerError (source : String) (caller : Address)
  | notMasterError (account : Address)
  | notProviderError (account : Address)
  | insufficientBalanceError (account : Address) (required available : ℤ)
  | insufficientLockupError (account : Address) (required available : ℤ)
  | unbondingPeriodNotElapsedError (account : Address) (remainingSeconds : ℤ)
  | notEligibleError (account : Address)
  | txRevertError (reason : String)
  | nonceError (address : Address) (tried suggested : ℤ)
  | gasError (reason : String)
  | txReceiptTimeoutError (txHash : String) (timeout : ℚ)
  | txRpcError (reason : String)
  | publishTimeoutError (budget : ℚ) (stage : String)
  | invalidRpcUrlError (url : Url)
  | missingSignerError (role : Option Role)
  | invalidSignerError (reason : String)
  | chainNotSupportedError (chainId : Option ChainId)
  | ipfsFetchError (url reason : String)
  | ipfsGatewayError (gateway : String) (statusCode : ℤ)
  deriving DecidableEq, Repr

/-- Classes of the exceptions that are not the SDK's own. -/
inductive ExcClass where
  /-- web3's `ContractLogicError` -/
  | contractLogicError
  /-- web3's `TimeExhausted` -/
  | timeExhausted
  /-- `requests.RequestException` and its subclasses -/
  | requestException
  /-- `json.JSONDecodeError` -/
  | jsonDecodeError
  | keyError
  /-- any other subclass of `Exception` -/
  | exception (name : String)
  /-- a `BaseException` that is no `Exception`: `KeyboardInterrupt`, `SystemExit` -/
  | baseException (name : String)
  deriving DecidableEq, Repr

structure RawExc where
  cls : ExcClass
  text : String
  deriving DecidableEq, Repr

/-- The exception reaches the last handler, `except Exception`. -/
def RawExc.ordinary (r : RawExc) : Bool :=
  match r.cls with
  | .contractLogicError | .baseException _ => false
  | .timeExhausted | .requestException | .jsonDecodeError | .keyError | .exception _ => true

inductive Exc where
  | ogpu (e : OGPUError)
  | raw (r : RawExc)
  deriving DecidableEq, Repr

/-- The exception is an `Exception`, which `except Exception` handlers catch. -/
def Exc.isException : Exc → Bool
  | .raw ⟨.baseException _, _⟩ => false
  | _ => true

/-- An exception on its way up, with the one it was raised from. -/
structure Raised where
  exc : Exc
  cause : Option Exc
  deriving DecidableEq, Repr

def Exc.raised (e : Exc) : Raised := ⟨e, none⟩

/-- `raise e from cause`. -/
def OGPUError.from (e : OGPUError) (cause : Exc) : Raised := ⟨.ogpu e, some cause⟩

def OGPUError.raised (e : OGPUError) : Raised := ⟨.ogpu e, none⟩

def raised (cls text : String) : Raised := ⟨.raw ⟨.exception cls, text⟩, none⟩

/-- The exception is one of the SDK's own. -/
def Raised.Typed (r : Raised) : Prop := ∃ e, r.exc = .ogpu e

end OgpuSdk
