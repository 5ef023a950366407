import OgpuSdk.Lib.Text
import OgpuSdk.Types.Errors

/-!
# Error texts: retry classes and revert reasons

`TxExecutor` decides by the text of an exception whether an attempt is worth
repeating, and `decode_revert` turns the text of a contract revert into one of
the SDK's errors.
-/

namespace OgpuSdk

open Text

def NONCE_ERROR_SUBSTRINGS : List String := ["nonce too low", "known transaction", "already known"]

def UNDERPRICED_SUBSTRING : String := "replacement transaction underpriced"

def UNDERPRICED_BACKOFF_SECONDS : ℚ := 5

def TRANSIENT_RPC_PATTERNS : List Pattern := [
  -- block\\s+\\S*\\s*not found
  lit "block" ++ [.one isSpace, .many isSpace, .many (fun c => !isSpace c), .many isSpace] ++
    lit "not found",
  lit "connection aborted",
  lit "remote end closed connection",
  lit "connection reset",
  lit "read timed out"]

def TRANSIENT_RPC_BACKOFF_SECONDS : ℚ := 1

def DEFAULT_RECEIPT_TIMEOUT : ℚ := 120

namespace TxExecutor

def isNonceError (exc : RawExc) : Bool :=
  NONCE_ERROR_SUBSTRINGS.any (contains (lower exc.text.toList))

def isUnderpriced (exc : RawExc) : Bool := contains (lower exc.text.toList) UNDERPRICED_SUBSTRING

def isTransientRpc (exc : RawExc) : Bool :=
  TRANSIENT_RPC_PATTERNS.any (search · (lower exc.text.toList))

end TxExecutor

/-! ## Revert decoding -/

/-- `str.strip()` of a set of characters, at both ends. -/
def strip (p : Char → Bool) (s : List Char) : List Char :=
  ((s.dropWhile p).reverse.dropWhile p).reverse

/-- `str.find`: the index of the first occurrence. -/
def find? (s : List Char) (sub : String) : Option Nat :=
  s.tails.findIdx? (sub.toList.isPrefixOf ·)

def extractRevertReason (exc : RawExc) : String :=
  let message := exc.text.toList
  if "execution reverted:".toList.isPrefixOf message then
    -- `message.split(":", 1)[1]`
    String.ofList (strip isSpace ((message.dropWhile (· ≠ ':')).drop 1))
  else
    -- The index is one of the lowered text, and is applied to the message itself.
    match find? (lower message) "revert" with
    | some idx => String.ofList (strip isSpace
        (strip (fun c => c == ':' || c == ' ') (message.drop (idx + "revert".length))))
    | none => exc.text

/-- Pick the `PermissionError` for a bare `NotOwner` revert by its context. -/
def permissionErrorFor (context : String) (caller : Address) : OGPUError :=
  if contains (lower context.toList) "source" then .notSourceOwnerError context caller
  else .notTaskOwnerError context caller

abbrev RevertHandler := String → Address → OGPUError

/-- The revert reasons known by name, in the order of the table. -/
def REVERT_PATTERN_MAP : List (String × RevertHandler) := [
  ("NotOwner", permissionErrorFor),
  ("NotMaster", fun _ caller => .notMasterError caller),
  ("NotProvider", fun _ caller => .notProviderError caller),
  ("Expired", fun context _ => .taskExpiredError context 0),
  ("AlreadyConfirmed", fun context _ => .responseAlreadyConfirmedError context),
  ("AlreadyFinalized", fun context _ => .taskAlreadyFinalizedError context),
  ("InsufficientBalance", fun _ caller => .insufficientBalanceError caller 0 0),
  ("InsufficientLockup", fun _ caller => .insufficientLockupError caller 0 0),
  ("UnbondingNotElapsed", fun _ caller => .unbondingPeriodNotElapsedError caller 0),
  ("NotEligible", fun _ caller => .notEligibleError caller),
  ("SourceInactive", fun context _ => .sourceInactiveError context)]

def decodeRevert (exc : RawExc) (context : String) (caller : Address) : OGPUError :=
  let reason := extractRevertReason exc
  match REVERT_PATTERN_MAP.lookup reason with
  | some handler => handler context caller
  | none =>
    match REVERT_PATTERN_MAP.find? (fun entry => contains reason.toList entry.1) with
    | some (_, handler) => handler context caller
    | none => .txRevertError reason

end OgpuSdk
