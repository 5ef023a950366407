import OgpuSdk.Lib.Loop
import OgpuSdk.World

/-!
# Uploading to the pinning service

`publish_to_ipfs` posts one file, with retries on what may pass: a request
exception or a status of 500 and more. What the service answers to attempt `k`
is `net k`. The requests of one call share its file and, when there is one,
an absolute deadline on the monotonic clock. The pauses double, and what is
too large for a `float` or for `time.sleep` raises.
-/

namespace OgpuSdk

open Prog

def IPFS_PUBLISH_URL : String := "https://capi.ogpuscan.io/file/create"

structure HttpResponse where
  statusCode : ℤ
  /-- what `response.json()` returns or raises -/
  json : Except Exc Json

/-- A number of seconds: a Python `int`, or a finite `float` by its value. -/
inductive Seconds where
  | int (n : ℤ)
  | float (x : ℚ)

namespace Seconds

def value : Seconds → ℚ
  | .int n => n
  | .float x => x

/-- `x * 2 ** k`. A `float` factor makes a `float` of the power, and there is none for `2 ** 1024`;
short of that the product is exact, but for an infinity where it is too large to sleep anyway. -/
def doubled (k : Nat) : Seconds → Except Exc Seconds
  | .int n => .ok (.int (n * 2 ^ k))
  | .float x =>
    if k < 1024 then .ok (.float (x * 2 ^ k))
    else .error (.raw ⟨.exception "OverflowError", "int too large to convert to float"⟩)

/-- What `time.sleep` raises instead of sleeping: it counts nanoseconds in 64 bits. -/
def unsleepable (seconds : Seconds) : Option Exc :=
  if seconds.value * 10 ^ 9 < 2 ^ 63 then none
  else some (.raw ⟨.exception "OverflowError", match seconds with
    | .int _ => "timestamp too large to convert to C _PyTime_t"
    | .float _ => "timestamp out of range for platform time_t"⟩)

end Seconds

/-- What the outside answers during one attempt. -/
structure PostNet where
  /-- `requests.post` with a timeout -/
  post : ℚ → Reply HttpResponse
  /-- what `time.sleep` makes of its argument -/
  sleep : ℚ → Elapsed

/-- `last_error`: a failure that may pass. -/
inductive LastError where
  | request (text : String)
  | gateway (statusCode : ℤ)

/-- The arguments of one `publish_to_ipfs` call, the file put together. -/
structure IpfsPublish where
  file : Upload
  timeout : ℚ
  retries : ℤ
  backoff : Seconds
  deadline : Option ℚ

namespace IpfsPublish

def gatewayError (statusCode : ℤ) : OGPUError := .ipfsGatewayError IPFS_PUBLISH_URL statusCode

/-- `json["link"]` -/
def link : Json → Except Exc Json
  | .obj fields =>
    match Json.field? fields "link" with
    | some value => .ok value
    | none => .error (.raw ⟨.keyError, "'link'"⟩)
  | .arr _ => .error (.raw ⟨.exception "TypeError", "list indices must be integers or slices, not str"⟩)
  | .str _ => .error (.raw ⟨.exception "TypeError", "string indices must be integers, not 'str'"⟩)
  | value => .error (.raw ⟨.exception "TypeError",
      "'" ++ value.typeName ++ "' object is not subscriptable"⟩)

/-- What comes of one reply: the link, a failure that may pass, or an exception. -/
def reaction : Except Exc HttpResponse → Except Raised (String ⊕ LastError)
  | .error (.raw ⟨.requestException, text⟩) => .ok (.inr (.request text))
  | .error exc => .error exc.raised
  | .ok response =>
    if response.statusCode = 200 ∨ response.statusCode = 201 then
      match response.json.bind link with
      | .ok value => .ok (.inl value.pyStr)
      | .error (.raw ⟨.jsonDecodeError, text⟩) =>
        .error ((gatewayError response.statusCode).from (.raw ⟨.jsonDecodeError, text⟩))
      | .error (.raw ⟨.keyError, text⟩) =>
        .error ((gatewayError response.statusCode).from (.raw ⟨.keyError, text⟩))
      | .error exc => .error exc.raised
    else if response.statusCode < 500 then .error (gatewayError response.statusCode).raised
    else .ok (.inr (.gateway response.statusCode))

variable (self : IpfsPublish)

def attempts : Nat := (max 1 self.retries).toNat

/-- No time is left at this reading of the clock. -/
def exhausted (now : ℚ) : Bool := self.deadline.any (· - now ≤ 0)

/-- The timeout of a request, clipped to the time left. -/
def effectiveTimeout (now : ℚ) : ℚ :=
  match self.deadline with
  | none => self.timeout
  | some deadline => min self.timeout (deadline - now)

/-- How long to sleep after attempt `k`, clipped to the time left. -/
def sleepFor (k : Nat) (now : ℚ) : Except Exc Seconds := do
  let seconds ← self.backoff.doubled k
  match self.deadline with
  | none => pure seconds
  | some deadline =>
    if max (deadline - now) 0 < seconds.value then pure (.float (max (deadline - now) 0))
    else pure seconds

/-- The sleep between two attempts. -/
def pause (net : PostNet) (k : Nat) : SDK Unit := do
  let seconds ← SDK.lift (self.sleepFor k (← SDK.monotonic))
  if 0 < seconds.value then
    match seconds.unsleepable with
    | some exc => raise exc.raised
    | none => SDK.sleep net.sleep seconds.value

/-- What follows a reply: the end of the call, or the pause before the next turn. -/
def conclude (net : PostNet) (k : Nat) (answer : Except Exc HttpResponse) :
    SDK (Turn String (Option LastError)) :=
  match reaction answer with
  | .error raised => raise raised
  | .ok (.inl link) => pure (.done link)
  | .ok (.inr lastError) => do
    if k + 1 < self.attempts then
      self.pause net k
    pure (.next (some lastError))

/-- One turn of the loop; `k` counts from zero, `attempt` from one. -/
def attempt (net : PostNet) (k : Nat) (lastError : Option LastError) :
    SDK (Turn String (Option LastError)) := do
  let now ← SDK.monotonic
  if self.exhausted now then
    pure (.stop lastError)
  else do
    let timeout := self.effectiveTimeout now
    SDK.record (.post self.file timeout)
    SDK.elapse (net.post timeout).took
    self.conclude net k (net.post timeout).answer

/-- The code after the loop. -/
def afterLoop : Option LastError → SDK String
  | some (.gateway statusCode) => raise (gatewayError statusCode).raised
  | some (.request text) =>
    raise ((OGPUError.ipfsFetchError IPFS_PUBLISH_URL text).from (.raw ⟨.requestException, text⟩))
  | none =>
    raise (OGPUError.ipfsFetchError IPFS_PUBLISH_URL
      "publish budget exhausted before any attempt").raised

def run (net : Nat → PostNet) : SDK String :=
  loop (fun k lastError => self.attempt (net k) k lastError) afterLoop self.attempts 0 none

end IpfsPublish

def publishToIpfs (data : Content) (filename contentType : String) (timeout : ℚ) (retries : ℤ)
    (backoff : Seconds) (deadline : Option ℚ) (net : Nat → PostNet) : SDK String :=
  IpfsPublish.run ⟨⟨filename, data, contentType⟩, timeout, retries, backoff, deadline⟩ net

end OgpuSdk
