import OgpuSdk.Ipfs.Publish

/-!
# Fetching from a gateway

`fetch_ipfs_json` makes one GET request, without retries. What the gateway
answers is `get`.
-/

namespace OgpuSdk

open Prog

/-- `except (json.JSONDecodeError, ValueError)` catches the exception. -/
def RawExc.isValueError (exc : RawExc) : Bool :=
  match exc.cls with
  | .jsonDecodeError => true
  -- the class itself and its built-in subclasses
  | .exception name =>
    ["ValueError", "UnicodeError", "UnicodeDecodeError", "UnicodeEncodeError",
      "UnicodeTranslateError"].contains name
  | _ => false

namespace IpfsFetch

/-- What comes of the reply: the parsed body, or an exception. -/
def parsed (url : String) : Except Exc HttpResponse → Except Raised Json
  | .error (.raw ⟨.requestException, text⟩) =>
    .error ((OGPUError.ipfsFetchError url text).from (.raw ⟨.requestException, text⟩))
  | .error exc => .error exc.raised
  | .ok response =>
    if response.statusCode ≠ 200 then
      .error (OGPUError.ipfsGatewayError url response.statusCode).raised
    else
      match response.json with
      | .ok data => .ok data
      | .error (.raw exc) =>
        if exc.isValueError then
          .error ((OGPUError.ipfsFetchError url ("Invalid JSON: " ++ exc.text)).from (.raw exc))
        else .error (Exc.raw exc).raised
      | .error (.ogpu e) => .error e.raised

end IpfsFetch

def fetchIpfsJson (url : String) (timeout : ℚ) (get : ℚ → Reply HttpResponse) : SDK Json := do
  SDK.elapse (get timeout).took
  match IpfsFetch.parsed url (get timeout).answer with
  | .ok data => pure data
  | .error raised => raise raised

theorem exec_fetchIpfsJson (url : String) (timeout : ℚ) (get : ℚ → Reply HttpResponse)
    (w : World) :
    (fetchIpfsJson url timeout get).exec w =
      (IpfsFetch.parsed url (get timeout).answer, w.advance (get timeout).took) := by
  unfold fetchIpfsJson
  rw [exec_bind_ok (SDK.exec_elapse _ _)]
  cases IpfsFetch.parsed url (get timeout).answer <;> rfl

end OgpuSdk
