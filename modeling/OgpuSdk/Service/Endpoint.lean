import OgpuSdk.Service.Handlers

/-!
# Requests to a service

An endpoint accepts a request and runs its handler in the background: the
function itself or, with a timeout, a wrapper that runs the function in a
worker thread and waits for it until the timer fires. What becomes of the
request is recorded: a callback with the result, a failure, a timeout. The
steps of any number of requests interleave, and those of a request's worker
with those of its runner; what user code and the POST answer is up to the
outside.
-/

namespace OgpuSdk.Service

/-- A value of an output model, by what the runner asks of it; a model may define its own truth. -/
structure Output where
  truthy : Except Exc Bool
  modelDump : Except Exc Json

/-- What is recorded of a request. -/
inductive Outcome where
  /-- the POST of a result went through -/
  | callback (url : String) (result : Json)
  /-- `task_fail`; the message goes on with the text of the exception -/
  | failure (message : String) (exc : Exc)
  /-- `task_timeout` -/
  | timeout (message : String)

/-- `post` is what the POST answers: a status, which only makes a difference for the log. -/
def sendCallback (callbackUrl : Option String) (taskAddress : String) (result : Json)
    (post : Except Exc ℤ) : Except Exc (List Outcome) :=
  match callbackUrl.filter (· ≠ "") with
  | none => pure []
  | some callbackUrl => do
    let _ ← post
    pure [.callback s!"{callbackUrl}/{taskAddress}" result]

/-- The `try` block of the runner, from where the handler has returned or raised. -/
def runnerBody (callbackUrl : Option String) (taskAddress : String)
    (handled : Except Exc (Option Output)) (post : Except Exc ℤ) : Except Exc (List Outcome) := do
  match ← handled with
  | none => pure []
  | some result =>
    if ← result.truthy then
      sendCallback callbackUrl taskAddress (← result.modelDump) post
    else pure []

/-- What the runner records. -/
def runner (callbackUrl : Option String) (taskAddress functionName : String)
    (handled : Except Exc (Option Output)) (post : Except Exc ℤ) : List Outcome :=
  match runnerBody callbackUrl taskAddress handled post with
  | .ok outcomes => outcomes
  | .error exc =>
    if exc.isException then [.failure s!"[{taskAddress}] Error in `{functionName}`" exc] else []

/-- Where the runner of a request is. -/
inductive Runner where
  | accepted
  /-- the function runs, in the thread of the runner -/
  | running
  /-- `done.wait(timeout)` -/
  | waiting
  /-- `done.wait` has returned `False` -/
  | timedOut
  /-- the handler has returned or raised -/
  | returned (handled : Except Exc (Option Output))
  | ended (handled : Except Exc (Option Output)) (post : Except Exc ℤ)

/-- Where the worker thread of a request is. -/
inductive Worker where
  | absent
  /-- the function runs -/
  | running
  /-- the function has raised an `Exception` -/
  | failed (exc : Exc)
  /-- in the `finally` clause -/
  | finishing (answer : Except Exc Output)
  | gone (answer : Except Exc Output)

structure Request where
  taskAddress : String
  handler : Handler
  runner : Runner
  worker : Worker
  /-- `result[0]` -/
  result : Option Output
  /-- the event `done` is set -/
  done : Bool
  /-- the timer has fired -/
  fired : Bool
  outcomes : List Outcome

inductive RequestAct where
  /-- the background task starts, and with a timeout the worker -/
  | start
  /-- the function returns or raises -/
  | finish (answer : Except Exc Output)
  /-- the worker records its exception -/
  | logFailure
  | setDone
  /-- the timer fires before the event is set -/
  | fire
  /-- `done.wait` returns `True` -/
  | wake
  | logTimeout
  /-- the rest of the runner -/
  | report (post : Except Exc ℤ)

namespace Request

def accepted (taskAddress : String) (handler : Handler) : Request where
  taskAddress := taskAddress
  handler := handler
  runner := .accepted
  worker := .absent
  result := none
  done := false
  fired := false
  outcomes := []

def step (callbackUrl : Option String) (r : Request) : RequestAct → Option Request
  | .start =>
    match r.runner with
    | .accepted => some (if r.handler.timeout.isSome
        then { r with runner := .waiting, worker := .running }
        else { r with runner := .running })
    | _ => none
  | .finish answer =>
    match r.worker, r.runner with
    | .running, _ => some (match answer with
      | .ok output => { r with result := some output, worker := .finishing answer }
      | .error exc => { r with
          worker := if exc.isException then .failed exc else .finishing answer })
    | .absent, .running => some { r with runner := .returned (answer.map some) }
    | _, _ => none
  | .logFailure =>
    match r.worker with
    | .failed exc => some { r with
        worker := .finishing (.error exc)
        outcomes := r.outcomes ++ [.failure s!"Exception in `{r.handler.name}`" exc] }
    | _ => none
  | .setDone =>
    match r.worker with
    | .finishing answer => some { r with worker := .gone answer, done := true }
    | _ => none
  | .fire =>
    match r.runner, r.done with
    | .waiting, false => some { r with runner := .timedOut, fired := true }
    | _, _ => none
  | .wake =>
    match r.runner, r.done with
    | .waiting, true => some { r with runner := .returned (.ok r.result) }
    | _, _ => none
  | .logTimeout =>
    match r.runner with
    | .timedOut => some { r with
        runner := .returned (.ok none)
        outcomes := r.outcomes ++ [.timeout
          s!"`{r.handler.name}` timed out after {r.handler.timeout.getD 0} seconds"] }
    | _ => none
  | .report post =>
    match r.runner with
    | .returned handled => some { r with
        runner := .ended handled post
        outcomes := r.outcomes ++
          Service.runner callbackUrl r.taskAddress r.handler.name handled post }
    | _ => none

end Request

/-- The requests of a service, by their number. -/
abbrev Requests := ℕ → Option Request

inductive ServiceAct where
  | accept (id : ℕ) (taskAddress : String) (handler : Handler)
  | act (id : ℕ) (a : RequestAct)

namespace Requests

def step (callbackUrl : Option String) (s : Requests) : ServiceAct → Option Requests
  | .accept id taskAddress handler =>
    match s id with
    | none => some (Function.update s id (some (.accepted taskAddress handler)))
    | some _ => none
  | .act id a =>
    match s id with
    | none => none
    | some r => (r.step callbackUrl a).map fun r => Function.update s id (some r)

def machine (callbackUrl : Option String) : Machine Requests ServiceAct where
  init s := s = fun _ => none
  step := step callbackUrl

end Requests

end OgpuSdk.Service
