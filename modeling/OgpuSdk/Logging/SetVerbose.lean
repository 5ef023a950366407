import OgpuSdk.Lib.Loggers
import OgpuSdk.Lib.Machine
import OgpuSdk.Protocol.Revert

/-!
# Logging

The SDK logs to the children of `ogpu`. Importing it gives `ogpu` a handler
that prints nothing; `set_verbose` attaches one that prints, and takes it away
again; importing `ogpu.service` sets up `ogpu.service` on its own. A process
does these in any order, and configures its loggers as it likes in between.
-/

namespace OgpuSdk

/-- A handler, as far as it matters here who made it. -/
inductive LogHandler where
  /-- the `NullHandler` of `ogpu` -/
  | null
  /-- made by a call of `set_verbose` -/
  | verbose (id : Nat)
  /-- the one `ogpu.service` makes -/
  | service
  | user (id level : Nat)
  deriving DecidableEq

/-- The SDK leaves the levels of its own handlers at 0. -/
def LogHandler.level : LogHandler → Nat
  | .null | .verbose _ | .service => 0
  | .user _ level => level

def LogHandler.isVerbose : LogHandler → Bool
  | .verbose _ => true
  | _ => false

structure LogState where
  loggers : Loggers LogHandler
  imported : Bool
  serviceImported : Bool
  /-- `_verbose_handler` -/
  verboseHandler : Option Nat
  /-- how many handlers `set_verbose` has made -/
  made : Nat

/-- A process that has just started. -/
def LogState.started : LogState := ⟨.fresh, false, false, none, 0⟩

namespace LogState

def ogpu : LoggerName := ["ogpu"]

def service : LoggerName := ["service", "ogpu"]

def setVerbose (s : LogState) (enabled : Bool) (level : Nat) : LogState :=
  if enabled then
    let s := match s.verboseHandler with
      | none => { s with
          loggers := s.loggers.addHandler ogpu (.verbose s.made)
          verboseHandler := some s.made
          made := s.made + 1 }
      | some _ => s
    { s with loggers := s.loggers.setLevel ogpu level }
  else
    match s.verboseHandler with
    | some id => { s with
        loggers := (s.loggers.removeHandler ogpu (.verbose id)).setLevel ogpu 0
        verboseHandler := none }
    | none => s

/-- `os.getenv("OGPU_VERBOSE", "").strip().lower() in ("1", "true", "yes")` -/
def wantsVerbose (env : Option String) : Bool :=
  ["1", "true", "yes"].contains
    (String.ofList (Text.lower (strip Text.isSpace (env.getD "").toList)))

/-- `import ogpu`, the first time; the default level is `DEBUG`. -/
def importSdk (s : LogState) (env : Option String) : LogState :=
  let s := { s with loggers := s.loggers.addHandler ogpu .null, imported := true }
  if wantsVerbose env then s.setVerbose true 10 else s

/-- `import ogpu.service`, the first time. -/
def importService (s : LogState) : LogState :=
  let loggers := s.loggers.setPropagate service false
  let loggers := if (loggers service).handlers.isEmpty then loggers.addHandler service .service
    else loggers
  { s with loggers := loggers.setLevel service 20, serviceImported := true }

theorem importService_loggers (s : LogState) :
    s.importService.loggers =
      (if (s.loggers.setPropagate service false service).handlers.isEmpty then
        (s.loggers.setPropagate service false).addHandler service .service
      else s.loggers.setPropagate service false).setLevel service 20 := rfl

end LogState

/-- What a process does with its loggers. -/
inductive LogOp where
  | importSdk (env : Option String)
  | importService
  | setVerbose (enabled : Bool) (level : Nat)
  /-- the process adds a handler of its own to a logger -/
  | addHandler (name : LoggerName) (id level : Nat)
  | removeHandler (name : LoggerName) (id level : Nat)
  /-- the process drops all the handlers of a logger -/
  | clearHandlers (name : LoggerName)
  | setLevel (name : LoggerName) (level : Nat)
  | setPropagate (name : LoggerName) (propagate : Bool)

/-- `set_verbose` and `ogpu.service` are there once the SDK is imported. -/
def LogOp.step (s : LogState) : LogOp → Option LogState
  | importSdk env => some (if s.imported then s else s.importSdk env)
  | importService =>
    if s.imported then some (if s.serviceImported then s else s.importService) else none
  | setVerbose enabled level => if s.imported then some (s.setVerbose enabled level) else none
  | addHandler name id level =>
    some { s with loggers := s.loggers.addHandler name (.user id level) }
  | removeHandler name id level =>
    some { s with loggers := s.loggers.removeHandler name (.user id level) }
  | clearHandlers name => some { s with loggers := s.loggers.clearHandlers name }
  | setLevel name level => some { s with loggers := s.loggers.setLevel name level }
  | setPropagate name propagate =>
    some { s with loggers := s.loggers.setPropagate name propagate }

def LogOp.machine : Machine LogState LogOp where
  init s := s = .started
  step := LogOp.step

namespace LogOp

variable {s s' : LogState}

theorem step_importService (h : importService.step s = some s') :
    s.imported = true ∧ s' = if s.serviceImported then s else s.importService := by
  unfold step at h
  dsimp only at h
  by_cases hi : s.imported = true
  · rw [if_pos hi, Option.some.injEq] at h
    exact ⟨hi, h.symm⟩
  · rw [if_neg hi] at h
    cases h

theorem step_setVerbose {enabled : Bool} {level : Nat}
    (h : (setVerbose enabled level).step s = some s') :
    s.imported = true ∧ s' = s.setVerbose enabled level := by
  unfold step at h
  dsimp only at h
  by_cases hi : s.imported = true
  · rw [if_pos hi, Option.some.injEq] at h
    exact ⟨hi, h.symm⟩
  · rw [if_neg hi] at h
    cases h

end LogOp

end OgpuSdk
