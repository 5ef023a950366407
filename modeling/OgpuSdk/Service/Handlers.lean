import OgpuSdk.Lib.Machine
import OgpuSdk.Lib.Prog
import OgpuSdk.Types.Errors

/-!
# The registries of a service

`ogpu.service` keeps the handlers that `expose(timeout)` registers, in order,
and the one function `init()` registers. A decorated function is what the two
decorators read of it: its name, the names of its parameters and its
annotations, any of which may raise instead. The run of a service's module is
a sequence of decorations, some of them rejected.
-/

namespace OgpuSdk.Service

open Prog

/-- A subclass of pydantic's `BaseModel`, by its identity. -/
structure Model where
  id : Nat
  deriving DecidableEq

/-- A type annotation, by what `expose` finds out about it. -/
inductive Hint where
  | model (model : Model)
  /-- not a class, or the class of something else -/
  | other
  /-- `issubclass` raises -/
  | refused (exc : Exc)

/-- A callable object, by its identity and what `inspect` and `typing` find in it. -/
structure Function where
  id : Nat
  /-- `__name__` -/
  name : Except Exc String
  /-- `inspect.signature`, by the names of the parameters -/
  parameters : Except Exc (List String)
  /-- `typing.get_type_hints` -/
  hints : Except Exc (List (String × Hint))

/-- A function that has a name. -/
structure Named where
  func : Function
  name : String
  name_eq : func.name = .ok name

def Function.named (func : Function) : Except Exc Named :=
  match h : func.name with
  | .ok name => .ok ⟨func, name, h⟩
  | .error exc => .error exc

/-- A registered callable: the function, or with a timeout a wrapper that keeps its name. -/
structure Handler where
  function : Named
  timeout : Option ℤ

/-- `__name__` of the callable. -/
def Handler.name (handler : Handler) : String := handler.function.name

/-- An entry of `_exposed_handlers`. -/
structure Exposed where
  handler : Handler
  inputModel : Model
  outputModel : Model

structure Registry where
  /-- `_exposed_handlers` -/
  handlers : List Exposed
  /-- `_init_handler` -/
  initHandler : Option Named

/-- The registries right after the modules are imported. -/
def Registry.empty : Registry := ⟨[], none⟩

def Registry.names (registry : Registry) : List String :=
  registry.handlers.map fun exposed => exposed.handler.name

abbrev RegistryProg := Prog Registry Raised

/-- What Python code gives, or raises. -/
def given {α : Type} : Except Exc α → RegistryProg α
  | .ok a => pure a
  | .error exc => raise exc.raised

def addHandler (handler : Handler) (inputModel outputModel : Model) : RegistryProg Unit :=
  modify fun registry => { registry with
    handlers := registry.handlers ++ [⟨handler, inputModel, outputModel⟩] }

def addInitHandler (fn : Named) : RegistryProg Unit := do
  match (← get).initHandler with
  | some handler =>
    raise (raised "ValueError"
      s!"An init handler `{handler.name}` is already registered. Only one init function is allowed.")
  | none => modify fun registry => { registry with initHandler := some fn }

/-- The model a type annotation is, or a `TypeError` of this text. -/
def modelOf (hint : Hint) (text : String) : RegistryProg Model :=
  match hint with
  | .model model => pure model
  | .other => raise (raised "TypeError" text)
  | .refused exc => raise exc.raised

/-- `expose(timeout)` on a function; a timeout of 0 is none. -/
def expose (timeout : Option ℤ) (func : Function) : RegistryProg Function := do
  let function ← given func.named
  let functionName := function.name
  if functionName ∈ (← get).names then
    raise (raised "ValueError" s!"A handler named `{functionName}` is already registered.")
  match ← given func.parameters with
  | [parameter] =>
    let hints ← given func.hints
    match hints.lookup "return" with
    | none => raise (raised "TypeError" s!"Function `{functionName}` must have a return type.")
    | some output =>
      match hints.lookup parameter with
      | none => raise (raised "KeyError" (Json.reprStr parameter))
      | some input =>
        let inputModel ← modelOf input
          s!"Input to `{functionName}` must be a subclass of pydantic.BaseModel"
        let outputModel ← modelOf output
          s!"Return type of `{functionName}` must be a subclass of pydantic.BaseModel"
        addHandler ⟨function, timeout.filter (· ≠ 0)⟩ inputModel outputModel
        pure func
  | parameters => raise (raised "TypeError"
      s!"Function `{functionName}` must take exactly ONE input argument (got {parameters.length})")

/-- `init()` on a function. -/
def init (func : Function) : RegistryProg Function := do
  let function ← given func.named
  let parameters ← given func.parameters
  if parameters.length ≠ 0 then
    raise (raised "TypeError"
      s!"Init function `{function.name}` must take no arguments (got {parameters.length})")
  addInitHandler function
  pure func

/-! ## Decorations -/

inductive Decoration where
  | expose (timeout : Option ℤ) (func : Function)
  | init (func : Function)

namespace Decoration

def run : Decoration → RegistryProg Function
  | .expose timeout func => Service.expose timeout func
  | .init func => Service.init func

def after (registry : Registry) (d : Decoration) : Registry := (d.run.exec registry).2

/-- The function of an `init()` that may be registered: it has a name and no parameters. -/
def validInit : Decoration → Option Named
  | .expose _ _ => none
  | .init func =>
    match func.named, func.parameters with
    | .ok function, .ok [] => some function
    | _, _ => none

def machine : Machine Registry Decoration where
  init registry := registry = .empty
  step registry d := some (d.after registry)

end Decoration

/-! ## What a decoration does -/

section

variable {registry : Registry} {timeout : Option ℤ} {func : Function}

theorem exec_given_ok {α : Type} (a : α) : (given (.ok a)).exec registry = (.ok a, registry) := rfl

theorem modelOf_cases (hint : Hint) (text : String) :
    (∃ model, (modelOf hint text).exec registry = (.ok model, registry)) ∨
      ∃ e, (modelOf hint text).exec registry = (.error e, registry) := by
  cases hint with
  | model model => exact .inl ⟨model, rfl⟩
  | other => exact .inr ⟨_, rfl⟩
  | refused exc => exact .inr ⟨_, rfl⟩

theorem named_func {function : Named} (h : func.named = .ok function) : function.func = func := by
  unfold Function.named at h
  split at h
  · cases h
    rfl
  · cases h

/-- `expose` registers a handler under a new name, or raises and changes nothing. -/
theorem expose_cases (registry : Registry) (timeout : Option ℤ) (func : Function) :
    (∃ function inputModel outputModel, function.func = func ∧ function.name ∉ registry.names ∧
        (expose timeout func).exec registry = (.ok func, { registry with
          handlers := registry.handlers ++
            [⟨⟨function, timeout.filter (· ≠ 0)⟩, inputModel, outputModel⟩] })) ∨
      ∃ e, (expose timeout func).exec registry = (.error e, registry) := by
  unfold expose
  cases hnamed : func.named with
  | error exc => exact .inr ⟨_, rfl⟩
  | ok function =>
  rw [exec_bind_ok (exec_given_ok function)]
  dsimp only
  rw [exec_bind_ok (exec_get registry)]
  by_cases hname : function.name ∈ registry.names
  · rw [if_pos hname]
    exact .inr ⟨_, rfl⟩
  rw [if_neg hname]
  cases func.parameters with
  | error exc => exact .inr ⟨_, rfl⟩
  | ok parameters =>
  rw [exec_bind_ok (exec_given_ok parameters)]
  rcases parameters with _ | ⟨parameter, _ | ⟨_, _⟩⟩
  · exact .inr ⟨_, rfl⟩
  · cases func.hints with
    | error exc => exact .inr ⟨_, rfl⟩
    | ok hints =>
    dsimp only
    rw [exec_bind_ok (exec_given_ok hints)]
    cases hints.lookup "return" with
    | none => exact .inr ⟨_, rfl⟩
    | some output =>
    cases hints.lookup parameter with
    | none => exact .inr ⟨_, rfl⟩
    | some input =>
    dsimp only
    rcases modelOf_cases input
      s!"Input to `{function.name}` must be a subclass of pydantic.BaseModel" with
      ⟨inputModel, hinput⟩ | ⟨e, hinput⟩
    · rw [exec_bind_ok hinput]
      rcases modelOf_cases output
        s!"Return type of `{function.name}` must be a subclass of pydantic.BaseModel" with
        ⟨outputModel, houtput⟩ | ⟨e, houtput⟩
      · rw [exec_bind_ok houtput]
        exact .inl ⟨function, inputModel, outputModel, named_func hnamed, hname, rfl⟩
      · exact .inr ⟨e, exec_bind_error houtput⟩
    · exact .inr ⟨e, exec_bind_error hinput⟩
  · exact .inr ⟨_, rfl⟩

/-- `add_init_handler` takes the first function it is given. -/
theorem exec_addInitHandler (registry : Registry) (fn : Named) :
    (registry.initHandler = none ∧ (addInitHandler fn).exec registry =
        (.ok (), { registry with initHandler := some fn })) ∨
      (registry.initHandler.isSome = true ∧
        ∃ e, (addInitHandler fn).exec registry = (.error e, registry)) := by
  unfold addInitHandler
  rw [exec_bind_ok (exec_get registry)]
  cases hinit : registry.initHandler with
  | none => exact .inl ⟨rfl, rfl⟩
  | some handler => exact .inr ⟨rfl, _, rfl⟩

/-- `init` registers the first valid function it is given; otherwise it raises and changes
nothing. -/
theorem init_cases (registry : Registry) (func : Function) :
    (∃ function, (Decoration.init func).validInit = some function ∧ registry.initHandler = none ∧
        (init func).exec registry = (.ok func, { registry with initHandler := some function })) ∨
      ((Decoration.init func).validInit = none ∨ registry.initHandler.isSome = true) ∧
        ∃ e, (init func).exec registry = (.error e, registry) := by
  unfold init
  cases hnamed : func.named with
  | error exc => exact .inr ⟨.inl (by simp [Decoration.validInit, hnamed]), _, rfl⟩
  | ok function =>
  rw [exec_bind_ok (exec_given_ok function)]
  cases hparameters : func.parameters with
  | error exc => exact .inr ⟨.inl (by simp [Decoration.validInit, hparameters]), _, rfl⟩
  | ok parameters =>
  rw [exec_bind_ok (exec_given_ok parameters)]
  rcases parameters with _ | ⟨parameter, parameters⟩
  · have hvalid : (Decoration.init func).validInit = some function := by
      simp [Decoration.validInit, hnamed, hparameters]
    rcases exec_addInitHandler registry function with ⟨hnone, he⟩ | ⟨hsome, e, he⟩
    · exact .inl ⟨function, hvalid, hnone, exec_bind_ok he⟩
    · exact .inr ⟨.inr hsome, e, exec_bind_error he⟩
  · exact .inr ⟨.inl (by simp [Decoration.validInit, hparameters]), _, rfl⟩

/-! ## What every decoration keeps -/

namespace Decoration

/-- The names are distinct, and the registered function is the first valid one so far. -/
structure Inv (ds : List Decoration) (registry : Registry) : Prop where
  distinct : registry.names.Nodup
  first : registry.initHandler = (ds.filterMap validInit).head?

theorem Inv.empty : Inv [] .empty := ⟨List.nodup_nil, rfl⟩

/-- A decoration that raises changes nothing. -/
theorem run_error {d : Decoration} {e : Raised} {registry' : Registry}
    (h : d.run.exec registry = (.error e, registry')) : registry' = registry := by
  cases d with
  | expose timeout func =>
    unfold run at h
    rcases expose_cases registry timeout func with ⟨_, _, _, -, -, he⟩ | ⟨e', he⟩
    · rw [he] at h
      cases h
    · rw [he] at h
      cases h
      rfl
  | init func =>
    unfold run at h
    rcases init_cases registry func with ⟨_, -, -, he⟩ | ⟨-, e', he⟩
    · rw [he] at h
      cases h
    · rw [he] at h
      cases h
      rfl

theorem Inv.after {ds : List Decoration} (d : Decoration) (h : Inv ds registry) :
    Inv (ds ++ [d]) (d.after registry) := by
  have hfirst : ((ds ++ [d]).filterMap validInit).head? =
      registry.initHandler.or (validInit d) := by
    rw [List.filterMap_append, List.head?_append, h.first]
    cases hvalid : validInit d <;> simp [hvalid]
  unfold Decoration.after
  cases d with
  | expose timeout func =>
    unfold run
    have hkept : registry.initHandler =
        ((ds ++ [Decoration.expose timeout func]).filterMap validInit).head? := by
      rw [hfirst]
      exact (Option.or_none).symm
    rcases expose_cases registry timeout func with
      ⟨function, inputModel, outputModel, -, hname, he⟩ | ⟨e, he⟩
    · rw [he]
      refine ⟨?_, hkept⟩
      have hnames : registry.names ++ [function.name] |>.Nodup := by
        rw [List.nodup_append]
        refine ⟨h.distinct, List.pairwise_singleton _ _, ?_⟩
        rintro name hmem _ hsingle rfl
        rw [List.mem_singleton] at hsingle
        exact hname (hsingle ▸ hmem)
      simpa [Registry.names, Handler.name] using hnames
    · rw [he]
      exact ⟨h.distinct, hkept⟩
  | init func =>
    unfold run
    rcases init_cases registry func with ⟨function, hvalid, hnone, he⟩ | ⟨hrejected, e, he⟩
    · rw [he]
      refine ⟨h.distinct, ?_⟩
      rw [hfirst, hnone, hvalid]
      rfl
    · rw [he]
      refine ⟨h.distinct, ?_⟩
      rw [hfirst]
      rcases hrejected with hnone | hsome
      · rw [hnone, Option.or_none]
      · obtain ⟨handler, hhandler⟩ := Option.isSome_iff_exists.mp hsome
        rw [hhandler]
        rfl

theorem run_inv {ds : List Decoration} (hr : machine.run .empty ds = some registry) :
    Inv ds registry := by
  refine Machine.run_inv (P := fun _ => True) .empty ?_ (fun _ _ => trivial) hr
  rintro ds registry d registry' - - hstep h
  cases hstep
  exact h.after d

end Decoration

end

end OgpuSdk.Service
