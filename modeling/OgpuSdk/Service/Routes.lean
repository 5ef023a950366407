import OgpuSdk.Lib.Template
import OgpuSdk.Service.Handlers
import Mathlib.Data.List.Nodup

/-!
# The routes of a service

`start()` makes a route `/run/<name>/<task address>` of every registered
handler, the name being part of a path template. A request goes to the first
route whose template fits its path. What a template fits is up to the web
framework.
-/

namespace OgpuSdk.Service

open Prog

/-- An endpoint, by what `create_endpoint` is given for it. -/
structure Endpoint where
  handler : Handler
  inputModel : Model
  functionName : String

structure Route where
  path : String
  endpoint : Endpoint

/-- The route of a handler. -/
def Exposed.route (exposed : Exposed) : Route where
  path := "/run/" ++ exposed.handler.name ++ "/" ++ "\x7btask_address\x7d"
  endpoint := ⟨exposed.handler, exposed.inputModel, exposed.handler.name⟩

/-- The routes `start()` builds, in order. -/
def start (registry : Registry) : List Route := registry.handlers.map Exposed.route

/-- The endpoint a request for a path goes to: that of the first route whose template fits. -/
def dispatch (fits : String → String → Bool) (routes : List Route) (path : String) :
    Option Endpoint := (routes.find? fun route => fits route.path path).map Route.endpoint

/-- A text without braces, as the name of every function is that a `def` makes. -/
def Plain (text : String) : Prop := '\x7b' ∉ text.toList ∧ '\x7d' ∉ text.toList

/-- A text that one segment of a path can be. -/
def Segment (text : String) : Prop := text ≠ "" ∧ '/' ∉ text.toList

/-- What web frameworks document about path templates: a text without braces stands for itself, and
a parameter behind it for one segment. -/
def ReadsTemplates (fits : String → String → Bool) : Prop :=
  ∀ text path, Plain text → (fits (text ++ "\x7btask_address\x7d") path = true ↔
    ∃ taskAddress, Segment taskAddress ∧ path = text ++ taskAddress)

/-- The decision piece by piece. -/
def templateFits (template path : String) : Bool :=
  Template.fits (Template.pieces false template.toList) path.toList

theorem readsTemplates_templateFits : ReadsTemplates templateFits := by
  intro text path htext
  unfold templateFits
  rw [String.toList_append, Template.pieces_literal htext.1, Template.fits_literal]
  have hparam : Template.pieces false "\x7btask_address\x7d".toList = [.param] := by
    decide
  simp only [hparam, Template.fits_param]
  constructor
  · rintro ⟨t, hpath, hne, hslash⟩
    refine ⟨String.ofList t, ⟨?_, ?_⟩, ?_⟩
    · rwa [Ne, ← String.toList_inj, String.toList_ofList]
    · rwa [String.toList_ofList]
    · rw [← String.toList_inj, String.toList_append, String.toList_ofList, hpath]
  · rintro ⟨t, ⟨hne, hslash⟩, rfl⟩
    refine ⟨t.toList, String.toList_append, ?_, hslash⟩
    rwa [Ne, String.toList_eq_nil_iff]

/-- What holds of the registries after the decorations `ds`, and of the routes made of them. -/
structure Registry.Sound (fits : String → String → Bool) (ds : List Decoration)
    (registry : Registry) : Prop where
  distinct : registry.names.Nodup
  paths : ((start registry).map Route.path).Nodup
  first : registry.initHandler = (ds.filterMap Decoration.validInit).head?
  rejected : ∀ (d : Decoration) e registry',
    d.run.exec registry = (.error e, registry') → registry' = registry
  routed : (∀ name ∈ registry.names, Plain name) →
    ∀ exposed ∈ registry.handlers, ∀ taskAddress, Segment taskAddress →
      dispatch fits (start registry) ("/run/" ++ exposed.handler.name ++ "/" ++ taskAddress) =
        some ⟨exposed.handler, exposed.inputModel, exposed.handler.name⟩

section

variable {fits : String → String → Bool} {registry : Registry}

/-- The only entry a test takes is the one it finds. -/
theorem find?_eq_some_of_unique {α : Type} {p : α → Bool} {x : α} {xs : List α} (hx : x ∈ xs)
    (hp : p x = true) (hunique : ∀ y ∈ xs, p y = true → y = x) : xs.find? p = some x := by
  cases hfind : xs.find? p with
  | none => exact absurd hp (by simpa using List.find?_eq_none.mp hfind x hx)
  | some y => rw [hunique y (List.mem_of_find?_eq_some hfind) (List.find?_some hfind)]

/-- Paths below `/run/` with the same text have the same name and the same task address. -/
theorem run_path_inj {name name' taskAddress taskAddress' : String}
    (ht : Segment taskAddress) (ht' : Segment taskAddress')
    (h : "/run/" ++ name ++ "/" ++ taskAddress = "/run/" ++ name' ++ "/" ++ taskAddress') :
    name = name' := by
  have hlist := congrArg String.toList h
  simp only [String.toList_append, List.append_assoc] at hlist
  have hrest := List.append_cancel_left hlist
  exact String.toList_inj.mp (Template.append_cons_inj hrest ht.2 ht'.2).1

theorem plain_run {name : String} (h : Plain name) : Plain ("/run/" ++ name ++ "/") := by
  unfold Plain at h ⊢
  simpa [String.toList_append] using h

/-- A request for a registered name goes to the handler of that name. -/
theorem dispatch_start (hfits : ReadsTemplates fits) (hnames : registry.names.Nodup)
    (hplain : ∀ name ∈ registry.names, Plain name) {exposed : Exposed}
    (hexposed : exposed ∈ registry.handlers) {taskAddress : String} (ht : Segment taskAddress) :
    dispatch fits (start registry) ("/run/" ++ exposed.handler.name ++ "/" ++ taskAddress) =
      some ⟨exposed.handler, exposed.inputModel, exposed.handler.name⟩ := by
  have hfit : ∀ other ∈ registry.handlers, (fits other.route.path
      ("/run/" ++ exposed.handler.name ++ "/" ++ taskAddress) = true ↔ other = exposed) := by
    intro other hother
    have hname := hplain other.handler.name (List.mem_map_of_mem hother)
    refine (hfits _ _ (plain_run hname)).trans ⟨?_, ?_⟩
    · rintro ⟨taskAddress', ht', hpath⟩
      exact List.inj_on_of_nodup_map hnames hother hexposed (run_path_inj ht ht' hpath).symm
    · rintro rfl
      exact ⟨taskAddress, ht, rfl⟩
  have hfind : registry.handlers.find? (fun other => fits other.route.path
      ("/run/" ++ exposed.handler.name ++ "/" ++ taskAddress)) = some exposed :=
    find?_eq_some_of_unique hexposed ((hfit exposed hexposed).mpr rfl)
      fun other hother h => (hfit other hother).mp h
  unfold dispatch start
  rw [List.find?_map, Function.comp_def, hfind]
  rfl

/-- Two names make two path templates. -/
theorem nodup_paths (hnames : registry.names.Nodup) :
    ((start registry).map Route.path).Nodup := by
  have hpaths : (start registry).map Route.path =
      registry.names.map fun name => "/run/" ++ name ++ "/" ++ "\x7btask_address\x7d" := by
    simp [start, Registry.names, Exposed.route, Function.comp_def]
  rw [hpaths]
  apply hnames.map
  intro name name' h
  exact run_path_inj (by simp [Segment]) (by simp [Segment]) h

end

/-- After any decorations, rejected ones among them: the names of the handlers are distinct, and so
are their paths; the init handler is the first valid one; a decoration that raises changes nothing;
and, if no name has a brace, every request for a registered name goes to the handler and the input
model of that name. -/
theorem registry_sound {fits : String → String → Bool} (hfits : ReadsTemplates fits)
    {ds : List Decoration} {registry : Registry}
    (hr : Decoration.machine.run .empty ds = some registry) : registry.Sound fits ds := by
  have hinv := Decoration.run_inv hr
  exact ⟨hinv.distinct, nodup_paths hinv.distinct, hinv.first,
    fun d e registry' h => Decoration.run_error h,
    fun hplain exposed hexposed taskAddress ht =>
      dispatch_start hfits hinv.distinct hplain hexposed ht⟩

/-- A function from the model 0 to the model 1. -/
def function (id : Nat) (name : String) : Function where
  id := id
  name := .ok name
  parameters := .ok ["data"]
  hints := .ok [("data", .model ⟨0⟩), ("return", .model ⟨1⟩)]

/-- Two handlers, one of them with a timeout, and a name taken twice. -/
theorem registry_sound_rejected :
    ∃ registry, Decoration.machine.run .empty
        [.expose none (function 0 "f"), .expose (some 30) (function 1 "g"),
          .expose none (function 2 "f")] = some registry ∧
      registry.names = ["f", "g"] ∧ registry.Sound templateFits
        [.expose none (function 0 "f"), .expose (some 30) (function 1 "g"),
          .expose none (function 2 "f")] :=
  ⟨_, rfl, rfl, registry_sound readsTemplates_templateFits rfl⟩

/-- A function renamed to a text with braces: its route takes the requests for every handler
behind it. -/
theorem not_routed_braces :
    ∃ registry, Decoration.machine.run .empty
        [.expose none (function 0 "\x7bx\x7d"), .expose none (function 1 "f")] = some registry ∧
      registry.names = ["\x7bx\x7d", "f"] ∧
      (dispatch templateFits (start registry) "/run/f/0xAA").map Endpoint.functionName =
        some "\x7bx\x7d" := by
  refine ⟨_, rfl, rfl, ?_⟩
  decide

end OgpuSdk.Service
