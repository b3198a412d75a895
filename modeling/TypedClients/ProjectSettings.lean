import TypedClients.Client.Package
import TypedClients.Controller
import TypedClients.Source.Unit

/-!
# The clients of a project

`ProjectSettings` say where the sources of a project are and what its clients look like. The routes
of all controllers give the client modules, and these go into a sink together with their packages.
Nothing is put there before all modules are made.
-/
namespace TypedClients

open TypedClients.Text

/-- Where the sources are, and what is made from them. -/
structure ProjectSettings where
  /-- The folder of the sources. -/
  source : String
  /-- The folder that client modules are written to. -/
  output : String
  apiName : String := "api"
  /-- The package that the sources belong to. -/
  package : Option String := none
  included : List String := ["*.py"]
  excluded : List String := []
  controllerFileEnding : String := "_controller.py"
  clientEnding : String := "_client"
  runtimeModule : String := "api_runtime"
  /-- Package modules are made as well. -/
  withPackages : Bool := true
  deriving DecidableEq, Repr, Inhabited

/-- The first path that occurs again. -/
def repeatedPath? (seen : List String) : List ClientModule → Option String
  | [] => none
  | m :: ms => if m.path ∈ seen then some m.path else repeatedPath? (m.path :: seen) ms

namespace ProjectSettings

def routing (s : ProjectSettings) : RouteSettings := ⟨s.apiName, s.controllerFileEnding⟩

def clients (s : ProjectSettings) : ClientSettings := ⟨s.runtimeModule, s.clientEnding⟩

def selection (s : ProjectSettings) : SourceProject.FileSelection := ⟨s.included, s.excluded⟩

/-- The project in a file tree. -/
def load (s : ProjectSettings) (tree : FileTree) : Traced SourceProject :=
  SourceProject.load tree (Path.ofString s.source) s.selection s.package

/-- The routes of a project. -/
def routeFiles (s : ProjectSettings) (p : SourceProject) : Traced (List RouteFile) :=
  s.routing.routeFiles p.units

/-- The client modules of a project. No two of them have the same path. -/
def clientModules (s : ProjectSettings) (p : SourceProject) : Traced (List ClientModule) := do
  let files ← s.routeFiles p
  let modules ← files.mapM s.clients.clientModule
  match repeatedPath? [] modules with
  | some path => Traced.report (.generation .sharedModule (some path) none)
  | none => return modules

/-- What is put out for client modules. -/
def outputModules (s : ProjectSettings) (modules : List ClientModule) : List OutputModule :=
  modules.map ClientModule.output ++ if s.withPackages then packageModules modules else []

/-- Makes all modules of a project and puts them into a sink. -/
def generate {σ : Type} (s : ProjectSettings) (sink : Sink σ) (state : σ)
    (project : Traced SourceProject) : Traced (List String) × σ :=
  let made := project >>= s.clientModules
  match made.result with
  | .error f => (⟨made.log, .error f⟩, state)
  | .ok [] =>
      (do
        let _ ← made
        Traced.note .warning .runs ("No controllers found in " ++ s.source)
        return [],
      state)
  | .ok (m :: ms) =>
      let (out, after) := sink.putAll state (s.outputModules (m :: ms))
      (⟨made.log ++ out.log, out.result⟩, after)

end ProjectSettings

end TypedClients
