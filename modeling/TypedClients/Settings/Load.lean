import TypedClients.Settings.Json
import TypedClients.Settings.Schema
import TypedClients.Settings.Toml
import TypedClients.Settings.Yaml.Value
import TypedClients.Text.LineEnd

/-!
# Loading a configuration

A configuration comes from a file that is named, or else from the first place in the working folder
that has one: a file of its own, or a table in the project file. The environment may give the
projects where the configuration does not.
-/
namespace TypedClients.Settings

open TypedClients.Text

/-- Where a configuration is looked for. -/
structure Surroundings where
  files : FileTree
  /-- The names and the values of variables. -/
  environment : List (String × String) := []
  deriving Inhabited

/-- The names of the files with a configuration, the preferred one first. -/
def fileNames : List String := ["routegen.yaml", "routegen.yml"]

def projectFileName : String := "pyproject.toml"

/-- The table of tools in a project file. -/
def toolKey : String := "tool"

/-- The table of this tool in it. -/
def ownKey : String := "routegen"

/-- The variable with the projects. Its name may be in any case. -/
def projectsVariable : String := "ROUTEGEN_PROJECTS"

/-- The projects that the environment gives. -/
def environmentProjects (environment : List (String × String)) : Reading (Option Data) :=
  let isNamed (name : String) : Bool := name.map Char.toUpper == projectsVariable
  match environment.reverse.find? (isNamed ·.1) with
  | none => .ok none
  | some (_, text) => match Json.read text with
      | none => .error { issue := .malformedVariable }
      | some .null => .ok none
      | some d => .ok (some d)

/-- The entries of a mapping whose keys are texts. -/
def textEntries (entries : List (Data × Data)) : Option (Dictionary String Data) := do
  let named ← entries.mapM fun (key, value) => key.text?.map (·, value)
  return named.foldl (fun d (key, value) => d.insert key value) []

/-- Reads a configuration that was found in the file with the given name. -/
def interpret (environment : List (String × String)) (file : String) (data : Data) :
    Except Failure (List ProjectSettings) :=
  let orRefuse : Reading (List ProjectSettings) → Except Failure (List ProjectSettings)
    | .ok projects => .ok projects
    | .error l => .error (.reported (.configuration (.invalidConfiguration l.issue) (some file)
        (some l.place) (some .invalidConfiguration)))
  match data with
  | .mapping entries => match textEntries entries with
      | some keys => orRefuse (environmentProjects environment >>= readProjects keys)
      | none => .error (.fault .wrongKind)
  | _ => orRefuse (.error { issue := .noSettings })

/-- Reads a file with a configuration; an empty one counts as an empty mapping. Errors call it by the
given name. -/
def readConfiguration (files : FileTree) (path : Path) (name : String) : Except Failure Data :=
  let refuse (cause : Cause) : Except Failure Data :=
    .error (.reported (.configuration (.unreadableConfiguration cause) (some name) none (some cause)))
  if path.toString.toList.contains (Char.ofNat 0) then .error (.fault .nullInPath)
  else match files.readFile path with
  | .error e => refuse (.system e path.toString)
  | .ok bytes => match decodeText bytes with
      | .error e => .error (.fault (.undecodable e))
      | .ok text => match Yaml.read text with
          | .error .malformed => refuse .malformedConfiguration
          | .error (.fault f) => .error (.fault f)
          | .ok data => .ok (if data.isEmpty then .mapping [] else data)

/-- The value under the key of this tool in the table of tools, if it has one. -/
def ownTable : Data → Except Failure (Option Data)
  | .mapping entries => .ok (Data.value? entries ownKey)
  | .text s => if (s.splitOn ownKey).length = 1 then .ok none else .error (.fault .wrongKind)
  | .list items =>
      if items.any (·.text? == some ownKey) then .error (.fault .wrongKind) else .ok none
  | _ => .error (.fault .wrongKind)

/-- The configuration in a project file, if it has one. -/
def readProjectFile (files : FileTree) (path : Path) : Except Failure (Option Data) :=
  match files.readFile path with
  | .error e => .error (.fault (.system e))
  | .ok bytes => match decodeText bytes with
      | .error e => .error (.fault (.undecodable e))
      | .ok text => match Toml.read text with
          | none => .error (.fault .malformedProjectFile)
          | some table => ownTable ((Data.value? table toolKey).getD (.mapping []))

/-- The first of some paths that leads to something. -/
def firstFound (files : FileTree) : List Path → Except SystemError (Option Path)
  | [] => .ok none
  | path :: paths => do
      match ← files.find? path with
      | some _ => return some path
      | none => firstFound files paths

namespace Surroundings

variable (s : Surroundings)

/-- A path in the working folder. -/
def inFolder (name : String) : Path := ⟨"/", s.files.here ++ [name]⟩

/-- The first of some files in the working folder. -/
def first (names : List String) : Except Failure (Option Path) :=
  (firstFound s.files (names.map s.inFolder)).mapError fun e => .fault (.system e)

/-- The file of its own that a configuration is read from, and what errors call it. A name that is
empty counts as missing. -/
def ownFile (name : Option String) : Except Failure (Option (Path × String)) :=
  match name.filter (· != "") with
  | some name => .ok (some (Path.ofString name, name))
  | none => (s.first fileNames).map fun found => found.map fun path => (path, path.toString)

/-- The configuration in a file of its own. -/
def loadFile (path : Path) (name : String) : Except Failure (List ProjectSettings) := do
  interpret s.environment name (← readConfiguration s.files path name)

/-- The table of this tool in the project file, if there is one. -/
def projectTable : Except Failure (Option Data) := do
  match ← s.first [projectFileName] with
  | some path => readProjectFile s.files path
  | none => return none

/-- The configuration in the project file, which has to be there. -/
def loadTable : Option Data → Except Failure (List ProjectSettings)
  | some data => interpret s.environment (s.inFolder projectFileName).toString data
  | none => .error (.reported (.configuration .noConfiguration
      (some (Path.toString ⟨"/", s.files.here⟩)) none none))

end Surroundings

/-- Loads a configuration from the named file, or from the working folder. -/
def load (s : Surroundings) (name : Option String) : Except Failure (List ProjectSettings) := do
  match ← s.ownFile name with
  | some (path, name) => s.loadFile path name
  | none => s.loadTable (← s.projectTable)

end TypedClients.Settings
