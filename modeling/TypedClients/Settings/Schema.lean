import TypedClients.ProjectSettings
import TypedClients.Settings.Data

/-!
# The shape of a configuration

A configuration is a mapping with a list of projects; each project is a mapping with the settings of
one run. A value of another shape is refused with the first issue and the place where it is.
-/
namespace TypedClients.Settings

open TypedClients.Text

/-- An issue and the keys and positions that lead to it. -/
structure Located where
  issue : SettingsIssue
  path : List String := []
  deriving DecidableEq, Repr, Inhabited

/-- The outcome of reading a part of a configuration. -/
abbrev Reading (α : Type) := Except Located α

/-- A reading of a part under a key. -/
def under {α : Type} (key : String) : Reading α → Reading α
  | .ok a => .ok a
  | .error e => .error { e with path := key :: e.path }

/-- The place of an issue as text. -/
def Located.place (l : Located) : String := ".".intercalate l.path

def readText : Data → Reading String
  | .text s => .ok s
  | .bytes bs =>
      match decodeUtf8 bs with
      | .ok cs => .ok (String.ofList cs)
      | .error _ => .error { issue := .undecodableText }
  | _ => .error { issue := .noText }

def readOptionalText : Data → Reading (Option String)
  | .null => .ok none
  | d => (readText d).map some

/-- Reads the items of a list, which are found under their positions. -/
def readItems {α : Type} (item : Data → Reading α) (position : Nat) : List Data → Reading (List α)
  | [] => .ok []
  | d :: ds => do
      let a ← under (decimal position) (item d)
      return a :: (← readItems item (position + 1) ds)

def readList {α : Type} (item : Data → Reading α) : Data → Reading (List α)
  | .list ds | .set ds => readItems item 0 ds
  | _ => .error { issue := .noList }

/-- The words that stand for a truth value, in any case. -/
def boolOfWord (s : String) : Option Bool :=
  let s := s.map Char.toLower
  if s ∈ ["0", "f", "n", "no", "off", "false"] then some false
  else if s ∈ ["1", "t", "y", "on", "yes", "true"] then some true
  else none

def boolOfInt : Int → Option Bool
  | 0 => some false
  | 1 => some true
  | _ => none

/-- The greatest absolute value of numbers that are taken for whole ones. -/
def maxWhole : Nat := Nat.pow 2 63

def readBool (d : Data) : Reading Bool :=
  let orUnclear : Option Bool → Reading Bool
    | some b => .ok b
    | none => .error { issue := .unclearBool }
  match d with
  | .bool b => .ok b
  | .int n => orUnclear (boolOfInt n)
  | .float (some n) =>
      if n.natAbs < maxWhole then orUnclear (boolOfInt n) else .error { issue := .noBool }
  | .text s => orUnclear (boolOfWord s)
  | .bytes bs => orUnclear ((decodeUtf8 bs).toOption.bind fun cs => boolOfWord (String.ofList cs))
  | _ => .error { issue := .noBool }

section

variable (entries : List (Data × Data))

/-- The value under a key that has to be there. -/
def required {α : Type} (read : Data → Reading α) (key : String) : Reading α :=
  match Data.value? entries key with
  | some d => under key (read d)
  | none => .error { issue := .missing, path := [key] }

/-- The value under a key, or another value if there is none. -/
def optional {α : Type} (read : Data → Reading α) (key : String) (fallback : α) : Reading α :=
  match Data.value? entries key with
  | some d => under key (read d)
  | none => .ok fallback

end

/-- Reads a project. Keys without a meaning are ignored. -/
def readProject : Data → Reading ProjectSettings
  | .mapping es => do
      let source ← required es readText "source"
      let output ← required es readText "output"
      let base : ProjectSettings := { source, output }
      return { source, output
               apiName := ← optional es readText "api_name" base.apiName
               package := ← optional es readOptionalText "package" base.package
               included := ← optional es (readList readText) "include" base.included
               excluded := ← optional es (readList readText) "exclude" base.excluded
               controllerFileEnding :=
                ← optional es readText "controller_file_suffix" base.controllerFileEnding
               clientEnding := ← optional es readText "client_suffix" base.clientEnding
               runtimeModule := ← optional es readText "runtime_module" base.runtimeModule
               withPackages := ← optional es readBool "create_init" base.withPackages }
  | _ => .error { issue := .noProject }

/-- The key of the projects. -/
def projectsKey : String := "projects"

/-- Whether a key is that of the projects, in any case. -/
def isProjectsKey (key : String) : Bool := key.map Char.toLower == projectsKey

/-- The value of the projects, and the other keys. The key as it should be is preferred to one in
another case. -/
def splitProjects (keys : List (String × Data)) : Option Data × List String :=
  let chosen := (keys.find? (·.1 == projectsKey)) <|> (keys.find? (isProjectsKey ·.1))
  match chosen with
  | some (key, d) => (some d, (keys.map Prod.fst).filter (· != key))
  | none => (none, keys.map Prod.fst)

/-- Reads the projects of a configuration; `fromEnvironment` is what the environment says. -/
def readProjects (keys : List (String × Data)) (fromEnvironment : Option Data) :
    Reading (List ProjectSettings) := do
  let (own, others) := splitProjects keys
  let projects ← match own <|> fromEnvironment with
    | some d => under projectsKey (readList readProject d)
    | none => .error { issue := .missing, path := [projectsKey] }
  match others with
  | [] => return projects
  | key :: _ => .error { issue := .unknownKey, path := [key] }

end TypedClients.Settings
