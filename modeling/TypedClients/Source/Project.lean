import TypedClients.FileTree
import TypedClients.Source.Module
import TypedClients.Text.Wildcard
import TypedClients.Traced

/-!
# Source projects

A project is a list of modules that can be found by name. It is made from texts, or from the files
below a folder, and it finds the class that a name in one of its modules refers to.
-/
namespace TypedClients

open TypedClients.Text

structure SourceProject where
  /-- The modules, in the order of their paths. -/
  modules : List SourceModule
  deriving Inhabited

namespace SourceProject

/-- The module of a name. Of several modules of one name it is the last. -/
def module? (p : SourceProject) (name : String) : Option SourceModule :=
  p.modules.reverse.find? (·.name.text == name)

/-- The project of source texts under their paths. -/
def ofSources (sources : List (String × String)) (package : Option String) :
    Except Failure SourceProject := do
  let sorted := sources.mergeSort fun a b => decide (a.1 ≤ b.1)
  return ⟨← sorted.mapM fun (path, source) => SourceModule.read source path package⟩

/-! ### Loading -/

/-- Which files below a folder belong to a project. -/
structure FileSelection where
  included : List String := ["*.py"]
  excluded : List String := []
  deriving DecidableEq, Repr, Inhabited

/-- Whether a file has the ending of source files. -/
def isSourceName (name : String) : Bool := matchesWildcard "*.py" name

/-- Reads the selected ones of some files, in order. -/
def loadFiles (root : Path) (selection : FileSelection) (package : Option String) :
    List (List String × List UInt8) → Traced (List SourceModule)
  | [] => pure []
  | (names, bytes) :: files => do
      let path := "/".intercalate names
      if ! selection.included.any (matchesWildcard · path) then
        loadFiles root selection package files
      else if selection.excluded.any (matchesWildcard · path) then
        Traced.note .debug .project ("Excluding " ++ path)
        loadFiles root selection package files
      else
        let file : Path := ⟨root.root, root.parts ++ names⟩
        match decodeText bytes with
        | .error e => Traced.report (.sourceLoad file.toString (some (.undecodable e)))
        | .ok text =>
            let m ← Traced.ofExcept (SourceModule.read text path package)
            return m :: (← loadFiles root selection package files)

/-- The project of the selected files below a folder. -/
def load (tree : FileTree) (root : Path) (selection : FileSelection) (package : Option String) :
    Traced SourceProject := do
  match tree.find? root with
  | .error e => Traced.fail (.fault (.system e))
  | .ok none | .ok (some (.file _)) =>
      Traced.report (.sourceLoad root.toString (some (.notADirectory root.toString)))
  | .ok (some .folder) =>
      let place := ((tree.place root).toOption).getD []
      let files := (tree.filesBelow place).filter fun (names, _) =>
        isSourceName (names.getLast?.getD "")
      let modules ← loadFiles root selection package files
      Traced.note .info .project
        ("Loaded " ++ decimal modules.length ++ " module(s) from " ++ root.toString)
      return ⟨modules⟩

/-! ### Classes -/

/-- Follows a name from a module to the class that it refers to. `seen` are the places before; the
first argument bounds their number. -/
def follow (p : SourceProject) : Nat → List (String × String) → SourceModule → String →
    Option (SourceModule × ClassSource)
  | 0, _, _, _ => none
  | n + 1, seen, m, name =>
      if seen.contains (m.name.text, name) then none
      else match m.classes.get? name with
        | some c => some (m, c)
        | none => do
            let origin ← m.nameImports.get? name
            let target ← p.module? origin.module
            follow p n ((m.name.text, name) :: seen) target origin.name

/-- The number of names that the modules import. -/
def importCount (p : SourceProject) : Nat := 
  p.modules.foldl (fun n m => n + m.nameImports.length) 0

/-- The class that a name in a module refers to, with the module that defines it. Every name on the
way but the first one is imported by a module of the project. -/
def findClass (p : SourceProject) (m : SourceModule) (name : String) :
    Option (SourceModule × ClassSource) := p.follow (p.importCount + 3) [] m name

end SourceProject

end TypedClients
