import TypedClients.Code.Stmt.Read
import TypedClients.Dictionary
import TypedClients.Source.ModuleName

/-!
# Source modules

A module is a source text that has been read, and the names that it binds at its top level: its
classes, its other definitions, and its imports. Of two bindings of a name the later one counts.
-/
namespace TypedClients

open TypedClients.Text TypedClients.Code

/-- A class as it stands in a source text. -/
structure ClassSource where
  name : String
  decorators : List Expr
  bases : List Expr
  body : List Stmt
  deriving Inhabited

def ClassSource.ofStmt? : Stmt → Option ClassSource
  | .classDef decorators name bases _ body => some ⟨name, decorators, bases, body⟩
  | _ => none

structure SourceModule where
  name : ModuleName
  /-- The path below the root of the sources. -/
  path : String
  body : List Stmt
  deriving Inhabited

/-- The names that a statement defines. -/
def Code.Stmt.definedNames : Stmt → List String
  | .classDef _ name _ _ _ | .functionDef _ _ name _ _ _ => [name]
  | .assign targets _ => targets.filterMap fun
      | .name id => some id
      | _ => none
  | .declare (.name id) _ _ _ => [id]
  | _ => []

namespace SourceModule

/-- Reads the source text at a path. -/
def read (source path : String) (package : Option String) : Except Failure SourceModule :=
  if path.toList.contains (Char.ofNat 0) then .error (.fault .nullInName)
  else match readStatements source with
    | .error .nullCharacter => .error (.fault .nullCharacter)
    | .error .malformed => .error (.reported (.sourceLoad path (some .malformedSource)))
    | .ok body => do
        let name ← ModuleName.ofPath path package
        return ⟨name, path, body⟩

def fileName (m : SourceModule) : String := (Path.ofString m.path).fileName

/-- The classes at the top level, by name. -/
def classes (m : SourceModule) : Dictionary String ClassSource :=
  (m.body.filterMap ClassSource.ofStmt?).foldl (fun d c => d.insert c.name c) []

/-- The names that definitions and assignments bind at the top level. -/
def definitions (m : SourceModule) : List String := m.body.flatMap Stmt.definedNames

/-- What a local name stands for: a name of another module. -/
structure NameOrigin where
  module : String
  name : String
  deriving DecidableEq, Repr, Inhabited

/-- The names that a statement imports from a module, with their origins. -/
def importedNames (m : ModuleName) : Stmt → List (String × NameOrigin)
  | .importFrom target names level =>
      (names.filter (·.name != "*")).map fun n =>
        (n.localName.getD n.name, ⟨m.resolve level target, n.name⟩)
  | _ => []

/-- The names imported from modules, by local name. -/
def nameImports (m : SourceModule) : Dictionary String NameOrigin :=
  (m.body.flatMap (importedNames m.name)).foldl (fun d (n, o) => d.insert n o) []

/-- What a local name stands for: a module. Without a name of its own it stands for the first
component of a dotted name. -/
structure ModuleOrigin where
  module : String
  localName : Option String
  deriving DecidableEq, Repr, Inhabited

/-- The modules that a statement imports, with the names they are bound to. -/
def importedModules : Stmt → List (String × ModuleOrigin)
  | .importModules modules => modules.map fun i =>
      match i.localName with
      | some n => (n, ⟨i.name, some n⟩)
      | none => (String.ofList (i.name.toList.takeWhile (· != '.')), ⟨i.name, none⟩)
  | _ => []

/-- The modules imported as such, by local name. -/
def moduleImports (m : SourceModule) : Dictionary String ModuleOrigin :=
  (m.body.flatMap importedModules).foldl (fun d (n, o) => d.insert n o) []

end SourceModule

end TypedClients
