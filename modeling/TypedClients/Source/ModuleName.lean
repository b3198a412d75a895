import TypedClients.Failure
import TypedClients.Text.Path

/-!
# Names of modules

The dotted name of a source file follows its path; the file `__init__` stands for its folder. A
relative import climbs from the package of the module that it stands in.
-/
namespace TypedClients

open TypedClients.Text

/-- The dotted name of a module, and whether it is a package. -/
structure ModuleName where
  text : String
  isPackage : Bool
  deriving DecidableEq, Repr, Inhabited

namespace ModuleName

/-- The file that makes its folder a package. -/
def packageFile : String := "__init__"

/-- The components of a dotted text. -/
def components (text : String) : List String := (splitOn '.' text.toList).map String.ofList

def ofComponents (cs : List String) : String := ".".intercalate cs

/-- The components in front of the names of all modules of a package. -/
def packageComponents : Option String → List String
  | none | some "" => []
  | some package => components package

/-- The name of the module at a path, below a package. -/
def ofPath (path : String) (package : Option String) : Except Failure ModuleName :=
  let p := Path.ofString path
  match p.withoutExtension? with
  | none => .error (.fault (.noFileName p.toString))
  | some p =>
      let isPackage := p.components.getLast? = some packageFile
      let inner := if isPackage then p.components.dropLast else p.components
      .ok ⟨ofComponents (packageComponents package ++ inner), isPackage⟩

/-- The components of the package that a module belongs to. -/
def ownPackage (m : ModuleName) : List String :=
  let cs := if m.text = "" then [] else components m.text
  if m.isPackage then cs else cs.dropLast

/-- The number of components that are left of `count` after climbing. Climbing beyond the top counts
from the end again. -/
def kept (count climb : Nat) : Nat := if climb ≤ count then count - climb else 2 * count - climb

/-- The absolute name of what a module imports from. `level` counts the leading dots; without any
the name is absolute already. -/
def resolve (m : ModuleName) (level : Nat) (target : Option String) : String :=
  if level = 0 then target.getD ""
  else
    let package := m.ownPackage
    let climbed := package.take (kept package.length (level - 1))
    ofComponents (climbed ++ (target.filter (· != "")).toList)

end ModuleName

end TypedClients
