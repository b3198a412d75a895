import TypedClients.Code.Stmt
import TypedClients.Imports.StandardModules
import TypedClients.Route

/-!
# Imports of a generated module

`Imports` collects what a module imports, each thing once and in any order. `Imports.statements`
writes it down in one order: standard modules first, then other absolute ones, then relative ones;
within each of these plain imports before imports of names, both by module.
-/
namespace TypedClients

open TypedClients.Text TypedClients.Code

/-- Where a module comes from. -/
inductive ModuleKind where
  | standard
  | external
  | relative
  deriving DecidableEq, Repr, Inhabited

/-- The first component of a dotted name. -/
def firstComponent (module : String) : String :=
  String.ofList (module.toList.takeWhile (· != '.'))

/-- A module with a leading dot is relative; another one is standard if its first component is. -/
def ModuleKind.ofModule (module : String) : ModuleKind :=
  if module.toList.head? = some '.' then .relative
  else if firstComponent module ∈ standardModules then .standard
  else .external

/-- What a module imports: no thing twice. -/
structure Imports where
  refs : List ImportRef := []
  deriving DecidableEq, Repr, Inhabited

namespace Imports

/-- The imports with one more thing. -/
def insert (i : Imports) (ref : ImportRef) : Imports :=
  if ref ∈ i.refs then i else ⟨i.refs ++ [ref]⟩

/-- The module of the built-in names, which are never imported. -/
def builtinModule : String := "builtins"

/-- The imports with what a type needs. -/
def require (i : Imports) (ref : ImportRef) : Imports :=
  if ref.module = builtinModule then i else i.insert ref

def requireAll (i : Imports) (refs : List ImportRef) : Imports := refs.foldl require i

/-- An imported name. A thing with an empty name for itself keeps its own. -/
def imported (name : String) (localName : Option String) : Imported :=
  ⟨name, localName.filter (· != "")⟩

/-- Orders names, and things of the same name by what they are bound to. -/
def nameOrder (a b : String × Option String) : Bool :=
  decide (a.1 < b.1) || (a.1 == b.1 && decide (a.2.getD "" ≤ b.2.getD ""))

/-- The plainly imported modules, in order. -/
def plainModules (i : Imports) : List (String × Option String) :=
  (i.refs.filterMap fun r => match r.name with
    | none => some (r.module, r.localName)
    | some _ => none).mergeSort nameOrder

/-- The modules that names are imported from, in order. -/
def sourceModules (i : Imports) : List String :=
  ((i.refs.filterMap fun r => r.name.map fun _ => r.module).eraseDups).mergeSort (· ≤ ·)

/-- The names imported from a module, in order. -/
def namesFrom (i : Imports) (module : String) : List (String × Option String) :=
  (i.refs.filterMap fun r =>
    if r.module = module then r.name.map (·, r.localName) else none).mergeSort nameOrder

/-- The number of leading dots of a module, and its name without them. -/
def relativeParts (module : String) : Nat × String :=
  ((module.toList.takeWhile (· == '.')).length,
    String.ofList (module.toList.dropWhile (· == '.')))

def plainStatement (m : String × Option String) : Stmt := .importModules [imported m.1 m.2]

/-- The statement that imports names from a module. -/
def fromStatement (module : String) (names : List (String × Option String)) : Stmt :=
  let (level, rest) := relativeParts module
  .importFrom (if rest = "" then none else some rest) (names.map fun n => imported n.1 n.2) level

/-- The statements for the modules of one kind. -/
def statementsOf (i : Imports) (kind : ModuleKind) : List Stmt :=
  ((i.plainModules.filter (ModuleKind.ofModule ·.1 == kind)).map plainStatement) ++
    ((i.sourceModules.filter (ModuleKind.ofModule · == kind)).map fun m =>
      fromStatement m (i.namesFrom m))

/-- The import statements, in order. -/
def statements (i : Imports) : List Stmt :=
  [.standard, .external, .relative].flatMap i.statementsOf

end Imports

end TypedClients
