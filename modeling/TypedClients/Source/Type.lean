import TypedClients.Code.Expr.Write
import TypedClients.Declaration
import TypedClients.Source.Builtin
import TypedClients.Source.Names
import TypedClients.Source.Project

/-!
# Types in source texts

A type is read in the module that it is written in. That module says what its names stand for, and
with the project around it where the fields of a class are declared.
-/
namespace TypedClients

open TypedClients.Text TypedClients.Code

/-! ### Wrappers -/

/-- The wrapper of a type that adds tags to it. -/
def taggedType : String := "Annotated"

/-- A type without the wrappers that add tags to it. -/
def Code.Expr.untagged : Expr → Expr
  | .subscript value (.tuple (type :: tags)) =>
      if value.baseName? = some taggedType then untagged type
      else .subscript value (.tuple (type :: tags))
  | e => e

/-- The arguments of a generic type. -/
def Code.Expr.typeArguments : Expr → List Expr
  | .tuple items => items
  | e => [e]

/-- Whether the type that an asynchronous wrapper carries is its first or its last argument. -/
inductive CarriedPlace where
  | first
  | last
  deriving DecidableEq, Repr, Inhabited

/-- The place of the carried type in a wrapper of the given name. -/
def CarriedPlace.ofName? : String → Option CarriedPlace
  | "Awaitable" | "Future" | "Task" => some .first
  | "Coroutine" => some .last
  | _ => none

def CarriedPlace.pick? : CarriedPlace → List Expr → Option Expr
  | first, es => es.head?
  | last, es => es.getLast?

/-! ### Types in modules -/

/-- A type in its module. Where none is written it is any type. -/
structure SourceType where
  /-- The written type, without wrappers that add tags. -/
  expr : Option Expr
  module : SourceModule
  project : Option SourceProject
  deriving Inhabited

namespace SourceType

/-- The type that is written in a module. -/
def ofExpr (e : Option Expr) (module : SourceModule) (project : Option SourceProject) :
    SourceType := ⟨e.map Expr.untagged, module, project⟩

/-- The type of values of any kind, and where it comes from. -/
def anyImport : ImportRef := { module := "typing", name := some "Any" }

def text (t : SourceType) : Except Failure String :=
  match t.expr with
  | none => .ok "Any"
  | some e => e.write

/-- The import that gives a name in a module its meaning. A name that neither the module nor the
language knows is noted. -/
def importFor (m : SourceModule) (name : String) : Traced (Option ImportRef) :=
  match m.nameImports.get? name with
  | some origin =>
      return some { module := origin.module, name := some origin.name
                    localName := if name = origin.name then none else some name }
  | none =>
      match m.moduleImports.get? name with
      | some origin => return some { module := origin.module, localName := origin.localName }
      | none =>
          if name ∈ m.definitions then return some { module := m.name.text, name := some name }
          else if name ∈ builtinNames then return none
          else do
            Traced.note .debug .types ("Cannot resolve '" ++ name ++ "' referenced in " ++ m.path)
            return none

/-- The imports for names, each once; `found` are those before. -/
def importsFor (m : SourceModule) (found : List ImportRef) :
    List (Except Failure String) → Traced (List ImportRef)
  | [] => pure found
  | .error e :: _ => Traced.fail e
  | .ok name :: names => do
      match ← importFor m name with
      | none => importsFor m found names
      | some ref => importsFor m (if ref ∈ found then found else found ++ [ref]) names

def imports (t : SourceType) : Traced (List ImportRef) :=
  match t.expr with
  | none => pure [anyImport]
  | some e => importsFor t.module [] e.referencedNames

/-- The type that an asynchronous wrapper carries; nothing for any other type. -/
def carried? (t : SourceType) : Except Failure (Option SourceType) :=
  match t.expr with
  | some (.subscript value index) =>
      match value.baseName?.bind CarriedPlace.ofName? with
      | none => .ok none
      | some place =>
          match place.pick? index.typeArguments with
          | none => .error (.fault .noCarriedType)
          | some e => .ok (some (ofExpr (some e) t.module t.project))
  | _ => .ok none

/-- Whether the type is the one without values. -/
def isVoid (t : SourceType) : Bool := t.expr matches some (.constant .none)

/-! ### Fields -/

/-- The class that dotted components refer to in a module. -/
def classOfParts (project : Option SourceProject) (m : SourceModule) (parts : List String) :
    Option (SourceModule × ClassSource) :=
  match project, parts with
  | _, [] => none
  | none, [name] => (m.classes.get? name).map (m, ·)
  | some p, [name] => p.findClass m name
  | none, _ :: _ :: _ => none
  | some p, first :: rest => do
      let origin ← m.moduleImports.get? first
      let inner := rest.dropLast
      let target ← p.module? (ModuleName.ofComponents
        (if origin.localName.isSome then origin.module :: inner else first :: inner))
      p.findClass target (rest.getLast?.getD "")

/-- The class that a type refers to in a module. A quoted type is read first. -/
def classOf (project : Option SourceProject) (m : SourceModule) (e : Expr) :
    Except Failure (Option (SourceModule × ClassSource)) := do
  let e ← match e.quotation? with
    | some q => q.read
    | none => pure (some e)
  return (e.bind Expr.dottedParts?).bind (classOfParts project m)

/-- The type that a statement of a class body declares for a field. -/
def declaredField? (field : String) : Stmt → Option Expr
  | .declare (.name id) hint _ _ => if id = field then some hint else none
  | _ => none

/-- The type of a field and the module that declares it. -/
abbrev FieldSource := SourceModule × Expr

/-- The answer of a search for a field, and the classes searched so far. -/
abbrev FieldSearch := Except Failure (Option FieldSource × List (String × String))

/-- Searches classes one after the other, each with the answer of `search`. -/
def searchBases (resolve : Expr → Except Failure (Option (SourceModule × ClassSource)))
    (search : List (String × String) → SourceModule × ClassSource → FieldSearch)
    (seen : List (String × String)) : List Expr → FieldSearch
  | [] => .ok (none, seen)
  | base :: bases => do
      match ← resolve base with
      | none => searchBases resolve search seen bases
      | some c =>
          match ← search seen c with
          | (some found, seen) => return (some found, seen)
          | (none, seen) => searchBases resolve search seen bases

/-- Searches a class and then its bases, depth first. No class is searched twice; the first argument
bounds the number of classes on the way. -/
def searchClass (project : Option SourceProject) (field : String) :
    Nat → List (String × String) → SourceModule × ClassSource → FieldSearch
  | 0, seen, _ => .ok (none, seen)
  | n + 1, seen, (m, c) =>
      let key := (m.name.text, c.name)
      if key ∈ seen then .ok (none, seen)
      else match c.body.findSome? (declaredField? field) with
        | some hint => .ok (some (m, hint), key :: seen)
        | none => searchBases (classOf project m) (searchClass project field n) (key :: seen) c.bases

/-- The number of classes that a search in a module can meet. -/
def classCount (project : Option SourceProject) (m : SourceModule) : Nat :=
  (m :: (project.map SourceProject.modules).getD []).foldl (fun n m => n + m.classes.length) 0

/-- The type of a field of the class that a type refers to. -/
def field? (t : SourceType) (field : String) : Except Failure (Option SourceType) := do
  let resolved ← match t.expr with
    | none => pure none
    | some e => classOf t.project t.module e
  match resolved with
  | none => return none
  | some c =>
      let (found, _) ← searchClass t.project field (classCount t.project t.module + 1) [] c
      return found.map fun (m, hint) => ofExpr (some hint) m t.project

end SourceType

instance : DeclaredType SourceType where
  text := SourceType.text
  imports := SourceType.imports
  carried t := t.carried?.map (·.getD t)
  isVoid := SourceType.isVoid
  field? := SourceType.field?

end TypedClients
