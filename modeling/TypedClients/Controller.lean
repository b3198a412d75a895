import TypedClients.Declaration
import TypedClients.Route.Path
import TypedClients.Text.Path

/-!
# The routes of controllers

A unit with a controller has a route file. The path of a route is the text of the controller's tag
followed by that of the method's tag, and every parameter of the path takes its type from the first
parameter of the method that binds it. A unit without a controller has no part in routing.
-/
namespace TypedClients

open TypedClients.Text

section

variable {τ : Type} [DeclaredType τ]

/-! ### Paths -/

/-- The text of the first argument of a tag. An argument that is no plain text adds nothing. -/
def Tag.path (t : Tag) : Traced String :=
  match t.arguments with
  | [] => pure ""
  | argument :: _ =>
      match literalText? argument with
      | some text => pure text
      | none => do
          Traced.note .debug .routes
            ("Ignoring non-literal argument " ++ quotedString argument ++ " of @" ++ t.name)
          return ""

/-- The type that the first parameter binding a name gives it. A parameter with a tag for a single
name binds that name with its own type and no other name; a parameter with a tag for several names
binds the fields of its type. -/
def boundType? (name : String) : List (Parameter τ) → Traced (Option τ)
  | [] => pure none
  | p :: ps =>
      match firstTag? (· == .pathParam) p.tags with
      | some tag => do
          if (← tag.path) = name then return some p.type else boundType? name ps
      | none =>
          match firstTag? (· == .pathParams) p.tags with
          | some _ => do
              match ← Traced.ofExcept (DeclaredType.field? p.type name) with
              | some type => return some type
              | none => boundType? name ps
          | none => boundType? name ps

namespace Method

/-- The segments for parts of a path, with the types that a method binds its parameters to. -/
def bindSegments (method : Method τ) (className : Option String) :
    List PathPart → Traced (List PathSegment)
  | [] => pure []
  | .literal text :: parts => do
      return .literal text :: (← method.bindSegments className parts)
  | .parameter name ending :: parts => do
      match ← boundType? name method.parameters with
      | none => Traced.report (.unboundParameter method.name name className)
      | some type => do
          let type ← DeclaredType.typeText type
          return .parameter name type ending :: (← method.bindSegments className parts)

/-- The segments of a path. -/
def segments (method : Method τ) (className : Option String) (path : String) :
    Traced (List PathSegment) := method.bindSegments className (pathParts path)

/-! ### Routes -/

/-- The first parameter with a tag of the given role. -/
def parameter? (method : Method τ) (role : Role) : Option (Parameter τ) :=
  method.parameters.find? fun p => (firstTag? (· == role) p.tags).isSome

/-- What a method takes as the body of a request. -/
def body (method : Method τ) : Traced (Option Binding) :=
  match method.parameter? .body with
  | none => pure none
  | some p => do
      let type ← Traced.ofExcept (DeclaredType.carried p.type)
      return some ⟨p.name, ← DeclaredType.typeText type⟩

/-- What a method answers, unless it answers nothing. -/
def response (method : Method τ) : Traced (Option TypeText) := do
  let type ← Traced.ofExcept (DeclaredType.carried method.returns)
  if DeclaredType.isVoid type then return none else return some (← DeclaredType.typeText type)

/-- What a method takes as the query of a request. -/
def query (method : Method τ) : Traced (Option Binding) :=
  match method.parameter? .queryParams with
  | none => pure none
  | some p => do return some ⟨p.name, ← DeclaredType.typeText p.type⟩

/-- The route of a method below a path. -/
def route (method : Method τ) (basePath : String) (tag : Tag) (verb : Verb)
    (className : Option String) : Traced Route := do
  let path ← tag.path
  Traced.check method.parameterFault
  let segments ← method.segments className (basePath ++ path)
  let body ← method.body
  let response ← method.response
  let query ← method.query
  return { name := method.name, segments, verb, body, query, response }

end Method

/-- The routes of methods with a verb. `names` are those of the routes before; no two routes share
a name. -/
def methodRoutes (basePath className : String) (names : List String) :
    List (Method τ) → Traced (List Route)
  | [] => pure []
  | method :: methods => do
      Traced.check method.tagFault
      match routeTag? method.tags with
      | none => methodRoutes basePath className names methods
      | some (tag, verb) =>
          if names.contains method.name then
            Traced.report (.routing (.duplicateRoute method.name) (some className))
          else
            let route ← method.route basePath tag verb (some className)
            return route :: (← methodRoutes basePath className (method.name :: names) methods)

/-! ### Classes and files -/

/-- The ending of a controller's name that its client's name goes without. -/
def controllerEnding : String := "Controller"

/-- The routes of a controller. -/
def ClassDeclaration.routeClass (c : ClassDeclaration τ) : Traced RouteClass := do
  let basePath ← match c.controllerTag? with
    | some tag => tag.path
    | none => pure ""
  let routes ← methodRoutes basePath c.name [] c.methods
  return ⟨dropSuffix c.name controllerEnding, routes⟩

/-- The routes of those of some classes that are controllers. -/
def routeClasses : List (ClassDeclaration τ) → Traced (List RouteClass)
  | [] => pure []
  | c :: cs => do
      Traced.check c.tagFault
      if c.controllerTag?.isSome then
        let routes ← c.routeClass
        return routes :: (← routeClasses cs)
      else routeClasses cs

/-- The first client name that occurs again. -/
def repeatedClient? (seen : List String) : List RouteClass → Option String
  | [] => none
  | c :: cs =>
      if seen.contains c.clientName then some c.clientName
      else repeatedClient? (c.clientName :: seen) cs

/-- What route files have in common. -/
structure RouteSettings where
  /-- The folder of the client modules. -/
  apiName : String := "api"
  /-- The ending of the names of controller files. -/
  fileEnding : String := "_controller.py"
  deriving DecidableEq, Repr, Inhabited

namespace RouteSettings

/-- The base name of a unit: its name without the ending of controller files, or without its
extension if it has another ending. -/
def baseFileName (s : RouteSettings) (unitName : String) : String :=
  let base := dropSuffix unitName s.fileEnding
  if base = unitName then (Path.ofString unitName).stem else base

/-- The route file of a unit. No two of its controllers have the same client name. -/
def routeFile (s : RouteSettings) (unit : SourceUnit τ) : Traced RouteFile := do
  let classes ← routeClasses unit.classes
  match repeatedClient? [] classes with
  | some client => Traced.report (.duplicateClient client unit.name)
  | none => do
      let count := classes.foldl (fun n c => n + c.routes.length) 0
      Traced.note .info .routes
        ("Extracted " ++ decimal count ++ " route(s) from " ++ unit.name)
      return ⟨s.apiName, s.baseFileName unit.name, classes⟩

/-- The route files of the units that have a controller. -/
def routeFiles (s : RouteSettings) : List (SourceUnit τ) → Traced (List RouteFile)
  | [] => pure []
  | unit :: units => do
      if ← findsController unit.classes then
        let file ← s.routeFile unit
        return file :: (← s.routeFiles units)
      else
        Traced.note .debug .routes ("Skipping " ++ unit.name ++ ": no controller class")
        s.routeFiles units

end RouteSettings

end

end TypedClients
