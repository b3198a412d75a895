import TypedClients.Code.Expr.Read
import TypedClients.Code.Format
import TypedClients.Imports
import TypedClients.ParameterName
import TypedClients.Text.Path
import TypedClients.Traced

/-!
# Client modules

The client of a controller is a class with one asynchronous method for each route. A method takes
the values of the route, puts those of the path into the URL, and hands everything to the runtime:

    async def getUser(self, id: int, options: RequestOptions) -> User:
        url = f'/users/\x7bid\x7d'
        return await request(\x7b**options, 'url': url, 'method': 'GET'\x7d)

A module holds the clients of one route file, after the imports that their types need.
-/
namespace TypedClients

open TypedClients.Text TypedClients.Code

/-! ### The words of a generated method -/

namespace Client

/-- The function of the runtime that sends a request. -/
def requestFunction : String := "request"

/-- The type of the options of a request. -/
def optionsType : String := "RequestOptions"

def optionsName : String := "options"

def urlName : String := "url"

def selfName : String := "self"

/-- The names that a method uses for something else than the values of its route. -/
def takenNames : List String := [selfName, optionsName, urlName, requestFunction, optionsType]

/-! ### Parameters -/

/-- The place of a route in its client, as errors show it. -/
def place (clientName : Option String) (r : Route) : String :=
  Error.around "" "." clientName ++ r.name

/-- The name that a method gives to a value of its route. A taken name gets an underscore. -/
def bindingName (name : String) : Except Failure String := do
  let name ← parameterName name
  return if name ∈ takenNames then name ++ "_" else name

/-- The names of bindings, in order. `used` are the names before them; no two are the same. -/
def bindingNames (place : String) (used : List String) : List Binding → Except Failure (List String)
  | [] => .ok []
  | b :: bs => do
      let name ← bindingName b.name
      if name ∈ used then
        .error (.reported (.generation (.duplicateParameter name) (some place) none))
      else return name :: (← bindingNames place (name :: used) bs)

/-- Reads the text of a type. -/
def readType (t : TypeText) : Except Failure Expr :=
  match Expr.read t.text with
  | .ok e => .ok e
  | .error .nullCharacter => .error (.fault .nullCharacter)
  | .error .malformed =>
      .error (.reported (.generation (.invalidType t.text) none (some .malformedSource)))

/-- The parameters for bindings under the given names. -/
def bindingParams : List String → List Binding → Except Failure (List (Param Expr))
  | name :: names, b :: bs => do
      let hint ← readType b.type
      return { name, hint := some hint } :: (← bindingParams names bs)
  | _, _ => .ok []

/-! ### The URL -/

/-- A part of a text to be put together: text, or the value of a name. -/
inductive UrlPart where
  | text (value : String)
  | value (name : String)
  deriving DecidableEq, Repr, Inhabited

/-- The text of a part that is text. -/
def UrlPart.text? : UrlPart → Option String
  | text s => some s
  | value _ => none

def UrlPart.piece : UrlPart → Piece Expr
  | text s => .text s
  | value n => .field (.name n) none none

/-- The expression that puts parts together: a plain text where no part is a value. -/
def concatenation (parts : List UrlPart) : Expr :=
  match parts.mapM UrlPart.text? with
  | some texts => Expr.string (String.join texts)
  | none => .formatted (joinTexts (parts.map UrlPart.piece))

/-- The parts of a path; `names` are those of its parameters, in order. -/
def pathUrlParts : List String → List PathSegment → List (List UrlPart)
  | names, .literal s :: segments => [.text s] :: pathUrlParts names segments
  | name :: names, .parameter _ _ ending :: segments =>
      [.value name, .text ending] :: pathUrlParts names segments
  | _, _ => []

/-- The URL of a route: its segments with slashes between them. -/
def url (names : List String) (segments : List PathSegment) : Expr :=
  concatenation ([UrlPart.text "/"].intercalate (pathUrlParts names segments))

/-! ### Methods -/

/-- A mapping that overrides another one. -/
def overriding (base : Option Expr) (entries : List (String × Expr)) : Expr :=
  .dict (base.toList.map (⟨none, ·⟩) ++ entries.map fun (k, v) => ⟨some (Expr.string k), v⟩)

/-- What a method hands to the runtime. -/
def requestEntries (verb : Verb) (body query : Option String) : List (String × Expr) :=
  [("url", .name urlName), ("method", Expr.string verb.name)] ++
    body.toList.map (("body", .name ·)) ++ query.toList.map (("query_params", .name ·))

/-- The body of a method: it builds the URL and waits for the answer to the request. -/
def methodBody (url request : Expr) : List Stmt :=
  [.assign [.name urlName] url,
    .returnValue (some (.await (.call (.name requestFunction) [request] [])))]

/-- An asynchronous method with parameters after the instance. -/
def asyncMethod (name : String) (params : List (Param Expr)) (returns : Option Expr)
    (body : List Stmt) : Stmt :=
  .functionDef true [] name { ordinary := { name := selfName } :: params } returns body

/-- A method or a class, and the imports that its types need. -/
structure Fragment where
  definition : Stmt
  imports : List ImportRef
  deriving Inhabited

/-- The types that a route mentions, in the order of its method's signature. -/
def routeTypes (r : Route) : List TypeText := r.bindings.map (·.type) ++ r.response.toList

/-- The method for a route. -/
def method (r : Route) (clientName : Option String) : Except Failure Fragment := do
  let names ← bindingNames (place clientName r) [] r.bindings
  let params ← bindingParams names r.bindings
  let returns ← match r.response with
    | some t => readType t
    | none => .ok Expr.absent
  let afterPath := names.drop r.pathParameters.length
  let body := if r.body.isSome then afterPath.head? else none
  let query := if r.query.isSome then (afterPath.drop r.body.toList.length).head? else none
  let request := overriding (some (.name optionsName)) (requestEntries r.verb body query)
  let options : Param Expr := { name := optionsName, hint := some (.name optionsType) }
  return ⟨asyncMethod r.name (params ++ [options]) (some returns)
      (methodBody (url names r.segments) request),
    (routeTypes r).flatMap (·.imports)⟩

/-! ### Classes and modules -/

/-- A class; one without members has the empty statement. -/
def classOf (name : String) (members : List Stmt) : Stmt :=
  .classDef [] name [] [] (if members.isEmpty then [.pass] else members)

/-- The client of a controller, with the imports that it needs. -/
def ofClass (c : RouteClass) : Except Failure Fragment := do
  let methods ← c.routes.mapM fun r => method r (some c.clientName)
  return ⟨classOf c.clientName (methods.map (·.definition)), methods.flatMap (·.imports)⟩

/-- The statement that lists what a module offers. -/
def offers (names : List String) : Stmt :=
  .assign [.name "__all__"] (.tuple (names.map Expr.string))

end Client

/-- A generated module. -/
structure ClientModule where
  /-- The folder of the module. -/
  apiName : String
  /-- The name of the file without extension. -/
  moduleName : String
  body : List Stmt
  /-- The clients that the module offers. -/
  exports : List String := []
  deriving Inhabited

/-- The path of the module below the output folder. -/
def ClientModule.path (m : ClientModule) : String :=
  ((Path.ofString m.apiName).join (Path.ofString (m.moduleName ++ ".py"))).toString

/-- What client modules have in common. -/
structure ClientSettings where
  /-- The module that the request function and the type of its options are taken from. -/
  runtimeModule : String := "api_runtime"
  /-- The ending of the names of client modules. -/
  moduleEnding : String := "_client"
  deriving DecidableEq, Repr, Inhabited

namespace ClientSettings

/-- The imports that every client module starts from. -/
def runtimeImports (s : ClientSettings) : Imports :=
  (({} : Imports).insert { module := s.runtimeModule, name := some Client.requestFunction }).insert
    { module := s.runtimeModule, name := some Client.optionsType }

/-- The client module for a route file. -/
def clientModule (s : ClientSettings) (file : RouteFile) : Traced ClientModule := do
  let classes ← Traced.ofExcept (file.classes.mapM Client.ofClass)
  let imports := s.runtimeImports.requireAll (classes.flatMap (·.imports))
  let exports := file.classes.map RouteClass.clientName
  Traced.note .debug .clients
    ("Generated " ++ decimal classes.length ++ " client class(es) for " ++ file.baseFileName)
  return { apiName := file.apiName
           moduleName := file.baseFileName ++ s.moduleEnding
           body := imports.statements ++ Client.offers exports :: classes.map (·.definition)
           exports }

end ClientSettings

end TypedClients
