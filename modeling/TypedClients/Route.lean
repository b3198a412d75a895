/-!
# Routes

The model between the declarations of controllers and the generated clients: a file of controllers
becomes a `RouteFile`, each controller a `RouteClass`, and each of its routed methods a `Route` with
a path, a verb and the types of what is sent and received.
-/
namespace TypedClients

inductive Verb where
  | get
  | post
  | put
  | delete
  | patch
  deriving DecidableEq, Repr, Inhabited

def Verb.name : Verb → String
  | get => "GET"
  | post => "POST"
  | put => "PUT"
  | delete => "DELETE"
  | patch => "PATCH"

/-- An import that a type needs. With a name it takes that name from the module, without one it is
the module itself; `localName` is what it is bound to where that differs. -/
structure ImportRef where
  module : String
  name : Option String := none
  localName : Option String := none
  deriving DecidableEq, Repr, Inhabited

/-- The source text of a type, and the imports that give its names their meaning. -/
structure TypeText where
  text : String
  imports : List ImportRef := []
  deriving DecidableEq, Repr, Inhabited

/-- A part of a path between slashes. A parameter may be followed by text in the same part. -/
inductive PathSegment where
  | literal (text : String)
  | parameter (name : String) (type : TypeText) (ending : String)
  deriving DecidableEq, Repr, Inhabited

/-- The written form of a segment; a parameter is marked by a colon. -/
def PathSegment.display : PathSegment → String
  | literal text => text
  | parameter name _ ending => ":" ++ name ++ ending

/-- A value that a route takes under a name. -/
structure Binding where
  name : String
  type : TypeText
  deriving DecidableEq, Repr, Inhabited

/-- The value that a segment stands for, if it is a parameter. -/
def PathSegment.binding? : PathSegment → Option Binding
  | literal _ => none
  | parameter name type _ => some ⟨name, type⟩

structure Route where
  name : String
  segments : List PathSegment
  verb : Verb
  /-- What is sent as the body of a request. -/
  body : Option Binding := none
  /-- The parameters of the query of a request. -/
  query : Option Binding := none
  response : Option TypeText := none
  deriving DecidableEq, Repr, Inhabited

namespace Route

/-- The path with its parameters marked by colons. -/
def path (r : Route) : String := "/".intercalate (r.segments.map PathSegment.display)

/-- The parameters of the path, in order. -/
def pathParameters (r : Route) : List Binding := r.segments.filterMap PathSegment.binding?

/-- All values that a route takes: those of its path, the body, the query. -/
def bindings (r : Route) : List Binding := r.pathParameters ++ r.body.toList ++ r.query.toList

end Route

/-- The routes of a controller; `baseName` is the name of the controller without its ending. -/
structure RouteClass where
  baseName : String
  routes : List Route := []
  deriving DecidableEq, Repr, Inhabited

/-- The name of the client for a controller. -/
def RouteClass.clientName (c : RouteClass) : String := c.baseName ++ "Client"

/-- The controllers of a source file. -/
structure RouteFile where
  apiName : String
  baseFileName : String
  classes : List RouteClass := []
  deriving DecidableEq, Repr, Inhabited

end TypedClients
