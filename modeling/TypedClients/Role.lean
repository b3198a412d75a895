import TypedClients.Route

/-!
# Roles of tags

A tag on a declaration plays a role in routing if its name is in a fixed vocabulary. All other tags
carry no meaning.
-/
namespace TypedClients

inductive Role where
  /-- The class is a controller. -/
  | controller
  /-- The method is a route with this verb. -/
  | route (verb : Verb)
  /-- The parameter binds a parameter of the path by name. -/
  | pathParam
  /-- The parameter binds the parameters of the path by its fields. -/
  | pathParams
  | body
  | queryParams
  deriving DecidableEq, Repr, Inhabited

namespace Role

/-- The role that a tag of the given name plays. -/
def ofName? (name : String) : Option Role :=
  match name with
  | "Controller" => some .controller
  | "Get" => some (.route .get)
  | "Post" => some (.route .post)
  | "Put" => some (.route .put)
  | "Delete" => some (.route .delete)
  | "Patch" => some (.route .patch)
  | "Param" => some .pathParam
  | "Params" => some .pathParams
  | "Body" => some .body
  | "QueryParams" => some .queryParams
  | _ => none

/-- The name of the kind of a role. -/
def kindName : Role → String
  | controller => "controller"
  | route _ => "route"
  | pathParam => "path_param"
  | pathParams => "path_params"
  | body => "body"
  | queryParams => "query_params"

/-- The verb of a role that makes a route. -/
def verb? : Role → Option Verb
  | route verb => some verb
  | _ => none

end Role

/-- The verb that a tag of the given name gives a method. -/
def Verb.ofTagName? (name : String) : Option Verb := (Role.ofName? name).bind Role.verb?

end TypedClients
