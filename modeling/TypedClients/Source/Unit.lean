import TypedClients.Source.Type

/-!
# Declarations of source texts

The classes of a module as declarations. The tags of classes and methods are their decorators;
those of a parameter stand beside its type or are its default value.
-/
namespace TypedClients

open TypedClients.Code

/-- The keyword argument that is read where a tag has no other arguments. -/
def pathKeyword : String := "path"

/-- The arguments that are read of a tag: the positional ones, or those of the keyword. -/
def tagArguments (args : List Expr) (keywords : List (Keyword Expr)) : List Expr :=
  if args.isEmpty then (keywords.filter (·.name = some pathKeyword)).map (·.value) else args

/-- The tag that an expression makes: a name, alone or with arguments. -/
def Tag.ofExpr? : Expr → Option Tag
  | .call callee args keywords => do
      let name ← callee.baseName?
      return ⟨name, (tagArguments args keywords).map Expr.render⟩
  | e => e.baseName?.map (⟨·, []⟩)

/-- What keeps the tag that an expression makes from being read: an argument cannot be written. -/
def Tag.fault? : Expr → Option Fault
  | .call callee args keywords => do
      let _ ← callee.baseName?
      (tagArguments args keywords).findSome? Expr.obstacle?
  | _ => none

/-- What stands beside a type in its outermost wrapper. -/
def besideType : Option Expr → List Expr
  | some (.subscript value (.tuple items)) =>
      if value.baseName? = some taggedType then items.drop 1 else []
  | _ => []

/-- A default value that may make a tag. -/
def taggingDefault : Option Expr → List Expr
  | some (.call callee args keywords) => [.call callee args keywords]
  | _ => []

namespace SourceModule

variable (m : SourceModule) (project : Option SourceProject)

/-- What may make the tags of a parameter. -/
def taggingParts (p : Param Expr) : List Expr := besideType p.hint ++ taggingDefault p.default

def parameter (p : Param Expr) : Parameter SourceType :=
  { name := p.name
    tags := (taggingParts p).filterMap Tag.ofExpr?
    type := SourceType.ofExpr p.hint m project }

/-- The tag of methods that have no instance as their first parameter. -/
def staticTag : String := "staticmethod"

def isStatic (tags : List Tag) : Bool := tags.any (·.name == staticTag)

/-- The parameters that arguments can be given for. The first one is the instance, unless the
method is static. -/
def argumentParams (static : Bool) (ps : Params Expr) : List (Param Expr) :=
  let positional := ps.positionalOnly ++ ps.ordinary
  (if static then positional else positional.drop 1) ++ ps.keywordOnly

def method? : Stmt → Option (Method SourceType)
  | .functionDef _ decorators name params returns _ =>
      let tags := decorators.filterMap Tag.ofExpr?
      let params := argumentParams (isStatic tags) params
      some { name, tags
             tagFault := decorators.findSome? Tag.fault?
             parameters := params.map (m.parameter project)
             parameterFault := (params.flatMap taggingParts).findSome? Tag.fault?
             returns := SourceType.ofExpr returns m project }
  | _ => none

def classDeclaration (c : ClassSource) : ClassDeclaration SourceType :=
  { name := c.name
    tags := c.decorators.filterMap Tag.ofExpr?
    tagFault := c.decorators.findSome? Tag.fault?
    methods := c.body.filterMap (m.method? project) }

/-- The declarations of a module. -/
def unit : SourceUnit SourceType :=
  { name := m.fileName
    classes := (m.body.filterMap ClassSource.ofStmt?).map (m.classDeclaration project) }

end SourceModule

/-- The declarations of a project. -/
def SourceProject.units (p : SourceProject) : List (SourceUnit SourceType) :=
  p.modules.map fun m => m.unit (some p)

end TypedClients
