import TypedClients.Role
import TypedClients.Text.Quoted
import TypedClients.Traced

/-!
# Declarations

What routing reads: units of classes, their methods and parameters, all of them with tags. The
kind of types is left open. `DeclaredType` lists what is asked of one: its text and imports, the
type it carries if it is a promise of one, and the types of its fields.
-/
namespace TypedClients

/-- A tag on a declaration, with the source texts of its arguments. -/
structure Tag where
  name : String
  arguments : List String := []
  deriving DecidableEq, Repr, Inhabited

/-- The role that a tag plays. -/
def Tag.role? (t : Tag) : Option Role := Role.ofName? t.name

/-- What is asked of the type of a declaration. -/
class DeclaredType (τ : Type) where
  text : τ → Except Failure String
  imports : τ → Traced (List ImportRef)
  /-- Without one asynchronous wrapper, or as it is. -/
  carried : τ → Except Failure τ
  /-- The type says that there is no value. -/
  isVoid : τ → Bool
  /-- The type of a field of a structured type. -/
  field? : τ → String → Except Failure (Option τ)

/-- The text of a declared type and its imports. -/
def DeclaredType.typeText {τ : Type} [DeclaredType τ] (t : τ) : Traced TypeText := do
  let text ← Traced.ofExcept (text t)
  return ⟨text, ← imports t⟩

structure Parameter (τ : Type) where
  name : String
  tags : List Tag := []
  type : τ
  deriving Inhabited

structure Method (τ : Type) where
  name : String
  tags : List Tag := []
  /-- What keeps the tags from being read. -/
  tagFault : Option Fault := none
  parameters : List (Parameter τ) := []
  /-- What keeps the tags of a parameter from being read. -/
  parameterFault : Option Fault := none
  returns : τ
  deriving Inhabited

structure ClassDeclaration (τ : Type) where
  name : String
  tags : List Tag := []
  /-- What keeps the tags from being read. -/
  tagFault : Option Fault := none
  methods : List (Method τ) := []
  deriving Inhabited

/-- The classes of a source file. -/
structure SourceUnit (τ : Type) where
  name : String
  classes : List (ClassDeclaration τ) := []
  deriving Inhabited

/-- The first of some tags that plays a role of the given sort. -/
def firstTag? (plays : Role → Bool) (tags : List Tag) : Option Tag :=
  tags.find? fun t => t.role?.any plays

/-- The first tag that makes a method a route, and its verb. -/
def routeTag? (tags : List Tag) : Option (Tag × Verb) :=
  tags.findSome? fun t => (t.role?.bind Role.verb?).map (t, ·)

/-- The tag that makes a class a controller. -/
def ClassDeclaration.controllerTag? {τ : Type} (c : ClassDeclaration τ) : Option Tag :=
  firstTag? (· == .controller) c.tags

/-- Whether some class is a controller. The tags of classes are read up to the first one that is. -/
def findsController {τ : Type} : List (ClassDeclaration τ) → Traced Bool
  | [] => pure false
  | c :: cs => do
      Traced.check c.tagFault
      if c.controllerTag?.isSome then return true else findsController cs

/-- A type described by its answers. -/
structure DescribedType where
  text : String
  imports : List ImportRef
  isVoid : Bool
  /-- What is left without an asynchronous wrapper; nothing if it is no such wrapper. -/
  carried : Option DescribedType
  fields : List (String × DescribedType)
  deriving Inhabited

instance : DeclaredType DescribedType where
  text t := .ok t.text
  imports t := pure t.imports
  carried t := .ok (t.carried.getD t)
  isVoid := DescribedType.isVoid
  field? t n := .ok (t.fields.lookup n)

end TypedClients
