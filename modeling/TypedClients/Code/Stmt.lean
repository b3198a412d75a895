import TypedClients.Code.Expr

/-!
# Statements

The tree of the statements of a source text. A text is a list of statements, as is every indented
block.
-/
namespace TypedClients.Code

open TypedClients.Text

/-- A name that an import takes, and the name it is bound to where that is another one. -/
structure Imported where
  name : String
  localName : Option String := none
  deriving DecidableEq, Repr, Inhabited

/-- A pattern that a value is matched with. -/
inductive Pattern where
  /-- Equal to a constant or to the value of a dotted name. -/
  | value (e : Expr)
  | singleton (value : Literal)
  | sequence (patterns : List Pattern)
  /-- Holds the keys; the remaining entries may be given a name. -/
  | mapping (entries : List (Expr × Pattern)) (rest : Option String)
  | instanceOf (type : Expr) (positional : List Pattern) (fields : List (String × Pattern))
  /-- The remaining items of a sequence. -/
  | rest (name : Option String)
  /-- Matches a pattern, or anything, and gives it a name, or none. -/
  | capture (pattern : Option Pattern) (name : Option String)
  | alternatives (patterns : List Pattern)
  deriving Inhabited

/-- A resource of a `with` statement and what it is bound to. -/
structure Resource where
  source : Expr
  target : Option Expr
  deriving Inhabited

inductive Stmt where
  | expression (value : Expr)
  | assign (targets : List Expr) (value : Expr)
  | augment (target : Expr) (op : BinaryOp) (value : Expr)
  /-- A type for a target, and perhaps a value; `isPlain` when the target is a name without
  parentheses. -/
  | declare (target hint : Expr) (value : Option Expr) (isPlain : Bool)
  | returnValue (value : Option Expr)
  | delete (targets : List Expr)
  | raise (error cause : Option Expr)
  | assert (test : Expr) (message : Option Expr)
  | pass
  | breakLoop
  | continueLoop
  | global (names : List String)
  | nonlocal (names : List String)
  | importModules (modules : List Imported)
  /-- Takes names from a module; `level` counts the leading dots. -/
  | importFrom (module : Option String) (names : List Imported) (level : Nat)
  | ifThen (test : Expr) (body orelse : List Stmt)
  | whileLoop (test : Expr) (body orelse : List Stmt)
  | forLoop (isAsync : Bool) (target source : Expr) (body orelse : List Stmt)
  | withBlock (isAsync : Bool) (resources : List Resource) (body : List Stmt)
  /-- Each handler has the type it catches, a name, and a body. -/
  | tryBlock (isGroup : Bool) (body : List Stmt)
      (handlers : List (Option Expr × Option String × List Stmt)) (orelse cleanup : List Stmt)
  /-- Each case has a pattern, a condition, and a body. -/
  | matchBlock (subject : Expr) (cases : List (Pattern × Option Expr × List Stmt))
  | functionDef (isAsync : Bool) (decorators : List Expr) (name : String) (params : Params Expr)
      (returns : Option Expr) (body : List Stmt)
  | classDef (decorators : List Expr) (name : String) (bases : List Expr)
      (keywords : List (Keyword Expr)) (body : List Stmt)
  deriving Inhabited

/-- The code points of a leading text constant, which documents a module, a class or a function, and
whether the constant has a mark. -/
def docstring? : List Stmt → Option (List CodePoint × Bool)
  | .expression (.constant (.text s marked)) :: _ => some (CodePoint.ofString s, marked)
  | .expression (.constant (.brokenText t marked)) :: _ => some (t.points, marked)
  | _ => none

end TypedClients.Code
