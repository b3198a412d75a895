import TypedClients.Code.Literal

/-!
# Expressions

The tree of an expression of source code. Parts that are not expressions themselves (parameters,
keyword arguments, entries of a mapping, clauses of a comprehension, pieces of formatted text) are
types over the expressions they hold.
-/
namespace TypedClients.Code

open TypedClients.Text

inductive BinaryOp where
  | add | sub | mul | matMul | div | mod | floorDiv | pow
  | shiftLeft | shiftRight | bitOr | bitXor | bitAnd
  deriving DecidableEq, Repr, Inhabited

inductive UnaryOp where
  | invert | not | plus | minus
  deriving DecidableEq, Repr, Inhabited

inductive LogicOp where
  | and | or
  deriving DecidableEq, Repr, Inhabited

inductive CompareOp where
  | eq | notEq | lt | ltEq | gt | gtEq | is | isNot | isIn | notIn
  deriving DecidableEq, Repr, Inhabited

/-- A parameter of a function, with its type and its default value. -/
structure Param (ε : Type) where
  name : String
  hint : Option ε := none
  default : Option ε := none
  deriving DecidableEq, Repr, Inhabited

/-- The parameters of a function, by the way arguments reach them. -/
structure Params (ε : Type) where
  positionalOnly : List (Param ε) := []
  ordinary : List (Param ε) := []
  /-- Takes the remaining positional arguments. -/
  rest : Option (Param ε) := none
  keywordOnly : List (Param ε) := []
  /-- Takes the remaining keyword arguments. -/
  keywords : Option (Param ε) := none
  deriving DecidableEq, Repr, Inhabited

/-- A keyword argument; without a name its value is a mapping of further ones. -/
structure Keyword (ε : Type) where
  name : Option String
  value : ε
  deriving DecidableEq, Repr, Inhabited

/-- An entry of a mapping; without a key its value is a mapping of further entries. -/
structure Entry (ε : Type) where
  key : Option ε
  value : ε
  deriving DecidableEq, Repr, Inhabited

/-- A clause of a comprehension: it runs over a source and keeps what meets all conditions. -/
structure Clause (ε : Type) where
  target : ε
  source : ε
  conditions : List ε
  isAsync : Bool
  deriving DecidableEq, Repr, Inhabited

/-- A piece of formatted text: text, or the value of an expression with a conversion and a format
that may hold fields again. -/
inductive Piece (ε : Type) where
  | text (value : String)
  | brokenText (value : BrokenText)
  | field (value : ε) (conversion : Option Char) (format : Option (List (Piece ε)))
  deriving Inhabited

/-- The piece of the text with the given code points. -/
def Piece.ofPoints {ε : Type} (points : List CodePoint) : Piece ε :=
  match CodePoint.chars points with
  | .ok cs => .text (String.ofList cs)
  | .error t => .brokenText t

inductive Expr where
  | constant (value : Literal)
  | name (id : String)
  | member (value : Expr) (field : String)
  | subscript (value index : Expr)
  | call (callee : Expr) (args : List Expr) (keywords : List (Keyword Expr))
  | starred (value : Expr)
  | logic (op : LogicOp) (operands : List Expr)
  | unary (op : UnaryOp) (operand : Expr)
  | binary (op : BinaryOp) (left right : Expr)
  | compare (left : Expr) (rest : List (CompareOp × Expr))
  | named (target value : Expr)
  | lambda (params : Params Expr) (body : Expr)
  | conditional (test body orelse : Expr)
  | tuple (items : List Expr)
  | list (items : List Expr)
  | set (items : List Expr)
  | dict (entries : List (Entry Expr))
  | listComp (item : Expr) (clauses : List (Clause Expr))
  | setComp (item : Expr) (clauses : List (Clause Expr))
  | generator (item : Expr) (clauses : List (Clause Expr))
  | dictComp (key value : Expr) (clauses : List (Clause Expr))
  | await (value : Expr)
  | yield (value : Option Expr)
  | yieldFrom (value : Expr)
  | formatted (pieces : List (Piece Expr))
  | slice (lower upper step : Option Expr)
  deriving Inhabited

namespace Expr

/-- The constant that is a text. -/
def string (s : String) : Expr := .constant (.ofString s)

/-- The constant that stands for nothing. -/
def absent : Expr := .constant .none

/-- The last component of a name that may be qualified by what it is taken from. -/
def baseName? : Expr → Option String
  | name id => some id
  | member _ field => some field
  | _ => none

/-- The components of a dotted name. -/
def dottedParts? : Expr → Option (List String)
  | name id => some [id]
  | member value field => value.dottedParts?.map (· ++ [field])
  | _ => none

/-- The text of a text constant without surrogates. -/
def text? : Expr → Option String
  | constant v => v.text?
  | _ => none

end Expr

end TypedClients.Code
