import TypedClients.Code.Expr.Print
import TypedClients.Failure

/-!
# Expressions that cannot be written

Two things have no source text: a whole number of too many digits, which source code can hold in
another base, and a field of formatted text whose expression needs a backslash. Writing meets them
in the order of the text.
-/
namespace TypedClients.Code

/-- The most digits that a whole number is written with. -/
def maxWrittenDigits : Nat := 4300

/-- What keeps a literal from being written. -/
def Literal.obstacle? : Literal → Option Fault
  | .int n => if maxWrittenDigits < (Nat.toDigits 10 n).length then some .longNumber else .none
  | _ => .none

namespace Expr

mutual

/-- What keeps an expression from being written, in the order in which it is met. -/
def obstacles : Expr → List Fault
  | constant v => v.obstacle?.toList
  | name _ => []
  | member value _ | starred value | unary _ value | await value | yieldFrom value =>
      obstacles value
  | subscript value index | binary _ value index | named value index =>
      obstacles value ++ obstacles index
  | call callee args keywords =>
      obstacles callee ++ obstaclesInAll args ++ obstaclesInKeywords keywords
  | logic _ items | tuple items | list items | set items => obstaclesInAll items
  | compare left rest => obstacles left ++ obstaclesInCompared rest
  | lambda params body => obstaclesInParams params ++ obstacles body
  | conditional test body orelse => obstacles body ++ obstacles test ++ obstacles orelse
  | dict entries => obstaclesInEntries entries
  | listComp item clauses | setComp item clauses | generator item clauses =>
      obstacles item ++ obstaclesInClauses clauses
  | dictComp key value clauses =>
      obstacles key ++ obstacles value ++ obstaclesInClauses clauses
  | yield value => obstaclesInOption value
  | formatted pieces => obstaclesInPieces pieces
  | slice lower upper step =>
      obstaclesInOption lower ++ obstaclesInOption upper ++ obstaclesInOption step

def obstaclesInAll : List Expr → List Fault
  | [] => []
  | e :: es => obstacles e ++ obstaclesInAll es

def obstaclesInOption : Option Expr → List Fault
  | none => []
  | some e => obstacles e

def obstaclesInCompared : List (CompareOp × Expr) → List Fault
  | [] => []
  | (_, e) :: rest => obstacles e ++ obstaclesInCompared rest

def obstaclesInKeywords : List (Keyword Expr) → List Fault
  | [] => []
  | ⟨_, value⟩ :: ks => obstacles value ++ obstaclesInKeywords ks

def obstaclesInEntries : List (Entry Expr) → List Fault
  | [] => []
  | ⟨key, value⟩ :: entries =>
      obstaclesInOption key ++ obstacles value ++ obstaclesInEntries entries

def obstaclesInClauses : List (Clause Expr) → List Fault
  | [] => []
  | ⟨target, source, conditions, _⟩ :: clauses =>
      obstacles target ++ obstacles source ++ obstaclesInAll conditions ++
        obstaclesInClauses clauses

def obstaclesInParamList : List (Param Expr) → List Fault
  | [] => []
  | ⟨_, hint, default⟩ :: ps =>
      obstaclesInOption hint ++ obstaclesInOption default ++ obstaclesInParamList ps

def obstaclesInOptionParam : Option (Param Expr) → List Fault
  | none => []
  | some ⟨_, hint, default⟩ => obstaclesInOption hint ++ obstaclesInOption default

def obstaclesInParams : Params Expr → List Fault
  | ⟨positionalOnly, ordinary, rest, keywordOnly, keywords⟩ =>
      obstaclesInParamList positionalOnly ++ obstaclesInParamList ordinary ++
        obstaclesInOptionParam rest ++ obstaclesInParamList keywordOnly ++
        obstaclesInOptionParam keywords

def obstaclesInPiece : Piece Expr → List Fault
  | .text _ | .brokenText _ => []
  | .field value _ format =>
      obstacles value ++
        (if (renderAt true Strength.test.next value).toList.contains '\\'
          then [.backslashInField] else []) ++
        obstaclesInFormat format

def obstaclesInPieces : List (Piece Expr) → List Fault
  | [] => []
  | p :: ps => obstaclesInPiece p ++ obstaclesInPieces ps

def obstaclesInFormat : Option (List (Piece Expr)) → List Fault
  | none => []
  | some pieces => obstaclesInPieces pieces

end

/-- The first thing that keeps an expression from being written. -/
def obstacle? (e : Expr) : Option Fault := e.obstacles.head?

/-- The source text of an expression that has one. -/
def write (e : Expr) : Except Failure String :=
  match e.obstacle? with
  | some f => .error (.fault f)
  | none => .ok e.render

end Expr

end TypedClients.Code
