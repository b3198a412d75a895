import TypedClients.Code.Expr.Read
import TypedClients.Failure

/-!
# Names that a type refers to

A type refers to the names in it, and to those in the types that it quotes. The arguments of
`Literal` are values and refer to nothing.
-/
namespace TypedClients.Code

/-- A text in a type, which may be a type itself. One with surrogates cannot even be looked at. -/
inductive Quotation where
  | text (s : String)
  | broken
  deriving DecidableEq, Repr, Inhabited

namespace Quotation

/-- Reads a quoted type. A text that is none is left alone. -/
def read : Quotation → Except Failure (Option Expr)
  | .broken => .error (.fault .surrogate)
  | .text s =>
      match Expr.read s with
      | .ok e => .ok (some e)
      | .error .malformed => .ok none
      | .error .nullCharacter => .error (.fault .nullCharacter)

def length : Quotation → Nat
  | .text s => s.length
  | .broken => 0

end Quotation

/-- The text of a text literal. -/
def Literal.quotation? : Literal → Option Quotation
  | .text s _ => some (.text s)
  | .brokenText _ _ => some .broken
  | _ => Option.none

namespace Expr

/-- The text of a text constant. -/
def quotation? : Expr → Option Quotation
  | constant v => v.quotation?
  | _ => none

/-- The generic type whose arguments are values. -/
def valueType : String := "Literal"

mutual

/-- The names in an expression, in order; `quoted` gives those in a text. Parts that are no
expressions themselves are not searched: parameters, keyword arguments, and the clauses of
comprehensions. -/
def namesWith {α : Type} (named : String → α) (quoted : Quotation → List α) : Expr → List α
  | .name id => [named id]
  | .member value _ => namesWith named quoted value
  | .subscript value index =>
      namesWith named quoted value ++
        (if value.baseName? = some valueType then [] else namesWith named quoted index)
  | .constant v => match v.quotation? with
    | some q => quoted q
    | none => []
  | .call callee args _ => namesWith named quoted callee ++ namesInAll named quoted args
  | .starred value | .await value | .yieldFrom value => namesWith named quoted value
  | .logic _ operands => namesInAll named quoted operands
  | .unary _ operand => namesWith named quoted operand
  | .binary _ left right => namesWith named quoted left ++ namesWith named quoted right
  | .compare left rest => namesWith named quoted left ++ namesInCompared named quoted rest
  | .named target value => namesWith named quoted target ++ namesWith named quoted value
  | .lambda _ body => namesWith named quoted body
  | .conditional test body orelse =>
      namesWith named quoted test ++ namesWith named quoted body ++ namesWith named quoted orelse
  | .tuple items | .list items | .set items => namesInAll named quoted items
  | .dict entries => namesInKeys named quoted entries ++ namesInValues named quoted entries
  | .listComp item _ | .setComp item _ | .generator item _ => namesWith named quoted item
  | .dictComp key value _ => namesWith named quoted key ++ namesWith named quoted value
  | .yield value => namesInOption named quoted value
  | .formatted pieces => namesInPieces named quoted pieces
  | .slice lower upper step =>
      namesInOption named quoted lower ++ namesInOption named quoted upper ++
        namesInOption named quoted step

def namesInAll {α : Type} (named : String → α) (quoted : Quotation → List α) : List Expr → List α
  | [] => []
  | e :: es => namesWith named quoted e ++ namesInAll named quoted es

def namesInOption {α : Type} (named : String → α) (quoted : Quotation → List α) :
    Option Expr → List α
  | none => []
  | some e => namesWith named quoted e

def namesInCompared {α : Type} (named : String → α) (quoted : Quotation → List α) :
    List (CompareOp × Expr) → List α
  | [] => []
  | (_, e) :: rest => namesWith named quoted e ++ namesInCompared named quoted rest

def namesInKeys {α : Type} (named : String → α) (quoted : Quotation → List α) :
    List (Entry Expr) → List α
  | [] => []
  | ⟨key, _⟩ :: entries => namesInOption named quoted key ++ namesInKeys named quoted entries

def namesInValues {α : Type} (named : String → α) (quoted : Quotation → List α) :
    List (Entry Expr) → List α
  | [] => []
  | ⟨_, value⟩ :: entries => namesWith named quoted value ++ namesInValues named quoted entries

def namesInPiece {α : Type} (named : String → α) (quoted : Quotation → List α) :
    Piece Expr → List α
  | .text s => quoted (.text s)
  | .brokenText _ => quoted .broken
  | .field value _ format =>
      namesWith named quoted value ++ namesInFormat named quoted format

def namesInFormat {α : Type} (named : String → α) (quoted : Quotation → List α) :
    Option (List (Piece Expr)) → List α
  | none => []
  | some pieces => namesInPieces named quoted pieces

def namesInPieces {α : Type} (named : String → α) (quoted : Quotation → List α) :
    List (Piece Expr) → List α
  | [] => []
  | p :: ps => namesInPiece named quoted p ++ namesInPieces named quoted ps

end

/-- The names in a quoted type, up to one that cannot be read. What it quotes again is shorter than
itself; the first argument bounds its length. -/
def quotedNames : Nat → Quotation → List (Except Failure String)
  | 0, _ => []
  | n + 1, q =>
      match q.read with
      | .error e => [.error e]
      | .ok none => []
      | .ok (some e) => e.namesWith .ok (quotedNames n)

/-- The names that a type refers to, in order. -/
def referencedNames (e : Expr) : List (Except Failure String) :=
  e.namesWith .ok fun q => quotedNames (q.length + 1) q

end Expr

end TypedClients.Code
