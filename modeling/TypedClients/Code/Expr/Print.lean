import TypedClients.Code.Expr

/-!
# Printing expressions

`Expr.render` writes an expression with the fewest parentheses that the strength of its operators
allows. Inside the fields of formatted text backslashes cannot be written, so there quotes are
chosen that need none.
-/
namespace TypedClients.Code

open TypedClients.Text

/-! ### How tightly expressions bind -/

/-- How tightly an expression must bind to stand in a place without parentheses. -/
abbrev Strength := Nat

namespace Strength

def named : Strength := 1
def tuple : Strength := 2
def yield : Strength := 3
def test : Strength := 4
def or : Strength := 5
def and : Strength := 6
def not : Strength := 7
def comparison : Strength := 8
def bitOr : Strength := 9
def bitXor : Strength := 10
def bitAnd : Strength := 11
def shift : Strength := 12
def sum : Strength := 13
def term : Strength := 14
def factor : Strength := 15
def power : Strength := 16
def await : Strength := 17
def atom : Strength := 18

/-- The next tighter strength. -/
def next (s : Strength) : Strength := min (s + 1) atom

end Strength

def BinaryOp.symbol : BinaryOp → String
  | .add => "+" | .sub => "-" | .mul => "*" | .matMul => "@" | .div => "/" | .mod => "%"
  | .floorDiv => "//" | .pow => "**" | .shiftLeft => "<<" | .shiftRight => ">>"
  | .bitOr => "|" | .bitXor => "^" | .bitAnd => "&"

def BinaryOp.strength : BinaryOp → Strength
  | .add | .sub => .sum
  | .mul | .matMul | .div | .mod | .floorDiv => .term
  | .pow => .power
  | .shiftLeft | .shiftRight => .shift
  | .bitOr => .bitOr
  | .bitXor => .bitXor
  | .bitAnd => .bitAnd

def UnaryOp.symbol : UnaryOp → String
  | .invert => "~" | .not => "not " | .plus => "+" | .minus => "-"

def UnaryOp.strength : UnaryOp → Strength
  | .not => .not
  | _ => .factor

def LogicOp.symbol : LogicOp → String
  | .and => "and" | .or => "or"

def LogicOp.strength : LogicOp → Strength
  | .and => .and
  | .or => .or

def CompareOp.symbol : CompareOp → String
  | .eq => "==" | .notEq => "!=" | .lt => "<" | .ltEq => "<=" | .gt => ">" | .gtEq => ">="
  | .is => "is" | .isNot => "is not" | .isIn => "in" | .notIn => "not in"

/-- In parentheses, if the condition holds. -/
def parensIf (condition : Bool) (s : String) : String := if condition then "(" ++ s ++ ")" else s

/-- Separated by commas; a single item is followed by one. -/
def commaList : List String → String
  | [item] => item ++ ","
  | items => ", ".intercalate items

/-! ### Quotes -/

/-- The quotes of text, in the order of preference. -/
def allQuotes : List (List Char) := [['\''], ['"'], ['"', '"', '"'], ['\'', '\'', '\'']]

/-- The quotes of text over several lines. -/
def tripleQuotes : List (List Char) := [['"', '"', '"'], ['\'', '\'', '\'']]

/-- Whether a text occurs in another. -/
def occursIn (part : List Char) : List Char → Bool
  | [] => part.isEmpty
  | c :: cs => part.isPrefixOf (c :: cs) || occursIn part cs

/-- A code point of quoted text whose quotes are still to be chosen, so that none is escaped. -/
def layoutPoint (escapeBlanks : Bool) : CodePoint → List Char
  | .char c =>
      if ! escapeBlanks && (c == '\n' || c == '\t') then [c]
      else if c = '\\' || ! isPrintable c then escapeChar c
      else [c]
  | .surrogate index => numericEscape (CodePoint.surrogate index).number

/-- The body of quoted text, and the quotes it may stand in, best first. Of the given quotes those
are left that do not occur in the body; quotes of the body's last character come last, and if they
must be taken that character is escaped. Where no quote is left the body is written as in the plain
quoted form. Line ends and tabs stand as themselves unless `escapeBlanks`. -/
def layoutQuoted (quotes : List (List Char)) (escapeBlanks : Bool) (points : List CodePoint) :
    List Char × List (List Char) :=
  let body := points.flatMap (layoutPoint escapeBlanks)
  let multiline := body.contains '\n'
  let possible := quotes.filter fun q => (! multiline || q.length == 3) && ! occursIn q body
  match possible with
  | [] =>
      let quote := CodePoint.quoteFor points
      let chosen := (quotes.find? (·.contains quote)).getD [quote]
      (CodePoint.quotedBody points, [chosen])
  | _ =>
      match body.getLast? with
      | none => (body, possible)
      | some last =>
          let ends (q : List Char) : Bool := q.head? == some last
          let possible := possible.filter (! ends ·) ++ possible.filter ends
          if possible.head?.any ends then (body.dropLast ++ ['\\', last], possible)
          else (body, possible)

/-- Text in the best of the given quotes, with line ends as themselves. -/
def quotedWith (quotes : List (List Char)) (points : List CodePoint) : String :=
  let (body, possible) := layoutQuoted quotes false points
  let quote := possible.headD []
  String.ofList (quote ++ body ++ quote)

/-- The bodies of the parts of formatted text, and the quotes they may stand in. Each part narrows
the quotes that the parts before it left. -/
def narrowQuotes :
    List (List Char) → List (List CodePoint × Bool) → List Char × List (List Char)
  | quotes, [] => ([], quotes)
  | quotes, (part, isText) :: parts =>
      let (body, left) := layoutQuoted quotes isText part
      let (rest, left) := narrowQuotes left parts
      (body ++ rest, left)

/-- Formatted text of parts, each with a mark that it is plain text. -/
def quotedParts (parts : List (List CodePoint × Bool)) : String :=
  let (body, quotes) := narrowQuotes allQuotes parts
  let quote := quotes.headD []
  String.ofList (quote ++ body ++ quote)

/-- Text with its braces doubled. -/
def doubleBraces (points : List CodePoint) : List CodePoint :=
  points.flatMap fun p => if p = .char '\x7b' ∨ p = .char '\x7d' then [p, p] else [p]

/-! ### Expressions -/

namespace Expr

/-- Whether a number stands here that a dot would run into. -/
def isWholeNumber : Expr → Bool
  | .constant (.int _) | .constant (.bool _) => true
  | _ => false

/-- A text constant without the choice of quotes left to the plain quoted form. -/
def renderConstant (inField : Bool) : Literal → String
  | .text s marked =>
      if inField then (if marked then "u" else "") ++ quotedWith allQuotes (CodePoint.ofString s)
      else Literal.render (.text s marked)
  | .brokenText t marked =>
      if inField then (if marked then "u" else "") ++ quotedWith allQuotes t.points
      else Literal.render (.brokenText t marked)
  | v => v.render

mutual

/-- Writes an expression for a place of the given strength; `inField` holds inside the fields of
formatted text. -/
def renderAt (inField : Bool) (s : Strength) : Expr → String
  | constant v => renderConstant inField v
  | name id => id
  | member value field =>
      renderAt inField .atom value ++ (if value.isWholeNumber then " ." else ".") ++ field
  | subscript value (tuple (item :: items)) =>
      renderAt inField .atom value ++ "[" ++
        commaList (renderAt inField .test item :: renderAll inField items) ++ "]"
  | subscript value index =>
      renderAt inField .atom value ++ "[" ++ renderAt inField .test index ++ "]"
  | call callee args keywords =>
      renderAt inField .atom callee ++ "(" ++
        ", ".intercalate (renderAll inField args ++ renderKeywords inField keywords) ++ ")"
  | starred value => "*" ++ renderAt inField .bitOr value
  | logic op operands =>
      parensIf (op.strength < s)
        ((" " ++ op.symbol ++ " ").intercalate
          (renderRising inField op.strength.next operands))
  | unary op operand =>
      parensIf (op.strength < s) (op.symbol ++ renderAt inField op.strength operand)
  | binary op left right =>
      let (l, r) : Strength × Strength :=
        if op = .pow then (op.strength.next, op.strength) else (op.strength, op.strength.next)
      parensIf (op.strength < s)
        (renderAt inField l left ++ " " ++ op.symbol ++ " " ++ renderAt inField r right)
  | compare left rest =>
      parensIf (Strength.comparison < s)
        (renderAt inField Strength.comparison.next left ++ renderComparisons inField rest)
  | named target value =>
      parensIf (Strength.named < s)
        (renderAt inField .atom target ++ " := " ++ renderAt inField .atom value)
  | lambda params body =>
      let ps := renderParams inField params
      parensIf (Strength.test < s)
        ("lambda" ++ (if ps.isEmpty then "" else " " ++ ", ".intercalate ps) ++ ": " ++
          renderAt inField .test body)
  | conditional test body orelse =>
      parensIf (Strength.test < s)
        (renderAt inField Strength.test.next body ++ " if " ++
          renderAt inField Strength.test.next test ++ " else " ++
          renderAt inField .test orelse)
  | tuple items =>
      parensIf (items.isEmpty || Strength.tuple < s) (commaList (renderAll inField items))
  | list items => "[" ++ ", ".intercalate (renderAll inField items) ++ "]"
  | set items =>
      if items.isEmpty then "\x7b*()\x7d"
      else "\x7b" ++ ", ".intercalate (renderAll inField items) ++ "\x7d"
  | dict entries => "\x7b" ++ ", ".intercalate (renderEntries inField entries) ++ "\x7d"
  | listComp item clauses =>
      "[" ++ renderAt inField .test item ++ renderClauses inField clauses ++ "]"
  | setComp item clauses =>
      "\x7b" ++ renderAt inField .test item ++ renderClauses inField clauses ++ "\x7d"
  | generator item clauses =>
      "(" ++ renderAt inField .test item ++ renderClauses inField clauses ++ ")"
  | dictComp key value clauses =>
      "\x7b" ++ renderAt inField .test key ++ ": " ++ renderAt inField .test value ++
        renderClauses inField clauses ++ "\x7d"
  | await value => parensIf (Strength.await < s) ("await " ++ renderAt inField .atom value)
  | yield none => parensIf (Strength.yield < s) "yield"
  | yield (some value) =>
      parensIf (Strength.yield < s) ("yield " ++ renderAt inField .atom value)
  | yieldFrom value =>
      parensIf (Strength.yield < s) ("yield from " ++ renderAt inField .atom value)
  | formatted pieces =>
      let parts := renderPieces pieces
      if inField then "f" ++ quotedWith allQuotes (parts.flatMap Prod.fst)
      else "f" ++ quotedParts parts
  | slice lower upper step =>
      renderOption inField "" lower ++ ":" ++ renderOption inField "" upper ++
        renderOption inField ":" step

/-- Writes expressions for the items of a list. -/
def renderAll (inField : Bool) : List Expr → List String
  | [] => []
  | e :: es => renderAt inField .test e :: renderAll inField es

/-- Writes operands, each for a tighter place than the one before. -/
def renderRising (inField : Bool) (s : Strength) : List Expr → List String
  | [] => []
  | e :: es => renderAt inField s e :: renderRising inField s.next es

/-- Writes an expression with a text before it, or nothing. -/
def renderOption (inField : Bool) (before : String) : Option Expr → String
  | none => ""
  | some e => before ++ renderAt inField .test e

def renderComparisons (inField : Bool) : List (CompareOp × Expr) → String
  | [] => ""
  | (op, e) :: rest =>
      " " ++ op.symbol ++ " " ++ renderAt inField Strength.comparison.next e ++
        renderComparisons inField rest

def renderKeyword (inField : Bool) : Keyword Expr → String
  | ⟨some n, value⟩ => n ++ "=" ++ renderAt inField .test value
  | ⟨none, value⟩ => "**" ++ renderAt inField .test value

def renderKeywords (inField : Bool) : List (Keyword Expr) → List String
  | [] => []
  | k :: ks => renderKeyword inField k :: renderKeywords inField ks

def renderEntry (inField : Bool) : Entry Expr → String
  | ⟨some key, value⟩ => renderAt inField .test key ++ ": " ++ renderAt inField .test value
  | ⟨none, value⟩ => "**" ++ renderAt inField .bitOr value

def renderEntries (inField : Bool) : List (Entry Expr) → List String
  | [] => []
  | e :: es => renderEntry inField e :: renderEntries inField es

def renderConditions (inField : Bool) : List Expr → String
  | [] => ""
  | e :: es => " if " ++ renderAt inField Strength.test.next e ++ renderConditions inField es

def renderClause (inField : Bool) : Clause Expr → String
  | ⟨target, source, conditions, isAsync⟩ =>
      (if isAsync then " async for " else " for ") ++ renderAt inField .tuple target ++ " in " ++
        renderAt inField Strength.test.next source ++ renderConditions inField conditions

def renderClauses (inField : Bool) : List (Clause Expr) → String
  | [] => ""
  | c :: cs => renderClause inField c ++ renderClauses inField cs

/-- A parameter with its type and default value. -/
def renderParam (inField : Bool) : Param Expr → String
  | ⟨n, hint, default⟩ =>
      n ++ renderOption inField ": " hint ++ renderOption inField "=" default

def renderParamList (inField : Bool) : List (Param Expr) → List String
  | [] => []
  | p :: ps => renderParam inField p :: renderParamList inField ps

/-- A parameter after a star, or nothing. -/
def renderOptionParam (inField : Bool) (star : String) : Option (Param Expr) → List String
  | none => []
  | some p => [star ++ renderParam inField p]

/-- The parameters of a function, to be separated by commas. -/
def renderParams (inField : Bool) : Params Expr → List String
  | ⟨positionalOnly, ordinary, rest, keywordOnly, keywords⟩ =>
      let front := renderParamList inField positionalOnly
      let star := renderOptionParam inField "*" rest
      let keyed := renderParamList inField keywordOnly
      (if front.isEmpty then [] else front ++ ["/"]) ++ renderParamList inField ordinary ++
        (if star.isEmpty && ! keyed.isEmpty then ["*"] else star) ++ keyed ++
        renderOptionParam inField "**" keywords

/-- A field of formatted text, in its braces; the expression is kept apart from a brace. -/
def renderPiece : Piece Expr → List CodePoint × Bool
  | .text s => (doubleBraces (CodePoint.ofString s), true)
  | .brokenText t => (doubleBraces t.points, true)
  | .field value conversion format =>
      let inner := renderAt true Strength.test.next value
      let gap := if inner.toList.head? = some '\x7b' then " " else ""
      let conversion := match conversion with
        | some c => String.ofList ['!', c]
        | none => ""
      (CodePoint.ofString ("\x7b" ++ gap ++ inner ++ conversion) ++ renderFormat format ++
        [.char '\x7d'], false)

def renderPieces : List (Piece Expr) → List (List CodePoint × Bool)
  | [] => []
  | p :: ps => renderPiece p :: renderPieces ps

def renderFormat : Option (List (Piece Expr)) → List CodePoint
  | none => []
  | some pieces => .char ':' :: (renderPieces pieces).flatMap Prod.fst

end

/-- The source text of an expression that stands alone. -/
def render (e : Expr) : String := renderAt false .test e

theorem renderAt_constant (s : Strength) (v : Literal) :
    renderAt false s (.constant v) = v.render := by
  rw [renderAt, renderConstant.eq_def]
  split <;> rfl

end Expr

end TypedClients.Code
