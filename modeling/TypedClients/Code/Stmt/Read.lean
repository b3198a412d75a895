import TypedClients.Code.Expr.Read
import TypedClients.Code.Stmt

/-!
# Reading statements

A source text is read into its statements. As for expressions there is one rule for each form, and
the rules that hold blocks take the reader of a block as an argument.
-/
namespace TypedClients.Code

open Reader

namespace Rules

/-! ### Patterns -/

section Patterns

variable (r : Rules)

/-- A number that may have a sign, and whether it is imaginary. -/
def signedNumber (signed : Bool) : Reader (Expr × Bool) := do
  let minus ← if signed then accepts (.op "-") else pure false
  let v ← token fun | .number v => some v | _ => none
  let e := Expr.constant v
  return (if minus then .unary .minus e else e, v matches .imaginary _)

/-- A number, or a sum of a real and an imaginary one. -/
def numberValue : Reader Expr := do
  let (e, isImaginary) ← signedNumber true
  match ← optional? (operatorOf [("+", BinaryOp.add), ("-", .sub)]) with
  | none => return e
  | some o =>
      let (f, second) ← signedNumber false
      if isImaginary ∨ ¬ second then failure
      return .binary o e f

/-- A number or a text. -/
def literalValue : Reader Expr :=
  numberValue <|> (do quotedRun r (← oneOrMore quotedPiece))

/-- One of the three constants that are words. -/
def constantWord : Reader Literal := token fun
  | .word "None" => some .none
  | .word "True" => some (.bool true)
  | .word "False" => some (.bool false)
  | _ => none

/-- A name with further ones after dots. -/
def dottedValue : Reader Expr := do
  let first ← anyName
  let fields ← many (do op "."; anyName)
  return fields.foldl .member (.name first)

/-- A name that a pattern binds. -/
def captureName : Reader String := do
  let n ← anyName
  if n = "_" then failure
  return n

/-- The name after a star: none for the wildcard. -/
def restName : Reader (Option String) := do
  let n ← anyName
  return if n = "_" then none else some n

/-- A pattern, or a star and a name for the remaining items. -/
def maybeRest (pattern : Reader Pattern) : Reader Pattern := do
  if ← accepts (.op "*") then return .rest (← restName) else pattern

def isRest : Pattern → Bool
  | .rest _ => true
  | _ => false

/-- What may stand between the commas of a mapping pattern. -/
inductive MappingItem where
  | entry (key : Expr) (pattern : Pattern)
  | rest (name : String)

def mappingItem (pattern : Reader Pattern) : Reader MappingItem := do
  if ← accepts (.op "**") then return .rest (← captureName)
  let key ← literalValue r <|> (Expr.constant <$> constantWord) <|> (do
    let e ← dottedValue
    if e matches .name _ then failure
    return e)
  op ":"
  return .entry key (← pattern)

/-- Only the last item may take the remaining entries. -/
def arrangeMapping : List MappingItem → Option (List (Expr × Pattern) × Option String)
  | [] => some ([], none)
  | [.rest n] => some ([], some n)
  | .rest _ :: _ => none
  | .entry k p :: items => (arrangeMapping items).map fun (es, rest) => ((k, p) :: es, rest)

/-- What may stand between the commas of an instance pattern. -/
inductive FieldItem where
  | positional (pattern : Pattern)
  | field (name : String) (pattern : Pattern)

def fieldItem (pattern : Reader Pattern) : Reader FieldItem
  | .name n :: .op "=" :: ts => (pattern ts).map fun (p, ts) => (.field n p, ts)
  | ts => (pattern ts).map fun (p, ts) => (.positional p, ts)

/-- Positional patterns come before those for fields. -/
def arrangeFields : List FieldItem → Option (List Pattern × List (String × Pattern))
  | [] => some ([], [])
  | .positional p :: items => (arrangeFields items).map fun (ps, fs) => (p :: ps, fs)
  | .field n p :: items =>
      if items.any fun | .positional _ => true | _ => false then none
      else (arrangeFields items).map fun (ps, fs) => (ps, (n, p) :: fs)

/-- A pattern that starts with a name. -/
def namedPattern (pattern : Reader Pattern) : Reader Pattern := do
  let e ← dottedValue
  if ← accepts (.op "(") then
    if ← accepts (.op ")") then return .instanceOf e [] []
    let items ← listed (fieldItem pattern)
    op ")"
    let (positional, fields) ← arrangeFields items.all
    return .instanceOf e positional fields
  if ← sees (.op "=") then failure
  match e with
  | .name n => return .capture none (if n = "_" then none else some n)
  | e => return .value e

/-- A pattern without alternatives. -/
def closedPattern (pattern : Reader Pattern) : Reader Pattern := do
  if ← accepts (.op "(") then
    if ← accepts (.op ")") then return .sequence []
    let l ← listed (maybeRest pattern)
    op ")"
    if l.isSingle then
      if isRest l.first then failure
      return l.first
    return .sequence l.all
  if ← accepts (.op "[") then
    if ← accepts (.op "]") then return .sequence []
    let l ← listed (maybeRest pattern)
    op "]"
    return .sequence l.all
  if ← accepts (.op "\x7b") then
    if ← accepts (.op "\x7d") then return .mapping [] none
    let l ← listed (mappingItem r pattern)
    op "\x7d"
    let (entries, rest) ← arrangeMapping l.all
    return .mapping entries rest
  (Pattern.singleton <$> constantWord) <|> (Pattern.value <$> literalValue r) <|>
    namedPattern pattern

/-- Alternatives, and perhaps a name for what is matched. -/
def patternRule (pattern : Reader Pattern) : Reader Pattern := do
  let first ← closedPattern r pattern
  let others ← many (do op "|"; closedPattern r pattern)
  let p := if others.isEmpty then first else .alternatives (first :: others)
  if ← accepts (.word "as") then return .capture (some p) (some (← captureName)) else return p

/-- Patterns nested at most so deep. -/
def patternUpTo : Nat → Reader Pattern
  | 0 => failure
  | n + 1 => fun ts => patternRule r (patternUpTo n) ts

/-- The pattern of a case: one pattern, or a sequence without brackets. -/
def casePattern (pattern : Reader Pattern) : Reader Pattern := do
  let l ← listed (maybeRest pattern)
  if l.isSingle then
    if isRest l.first then failure
    return l.first
  return .sequence l.all

end Patterns

/-! ### Simple statements -/

section Simple

variable (r : Rules)

/-- What an assignment takes its value from. -/
def starOrYield : Reader Expr := do
  if ← accepts (.word "yield") then yieldRest r else starExpressions r

/-- The operators that change a target in place. -/
def augmentOps : List (String × BinaryOp) :=
  [("+=", .add), ("-=", .sub), ("*=", .mul), ("@=", .matMul), ("/=", .div), ("%=", .mod),
    ("//=", .floorDiv), ("**=", .pow), ("<<=", .shiftLeft), (">>=", .shiftRight), ("|=", .bitOr),
    ("^=", .bitXor), ("&=", .bitAnd)]

/-- An expression, or an assignment to it. -/
def expressionStatement : Reader Stmt := do
  if ← accepts (.word "yield") then return .expression (← yieldRest r)
  let inParens ← sees (.op "(")
  let e ← starExpressions r
  if ← accepts (.op ":") then
    if ! e.isSingleTarget then failure
    let hint ← r.expression
    let value ← if ← accepts (.op "=") then some <$> starOrYield r else pure none
    return .declare e hint value (e matches .name _ && ! inParens)
  match ← optional? (operatorOf augmentOps) with
  | some o =>
      if ! e.isSingleTarget then failure
      return .augment e o (← starOrYield r)
  | none =>
      let values ← many (do op "="; starOrYield r)
      match values.getLast? with
      | none => return .expression e
      | some value =>
          let targets := e :: values.dropLast
          if ! targets.all Expr.isStarTarget then failure
          return .assign targets value

/-- Names joined by dots, as one name. -/
def dottedName : Reader String := do
  let first ← anyName
  let rest ← many (do op "."; anyName)
  return ".".intercalate (first :: rest)

/-- A name that is imported, and perhaps the name it is bound to. -/
def imported (name : Reader String) : Reader Imported := do
  let n ← name
  if ← accepts (.word "as") then return ⟨n, some (← anyName)⟩ else return ⟨n, none⟩

/-- Dots before a module name; three dots are one token. -/
def leadingDot : Reader Nat := token fun
  | .op "." => some 1
  | .op "..." => some 3
  | _ => none

/-- The names taken from a module. -/
def importedNames : Reader (List Imported) := do
  if ← accepts (.op "*") then return [⟨"*", none⟩]
  if ← accepts (.op "(") then
    let l ← listed (imported anyName)
    op ")"
    return l.all
  let l ← listed (imported anyName)
  if l.trailing then failure
  return l.all

def importFromRule : Reader Stmt := do
  let level := (← many leadingDot).foldl Nat.add 0
  let module ← optional? dottedName
  if level = 0 ∧ module.isNone then failure
  word "import"
  return .importFrom module (← importedNames) level

/-- Values separated by commas, with none after the last. -/
def listedExactly {α : Type} (p : Reader α) : Reader (List α) := do
  let l ← listed p
  if l.trailing then failure
  return l.all

def simpleStatement : Reader Stmt
  | .word w :: ts =>
      match w with
      | "pass" => some (.pass, ts)
      | "break" => some (.breakLoop, ts)
      | "continue" => some (.continueLoop, ts)
      | "return" => StateT.run (do return Stmt.returnValue (← optional? (starExpressions r))) ts
      | "raise" => StateT.run (do
          match ← optional? r.expression with
          | none => return Stmt.raise none none
          | some e =>
              let cause ← if ← accepts (.word "from") then some <$> r.expression else pure none
              return Stmt.raise (some e) cause) ts
      | "global" => StateT.run (do return Stmt.global (← listedExactly anyName)) ts
      | "nonlocal" => StateT.run (do return Stmt.nonlocal (← listedExactly anyName)) ts
      | "del" => StateT.run (do
          let l ← listed (primary r)
          if ! l.all.all Expr.isDeletable then failure
          return Stmt.delete l.all) ts
      | "assert" => StateT.run (do
          let test ← r.expression
          let message ← if ← accepts (.op ",") then some <$> r.expression else pure none
          return Stmt.assert test message) ts
      | "import" => StateT.run (do
          return Stmt.importModules (← listedExactly (imported dottedName))) ts
      | "from" => importFromRule ts
      | _ => expressionStatement r (.word w :: ts)
  | ts => expressionStatement r ts

/-- Statements on one line, separated by semicolons. -/
def simpleLine : Reader (List Stmt) := do
  let first ← simpleStatement r
  let others ← many (do op ";"; simpleStatement r)
  let _ ← accepts (.op ";")
  exactly .newline
  return first :: others

end Simple

/-! ### Statements with blocks -/

section Compound

variable (r : Rules) (block : Reader (List Stmt)) (pattern : Reader Pattern)

/-- The block after a word and a colon, or no statements. -/
def blockAfter (w : String) : Reader (List Stmt) := do
  if ← accepts (.word w) then
    op ":"
    block
  else return []

def ifRule : Reader Stmt := do
  let test ← namedRule r
  op ":"
  let body ← block
  let others ← many (do
    word "elif"
    let test ← namedRule r
    op ":"
    return (test, ← block))
  let last ← blockAfter block "else"
  let orelse := others.foldr (fun (test, body) orelse => [Stmt.ifThen test body orelse]) last
  return .ifThen test body orelse

def whileRule : Reader Stmt := do
  let test ← namedRule r
  op ":"
  let body ← block
  return .whileLoop test body (← blockAfter block "else")

def forRule (isAsync : Bool) : Reader Stmt := do
  let target ← targetList r
  word "in"
  let source ← starExpressions r
  op ":"
  let body ← block
  return .forLoop isAsync target source body (← blockAfter block "else")

def resource : Reader Resource := do
  let source ← r.expression
  if ← accepts (.word "as") then
    let target ← targetItem r
    if ! target.isStarTarget then failure
    return ⟨source, some target⟩
  return ⟨source, none⟩

/-- The resources may stand in parentheses; where that reading fails the parentheses belong to an
expression. -/
def withRule (isAsync : Bool) : Reader Stmt := do
  let grouped : Reader (List Resource) := do
    op "("
    let l ← listed (resource r)
    op ")"
    op ":"
    return l.all
  let plain : Reader (List Resource) := do
    let rs ← listedExactly (resource r)
    op ":"
    return rs
  let resources ← grouped <|> plain
  return .withBlock isAsync resources (← block)

/-- A handler: the type it catches, a name, and a body. A handler of groups has a type. -/
def handler (isGroup : Bool) : Reader (Option Expr × Option String × List Stmt) := do
  word "except"
  if (← accepts (.op "*")) ≠ isGroup then failure
  let type ← if ← sees (.op ":") then pure none else some <$> r.expression
  if isGroup ∧ type.isNone then failure
  let name ← if type.isSome ∧ (← accepts (.word "as")) then some <$> anyName else pure none
  op ":"
  return (type, name, ← block)

def tryRule : Reader Stmt := do
  op ":"
  let body ← block
  let plain ← many (handler r block false)
  let grouped ← if plain.isEmpty then many (handler r block true) else pure []
  let handlers := plain ++ grouped
  let orelse ← if handlers.isEmpty then pure [] else blockAfter block "else"
  let cleanup ← blockAfter block "finally"
  if handlers.isEmpty ∧ cleanup.isEmpty then failure
  return .tryBlock (! grouped.isEmpty) body handlers orelse cleanup

/-- The type of a parameter, if it has one. -/
def hintRule (type : Reader Expr) : Reader (Option Expr) := do
  if ← accepts (.op ":") then some <$> type else return none

def functionRule (decorators : List Expr) (isAsync : Bool) : Reader Stmt := do
  let name ← anyName
  op "("
  let params ← paramList r (.op ")") (hintRule r.expression) (hintRule (starExpression r))
  op ")"
  let returns ← if ← accepts (.op "->") then some <$> r.expression else pure none
  op ":"
  return .functionDef isAsync decorators name params returns (← block)

def classRule (decorators : List Expr) : Reader Stmt := do
  let name ← anyName
  let (bases, keywords) ← if ← accepts (.op "(") then arguments r false else pure ([], [])
  op ":"
  return .classDef decorators name bases keywords (← block)

def decoratedRule (decorators : List Expr) : Reader Stmt := do
  if ← accepts (.word "class") then classRule r block decorators
  else
    let isAsync ← accepts (.word "async")
    word "def"
    functionRule r block decorators isAsync

def caseRule : Reader (Pattern × Option Expr × List Stmt) := do
  softWord "case"
  let p ← casePattern pattern
  let guard ← if ← accepts (.word "if") then some <$> namedRule r else pure none
  op ":"
  return (p, guard, ← block)

def matchRule : Reader Stmt := do
  softWord "match"
  let l ← listed (starNamed r)
  if l.isSingle ∧ l.first.isStarred then failure
  op ":"
  exactly .newline
  exactly .indent
  let cases ← oneOrMore (caseRule r block pattern)
  exactly .dedent
  return .matchBlock (tupleOf l) cases

/-- A statement with a block. -/
def compoundStatement : Reader Stmt
  | .op "@" :: ts => StateT.run (do
      let decorators ← oneOrMore (do
        op "@"
        let e ← namedRule r
        exactly .newline
        return e)
      decoratedRule r block decorators) (.op "@" :: ts)
  | .word w :: ts =>
      match w with
      | "if" => ifRule r block ts
      | "while" => whileRule r block ts
      | "for" => forRule r block false ts
      | "with" => withRule r block false ts
      | "try" => tryRule r block ts
      | "def" => functionRule r block [] false ts
      | "class" => classRule r block [] ts
      | "async" =>
          match ts with
          | .word "def" :: ts => functionRule r block [] true ts
          | .word "for" :: ts => forRule r block true ts
          | .word "with" :: ts => withRule r block true ts
          | _ => none
      | _ => none
  | ts => matchRule r block pattern ts

/-- A statement with a block, or a line of simple ones. -/
def statementLine : Reader (List Stmt) :=
  (do return [← compoundStatement r block pattern]) <|> simpleLine r

/-- An indented block, or a line of simple statements. -/
def blockRule : Reader (List Stmt) := do
  if ← accepts .newline then
    exactly .indent
    let lines ← oneOrMore (statementLine r block pattern)
    exactly .dedent
    return lines.flatten
  simpleLine r

end Compound

/-- Blocks nested at most so deep. -/
def blockUpTo (r : Rules) (pattern : Reader Pattern) : Nat → Reader (List Stmt)
  | 0 => failure
  | n + 1 => fun ts => blockRule r (blockUpTo r pattern n) pattern ts

end Rules

/-- Reads the statements of a source text. -/
def readStatements (source : String) : Except ReadError (List Stmt) :=
  let cs := source.toList
  if cs.contains (Char.ofNat 0) then .error .nullCharacter
  else
    let cs := closeLastLine (Text.unifyLineEnds cs)
    let r := Rules.forLength cs.length
    let pattern := Rules.patternUpTo r (cs.length + 1)
    let block := Rules.blockUpTo r pattern (cs.length + 1)
    let whole := many (Rules.statementLine r block pattern)
    match (Token.scan cs).bind whole.run with
    | some lines => .ok lines.flatten
    | none => .error .malformed

end TypedClients.Code
