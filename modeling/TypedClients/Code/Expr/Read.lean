import TypedClients.Code.Format
import TypedClients.Code.Reader
import TypedClients.Code.Token.Scan

/-!
# Reading expressions

One rule for each level of the grammar, from the loosest operator to the tightest. The rules that
lead back to a looser level take the readers of that level as an argument, `Rules`; `rules` ties the
knot with a bound on the nesting, for which the length of the text is enough.
-/
namespace TypedClients.Code

open Reader

/-- The readers that a rule may come back to at a deeper nesting. -/
structure Rules where
  expression : Reader Expr
  /-- The operand of `not`. -/
  negation : Reader Expr
  /-- The operand of a sign or of a power. -/
  factor : Reader Expr
  /-- The operand of a star. -/
  bitOr : Reader Expr
  /-- The clauses of a comprehension. -/
  clauses : Reader (List (Clause Expr))
  /-- The expression of a field in formatted text. -/
  field : List Char → Option Expr

/-! ### Assignment targets -/

namespace Expr

mutual

/-- Whether a value can be assigned to the expression, wherever it stands. -/
def isTarget : Expr → Bool
  | .name _ | .member _ _ | .subscript _ _ => true
  | .tuple items | .list items => areTargets items
  | _ => false

/-- Whether values can be assigned to the items; an item with a star takes several. -/
def areTargets : List Expr → Bool
  | [] => true
  | .starred e :: es => isTarget e && areTargets es
  | e :: es => isTarget e && areTargets es

end

/-- Whether values can be assigned to the expression where one with a star may stand. -/
def isStarTarget : Expr → Bool
  | .starred e => isTarget e
  | e => isTarget e

mutual

/-- Whether the expression names something that can be deleted. -/
def isDeletable : Expr → Bool
  | .name _ | .member _ _ | .subscript _ _ => true
  | .tuple items | .list items => areDeletable items
  | _ => false

def areDeletable : List Expr → Bool
  | [] => true
  | e :: es => isDeletable e && areDeletable es

end

/-- Whether the expression can take a type or an operation in place: it is not a group. -/
def isSingleTarget : Expr → Bool
  | .name _ | .member _ _ | .subscript _ _ => true
  | _ => false

def isStarred : Expr → Bool
  | .starred _ => true
  | _ => false

end Expr

namespace Rules

/-- Refuses everything. -/
def refusing : Rules := ⟨failure, failure, failure, failure, failure, fun _ => none⟩

/-- One value, or a tuple of the values of a list. -/
def tupleOf (l : Listed Expr) : Expr := if l.isSingle then l.first else .tuple l.all

/-! ### Operators of two operands -/

/-- The operators that bind to the left, from the loosest level to the tightest. -/
def binaryLevels : List (List (String × BinaryOp)) :=
  [[("|", .bitOr)], [("^", .bitXor)], [("&", .bitAnd)],
    [("<<", .shiftLeft), (">>", .shiftRight)], [("+", .add), ("-", .sub)],
    [("*", .mul), ("/", .div), ("//", .floorDiv), ("%", .mod), ("@", .matMul)]]

/-- Reads one of the given operators. -/
def operatorOf {β : Type} (table : List (String × β)) : Reader β := token fun
  | .op symbol => table.lookup symbol
  | _ => none

/-- Operands of the given kind, joined by operators of the given levels. -/
def binary (operand : Reader Expr) : List (List (String × BinaryOp)) → Reader Expr
  | [] => operand
  | level :: tighter =>
      leftChain (binary operand tighter) (operatorOf level) fun left o right => .binary o left right

/-! ### Quoted text -/

/-- The pieces of one piece of quoted text that is not bytes. -/
def textPieces (r : Rules) (p : QuotedPiece) : Option (List (Piece Expr)) :=
  if p.formatted then formattedPieces r.field p.raw p.body
  else (textOf p.raw p.body).map fun points => [.ofPoints points]

/-- Neighbouring quoted texts are one. Bytes do not mix with text, and with one formatted text all
of it is formatted. -/
def quotedRun (r : Rules) (ps : List QuotedPiece) : Option Expr :=
  if ps.all (·.bytes) then do
    let parts ← ps.mapM fun p => unescapeBytes p.raw p.body
    return .constant (.bytes parts.flatten)
  else if ps.any (·.bytes) then none
  else if ps.any (·.formatted) then do
    let pieces ← ps.mapM (textPieces r)
    return .formatted (joinTexts pieces.flatten)
  else do
    let texts ← ps.mapM fun p => textOf p.raw p.body
    return .constant (.ofPoints texts.flatten (ps.head?.any (·.marked)))

def quotedPiece : Reader QuotedPiece := token fun
  | .quoted p => some p
  | _ => none

/-! ### Parameters -/

/-- What may stand between the commas of a parameter list. -/
inductive ParamItem where
  | plain (p : Param Expr)
  | slash
  | star
  | rest (p : Param Expr)
  | keywords (p : Param Expr)

/-- The plain parameters at the front. -/
def leadingParams : List ParamItem → List (Param Expr) × List ParamItem
  | .plain p :: items => let (ps, rest) := leadingParams items; (p :: ps, rest)
  | items => ([], items)

/-- After a parameter with a default value all have one. -/
def defaultsTrail (ps : List (Param Expr)) : Bool :=
  (ps.dropWhile (·.default.isNone)).all (·.default.isSome)

/-- Sorts a parameter list by kind. A slash ends the positional-only parameters, of which there is
one at least; a star begins the keyword-only ones, of which a bare star needs one. -/
def arrangeParams (items : List ParamItem) : Option (Params Expr) := do
  let (front, items) := leadingParams items
  let (positionalOnly, ordinary, items) ← match items with
    | .slash :: items =>
        if front.isEmpty then none
        else let (ordinary, items) := leadingParams items; some (front, ordinary, items)
    | _ => some ([], front, items)
  if ! defaultsTrail (positionalOnly ++ ordinary) then none
  let (rest, keywordOnly, items) ← match items with
    | .star :: items =>
        let (ps, items) := leadingParams items
        if ps.isEmpty then none else some (none, ps, items)
    | .rest p :: items => let (ps, items) := leadingParams items; some (some p, ps, items)
    | _ => some (none, [], items)
  let keywords ← match items with
    | [] => some none
    | [.keywords p] => some (some p)
    | _ => none
  return { positionalOnly, ordinary, rest, keywordOnly, keywords }

/-- A parameter list up to a closing token, which is not read. `hint` reads the type of a parameter
and `restHint` that of the one with a star. -/
def paramList (r : Rules) (close : Token) (hint restHint : Reader (Option Expr)) :
    Reader (Params Expr) := do
  if ← sees close then return {}
  let item : Reader ParamItem := do
    if ← accepts (.op "/") then return .slash
    if ← accepts (.op "**") then return .keywords ⟨← anyName, ← hint, none⟩
    if ← accepts (.op "*") then
      match ← optional? anyName with
      | some name => return .rest ⟨name, ← restHint, none⟩
      | none => return .star
    let name ← anyName
    let hint ← hint
    let default ← if ← accepts (.op "=") then some <$> r.expression else pure none
    return .plain ⟨name, hint, default⟩
  let items ← listed item
  if ! (← sees close) then failure
  arrangeParams items.all

/-! ### Arguments -/

/-- What may stand between the commas of an argument list. -/
inductive ArgumentItem where
  | positional (e : Expr)
  | generator (e : Expr)
  | spread (e : Expr)
  | keyword (name : String) (e : Expr)
  | mapping (e : Expr)

/-- The positional arguments and those with a star, and the keyword arguments, each in order. A
positional argument follows no keyword argument, one with a star no mapping; a comprehension
without brackets is refused. -/
def arrangeArguments : List ArgumentItem → Option (List Expr × List (Keyword Expr))
  | [] => some ([], [])
  | .generator _ :: _ => none
  | .positional e :: items => (arrangeArguments items).map fun (es, ks) => (e :: es, ks)
  | .spread e :: items => (arrangeArguments items).map fun (es, ks) => (.starred e :: es, ks)
  | .keyword name e :: items =>
      if items.any fun | .positional _ => true | _ => false then none
      else (arrangeArguments items).map fun (es, ks) => (es, ⟨some name, e⟩ :: ks)
  | .mapping e :: items =>
      if items.any fun | .positional _ | .spread _ => true | _ => false then none
      else (arrangeArguments items).map fun (es, ks) => (es, ⟨none, e⟩ :: ks)

/-! ### The levels of the grammar -/

section Levels

variable (r : Rules)

/-- An expression, or a name given a value. -/
def namedRule : Reader Expr
  | .name n :: .op ":=" :: ts => (r.expression ts).map fun (e, ts) => (.named (.name n) e, ts)
  | ts => r.expression ts

/-- Whether a clause of a comprehension comes next. -/
def seesClause : Reader Bool := fun ts =>
  some (ts.head? = some (.word "for") ∨ ts.head? = some (.word "async"), ts)

/-- An expression after a star, or any expression, that a name may be given to. -/
def starNamed : Reader Expr := do
  if ← accepts (.op "*") then return .starred (← r.bitOr) else namedRule r

/-- An expression after a star, or any expression. -/
def starExpression : Reader Expr := do
  if ← accepts (.op "*") then return .starred (← r.bitOr) else r.expression

/-- Expressions separated by commas. -/
def starExpressions : Reader Expr := do
  return tupleOf (← listed (starExpression r))

/-- What `yield` gives out; the word is read already. -/
def yieldRest : Reader Expr := do
  if ← accepts (.word "from") then return .yieldFrom (← r.expression)
  return .yield (← optional? (starExpressions r))

def argument : Reader ArgumentItem
  | .name n :: .op "=" :: ts => (r.expression ts).map fun (e, ts) => (.keyword n e, ts)
  | .op "*" :: ts => (r.expression ts).map fun (e, ts) => (.spread e, ts)
  | .op "**" :: ts => (r.expression ts).map fun (e, ts) => (.mapping e, ts)
  | ts => StateT.run (do
      let e ← namedRule r
      if ← seesClause then return ArgumentItem.generator (.generator e (← r.clauses))
      else return ArgumentItem.positional e) ts

/-- Arguments and the closing bracket after them. Of a call, a comprehension without brackets may
be the only argument. -/
def arguments (ofCall : Bool) : Reader (List Expr × List (Keyword Expr)) := do
  if ← accepts (.op ")") then return ([], [])
  let items ← listed (argument r)
  op ")"
  match ofCall && items.isSingle, items.first with
  | true, .generator e => return ([e], [])
  | _, _ => arrangeArguments items.all

/-- An item between the brackets of a subscript. -/
def sliceItem : Reader Expr
  | .op "*" :: ts => (r.expression ts).map fun (e, ts) => (.starred e, ts)
  | .name n :: .op ":=" :: ts => (r.expression ts).map fun (e, ts) => (.named (.name n) e, ts)
  | ts => StateT.run (do
      let lower ← if ← sees (.op ":") then pure none else some <$> r.expression
      if ← accepts (.op ":") then
        let upper ← optional? r.expression
        let step ← if ← accepts (.op ":") then optional? r.expression else pure none
        return Expr.slice lower upper step
      else match lower with
        | some e => return e
        | none => failure) ts

/-- The index of a subscript: one item, or a tuple of several; one item with a star is a tuple. -/
def indexOf (l : Listed Expr) : Expr :=
  if l.isSingle && ! l.first.isStarred then l.first else .tuple l.all

/-- What may follow a value without an operator. -/
def trailer : Reader (Expr → Expr)
  | .op "." :: .name field :: ts => some ((.member · field), ts)
  | .op "(" :: ts => (arguments r true ts).map fun ((es, ks), ts) => ((.call · es ks), ts)
  | .op "[" :: ts => StateT.run (do
      let l ← listed (sliceItem r)
      op "]"
      return (Expr.subscript · (indexOf l))) ts
  | _ => none

/-- What stands between parentheses, with the closing one. -/
def parenthesised : Reader Expr := do
  if ← accepts (.op ")") then return .tuple []
  if ← accepts (.word "yield") then
    let e ← yieldRest r
    op ")"
    return e
  let l ← listed (starNamed r)
  if l.isSingle ∧ ¬ l.first.isStarred then
    if ← seesClause then
      let cs ← r.clauses
      op ")"
      return .generator l.first cs
  op ")"
  if l.isSingle ∧ l.first.isStarred then failure
  return tupleOf l

/-- What stands between square brackets, with the closing one. -/
def bracketed : Reader Expr := do
  if ← accepts (.op "]") then return .list []
  let l ← listed (starNamed r)
  if l.isSingle ∧ ¬ l.first.isStarred then
    if ← seesClause then
      let cs ← r.clauses
      op "]"
      return .listComp l.first cs
  op "]"
  return .list l.all

/-- What may stand between the commas in braces: an entry of a mapping or an item of a set. -/
inductive BraceItem where
  | entry (e : Entry Expr)
  | item (e : Expr)

def BraceItem.asEntry : BraceItem → Option (Entry Expr)
  | .entry e => some e
  | .item _ => none

def BraceItem.asItem : BraceItem → Option Expr
  | .item e => some e
  | .entry _ => none

def braceItem : Reader BraceItem
  | .op "**" :: ts => (r.bitOr ts).map fun (e, ts) => (.entry ⟨none, e⟩, ts)
  | .op "*" :: ts => (r.bitOr ts).map fun (e, ts) => (.item (.starred e), ts)
  | .name n :: .op ":=" :: ts =>
      (r.expression ts).map fun (e, ts) => (.item (.named (.name n) e), ts)
  | ts => StateT.run (do
      let e ← r.expression
      if ← accepts (.op ":") then return BraceItem.entry ⟨some e, ← r.expression⟩
      else return BraceItem.item e) ts

/-- What stands between braces, with the closing one. -/
def braced : Reader Expr := do
  if ← accepts (.op "\x7d") then return .dict []
  let l ← listed (braceItem r)
  if l.isSingle then
    if ← seesClause then
      let cs ← r.clauses
      op "\x7d"
      match l.first with
      | .entry ⟨some key, value⟩ => return .dictComp key value cs
      | .item e => if e.isStarred then failure else return .setComp e cs
      | _ => failure
  op "\x7d"
  match l.all.mapM BraceItem.asEntry, l.all.mapM BraceItem.asItem with
  | some entries, _ => return .dict entries
  | _, some items => return .set items
  | _, _ => failure

/-- A value that no operator splits. -/
def atom : Reader Expr
  | .name n :: ts => some (.name n, ts)
  | .number v :: ts => some (.constant v, ts)
  | .word w :: ts =>
      if w = "None" then some (.constant .none, ts)
      else if w = "True" then some (.constant (.bool true), ts)
      else if w = "False" then some (.constant (.bool false), ts)
      else none
  | .op symbol :: ts =>
      if symbol = "(" then parenthesised r ts
      else if symbol = "[" then bracketed r ts
      else if symbol = "\x7b" then braced r ts
      else if symbol = "..." then some (.constant .ellipsis, ts)
      else none
  | ts => StateT.run (do
      let ps ← oneOrMore quotedPiece
      quotedRun r ps) ts

/-- A value with what follows it without an operator. -/
def primary : Reader Expr := do
  let e ← atom r
  let trailers ← many (trailer r)
  return trailers.foldl (fun e f => f e) e

def power : Reader Expr := do
  let base ← if ← accepts (.word "await") then Expr.await <$> primary r else primary r
  if ← accepts (.op "**") then return .binary .pow base (← r.factor) else return base

def factorRule : Reader Expr := do
  match ← optional? (operatorOf [("+", UnaryOp.plus), ("-", .minus), ("~", .invert)]) with
  | some o => return .unary o (← r.factor)
  | none => power r

def bitOrRule : Reader Expr := binary (factorRule r) binaryLevels

def compareOp : Reader CompareOp
  | .op symbol :: ts => (List.lookup symbol
      [("==", CompareOp.eq), ("!=", .notEq), ("<", .lt), ("<=", .ltEq), (">", .gt),
        (">=", .gtEq)]).map (·, ts)
  | .word "in" :: ts => some (.isIn, ts)
  | .word "not" :: .word "in" :: ts => some (.notIn, ts)
  | .word "is" :: .word "not" :: ts => some (.isNot, ts)
  | .word "is" :: ts => some (.is, ts)
  | _ => none

def comparison : Reader Expr := do
  let left ← bitOrRule r
  let rest ← many (do return (← compareOp, ← bitOrRule r))
  return if rest.isEmpty then left else .compare left rest

def negationRule : Reader Expr := do
  if ← accepts (.word "not") then return .unary .not (← r.negation) else comparison r

/-- Operands joined by a word; one operand stands for itself. -/
def logicChain (o : LogicOp) (joint : String) (operand : Reader Expr) : Reader Expr := do
  let first ← operand
  let rest ← many (do word joint; operand)
  return if rest.isEmpty then first else .logic o (first :: rest)

def disjunction : Reader Expr := logicChain .or "or" (logicChain .and "and" (negationRule r))

def expressionRule : Reader Expr := do
  if ← accepts (.word "lambda") then
    let params ← paramList r (.op ":") (pure none) (pure none)
    op ":"
    return .lambda params (← r.expression)
  let e ← disjunction r
  (do
    word "if"
    let test ← disjunction r
    word "else"
    return .conditional test e (← r.expression)) <|> pure e

/-- An item of a list of targets; whether it is a target is checked on the whole list. -/
def targetItem : Reader Expr := do
  if ← accepts (.op "*") then return .starred (← primary r) else primary r

/-- Targets of an assignment, separated by commas. -/
def targetList : Reader Expr := do
  let e := tupleOf (← listed (targetItem r))
  if e.isStarTarget then return e else failure

/-- One clause of a comprehension. -/
def clause : Reader (Clause Expr) := do
  let isAsync ← accepts (.word "async")
  word "for"
  let target ← targetList r
  word "in"
  let source ← disjunction r
  let conditions ← many (do word "if"; disjunction r)
  return ⟨target, source, conditions, isAsync⟩

/-- The source of a field holds an expression, or several separated by commas, as if it stood in
parentheses; it is not blank. -/
def fieldRule (source : List Char) : Option Expr :=
  if source.all fun c => c == ' ' || c == '\t' || c == '\n' || c == '\x0c' then none
  else do
    let ts ← Token.scan ('(' :: (source ++ [')', '\n']))
    let (e, _) ← starExpressions r ts
    return e

end Levels

/-- The rules for expressions nested at most so deep. -/
def upTo : Nat → Rules
  | 0 => refusing
  | n + 1 =>
      { expression := fun ts => expressionRule (upTo n) ts
        negation := fun ts => negationRule (upTo n) ts
        factor := fun ts => factorRule (upTo n) ts
        bitOr := fun ts => bitOrRule (upTo n) ts
        clauses := fun ts => oneOrMore (clause (upTo n)) ts
        field := fun source => fieldRule (upTo n) source }

/-- The rules for all expressions of a text of the given length. Each nesting takes a character at
least. -/
def forLength (length : Nat) : Rules := upTo (length + 2)

end Rules

/-- Why a source text could not be read. -/
inductive ReadError where
  /-- The text holds a null character. -/
  | nullCharacter
  /-- The text does not follow the grammar. -/
  | malformed
  deriving DecidableEq, Repr, Inhabited

namespace Expr

/-- Reads the expression a source text holds: one expression, or a tuple of several. -/
def read (source : String) : Except ReadError Expr :=
  let cs := source.toList
  if cs.contains (Char.ofNat 0) then .error .nullCharacter
  else
    let cs := Text.unifyLineEnds cs
    let rules := Rules.forLength cs.length
    let whole : Reader Expr := do
      let e := Rules.tupleOf (← listed rules.expression)
      let _ ← many (exactly .newline)
      return e
    match (Token.scan cs).bind whole.run with
    | some e => .ok e
    | none => .error .malformed

end Expr

end TypedClients.Code
