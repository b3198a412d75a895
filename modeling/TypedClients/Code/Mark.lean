import TypedClients.Code.Stmt

/-!
# Marks

Whether statements make a valid program depends only on where names are bound and used, where
control leaves a block, and where scopes begin. `Mark` is the tree of just these; `Stmt.marks`
collects it in the order in which a program is examined. What is wrong wherever it stands becomes
`Mark.faulty`.
-/
namespace TypedClients.Code

/-- What kind of scope names live in. -/
inductive ScopeKind where
  | module
  | function (isAsync : Bool)
  | lambda
  | classBody
  /-- A comprehension; a generator runs only when asked for values. -/
  | comprehension (isGenerator : Bool)
  deriving DecidableEq, Repr, Inhabited

inductive Mark where
  | use (name : String)
  | bind (name : String)
  | param (name : String)
  /-- A name bound by an import. -/
  | take (name : String)
  /-- A name that is given a type. -/
  | hinted (name : String)
  | declareGlobal (name : String)
  | declareNonlocal (name : String)
  /-- All names of a module are imported. -/
  | importAll
  /-- A name is about to be given a value inside an expression. -/
  | givenName (name : String)
  /-- A name runs over the source of a comprehension. -/
  | iteration (name : String)
  | yields (delegates : Bool)
  | awaits
  /-- A clause of a comprehension waits for its values. -/
  | asyncClause
  /-- A statement waits for values or resources. -/
  | asyncBlock
  | returns (hasValue : Bool)
  | breaks
  | continues
  /-- Wrong wherever it stands. -/
  | faulty
  | loop (marks : List Mark)
  /-- A statement block that counts towards the depth of nesting. -/
  | nested (marks : List Mark)
  /-- A handler of a group of errors. -/
  | groupHandler (marks : List Mark)
  /-- What a clause of a comprehension runs over. -/
  | source (marks : List Mark)
  /-- A type; `ofVariable` when it is the type of a variable and not of a parameter. -/
  | hint (ofVariable : Bool) (marks : List Mark)
  | scope (kind : ScopeKind) (marks : List Mark)
  deriving Inhabited

/-- A single fault, if the condition fails. -/
def Mark.require (condition : Bool) : List Mark := if condition then [] else [.faulty]

/-- The name that nothing may be bound to. -/
def debugName : String := "__debug__"

/-- Whether a list holds no value twice. -/
def allDistinct {α : Type} [BEq α] : List α → Bool
  | [] => true
  | a :: as => ! as.contains a && allDistinct as

/-- The most values that may come before a starred target. -/
def maxBeforeStar : Nat := 256

namespace Expr

/-- At most one item has a star, and not too many come before it. -/
def starsFit (items : List Expr) : Bool :=
  (items.filter hasStar).length ≤ 1 &&
    (! items.any hasStar || (items.takeWhile (! hasStar ·)).length < maxBeforeStar)
where
  hasStar : Expr → Bool
    | .starred _ => true
    | _ => false

/-- What is done with an expression. -/
inductive Use where
  /-- Its value is taken. -/
  | value
  /-- A value is assigned to it. -/
  | target
  /-- It runs over the source of a comprehension. -/
  | iteration
  /-- It is deleted. -/
  | deletion
  deriving DecidableEq, Repr

/-- The mark of a name. -/
def nameMark (n : String) : Use → Mark
  | .value => .use n
  | .iteration => .iteration n
  | .target | .deletion => .bind n

/-- What is wrong with a field that is used. -/
def fieldMarks (field : String) : Use → List Mark
  | .target | .iteration => Mark.require (field != debugName)
  | .value | .deletion => []

/-- What is wrong with the items of a list that is used. -/
def listMarks (items : List Expr) : Use → List Mark
  | .target | .iteration => Mark.require (starsFit items)
  | .value | .deletion => []

/-- What is wrong with an item that has a star. -/
def starMarks : Use → List Mark
  | .deletion => [.faulty]
  | _ => []

/-- The marks of a comprehension, of its result and its clauses: what each does with its target, its
source, and its conditions. The first source belongs to the scope around it. -/
def comprehension (isGenerator : Bool) (result : List Mark) :
    List (List Mark × List Mark × List Mark) → List Mark
  | [] => result
  | (target, source, conditions) :: clauses =>
      [.source source, .scope (.comprehension isGenerator)
        (target ++ conditions ++
          clauses.flatMap (fun (target, source, conditions) =>
            target ++ [.source source] ++ conditions) ++ result)]

mutual

/-- The marks of an expression that is used in some way. -/
def marks (use : Use) : Expr → List Mark
  | .constant _ => []
  | .name n => [nameMark n use]
  | .member value field => value.marks .value ++ fieldMarks field use
  | .subscript value index => value.marks .value ++ index.marks .value
  | .call callee args keywords =>
      callee.marks .value ++ itemMarks .value args ++ keywordMarks keywords ++
        Mark.require (allDistinct (keywords.filterMap (·.name)))
  | .starred value => .faulty :: value.marks use
  | .logic _ operands => itemMarks .value operands
  | .unary _ operand => operand.marks .value
  | .binary _ left right => left.marks .value ++ right.marks .value
  | .compare left rest => left.marks .value ++ comparisonMarks rest
  | .named (.name n) value => .givenName n :: (value.marks .value ++ [.bind n])
  | .named target value => target.marks .value ++ value.marks .value
  | .lambda ⟨positionalOnly, ordinary, rest, keywordOnly, keywords⟩ body =>
      defaultMarks positionalOnly ++ defaultMarks ordinary ++ defaultMarks keywordOnly ++
        [.scope .lambda ((positionalOnly ++ ordinary ++ keywordOnly ++ rest.toList ++
          keywords.toList).map (fun p => Mark.param p.name) ++ body.marks .value)]
  | .conditional test body orelse =>
      test.marks .value ++ body.marks .value ++ orelse.marks .value
  | .tuple items | .list items => listMarks items use ++ itemMarks use items
  | .set items => itemMarks .value items
  | .dict entries => entryMarks entries
  | .listComp item clauses | .setComp item clauses =>
      comprehension false (item.marks .value) (clauseMarks clauses)
  | .generator item clauses => comprehension true (item.marks .value) (clauseMarks clauses)
  | .dictComp key value clauses =>
      comprehension false (value.marks .value ++ key.marks .value) (clauseMarks clauses)
  | .await value => value.marks .value ++ [.awaits]
  | .yield value => optionMarks value ++ [.yields false]
  | .yieldFrom value => value.marks .value ++ [.yields true]
  | .formatted pieces => pieceMarks pieces
  | .slice lower upper step => optionMarks lower ++ optionMarks upper ++ optionMarks step

/-- The marks of items of which some may have a star. -/
def itemMarks (use : Use) : List Expr → List Mark
  | [] => []
  | .starred e :: es => starMarks use ++ e.marks use ++ itemMarks use es
  | e :: es => e.marks use ++ itemMarks use es

def optionMarks : Option Expr → List Mark
  | none => []
  | some e => e.marks .value

def comparisonMarks : List (CompareOp × Expr) → List Mark
  | [] => []
  | (_, e) :: rest => e.marks .value ++ comparisonMarks rest

def keywordMarks : List (Keyword Expr) → List Mark
  | [] => []
  | ⟨n, value⟩ :: ks =>
      Mark.require (n != some debugName) ++ value.marks .value ++ keywordMarks ks

def entryMarks : List (Entry Expr) → List Mark
  | [] => []
  | ⟨key, value⟩ :: es => optionMarks key ++ value.marks .value ++ entryMarks es

def pieceMarks : List (Piece Expr) → List Mark
  | [] => []
  | .text _ :: ps | .brokenText _ :: ps => pieceMarks ps
  | .field value _ none :: ps => value.marks .value ++ pieceMarks ps
  | .field value _ (some format) :: ps =>
      value.marks .value ++ pieceMarks format ++ pieceMarks ps

/-- The marks of each clause of a comprehension, in parts. -/
def clauseMarks : List (Clause Expr) → List (List Mark × List Mark × List Mark)
  | [] => []
  | ⟨target, source, conditions, isAsync⟩ :: clauses =>
      ((if isAsync then [.asyncClause] else []) ++ target.marks .iteration, source.marks .value,
        itemMarks .value conditions) :: clauseMarks clauses

def defaultMarks : List (Param Expr) → List Mark
  | [] => []
  | ⟨_, _, default⟩ :: ps => optionMarks default ++ defaultMarks ps

end

/-- The default values of parameters, which belong to the scope around a function. -/
def paramDefaults (ps : Params Expr) : List Mark :=
  defaultMarks ps.positionalOnly ++ defaultMarks ps.ordinary ++ defaultMarks ps.keywordOnly

/-- The parameters themselves. -/
def paramNames (ps : Params Expr) : List Mark :=
  (ps.positionalOnly ++ ps.ordinary ++ ps.keywordOnly ++ ps.rest.toList ++ ps.keywords.toList).map
    fun p => .param p.name

/-- The marks of an expression whose value is taken. -/
abbrev valueMarks (e : Expr) : List Mark := e.marks .value

/-- The types of parameters; the one with a star may have a star itself. -/
def hintMarks (ps : Params Expr) : List Mark :=
  let plain (p : Param Expr) : List Mark := match p.hint with
    | some e => e.valueMarks
    | none => []
  let starred (p : Param Expr) : List Mark := match p.hint with
    | some (.starred e) => e.valueMarks
    | some e => e.valueMarks
    | none => []
  (ps.positionalOnly ++ ps.ordinary).flatMap plain ++ ps.rest.toList.flatMap starred ++
    ps.keywordOnly.flatMap plain ++ ps.keywords.toList.flatMap plain

end Expr

/-! ### Patterns -/

namespace Pattern

/-- Joins the names that two patterns bind; none may be bound by both. -/
def joinNames (xs ys : List String) : Option (List String) :=
  if xs.any ys.contains then none else some (xs ++ ys)

mutual

/-- The names a pattern binds, each once. Alternatives bind the same names. -/
def names? : Pattern → Option (List String)
  | .value _ | .singleton _ => some []
  | .sequence ps => allNames ps
  | .mapping entries others => do joinNames (← entryNames entries) others.toList
  | .instanceOf _ positional fields => do joinNames (← allNames positional) (← fieldNames fields)
  | .rest n => some n.toList
  | .capture none n => some n.toList
  | .capture (some p) n => do joinNames (← p.names?) n.toList
  | .alternatives ps => alternativeNames ps

def allNames : List Pattern → Option (List String)
  | [] => some []
  | p :: ps => do joinNames (← p.names?) (← allNames ps)

def entryNames : List (Expr × Pattern) → Option (List String)
  | [] => some []
  | (_, p) :: entries => do joinNames (← p.names?) (← entryNames entries)

def fieldNames : List (String × Pattern) → Option (List String)
  | [] => some []
  | (_, p) :: fields => do joinNames (← p.names?) (← fieldNames fields)

def alternativeNames : List Pattern → Option (List String)
  | [] => some []
  | [p] => p.names?
  | p :: ps => do
      let xs ← p.names?
      let ys ← alternativeNames ps
      if xs.all ys.contains && ys.all xs.contains then some xs else none

end

mutual

/-- Whether the pattern leaves something for what comes after it: a pattern that matches anything
may stand only where `last` holds. -/
def leavesRest (last : Bool) : Pattern → Bool
  | .capture none _ => last
  | .capture (some p) _ => p.leavesRest last
  | .alternatives ps => allLeaveRest last ps
  | _ => true

def allLeaveRest (last : Bool) : List Pattern → Bool
  | [] => true
  | [p] => p.leavesRest last
  | p :: ps => p.leavesRest false && allLeaveRest last ps

end

/-- The value of a key that is compared with other keys. -/
def keyOf : Expr → Option (Bool × Literal)
  | .constant (.bool b) => some (false, .int b.toNat)
  | .constant (.text s _) => some (false, .text s false)
  | .constant (.brokenText t _) => some (false, .brokenText t false)
  | .constant v => some (false, v)
  | .unary .minus (.constant v) => some (true, v)
  | _ => none

/-- Whether an expression may be matched with: a literal or a dotted name. -/
def isMatchable : Expr → Bool
  | .formatted _ => false
  | _ => true

mutual

/-- The marks of a pattern without the names it binds. -/
def marks : Pattern → List Mark
  | .value e => Mark.require (isMatchable e) ++ e.valueMarks
  | .singleton _ => []
  | .sequence ps =>
      Mark.require ((ps.filter fun | .rest _ => true | _ => false).length ≤ 1) ++ partMarks ps
  | .mapping entries _ =>
      Mark.require (allDistinct (entries.filterMap (keyOf ·.1))) ++ entryMarks entries
  | .instanceOf type positional fields =>
      Mark.require (allDistinct (fields.map Prod.fst) &&
        ! (fields.map Prod.fst).contains debugName) ++ type.valueMarks ++ partMarks positional ++
        fieldMarks fields
  | .rest _ => []
  | .capture none _ => []
  | .capture (some p) _ => p.marks
  | .alternatives ps => partMarks ps

/-- Parts may match anything, alternatives only last; alternatives among parts are checked there. -/
def partMarks : List Pattern → List Mark
  | [] => []
  | p :: ps => p.marks ++ Mark.require (p.leavesRest true) ++ partMarks ps

def entryMarks : List (Expr × Pattern) → List Mark
  | [] => []
  | (key, p) :: entries =>
      Mark.require (isMatchable key) ++ key.valueMarks ++ p.marks ++ Mark.require (p.leavesRest true) ++
        entryMarks entries

def fieldMarks : List (String × Pattern) → List Mark
  | [] => []
  | (_, p) :: fields => p.marks ++ Mark.require (p.leavesRest true) ++ fieldMarks fields

end

/-- The marks of the pattern of a case. -/
def caseMarks (last : Bool) (p : Pattern) : List Mark :=
  p.marks ++ Mark.require (p.leavesRest last) ++ (match p.names? with
    | some ns => ns.map .bind
    | none => [.faulty])

end Pattern

/-! ### Statements -/

namespace Stmt

/-- The features a program can ask for at its beginning. -/
def futureFeatures : List String :=
  ["nested_scopes", "generators", "division", "absolute_import", "with_statement",
    "print_function", "unicode_literals", "barry_as_FLUFL", "generator_stop", "annotations"]

/-- The module that features are asked for with. -/
def futureModule : String := "__future__"

/-- The name that an import of a module binds: the first component, or the given one. -/
def boundName (i : Imported) : String :=
  i.localName.getD (String.ofList (i.name.toList.takeWhile (· != '.')))

/-- The mark of one name taken from a module. -/
def importedMark (i : Imported) : Mark :=
  if i.name = "*" then .importAll else .take (i.localName.getD i.name)

mutual

def marks : Stmt → List Mark
  | .expression e => e.valueMarks
  | .assign targets value => targets.flatMap (Expr.marks .target) ++ value.valueMarks
  | .augment (.member value _) _ e => value.valueMarks ++ e.valueMarks
  | .augment target _ e => target.marks .target ++ e.valueMarks
  | .declare (.name n) type value isPlain =>
      (if isPlain then [.hinted n] else
        Mark.require (n != debugName) ++ if value.isSome then [.bind n] else []) ++
        [.hint true type.valueMarks] ++ Expr.optionMarks value
  | .declare target type value _ =>
      target.marks .target ++ [.hint true type.valueMarks] ++ Expr.optionMarks value
  | .returnValue value => Expr.optionMarks value ++ [.returns value.isSome]
  | .delete targets => targets.flatMap (Expr.marks .deletion)
  | .raise error cause => Expr.optionMarks error ++ Expr.optionMarks cause
  | .assert test message => test.valueMarks ++ Expr.optionMarks message
  | .pass => []
  | .breakLoop => [.breaks]
  | .continueLoop => [.continues]
  | .global names => names.map .declareGlobal
  | .nonlocal names => names.map .declareNonlocal
  | .importModules modules => modules.map fun i => .take (boundName i)
  | .importFrom module names _ =>
      Mark.require (module != some futureModule) ++ names.map importedMark
  | .ifThen test body orelse => test.valueMarks ++ allMarks body ++ allMarks orelse
  | .whileLoop test body orelse => .loop (test.valueMarks ++ allMarks body) :: allMarks orelse
  | .forLoop isAsync target source body orelse =>
      (if isAsync then [.asyncBlock] else []) ++ target.marks .target ++ source.valueMarks ++
        [.loop (allMarks body)] ++ allMarks orelse
  | .withBlock isAsync resources body =>
      (if isAsync then [.asyncBlock] else []) ++
        resources.flatMap (fun r => r.source.valueMarks ++ (match r.target with
          | some t => t.marks .target
          | none => [])) ++
        [.nested (allMarks body)]
  | .tryBlock isGroup body handlers orelse cleanup =>
      Mark.require (catchAllLast (handlers.map (·.1.isNone))) ++
        [.nested (allMarks body ++ allMarks orelse ++ handlerMarks isGroup handlers)] ++
        allMarks cleanup
  | .matchBlock subject cases => subject.valueMarks ++ caseMarks cases
  | .functionDef isAsync decorators n params returns body =>
      .bind n :: (Expr.paramDefaults params ++
        [.hint false (Expr.hintMarks params ++ Expr.optionMarks returns)] ++
        decorators.flatMap Expr.valueMarks ++
        [.scope (.function isAsync) (Expr.paramNames params ++ allMarks body)])
  | .classDef decorators n bases keywords body =>
      .bind n :: (Expr.itemMarks .value bases ++ Expr.keywordMarks keywords ++
        Mark.require (allDistinct (keywords.filterMap (·.name))) ++
        decorators.flatMap Expr.valueMarks ++ [.scope .classBody (allMarks body)])

def allMarks : List Stmt → List Mark
  | [] => []
  | s :: ss => s.marks ++ allMarks ss

def handlerMarks (isGroup : Bool) :
    List (Option Expr × Option String × List Stmt) → List Mark
  | [] => []
  | (type, n, body) :: handlers =>
      let inner := n.toList.map Mark.bind ++ allMarks body
      Expr.optionMarks type ++ (if isGroup then [.groupHandler inner] else [.nested inner]) ++
        handlerMarks isGroup handlers

def caseMarks : List (Pattern × Option Expr × List Stmt) → List Mark
  | [] => []
  | (p, guard, body) :: cases =>
      p.caseMarks (guard.isSome || cases.isEmpty) ++ Expr.optionMarks guard ++ allMarks body ++
        caseMarks cases

/-- A handler that catches everything comes last. -/
def catchAllLast : List Bool → Bool
  | [] => true
  | [_] => true
  | b :: bs => ! b && catchAllLast bs

end

end Stmt

end TypedClients.Code
