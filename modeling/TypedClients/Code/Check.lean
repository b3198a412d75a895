import TypedClients.Code.Mark
import TypedClients.Code.Stmt.Read

/-!
# Checking programs

A source text is a program when it follows the grammar, when control leaves blocks and functions
only where it may (`allPlaced`), and when every scope uses its names consistently (`namesAgree`).
-/
namespace TypedClients.Code

/-! ### Where control and waiting may stand -/

/-- How `break` and `continue` find a loop. -/
inductive LoopExit where
  | none
  | loop
  /-- A handler of a group of errors stands between. -/
  | blocked
  deriving DecidableEq, Repr, Inhabited

/-- The place of a mark. -/
structure Place where
  scope : ScopeKind := .module
  exit : LoopExit := .none
  /-- Inside a handler of a group of errors. -/
  inGroup : Bool := false
  /-- The function around yields values. -/
  yieldsValues : Bool := false
  /-- Types are not evaluated. -/
  typesDeferred : Bool := false
  /-- Blocks around, within the scope. -/
  depth : Nat := 0

/-- The deepest nesting of blocks in one scope. -/
def maxBlocks : Nat := 20

/-- Whether the scope runs like a function. -/
def ScopeKind.isFunction : ScopeKind → Bool
  | .function _ | .lambda | .comprehension _ => true
  | _ => false

mutual

/-- Whether marks of a scope yield values. -/
def Mark.isYield : Mark → Bool
  | .yields _ => true
  | .loop ms | .nested ms | .groupHandler ms | .source ms | .hint _ ms => anyYield ms
  | _ => false

def anyYield : List Mark → Bool
  | [] => false
  | m :: ms => m.isYield || anyYield ms

end

mutual

/-- Whether a mark makes the comprehension that holds it wait. -/
def Mark.makesAsync : Mark → Bool
  | .awaits | .asyncClause => true
  | .source ms => anyAsync ms
  | .scope (.comprehension false) ms => anyAsync ms
  | _ => false

def anyAsync : List Mark → Bool
  | [] => false
  | m :: ms => m.makesAsync || anyAsync ms

end

mutual

/-- A type that is not evaluated neither yields nor waits nor gives a name a value. -/
def Mark.isDeferrable : Mark → Bool
  | .yields _ | .awaits | .givenName _ => false
  | .source ms => allDeferrable ms
  | _ => true

def allDeferrable : List Mark → Bool
  | [] => true
  | m :: ms => m.isDeferrable && allDeferrable ms

end

mutual

/-- Whether a mark may stand at a place. -/
def Mark.isPlaced (p : Place) : Mark → Bool
  | .use _ | .declareGlobal _ | .declareNonlocal _ | .importAll | .asyncClause => true
  | .bind n | .param n | .take n | .hinted n | .givenName n | .iteration n => n != debugName
  | .yields delegates => p.scope.isFunction && ! (delegates && p.scope == .function true)
  | .awaits => (p.scope matches .function true | .comprehension _)
  | .asyncBlock => p.scope == .function true
  | .returns hasValue =>
      (p.scope matches .function _) && ! p.inGroup &&
        ! (hasValue && p.scope == .function true && p.yieldsValues)
  | .breaks | .continues => p.exit == .loop
  | .faulty => false
  | .loop ms => p.depth < maxBlocks && allPlaced { p with exit := .loop, depth := p.depth + 1 } ms
  | .nested ms => p.depth < maxBlocks && allPlaced { p with depth := p.depth + 1 } ms
  | .groupHandler ms =>
      p.depth < maxBlocks && allPlaced
        { p with exit := .blocked, inGroup := true, depth := p.depth + 1 } ms
  | .source ms => allPlaced p ms
  | .hint ofVariable ms =>
      if p.typesDeferred then allDeferrable ms
      else (ofVariable && p.scope.isFunction) || allPlaced p ms
  | .scope kind ms =>
      (match kind with
        | .comprehension false =>
            ! anyAsync ms || (p.scope matches .function true | .comprehension _)
        | _ => true) &&
      allPlaced
        { scope := kind, yieldsValues := anyYield ms, typesDeferred := p.typesDeferred } ms

def allPlaced (p : Place) : List Mark → Bool
  | [] => true
  | m :: ms => m.isPlaced p && allPlaced p ms

end

/-! ### How scopes use names -/

/-- How a scope uses a name. -/
structure Usage where
  isParam : Bool := false
  isLocal : Bool := false
  isUsed : Bool := false
  isHinted : Bool := false
  isTaken : Bool := false
  isGlobal : Bool := false
  isNonlocal : Bool := false
  /-- It runs over the source of a comprehension. -/
  isIteration : Bool := false
  deriving DecidableEq, Repr, Inhabited

/-- The names of a scope and the scopes inside it. -/
inductive ScopeTree where
  | node (kind : ScopeKind) (names : List (String × Usage)) (children : List ScopeTree)
  deriving Inhabited

/-- A scope that is being examined. -/
structure OpenScope where
  kind : ScopeKind
  names : List (String × Usage) := []
  children : List ScopeTree := []
  /-- Inside the source of a clause. -/
  inSource : Bool := false
  deriving Inhabited

namespace OpenScope

def usage (s : OpenScope) (n : String) : Usage := (s.names.lookup n).getD {}

/-- Changes the usage of a name; a name not yet known is added. -/
def note (s : OpenScope) (n : String) (f : Usage → Usage) : OpenScope :=
  { s with names := go s.names }
where
  go : List (String × Usage) → List (String × Usage)
    | [] => [(n, f {})]
    | (m, u) :: rest => if m = n then (m, f u) :: rest else (m, u) :: go rest

def close (s : OpenScope) : ScopeTree := .node s.kind s.names s.children

end OpenScope

/-- The scopes that are open, innermost first. -/
abbrev ScopeStack := List OpenScope

/-- Changes the innermost scope. -/
def onTop (f : OpenScope → Option OpenScope) : ScopeStack → Option ScopeStack
  | [] => none
  | s :: rest => (f s).map (· :: rest)

/-- Finds the scope that a value given inside comprehensions belongs to, and notes the name there.
No comprehension on the way may run over the name, and the scope is not a class body. The result
tells whether the name is global there. -/
def noteOutside (n : String) : ScopeStack → Option (Bool × ScopeStack)
  | [] => none
  | s :: rest =>
      match s.kind with
      | .comprehension _ =>
          if (s.usage n).isIteration then none
          else (noteOutside n rest).map fun (g, rest) => (g, s :: rest)
      | .function _ | .lambda =>
          some ((s.usage n).isGlobal, s.note n ({ · with isLocal := true }) :: rest)
      | .module => some (true, s.note n ({ · with isGlobal := true }) :: rest)
      | .classBody => none

/-- Whether a name is used in a way that comes too early for a declaration of its scope. -/
def Usage.isSettled (u : Usage) : Bool := u.isParam || u.isLocal || u.isUsed || u.isHinted

mutual

/-- Notes a mark in the scopes that are open, or finds a conflict. -/
def Mark.examine (stack : ScopeStack) : Mark → Option ScopeStack
  | .use n => onTop (fun s => some (s.note n ({ · with isUsed := true }))) stack
  | .bind n => onTop (fun s => some (s.note n ({ · with isLocal := true }))) stack
  | .take n => onTop (fun s => some (s.note n ({ · with isTaken := true }))) stack
  | .param n => onTop (fun s =>
      if (s.usage n).isParam then none else some (s.note n ({ · with isParam := true }))) stack
  | .hinted n => onTop (fun s =>
      let u := s.usage n
      if (u.isGlobal || u.isNonlocal) && s.kind != .module then none
      else some (s.note n ({ · with isLocal := true, isHinted := true }))) stack
  | .declareGlobal n => onTop (fun s =>
      if (s.usage n).isSettled then none
      else some (s.note n ({ · with isGlobal := true }))) stack
  | .declareNonlocal n => onTop (fun s =>
      if (s.usage n).isSettled || s.kind == .module then none
      else some (s.note n ({ · with isNonlocal := true }))) stack
  | .importAll => onTop (fun s => if s.kind == .module then some s else none) stack
  | .iteration n => onTop (fun s =>
      let u := s.usage n
      if u.isGlobal || u.isNonlocal then none
      else some (s.note n ({ · with isLocal := true, isIteration := true }))) stack
  | .givenName n =>
      match stack with
      | [] => none
      | s :: rest =>
          if s.inSource then none
          else match s.kind with
            | .comprehension _ => do
                let (isGlobal, stack) ← noteOutside n (s :: rest)
                onTop (fun s => some (s.note n fun u =>
                  if isGlobal then { u with isGlobal := true }
                  else { u with isNonlocal := true })) stack
            | _ => some stack
  | .yields _ => onTop (fun s => if s.kind matches .comprehension _ then none else some s) stack
  | .loop ms | .nested ms | .groupHandler ms | .hint _ ms => examineAll stack ms
  | .source ms =>
      match stack with
      | [] => none
      | s :: rest => do
          let stack ← examineAll ({ s with inSource := true } :: rest) ms
          onTop (fun t => some { t with inSource := s.inSource }) stack
  | .scope kind ms => do
      match ← examineAll ({ kind := kind } :: stack) ms with
      | inner :: rest => onTop (fun s => some { s with children := s.children ++ [inner.close] }) rest
      | [] => none
  | .awaits | .asyncClause | .asyncBlock | .returns _ | .breaks | .continues | .faulty => some stack

def examineAll (stack : ScopeStack) : List Mark → Option ScopeStack
  | [] => some stack
  | m :: ms => do examineAll (← m.examine stack) ms

end

/-- The name of the class being defined, which methods may rebind. -/
def classCellName : String := "__class__"

/-- The names that the scopes inside a scope may rebind. -/
def visibleInside (kind : ScopeKind) (names : List (String × Usage)) (bound : List String) :
    List String :=
  let globals := (names.filter (·.2.isGlobal)).map Prod.fst
  let bound := bound.filter (! globals.contains ·)
  match kind with
  | .classBody => classCellName :: bound
  | .module => bound
  | _ =>
      let own := names.filter fun (_, u) =>
        (u.isParam || u.isLocal || u.isTaken) && ! u.isGlobal && ! u.isNonlocal
      own.map Prod.fst ++ bound

mutual

/-- Whether every name that a scope takes from around it is bound in a function there, and none is
global besides. -/
def ScopeTree.isConsistent (bound : List String) : ScopeTree → Bool
  | .node kind names children =>
      names.all (fun (n, u) => ! u.isNonlocal || (! u.isGlobal && bound.contains n)) &&
        allConsistent (visibleInside kind names bound) children

def allConsistent (bound : List String) : List ScopeTree → Bool
  | [] => true
  | t :: ts => t.isConsistent bound && allConsistent bound ts

end

/-- Whether the marks of a program use all names consistently. -/
def namesAgree (ms : List Mark) : Bool :=
  match examineAll [{ kind := .module }] ms with
  | some [s] => s.close.isConsistent []
  | _ => false

/-! ### Programs -/

/-- The features a program asks for, and the rest of it. They come first, after a leading text. -/
def splitFeatures : List Stmt → List String × List Stmt
  | .importFrom (some m) names level :: ss =>
      if m = Stmt.futureModule then
        let (features, rest) := splitFeatures ss
        (names.map (·.name) ++ features, rest)
      else ([], .importFrom (some m) names level :: ss)
  | ss => ([], ss)

/-- The names bound by asking for features, which are bound like any import. -/
def featureMarks : List Stmt → List Mark
  | .importFrom (some m) names _ :: ss =>
      if m = Stmt.futureModule then names.map Stmt.importedMark ++ featureMarks ss else []
  | _ => []

/-- Whether statements form a valid program. -/
def isProgram (ss : List Stmt) : Bool :=
  let body := if (docstring? ss).isSome then ss.drop 1 else ss
  let (features, rest) := splitFeatures body
  let marks := featureMarks body ++ Stmt.allMarks rest
  features.all Stmt.futureFeatures.contains &&
    allPlaced { typesDeferred := features.contains "annotations" } marks && namesAgree marks

/-- Reads a source text as a program, and refuses one that is not valid. -/
def compile (source : String) : Except ReadError (List Stmt) := do
  let ss ← readStatements source
  if isProgram ss then return ss else throw .malformed

end TypedClients.Code
