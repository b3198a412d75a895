import TypedClients.Code.Expr.Print
import TypedClients.Code.Stmt

/-!
# Printing statements

`renderStatements` writes statements one to a line, blocks indented by four blanks, and a blank line
before every class and function that does not come first. A leading text of a module, class or
function is written in triple quotes over as many lines as it has.
-/
namespace TypedClients.Code

open TypedClients.Text

namespace Pattern

mutual

/-- Writes a pattern for a place of the given strength. -/
def renderAt (s : Strength) : Pattern → String
  | value e => e.render
  | singleton v => v.render
  | sequence ps => "[" ++ ", ".intercalate (renderAll .test ps) ++ "]"
  | mapping entries others =>
      let others := match others with
        | some n => ["**" ++ n]
        | none => []
      "\x7b" ++ ", ".intercalate (renderEntries entries ++ others) ++ "\x7d"
  | instanceOf type positional fields =>
      type.renderAt false .atom ++ "(" ++
        ", ".intercalate (renderAll .test positional ++ renderFields fields) ++ ")"
  | rest n => "*" ++ n.getD "_"
  | capture none n => n.getD "_"
  | capture (some _) none => "_"
  | capture (some p) (some n) =>
      parensIf (Strength.test < s) (renderAt .bitOr p ++ " as " ++ n)
  | alternatives ps =>
      parensIf (Strength.bitOr < s) (" | ".intercalate (renderAll Strength.bitOr.next ps))

def renderAll (s : Strength) : List Pattern → List String
  | [] => []
  | p :: ps => renderAt s p :: renderAll s ps

def renderEntries : List (Expr × Pattern) → List String
  | [] => []
  | (key, p) :: entries => (key.render ++ ": " ++ renderAt .test p) :: renderEntries entries

def renderFields : List (String × Pattern) → List String
  | [] => []
  | (n, p) :: fields => (n ++ "=" ++ renderAt .test p) :: renderFields fields

end

def render (p : Pattern) : String := renderAt .test p

end Pattern

def Imported.render : Imported → String
  | ⟨n, none⟩ => n
  | ⟨n, some l⟩ => n ++ " as " ++ l

def Resource.render : Resource → String
  | ⟨source, none⟩ => source.render
  | ⟨source, some target⟩ => source.render ++ " as " ++ target.render

namespace Stmt

/-- A line indented to a depth. -/
def line (depth : Nat) (s : String) : String := String.join (List.replicate depth "    ") ++ s

/-- An expression after a blank, or nothing. -/
def renderAfter (before : String) : Option Expr → String
  | none => ""
  | some e => before ++ e.render

/-- A text that documents what it stands in. -/
def renderDocstring (points : List CodePoint) (marked : Bool) : String :=
  (if marked then "u" else "") ++ quotedWith tripleQuotes points

mutual

/-- The lines of a statement at a depth. -/
def lines (depth : Nat) : Stmt → List String
  | expression e => [line depth (e.renderAt false .yield)]
  | assign targets value =>
      [line depth (String.join (targets.map fun t => t.renderAt false .tuple ++ " = ") ++
        value.render)]
  | augment target op value =>
      [line depth (target.render ++ " " ++ op.symbol ++ "= " ++ value.render)]
  | declare target hint value isPlain =>
      [line depth (parensIf (! isPlain && target matches .name _) target.render ++ ": " ++
        hint.render ++ renderAfter " = " value)]
  | returnValue value => [line depth ("return" ++ renderAfter " " value)]
  | delete targets => [line depth ("del " ++ ", ".intercalate (targets.map Expr.render))]
  | raise error cause =>
      [line depth ("raise" ++ renderAfter " " error ++ renderAfter " from " cause)]
  | assert test message => [line depth ("assert " ++ test.render ++ renderAfter ", " message)]
  | pass => [line depth "pass"]
  | breakLoop => [line depth "break"]
  | continueLoop => [line depth "continue"]
  | global names => [line depth ("global " ++ ", ".intercalate names)]
  | nonlocal names => [line depth ("nonlocal " ++ ", ".intercalate names)]
  | importModules modules =>
      [line depth ("import " ++ ", ".intercalate (modules.map Imported.render))]
  | importFrom module names level =>
      [line depth ("from " ++ String.join (List.replicate level ".") ++ module.getD "" ++
        " import " ++ ", ".intercalate (names.map Imported.render))]
  | ifThen test body orelse =>
      line depth ("if " ++ test.render ++ ":") :: (blockLines (depth + 1) body ++
        elseLines depth orelse)
  | whileLoop test body orelse =>
      line depth ("while " ++ test.render ++ ":") :: (blockLines (depth + 1) body ++
        optionalBlock depth "else:" orelse)
  | forLoop isAsync target source body orelse =>
      line depth ((if isAsync then "async for " else "for ") ++ target.renderAt false .tuple ++
        " in " ++ source.render ++ ":") :: (blockLines (depth + 1) body ++
          optionalBlock depth "else:" orelse)
  | withBlock isAsync resources body =>
      line depth ((if isAsync then "async with " else "with ") ++
        ", ".intercalate (resources.map Resource.render) ++ ":") :: blockLines (depth + 1) body
  | tryBlock isGroup body handlers orelse cleanup =>
      line depth "try:" :: (blockLines (depth + 1) body ++
        handlerLines depth (if isGroup then "except*" else "except") handlers ++
        optionalBlock depth "else:" orelse ++ optionalBlock depth "finally:" cleanup)
  | matchBlock subject cases =>
      line depth ("match " ++ subject.render ++ ":") :: caseLines (depth + 1) cases
  | functionDef isAsync decorators n params returns body =>
      "" :: (decorators.map (fun d => line depth ("@" ++ d.render)) ++
        line depth ((if isAsync then "async def " else "def ") ++ n ++ "(" ++
          ", ".intercalate (Expr.renderParams false params) ++ ")" ++
          renderAfter " -> " returns ++ ":") :: bodyLines (depth + 1) body)
  | classDef decorators n bases keywords body =>
      let heads := bases.map Expr.render ++ Expr.renderKeywords false keywords
      "" :: (decorators.map (fun d => line depth ("@" ++ d.render)) ++
        line depth ("class " ++ n ++ parensIf (! heads.isEmpty) (", ".intercalate heads) ++
          ":") :: bodyLines (depth + 1) body)

/-- The lines of statements. -/
def blockLines (depth : Nat) : List Stmt → List String
  | [] => []
  | s :: ss => lines depth s ++ blockLines depth ss

/-- The lines of statements of which the first may document what they stand in. -/
def bodyLines (depth : Nat) : List Stmt → List String
  | expression (.constant (.text s marked)) :: ss =>
      line depth (renderDocstring (CodePoint.ofString s) marked) :: blockLines depth ss
  | expression (.constant (.brokenText t marked)) :: ss =>
      line depth (renderDocstring t.points marked) :: blockLines depth ss
  | [] => []
  | s :: ss => lines depth s ++ blockLines depth ss

/-- The lines of statements after a heading, unless there are none. -/
def optionalBlock (depth : Nat) (heading : String) : List Stmt → List String
  | [] => []
  | s :: ss => line depth heading :: (lines (depth + 1) s ++ blockLines (depth + 1) ss)

/-- The lines of what happens otherwise; a single condition is joined to the word before it. -/
def elseLines (depth : Nat) : List Stmt → List String
  | [] => []
  | [ifThen test body orelse] =>
      line depth ("elif " ++ test.render ++ ":") :: (blockLines (depth + 1) body ++
        elseLines depth orelse)
  | s :: ss => line depth "else:" :: (lines (depth + 1) s ++ blockLines (depth + 1) ss)

def handlerLines (depth : Nat) (word : String) :
    List (Option Expr × Option String × List Stmt) → List String
  | [] => []
  | (type, n, body) :: handlers =>
      let bound := match n with
        | some n => " as " ++ n
        | none => ""
      line depth (word ++ renderAfter " " type ++ bound ++ ":") ::
        (blockLines (depth + 1) body ++ handlerLines depth word handlers)

def caseLines (depth : Nat) : List (Pattern × Option Expr × List Stmt) → List String
  | [] => []
  | (p, guard, body) :: cases =>
      line depth ("case " ++ p.render ++ renderAfter " if " guard ++ ":") ::
        (blockLines (depth + 1) body ++ caseLines depth cases)

end

end Stmt

/-- The text of lines of which the first one is not blank. -/
def textOfLines : List String → String
  | "" :: rest => "\n".intercalate rest
  | all => "\n".intercalate all

/-- The source text of statements, the first of which may document the module. -/
def renderStatements (ss : List Stmt) : String := textOfLines (Stmt.bodyLines 0 ss)

/-- The source text of one statement. -/
def Stmt.render (s : Stmt) : String := textOfLines (Stmt.lines 0 s)

end TypedClients.Code
