import TypedClients.Text.Blank
import TypedClients.Text.Identifier

/-!
# The parts of a path

A path is written with slashes between its parts. A part is literal text or a parameter, which is
marked by a colon; `PathPart.ofText` tells them apart.
-/
namespace TypedClients

open TypedClients.Text

/-- What a part of a path reads as. -/
inductive PathPart where
  | literal (text : String)
  | parameter (name ending : String)
  deriving DecidableEq, Repr, Inhabited

namespace PathPart

/-- The text after the closing parenthesis of a constraint at the front. -/
def afterConstraint? : List Char → Option (List Char)
  | '(' :: cs => if cs.contains ')' then some ((cs.dropWhile (· != ')')).drop 1) else none
  | _ => none

/-- The ending of a parameter: it lies on one line, and a line end after it is dropped. -/
def ending? (cs : List Char) : Option (List Char) :=
  let line := if cs.getLast? = some '\n' then cs.dropLast else cs
  if line.contains '\n' then none else some line

/-- A part is a parameter if it starts with a colon and a letter or an underscore. Its name is the
longest one there; a constraint in parentheses right after it is left out. -/
def ofText (cs : List Char) : PathPart :=
  let whole : PathPart := .literal (String.ofList cs)
  match cs with
  | ':' :: c :: rest =>
      if isPlainNameStart c then
        let name := c :: rest.takeWhile isPlainNameChar
        let after := rest.dropWhile isPlainNameChar
        match ((afterConstraint? after).bind ending?) <|> ending? after with
        | some ending => .parameter (String.ofList name) (String.ofList ending)
        | none => whole
      else whole
  | _ => whole

end PathPart

/-- The parts of a path between its slashes. -/
def pathParts (path : String) : List PathPart := (splitOn '/' path.toList).map PathPart.ofText

end TypedClients
