import TypedClients.Code.Token
import TypedClients.Failure
import TypedClients.Text.Identifier
import TypedClients.Text.Normal

/-!
# Parameter names

Any text can be asked to name a parameter. `parameterName` makes a name of ASCII letters, digits and
underscores from it: a reserved word gets an underscore at its end, accents are removed, runs of
blanks and hyphens become one underscore, and everything else is dropped.
-/
namespace TypedClients

open TypedClients.Text

/-- A reserved word with an underscore at its end; any other text as it is. -/
def unreserved (name : String) : String :=
  if name ∈ Code.reservedWords then name ++ "_" else name

/-- A character that separates the words of a name. -/
def separatesWords (c : Char) : Bool := isBlank c || c == '-'

/-- One underscore for each run of separators. `inRun` tells that a separator came right before. -/
def joinWords (inRun : Bool) : List Char → List Char
  | [] => []
  | c :: cs =>
      if separatesWords c then
        if inRun then joinWords true cs else '_' :: joinWords true cs
      else c :: joinWords false cs

/-- An underscore in front of a leading digit. -/
def guardDigit : List Char → List Char
  | [] => []
  | c :: cs => if isDigit c then '_' :: c :: cs else c :: cs

/-- The parameter name for a text. There is none for the empty text. -/
def parameterName (text : String) : Except Failure String :=
  if text = "" then .error (.fault .emptyName)
  else
    let plain := removeAccents (unreserved text).toList
    .ok (String.ofList (guardDigit ((joinWords false plain).filter isPlainNameChar)))

end TypedClients
