import TypedClients.Text.Blank

/-!
# Marked-up text

Texts for the screen may hold tags in square brackets that set the style of what follows. A tag
starts with a small letter, `#`, `/` or `@`; other brackets are text, and so is a tag after a
backslash. A closing tag needs an open one. Without colours, all that a tag does is disappear.
-/
namespace TypedClients.Console

open TypedClients.Text

/-- A part of a marked-up text. -/
inductive Piece where
  | text (cs : List Char)
  | tag (cs : List Char)
  deriving DecidableEq, Repr

/-- Whether a tag may start with a character. -/
def startsTag (c : Char) : Bool := c.isLower || c == '#' || c == '/' || c == '@'

/-- The inside of a tag, and what follows its closing bracket. -/
def tagBody : List Char → Option (List Char × List Char)
  | [] => none
  | c :: cs =>
      if c = ']' then some ([], cs)
      else if c = '[' then none
      else (tagBody cs).map fun (body, rest) => (c :: body, rest)

/-- The tag after an opening bracket, if there is one. -/
def tagAt : List Char → Option (List Char × List Char)
  | [] => none
  | c :: cs =>
      if startsTag c then (tagBody cs).map fun (body, rest) => (c :: body, rest) else none

/-- Cuts a text into pieces; the first argument bounds their number. Half of the backslashes before a
tag stand, and an odd one makes it text. One that stands before any other bracket disappears. -/
def pieces : Nat → List Char → List Piece
  | 0, _ => []
  | _, [] => []
  | n + 1, c :: cs =>
      let slashes := (c :: cs).takeWhile (· == '\\')
      match (c :: cs).drop slashes.length with
      | '[' :: rest => match tagAt rest with
          | some (body, rest) =>
              .text (slashes.take (slashes.length / 2)) ::
                (if slashes.length % 2 = 1 then .text ('[' :: body ++ [']']) else .tag body) ::
                pieces n rest
          | none => .text (slashes.drop 1 ++ ['[']) :: pieces n rest
      | rest =>
          if slashes.isEmpty then .text [c] :: pieces n cs else .text slashes :: pieces n rest

/-- The name of a style or of a closing tag, without its parameters. -/
def tagName (cs : List Char) : List Char := cs.takeWhile (· != '=')

/-- Names of styles are compared without blanks around them and in small letters. -/
def normalName (cs : List Char) : List Char := (trim cs).map Char.toLower

/-- Takes the innermost of some open styles that has a name. -/
def close (name : List Char) : List (List Char) → Option (List (List Char))
  | [] => none
  | style :: styles => if style = name then some styles else (close name styles).map (style :: ·)

/-- The text that is shown; `styles` are the open ones, the innermost first. -/
def shown (styles : List (List Char)) : List Piece → Option (List Char)
  | [] => some []
  | .text cs :: ps => (shown styles ps).map (cs ++ ·)
  | .tag cs :: ps =>
      match tagName cs with
      | '/' :: name =>
          match trim name, styles with
          | [], [] => none
          | [], _ :: styles => shown styles ps
          | name, styles => (close (normalName name) styles).bind fun styles => shown styles ps
      | name => shown (normalName name :: styles) ps

/-- Whether a character moves the cursor in a way that no text should. -/
def isScreenControl (c : Char) : Bool := c.toNat ∈ [7, 8, 11, 12, 13]

/-- A text as it is shown. -/
def plain (cs : List Char) : List Char := cs.filter (! isScreenControl ·)

/-- What is shown of a marked-up text; nothing if a tag closes what is not open. -/
def render (s : String) : Option (List Char) :=
  let cs := s.toList
  (shown [] (pieces (cs.length + 1) cs)).map plain

example : render "[red]a[/red] list[User] list[str]" = some "a list[User] list".toList := by
  decide +kernel

example : render "\\[b] \\\\[b]x [/]" = some "[b] \\x ".toList := by decide +kernel

example : render "a[/b]" = none := by decide +kernel

end TypedClients.Console
