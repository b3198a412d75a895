import TypedClients.Text.Blank
import TypedClients.Text.Width

/-!
# Lines on a screen

A text is shown on lines of a given width. A line breaks between words; a word that is longer than
a line is cut.
-/
namespace TypedClients.Console

open TypedClients.Text

/-- The distance of tabulator stops. -/
def tabDistance : Nat := 8

/-- Blanks in the place of tabs, on a line of which so many columns are filled. -/
def expandTabs (filled : Nat) : List Char → List Char
  | [] => []
  | c :: cs =>
      if c = '\t' then
        let blanks := tabDistance - filled % tabDistance
        List.replicate blanks ' ' ++ expandTabs (filled + blanks) cs
      else c :: expandTabs (filled + columnsOf c) cs

/-- The words of a line with the blanks after them. The first argument bounds their number. -/
def words : Nat → List Char → List (List Char)
  | 0, _ => []
  | n + 1, cs =>
      let lead := cs.takeWhile isBlank
      let letters := (cs.drop lead.length).takeWhile (! isBlank ·)
      let tail := (cs.drop (lead.length + letters.length)).takeWhile isBlank
      if letters.isEmpty then []
      else (lead ++ letters ++ tail) ::
        words n (cs.drop (lead.length + letters.length + tail.length))

/-- Cuts a word where the next character does not fit; `piece` is what is filled of the line. -/
def cut (columns : Nat) (piece : List Char) : List Char → List (List Char)
  | [] => [piece]
  | c :: cs =>
      if columns < width piece + columnsOf c then piece :: cut columns [c] cs
      else cut columns (piece ++ [c]) cs

/-- Puts words on lines; `line` is the one that is being filled. -/
def fill (columns : Nat) (line : List Char) : List (List Char) → List (List Char)
  | [] => [line]
  | word :: more =>
      let length := width (trimEnd word)
      if width line + length ≤ columns then fill columns (line ++ word) more
      else
        let full := if line.isEmpty then [] else [line]
        if columns < length then
          let pieces := cut columns [] word
          full ++ pieces.dropLast ++ fill columns (pieces.getLastD []) more
        else full ++ fill columns word more

/-- The lines for one line of a text. -/
def wrap (columns : Nat) (cs : List Char) : List (List Char) :=
  let line := expandTabs 0 cs
  (fill columns [] (words (line.length + 1) line)).map trimEnd

/-- The lines for a text. -/
def linesOf (columns : Nat) (cs : List Char) : List (List Char) :=
  (splitOn '\n' cs).flatMap (wrap columns)

/-- A line with blanks before it, in the middle of a width. -/
def centred (columns : Nat) (line : List Char) : List Char :=
  List.replicate ((columns - width line) / 2) ' ' ++ line

end TypedClients.Console
