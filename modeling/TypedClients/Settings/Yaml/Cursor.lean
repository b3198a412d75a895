/-!
# Positions in a text of lines

A cursor is the rest of a text with its position: the number of characters, lines, and characters on
the line before it. Past the end every character is null, which no text contains.
-/
namespace TypedClients.Settings.Yaml

/-- The character past the end of a text. -/
def endMark : Char := Char.ofNat 0

/-- Whether a character ends a line. -/
def isBreak (c : Char) : Bool :=
  c == '\n' || c == '\r' || c == '\x85' || c == '\u2028' || c == '\u2029'

def isBreakOrEnd (c : Char) : Bool := isBreak c || c == endMark

/-- Whether a character ends a line, the text, or a word before a space. -/
def isSpaceOrEnd (c : Char) : Bool := c == ' ' || isBreakOrEnd c

/-- The same with tabs. -/
def isBlankOrEnd (c : Char) : Bool := c == '\t' || isSpaceOrEnd c

structure Cursor where
  rest : List Char
  index : Nat := 0
  line : Nat := 0
  column : Nat := 0
  deriving DecidableEq, Repr, Inhabited

namespace Cursor

/-- The next character. -/
def next (c : Cursor) : Char := c.rest.headD endMark

/-- The character after the given number of others. -/
def ahead (c : Cursor) (n : Nat) : Char := (c.rest.drop n).headD endMark

/-- The position after the next character. Of the two characters that end a line together only the
second one starts a new line. -/
def step (c : Cursor) : Cursor :=
  match c.rest with
  | [] => c
  | ch :: rest =>
      if isBreak ch && ! (ch == '\r' && rest.head? == some '\n') then ⟨rest, c.index + 1, c.line + 1, 0⟩
      else ⟨rest, c.index + 1, c.line, if ch = '\ufeff' then c.column else c.column + 1⟩

/-- The position after a number of characters. -/
def skip : Nat → Cursor → Cursor
  | 0, c => c
  | n + 1, c => skip n c.step

/-- The characters up to one that fails a test, and the position there. -/
def takeWhile (c : Cursor) (p : Char → Bool) : List Char × Cursor :=
  let run := c.rest.takeWhile p
  (run, c.skip run.length)

def skipWhile (c : Cursor) (p : Char → Bool) : Cursor := (c.takeWhile p).2

/-- The end of a line as text, and the position after it; nothing where no line ends. Ends of all
common kinds become line feeds. -/
def lineBreak? (c : Cursor) : Option (Char × Cursor) :=
  match c.rest with
  | '\r' :: '\n' :: _ => some ('\n', c.skip 2)
  | ch :: _ =>
      if ch = '\u2028' ∨ ch = '\u2029' then some (ch, c.step)
      else if isBreak ch then some ('\n', c.step)
      else none
  | [] => none

/-- Whether three characters that divide documents stand here. -/
def atMarker (marker : Char) (c : Cursor) : Bool :=
  c.rest.take 3 == [marker, marker, marker] && isBlankOrEnd (c.ahead 3)

def atDocumentMarker (c : Cursor) : Bool := c.atMarker '-' || c.atMarker '.'

end Cursor

end TypedClients.Settings.Yaml
