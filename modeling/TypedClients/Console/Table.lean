import TypedClients.Console.Layout

/-!
# Tables on a screen

A table has a title, a row of headings in a heavy frame, and rows in a light frame. A column is as
wide as its widest cell.
-/
namespace TypedClients.Console

open TypedClients.Text

structure Table where
  title : List Char
  headings : List (List Char)
  /-- The rows, with a cell for each heading. -/
  rows : List (List (List Char))
  deriving Repr, Inhabited

/-- The characters of a line across a table. -/
structure Rule where
  left : Char
  middle : Char
  right : Char
  line : Char
  deriving Repr

namespace Table

def above : Rule := ⟨'┏', '┳', '┓', '━'⟩

def belowHeadings : Rule := ⟨'┡', '╇', '┩', '━'⟩

def below : Rule := ⟨'└', '┴', '┘', '─'⟩

/-- The widths of the columns. -/
def widths (t : Table) : List Nat :=
  t.rows.foldl (fun ws row => (ws.zip row).map fun (w, cell) => max w (width cell))
    (t.headings.map width)

/-- Parts of a line between its ends. -/
def joined (left middle right : Char) (parts : List (List Char)) : List Char :=
  left :: [middle].intercalate parts ++ [right]

def rule (ws : List Nat) (r : Rule) : List Char :=
  joined r.left r.middle r.right (ws.map fun w => List.replicate (w + 2) r.line)

/-- A row with its cells between bars. -/
def row (ws : List Nat) (bar : Char) (cells : List (List Char)) : List Char :=
  joined bar bar bar ((ws.zip cells).map fun (w, cell) => ' ' :: padTo w cell ++ [' '])

/-- The width of a table with its frame. -/
def fullWidth (ws : List Nat) : Nat := ws.foldl (fun n w => n + (w + 3)) 1

/-- The lines of a table. -/
def render (t : Table) : List (List Char) :=
  let ws := t.widths
  let columns := fullWidth ws
  (linesOf columns t.title).map (centred columns) ++
    [rule ws above, row ws '┃' t.headings, rule ws belowHeadings] ++
    t.rows.map (row ws '│') ++ [rule ws below]

end Table

end TypedClients.Console
