import TypedClients.Text.Blank

/-!
# Slash-separated paths

A path is a root, which is empty for a relative path, and its components. Empty components and
single dots are dropped when a path is read; `..` is kept.
-/
namespace TypedClients.Text

/-- A path without empty and dot components. -/
structure Path where
  /-- Empty, one slash, or two slashes. -/
  root : String
  parts : List String
  deriving DecidableEq, Repr, Inhabited

namespace Path

/-- The root of a path text: exactly two leading slashes are kept, any other number is one. -/
def rootOf (cs : List Char) : String :=
  match (cs.takeWhile (· == '/')).length with
  | 0 => ""
  | 2 => "//"
  | _ => "/"

def ofString (s : String) : Path :=
  let cs := s.toList
  ⟨rootOf cs, ((splitOn '/' cs).map String.ofList).filter fun p => p ≠ "" ∧ p ≠ "."⟩

/-- The path as text; a path without root and components is a dot. -/
def toString (p : Path) : String :=
  if p.root = "" ∧ p.parts = [] then "." else p.root ++ "/".intercalate p.parts

/-- An absolute path replaces the path it is joined to. -/
def join (p q : Path) : Path :=
  if q.root = "" then ⟨p.root, p.parts ++ q.parts⟩ else q

/-- The components with the root as the first one. -/
def components (p : Path) : List String :=
  if p.root = "" then p.parts else p.root :: p.parts

/-- The last component; empty for a bare root and for the empty path. -/
def fileName (p : Path) : String := p.parts.getLast?.getD ""

/-- Splits a file name before its last dot. A dot at the very start or end does not split. -/
def splitExtension (name : String) : String × String :=
  let cs := name.toList
  let ending := cs.reverse.takeWhile (· != '.')
  let stem := cs.take (cs.length - ending.length - 1)
  if ending ≠ [] ∧ stem ≠ [] ∧ ending.length < cs.length
  then (String.ofList stem, String.ofList ('.' :: ending.reverse))
  else (name, "")

/-- The file name without its extension. -/
def stem (p : Path) : String := (splitExtension p.fileName).1

/-- The path without the extension of its file name; a path without file name has none. -/
def withoutExtension? (p : Path) : Option Path :=
  if p.fileName = "" then none
  else some ⟨p.root, p.parts.dropLast ++ [p.stem]⟩

/-- The path of the folder that holds the file. -/
def parent (p : Path) : Path := ⟨p.root, p.parts.dropLast⟩

example : (ofString "a//./b.tar.gz").toString = "a/b.tar.gz" := by decide
example : (ofString "a/b.tar.gz").stem = "b.tar" := by decide
example : (ofString ".hidden").stem = ".hidden" := by decide

end Path

end TypedClients.Text
