import TypedClients.Dictionary
import TypedClients.Failure
import TypedClients.Text.Path

/-!
# File trees

A file tree holds files and folders at places, which are lists of names from the root on. One of its
folders is the one that relative paths start from. Paths are followed name by name, so that `..`
leaves the folder that stands before it.
-/
namespace TypedClients

open TypedClients.Text

inductive FileNode where
  | file (bytes : List UInt8)
  | folder
  deriving DecidableEq, Repr, Inhabited

structure FileTree where
  /-- The folder that relative paths start from. It exists, and so do the folders around it. -/
  here : List String := []
  nodes : Dictionary (List String) FileNode := []
  deriving Repr, Inhabited

namespace FileTree

/-- What stands at a place. -/
def node? (t : FileTree) (place : List String) : Option FileNode :=
  if place <+: t.here then some .folder else t.nodes.get? place

/-- The longest name of a file or folder, in bytes. -/
def maxNameSize : Nat := 255

/-- The longest path, in bytes. -/
def maxPathSize : Nat := 4095

/-- Follows names from a place. All but the last one have to be folders. -/
def walk (t : FileTree) (place : List String) : List String → Except SystemError (List String)
  | [] => .ok place
  | name :: names =>
      match t.node? place with
      | none => .error .notFound
      | some (.file _) => .error .notADirectory
      | some .folder =>
          if name = ".." then walk t place.dropLast names
          else if maxNameSize < name.utf8ByteSize then .error .nameTooLong
          else walk t (place ++ [name]) names

/-- The place that a path leads to. There may be nothing there. -/
def place (t : FileTree) (p : Path) : Except SystemError (List String) :=
  if maxPathSize < p.toString.utf8ByteSize then .error .nameTooLong
  else t.walk (if p.root = "" then t.here else []) p.parts

/-- What a path leads to. -/
def find (t : FileTree) (p : Path) : Except SystemError FileNode := do
  match t.node? (← t.place p) with
  | some node => return node
  | none => throw .notFound

/-- What a path leads to, if there is such a thing. -/
def find? (t : FileTree) (p : Path) : Except SystemError (Option FileNode) :=
  match t.find p with
  | .ok node => .ok (some node)
  | .error .notFound | .error .notADirectory => .ok none
  | .error e => .error e

def readFile (t : FileTree) (p : Path) : Except SystemError (List UInt8) := do
  match ← t.find p with
  | .file bytes => return bytes
  | .folder => throw .isADirectory

/-- Whether a path leads to a folder. -/
def isFolder (t : FileTree) (p : Path) : Bool := t.find p matches .ok .folder

/-- The tree with another node at a place. -/
def set (t : FileTree) (place : List String) (node : FileNode) : FileTree :=
  { t with nodes := t.nodes.insert place node }

/-- The tree with a node below the working folder, and the folders around it. -/
def plant (t : FileTree) (names : List String) (node : FileNode) : FileTree :=
  let folders := (List.range names.length).map fun n => t.here ++ names.take n
  (folders.foldl (·.set · .folder) t).set (t.here ++ names) node

/-- Makes one folder where there is nothing. -/
def makeFolder (t : FileTree) (p : Path) : Except SystemError FileTree := do
  let place ← t.place p
  match t.node? place with
  | some _ => throw .alreadyExists
  | none => return t.set place .folder

/-- The outcome of making a folder, where one that is there already is good enough. An error comes
with the path it is about. -/
def acceptFolder (t : FileTree) (p : Path) :
    Except SystemError FileTree → Except (SystemError × Path) FileTree
  | .ok after => .ok after
  | .error e => if t.isFolder p then .ok t else .error (e, p)

/-- Makes a folder and the missing folders around it; `names` are those of its path, last first. -/
def makeFoldersFrom (t : FileTree) (root : String) :
    List String → Except (SystemError × Path) FileTree
  | [] => t.acceptFolder ⟨root, []⟩ (t.makeFolder ⟨root, []⟩)
  | name :: names =>
      let p : Path := ⟨root, (name :: names).reverse⟩
      match t.makeFolder p with
      | .error .notFound => do
          let t ← makeFoldersFrom t root names
          t.acceptFolder p (t.makeFolder p)
      | outcome => t.acceptFolder p outcome

def makeFolders (t : FileTree) (p : Path) : Except (SystemError × Path) FileTree :=
  t.makeFoldersFrom p.root p.parts.reverse

/-- Writes a file into a folder that exists. -/
def writeFile (t : FileTree) (p : Path) (bytes : List UInt8) : Except SystemError FileTree := do
  let place ← t.place p
  match t.node? place with
  | some .folder => throw .isADirectory
  | _ => return t.set place (.file bytes)

/-- Orders places name by name. -/
def placeOrder : List String → List String → Bool
  | [], _ => true
  | _ :: _, [] => false
  | a :: as, b :: bs => decide (a < b) || (a == b && placeOrder as bs)

/-- The files below a place, under the names that lead from it to them, in order. -/
def filesBelow (t : FileTree) (place : List String) : List (List String × List UInt8) :=
  (t.nodes.filterMap fun
    | (p, .file bytes) => if place <+: p then some (p.drop place.length, bytes) else none
    | (_, .folder) => none).mergeSort fun a b => placeOrder a.1 b.1

end FileTree

end TypedClients
