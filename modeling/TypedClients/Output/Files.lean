import TypedClients.FileTree
import TypedClients.Output

/-!
# Output to files

Modules are written below an output folder; missing folders are made.
-/
namespace TypedClients

open TypedClients.Text

/-- A file tree, and the paths written so far, in order. -/
structure FileOutput where
  tree : FileTree
  written : List String := []
  deriving Inhabited

/-- The error of an output that the system refuses. -/
def outputError (file : Path) (e : SystemError) (place : Path) : Failure :=
  .reported (.output file.toString (some (.system e place.toString)))

/-- Writes a text to a file, and makes the folders around it first. -/
def writeText (t : FileTree) (file : Path) (text : String) : Except Failure Unit × FileTree :=
  match t.makeFolders file.parent with
  | .error (e, p) => (.error (outputError file e p), t)
  | .ok t =>
      match t.writeFile file (encodeUtf8 text.toList) with
      | .error e => (.error (outputError file e file), t)
      | .ok t => (.ok (), t)

/-- Writes each module below an output folder and gives back the path. -/
def writing (output : Path) : Sink FileOutput where
  put state m :=
    match m.text with
    | .error f => (Traced.fail f, state)
    | .ok text =>
        let file := output.join (Path.ofString m.path)
        match writeText state.tree file text with
        | (.error f, tree) => (Traced.fail f, { state with tree })
        | (.ok (), tree) =>
            (do
              Traced.note .info .output ("Wrote " ++ file.toString)
              return file.toString,
            { tree, written := state.written ++ [file.toString] })

end TypedClients
