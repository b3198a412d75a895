import TypedClients.Console.Run

/-!
# The program

The files below the working folder, and what the command line and the configuration name elsewhere,
are read; the command is run on them; the files that it changed are written.
-/
namespace TypedClients

open TypedClients.Text

/-- The path of a place. -/
def pathText (place : List String) : String := "/" ++ "/".intercalate place

/-- Reads what is at a place, if there is something, and everything below it. -/
partial def readPlace (tree : FileTree) (place : List String) : IO FileTree := do
  try
    let path ← IO.FS.realPath (pathText place)
    if ← path.isDir then
      let mut tree := tree.set place .folder
      for entry in ← path.readDir do
        tree ← readPlace tree (place ++ [entry.fileName])
      return tree
    else
      return tree.set place (.file (← IO.FS.readBinFile path).toList)
  catch _ => return tree

/-- The place of a path, where `..` leads to the folder around. -/
def placeOf (here : List String) (path : Path) : List String :=
  path.parts.foldl (fun place name => if name = ".." then place.dropLast else place ++ [name])
    (if path.root = "" then here else [])

/-- Reads what a path leads to, with the folders around it, unless it is read already. -/
def readOutside (tree : FileTree) (path : String) : IO FileTree := do
  let place := placeOf tree.here (Path.ofString path)
  if tree.here <+: place then return tree
  let around := (List.range place.length).map place.take
  readPlace (around.foldl (·.set · .folder) tree) place

/-- The name of the configuration in a command. -/
def Console.Command.configuration? : Console.Command → Option String
  | .generate o | .inspect o => o.configuration
  | _ => none

/-- Reads what a command needs. -/
def readSurroundings (args : List String) : IO Settings.Surroundings := do
  let here := (Path.ofString (← IO.currentDir).toString).parts
  let mut tree ← readPlace { here } here
  let environment := (← IO.getEnv Settings.projectsVariable).toList.map (Settings.projectsVariable, ·)
  let name := (Console.Command.read args).bind (·.configuration?)
  for path in name.toList do tree ← readOutside tree path
  match Settings.load ⟨tree, environment⟩ name with
  | .error _ => pure ()
  | .ok projects =>
      for s in projects do
        tree ← readOutside tree s.source
        tree ← readOutside tree s.output
  return ⟨tree, environment⟩

/-- Writes the files that differ from those before. -/
def writeChanges (before after : FileTree) : IO Unit := do
  for (place, node) in after.nodes do
    if before.nodes.get? place ≠ some node then
      match node with
      | .folder => IO.FS.createDirAll (pathText place)
      | .file bytes => IO.FS.writeBinFile (pathText place) ⟨bytes.toArray⟩

end TypedClients

open TypedClients in
/-- Runs the command of the command line. -/
def main (args : List String) : IO UInt32 := do
  let surroundings ← readSurroundings args
  let outcome := Console.run surroundings args
  writeChanges surroundings.files outcome.files
  for line in outcome.lines do IO.println line
  for fault in outcome.fault do IO.eprintln fault.message
  return outcome.exitCode.toUInt32
