import TypedClients.Console.Command
import TypedClients.Console.Markup
import TypedClients.Console.Table
import TypedClients.Output.Files
import TypedClients.Settings.Load

/-!
# Running a command

A command prints lines and may change files. An error of the program is printed and makes the exit
code one; a fault ends the run with the same code and is handed on.
-/
namespace TypedClients.Console

open TypedClients.Text

/-- The version of the program. -/
def programVersion : String := "0.1.0"

/-- The width of the screen. -/
def screenWidth : Nat := 2000

/-- What a run has done so far. -/
structure Session where
  /-- The lines on the screen. -/
  lines : List String := []
  files : FileTree
  deriving Repr, Inhabited

/-- A step of a run. What was done before a failure is kept. -/
abbrev Run (α : Type) := ExceptT Failure (StateM Session) α

/-- Prints lines as they are. -/
def printLines (lines : List (List Char)) : Run Unit :=
  modify fun s => { s with lines := s.lines ++ lines.map String.ofList }

/-- What is shown of a marked-up text. -/
def rendered (text : String) : Run (List Char) :=
  match render text with
  | some cs => pure cs
  | none => throw (.fault .unopenedTag)

/-- Prints a marked-up text. -/
def print (text : String) : Run Unit := do
  printLines (linesOf screenWidth (← rendered text))

/-- The width of the severities in the log. -/
def severityWidth : Nat := 8

/-- Prints log entries: the severe ones, or all of them. -/
def printLog (verbose : Bool) (log : List LogEntry) : Run Unit :=
  printLines ((log.filter fun e => verbose || e.severity == .warning).flatMap fun e =>
    linesOf screenWidth (padTo (severityWidth + 1) e.severity.name.toList ++ plain e.text.toList))

/-- What stands before the text of an activity. -/
def activityMark : String := "* "

/-- What is shown of the text of an activity, which has a style of its own. -/
def activity (text : String) : Run (List Char) := do
  return activityMark.toList ++ (← rendered ("[progress.description]" ++ text))

/-- Generates the clients of a project, and prints what was done, or what was being done. -/
def generateProject (verbose : Bool) (s : ProjectSettings) : Run Unit := do
  let doing ← activity ("Generating clients for " ++ s.source ++ " in " ++ s.output ++ "...")
  let files := (← get).files
  let (outcome, after) := s.generate (writing (Path.ofString s.output)) { tree := files }
    (s.load files)
  modify fun session => { session with files := after.tree }
  printLog verbose outcome.log
  match outcome.result with
  | .error e => do
      printLines [doing]
      throw e
  | .ok written => do
      printLines [← activity ("Code generation completed for " ++ s.source ++ "!")]
      print "Generated files:"
      for path in written do print ("  - " ++ path)

/-- The text for a type that may be missing. -/
def describe : Option Binding → String
  | some b => b.type.text
  | none => "-"

/-- The cells of a route of a class. -/
def routeCells (c : RouteClass) (r : Route) : List String :=
  [c.clientName, r.name, r.verb.name, r.path, describe r.body, describe r.query,
    (r.response.map (·.text)).getD "None"]

/-- The headings of the table of routes. -/
def headings : List String := ["Client", "Method", "Verb", "Path", "Body", "Query", "Response"]

/-- The table of the routes of a project. -/
def routeTable (s : ProjectSettings) (files : List RouteFile) : Run Table := do
  let rows := files.flatMap fun f => f.classes.flatMap fun c => c.routes.map (routeCells c)
  return { title := ← rendered (s.source ++ " -> " ++ s.apiName)
           headings := headings.map String.toList
           rows := ← rows.mapM (·.mapM rendered) }

/-- Prints the routes of a project. -/
def inspectProject (verbose : Bool) (s : ProjectSettings) : Run Unit := do
  let outcome := s.load (← get).files >>= s.routeFiles
  printLog verbose outcome.log
  match outcome.result with
  | .error e => throw e
  | .ok files => printLines (← routeTable s files).render

/-- Does something with each project of a configuration. -/
def forProjects (environment : List (String × String)) (configuration : Option String)
    (act : ProjectSettings → Run Unit) : Run Unit := do
  match Settings.load ⟨(← get).files, environment⟩ configuration with
  | .error e => throw e
  | .ok projects => projects.forM act

/-- How the program is called. -/
def usage : List String :=
  ["Usage: routegen [--help] COMMAND", "",
    "  generate [-c FILE] [-v]  Generate client code for every configured project.",
    "  inspect [-c FILE] [-v]   Show the routes, without writing anything.",
    "  version                  Show the version."]

/-- The steps of a command. -/
def steps (environment : List (String × String)) : Command → Run Unit
  | .generate o => do
      forProjects environment o.configuration (generateProject o.verbose)
      print "Successfully generated code"
  | .inspect o => forProjects environment o.configuration (inspectProject o.verbose)
  | .version => print ("routegen version: " ++ programVersion)
  | .help => printLines (usage.map String.toList)

/-- What remains of a run. -/
structure Outcome where
  lines : List String
  exitCode : Nat
  files : FileTree
  /-- What ended the run without a report. -/
  fault : Option Fault := none
  deriving Repr, Inhabited

/-- Runs the steps of a command, and reports an error that ends them. -/
def perform (steps : Run Unit) (files : FileTree) : Outcome :=
  let reporting : Run Bool :=
    tryCatch (steps >>= fun _ => pure true) fun
      | .reported e => do
          print ("Error: " ++ e.message)
          return false
      | .fault f => throw (.fault f)
  match reporting.run.run { files } with
  | (.ok finished, s) => { lines := s.lines, exitCode := if finished then 0 else 1, files := s.files }
  | (.error (.fault f), s) => { lines := s.lines, exitCode := 1, files := s.files, fault := some f }
  | (.error (.reported _), s) => { lines := s.lines, exitCode := 1, files := s.files }

/-- The exit code for a command line that makes no sense. -/
def misuseCode : Nat := 2

/-- Runs the command of a command line. -/
def run (surroundings : Settings.Surroundings) (args : List String) : Outcome :=
  match Command.read args with
  | none => { lines := [], exitCode := misuseCode, files := surroundings.files }
  | some c => perform (steps surroundings.environment c) surroundings.files

end TypedClients.Console
