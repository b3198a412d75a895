import TypedClients.Code.Check
import TypedClients.Code.Stmt.Print
import TypedClients.Dictionary
import TypedClients.Text.Path
import TypedClients.Traced

/-!
# Output

A module is put out as source text that has been checked: `renderModule` refuses a text that is no
valid program. Where texts go is left to a `Sink`: `collecting` keeps them under their paths.
-/
namespace TypedClients

open TypedClients.Text TypedClients.Code

/-- The statement that documents what it stands at the head of. An empty text documents nothing. -/
def documentation : Option String → List Stmt
  | none | some "" => []
  | some text => [.expression (Expr.string text)]

/-- The source text of a module under a name. -/
def renderModule (body : List Stmt) (name : String) (docstring : Option String) :
    Except Failure String :=
  let source := renderStatements (documentation docstring ++ body)
  if name.toList.contains (Char.ofNat 0) then .error (.fault .nullInName)
  else match Code.compile source with
  | .ok _ => .ok (source ++ "\n")
  | .error .nullCharacter => .error (.fault .nullCharacter)
  | .error .malformed =>
      .error (.reported (.generation .invalidCode (some name) (some .malformedSource)))

/-- A module to be put out. -/
structure OutputModule where
  body : List Stmt
  /-- The path of the module below the output folder. -/
  path : String
  docstring : Option String := none
  deriving Inhabited

/-- The checked source text of a module; errors name it by its path without extension. -/
def OutputModule.text (m : OutputModule) : Except Failure String := do
  let path := Path.ofString m.path
  match path.withoutExtension? with
  | none => .error (.fault (.noFileName path.toString))
  | some name => renderModule m.body name.toString m.docstring

/-- A place that modules are put into one at a time, with what it holds as its state. A module that
fails leaves what was put there before. -/
structure Sink (σ : Type) where
  put : σ → OutputModule → Traced String × σ

/-- Puts modules in order, up to the first one that fails. -/
def Sink.putAll {σ : Type} (sink : Sink σ) (state : σ) :
    List OutputModule → Traced (List String) × σ
  | [] => (pure [], state)
  | m :: ms =>
      let (first, after) := sink.put state m
      match first.result with
      | .error f => (⟨first.log, .error f⟩, after)
      | .ok out =>
          let (rest, last) := sink.putAll after ms
          (⟨first.log ++ rest.log, rest.result.map (out :: ·)⟩, last)

/-- Texts under their paths. -/
abbrev Collected := Dictionary String String

/-- Keeps each text under its path and gives the text back. -/
def collecting : Sink Collected where
  put collected m :=
    match m.text with
    | .error f => (Traced.fail f, collected)
    | .ok text => (pure text, collected.insert m.path text)

end TypedClients
