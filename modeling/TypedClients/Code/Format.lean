import TypedClients.Code.Escape
import TypedClients.Code.Expr

/-!
# Formatted text

Formatted text alternates between text and fields in braces; a doubled brace is a brace. A field
holds an expression and perhaps an equals sign that shows the expression itself, a conversion after
an exclamation mark, and a format after a colon. A format may hold fields, but the formats of those
may not.
-/
namespace TypedClients.Code

open TypedClients.Text

/-- A conversion names one of the three ways to turn a value into text. -/
def isConversion (c : Char) : Bool := c == 's' || c == 'r' || c == 'a'

/-- White space of ASCII. -/
def isAsciiBlank (c : Char) : Bool := c == ' ' || (9 ≤ c.toNat && c.toNat ≤ 13)

/-- Where a run of text ends. -/
inductive TextEnd where
  /-- At a doubled brace that belongs to the run; the second one is skipped. -/
  | doubled
  /-- At a brace or at the end of the text. -/
  | brace
  deriving DecidableEq

/-- Where a run of text stands in an escape. -/
inductive EscapeState where
  | outside
  | afterBackslash
  /-- After the letter that announces a character name. -/
  | beforeName
  | inName
  deriving DecidableEq

/-- The run of text before the next field, the rest, and how the run ends. In a format braces are
not doubled. A single closing brace outside a format is refused. The braces around a character
name belong to the run; a brace after a backslash does not. -/
def textRun (raw isFormat : Bool) :
    EscapeState → List Char → Option (List Char × List Char × TextEnd)
  | _, [] => some ([], [], .brace)
  | state, c :: cs =>
      let go (state : EscapeState) :=
        (textRun raw isFormat state cs).map fun (run, rest, how) => (c :: run, rest, how)
      match state with
      | .inName => go (if c = '\x7d' then .outside else .inName)
      | .beforeName => go (if c = '\x7b' then .inName else .outside)
      | state =>
          if c = '\x7b' ∨ c = '\x7d' then
            if isFormat then some ([], c :: cs, .brace)
            else match cs with
              | d :: rest =>
                  if d = c then some ([c], rest, .doubled)
                  else if c = '\x7d' then none
                  else some ([], c :: cs, .brace)
              | [] => if c = '\x7d' then none else some ([], [c], .brace)
          else if state = .afterBackslash then go (if c = 'N' then .beforeName else .outside)
          else if c = '\\' ∧ ¬ raw then go .afterBackslash
          else go .outside

/-- The closing bracket for an opening one. -/
def closingFor? (c : Char) : Option Char :=
  if c = '(' then some ')'
  else if c = '[' then some ']'
  else if c = '\x7b' then some '\x7d'
  else none

/-- The source of the expression in a field, and the rest from the character that ends it. That is
an exclamation mark, a colon, a closing brace or an equals sign outside all quotes and brackets
that is not part of a comparison. Backslashes and comments are refused. `quote` is the quote of
quoted text that is open and whether it is tripled, `closers` are the brackets awaited, and `skip`
counts characters that belong to the symbol before them. -/
def fieldSource (quote : Option (Char × Bool)) (closers : List Char) (skip : Nat) :
    List Char → Option (List Char × List Char)
  | [] => none
  | c :: cs =>
      let go (quote : Option (Char × Bool)) (closers : List Char) (skip : Nat) :=
        (fieldSource quote closers skip cs).map fun (source, rest) => (c :: source, rest)
      if 0 < skip then go quote closers (skip - 1)
      else if c = '\\' then none
      else match quote with
        | some (q, triple) =>
            if c = q ∧ triple ∧ cs.take 2 = [q, q] then go none closers 2
            else if c = q ∧ ¬ triple then go none closers 0
            else go quote closers 0
        | none =>
            if c = '\'' ∨ c = '"' then
              if cs.take 2 = [c, c] then go (some (c, true)) closers 2
              else go (some (c, false)) closers 0
            else if let some close := closingFor? c then
              if 200 ≤ closers.length then none else go none (close :: closers) 0
            else if c = '#' then none
            else if closers = [] ∧ c ∈ ['!', ':', '\x7d', '=', '<', '>'] then
              if c ∈ ['!', '=', '<', '>'] ∧ cs.head? = some '=' then go none closers 1
              else if c = '<' ∨ c = '>' then go none closers 0
              else some ([], c :: cs)
            else if c ∈ [')', ']', '\x7d'] then
              match closers with
              | close :: closers => if c = close then go none closers 0 else none
              | [] => none
            else go none closers 0

/-- A field, after its opening brace. `value` reads an expression and `format` a format; the text
that an equals sign shows comes first. -/
def readField (value : List Char → Option Expr)
    (format : List Char → Option (List (Piece Expr) × List Char)) (cs : List Char) :
    Option (List Char × Piece Expr × List Char) := do
  let (source, rest) ← fieldSource none [] 0 cs
  let e ← value source
  let (shown, rest) := match rest with
    | '=' :: after =>
        let blanks := after.takeWhile isAsciiBlank
        (some (source ++ '=' :: blanks), after.dropWhile isAsciiBlank)
    | _ => (none, rest)
  let (conversion, rest) ← match rest with
    | '!' :: c :: after => if isConversion c then some (some c, after) else none
    | ['!'] => none
    | _ => some (none, rest)
  let (spec, rest) ← match rest with
    | ':' :: after => (format after).map fun (pieces, rest) => (some pieces, rest)
    | _ => some (none, rest)
  match rest with
  | '\x7d' :: after =>
      let conversion :=
        if shown.isSome ∧ spec.isNone ∧ conversion.isNone then some 'r' else conversion
      return (shown.getD [], .field e conversion spec, after)
  | _ => none

/-- Joins neighbouring texts and drops empty ones. -/
def joinTexts : List (Piece Expr) → List (Piece Expr)
  | [] => []
  | .text s :: pieces =>
      match joinTexts pieces with
      | .text t :: rest => .text (s ++ t) :: rest
      | .brokenText t :: rest => .brokenText (t.prepend s.toList) :: rest
      | rest => if s = "" then rest else .text s :: rest
  | .brokenText t :: pieces =>
      match joinTexts pieces with
      | .text s :: rest => .brokenText (t.append (CodePoint.ofString s)) :: rest
      | .brokenText u :: rest => .brokenText (t.append u.points) :: rest
      | rest => .brokenText t :: rest
  | piece :: pieces => piece :: joinTexts pieces

/-- The pieces of formatted text, and the rest after them; outside a format there is none. The
first argument bounds the number of pieces. -/
def readPieces (value : List Char → Option Expr) (raw isFormat : Bool)
    (format : Option (List Char → Option (List (Piece Expr) × List Char))) :
    Nat → List Char → Option (List (Piece Expr) × List Char)
  | 0, _ => none
  | n + 1, cs => do
      let (run, rest, how) ← textRun raw isFormat .outside cs
      let text ← textOf raw run
      let piece : Piece Expr := .ofPoints text
      match how with
      | .doubled =>
          let (pieces, rest) ← readPieces value raw isFormat format n rest
          return (piece :: pieces, rest)
      | .brace =>
          match rest with
          | '\x7b' :: after => do
              let format ← format
              let (shown, field, rest) ← readField value format after
              let (pieces, rest) ← readPieces value raw isFormat format n rest
              return (piece :: .text (String.ofList shown) :: field :: pieces, rest)
          | rest => return ([piece], rest)

/-- The pieces of formatted text. `value` reads the expression of a field. -/
def formattedPieces (value : List Char → Option Expr) (raw : Bool) (body : List Char) :
    Option (List (Piece Expr)) := do
  let bound := body.length + 1
  let inner (cs : List Char) := do
    let (pieces, rest) ← readPieces value raw true none bound cs
    return (joinTexts pieces, rest)
  let outer (cs : List Char) := do
    let (pieces, rest) ← readPieces value raw true (some inner) bound cs
    return (joinTexts pieces, rest)
  let (pieces, rest) ← readPieces value raw false (some outer) bound body
  if rest = [] then some pieces else none

end TypedClients.Code
