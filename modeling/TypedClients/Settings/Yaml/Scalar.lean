import TypedClients.Settings.Numeral
import TypedClients.Settings.Yaml.Cursor

/-!
# Scalars of YAML

A scalar is written in quotes, plainly, or as a block of lines. Line ends inside a scalar are folded:
a single one becomes a space, and of several the first is dropped. Only a literal block keeps all of
them.
-/
namespace TypedClients.Settings.Yaml

open TypedClients.Text

/-- What one line end and the ones after it fold into. -/
def folded (first : Char) (more : List Char) : List Char :=
  if first ≠ '\n' then first :: more else if more = [] then [' '] else more

/-! ### Quoted scalars -/

/-- The line ends here, with the blanks before them. A document may not be divided here. The first
argument bounds their number. -/
def quotedBreaks : Nat → Cursor → Option (List Char × Cursor)
  | 0, _ => none
  | n + 1, c =>
      if c.atDocumentMarker then none
      else
        let c := c.skipWhile fun ch => ch == ' ' || ch == '\t'
        match c.lineBreak? with
        | none => some ([], c)
        | some (ch, c) => do
            let (more, c) ← quotedBreaks n c
            return (ch :: more, c)

/-- The character that a letter after a backslash stands for. -/
def escapedChar? (c : Char) : Option Char :=
  match c with
  | '0' => some endMark
  | 'a' => some '\x07'
  | 'b' => some '\x08'
  | 't' | '\t' => some '\t'
  | 'n' => some '\n'
  | 'v' => some '\x0b'
  | 'f' => some '\x0c'
  | 'r' => some '\r'
  | 'e' => some '\x1b'
  | ' ' | '"' | '\\' | '/' => some c
  | 'N' => some '\x85'
  | '_' => some '\xa0'
  | 'L' => some '\u2028'
  | 'P' => some '\u2029'
  | _ => none

/-- The number of digits after a letter that announces the number of a character. -/
def escapeLength? : Char → Option Nat
  | 'x' => some 2
  | 'u' => some 4
  | 'U' => some 8
  | _ => none

/-- The character of a number. Half of a pair is no character and is replaced. -/
def charOf? (n : Nat) : Option Char :=
  if 0x110000 ≤ n then none
  else if 0xd800 ≤ n ∧ n < 0xe000 then some '\ufffd'
  else some (Char.ofNat n)

/-- What an escape stands for, after its backslash. -/
def escaped? (c : Cursor) : Option (List Char × Cursor) :=
  match escapedChar? c.next, escapeLength? c.next with
  | some ch, _ => some ([ch], c.step)
  | none, some length => do
      let ds := c.step.rest.take length
      guard (ds.length = length)
      let ch ← charOf? (← valueInBase? 16 ds)
      return ([ch], c.step.skip length)
  | none, none => do
      let (_, c) ← c.lineBreak?
      quotedBreaks (c.rest.length + 1) c

/-- The text up to the closing quote; the first argument bounds the number of its parts. -/
def quotedText (double : Bool) : Nat → Cursor → Option (List Char × Cursor)
  | 0, _ => none
  | n + 1, c =>
      let ch := c.next
      let goOn (text : List Char) (c : Cursor) : Option (List Char × Cursor) :=
        (quotedText double n c).map fun (more, c) => (text ++ more, c)
      if ch = endMark then none
      else if ch = '"' ∧ double then some ([], c.step)
      else if ch = '\'' ∧ ! double then
        if c.ahead 1 = '\'' then goOn ['\''] (c.skip 2) else some ([], c.step)
      else if ch = '\\' ∧ double then do
        let (text, c) ← escaped? c.step
        goOn text c
      else if ch = ' ' ∨ ch = '\t' ∨ isBreak ch then do
        let (blanks, c) := c.takeWhile fun ch => ch == ' ' || ch == '\t'
        match c.lineBreak? with
        | none => goOn blanks c
        | some (first, c) => do
            let (more, c) ← quotedBreaks (c.rest.length + 1) c
            goOn (folded first more) c
      else goOn [ch] c.step

/-! ### Plain scalars -/

/-- Whether a plain scalar ends before a character. Brackets and commas end it inside brackets. -/
def endsPlain (inFlow : Bool) (ch after : Char) : Bool :=
  isBlankOrEnd ch ||
    (ch == ':' && (isBlankOrEnd after || (inFlow && ",[]\x7b\x7d".toList.contains after))) ||
    (inFlow && ",?[]\x7b\x7d".toList.contains ch)

/-- The characters of a plain scalar up to a blank or its end. -/
def plainWord (inFlow : Bool) : List Char → List Char
  | [] => []
  | ch :: cs => if endsPlain inFlow ch (cs.headD endMark) then [] else ch :: plainWord inFlow cs

/-- The line ends here, with the spaces between them; nothing where a document is divided. -/
def plainBreaks : Nat → Cursor → Option (List Char) × Cursor
  | 0, c => (some [], c)
  | n + 1, c =>
      if c.next = ' ' then plainBreaks n c.step
      else match c.lineBreak? with
        | none => (some [], c)
        | some (ch, c) =>
            if c.atDocumentMarker then (none, c)
            else
              let (more, c) := plainBreaks n c
              (more.map (ch :: ·), c)

/-- What the blanks between two words of a plain scalar fold into, the position after them, and
whether a line ends there. It is nothing where the scalar ends. -/
def plainSpaces (c : Cursor) : List Char × Cursor × Bool :=
  let (blanks, c) := c.takeWhile (· == ' ')
  match c.lineBreak? with
  | none => (blanks, c, false)
  | some (first, c) =>
      if c.atDocumentMarker then ([], c, true)
      else
        let (more, c) := plainBreaks (c.rest.length + 1) c
        ((more.map (folded first)).getD [], c, true)

/-- The words of a plain scalar that is indented by at least `indent` on all lines but the first.
`spaces` is what stands between it and the text before; `crossed` tells whether a line ends there. -/
def plainText (inFlow : Bool) (indent : Int) :
    Nat → (spaces : List Char) → (crossed : Bool) → Cursor → List Char × Cursor × Bool
  | 0, _, crossed, c => ([], c, crossed)
  | n + 1, spaces, crossed, c =>
      let word := if c.next = '#' then [] else plainWord inFlow c.rest
      if word = [] then ([], c, crossed)
      else
        let (after, c, crossed) := plainSpaces (c.skip word.length)
        if after = [] ∨ c.next = '#' ∨ (! inFlow ∧ (c.column : Int) < indent) then
          (spaces ++ word, c, crossed)
        else
          let (more, c, crossed) := plainText inFlow indent n after crossed c
          (spaces ++ word ++ more, c, crossed)

/-! ### Block scalars -/

/-- What happens to the line ends after the last line of a block. -/
inductive Chomping where
  | strip
  | clip
  | keep
  deriving DecidableEq, Repr

def chomping? : Char → Option Chomping
  | '+' => some .keep
  | '-' => some .strip
  | _ => none

/-- A digit that gives the indentation. Zero is refused. -/
def increment? (c : Char) : Option (Option Nat) :=
  if isDigit c then if c = '0' then none else some (some (c.toNat - '0'.toNat)) else some none

/-- The indicators after the one that opens a block. -/
def blockHeader (c : Cursor) : Option (Chomping × Option Nat × Cursor) := do
  let (chomping, increment, c) ← match chomping? c.next with
    | some chomping => do
        let increment ← increment? c.step.next
        let after := if increment.isSome then c.skip 2 else c.step
        some (chomping, increment, after)
    | none => do
        let increment ← increment? c.next
        let after := if increment.isSome then c.step else c
        match if increment.isSome then chomping? after.next else none with
        | some chomping => some (chomping, increment, after.step)
        | none => some (.clip, increment, after)
  guard (isSpaceOrEnd c.next)
  return (chomping, increment, c)

/-- The position after the rest of a line that holds nothing but a comment. -/
def skipIgnored (c : Cursor) : Option Cursor :=
  let c := c.skipWhile (· == ' ')
  let c := if c.next = '#' then c.skipWhile (! isBreakOrEnd ·) else c
  if ! isBreakOrEnd c.next then none
  else match c.lineBreak? with
    | some (_, c) => some c
    | none => some c

/-- The leading empty lines of a block, and its indentation: the deepest column on these lines and
on the first one with text. -/
def leadingBreaks : Nat → Nat → Cursor → List Char × Nat × Cursor
  | 0, deepest, c => ([], deepest, c)
  | n + 1, deepest, c =>
      if c.next = ' ' then leadingBreaks n (max deepest c.step.column) c.step
      else match c.lineBreak? with
        | some (ch, c) =>
            let (more, deepest, c) := leadingBreaks n deepest c
            (ch :: more, deepest, c)
        | none => ([], deepest, c)

/-- The position after spaces, up to the indentation. -/
def skipIndent (indent : Nat) (c : Cursor) : Cursor :=
  c.skip (min (indent - c.column) (c.rest.takeWhile (· == ' ')).length)

/-- The empty lines before the next line of a block. -/
def blockBreaks (indent : Nat) : Nat → Cursor → List Char × Cursor
  | 0, c => ([], c)
  | n + 1, c =>
      let c := skipIndent indent c
      match c.lineBreak? with
      | some (ch, c) =>
          let (more, c) := blockBreaks indent n c
          (ch :: more, c)
      | none => ([], c)

def isBlank (c : Char) : Bool := c == ' ' || c == '\t'

/-- The lines of a block. `breaks` are the empty lines before the next one. In a folded block the
end of a line is folded if neither that line nor the next one starts with a blank. -/
def blockLines (folds : Bool) (chomping : Chomping) (indent : Nat) :
    Nat → (breaks : List Char) → (lineEnd : List Char) → Cursor → List Char × Cursor
  | 0, _, _, c => ([], c)
  | n + 1, breaks, lineEnd, c =>
      if c.column = indent ∧ c.next ≠ endMark then
        let leading := isBlank c.next
        let (text, c) := c.takeWhile (! isBreakOrEnd ·)
        let (lineEnd, c) := match c.lineBreak? with
          | some (ch, c) => ([ch], c)
          | none => ([], c)
        let (after, c) := blockBreaks indent (c.rest.length + 1) c
        let between :=
          if c.column = indent ∧ c.next ≠ endMark then
            if folds ∧ lineEnd = ['\n'] ∧ ! leading ∧ ! isBlank c.next then
              if after = [] then [' '] else []
            else lineEnd
          else []
        let (more, last) := blockLines folds chomping indent n after lineEnd c
        (breaks ++ text ++ between ++ more, last)
      else match chomping with
        | .strip => ([], c)
        | .clip => (lineEnd, c)
        | .keep => (lineEnd ++ breaks, c)

/-- A block scalar after its indicator. `indent` is the indentation around it. -/
def blockScalar (folds : Bool) (indent : Int) (c : Cursor) : Option (List Char × Cursor) := do
  let (chomping, increment, c) ← blockHeader c
  let c ← skipIgnored c
  let least := max 1 (indent + 1).toNat
  let bound := c.rest.length + 1
  let (breaks, indent, c) := match increment with
    | none =>
        let (breaks, deepest, c) := leadingBreaks bound 0 c
        (breaks, max least deepest, c)
    | some n =>
        let indent := least + n - 1
        let (breaks, c) := blockBreaks indent bound c
        (breaks, indent, c)
  return blockLines folds chomping indent bound breaks [] c

end TypedClients.Settings.Yaml
