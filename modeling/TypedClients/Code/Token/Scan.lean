import TypedClients.Code.Token
import TypedClients.Text.Identifier
import TypedClients.Text.LineEnd
import TypedClients.Text.Normal

/-!
# Scanning source code

`Token.scan` cuts a source text into tokens. Line ends inside brackets and blank lines yield no
tokens; other changes of indentation yield `indent` and `dedent`. A text that holds no token
sequence is refused as a whole.
-/
namespace TypedClients.Code

open TypedClients.Text

/-- Ends the last line of a text, if it is open. -/
def closeLastLine (cs : List Char) : List Char :=
  if cs.getLast? = some '\n' then cs else cs ++ ['\n']

namespace Token

/-- Characters that go on in a word. Outside ASCII all do, and the word is checked as a whole. -/
def isWordChar (c : Char) : Bool := isPlainNameChar c || 128 ≤ c.toNat

/-! ### Numbers -/

/-- The digits at the front, with single underscores between them removed. -/
def digitGroup (isDigit : Char → Bool) : List Char → Option (List Char × List Char)
  | [] => some ([], [])
  | ['_'] => none
  | '_' :: c :: cs =>
      if isDigit c then (digitGroup isDigit cs).map fun (ds, rest) => (c :: ds, rest) else none
  | c :: cs =>
      if isDigit c then (digitGroup isDigit cs).map fun (ds, rest) => (c :: ds, rest)
      else some ([], c :: cs)

/-- A number may be followed directly by one of a few reserved words, and by no other word. -/
def endsNumber (rest : List Char) : Bool :=
  let followed (w : String) : Bool :=
    w.toList.isPrefixOf rest && ! ((rest.drop w.length).head?.any isWordChar)
  match rest with
  | [] => true
  | c :: _ =>
      if c = 'i' then ["if", "in", "is"].any (·.toList.isPrefixOf rest)
      else ["and", "else", "for", "or"].any followed || ! isWordChar c

/-- A whole number in a base marked by a letter. -/
def radixNumber (base : Nat) (isDigit : Char → Bool) (cs : List Char) :
    Option (Literal × List Char) := do
  let (digits, rest) ← digitGroup isDigit cs
  if digits = [] ∨ ¬ endsNumber rest then none
  let value := digits.foldl (fun n d => n * base + (hexDigit? d).getD 0) 0
  return (.int value, rest)

/-- The value of a decimal numeral. -/
def decimalValue (digits : List Char) : Nat :=
  digits.foldl (fun n d => n * 10 + (d.toNat - '0'.toNat)) 0

/-- The exponent part of a number: its value, or nothing when no exponent stands here. -/
def exponentPart (cs : List Char) : Option (Option Int × List Char) :=
  match cs with
  | 'e' :: rest | 'E' :: rest =>
      match rest with
      | '+' :: d :: _ | '-' :: d :: _ =>
          if isDigit d then do
            let (digits, after) ← digitGroup isDigit (rest.drop 1)
            let value : Int := decimalValue digits
            return (some (if rest.head? = some '-' then -value else value), after)
          else none
      | d :: _ =>
          if isDigit d then do
            let (digits, after) ← digitGroup isDigit rest
            return (some (decimalValue digits : Int), after)
          else some (none, cs)
      | [] => some (none, cs)
  | _ => some (none, cs)

/-- The longest decimal numeral for a whole number. -/
def maxIntDigits : Nat := 4300

/-- A number that starts with a digit, or with a point and a digit. A whole number does not start
with zero unless it is zero. -/
def decimalNumber (cs : List Char) : Option (Literal × List Char) := do
  let (whole, rest) ← digitGroup isDigit cs
  let (fraction, rest) ← match rest with
    | '.' :: after =>
        if after.head?.any isDigit then
          (digitGroup isDigit after).map fun (ds, rest) => (some ds, rest)
        else some (some [], after)
    | _ => some (none, rest)
  let (exponent, rest) ← exponentPart rest
  let digits := whole ++ fraction.getD []
  let value := Binary64.ofDecimal (decimalValue digits)
    (exponent.getD 0 - (fraction.getD []).length)
  match rest with
  | 'j' :: after | 'J' :: after =>
      if endsNumber after then some (.imaginary value, after) else none
  | _ =>
      if ! endsNumber rest then none
      else if fraction = none ∧ exponent = none then
        if (whole.length ≠ 1 ∧ whole.head? = some '0' ∧ whole.any (· != '0')) ∨
          maxIntDigits < whole.length then none
        else some (.int (decimalValue whole), rest)
      else some (.float value, rest)

/-- The number at the front of a text. -/
def numeral (cs : List Char) : Option (Literal × List Char) :=
  match cs with
  | '0' :: 'x' :: rest | '0' :: 'X' :: rest =>
      radixNumber 16 (fun c => (hexDigit? c).isSome) rest
  | '0' :: 'o' :: rest | '0' :: 'O' :: rest =>
      radixNumber 8 (fun c => '0' ≤ c && c ≤ '7') rest
  | '0' :: 'b' :: rest | '0' :: 'B' :: rest =>
      radixNumber 2 (fun c => c == '0' || c == '1') rest
  | _ => decimalNumber cs

/-! ### Quoted text -/

/-- The text up to the closing quote or quotes. A backslash takes the next character along. -/
def untilQuote (quote : Char) (triple : Bool) : List Char → Option (List Char × List Char)
  | [] => none
  | ['\\'] => none
  | '\\' :: c :: cs =>
      (untilQuote quote triple cs).map fun (body, rest) => ('\\' :: c :: body, rest)
  | c :: cs =>
      if triple then
        if c = quote ∧ cs.take 2 = [quote, quote] then some ([], cs.drop 2)
        else (untilQuote quote triple cs).map fun (body, rest) => (c :: body, rest)
      else if c = quote then some ([], cs)
      else if c = '\n' then none
      else (untilQuote quote triple cs).map fun (body, rest) => (c :: body, rest)

/-- The markers that may stand before a quote, in small letters. -/
def quoteMarkers : List String := ["", "b", "u", "r", "f", "br", "rb", "fr", "rf"]

/-- The quoted text that starts after a marker. -/
def quotedText (marker : List Char) (cs : List Char) : Option (Token × List Char) :=
  match cs with
  | [] => none
  | quote :: rest => do
      let triple := rest.take 2 = [quote, quote]
      let (body, after) ← untilQuote quote triple (if triple then rest.drop 2 else rest)
      let small := marker.map Char.toLower
      return (.quoted
        { raw := small.contains 'r'
          bytes := small.contains 'b'
          formatted := small.contains 'f'
          marked := marker = ['u']
          body := body }, after)

/-- The word at the front of a text: quoted text after a marker, a reserved word, or a name. A name
outside ASCII is brought to its normal form, which is a name again. -/
def wordToken (cs : List Char) : Option (Token × List Char) :=
  let text := cs.takeWhile isWordChar
  let rest := cs.dropWhile isWordChar
  let quoteFollows := rest.head? = some '\'' ∨ rest.head? = some '"'
  if quoteFollows ∧ String.ofList (text.map Char.toLower) ∈ quoteMarkers then quotedText text rest
  else if text.all (·.toNat < 128) then
    let s := String.ofList text
    some (if s ∈ reservedWords then .word s else .name s, rest)
  else
    let name := normalise text
    if isIdentifier text ∧ isIdentifier name then some (.name (String.ofList name), rest)
    else none

/-- The longest operator at the front of a text. -/
def operator (cs : List Char) : Option (String × List Char) :=
  let found := operatorSymbols.findSome? fun symbols =>
    symbols.find? fun s => s.toList.isPrefixOf cs
  found.map fun s => (s, cs.drop s.length)

/-! ### Lines -/

/-- Columns of the indentation at the start of a line. In the first count a tab goes on to the next
multiple of eight, in the second it counts one; a form feed starts both counts anew. After a
backslash that continues the line the column before it counts, unless it is zero. -/
def indentation (column other kept : Nat) : List Char → Option (Nat × Nat × List Char)
  | ' ' :: cs => indentation (column + 1) (other + 1) kept cs
  | '\t' :: cs => indentation ((column / 8 + 1) * 8) (other + 1) kept cs
  | '\x0c' :: cs => indentation 0 0 kept cs
  | '\\' :: '\n' :: cs =>
      if cs = [] then none
      else indentation column other (if kept = 0 then column else kept) cs
  | '\\' :: _ => none
  | cs => some (if kept = 0 then column else kept, if kept = 0 then other else kept, cs)

/-- The tokens for a line that starts at the given columns, and the levels then open. The two
counts must agree on whether the line is indented more or less. -/
def relevel (column other : Nat) : List (Nat × Nat) → Option (List Token × List (Nat × Nat))
  | [] => none
  | (c, o) :: outer =>
      if column = c then if other = o then some ([], (c, o) :: outer) else none
      else if c < column then
        if other ≤ o ∨ 99 ≤ outer.length then none
        else some ([.indent], (column, other) :: (c, o) :: outer)
      else dedent 1 outer
where
  dedent (count : Nat) : List (Nat × Nat) → Option (List Token × List (Nat × Nat))
    | [] => none
    | (c, o) :: outer =>
        if column < c then dedent (count + 1) outer
        else if column = c ∧ other = o then
          some (List.replicate count .dedent, (c, o) :: outer)
        else none

/-- The closing bracket for an opening one. -/
def closer? (symbol : String) : Option String :=
  if symbol = "(" then some ")"
  else if symbol = "[" then some "]"
  else if symbol = "\x7b" then some "\x7d"
  else none

/-- The deepest nesting of brackets. -/
def maxBrackets : Nat := 200

/-- Scans the rest of a text. `levels` are the open indentation levels and `closers` the closing
brackets awaited, innermost first; `lineStart` tells that a line begins here. Every step but the
measuring of an indentation consumes a character, so twice the length of the text is fuel
enough. -/
def scanFrom : Nat → List (Nat × Nat) → List String → Bool → List Char → Option (List Token)
  | 0, _, _, _, _ => none
  | fuel + 1, levels, closers, true, cs => do
      let (column, other, rest) ← indentation 0 0 0 cs
      if rest.head? = some '#' ∨ rest.head? = some '\n' then
        match rest.dropWhile (· != '\n') with
        | [] => scanFrom fuel levels closers false []
        | _ :: rest => scanFrom fuel levels closers true rest
      else
        let (tokens, levels) ← relevel column other levels
        return tokens ++ (← scanFrom fuel levels closers false rest)
  | fuel + 1, levels, closers, false, cs =>
      match cs with
      | [] => if closers = [] then some [] else none
      | '\n' :: rest =>
          if closers = [] then do return .newline :: (← scanFrom fuel levels closers true rest)
          else scanFrom fuel levels closers false rest
      | '\\' :: rest =>
          match rest with
          | '\n' :: c :: rest => scanFrom fuel levels closers false (c :: rest)
          | _ => none
      | '#' :: rest => scanFrom fuel levels closers false (rest.dropWhile (· != '\n'))
      | c :: rest =>
          if c = ' ' ∨ c = '\t' ∨ c = '\x0c' then scanFrom fuel levels closers false rest
          else if isDigit c ∨ (c = '.' ∧ rest.head?.any isDigit) then do
            let (value, rest) ← numeral cs
            return .number value :: (← scanFrom fuel levels closers false rest)
          else if c = '\'' ∨ c = '"' then do
            let (token, rest) ← quotedText [] cs
            return token :: (← scanFrom fuel levels closers false rest)
          else if isWordChar c then do
            let (token, rest) ← wordToken cs
            return token :: (← scanFrom fuel levels closers false rest)
          else do
            let (symbol, rest) ← operator cs
            if let some close := closer? symbol then
              if maxBrackets ≤ closers.length then none
              return .op symbol :: (← scanFrom fuel levels (close :: closers) false rest)
            else if symbol = ")" ∨ symbol = "]" ∨ symbol = "\x7d" then
              match closers with
              | [] => none
              | close :: closers =>
                  if close = symbol then
                    return .op symbol :: (← scanFrom fuel levels closers false rest)
                  else none
            else return .op symbol :: (← scanFrom fuel levels closers false rest)

/-- The tokens of a text whose line ends are line feeds. -/
def scan (cs : List Char) : Option (List Token) :=
  scanFrom (2 * cs.length + 2) [(0, 0)] [] true cs

end Token

end TypedClients.Code
