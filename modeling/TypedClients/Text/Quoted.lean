import TypedClients.Text.Blank
import TypedClients.Text.CharSet
import TypedClients.Text.Printable

/-!
# Quoted text

Text between quotes, with escapes for the characters that cannot stand as themselves. `quoted`
chooses the single quote unless the text holds single quotes and no double ones.
-/
namespace TypedClients.Text

/-- The numeral of `n` in base sixteen with at least `width` digits. -/
def hexPadded (width n : Nat) : List Char :=
  let digits := Nat.toDigits 16 n
  List.replicate (width - digits.length) '0' ++ digits

/-- The escape of a code point by number: two, four or eight digits. -/
def numericEscape (n : Nat) : List Char :=
  if n < 0x100 then '\\' :: 'x' :: hexPadded 2 n
  else if n < 0x10000 then '\\' :: 'u' :: hexPadded 4 n
  else '\\' :: 'U' :: hexPadded 8 n

/-- The escape of a character that is not shown as itself. -/
def escapeChar (c : Char) : List Char :=
  if c = '\\' then ['\\', '\\']
  else if c = '\n' then ['\\', 'n']
  else if c = '\t' then ['\\', 't']
  else if c = '\r' then ['\\', 'r']
  else numericEscape c.toNat

/-- A character between quotes: escaped if it is the quote, a backslash or not printable. -/
def quotedChar (quote c : Char) : List Char :=
  if c = quote then ['\\', c]
  else if c = '\\' || ! isPrintable c then escapeChar c
  else [c]

/-- The quote for a text. -/
def quoteFor (cs : List Char) : Char :=
  if cs.contains '\'' && ! cs.contains '"' then '"' else '\''

/-- The text between its quotes. -/
def quotedBody (cs : List Char) : List Char := cs.flatMap (quotedChar (quoteFor cs))

/-- The quoted form of a text. -/
def quoted (cs : List Char) : List Char :=
  let quote := quoteFor cs
  quote :: (quotedBody cs ++ [quote])

/-- The quoted form of a string. -/
def quotedString (s : String) : String := String.ofList (quoted s.toList)

/-- The quoted form of a sequence of bytes; everything outside printable ASCII is escaped. -/
def quotedBytes (bytes : List UInt8) : List Char :=
  let cs := bytes.map fun b => Char.ofNat b.toNat
  let quote := quoteFor cs
  let char (c : Char) : List Char :=
    if c = quote then ['\\', c]
    else if c = '\\' || c.toNat < 32 || 127 ≤ c.toNat then escapeChar c
    else [c]
  'b' :: quote :: (cs.flatMap char ++ [quote])

/-- The text between matching quotes at the two ends of a trimmed source text. Escapes are left as
they are written. -/
def literalText? (source : String) : Option String :=
  match trim source.toList with
  | [] => none
  | quote :: rest =>
      if (quote = '\'' ∨ quote = '"') ∧ rest.getLast? = some quote
      then some (String.ofList rest.dropLast) else none

/-- The string without an ending, if it has it. -/
def dropSuffix (s ending : String) : String :=
  if ending.toList.isSuffixOf s.toList then
    String.ofList (s.toList.take (s.length - ending.length))
  else s

end TypedClients.Text
