import TypedClients.Settings.Numeral

/-!
# Values in JSON

The grammar of JSON, with the words for numbers that are not finite.
-/
namespace TypedClients.Settings.Json

open TypedClients.Text

def isSpace (c : Char) : Bool := c == ' ' || c == '\t' || c == '\n' || c == '\r'

def skipSpace (cs : List Char) : List Char := cs.dropWhile isSpace

/-- The code unit that four digits denote. -/
def codeUnit? : List Char → Option (Nat × List Char)
  | a :: b :: c :: d :: cs => do
      let ds ← [a, b, c, d].mapM hexDigit?
      return (ds.foldl (fun n d => n * 16 + d) 0, cs)
  | _ => none

/-- The character that an escape with a number denotes. Half of a pair that stands alone is no
character and is replaced. -/
def numberedChar? (cs : List Char) : Option (Char × List Char) := do
  let (n, cs) ← codeUnit? cs
  let paired : Option (Char × List Char) := do
    guard (0xd800 ≤ n ∧ n < 0xdc00)
    match cs with
    | '\\' :: 'u' :: rest =>
        let (m, rest) ← codeUnit? rest
        guard (0xdc00 ≤ m ∧ m < 0xe000)
        return (Char.ofNat (0x10000 + (n - 0xd800) * 0x400 + (m - 0xdc00)), rest)
    | _ => none
  return paired.getD (if 0xd800 ≤ n ∧ n < 0xe000 then '\ufffd' else Char.ofNat n, cs)

/-- The character that a letter after a backslash stands for. -/
def escapedChar? : Char → Option Char
  | '"' => some '"'
  | '\\' => some '\\'
  | '/' => some '/'
  | 'b' => some '\x08'
  | 'f' => some '\x0c'
  | 'n' => some '\n'
  | 'r' => some '\r'
  | 't' => some '\t'
  | _ => none

/-- The text up to the closing quote; the first argument bounds its length. -/
def textBody : Nat → List Char → Option (List Char × List Char)
  | 0, _ | _, [] => none
  | _, '"' :: cs => some ([], cs)
  | n + 1, '\\' :: 'u' :: cs => do
      let (c, cs) ← numberedChar? cs
      let (text, rest) ← textBody n cs
      return (c :: text, rest)
  | n + 1, '\\' :: c :: cs => do
      let c ← escapedChar? c
      let (text, rest) ← textBody n cs
      return (c :: text, rest)
  | n + 1, c :: cs => do
      guard (0x20 ≤ c.toNat ∧ c ≠ '\\')
      let (text, rest) ← textBody n cs
      return (c :: text, rest)

/-- Digits after a point, if there are any. -/
def fraction (cs : List Char) : Option (List Char) × List Char :=
  match cs with
  | '.' :: cs' => match digits? cs' with
      | some (ds, rest) => (some ds, rest)
      | none => (none, cs)
  | _ => (none, cs)

/-- An exponent, if there is one. -/
def exponent (cs : List Char) : Option Int × List Char :=
  match cs with
  | e :: rest =>
      let (negative, rest) := sign rest
      match if e = 'e' ∨ e = 'E' then digits? rest else none with
      | some (ds, rest) => (some (signed negative (decimalValue ds)), rest)
      | none => (none, cs)
  | [] => (none, cs)

/-- A number after its sign. -/
def number? (negative : Bool) (cs : List Char) : Option (Data × List Char) := do
  let (whole, cs) ← match cs with
    | '0' :: cs => some (['0'], cs)
    | cs => digits? cs
  let (part, cs) := fraction cs
  let (power, cs) := exponent cs
  if part.isNone ∧ power.isNone then return (.int (signed negative (decimalValue whole)), cs)
  else return (floating negative whole (part.getD []) (power.getD 0), cs)

/-- The words that stand for values. -/
def words : List (String × Data) :=
  [("null", .null), ("true", .bool true), ("false", .bool false), ("NaN", .float none),
    ("Infinity", .float none), ("-Infinity", .float none)]

/-- A word and what follows it. -/
def word? (cs : List Char) : Option (Data × List Char) :=
  words.findSome? fun (w, d) =>
    if w.toList.isPrefixOf cs then some (d, cs.drop w.length) else none

mutual

/-- A value; the first argument bounds the depth and the number of its parts. -/
def value? : Nat → List Char → Option (Data × List Char)
  | 0, _ => none
  | n + 1, cs =>
      match cs with
      | '"' :: cs => (textBody (cs.length + 1) cs).map fun (t, rest) => (.text (String.ofList t), rest)
      | '[' :: cs => do
          let (ds, rest) ← items? n true (skipSpace cs)
          return (.list ds, rest)
      | '\x7b' :: cs => do
          let (es, rest) ← entries? n true (skipSpace cs)
          return (.mapping es, rest)
      | '-' :: cs => (word? ('-' :: cs)) <|> number? true cs
      | cs => (word? cs) <|> number? false cs

/-- The items of a list up to its closing bracket. -/
def items? : Nat → Bool → List Char → Option (List Data × List Char)
  | 0, _, _ => none
  | n + 1, first, cs =>
      match first, cs with
      | true, ']' :: cs => some ([], cs)
      | _, cs => do
          let (d, rest) ← value? n cs
          match skipSpace rest with
          | ',' :: rest =>
              let (ds, rest) ← items? n false (skipSpace rest)
              return (d :: ds, rest)
          | ']' :: rest => return ([d], rest)
          | _ => none

/-- The entries of a mapping up to its closing brace. -/
def entries? : Nat → Bool → List Char → Option (List (Data × Data) × List Char)
  | 0, _, _ => none
  | n + 1, first, cs =>
      match first, cs with
      | true, '\x7d' :: cs => some ([], cs)
      | _, '"' :: cs => do
          let (key, rest) ← textBody (cs.length + 1) cs
          match skipSpace rest with
          | ':' :: rest =>
              let (d, rest) ← value? n (skipSpace rest)
              let e := (Data.text (String.ofList key), d)
              match skipSpace rest with
              | ',' :: rest =>
                  let (es, rest) ← entries? n false (skipSpace rest)
                  return (e :: es, rest)
              | '\x7d' :: rest => return ([e], rest)
              | _ => none
          | _ => none
      | _, _ => none

end

/-- The value of a whole text. -/
def read (s : String) : Option Data := do
  let cs := s.toList
  let (d, rest) ← value? (cs.length + 2) (skipSpace cs)
  guard (skipSpace rest = [])
  return d

end TypedClients.Settings.Json
