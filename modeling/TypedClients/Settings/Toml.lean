import TypedClients.Settings.Calendar
import TypedClients.Settings.Numeral

/-!
# Values in TOML

A document is a sequence of lines that build one mapping: keys with values, and headers that say
which table the keys after them belong to. What a line may still change is kept as marks on keys.
-/
namespace TypedClients.Settings.Toml

open TypedClients.Text

/-! ### Lexical parts -/

def isSpace (c : Char) : Bool := c == ' ' || c == '\t'

def skipSpace (cs : List Char) : List Char := cs.dropWhile isSpace

/-- A control character, which stands neither in texts nor in comments. -/
def isControl (c : Char) : Bool := (c.toNat < 32 && c != '\t') || c.toNat == 127

/-- The rest of a line after a comment, if there is one. -/
def skipComment? (cs : List Char) : Option (List Char) :=
  match cs with
  | '#' :: cs =>
      if (cs.takeWhile (· != '\n')).any isControl then none else some (cs.dropWhile (· != '\n'))
  | cs => some cs

/-- The rest after blanks, line ends and comments; the first argument bounds their number. -/
def skipLines? : Nat → List Char → Option (List Char)
  | 0, cs => some cs
  | n + 1, cs => do
      let cs := cs.dropWhile fun c => isSpace c || c == '\n'
      match cs with
      | '#' :: _ => skipLines? n (← skipComment? cs)
      | cs => return cs

/-- The character of a number; half of a pair is none. -/
def charOf? (n : Nat) : Option Char :=
  if n < 0xd800 ∨ (0xe000 ≤ n ∧ n < 0x110000) then some (Char.ofNat n) else none

/-- The character that a number of the given length denotes. -/
def numberedChar? (length : Nat) (cs : List Char) : Option (Char × List Char) := do
  guard (length ≤ cs.length)
  let c ← charOf? (← valueInBase? 16 (cs.take length))
  return (c, cs.drop length)

/-- What an escape stands for, after its backslash. -/
def escaped? : List Char → Option (Char × List Char)
  | 'b' :: cs => some ('\x08', cs)
  | 't' :: cs => some ('\t', cs)
  | 'n' :: cs => some ('\n', cs)
  | 'f' :: cs => some ('\x0c', cs)
  | 'r' :: cs => some ('\r', cs)
  | '"' :: cs => some ('"', cs)
  | '\\' :: cs => some ('\\', cs)
  | 'u' :: cs => numberedChar? 4 cs
  | 'U' :: cs => numberedChar? 8 cs
  | _ => none

/-- The text up to the closing quote on the same line. -/
def basicText : Nat → List Char → Option (List Char × List Char)
  | 0, _ | _, [] => none
  | _, '"' :: cs => some ([], cs)
  | n + 1, '\\' :: cs => do
      let (c, cs) ← escaped? cs
      let (text, rest) ← basicText n cs
      return (c :: text, rest)
  | n + 1, c :: cs => do
      guard (! isControl c)
      let (text, rest) ← basicText n cs
      return (c :: text, rest)

/-- The text up to the closing apostrophe on the same line. -/
def literalText (cs : List Char) : Option (List Char × List Char) :=
  let text := cs.takeWhile (· != '\'')
  match cs.dropWhile (· != '\'') with
  | _ :: rest => if text.any isControl then none else some (text, rest)
  | [] => none

/-- The rest after an escaped line end and the blanks and line ends that follow it. -/
def joinedLine? (cs : List Char) : Option (List Char) :=
  match skipSpace cs with
  | [] => some []
  | '\n' :: cs => some (cs.dropWhile fun c => isSpace c || c == '\n')
  | _ => none

/-- Up to two quotes that stand right before the closing ones. -/
def quotesAtEnd (quote : Char) (cs : List Char) : List Char × List Char :=
  let extra := (cs.takeWhile (· == quote)).take 2
  (extra, cs.drop extra.length)

/-- The text up to three closing quotes. -/
def multilineBasic : Nat → List Char → Option (List Char × List Char)
  | 0, _ | _, [] => none
  | _, '"' :: '"' :: '"' :: cs => some (quotesAtEnd '"' cs)
  | n + 1, '\\' :: c :: cs =>
      if c = ' ' ∨ c = '\t' ∨ c = '\n' then do multilineBasic n (← joinedLine? (c :: cs))
      else do
        let (e, cs) ← escaped? (c :: cs)
        let (text, rest) ← multilineBasic n cs
        return (e :: text, rest)
  | n + 1, c :: cs => do
      guard ((! isControl c || c == '\n') && c != '\\')
      let (text, rest) ← multilineBasic n cs
      return (c :: text, rest)

/-- The text up to three closing apostrophes. -/
def multilineLiteral : List Char → Option (List Char × List Char)
  | [] => none
  | '\'' :: '\'' :: '\'' :: cs => some (quotesAtEnd '\'' cs)
  | c :: cs => do
      guard (! isControl c || c == '\n')
      let (text, rest) ← multilineLiteral cs
      return (c :: text, rest)

/-- A line end right after the opening quotes does not count. -/
def dropFirstEnd : List Char → List Char
  | '\n' :: cs => cs
  | cs => cs

/-! ### Keys -/

def isBareKeyChar (c : Char) : Bool := isPlainNameChar c || c == '-'

def keyPart? (cs : List Char) : Option (String × List Char) :=
  match cs with
  | '"' :: rest => (basicText (rest.length + 1) rest).map fun (t, r) => (String.ofList t, r)
  | '\'' :: rest => (literalText rest).map fun (t, r) => (String.ofList t, r)
  | cs => match cs.takeWhile isBareKeyChar with
      | [] => none
      | part => some (String.ofList part, cs.dropWhile isBareKeyChar)

/-- A key: parts with dots between them. -/
def key? : Nat → List Char → Option (List String × List Char)
  | 0, _ => none
  | n + 1, cs => do
      let (part, cs) ← keyPart? cs
      match skipSpace cs with
      | '.' :: cs =>
          let (parts, cs) ← key? n (skipSpace cs)
          return (part :: parts, cs)
      | cs => return ([part], cs)

/-! ### Numbers and dates -/

/-- Digits in groups with single underscores between them, and what follows. -/
def grouped? (isDigit : Char → Bool) : List Char → Option (List Char × List Char)
  | [] => none
  | c :: cs =>
      if ! isDigit c then none
      else match cs with
        | '_' :: rest =>
            match grouped? isDigit rest with
            | some (ds, rest) => some (c :: ds, rest)
            | none => some ([c], cs)
        | cs =>
            match grouped? isDigit cs with
            | some (ds, rest) => some (c :: ds, rest)
            | none => some ([c], cs)

/-- The decimal digits before a point: a zero stands alone. -/
def wholePart? : List Char → Option (List Char × List Char)
  | '0' :: cs => some (['0'], cs)
  | cs => grouped? isDigit cs

def number? (cs : List Char) : Option (Data × List Char) := do
  let inBase (base : Nat) (cs : List Char) : Option (Data × List Char) := do
    let (ds, rest) ← grouped? (fun c => (valueInBase? base [c]).isSome) cs
    return (.int (← valueInBase? base ds), rest)
  let decimal : Option (Data × List Char) := do
    let (negative, cs) := sign cs
    let (whole, cs) ← wholePart? cs
    let (part, cs) := match cs with
      | '.' :: rest => match grouped? isDigit rest with
          | some (ds, rest) => (some ds, rest)
          | none => (none, cs)
      | cs => (none, cs)
    let (power, cs) : Option Int × List Char := match cs with
      | e :: rest =>
          let (minus, rest) := sign rest
          match if e = 'e' ∨ e = 'E' then grouped? isDigit rest else none with
          | some (ds, rest) => (some (signed minus (decimalValue ds)), rest)
          | none => (none, cs)
      | [] => (none, cs)
    if part.isNone ∧ power.isNone then return (.int (signed negative (decimalValue whole)), cs)
    else return (floating negative whole (part.getD []) (power.getD 0), cs)
  match cs with
  | '0' :: 'x' :: rest => (inBase 16 rest) <|> decimal
  | '0' :: 'o' :: rest => (inBase 8 rest) <|> decimal
  | '0' :: 'b' :: rest => (inBase 2 rest) <|> decimal
  | _ => decimal

/-- The words for numbers that are not finite. -/
def unboundedWords : List String := ["inf", "nan", "+inf", "-inf", "+nan", "-nan"]

/-- A number of two digits in a range. -/
def twoDigits? (least greatest : Nat) (cs : List Char) : Option (Nat × List Char) :=
  let ds := cs.take 2
  let n := decimalValue ds
  if ds.length = 2 ∧ ds.all isDigit ∧ least ≤ n ∧ n ≤ greatest then some (n, cs.drop 2) else none

def char? (c : Char) : List Char → Option (List Char)
  | d :: cs => if c = d then some cs else none
  | [] => none

/-- The rest after a time of the day. -/
def time? (cs : List Char) : Option (List Char) := do
  let (_, cs) ← twoDigits? 0 23 cs
  let (_, cs) ← twoDigits? 0 59 (← char? ':' cs)
  let (_, cs) ← twoDigits? 0 59 (← char? ':' cs)
  match cs with
  | '.' :: rest => match digits? rest with
      | some (_, rest) => return rest
      | none => return cs
  | cs => return cs

/-- The rest after the offset of a time, if there is one. -/
def offset (cs : List Char) : List Char :=
  match cs with
  | 'Z' :: rest | 'z' :: rest => rest
  | c :: rest =>
      let numbered : Option (List Char) := do
        guard (c = '+' ∨ c = '-')
        let (_, rest) ← twoDigits? 0 23 rest
        let (_, rest) ← twoDigits? 0 59 (← char? ':' rest)
        return rest
      numbered.getD cs
  | [] => []

/-- A date, whether it exists, and what follows it. -/
def date? (cs : List Char) : Option (Bool × List Char) := do
  let year := cs.take 4
  guard (year.length = 4 ∧ year.all isDigit)
  let (month, cs) ← twoDigits? 1 12 (← char? '-' (cs.drop 4))
  let (day, cs) ← twoDigits? 1 31 (← char? '-' cs)
  let year := decimalValue year
  return (0 < year && day ≤ daysIn year month, cs)

/-- A date with or without a time, or a time alone. A date that does not exist is refused. -/
def moment? (cs : List Char) : Option (Option (List Char)) :=
  match date? cs with
  | some (isReal, rest) =>
      let after := match rest with
        | c :: timed =>
            if c = 'T' ∨ c = 't' ∨ c = ' ' then ((time? timed).map offset).getD rest else rest
        | [] => []
      some (if isReal then some after else none)
  | none => (time? cs).map some

/-! ### Tables -/

/-- What may no longer be done with a key. -/
inductive Mark where
  /-- A header or a dotted key has opened the table. -/
  | opened
  /-- The value is complete. -/
  | complete
  deriving DecidableEq, Repr

/-- Marks on keys; a deep one also holds for all keys below. -/
abbrev Marks := List (List String × Mark × Bool)

def Marks.has (ms : Marks) (key : List String) (mark : Mark) : Bool :=
  key ≠ [] && ms.any fun (k, m, deep) => m = mark && (k = key || (deep && k.isPrefixOf key))

/-- The marks without those on a key and below. -/
def Marks.free (ms : Marks) (key : List String) : Marks := ms.filter fun (k, _) => ! key.isPrefixOf k

abbrev Table := List (Data × Data)

/-- The table with a value under a key. -/
def setValue (key : String) (value : Data) : Table → Table
  | [] => [(.text key, value)]
  | (k, v) :: rest =>
      if k.text? = some key then (k, value) :: rest else (k, v) :: setValue key value rest

/-- Changes the table that a path leads to; missing tables are made. A list of tables stands for its
last one, where `throughLists`. -/
def changeAt (throughLists : Bool) (change : Table → Option Table) :
    List String → Table → Option Table
  | [], table => change table
  | key :: keys, table => do
      let inner ← match (Data.value? table key).getD (.mapping []) with
        | .mapping es => return setValue key (.mapping (← changeAt throughLists change keys es)) table
        | .list ds => if throughLists then some ds else none
        | _ => none
      match inner.getLast? with
      | some (.mapping es) =>
          let es ← changeAt throughLists change keys es
          return setValue key (.list (inner.dropLast ++ [.mapping es])) table
      | _ => none

/-- Puts a new value into a table. -/
def addValue (key : String) (value : Data) (table : Table) : Option Table :=
  if (Data.value? table key).isSome then none else some (setValue key value table)

/-- Puts a new table at the end of a list of tables. -/
def addTable (key : String) (table : Table) : Option Table :=
  match Data.value? table key with
  | none => some (setValue key (.list [.mapping []]) table)
  | some (.list ds) => some (setValue key (.list (ds ++ [.mapping []])) table)
  | some _ => none

/-- Whether a value is made of others. -/
def isCompound : Data → Bool
  | .mapping _ | .list _ => true
  | _ => false

/-! ### Values -/

mutual

/-- A value; the first argument bounds the depth and the number of its parts. -/
def value? : Nat → List Char → Option (Data × List Char)
  | 0, _ => none
  | n + 1, cs =>
      let text (t : Option (List Char × List Char)) : Option (Data × List Char) :=
        t.map fun (t, rest) => (.text (String.ofList t), rest)
      match cs with
      | '"' :: '"' :: '"' :: rest =>
          let rest := dropFirstEnd rest
          text (multilineBasic (rest.length + 1) rest)
      | '"' :: rest => text (basicText (rest.length + 1) rest)
      | '\'' :: '\'' :: '\'' :: rest => text (multilineLiteral (dropFirstEnd rest))
      | '\'' :: rest => text (literalText rest)
      | 't' :: 'r' :: 'u' :: 'e' :: rest => some (.bool true, rest)
      | 'f' :: 'a' :: 'l' :: 's' :: 'e' :: rest => some (.bool false, rest)
      | '[' :: rest => do
          let (ds, rest) ← items? n rest
          return (.list ds, rest)
      | '\x7b' :: rest => do
          let rest := skipSpace rest
          match rest with
          | '\x7d' :: rest => return (.mapping [], rest)
          | rest =>
              let (es, rest) ← entries? n [] [] rest
              return (.mapping es, rest)
      | cs =>
          match moment? cs with
          | some after => after.map fun rest => (.moment, rest)
          | none =>
              number? cs <|> unboundedWords.findSome? fun w =>
                if w.toList.isPrefixOf cs then some (.float none, cs.drop w.length) else none

/-- The items of a list up to its closing bracket. -/
def items? : Nat → List Char → Option (List Data × List Char)
  | 0, _ => none
  | n + 1, cs => do
      match ← skipLines? (cs.length + 1) cs with
      | ']' :: rest => return ([], rest)
      | cs =>
          let (d, rest) ← value? n cs
          match ← skipLines? (rest.length + 1) rest with
          | ']' :: rest => return ([d], rest)
          | ',' :: rest =>
              let (ds, rest) ← items? n rest
              return (d :: ds, rest)
          | _ => none

/-- The entries of a table on one line up to its closing brace. -/
def entries? : Nat → Marks → Table → List Char → Option (Table × List Char)
  | 0, _, _, _ => none
  | n + 1, marks, table, cs => do
      let (key, rest) ← key? (cs.length + 1) cs
      match skipSpace rest with
      | '=' :: rest =>
          let (d, rest) ← value? n (skipSpace rest)
          guard (! marks.has key .complete)
          let table ← changeAt false (addValue (key.getLast?.getD "") d) key.dropLast table
          match skipSpace rest with
          | '\x7d' :: rest => return (table, rest)
          | ',' :: rest =>
              let marks := if isCompound d then (key, .complete, true) :: marks else marks
              entries? n marks table (skipSpace rest)
          | _ => none
      | _ => none

end

/-! ### Documents -/

/-- A document that is being read. -/
structure Document where
  table : Table := []
  /-- The table that keys belong to. -/
  header : List String := []
  marks : Marks := []
  /-- Tables that dotted keys have opened since the last header. -/
  pending : List (List String) := []
  deriving Inhabited

namespace Document

/-- Closes the tables that dotted keys have opened. -/
def settle (d : Document) : Document :=
  { d with marks := d.pending.map (·, .opened, false) ++ d.marks, pending := [] }

/-- The rest after a closing text. -/
def closed? (ending : List Char) (cs : List Char) : Option (List Char) :=
  if ending.isPrefixOf cs then some (cs.drop ending.length) else none

/-- Reads the header of a table. -/
def openTable (d : Document) (cs : List Char) : Option (Document × List Char) := do
  let (key, rest) ← key? (cs.length + 1) (skipSpace cs)
  guard (! d.marks.has key .opened ∧ ! d.marks.has key .complete)
  let table ← changeAt true some key d.table
  return ({ d with table, header := key, marks := (key, .opened, false) :: d.marks },
    ← closed? [']'] rest)

/-- Reads the header of a table in a list of tables. -/
def openItem (d : Document) (cs : List Char) : Option (Document × List Char) := do
  let (key, rest) ← key? (cs.length + 1) (skipSpace cs)
  guard (! d.marks.has key .complete)
  let table ← changeAt true (addTable (key.getLast?.getD "")) key.dropLast d.table
  return ({ d with table, header := key, marks := (key, .opened, false) :: d.marks.free key },
    ← closed? [']', ']'] rest)

/-- Reads a key with its value. -/
def assign (d : Document) (cs : List Char) : Option (Document × List Char) := do
  let (key, rest) ← key? (cs.length + 1) cs
  let rest ← closed? ['='] (skipSpace rest)
  let (value, rest) ← value? (rest.length + 2) (skipSpace rest)
  let around := (List.range (key.length - 1)).map fun i => d.header ++ key.take (i + 1)
  guard (around.all fun k => ! d.marks.has k .opened)
  let parent := d.header ++ key.dropLast
  guard (! d.marks.has parent .complete)
  let table ← changeAt true (addValue (key.getLast?.getD "") value) parent d.table
  let marks :=
    if isCompound value then (d.header ++ key, .complete, true) :: d.marks else d.marks
  return ({ d with table, marks, pending := d.pending ++ around }, rest)

/-- Reads the lines of a document; the first argument bounds their number. -/
def readLines : Nat → Document → List Char → Option Document
  | 0, _, _ => none
  | n + 1, d, cs => do
      match skipSpace cs with
      | [] => return d
      | '\n' :: rest => readLines n d rest
      | c :: rest =>
          let (d, rest) ←
            if c = '#' then some (d, c :: rest)
            else if c = '[' then match rest with
              | '[' :: rest => d.settle.openItem rest
              | rest => d.settle.openTable rest
            else if isBareKeyChar c ∨ c = '"' ∨ c = '\'' then d.assign (c :: rest)
            else none
          match ← skipComment? (skipSpace rest) with
          | [] => return d
          | '\n' :: rest => readLines n d rest
          | _ => none

end Document

/-- The mapping that a text denotes. -/
def read (s : String) : Option Table :=
  let cs := s.toList
  (Document.readLines (cs.length + 2) {} cs).map Document.table

end TypedClients.Settings.Toml
