import TypedClients.Text.Blank
import TypedClients.Text.CharName.Table

/-!
# Characters by name

A character is found by its name or a further name of it, whether in capitals or in small letters.
Most names are tabulated. Some end in the code point itself, and the names of unified ideographs and
of Hangul syllables, which are not tabulated, are taken in capitals only.
-/
namespace TypedClients.Text

/-! ### Tabulated names -/

/-- The small letter with the given place in the alphabet. -/
def smallLetter (place : Nat) : Char := Char.ofNat ('a'.toNat + place)

/-- The words that have a short form, each with that form. -/
def shortForms : List (List Char × List Char) :=
  ((words frequentWordText).zipIdx.map fun (word, i) => (word, [smallLetter i])) ++
    (words commonWordText).zipIdx.map fun (word, i) =>
      (word, [smallLetter (i / 26), smallLetter (i % 26)])

/-- The short form of a name in capitals. -/
def shortName (name : List Char) : List Char :=
  joinWith ['+'] ((splitOn ' ' name).map fun word => (shortForms.lookup word).getD word)

/-- The number of shared characters, which one digit or small letter stands for. -/
def sharedCount (c : Char) : Nat :=
  if c.isDigit then c.toNat - '0'.toNat else c.toNat - 'a'.toNat + 10

/-- The code point of a name in a table, given its short form; `point` and `last` are the code point
and the short form of the entry before. -/
def findShortName (name : List Char) : Nat → List Char → List (List Char) → Option Nat
  | _, _, [] => none
  | point, last, entry :: entries =>
      let (distance, shortened) :=
        if ':' ∈ entry then
          (hexValue (entry.takeWhile (· ≠ ':')), (entry.dropWhile (· ≠ ':')).drop 1)
        else (1, entry)
      match shortened with
      | [] => none
      | count :: added =>
          let next := last.take (sharedCount count) ++ added
          if next = name then some (point + distance)
          else findShortName name (point + distance) next entries

/-- The code point of a name in capitals that is in one of the tables. -/
def tabulatedName? (name : List Char) : Option Nat :=
  if '+' ∈ name then none
  else [charNameText, charAliasText].findSome? fun text =>
    findShortName (shortName name) 0 [] (words text)

/-! ### Names by rules -/

/-- The number that capital digits in base sixteen denote. -/
def capitalHex? (cs : List Char) : Option Nat :=
  if cs.all fun c => ('0' ≤ c ∧ c ≤ '9') ∨ ('A' ≤ c ∧ c ≤ 'F') then some (hexValue cs) else none

/-- The names of neighbouring characters that all have one stem, which the code point follows. -/
structure NumberedNames where
  stem : String
  first : Nat
  last : Nat

def numberedNames : List NumberedNames :=
  [⟨"CJK COMPATIBILITY IDEOGRAPH-", 0xf900, 0xfa6d⟩,
   ⟨"CJK COMPATIBILITY IDEOGRAPH-", 0xfa70, 0xfad9⟩,
   ⟨"CJK COMPATIBILITY IDEOGRAPH-", 0x2f800, 0x2fa1d⟩,
   ⟨"KHITAN SMALL SCRIPT CHARACTER-", 0x18b00, 0x18cd5⟩,
   ⟨"NUSHU CHARACTER-", 0x1b170, 0x1b2fb⟩]

def unifiedIdeographs : List NumberedNames :=
  [(0x3400, 0x4dbf), (0x4e00, 0x9fff), (0x20000, 0x2a6df), (0x2a700, 0x2b738), (0x2b740, 0x2b81d),
   (0x2b820, 0x2cea1), (0x2ceb0, 0x2ebe0), (0x30000, 0x3134a)].map fun (first, last) =>
    ⟨"CJK UNIFIED IDEOGRAPH-", first, last⟩

/-- The code point of a name with a stem; `accepted` are the spellings of code points allowed. -/
def NumberedNames.find? (accepted : List Char → Bool) (names : NumberedNames) (name : List Char) :
    Option Nat := do
  let digits ← names.stem.toList.isPrefixOf? name
  let point ← capitalHex? digits
  if accepted digits ∧ names.first ≤ point ∧ point ≤ names.last then some point else none

/-- The code point of a name in capitals that ends in the code point. -/
def numberedName? (name : List Char) : Option Nat :=
  numberedNames.findSome? (·.find? (·.head? != some '0') name)

/-- The code point of a unified ideograph; its number may have a zero in front that makes it five
digits long. -/
def unifiedIdeograph? (name : List Char) : Option Nat :=
  unifiedIdeographs.findSome? (·.find? (fun digits => digits.length = 4 ∨ digits.length = 5) name)

def hangulLeads : List String :=
  ["G", "GG", "N", "D", "DD", "R", "M", "B", "BB", "S", "SS", "", "J", "JJ", "C", "K", "T", "P",
   "H"]

def hangulVowels : List String :=
  ["A", "AE", "YA", "YAE", "EO", "E", "YEO", "YE", "O", "WA", "WAE", "OE", "YO", "U", "WEO", "WE",
   "WI", "YU", "EU", "YI", "I"]

def hangulTails : List String :=
  ["", "G", "GG", "GS", "N", "NJ", "NH", "D", "L", "LG", "LM", "LB", "LS", "LT", "LP", "LH", "M",
   "B", "BS", "S", "SS", "NG", "J", "C", "K", "T", "P", "H"]

/-- The place of the longest part at the front of a text, and the rest of the text. -/
def longestPart (parts : List String) (cs : List Char) : Option (Nat × List Char) :=
  (parts.zipIdx.filterMap fun (part, i) => (part.toList.isPrefixOf? cs).map (i, ·)).minOn?
    fun found => found.2.length

/-- The code point of a Hangul syllable. -/
def hangulSyllable? (name : List Char) : Option Nat := do
  let syllable ← "HANGUL SYLLABLE ".toList.isPrefixOf? name
  let (lead, rest) ← longestPart hangulLeads syllable
  let (vowel, rest) ← longestPart hangulVowels rest
  let (tail, rest) ← longestPart hangulTails rest
  if rest = [] then some (0xac00 + (lead * 21 + vowel) * 28 + tail) else none

/-- The character with the given name. -/
def charNamed? (name : List Char) : Option Char :=
  let capitals := name.map Char.toUpper
  (hangulSyllable? name <|> unifiedIdeograph? name <|> numberedName? capitals <|>
    tabulatedName? capitals).map Char.ofNat

end TypedClients.Text
