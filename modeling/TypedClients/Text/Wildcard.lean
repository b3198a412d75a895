/-!
# Wildcard patterns

A pattern matches a whole text. `*` stands for any text, `?` for any character, and brackets for one
character of a set, or outside it after `!`. A set is written as characters and ranges; a range that
runs backwards is empty, and an open bracket without an end stands for itself.
-/
namespace TypedClients.Text

/-- A member of a set of characters. -/
inductive SetItem where
  | char (c : Char)
  | range (first last : Char)
  deriving DecidableEq, Repr, Inhabited

def SetItem.contains (c : Char) : SetItem → Bool
  | char d => c == d
  | range first last => decide (first ≤ c) && decide (c ≤ last)

inductive WildcardItem where
  | anyText
  | anyChar
  | char (c : Char)
  | oneOf (negated : Bool) (items : List SetItem)
  deriving DecidableEq, Repr, Inhabited

namespace Wildcard

/-- The text of a set and what follows its closing bracket. A bracket right at the start, or right
after `!`, belongs to the set. -/
def setText? (cs : List Char) : Option (List Char × List Char) :=
  let (mark, cs) := match cs with
    | '!' :: cs => (['!'], cs)
    | cs => ([], cs)
  let (bracket, cs) := match cs with
    | ']' :: cs => ([']'], cs)
    | cs => ([], cs)
  match cs.dropWhile (· != ']') with
  | [] => none
  | _ :: rest => some (mark ++ bracket ++ cs.takeWhile (· != ']'), rest)

/-- Splits a set at the hyphens that make ranges. The first `skip` characters of the rest belong to
the chunk that is open (last first) whatever they are. A hyphen at the very end makes no range. -/
def rangeChunks (chunk : List Char) : Nat → List Char → List (List Char)
  | _, [] => [chunk.reverse]
  | 0, ['-'] => [('-' :: chunk).reverse]
  | 0, '-' :: cs => chunk.reverse :: rangeChunks [] 2 cs
  | 0, c :: cs => rangeChunks (c :: chunk) 0 cs
  | skip + 1, c :: cs => rangeChunks (c :: chunk) skip cs

/-- Joins the chunks at either end of an empty range and leaves the ends out. -/
def dropEmptyRanges : List (List Char) → List (List Char)
  | [] => []
  | chunk :: chunks =>
      match dropEmptyRanges chunks with
      | (first :: next) :: rest =>
          match chunk.getLast? with
          | some last =>
              if first < last then (chunk.dropLast ++ next) :: rest
              else chunk :: (first :: next) :: rest
          | none => chunk :: (first :: next) :: rest
      | rest => chunk :: rest

/-- The members of a set: neighbouring chunks are joined by a range from the last character of one
to the first character of the other. -/
def setItems (chunk : List Char) : List (List Char) → List SetItem
  | [] => chunk.map .char
  | next :: chunks =>
      match chunk.getLast?, next with
      | some last, first :: more =>
          chunk.dropLast.map .char ++ .range last first :: setItems more chunks
      | _, _ => chunk.map .char ++ setItems next chunks

/-- The set that a text in brackets denotes. -/
def setOf (cs : List Char) : WildcardItem :=
  match dropEmptyRanges (rangeChunks [] (if cs.head? = some '!' then 2 else 1) cs) with
  | ('!' :: chunk) :: chunks => .oneOf true (setItems chunk chunks)
  | chunk :: chunks => .oneOf false (setItems chunk chunks)
  | [] => .oneOf false []

/-- The items of a pattern; the first argument bounds their number. -/
def itemsUpTo : Nat → List Char → List WildcardItem
  | 0, _ => []
  | _, [] => []
  | n + 1, '*' :: cs => .anyText :: itemsUpTo n cs
  | n + 1, '?' :: cs => .anyChar :: itemsUpTo n cs
  | n + 1, '[' :: cs =>
      match setText? cs with
      | some (set, rest) => setOf set :: itemsUpTo n rest
      | none => .char '[' :: itemsUpTo n cs
  | n + 1, c :: cs => .char c :: itemsUpTo n cs

def items (pattern : List Char) : List WildcardItem := itemsUpTo pattern.length pattern

/-- The text without its first characters, for every number of them. -/
def suffixes : List Char → List (List Char)
  | [] => [[]]
  | c :: cs => (c :: cs) :: suffixes cs

def matchItems : List WildcardItem → List Char → Bool
  | [], cs => cs.isEmpty
  | .anyText :: items, cs => (suffixes cs).any (matchItems items)
  | _ :: _, [] => false
  | .anyChar :: items, _ :: cs => matchItems items cs
  | .char d :: items, c :: cs => c == d && matchItems items cs
  | .oneOf negated set :: items, c :: cs =>
      (set.any (SetItem.contains c) != negated) && matchItems items cs

end Wildcard

/-- Whether a pattern matches a text. -/
def matchesWildcard (pattern text : String) : Bool :=
  Wildcard.matchItems (Wildcard.items pattern.toList) text.toList

end TypedClients.Text
