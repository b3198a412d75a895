/-!
# Tabulated sets of characters

A set of code points is stored by its boundaries, the ascending code points at which membership
changes, and a table by its ascending keys. Both are written as text: numbers in base sixteen, each
key or boundary as the distance from the one before it.
-/
namespace TypedClients.Text

/-- The value of a digit in base sixteen. -/
def hexDigit? (c : Char) : Option Nat :=
  if '0' ≤ c ∧ c ≤ '9' then some (c.toNat - '0'.toNat)
  else if 'a' ≤ c ∧ c ≤ 'f' then some (c.toNat - 'a'.toNat + 10)
  else if 'A' ≤ c ∧ c ≤ 'F' then some (c.toNat - 'A'.toNat + 10)
  else none

/-- The value of a numeral in base sixteen; characters that are no digits count nothing. -/
def hexValue (cs : List Char) : Nat :=
  cs.foldl (fun n c => match hexDigit? c with
    | some d => n * 16 + d
    | none => n) 0

/-- The running sums of a list of distances. -/
def runningSums : Nat → List Nat → List Nat
  | _, [] => []
  | start, d :: ds => (start + d) :: runningSums (start + d) ds

/-- Splits at blanks and line ends; `word` holds the characters of the word that is open, last
first. -/
def wordsFrom (word : List Char) : List Char → List (List Char)
  | [] => if word.isEmpty then [] else [word.reverse]
  | c :: cs =>
      if c = ' ' ∨ c = '\n' then
        if word.isEmpty then wordsFrom [] cs else word.reverse :: wordsFrom [] cs
      else wordsFrom (c :: word) cs

/-- The words of a text, separated by blanks and line ends. -/
def words (text : String) : List (List Char) := wordsFrom [] text.toList

/-- The number of leading entries in `[low, high)` whose key is at most `x`, counted from 0. -/
def countUpTo (key : Nat → Nat) (x low high : Nat) : Nat :=
  if h : low < high then
    let middle := (low + high) / 2
    if key middle ≤ x then countUpTo key x (middle + 1) high else countUpTo key x low middle
  else low
termination_by high - low
decreasing_by all_goals omega

/-- A set of characters, as the ascending code points at which membership changes. -/
structure CharSet where
  boundaries : Array Nat

namespace CharSet

/-- The set whose boundaries lie at the given distances from each other. -/
def ofDistances (text : String) : CharSet :=
  ⟨(runningSums 0 ((words text).map hexValue)).toArray⟩

/-- A character belongs when an odd number of boundaries lie at or before it. -/
def contains (s : CharSet) (c : Char) : Bool :=
  countUpTo (fun i => s.boundaries[i]?.getD 0) c.toNat 0 s.boundaries.size % 2 == 1

end CharSet

/-- A finite map on natural numbers, as an array with ascending keys. -/
structure CodeTable (α : Type) where
  entries : Array (Nat × α)

namespace CodeTable

/-- The value stored at a key. -/
def find? {α : Type} (t : CodeTable α) (key : Nat) : Option α :=
  let i := countUpTo (fun i => (t.entries[i]?.map Prod.fst).getD 0) key 0 t.entries.size
  match t.entries[i - 1]? with
  | some (k, value) => if k = key then some value else none
  | none => none

end CodeTable

end TypedClients.Text
