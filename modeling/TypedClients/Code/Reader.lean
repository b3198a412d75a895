import TypedClients.Code.Token

/-!
# Readers of token lists

A reader takes a value off the front of a token list or refuses. Where one alternative refuses, the
next one starts again at the same place.
-/
namespace TypedClients.Code

/-- Takes a value off the front of a token list, or refuses. -/
abbrev Reader (α : Type) : Type := StateT (List Token) Option α

namespace Reader

variable {α β : Type}

/-- Reads one token that stands for a value. -/
def token (f : Token → Option α) : Reader α
  | [] => none
  | t :: ts => (f t).map (·, ts)

/-- Reads the given token. -/
def exactly (t : Token) : Reader Unit := token fun u => if u = t then some () else none

/-- Reads an operator. -/
def op (symbol : String) : Reader Unit := exactly (.op symbol)

/-- Reads a reserved word. -/
def word (text : String) : Reader Unit := exactly (.word text)

/-- Reads a name that serves as a word in this place. -/
def softWord (text : String) : Reader Unit := exactly (.name text)

/-- Reads a name. -/
def anyName : Reader String := token fun
  | .name s => some s
  | _ => none

/-- Whether the next token is the given one; nothing is read. -/
def sees (t : Token) : Reader Bool := fun ts => some (ts.head? = some t, ts)

/-- Reads the given token if it comes next, and tells whether it did. -/
def accepts (t : Token) : Reader Bool
  | [] => some (false, [])
  | u :: ts => some (if u = t then (true, ts) else (false, u :: ts))

/-- Reads a value, or nothing where the reader refuses. -/
def optional? (p : Reader α) : Reader (Option α) := fun ts =>
  match p ts with
  | some (a, rest) => some (some a, rest)
  | none => some (none, ts)

/-- Reads as many values as it can, up to a bound. -/
def manyUpTo (p : Reader α) : Nat → Reader (List α)
  | 0 => pure []
  | n + 1 => fun ts =>
      match p ts with
      | none => some ([], ts)
      | some (a, rest) => (manyUpTo p n rest).map fun (as, rest) => (a :: as, rest)

/-- Reads as many values as it can. Each takes at least one token, so the number of tokens bounds
them. -/
def many (p : Reader α) : Reader (List α) := fun ts => manyUpTo p ts.length ts

/-- Reads one value or more. -/
def oneOrMore (p : Reader α) : Reader (List α) := do return (← p) :: (← many p)

/-- Values separated by commas, and whether a comma follows the last one. -/
structure Listed (α : Type) where
  first : α
  others : List α
  trailing : Bool

/-- All values of a list. -/
def Listed.all (l : Listed α) : List α := l.first :: l.others

/-- Whether the list is one value that no comma follows. -/
def Listed.isSingle (l : Listed α) : Bool := l.others.isEmpty && ! l.trailing

/-- Reads one value or more, separated by commas; a comma may follow the last one. -/
def listed (p : Reader α) : Reader (Listed α) := do
  let first ← p
  let others ← many (do op ","; p)
  let trailing ← accepts (.op ",")
  return ⟨first, others, trailing⟩

/-- Reads operands joined by operators that bind to the left. -/
def leftChain (operand : Reader α) (operator : Reader β) (combine : α → β → α → α) :
    Reader α := do
  let first ← operand
  let rest ← many (do return (← operator, ← operand))
  return rest.foldl (fun left (o, right) => combine left o right) first

/-- Reads a value to the very end of the tokens. -/
def run (p : Reader α) (ts : List Token) : Option α :=
  match p ts with
  | some (a, []) => some a
  | _ => none

end Reader

end TypedClients.Code
