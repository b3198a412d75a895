import TypedClients.Text.Binary64

/-!
# Values of configurations

What the formats of configurations have in common: scalars, lists, and mappings.
-/
namespace TypedClients.Settings

open TypedClients.Text

inductive Data where
  | null
  | bool (value : Bool)
  | int (value : Int)
  /-- A number of the floating kind; `whole` is its value if that is a whole number. -/
  | float (whole : Option Int)
  | text (value : String)
  | bytes (value : List UInt8)
  /-- A date or a time. -/
  | moment
  | list (items : List Data)
  /-- A set of values, in no order. -/
  | set (items : List Data)
  | mapping (entries : List (Data × Data))
  deriving Inhabited

namespace Data

/-- The value of a binary number, if it is a whole one. -/
def wholeOf : Binary64 → Option Int
  | .finite m e =>
      if 0 ≤ e then some (m * Nat.pow 2 e.natAbs)
      else if m % Nat.pow 2 e.natAbs = 0 then some (m / Nat.pow 2 e.natAbs : Nat) else none
  | .overflow => none

/-- The number with the given sign and absolute value. -/
def ofBinary (negative : Bool) (x : Binary64) : Data :=
  .float ((wholeOf x).map fun n => if negative then -n else n)

/-- The text of a value that is a text. -/
def text? : Data → Option String
  | text s => some s
  | _ => none

/-- Whether a value counts as nothing. -/
def isEmpty : Data → Bool
  | null | bool false | int 0 | float (some 0) | text "" | bytes [] | list [] | set []
  | mapping [] => true
  | _ => false

/-- The value under a text key. Of several it is the last. -/
def value? (entries : List (Data × Data)) (key : String) : Option Data :=
  entries.reverse.findSome? fun (k, v) => if k.text? = some key then some v else none

end Data

end TypedClients.Settings
