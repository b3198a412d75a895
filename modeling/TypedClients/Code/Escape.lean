import TypedClients.Text.CharName
import TypedClients.Text.CodePoint

/-!
# Escapes in quoted text

What the characters between quotes denote. A backslash that starts no escape stands for itself; an
escape by number or by name that is cut short, or that names no code point, is refused.
-/
namespace TypedClients.Code

open TypedClients.Text

/-- The value of exactly `count` digits in base sixteen at the front, and the rest. -/
def hexDigits : Nat → Nat → List Char → Option (Nat × List Char)
  | 0, value, cs => some (value, cs)
  | _ + 1, _, [] => none
  | count + 1, value, c :: cs => do
      let d ← hexDigit? c
      hexDigits count (value * 16 + d) cs

/-- The value of an octal digit. -/
def octalDigit? (c : Char) : Option Nat :=
  if '0' ≤ c ∧ c ≤ '7' then some (c.toNat - '0'.toNat) else none

/-- The value of at most `count` octal digits at the front, and the rest. -/
def octalDigits : Nat → Nat → List Char → Nat × List Char
  | 0, value, cs => (value, cs)
  | _ + 1, value, [] => (value, [])
  | count + 1, value, c :: cs =>
      match octalDigit? c with
      | some d => octalDigits count (value * 8 + d) cs
      | none => (value, c :: cs)

/-- The character of an escape by a single letter. -/
def letterEscape? (c : Char) : Option Char :=
  match c with
  | '\\' => some '\\'
  | '\'' => some '\''
  | '"' => some '"'
  | 'a' => some (Char.ofNat 7)
  | 'b' => some (Char.ofNat 8)
  | 'f' => some (Char.ofNat 12)
  | 'n' => some '\n'
  | 'r' => some '\r'
  | 't' => some '\t'
  | 'v' => some (Char.ofNat 11)
  | _ => none

/-- The name in braces at the front, and the rest. -/
def bracedName? : List Char → Option (List Char × List Char)
  | '\x7b' :: cs =>
      match cs.dropWhile (· ≠ '\x7d') with
      | _ :: rest => some (cs.takeWhile (· ≠ '\x7d'), rest)
      | [] => none
  | _ => none

/-- Reads escapes in text; the first argument bounds the number of characters read. -/
def unescapeUpTo : Nat → List Char → Option (List CodePoint)
  | 0, _ => some []
  | _ + 1, [] => some []
  | _ + 1, ['\\'] => some [.char '\\']
  | n + 1, '\\' :: c :: cs =>
      if c = '\n' then unescapeUpTo n cs
      else if let some d := letterEscape? c then (unescapeUpTo n cs).map (.char d :: ·)
      else if (octalDigit? c).isSome then do
        let (value, rest) := octalDigits 3 0 (c :: cs)
        return .char (Char.ofNat value) :: (← unescapeUpTo n rest)
      else if c = 'N' then do
        let (name, rest) ← bracedName? cs
        let d ← charNamed? name
        return .char d :: (← unescapeUpTo n rest)
      else if let some count := width? c then do
        let (value, rest) ← hexDigits count 0 cs
        let point ← CodePoint.ofNat? value
        return point :: (← unescapeUpTo n rest)
      else (unescapeUpTo n cs).map (.char '\\' :: .char c :: ·)
  | n + 1, c :: cs => (unescapeUpTo n cs).map (.char c :: ·)
where
  width? (c : Char) : Option Nat :=
    if c = 'x' then some 2 else if c = 'u' then some 4 else if c = 'U' then some 8 else none

/-- The text that characters between quotes denote. -/
def unescape (cs : List Char) : Option (List CodePoint) := unescapeUpTo cs.length cs

/-- Reads escapes in a sequence of bytes; the first argument bounds the characters read. -/
def unescapeBytesUpTo : Nat → List Char → Option (List UInt8)
  | 0, _ => some []
  | _ + 1, [] => some []
  | n + 1, '\\' :: c :: cs =>
      if c = '\n' then unescapeBytesUpTo n cs
      else if let some d := letterEscape? c then
        (unescapeBytesUpTo n cs).map (UInt8.ofNat d.toNat :: ·)
      else if (octalDigit? c).isSome then do
        let (value, rest) := octalDigits 3 0 (c :: cs)
        return UInt8.ofNat value :: (← unescapeBytesUpTo n rest)
      else if c = 'x' then do
        let (value, rest) ← hexDigits 2 0 cs
        return UInt8.ofNat value :: (← unescapeBytesUpTo n rest)
      else (unescapeBytesUpTo n cs).map fun bs => byte '\\' :: byte c :: bs
  | n + 1, c :: cs => (unescapeBytesUpTo n cs).map (byte c :: ·)
where
  byte (c : Char) : UInt8 := UInt8.ofNat c.toNat

/-- The bytes that ASCII characters between quotes denote. -/
def unescapeBytes (raw : Bool) (cs : List Char) : Option (List UInt8) :=
  if cs.any (128 ≤ ·.toNat) then none
  else if raw then some (cs.map fun c => UInt8.ofNat c.toNat)
  else unescapeBytesUpTo cs.length cs

/-- Text as written or with its escapes read. -/
def textOf (raw : Bool) (cs : List Char) : Option (List CodePoint) :=
  if raw then some (cs.map .char) else unescape cs

end TypedClients.Code
