/-!
# Bytes as text in base 64

Four digits of six bits each stand for three bytes. A last group may have two or three digits, and
equals signs in the place of the others. Characters that are no digits are skipped.
-/
namespace TypedClients.Text

/-- The value of a digit in base 64. -/
def base64Digit? (c : Char) : Option Nat :=
  if 'A' ≤ c ∧ c ≤ 'Z' then some (c.toNat - 'A'.toNat)
  else if 'a' ≤ c ∧ c ≤ 'z' then some (c.toNat - 'a'.toNat + 26)
  else if '0' ≤ c ∧ c ≤ '9' then some (c.toNat - '0'.toNat + 52)
  else if c = '+' then some 62
  else if c = '/' then some 63
  else none

/-- The bytes of the text. `count` digits of the group have been read, and `pads` equals signs since
the last of them; `bits` are those bits of the digits that belong to the next byte. The text ends
where a group is filled up, and it may not end within a group. -/
def base64From (count pads bits : Nat) : List Char → Option (List UInt8)
  | [] => if count = 0 then some [] else none
  | c :: cs =>
      if c = '=' then
        if 2 ≤ count then
          if 4 ≤ count + pads + 1 then some [] else base64From count (pads + 1) bits cs
        else base64From count pads bits cs
      else match base64Digit? c with
        | none => base64From count pads bits cs
        | some d =>
            let byte (keep : Nat) := UInt8.ofNat (bits * Nat.pow 2 (6 - keep) + d / Nat.pow 2 keep)
            match count with
            | 0 => base64From 1 0 d cs
            | 1 => (base64From 2 0 (d % 16) cs).map (byte 4 :: ·)
            | 2 => (base64From 3 0 (d % 4) cs).map (byte 2 :: ·)
            | _ => (base64From 0 0 0 cs).map (byte 0 :: ·)

/-- The bytes that a text in base 64 stands for. -/
def decodeBase64 (cs : List Char) : Option (List UInt8) := base64From 0 0 0 cs

example : decodeBase64 "aGVsbG8=".toList = some [104, 101, 108, 108, 111] := by decide +kernel

example : decodeBase64 "aGVsbG8".toList = none := by decide +kernel

end TypedClients.Text
