/-!
# UTF-8

Text as bytes and back. Bytes that are no text are refused with the first sequence that cannot be
the start of a character, or that is left unfinished.
-/
namespace TypedClients.Text

/-- Why bytes are no text. -/
structure DecodeError where
  /-- The bytes at fault. -/
  bytes : List UInt8
  /-- The position of the first of them. -/
  position : Nat
  reason : String
  deriving DecidableEq, Repr, Inhabited

/-- The bytes of a text. -/
def encodeUtf8 (cs : List Char) : List UInt8 := cs.flatMap String.utf8EncodeChar

/-- A character whose first bytes have been read. -/
structure OpenChar where
  /-- The bytes read, last first. -/
  bytes : List UInt8
  /-- The bits that they contribute. -/
  value : Nat
  /-- The number of bytes that are missing. -/
  owed : Nat
  /-- The least and the greatest byte that may follow. -/
  low : Nat
  high : Nat
  deriving DecidableEq, Repr

/-- The character that a byte opens. The bounds on the byte after it keep out longer forms than
needed, surrogates, and numbers that are no code points. -/
def OpenChar.start? (b : UInt8) : Option OpenChar :=
  let n := b.toNat
  if 0xc2 ≤ n ∧ n ≤ 0xdf then some ⟨[b], n - 0xc0, 1, 0x80, 0xbf⟩
  else if n = 0xe0 then some ⟨[b], 0, 2, 0xa0, 0xbf⟩
  else if n = 0xed then some ⟨[b], 0xd, 2, 0x80, 0x9f⟩
  else if 0xe1 ≤ n ∧ n ≤ 0xef then some ⟨[b], n - 0xe0, 2, 0x80, 0xbf⟩
  else if n = 0xf0 then some ⟨[b], 0, 3, 0x90, 0xbf⟩
  else if 0xf1 ≤ n ∧ n ≤ 0xf3 then some ⟨[b], n - 0xf0, 3, 0x80, 0xbf⟩
  else if n = 0xf4 then some ⟨[b], 4, 3, 0x80, 0x8f⟩
  else none

/-- The error for a character that does not go on. -/
def OpenChar.error (o : OpenChar) (position : Nat) (reason : String) : DecodeError :=
  ⟨o.bytes.reverse, position - o.bytes.length, reason⟩

/-- Reads the bytes after an open character, if there is one; `position` is that of the next byte. -/
def decodeFrom (position : Nat) : Option OpenChar → List UInt8 → Except DecodeError (List Char)
  | none, [] => .ok []
  | some o, [] => .error (o.error position "unexpected end of data")
  | none, b :: bs =>
      if b.toNat < 0x80 then
        return Char.ofNat b.toNat :: (← decodeFrom (position + 1) none bs)
      else match OpenChar.start? b with
        | none => .error ⟨[b], position, "invalid start byte"⟩
        | some o => decodeFrom (position + 1) (some o) bs
  | some o, b :: bs =>
      if o.low ≤ b.toNat ∧ b.toNat ≤ o.high then
        let value := o.value * 64 + (b.toNat - 0x80)
        if o.owed = 1 then return Char.ofNat value :: (← decodeFrom (position + 1) none bs)
        else decodeFrom (position + 1) (some ⟨b :: o.bytes, value, o.owed - 1, 0x80, 0xbf⟩) bs
      else .error (o.error position "invalid continuation byte")

/-- The text of bytes. -/
def decodeUtf8 (bytes : List UInt8) : Except DecodeError (List Char) := decodeFrom 0 none bytes

end TypedClients.Text
