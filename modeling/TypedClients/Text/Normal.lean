import TypedClients.Text.Normal.Table

/-!
# Normal forms of text

`decompose` is the compatibility decomposition with combining marks in canonical order, and
`normalise` is that text composed again. ASCII text is its own normal form in both senses.
-/
namespace TypedClients.Text

/-- The canonical combining class; zero for every character that does not combine. -/
def combiningClass (c : Char) : Nat :=
  if c.toNat < 0x300 then 0
  else
    let i := countUpTo (fun i => (combiningTable[i]?.map Prod.fst).getD 0) c.toNat 0
      combiningTable.size
    match combiningTable[i - 1]? with
    | some (start, length, k) => if start ≤ c.toNat ∧ c.toNat < start + length then k else 0
    | none => 0

/-- A Hangul syllable is a leading consonant, a vowel, and perhaps a trailing consonant. -/
def decomposeHangul (index : Nat) : List Char :=
  let lead := Char.ofNat (0x1100 + index / 588)
  let vowel := Char.ofNat (0x1161 + index % 588 / 28)
  if index % 28 = 0 then [lead, vowel] else [lead, vowel, Char.ofNat (0x11a7 + index % 28)]

/-- The full compatibility decomposition of one character. -/
def decomposeChar (c : Char) : List Char :=
  if c.toNat < 0xa0 then [c]
  else if 0xac00 ≤ c.toNat ∧ c.toNat ≤ 0xd7a3 then decomposeHangul (c.toNat - 0xac00)
  else (decompositions.find? c.toNat).getD [c]

/-- Puts a mark before the marks of its own or a higher class that follow it. -/
def insertMark (mark : Char) : List Char → List Char
  | [] => [mark]
  | c :: cs =>
      if combiningClass c ≠ 0 ∧ combiningClass c < combiningClass mark
      then c :: insertMark mark cs
      else mark :: c :: cs

/-- Sorts each run of combining marks by class and keeps marks of one class in order. -/
def orderMarks : List Char → List Char
  | [] => []
  | c :: cs => if combiningClass c = 0 then c :: orderMarks cs else insertMark c (orderMarks cs)

/-- The compatibility decomposition of a text. -/
def decompose (cs : List Char) : List Char := orderMarks (cs.flatMap decomposeChar)

/-- The character a pair composes to. -/
def composePair? (first second : Char) : Option Char :=
  let l := first.toNat
  let v := second.toNat
  if 0x1100 ≤ l ∧ l < 0x1113 ∧ 0x1161 ≤ v ∧ v < 0x1176 then
    some (Char.ofNat (0xac00 + (l - 0x1100) * 588 + (v - 0x1161) * 28))
  else if 0xac00 ≤ l ∧ l ≤ 0xd7a3 ∧ (l - 0xac00) % 28 = 0 ∧ 0x11a7 < v ∧ v < 0x11c3 then
    some (Char.ofNat (l + (v - 0x11a7)))
  else compositions.find? (pairKey l v)

/-- Composes a starter with the marks after it. A mark is blocked from the starter by a mark of
the same or a higher class between them; `skipped` holds the marks passed over, last first. -/
def composeFrom (starter : Char) (skipped : List Char) : List Char → List Char
  | [] => starter :: skipped.reverse
  | c :: cs =>
      let blocked := match skipped with
        | [] => false
        | s :: _ => combiningClass c ≤ combiningClass s
      match if blocked then none else composePair? starter c with
      | some composite => composeFrom composite skipped cs
      | none =>
          if combiningClass c = 0 then starter :: (skipped.reverse ++ composeFrom c [] cs)
          else composeFrom starter (c :: skipped) cs

/-- Composes a decomposed text; marks before the first starter stay as they are. -/
def compose : List Char → List Char
  | [] => []
  | c :: cs => if combiningClass c = 0 then composeFrom c [] cs else c :: compose cs

/-- The composed compatibility normal form. -/
def normalise (cs : List Char) : List Char :=
  if cs.all (·.toNat < 128) then cs else compose (decompose cs)

/-- The text without its combining marks. -/
def removeAccents (cs : List Char) : List Char :=
  (decompose cs).filter fun c => combiningClass c == 0

theorem normalise_of_ascii {cs : List Char} (h : ∀ c ∈ cs, c.toNat < 128) :
    normalise cs = cs := by
  have : cs.all (·.toNat < 128) = true := by simpa using h
  simp [normalise, this]

theorem orderMarks_of_ascii {cs : List Char} (h : ∀ c ∈ cs, c.toNat < 128) :
    orderMarks cs = cs := by
  induction cs with
  | nil => rfl
  | cons c cs ih =>
      have hc : combiningClass c = 0 := by
        have := h c (by simp); simp [combiningClass]; omega
      simp [orderMarks, hc, ih fun d hd => h d (by simp [hd])]

theorem decompose_of_ascii {cs : List Char} (h : ∀ c ∈ cs, c.toNat < 128) :
    decompose cs = cs := by
  have : cs.flatMap decomposeChar = cs := by
    induction cs with
    | nil => rfl
    | cons c cs ih =>
        have hc := h c (by simp)
        simp [List.flatMap_cons, ih fun d hd => h d (by simp [hd]), decomposeChar,
          show c.toNat < 0xa0 by omega]
  rw [decompose, this, orderMarks_of_ascii h]

end TypedClients.Text
