import TypedClients.Text.Quoted

/-!
# Code points

What quotes denote is a sequence of code points. A surrogate is a code point without a character: it
cannot stand in a source itself, but an escape by number denotes one. Hardly any text has one, so a
text without surrogates is kept as its characters, and one with surrogates as a `BrokenText`.
-/
namespace TypedClients.Text

/-- A code point. Surrogates are counted from the first one. -/
inductive CodePoint where
  | char (c : Char)
  | surrogate (index : Fin 0x800)
  deriving DecidableEq, Repr, Inhabited

/-- A text with a surrogate; `before` are the characters in front of the first one. -/
structure BrokenText where
  before : List Char
  surrogate : Fin 0x800
  after : List CodePoint
  deriving DecidableEq, Repr, Inhabited

namespace CodePoint

/-- The number of the first surrogate. -/
def firstSurrogate : Nat := 0xd800

/-- The number of a code point. -/
def number : CodePoint → Nat
  | char c => c.toNat
  | surrogate index => firstSurrogate + index

/-- The code point of a number that is one. -/
def ofNat? (n : Nat) : Option CodePoint :=
  if n.isValidChar then some (.char (Char.ofNat n))
  else if h : firstSurrogate ≤ n ∧ n - firstSurrogate < 0x800 then
    some (.surrogate ⟨n - firstSurrogate, h.2⟩)
  else none

/-- The characters of a text without surrogates, or the text that has one. -/
def chars : List CodePoint → Except BrokenText (List Char)
  | [] => .ok []
  | .surrogate index :: points => .error ⟨[], index, points⟩
  | .char c :: points =>
      match chars points with
      | .ok cs => .ok (c :: cs)
      | .error t => .error { t with before := c :: t.before }

/-- The code points of a text. -/
def ofString (s : String) : List CodePoint := s.toList.map .char

/-! ### Quotes -/

/-- A code point between quotes. A surrogate is not printable. -/
def quoted (quote : Char) : CodePoint → List Char
  | char c => quotedChar quote c
  | surrogate index => numericEscape (surrogate index).number

/-- The quote for a text. -/
def quoteFor (points : List CodePoint) : Char :=
  Text.quoteFor (points.filterMap fun
    | char c => some c
    | surrogate _ => none)

/-- The text between its quotes. -/
def quotedBody (points : List CodePoint) : List Char := points.flatMap (quoted (quoteFor points))

/-- The quoted form of a text. -/
def quotedText (points : List CodePoint) : List Char :=
  let quote := quoteFor points
  quote :: (quotedBody points ++ [quote])

/-! ### Characters alone -/

theorem ofString_append (s t : String) : ofString (s ++ t) = ofString s ++ ofString t := by
  simp [ofString]

@[simp] theorem chars_map_char (cs : List Char) : chars (cs.map char) = .ok cs := by
  induction cs with
  | nil => rfl
  | cons c cs ih => rw [List.map_cons, chars, ih]

theorem eq_map_char_of_chars {points : List CodePoint} {cs : List Char}
    (h : chars points = .ok cs) : points = cs.map char := by
  induction points generalizing cs with
  | nil =>
      cases h
      rfl
  | cons p points ih =>
      cases p with
      | char c =>
          rw [chars] at h
          split at h <;> cases h
          rename_i hrest
          rw [ih hrest, List.map_cons]
      | surrogate => cases h

@[simp] theorem ofString_ofList (cs : List Char) : ofString (String.ofList cs) = cs.map char := by
  rw [ofString, String.toList_ofList]

@[simp] theorem quoteFor_map_char (cs : List Char) : quoteFor (cs.map char) = Text.quoteFor cs := by
  rw [quoteFor, List.filterMap_map]
  exact congrArg Text.quoteFor (List.filterMap_some)

@[simp] theorem quotedBody_map_char (cs : List Char) :
    quotedBody (cs.map char) = Text.quotedBody cs := by
  rw [quotedBody, quoteFor_map_char, List.flatMap_map]
  rfl

@[simp] theorem quotedText_map_char (cs : List Char) :
    quotedText (cs.map char) = Text.quoted cs := by
  rw [quotedText, quoteFor_map_char, quotedBody_map_char, Text.quoted]

/-! ### Numbers -/

theorem number_lt (p : CodePoint) : p.number < 0x110000 := by
  cases p with
  | char c =>
      rcases c.valid with h | h
      · exact Nat.lt_trans h (by decide)
      · exact h.2
  | surrogate index =>
      simp only [number, firstSurrogate]
      omega

theorem ofNat?_number (p : CodePoint) : ofNat? p.number = some p := by
  cases p with
  | char c =>
      have hvalid : c.toNat.isValidChar := c.valid
      rw [number, ofNat?, if_pos hvalid, Char.ofNat_toNat]
  | surrogate index =>
      have hvalid : ¬ (firstSurrogate + index).isValidChar := by
        simp only [Nat.isValidChar, firstSurrogate]
        omega
      rw [number, ofNat?, if_neg hvalid, dif_pos ⟨by omega, by omega⟩]
      simp

end CodePoint

namespace BrokenText

/-- The code points of the text. -/
def points (t : BrokenText) : List CodePoint :=
  t.before.map .char ++ .surrogate t.surrogate :: t.after

/-- The text with characters in front of it. -/
def prepend (cs : List Char) (t : BrokenText) : BrokenText := { t with before := cs ++ t.before }

/-- The text with further code points behind it. -/
def append (t : BrokenText) (points : List CodePoint) : BrokenText :=
  { t with after := t.after ++ points }

@[simp] theorem prepend_nil (t : BrokenText) : t.prepend [] = t := rfl

theorem prepend_append (cs ds : List Char) (t : BrokenText) :
    t.prepend (cs ++ ds) = (t.prepend ds).prepend cs := by
  simp [prepend]

theorem points_prepend (cs : List Char) (t : BrokenText) :
    (t.prepend cs).points = cs.map .char ++ t.points := by
  simp [prepend, points]

theorem points_append (t : BrokenText) (points : List CodePoint) :
    (t.append points).points = t.points ++ points := by
  simp [append, BrokenText.points]

/-- The text is the broken one that its code points make. -/
@[simp] theorem chars_points (t : BrokenText) : CodePoint.chars t.points = .error t := by
  obtain ⟨before, index, after⟩ := t
  induction before with
  | nil => rfl
  | cons c cs ih =>
      simp only [points, List.map_cons, List.cons_append] at ih ⊢
      rw [CodePoint.chars, ih]

theorem eq_points_of_chars {points : List CodePoint} {t : BrokenText}
    (h : CodePoint.chars points = .error t) : points = t.points := by
  induction points generalizing t with
  | nil => cases h
  | cons p points ih =>
      cases p with
      | char c =>
          rw [CodePoint.chars] at h
          split at h <;> cases h
          rename_i hrest
          rw [ih hrest]
          rfl
      | surrogate index =>
          cases h
          rfl

end BrokenText

end TypedClients.Text
