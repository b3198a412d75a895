/-!
# Blank characters

The white space of the source language and of path texts: the characters whose bidirectional
class or category makes them separators, ASCII controls included.
-/
namespace TypedClients.Text

/-- White space in the widest sense: separators, line ends and the ASCII separators. -/
def isBlank (c : Char) : Bool :=
  let n := c.toNat
  (9 ≤ n && n ≤ 13) || (28 ≤ n && n ≤ 32) || n == 0x85 || n == 0xa0 || n == 0x1680 ||
    (0x2000 ≤ n && n ≤ 0x200a) || n == 0x2028 || n == 0x2029 || n == 0x202f || n == 0x205f ||
    n == 0x3000

/-- Without the blank characters at both ends. -/
def trim (cs : List Char) : List Char :=
  ((cs.dropWhile isBlank).reverse.dropWhile isBlank).reverse

/-- Without the blank characters at the end. -/
def trimEnd (cs : List Char) : List Char :=
  (cs.reverse.dropWhile isBlank).reverse

/-- The parts between the separators, in order; there is always at least one. -/
def splitOn (separator : Char) : List Char → List (List Char)
  | [] => [[]]
  | c :: cs =>
      if c = separator then [] :: splitOn separator cs
      else match splitOn separator cs with
        | [] => [[c]]
        | part :: parts => (c :: part) :: parts

theorem splitOn_ne_nil (separator : Char) (cs : List Char) : splitOn separator cs ≠ [] := by
  cases cs with
  | nil => simp [splitOn]
  | cons c cs => simp only [splitOn]; split; · simp
                 · split <;> simp

/-- The parts, with the separator between neighbours. -/
def joinWith (separator : List Char) : List (List Char) → List Char
  | [] => []
  | [part] => part
  | part :: parts => part ++ separator ++ joinWith separator parts

theorem joinWith_splitOn (separator : Char) (cs : List Char) :
    joinWith [separator] (splitOn separator cs) = cs := by
  induction cs with
  | nil => rfl
  | cons c cs ih =>
      have h := splitOn_ne_nil separator cs
      simp only [splitOn]
      cases hs : splitOn separator cs with
      | nil => exact absurd hs h
      | cons part parts =>
          rw [hs] at ih
          by_cases hc : c = separator
          · subst hc
            simp only [if_true, joinWith, List.nil_append]
            exact congrArg _ ih
          · simp only [hc, if_false]
            cases parts with
            | nil => simp only [joinWith] at ih ⊢; exact congrArg _ ih
            | cons q qs => simp only [joinWith, List.cons_append] at ih ⊢; exact congrArg _ ih

end TypedClients.Text
