import TypedClients.Proofs.ReadTypes

/-!
# Texts of types are read back

The text of a type is read back as that type, as long as its numbers can be written and its brackets
are not nested too deep to be read. `exists_read_iff` says for which types this is so.
-/
namespace TypedClients.Code.Expr

open TypedClients.Text Reader Rules
open Token (Spelled maxBrackets)

/-! ### Whole texts of types -/

section

variable {e : Expr} {part : TypePart}

theorem exists_cons_of_isDotted (h : IsDotted e) (s : Strength) :
    ∃ c cs, (renderAt false s e).toList = c :: cs ∧ c ≠ ' ' := by
  induction h generalizing s with
  | name hid =>
      obtain ⟨c, cs, hcs, hc⟩ := Token.exists_cons_of_isPlainIdentifier hid.1
      refine ⟨c, cs, hcs, ?_⟩
      rintro rfl
      exact absurd hc (by decide)
  | @member value field hvalue _ ih =>
      obtain ⟨c, cs, hcs, hc⟩ := ih .atom
      have hwhole : value.isWholeNumber = false := by cases hvalue <;> rfl
      exact ⟨c, cs ++ '.' :: field.toList, by simp [renderAt, hwhole, hcs], hc⟩

theorem exists_cons_of_text (points : List CodePoint) (marked : Bool) (s : Strength) :
    ∃ c cs, (renderAt false s (.constant (.ofPoints points marked))).toList = c :: cs ∧
      c ≠ ' ' := by
  have hquote : CodePoint.quoteFor points ≠ ' ' := by
    rcases isQuote_quoteFor _ with h | h <;> rw [CodePoint.quoteFor, h] <;> decide
  rw [renderAt_constant, Literal.toList_render_ofPoints]
  cases marked with
  | true => exact ⟨'u', _, rfl, by decide⟩
  | false => exact ⟨_, _, rfl, hquote⟩

/-- The text of a type or an argument does not start with a blank. -/
theorem exists_cons_of_isPart (h : IsPart part e) (hpart : part ≠ .arguments) (s : Strength) :
    ∃ c cs, (renderAt false s e).toList = c :: cs ∧ c ≠ ' ' := by
  induction h generalizing s with
  | dotted h => exact exists_cons_of_isDotted h s
  | @subscript value index _ _ ihValue _ =>
      obtain ⟨c, cs, hcs, hc⟩ := ihValue (by decide) .atom
      rw [toList_renderAt_subscript, hcs]
      exact ⟨_, _, rfl, hc⟩
  | @union left right _ _ ihLeft _ =>
      obtain ⟨c, cs, hcs, hc⟩ := ihLeft (by decide) .bitOr
      rw [toList_renderAt_union]
      split
      · exact ⟨_, _, rfl, by decide⟩
      · rw [hcs]
        exact ⟨_, _, rfl, hc⟩
  | absent => exact ⟨'N', _, congrArg String.toList (renderAt_constant s .none), by decide⟩
  | ellipsis => exact ⟨'.', _, congrArg String.toList (renderAt_constant s .ellipsis), by decide⟩
  | int n => 
      obtain ⟨c, cs, hcs⟩ := List.exists_cons_of_ne_nil (@Nat.toDigits_ne_nil n 10)
      have hc : isPlainNameChar c = true :=
        Token.isPlainNameChar_of_mem_toDigits (by rw [hcs]; exact List.mem_cons_self)
      rw [renderAt_constant, Literal.render, String.toList_ofList]
      refine ⟨c, cs, hcs, ?_⟩
      rintro rfl
      exact absurd hc (by decide)
  | text t marked =>
      rw [← Literal.ofPoints_ofString]
      exact exists_cons_of_text (CodePoint.ofString t) marked s
  | brokenText t marked =>
      rw [← Literal.ofPoints_points]
      exact exists_cons_of_text t.points marked s
  | type _ ih => exact ih (by decide) s
  | list h _ => exact ⟨'[', _, by rw [renderAt, String.toList_append, String.toList_append]; rfl, by decide⟩
  | single | several => exact absurd rfl hpart

/-- A text without line ends is read as the expression that its tokens are read as, unless its brackets
are nested too deep. -/
theorem read_of_tokens {text : String} {ts : List Token} {depth : Nat}
    (hprintable : ∀ c ∈ text.toList, isPrintable c = true)
    (hscan : Token.scan text.toList = if depth ≤ maxBrackets then some ts else none)
    (hread : (forLength text.toList.length).expression ts = some (e, [])) :
    read text = if depth ≤ maxBrackets then .ok e else .error .malformed := by
  have hnull : text.toList.contains (Char.ofNat 0) = false := by
    rw [List.contains_eq_mem, decide_eq_false_iff_not]
    intro hnull
    exact absurd (hprintable _ hnull) (by decide)
  have hlines : unifyLineEnds text.toList = text.toList := by
    refine unifyLineEnds_of_notMem fun hreturn => ?_
    exact absurd (hprintable _ hreturn) (by decide)
  have hlisted : listed (forLength text.toList.length).expression ts =
      some (⟨e, [], false⟩, []) :=
    listed_of_steps hread (.nil (afterComma_of_ne (by simp))) (accepts_of_ne (by simp))
  have hwhole : Reader.run (do
      let l ← listed (forLength text.toList.length).expression
      let _ ← many (exactly .newline)
      return tupleOf l) ts = some e := by
    rw [Reader.run, bind_of_eq hlisted, bind_of_eq (many_of_none rfl)]
    rfl
  simp only [read, hnull, hlines, hscan, Bool.false_eq_true, if_false]
  by_cases hdepth : depth ≤ maxBrackets
  · rw [if_pos hdepth, if_pos hdepth, Option.bind_some, hwhole]
  · rw [if_neg hdepth, if_neg hdepth, Option.bind_none]

/-- The text of a type is read back as that type, unless its brackets are nested too deep. -/
theorem read_render (h : IsType e) (hobstacles : obstacles e = []) :
    read e.render =
      if bracketDepth .test e ≤ maxBrackets then .ok e else .error .malformed := by
  have hspelled : Spelled e.render.toList (typeTokens .test e) (bracketDepth .test e) :=
    spelledAs_of_isPart h hobstacles .test
  have hblank : e.render.toList.head? ≠ some ' ' := by
    obtain ⟨c, cs, hcs, hc⟩ := exists_cons_of_isPart h (by decide) .test
    rw [render, hcs]
    simpa using hc
  have hlength := Token.length_le_of_spelled hspelled
  have hread : (forLength e.render.toList.length).expression (typeTokens .test e ++ []) =
      some (e, []) :=
    expression_of_readsBack (readsAs_of_isPart h) (typeShaped_of_isPart h .test) (by omega)
      (by simp [AfterType])
  rw [List.append_nil] at hread
  exact read_of_tokens (Token.isPrintable_of_spelled hspelled)
    (Token.scan_of_spelled hspelled hblank) hread

end

/-! ### Which types survive -/

mutual

/-- The whole numbers in a type. -/
def integers : Expr → List Nat
  | .constant (.int n) => [n]
  | .member value _ => integers value
  | .subscript value index => integers value ++ integers index
  | .binary _ left right => integers left ++ integers right
  | .list items | .tuple items => integersInAll items
  | _ => []

def integersInAll : List Expr → List Nat
  | [] => []
  | e :: es => integers e ++ integersInAll es

end

/-- The numbers of a type can be written, and its brackets are not nested too deep to be read. -/
structure IsReadable (e : Expr) : Prop where
  integers : ∀ n ∈ e.integers, n < 10 ^ maxWrittenDigits
  brackets : bracketDepth .test e ≤ maxBrackets

theorem obstacles_eq_nil_of_isDotted {e : Expr} (h : IsDotted e) :
    obstacles e = [] ∧ e.integers = [] := by
  induction h with
  | name => exact ⟨rfl, rfl⟩
  | member _ _ ih => exact ih

theorem obstaclesInAll_eq_nil_iff {items : List Expr}
    (h : ∀ e ∈ items, obstacles e = [] ↔ ∀ n ∈ e.integers, n < 10 ^ maxWrittenDigits) :
    obstaclesInAll items = [] ↔ ∀ n ∈ integersInAll items, n < 10 ^ maxWrittenDigits := by
  induction items with
  | nil => simp [obstaclesInAll, integersInAll]
  | cons e es ih =>
      obtain ⟨he, hes⟩ := List.forall_mem_cons.mp h
      rw [obstaclesInAll, integersInAll, List.append_eq_nil_iff, he, ih hes,
        List.forall_mem_append]

/-- Only long numbers keep a type from being written. -/
theorem obstacles_eq_nil_iff {part : TypePart} {e : Expr} (h : IsPart part e) :
    obstacles e = [] ↔ ∀ n ∈ e.integers, n < 10 ^ maxWrittenDigits := by
  induction h with
  | dotted h =>
      obtain ⟨hobstacles, hintegers⟩ := obstacles_eq_nil_of_isDotted h
      simp [hobstacles, hintegers]
  | subscript _ _ ihValue ihIndex =>
      rw [obstacles, integers, List.append_eq_nil_iff, ihValue, ihIndex, List.forall_mem_append]
  | union _ _ ihLeft ihRight =>
      rw [obstacles, integers, List.append_eq_nil_iff, ihLeft, ihRight, List.forall_mem_append]
  | absent | ellipsis | text | brokenText => simp [absent, obstacles, integers, Literal.obstacle?]
  | int n =>
      have hlength : (Nat.toDigits 10 n).length ≤ maxWrittenDigits ↔ n < 10 ^ maxWrittenDigits :=
        Nat.length_toDigits_le_iff (by decide) (by decide)
      rw [obstacles, integers, Literal.obstacle?, List.forall_mem_singleton, ← hlength]
      split <;> simp <;> omega
  | type _ ih | single _ ih => exact ih
  | list _ ih =>
      rw [obstacles, integers]
      exact obstaclesInAll_eq_nil_iff ih
  | several _ ih =>
      rw [obstacles, integers]
      exact obstaclesInAll_eq_nil_iff ih

theorem write_eq_ok_iff {e : Expr} {text : String} :
    e.write = .ok text ↔ obstacles e = [] ∧ text = e.render := by
  unfold write obstacle?
  cases obstacles e with
  | nil => simp [eq_comm]
  | cons => simp

/-- What is read of the text that a type is written with. -/
theorem read_of_write {e : Expr} (h : IsType e) {text : String} (htext : e.write = .ok text) :
    read text = if bracketDepth .test e ≤ maxBrackets then .ok e else .error .malformed := by
  obtain ⟨hobstacles, rfl⟩ := write_eq_ok_iff.mp htext
  exact read_render h hobstacles

/-- A type has a text that is read back as it if and only if it is readable. -/
theorem exists_read_iff {e : Expr} (h : IsType e) :
    (∃ text, e.write = .ok text ∧ read text = .ok e) ↔ e.IsReadable := by
  constructor
  · rintro ⟨text, htext, hread⟩
    rw [read_of_write h htext] at hread
    obtain ⟨hobstacles, -⟩ := write_eq_ok_iff.mp htext
    refine ⟨(obstacles_eq_nil_iff h).mp hobstacles, ?_⟩
    by_contra hdepth
    rw [if_neg hdepth] at hread
    cases hread
  · rintro ⟨hintegers, hdepth⟩
    have htext := write_eq_ok_iff.mpr ⟨(obstacles_eq_nil_iff h).mpr hintegers, rfl⟩
    refine ⟨e.render, htext, ?_⟩
    rw [read_of_write h htext, if_pos hdepth]

end TypedClients.Code.Expr
