import TypedClients.Proofs.SpelledTokens
import TypedClients.Code.Expr.Write

/-!
# Texts of types

The expressions that types are written with, and the tokens of their texts. `typeTokens` follows the
printing of expressions: a union stands in parentheses where something binds tighter.
-/
namespace TypedClients.Code

open TypedClients.Text

namespace Expr

/-! ### The expressions of types -/

/-- A name of ASCII characters that is not reserved. -/
def IsPlainName (s : String) : Prop := isPlainIdentifier s.toList = true ∧ s ∉ reservedWords

instance (s : String) : Decidable (IsPlainName s) :=
  inferInstanceAs (Decidable (isPlainIdentifier s.toList = true ∧ s ∉ reservedWords))

/-- A name, perhaps of a member of what a dotted name denotes. -/
inductive IsDotted : Expr → Prop
  | name {id : String} (h : IsPlainName id) : IsDotted (.name id)
  | member {value : Expr} {field : String} (hvalue : IsDotted value) (hfield : IsPlainName field) :
      IsDotted (.member value field)

/-- What an expression is in a type: a type, an argument of a generic type, or all its arguments. -/
inductive TypePart where
  | type
  | argument
  | arguments
  deriving DecidableEq, Repr

/-- The expressions that types are written with: dotted names, generic types with one argument or
several, unions, constants. An argument may also be a list of arguments. -/
inductive IsPart : TypePart → Expr → Prop
  | dotted {e : Expr} (h : IsDotted e) : IsPart .type e
  | subscript {value index : Expr} (hvalue : IsPart .type value) (hindex : IsPart .arguments index) :
      IsPart .type (.subscript value index)
  | union {left right : Expr} (hleft : IsPart .type left) (hright : IsPart .type right) :
      IsPart .type (.binary .bitOr left right)
  | absent : IsPart .type absent
  | ellipsis : IsPart .type (.constant .ellipsis)
  | int (n : Nat) : IsPart .type (.constant (.int n))
  | text (s : String) (marked : Bool) : IsPart .type (.constant (.text s marked))
  | brokenText (t : BrokenText) (marked : Bool) : IsPart .type (.constant (.brokenText t marked))
  | type {e : Expr} (h : IsPart .type e) : IsPart .argument e
  | list {items : List Expr} (h : ∀ e ∈ items, IsPart .argument e) : IsPart .argument (.list items)
  | single {e : Expr} (h : IsPart .argument e) : IsPart .arguments e
  | several {first : Expr} {others : List Expr}
      (h : ∀ e ∈ first :: others, IsPart .argument e) : IsPart .arguments (.tuple (first :: others))

/-- An expression that a type is written with. -/
abbrev IsType (e : Expr) : Prop := IsPart .type e

/-! ### Their tokens -/

/-- The token of a literal of a type. -/
def literalToken : Literal → Token
  | .none => .word "None"
  | .ellipsis => .op "..."
  | .text s marked =>
      .quoted ⟨false, false, false, marked, CodePoint.quotedBody (CodePoint.ofString s)⟩
  | .brokenText t marked => .quoted ⟨false, false, false, marked, CodePoint.quotedBody t.points⟩
  | v => .number v

theorem literalToken_ofPoints (points : List CodePoint) (marked : Bool) :
    literalToken (.ofPoints points marked) =
      .quoted ⟨false, false, false, marked, CodePoint.quotedBody points⟩ := by
  unfold Literal.ofPoints
  split
  · rename_i cs hcs
    rw [CodePoint.eq_map_char_of_chars hcs, literalToken, CodePoint.ofString_ofList]
  · rename_i t ht
    rw [BrokenText.eq_points_of_chars ht, literalToken]

/-- Tokens in parentheses, if the condition holds. -/
def parenthesisedIf (condition : Bool) (ts : List Token) : List Token :=
  if condition then .op "(" :: ts ++ [.op ")"] else ts

mutual

/-- The tokens of a type in a place of the given strength. -/
def typeTokens (s : Strength) : Expr → List Token
  | .constant v => [literalToken v]
  | .name id => [.name id]
  | .member value field => typeTokens .atom value ++ [.op ".", .name field]
  | .subscript value index =>
      typeTokens .atom value ++ .op "[" :: typeTokens .test index ++ [.op "]"]
  | .binary _ left right =>
      parenthesisedIf (Strength.bitOr < s)
        (typeTokens .bitOr left ++ .op "|" :: typeTokens Strength.bitOr.next right)
  | .list [] => [.op "[", .op "]"]
  | .list (first :: others) =>
      .op "[" :: typeTokens .test first ++ tokensAfterCommas others ++ [.op "]"]
  | .tuple [only] => typeTokens .test only ++ [.op ","]
  | .tuple (first :: others) => typeTokens .test first ++ tokensAfterCommas others
  | _ => []

/-- The tokens of further items of a list, each after a comma. -/
def tokensAfterCommas : List Expr → List Token
  | [] => []
  | e :: es => .op "," :: typeTokens .test e ++ tokensAfterCommas es

end

mutual

/-- How deep the brackets in the text of a type are nested. -/
def bracketDepth (s : Strength) : Expr → Nat
  | .member value _ => bracketDepth .atom value
  | .subscript value index => max (bracketDepth .atom value) (bracketDepth .test index + 1)
  | .binary _ left right =>
      max (bracketDepth .bitOr left) (bracketDepth Strength.bitOr.next right) +
        if Strength.bitOr < s then 1 else 0
  | .list items => bracketDepthOfAll items + 1
  | .tuple items => bracketDepthOfAll items
  | _ => 0

def bracketDepthOfAll : List Expr → Nat
  | [] => 0
  | e :: es => max (bracketDepth .test e) (bracketDepthOfAll es)

end

/-! ### Their texts -/

open Token in
theorem spelled_append {cs cs' : List Char} {ts ts' : List Token} {d d' : Nat}
    (h : Spelled cs ts d) (hstops : Stops cs') (h' : Spelled cs' ts' d') :
    Spelled (cs ++ cs') (ts ++ ts') (max d d') := by
  induction h with
  | nil => simpa using h'
  | blank _ ih => exact .blank ih
  | word hname hcs _ ih =>
      rw [List.append_assoc]
      exact .word hname (breaks_append hcs hstops.1) ih
  | number hn hcs _ ih =>
      rw [List.append_assoc]
      exact .number hn (stops_append hcs hstops) ih
  | quoted hcs _ ih =>
      rw [List.append_assoc]
      exact .quoted (breaks_append hcs hstops.1) ih
  | marked hcs _ ih =>
      rw [List.append_assoc]
      exact .marked (breaks_append hcs hstops.1) ih
  | comma _ ih => exact .comma ih
  | bar _ ih => exact .bar ih
  | dot hc _ ih => exact .dot hc ih
  | ellipsis _ ih => exact .ellipsis ih
  | bracketed hpair hinner _ _ ih =>
      rw [List.append_assoc, List.append_assoc, Nat.max_assoc]
      exact .bracketed hpair hinner ih

/-- The text of further items of a list, each after a comma. -/
def textAfterCommas : List Expr → List Char
  | [] => []
  | e :: es => ',' :: ' ' :: (renderAt false .test e).toList ++ textAfterCommas es

/-- The text of all arguments of a generic type. -/
def argumentsText : Expr → List Char
  | .tuple [only] => (renderAt false .test only).toList ++ [',']
  | .tuple (first :: others) => (renderAt false .test first).toList ++ textAfterCommas others
  | e => (renderAt false .test e).toList

theorem toList_intercalate_renderAll (first : Expr) (others : List Expr) :
    (", ".intercalate (renderAll false (first :: others))).toList =
      (renderAt false .test first).toList ++ textAfterCommas others := by
  induction others generalizing first with
  | nil => simp [renderAll, textAfterCommas]
  | cons e es ih =>
      have hrest := ih e
      rw [renderAll] at hrest
      rw [renderAll, renderAll, String.intercalate_cons_cons, String.toList_append,
        String.toList_append, hrest]
      simp [textAfterCommas]

theorem toList_renderAt_subscript (s : Strength) (value index : Expr) :
    (renderAt false s (.subscript value index)).toList =
      (renderAt false .atom value).toList ++ '[' :: argumentsText index ++ [']'] := by
  unfold argumentsText
  split
  · simp [renderAt, commaList, renderAll]
  · rename_i first others hothers
    cases others with
    | nil => exact absurd rfl hothers
    | cons e es =>
        have htext := toList_intercalate_renderAll first (e :: es)
        rw [renderAll, renderAll] at htext
        simp only [renderAt, commaList, renderAll, String.toList_append, htext]
        simp
  · rename_i htuple hseveral
    rw [renderAt.eq_5]
    · simp
    · rintro first others rfl
      exact hseveral first others rfl

section

open Token

/-- The texts of further items have the tokens of these. -/
theorem spelled_textAfterCommas {items : List Expr}
    (h : ∀ e ∈ items, Spelled (renderAt false .test e).toList (typeTokens .test e)
      (bracketDepth .test e)) :
    Stops (textAfterCommas items) ∧
      Spelled (textAfterCommas items) (tokensAfterCommas items) (bracketDepthOfAll items) := by
  induction items with
  | nil => exact ⟨stops_nil, .nil⟩
  | cons e es ih =>
      obtain ⟨he, hes⟩ := List.forall_mem_cons.mp h
      obtain ⟨hstops, hspelled⟩ := ih hes
      refine ⟨by simp [textAfterCommas, Stops, Breaks]; decide, ?_⟩
      exact .comma (.blank (spelled_append he hstops hspelled))

theorem spelled_dotted {e : Expr} (h : IsDotted e) (s : Strength) {rest : List Char}
    {ts : List Token} {d : Nat} (hrest : Breaks rest) (hspelled : Spelled rest ts d) :
    Spelled ((renderAt false s e).toList ++ rest) (typeTokens s e ++ ts) d := by
  induction h generalizing s rest ts with
  | @name id hid =>
      have hword := Spelled.word hid.1 hrest hspelled
      rwa [String.ofList_toList, ofWord, if_neg hid.2] at hword
  | @member value field hvalue hfield ih =>
      obtain ⟨c, cs, hcs, hc⟩ := exists_cons_of_isPlainIdentifier hfield.1
      have hword := Spelled.word hfield.1 hrest hspelled
      rw [String.ofList_toList, ofWord, if_neg hfield.2] at hword
      rw [hcs, List.cons_append] at hword
      have hdot := ih .atom (by simp [Breaks]; decide) (Spelled.dot hc hword)
      have hwhole : value.isWholeNumber = false := by cases hvalue <;> rfl
      simpa [renderAt, typeTokens, hwhole, hcs] using hdot

theorem spelled_bracketed {opening closing : Char} (hpair : (opening, closing) ∈ bracketPairs)
    {cs : List Char} {ts : List Token} {d : Nat} (h : Spelled cs ts d) :
    Spelled (opening :: cs ++ [closing]) (ofDelimiter opening :: ts ++ [ofDelimiter closing])
      (d + 1) := by
  simpa using Spelled.bracketed hpair h .nil

theorem spelled_constant {s : Strength} {v : Literal}
    (h : Spelled v.render.toList [literalToken v] 0) :
    Spelled (renderAt false s (.constant v)).toList (typeTokens s (.constant v))
      (bracketDepth s (.constant v)) := by
  rw [renderAt_constant, typeTokens, bracketDepth]
  exact h
  all_goals simp

theorem spelled_text (points : List CodePoint) (marked : Bool) :
    Spelled (Literal.ofPoints points marked).render.toList
      [literalToken (.ofPoints points marked)] 0 := by
  rw [Literal.toList_render_ofPoints, literalToken_ofPoints]
  cases marked with
  | false => simpa using Spelled.quoted stops_nil.1 .nil
  | true => simpa using Spelled.marked stops_nil.1 .nil

theorem toList_renderAt_union (s : Strength) (left right : Expr) :
    (renderAt false s (.binary .bitOr left right)).toList =
      if Strength.bitOr < s then
        '(' :: ((renderAt false .bitOr left).toList ++ ' ' :: '|' :: ' ' ::
          (renderAt false Strength.bitOr.next right).toList) ++ [')']
      else (renderAt false .bitOr left).toList ++ ' ' :: '|' :: ' ' ::
        (renderAt false Strength.bitOr.next right).toList := by
  have hsymbol : BinaryOp.bitOr.symbol = "|" := rfl
  have hstrength : BinaryOp.bitOr.strength = Strength.bitOr := rfl
  simp only [renderAt, parensIf, hsymbol, hstrength, decide_eq_true_eq]
  split <;> simp

/-- The text of a list has its tokens if those of its items have theirs. -/
theorem spelled_list {items : List Expr}
    (h : ∀ e ∈ items, Spelled (renderAt false .test e).toList (typeTokens .test e)
      (bracketDepth .test e)) (s : Strength) :
    Spelled (renderAt false s (.list items)).toList (typeTokens s (.list items))
      (bracketDepth s (.list items)) := by
  cases items with
  | nil =>
      have htext : (renderAt false s (.list [])).toList = ['[', ']'] := by
        simp [renderAt, renderAll]
      rw [htext, typeTokens, bracketDepth, bracketDepthOfAll]
      exact spelled_bracketed (show ('[', ']') ∈ bracketPairs by decide) .nil
  | cons first others =>
      obtain ⟨hfirst, hothers⟩ := List.forall_mem_cons.mp h
      obtain ⟨hstops, hspelled⟩ := spelled_textAfterCommas hothers
      have hlist := spelled_bracketed (show ('[', ']') ∈ bracketPairs by decide)
        (spelled_append hfirst hstops hspelled)
      have htext : (renderAt false s (.list (first :: others))).toList =
          '[' :: ((renderAt false .test first).toList ++ textAfterCommas others) ++ [']'] := by
        rw [renderAt, String.toList_append, String.toList_append, toList_intercalate_renderAll]
        rfl
      rw [htext, typeTokens, bracketDepth, bracketDepthOfAll]
      exact hlist

/-- The text of several arguments has their tokens. -/
theorem spelled_several {first : Expr} {others : List Expr}
    (h : ∀ e ∈ first :: others, Spelled (renderAt false .test e).toList (typeTokens .test e)
      (bracketDepth .test e)) :
    Spelled (argumentsText (.tuple (first :: others))) (typeTokens .test (.tuple (first :: others)))
      (bracketDepth .test (.tuple (first :: others))) := by
  obtain ⟨hfirst, hothers⟩ := List.forall_mem_cons.mp h
  cases others with
  | nil =>
      have hcomma := spelled_append hfirst (by simp [Stops, Breaks]; decide) (.comma .nil)
      simpa [argumentsText, typeTokens, bracketDepth, bracketDepthOfAll] using hcomma
  | cons e es =>
      obtain ⟨hstops, hspelled⟩ := spelled_textAfterCommas hothers
      exact spelled_append hfirst hstops hspelled

/-- What the tokens of a part of a type are shown for: the text of the part. -/
def SpelledAs : TypePart → Expr → Prop
  | .arguments, e => Spelled (argumentsText e) (typeTokens .test e) (bracketDepth .test e)
  | _, e => ∀ s, Spelled (renderAt false s e).toList (typeTokens s e) (bracketDepth s e)

theorem bracketDepth_dotted {e : Expr} (h : IsDotted e) (s : Strength) : bracketDepth s e = 0 := by
  induction h generalizing s with
  | name => rfl
  | member _ _ ih => exact ih .atom

theorem argumentsText_of_argument {e : Expr} (h : IsPart .argument e) :
    argumentsText e = (renderAt false .test e).toList := by
  cases h with
  | type h =>
      cases h with
      | dotted h => cases h <;> rfl
      | subscript | union | absent | ellipsis | int | text | brokenText => rfl
  | list => rfl

theorem stops_opening (cs : List Char) : Stops ('[' :: cs) := by
  simp [Stops, Breaks]
  decide

theorem stops_blank (cs : List Char) : Stops (' ' :: cs) := by
  simp [Stops, Breaks]
  decide

theorem obstacles_of_mem {items : List Expr} (h : obstaclesInAll items = []) :
    ∀ e ∈ items, obstacles e = [] := by
  induction items with
  | nil => simp
  | cons e es ih =>
      rw [obstaclesInAll, List.append_eq_nil_iff] at h
      exact List.forall_mem_cons.mpr ⟨h.1, ih h.2⟩

/-- The text of a part of a type has the tokens of that part. -/
theorem spelledAs_of_isPart {part : TypePart} {e : Expr} (h : IsPart part e)
    (hobstacles : obstacles e = []) : SpelledAs part e := by
  induction h with
  | @dotted e h =>
      intro s
      have hspelled : Spelled ((renderAt false s e).toList ++ []) (typeTokens s e ++ []) 0 :=
        spelled_dotted h s stops_nil.1 .nil
      rwa [List.append_nil, List.append_nil, ← bracketDepth_dotted h s] at hspelled
  | @subscript value index _ _ ihValue ihIndex =>
      intro s
      rw [obstacles, List.append_eq_nil_iff] at hobstacles
      have hinside := spelled_bracketed (show ('[', ']') ∈ bracketPairs by decide)
        (ihIndex hobstacles.2)
      rw [toList_renderAt_subscript, typeTokens, List.append_assoc, List.append_assoc]
      exact spelled_append (ihValue hobstacles.1 .atom) (stops_opening _) hinside
  | @union left right _ _ ihLeft ihRight =>
      intro s
      rw [obstacles, List.append_eq_nil_iff] at hobstacles
      have hinner := spelled_append (ihLeft hobstacles.1 .bitOr) (stops_blank _)
        (.blank (.bar (ihRight hobstacles.2 Strength.bitOr.next)))
      have hparens := spelled_bracketed (show ('(', ')') ∈ bracketPairs by decide) hinner
      rw [toList_renderAt_union, typeTokens, bracketDepth]
      split
      · rename_i hs
        rw [parenthesisedIf, if_pos (decide_eq_true hs)]
        exact hparens
      · rename_i hs
        rw [parenthesisedIf, if_neg (by simpa using hs)]
        exact hinner
  | absent =>
      have hword := Spelled.word (show isPlainIdentifier "None".toList = true by decide)
        stops_nil.1 .nil
      exact fun s => spelled_constant hword
  | ellipsis => exact fun s => spelled_constant (.ellipsis .nil)
  | int n =>
      have hdigits : (Nat.toDigits 10 n).length ≤ maxIntDigits := by
        by_contra hlong
        have hlimit : maxWrittenDigits < (Nat.toDigits 10 n).length := Nat.not_le.mp hlong
        simp [obstacles, Literal.obstacle?, hlimit] at hobstacles
      have hnumber := Spelled.number hdigits stops_nil .nil
      rw [List.append_nil] at hnumber
      refine fun s => spelled_constant ?_
      rwa [Literal.render, String.toList_ofList]
  | text t marked =>
      refine fun s => spelled_constant ?_
      rw [← Literal.ofPoints_ofString]
      exact spelled_text (CodePoint.ofString t) marked
  | brokenText t marked =>
      refine fun s => spelled_constant ?_
      rw [← Literal.ofPoints_points]
      exact spelled_text t.points marked
  | type _ ih => exact ih hobstacles
  | @list items _ ih =>
      rw [obstacles] at hobstacles
      have hitems : ∀ e ∈ items, Spelled (renderAt false .test e).toList (typeTokens .test e)
          (bracketDepth .test e) := fun e he => ih e he (obstacles_of_mem hobstacles e he) .test
      exact fun s => spelled_list hitems s
  | @single e h ih =>
      have hspelled : SpelledAs .argument e := ih hobstacles
      change Spelled (argumentsText e) _ _
      rw [argumentsText_of_argument h]
      exact hspelled .test
  | @several first others _ ih =>
      rw [obstacles] at hobstacles
      have hitems : ∀ e ∈ first :: others, Spelled (renderAt false .test e).toList
          (typeTokens .test e) (bracketDepth .test e) :=
        fun e he => ih e he (obstacles_of_mem hobstacles e he) .test
      exact spelled_several hitems

end

end Expr

end TypedClients.Code
