import Mathlib.Data.List.Basic
import TypedClients.Controller
import TypedClients.Proofs.QuotedText
import TypedClients.Source.Unit

/-!
# Text literals as paths

The path of a tag is what stands between the quotes of its argument in the form that the argument is
written in again: escapes are not read, and a text with a mark before its quotes is passed over. So a
text is its own path where it can be quoted as it is, `path_of_textLiteral`.
-/
namespace TypedClients

namespace Text

/-! ### Text between quotes -/

theorem trim_eq_self {cs : List Char} (hfirst : ∀ c ∈ cs.head?, isBlank c = false)
    (hlast : ∀ c ∈ cs.getLast?, isBlank c = false) : trim cs = cs := by
  have hkeep : ∀ ds : List Char, (∀ c ∈ ds.head?, isBlank c = false) → ds.dropWhile isBlank = ds := by
    rintro (_ | ⟨d, ds⟩) hd
    · rfl
    · exact List.dropWhile_cons_of_neg (by simpa using hd d rfl)
  rw [trim, hkeep cs hfirst, hkeep, List.reverse_reverse]
  rwa [List.head?_reverse]

/-- Of a text without blanks at its ends, what is between two equal quotes there is its literal
text. -/
theorem literalText?_eq_some_iff {source text : String}
    (hfirst : ∀ c ∈ source.toList.head?, isBlank c = false)
    (hlast : ∀ c ∈ source.toList.getLast?, isBlank c = false) :
    literalText? source = some text ↔
      ∃ quote, Code.IsQuote quote ∧ source.toList = quote :: (text.toList ++ [quote]) := by
  rw [literalText?, trim_eq_self hfirst hlast]
  cases source.toList with
  | nil => simp
  | cons quote rest =>
      simp only [Option.ite_none_right_eq_some, Option.some.injEq, List.cons.injEq]
      constructor
      · rintro ⟨⟨hquote, hend⟩, rfl⟩
        refine ⟨quote, hquote, rfl, ?_⟩
        rw [String.toList_ofList]
        exact (List.dropLast_append_getLast? quote hend).symm
      · rintro ⟨_, hquote, rfl, rfl⟩
        exact ⟨⟨hquote, by simp⟩, by simp⟩

/-- A text that can stand between quotes as it is: all its characters are printable, and it has no
backslash and not both kinds of quotes. -/
def StandsAsItself (cs : List Char) : Prop :=
  (∀ c ∈ cs, isPrintable c = true ∧ c ≠ '\\') ∧ ¬ ('\'' ∈ cs ∧ '"' ∈ cs)

instance (cs : List Char) : Decidable (StandsAsItself cs) :=
  @instDecidableAnd _ _ (List.decidableBAll _ cs) inferInstance

theorem two_le_length_escapeChar (c : Char) : 2 ≤ (escapeChar c).length := by
  have hnumeric : 2 ≤ (numericEscape c.toNat).length := by
    obtain ⟨letter, width, hescape, -⟩ := Code.exists_numericEscape (.char c)
    rw [CodePoint.number] at hescape
    simp [hescape]
  unfold escapeChar
  split_ifs <;> first | exact hnumeric | exact le_refl _

theorem quotedChar_eq_singleton {quote c : Char}
    (h : c ≠ quote ∧ isPrintable c = true ∧ c ≠ '\\') : quotedChar quote c = [c] := by
  simp [quotedChar, h]

theorem two_le_length_quotedChar {quote c : Char}
    (h : ¬ (c ≠ quote ∧ isPrintable c = true ∧ c ≠ '\\')) : 2 ≤ (quotedChar quote c).length := by
  unfold quotedChar
  split
  · exact le_refl 2
  split
  · exact two_le_length_escapeChar c
  · rename_i hquote hescaped
    simp only [Bool.or_eq_true, decide_eq_true_eq, Bool.not_eq_true', not_or,
      Bool.not_eq_false] at hescaped
    exact absurd ⟨hquote, hescaped.2, hescaped.1⟩ h

theorem one_le_length_quotedChar (quote c : Char) : 1 ≤ (quotedChar quote c).length := by
  by_cases h : c ≠ quote ∧ isPrintable c = true ∧ c ≠ '\\'
  · simp [quotedChar_eq_singleton h]
  · exact le_of_lt (two_le_length_quotedChar h)

theorem length_le_length_flatMap_quotedChar (quote : Char) (cs : List Char) :
    cs.length ≤ (cs.flatMap (quotedChar quote)).length := by
  induction cs with
  | nil => exact le_refl 0
  | cons c cs ih =>
      have hc := one_le_length_quotedChar quote c
      rw [List.flatMap_cons, List.length_append, List.length_cons]
      omega

/-- Between quotes a text gets longer by each character that cannot stand there as it is. -/
theorem flatMap_quotedChar_eq_iff {quote : Char} {cs : List Char} :
    cs.flatMap (quotedChar quote) = cs ↔
      ∀ c ∈ cs, c ≠ quote ∧ isPrintable c = true ∧ c ≠ '\\' := by
  induction cs with
  | nil => simp
  | cons c cs ih =>
      rw [List.flatMap_cons, List.forall_mem_cons, ← ih]
      by_cases hc : c ≠ quote ∧ isPrintable c = true ∧ c ≠ '\\'
      · rw [quotedChar_eq_singleton hc, List.singleton_append, List.cons.injEq,
          and_iff_right rfl, and_iff_right hc]
      · refine iff_of_false (fun h => ?_) fun h => hc h.1
        have hlong := two_le_length_quotedChar hc
        have hrest := length_le_length_flatMap_quotedChar quote cs
        have hlength := congrArg List.length h
        rw [List.length_append, List.length_cons] at hlength
        omega

theorem forall_ne_quoteFor_iff {cs : List Char} :
    (∀ c ∈ cs, c ≠ quoteFor cs) ↔ ¬ ('\'' ∈ cs ∧ '"' ∈ cs) := by
  by_cases hsingle : '\'' ∈ cs <;> by_cases hdouble : '"' ∈ cs <;>
    simp only [quoteFor, List.contains_eq_mem, hsingle, hdouble]
  · simpa using hsingle
  all_goals
    simp only [and_true, and_false, not_false_eq_true, iff_true]
    rintro c hc rfl
    contradiction

theorem quotedBody_eq_iff {cs : List Char} : quotedBody cs = cs ↔ StandsAsItself cs := by
  rw [quotedBody, flatMap_quotedChar_eq_iff, forall₂_and, forall_ne_quoteFor_iff, StandsAsItself,
    and_comm]

end Text

open TypedClients.Text TypedClients.Code

/-! ### The argument of a path -/

/-- The first argument of a decorator: the first positional one, or without positional ones the
first one with the keyword. -/
inductive PathArgument (argument : Expr) : Expr → Prop
  | positional (callee : Expr) (others : List Expr) (keywords : List (Keyword Expr)) :
      PathArgument argument (.call callee (argument :: others) keywords)
  | keyword (callee : Expr) {before : List (Keyword Expr)} (after : List (Keyword Expr))
      (hfirst : ∀ k ∈ before, k.name ≠ some pathKeyword) :
      PathArgument argument (.call callee [] (before ++ ⟨some pathKeyword, argument⟩ :: after))

theorem PathArgument.exists_tagArguments {argument decorator : Expr}
    (h : PathArgument argument decorator) :
    ∃ callee args keywords others, decorator = .call callee args keywords ∧
      tagArguments args keywords = argument :: others := by
  cases h with
  | positional callee others keywords => exact ⟨callee, _, keywords, others, rfl, rfl⟩
  | @keyword callee before after hfirst =>
      have hbefore : before.filter (·.name = some pathKeyword) = [] :=
        List.filter_eq_nil_iff.mpr fun k hk => by simpa using hfirst k hk
      refine ⟨callee, [], _, (after.filter (·.name = some pathKeyword)).map (·.value), rfl, ?_⟩
      rw [tagArguments, List.isEmpty_nil, if_pos rfl, List.filter_append, hbefore,
        List.nil_append, List.filter_cons_of_pos (by simp), List.map_cons]

/-- The argument of a tag is passed over, and a log entry says so. -/
def Tag.passOver (t : Tag) (argument : String) : Traced String := do
  Traced.note .debug .routes
    ("Ignoring non-literal argument " ++ quotedString argument ++ " of @" ++ t.name)
  return ""

@[simp] theorem Tag.passOver_result (t : Tag) (argument : String) :
    (t.passOver argument).result = .ok "" := rfl

theorem Tag.path_of_pathArgument {argument decorator : Expr} {tag : Tag}
    (hargument : PathArgument argument decorator) (htag : Tag.ofExpr? decorator = some tag) :
    tag.path = match literalText? argument.render with
      | some text => pure text
      | none => tag.passOver argument.render := by
  obtain ⟨callee, args, keywords, others, rfl, harguments⟩ := hargument.exists_tagArguments
  rw [Tag.ofExpr?] at htag
  obtain ⟨name, -, htag⟩ := Option.bind_eq_some_iff.mp htag
  cases htag
  simp only [Tag.path, harguments, List.map_cons]
  rfl

/-! ### Text literals -/

/-- The code points of a text constant. -/
def Code.Expr.points? : Expr → Option (List CodePoint)
  | .constant v => v.points?
  | _ => none

/-- A text literal takes its mark from the first of its quoted pieces. -/
theorem eq_constant_of_quotedRun {r : Rules} {pieces : List QuotedPiece} {literal : Expr}
    {points : List CodePoint} (hread : r.quotedRun pieces = some literal)
    (hvalue : literal.points? = some points) :
    literal = .constant (.ofPoints points (pieces.head?.any (·.marked))) := by
  unfold Rules.quotedRun at hread
  split at hread
  · obtain ⟨parts, -, hbytes⟩ := Option.bind_eq_some_iff.mp hread
    cases hbytes
    cases hvalue
  split at hread
  · cases hread
  split at hread
  · obtain ⟨parts, -, hformatted⟩ := Option.bind_eq_some_iff.mp hread
    cases hformatted
    cases hvalue
  · obtain ⟨texts, -, htext⟩ := Option.bind_eq_some_iff.mp hread
    cases htext
    rw [Expr.points?, Literal.points?_ofPoints] at hvalue
    cases hvalue
    rfl

theorem literalText?_render_text (points : List CodePoint) (marked : Bool) :
    literalText? (Expr.render (.constant (.ofPoints points marked))) =
      if marked then none else some (String.ofList (CodePoint.quotedBody points)) := by
  have htext : (Expr.render (.constant (.ofPoints points marked))).toList =
      (if marked then ['u'] else []) ++ CodePoint.quotedText points := by
    rw [Expr.render, Expr.renderAt_constant, Literal.toList_render_ofPoints]
  have hquote : IsQuote (CodePoint.quoteFor points) := isQuote_quoteFor _
  have hblank : isBlank (CodePoint.quoteFor points) = false := by
    rcases hquote with h | h <;> rw [h] <;> rfl
  have hends {front : List Char} : ∀ c ∈ (front ++ CodePoint.quotedText points).getLast?,
      isBlank c = false := by
    rw [CodePoint.quotedText, ← List.cons_append, ← List.append_assoc, List.getLast?_concat]
    simpa using hblank
  cases marked with
  | false =>
      refine (literalText?_eq_some_iff ?_ ?_).mpr ⟨CodePoint.quoteFor points, hquote, ?_⟩
      · simpa [htext, CodePoint.quotedText] using hblank
      · rw [htext]
        exact hends
      · rw [htext, String.toList_ofList]
        rfl
  | true =>
      refine Option.eq_none_iff_forall_ne_some.mpr fun text h => ?_
      rw [literalText?_eq_some_iff] at h
      · obtain ⟨quote, hquote, h⟩ := h
        rw [htext] at h
        rcases hquote with rfl | rfl <;> cases h
      · rw [htext]
        rintro c ⟨⟩
        rfl
      · rw [htext]
        exact hends

/-- The path of a tag with a text literal, however this is spelled, is the text with its escapes left
as they are written, and nothing if the literal has a mark. So it is the text itself just where that
stands between quotes as it is, which a text with surrogates never does. -/
theorem path_of_textLiteral {r : Rules} {pieces : List QuotedPiece} {literal decorator : Expr}
    {tag : Tag} {points : List CodePoint} (hread : r.quotedRun pieces = some literal)
    (hvalue : literal.points? = some points) (hargument : PathArgument literal decorator)
    (htag : Tag.ofExpr? decorator = some tag) :
    tag.path =
        (if pieces.head?.any (·.marked) then tag.passOver literal.render
          else pure (String.ofList (CodePoint.quotedBody points))) ∧
      ∀ s, points = CodePoint.ofString s → (tag.path.result = .ok s ↔
        if pieces.head?.any (·.marked) then s = "" else StandsAsItself s.toList) := by
  have hpath : tag.path =
      (if pieces.head?.any (·.marked) then tag.passOver literal.render
        else pure (String.ofList (CodePoint.quotedBody points))) := by
    rw [Tag.path_of_pathArgument hargument htag, eq_constant_of_quotedRun hread hvalue,
      literalText?_render_text]
    cases pieces.head?.any (·.marked) <;> rfl
  refine ⟨hpath, ?_⟩
  rintro s rfl
  rw [hpath]
  split
  · rw [Tag.passOver_result, Except.ok.injEq, eq_comm]
  · rw [Traced.pure_result, Except.ok.injEq, ← quotedBody_eq_iff, String.ext_iff,
      String.toList_ofList, CodePoint.ofString, CodePoint.quotedBody_map_char]

/-- The decorator `Get(path='/books' "/author's")`, whose literal has two pieces. -/
def authorPieces : List QuotedPiece :=
  [⟨false, false, false, false, "/books".toList⟩, ⟨false, false, false, false, "/author's".toList⟩]

theorem path_of_textLiteral_author :
    ∃ literal tag, Rules.refusing.quotedRun authorPieces = some literal ∧
      literal.text? = some "/books/author's" ∧
      Tag.ofExpr? (.call (.name "Get") [] [⟨some "path", literal⟩]) = some tag ∧
      tag.path.result = .ok "/books/author's" := by
  have hread : Rules.refusing.quotedRun authorPieces =
      some (.constant (.text "/books/author's" false)) := rfl
  have htag : Tag.ofExpr? (.call (.name "Get") []
      ([] ++ ⟨some "path", .constant (.text "/books/author's" false)⟩ :: [])) =
        some ⟨"Get", ["\"/books/author's\""]⟩ := rfl
  have hargument : PathArgument (.constant (.text "/books/author's" false))
      (.call (.name "Get") [] ([] ++ ⟨some "path", _⟩ :: [])) := .keyword _ [] (by simp)
  have hstands : StandsAsItself "/books/author's".toList := by decide
  exact ⟨_, _, hread, rfl, htag,
    ((path_of_textLiteral hread rfl hargument htag).2 _ rfl).mpr hstands⟩

/-- A path with a backslash has two of them in what is read. -/
theorem not_path_of_textLiteral :
    ¬ ∀ (r : Rules) (pieces : List QuotedPiece) (literal decorator : Expr) (tag : Tag) (s : String),
      r.quotedRun pieces = some literal → literal.text? = some s →
        PathArgument literal decorator → Tag.ofExpr? decorator = some tag →
        tag.path.result = .ok s := by
  intro h
  have hpath := h Rules.refusing [⟨false, false, false, false, "/a\\\\b".toList⟩]
    (.constant (.text "/a\\b" false)) (.call (.name "Get") [.constant (.text "/a\\b" false)] [])
    ⟨"Get", ["'/a\\\\b'"]⟩ "/a\\b" rfl rfl (.positional _ _ _) rfl
  exact absurd hpath (by decide)

end TypedClients
