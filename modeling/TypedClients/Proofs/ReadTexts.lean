import TypedClients.Proofs.FormattedLengths
import TypedClients.Proofs.ReadExpressions

/-!
# Texts in read expressions

A text in an expression that is read from a source is shorter than the source: `length_lt_of_read`. The
rules of the grammar keep the bound on the quoted texts that are still to be read, and take only
expressions whose texts would fit between quotes in a source of that length.
-/
namespace TypedClients.Code

open TypedClients.Text
open Reader Rules Code.Expr Token

/-- What is read of a source of the given length without four characters has texts that fit in one of
the given length. -/
def FieldFits (n : Nat) (field : List Char → Option Expr) : Prop :=
  ∀ source, source.length + 4 ≤ n → ∀ e ∈ field source, e.TextsFit n

section

variable {n : Nat}

/-- The quoted texts that are left to be read, and the texts in what is read, are those of a source of
the given length. -/
theorem lasting_textsFit (n : Nat) : Lasting (fun ts => quotedLength ts ≤ n) (TextsFit n) where
  rest t ts h := by
    rw [quotedLength_cons] at h
    omega
  name id _ _ := by simp [TextsFit, leaves, namesWith]
  number v ts h s hs := by
    have hv : v.quotation? = some s := by simpa [leaves_eq, ownLeaves, searchedParts] using hs
    rw [quotedLength, hv] at h
    dsimp only [Option.elim] at h
    omega
  plain h := by simp [TextsFit, leaves, namesWith, h]
  parts _ := textsFit_of_parts

/-! ### Quoted text -/

/-- The quoted pieces that are read stand one after the other in front of what is left. -/
theorem eq_append_of_many_quotedPiece {ts us : List Token} {ps : List QuotedPiece}
    (h : many quotedPiece ts = some (ps, us)) : ts = ps.map .quoted ++ us := by
  refine many_induction (R := fun ts ps us => ts = ps.map Token.quoted ++ us) (fun _ => rfl)
    (fun ts p us ps vs hp ih => ?_) h
  cases ts with
  | nil => cases hp
  | cons t ts =>
      obtain ⟨q, hq, heq⟩ := Option.map_eq_some_iff.mp hp
      cases heq
      cases t <;> cases hq
      rw [ih, List.map_cons, List.cons_append]

theorem eq_append_of_oneOrMore_quotedPiece {ts us : List Token} {ps : List QuotedPiece}
    (h : oneOrMore quotedPiece ts = some (ps, us)) :
    ps ≠ [] ∧ quotedLength ts = quotedLength (ps.map .quoted) + quotedLength us := by
  obtain ⟨⟨p, vs⟩, hp, h⟩ := Option.bind_eq_some_iff.mp h
  obtain ⟨⟨qs, ws⟩, hqs, h⟩ := Option.bind_eq_some_iff.mp h
  cases h
  obtain rfl := eq_append_of_many_quotedPiece hqs
  cases ts with
  | nil => cases hp
  | cons t ts =>
      obtain ⟨q, hq, heq⟩ := Option.map_eq_some_iff.mp hp
      cases heq
      cases t <;> cases hq
      refine ⟨by simp, ?_⟩
      rw [← quotedLength_append]
      rfl

variable {r : Rules} (hr : FieldFits n r.field)

include hr

theorem textPieces_fits {p : QuotedPiece} (hp : p.body.length + 2 ≤ n) :
    ∀ pieces ∈ textPieces r p, textLength pieces ≤ p.body.length ∧ FieldsFit n pieces := by
  unfold textPieces
  split
  · exact formattedPieces_fits hr _ hp
  · refine forall_mem_map.mpr fun points hpoints => ?_
    have hless := length_textOf _ _ _ hpoints
    have htextLength := textLength_ofPoints points []
    rw [textLength] at htextLength
    exact ⟨by omega, fieldsFit_cons_ofPoints.mpr fieldsFit_nil⟩

/-- All pieces of some quoted texts together have no more characters than stand between the quotes. -/
theorem mapM_textPieces_fits {ps : List QuotedPiece} (hps : quotedLength (ps.map .quoted) ≤ n)
    {pieces : List (List (Piece Expr))} (h : ps.mapM (textPieces r) = some pieces) :
    textLength pieces.flatten + 2 * ps.length ≤ quotedLength (ps.map .quoted) ∧
      FieldsFit n pieces.flatten := by
  induction ps generalizing pieces with
  | nil =>
      obtain rfl : pieces = [] := by simpa using h.symm
      exact ⟨Nat.le_refl _, fieldsFit_nil⟩
  | cons p ps ih =>
      rw [List.map_cons, quotedLength] at hps
      obtain ⟨qs, hqs, rest, hrest, rfl⟩ : ∃ qs, textPieces r p = some qs ∧
          ∃ rest, ps.mapM (textPieces r) = some rest ∧ qs :: rest = pieces := by
        simpa [List.mapM_cons, Option.bind_eq_some_iff] using h
      obtain ⟨hlength, hfields⟩ := textPieces_fits hr (by omega) qs hqs
      obtain ⟨hlengths, hall⟩ := ih (by omega) hrest
      rw [List.flatten_cons, textLength_append, List.map_cons, quotedLength, List.length_cons]
      exact ⟨by omega, hfields.append hall⟩

omit hr in
theorem mapM_textOf_fits {ps : List QuotedPiece} {texts : List (List CodePoint)}
    (h : ps.mapM (fun p => textOf p.raw p.body) = some texts) :
    texts.flatten.length + 2 * ps.length ≤ quotedLength (ps.map .quoted) := by
  induction ps generalizing texts with
  | nil =>
      obtain rfl : texts = [] := by simpa using h.symm
      exact Nat.le_refl _
  | cons p ps ih =>
      obtain ⟨text, htext, rest, hrest, rfl⟩ : ∃ text, textOf p.raw p.body = some text ∧
          ∃ rest, ps.mapM (fun p => textOf p.raw p.body) = some rest ∧ text :: rest = texts := by
        simpa [List.mapM_cons, Option.bind_eq_some_iff] using h
      have hless := length_textOf _ _ _ htext
      have hrests := ih hrest
      rw [List.flatten_cons, List.length_append, List.map_cons, quotedLength, List.length_cons]
      omega

omit hr in
theorem length_quotation (points : List CodePoint) (marked : Bool) :
    ∀ q ∈ (Literal.ofPoints points marked).quotation?, q.length ≤ points.length := by
  unfold Literal.ofPoints
  split
  · rename_i cs hcs
    rintro _ ⟨⟩
    rw [CodePoint.eq_map_char_of_chars hcs, List.length_map]
    exact Nat.le_of_eq String.length_ofList
  · rintro _ ⟨⟩
    exact Nat.zero_le _

theorem quotedRun_fits {ps : List QuotedPiece} (hne : ps ≠ [])
    (hps : quotedLength (ps.map .quoted) ≤ n) : ∀ e ∈ quotedRun r ps, e.TextsFit n := by
  have hcount := List.length_pos_iff.mpr hne
  unfold quotedRun
  split
  · refine forall_mem_bind.mpr fun _ _ => ?_
    simp [TextsFit, leaves, namesWith, Literal.quotation?]
  split
  · simp
  split
  · refine forall_mem_bind.mpr fun pieces hpieces => ?_
    obtain ⟨hlength, hfields⟩ := mapM_textPieces_fits hr hps hpieces
    have hjoined := textLength_joinTexts pieces.flatten
    simp only [Option.pure_def, Option.mem_def, Option.some.injEq, forall_eq']
    exact textsFit_formatted (by omega) hfields.joinTexts
  · refine forall_mem_bind.mpr fun texts htexts => ?_
    have hlength := mapM_textOf_fits htexts
    simp only [Option.pure_def, Option.mem_def, Option.some.injEq, forall_eq']
    refine textsFit_constant fun q hq => ?_
    have hless := length_quotation _ _ q hq
    omega

theorem quotedTexts_fits : Gives (fun ts => quotedLength ts ≤ n) (TextsFit n) (quotedTexts r) := by
  intro ts hts e us h
  obtain ⟨⟨ps, vs⟩, hps, h⟩ := Option.bind_eq_some_iff.mp h
  obtain ⟨e', he, h⟩ := Option.bind_eq_some_iff.mp h
  cases h
  obtain ⟨hne, hlength⟩ := eq_append_of_oneOrMore_quotedPiece hps
  exact ⟨quotedRun_fits hr hne (by omega) e he, by omega⟩

end

theorem fieldFits_fieldRule {n : Nat} {r : Rules}
    (hr : r.Keep (fun ts => quotedLength ts ≤ n) (TextsFit n)) : FieldFits n (fieldRule r) := by
  intro source hsource
  unfold fieldRule
  split
  · simp
  · refine forall_mem_bind.mpr fun ts hts => forall_mem_bind.mpr fun ⟨e, us⟩ he => ?_
    have hlength := quotedLength_scan _ ts hts
    simp only [List.length_cons, List.length_append, List.length_nil] at hlength
    have hfit := starExpressions_keeps hr ts (by omega) e us he
    simpa using hfit.1

theorem fit_upTo (n depth : Nat) :
    (upTo depth).Keep (fun ts => quotedLength ts ≤ n) (TextsFit n) :=
  keep_upTo (lasting_textsFit n) (FieldFits n) (by simp [FieldFits]) fieldFits_fieldRule
    quotedTexts_fits depth

namespace Expr

/-- A text in a read expression is shorter than the source, quotes not counted. -/
theorem length_lt_of_read {source : String} {e : Expr} (h : read source = .ok e) {q : Quotation}
    (hq : .text q ∈ e.leaves) : q.length < source.length := by
  unfold read at h
  extract_lets cs unified rules whole at h
  split at h
  · cases h
  · split at h
    · rename_i e' hread
      cases h
      obtain ⟨ts, hts, hrun⟩ := Option.bind_eq_some_iff.mp hread
      have hlength : quotedLength ts ≤ source.length :=
        Nat.le_trans (quotedLength_scan _ ts hts) (length_unifyLineEnds _)
      have hrules : rules.Keep (fun ts => quotedLength ts ≤ source.length) (TextsFit source.length) :=
        fit_upTo _ _
      have hwhole : Gives (fun ts => quotedLength ts ≤ source.length) (TextsFit source.length) whole := by
        refine (hrules.expression.listed hrules.rest).bind fun l hl => ?_
        exact (Gives.many (hrules.exactly _)).bind fun _ _ => gives_pure (hrules.tupleOf hl)
      unfold Reader.run at hrun
      split at hrun
      · rename_i hwholeRun
        cases hrun
        have hshort := (hwhole ts hlength e [] hwholeRun).1 q hq
        omega
      · cases hrun
    · cases h

end Expr

end TypedClients.Code
