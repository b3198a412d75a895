import Mathlib.Data.List.Basic
import TypedClients.Code.Escape
import TypedClients.Code.Token.Scan
import TypedClients.Source.Names

/-!
# How long quoted texts are

Every quoted text among the tokens of a source takes its own characters and two quotes at least, and no
two tokens share a character. So all quoted texts together are shorter than the source:
`quotedLength_scan`. What a quoted text denotes is no longer than what stands between the quotes.
-/
namespace TypedClients.Code

open TypedClients.Text

theorem forall_mem_bind {α β : Type} {o : Option α} {f : α → Option β} {P : β → Prop} :
    (∀ b ∈ o >>= f, P b) ↔ ∀ a ∈ o, ∀ b ∈ f a, P b := by
  cases o <;> simp

theorem forall_mem_map {α β : Type} {o : Option α} {f : α → β} {P : β → Prop} :
    (∀ b ∈ o.map f, P b) ↔ ∀ a ∈ o, P (f a) := by
  cases o <;> simp

namespace Token

/-- The characters that the texts in some tokens take at least, with their quotes. No number that is
read is a text. -/
def quotedLength : List Token → Nat
  | [] => 0
  | .quoted p :: ts => p.body.length + 2 + quotedLength ts
  | .number v :: ts => (v.quotation?.elim 0 fun q => q.length + 2) + quotedLength ts
  | _ :: ts => quotedLength ts

theorem quotedLength_append (ts us : List Token) :
    quotedLength (ts ++ us) = quotedLength ts + quotedLength us := by
  induction ts with
  | nil => simp [quotedLength]
  | cons t ts ih =>
      cases t <;> simp only [List.cons_append, quotedLength, ih] <;> omega

theorem quotedLength_cons (t : Token) (ts : List Token) :
    quotedLength (t :: ts) = quotedLength [t] + quotedLength ts :=
  quotedLength_append [t] ts

/-! ### Numbers -/

theorem length_digitGroup (isDigit : Char → Bool) (cs : List Char) :
    ∀ x ∈ digitGroup isDigit cs, x.2.length ≤ cs.length := by
  fun_induction digitGroup isDigit cs with
  | case3 c cs _ ih | case5 c cs _ _ _ ih =>
      refine forall_mem_map.mpr fun x hx => ?_
      have hless := ih x hx
      simp only [List.length_cons]
      omega
  | _ => simp

theorem length_exponentPart (cs : List Char) :
    ∀ x ∈ exponentPart cs, x.2.length ≤ cs.length := by
  have hgroup {after : List Char} {f : List Char × List Char → Option (Option Int × List Char)}
      (hafter : after.length ≤ cs.length) (hf : ∀ y, ∀ x ∈ f y, x.2 = y.2) :
      ∀ x ∈ digitGroup isDigit after >>= f, x.2.length ≤ cs.length :=
    forall_mem_bind.mpr fun y hy x hx =>
      hf y x hx ▸ Nat.le_trans (length_digitGroup _ _ y hy) hafter
  unfold exponentPart
  split
  case h_3 => simp
  all_goals
    split
    case h_4 => simp
    all_goals
      split
      · exact hgroup (by simp) (by simp)
      · simp

theorem length_decimalNumber (cs : List Char) :
    ∀ x ∈ decimalNumber cs, x.1.quotation? = none ∧ x.2.length ≤ cs.length := by
  unfold decimalNumber
  refine forall_mem_bind.mpr fun ⟨whole, rest⟩ hwhole => ?_
  have hrest := length_digitGroup _ _ _ hwhole
  dsimp -zeta only at hrest ⊢
  extract_lets finish
  have hfinish (fraction : Option (List Char)) {rest : List Char}
      (hrest : rest.length ≤ cs.length) :
      ∀ x ∈ finish (fraction, rest), x.1.quotation? = none ∧ x.2.length ≤ cs.length := by
    refine forall_mem_bind.mpr fun ⟨exponent, after⟩ hexponent => ?_
    have hafter : after.length ≤ cs.length :=
      Nat.le_trans (length_exponentPart _ _ hexponent) hrest
    dsimp only
    split
    · split <;> simp_all [Literal.quotation?]
      omega
    · split <;> simp_all [Literal.quotation?]
      omega
    · split
      · simp
      · split
        · split <;> simp_all [Literal.quotation?]
        · simp_all [Literal.quotation?]
  split
  · split
    · refine forall_mem_bind.mpr (forall_mem_map.mpr fun x hx => hfinish _ ?_)
      have hless := length_digitGroup _ _ _ hx
      simp at hrest
      omega
    · exact hfinish _ (by simp at hrest; omega)
  · exact hfinish _ hrest

theorem length_radixNumber (base : Nat) (isDigit : Char → Bool) (cs : List Char) :
    ∀ x ∈ radixNumber base isDigit cs, x.1.quotation? = none ∧ x.2.length ≤ cs.length := by
  unfold radixNumber
  refine forall_mem_bind.mpr fun ⟨digits, rest⟩ hdigits => ?_
  have hrest := length_digitGroup _ _ _ hdigits
  dsimp only at hrest ⊢
  split <;> simp_all [Literal.quotation?]

theorem length_numeral (cs : List Char) :
    ∀ x ∈ numeral cs, x.1.quotation? = none ∧ x.2.length ≤ cs.length := by
  have hradix {after : List Char} (hafter : after.length ≤ cs.length) (base : Nat)
      (isDigit : Char → Bool) :
      ∀ x ∈ radixNumber base isDigit after, x.1.quotation? = none ∧ x.2.length ≤ cs.length :=
    fun x hx => (length_radixNumber _ _ _ x hx).imp_right (Nat.le_trans · hafter)
  unfold numeral
  split
  case h_7 => exact length_decimalNumber _
  all_goals exact hradix (by simp; omega) _ _

/-! ### Quoted texts and words -/

theorem length_untilQuote (quote : Char) (triple : Bool) (cs : List Char) :
    ∀ x ∈ untilQuote quote triple cs, x.1.length + 1 + x.2.length ≤ cs.length := by
  have hgoes (skipped : List Char) {rest : List Char} {o : Option (List Char × List Char)}
      (ih : ∀ x ∈ o, x.1.length + 1 + x.2.length ≤ rest.length) :
      ∀ x ∈ o.map fun x => (skipped ++ x.1, x.2),
        x.1.length + 1 + x.2.length ≤ (skipped ++ rest).length := by
    refine forall_mem_map.mpr fun x hx => ?_
    have hless := ih x hx
    simp only [List.length_append]
    omega
  fun_induction untilQuote quote triple cs with
  | case1 | case2 | case7 => simp
  | case3 c cs ih => exact hgoes ['\\', c] ih
  | case4 | case6 => simp; omega
  | case5 c _ _ _ _ _ ih | case8 c _ _ _ _ _ _ ih => exact hgoes [c] ih

theorem length_quotedText (marker cs : List Char) :
    ∀ x ∈ quotedText marker cs, quotedLength [x.1] + x.2.length ≤ cs.length := by
  unfold quotedText
  split
  · simp
  · refine forall_mem_bind.mpr fun ⟨body, after⟩ hbody => ?_
    have hless := length_untilQuote _ _ _ _ hbody
    dsimp only at hless
    simp only [Option.pure_def, Option.mem_def, Option.some.injEq, forall_eq', quotedLength,
      List.length_cons]
    split at hless
    · rw [List.length_drop] at hless
      omega
    · omega

theorem length_wordToken (cs : List Char) :
    ∀ x ∈ wordToken cs, quotedLength [x.1] + x.2.length ≤ cs.length := by
  have hrest : (cs.dropWhile isWordChar).length ≤ cs.length :=
    (List.dropWhile_suffix isWordChar).length_le
  unfold wordToken
  extract_lets text rest quoteFollows name
  split
  · exact fun x hx => Nat.le_trans (length_quotedText _ _ x hx) hrest
  · split
    · simp only [Option.mem_def, Option.some.injEq, forall_eq']
      split <;> simpa [quotedLength] using hrest
    · split
      · simpa [quotedLength] using hrest
      · simp

theorem length_operator (cs : List Char) : ∀ x ∈ operator cs, x.2.length ≤ cs.length := by
  unfold operator
  exact forall_mem_map.mpr fun s _ => by simp

/-! ### Lines -/

theorem length_indentation (column other kept : Nat) (cs : List Char) :
    ∀ x ∈ indentation column other kept cs, x.2.2.length ≤ cs.length := by
  have hmore (skipped : List Char) {rest : List Char} {o : Option (Nat × Nat × List Char)}
      (ih : ∀ x ∈ o, x.2.2.length ≤ rest.length) :
      ∀ x ∈ o, x.2.2.length ≤ (skipped ++ rest).length := fun x hx => by
    have hless := ih x hx
    rw [List.length_append]
    omega
  fun_induction indentation column other kept cs with
  | case1 _ _ _ _ ih => exact hmore [' '] ih
  | case2 _ _ _ _ ih => exact hmore ['\t'] ih
  | case3 _ _ _ _ ih => exact hmore ['\x0c'] ih
  | case5 _ _ _ _ _ ih => exact hmore ['\\', '\n'] ih
  | case4 | case6 | case7 => simp

/-- The tokens that tell how lines begin and end. -/
def lineTokens : List Token := [.newline, .indent, .dedent]

theorem lineTokens_dedent (column other count : Nat) (levels : List (Nat × Nat)) :
    ∀ x ∈ relevel.dedent column other count levels, ∀ t ∈ x.1, t ∈ lineTokens := by
  fun_induction relevel.dedent column other count levels with
  | case1 | case4 => simp
  | case2 _ _ _ _ _ ih => exact ih
  | case3 => simp +contextual [lineTokens]

theorem lineTokens_relevel (column other : Nat) (levels : List (Nat × Nat)) :
    ∀ x ∈ relevel column other levels, ∀ t ∈ x.1, t ∈ lineTokens := by
  unfold relevel
  split
  · simp
  · split
    · split <;> simp
    · split
      · split <;> simp [lineTokens]
      · exact lineTokens_dedent _ _ _ _

/-- What holds of a source and its tokens when it holds of what is left after any step of scanning, and
of the tokens of that. -/
structure KeptByScan (R : List Char → List Token → Prop) : Prop where
  nil : ∀ cs, R cs []
  skip : ∀ {cs rest ts}, rest.length ≤ cs.length → R rest ts → R cs ts
  line : ∀ {cs tokens ts}, (∀ t ∈ tokens, t ∈ lineTokens) → R cs ts → R cs (tokens ++ ts)
  number : ∀ {cs ts}, ∀ x ∈ numeral cs, R x.2 ts → R cs (.number x.1 :: ts)
  quoted : ∀ {cs ts}, ∀ x ∈ quotedText [] cs, R x.2 ts → R cs (x.1 :: ts)
  word : ∀ {c cs ts}, isWordChar c = true → isDigit c = false →
    ∀ x ∈ wordToken (c :: cs), R x.2 ts → R (c :: cs) (x.1 :: ts)
  op : ∀ {cs rest symbol ts}, rest.length ≤ cs.length → R rest ts → R cs (.op symbol :: ts)

namespace KeptByScan

variable {R : List Char → List Token → Prop} (hR : KeptByScan R) {fuel : Nat}
  (h : ∀ levels closers lineStart cs, ∀ ts ∈ scanFrom fuel levels closers lineStart cs, R cs ts)
  {cs rest : List Char} (levels : List (Nat × Nat)) (closers : List String) (lineStart : Bool)

include h

theorem cons {t : Token} (ht : ∀ {ts}, R rest ts → R cs (t :: ts)) :
    ∀ ts ∈ (do return t :: (← scanFrom fuel levels closers lineStart rest)), R cs ts := by
  refine forall_mem_bind.mpr fun ts hts => ?_
  simp only [Option.pure_def, Option.mem_def, Option.some.injEq, forall_eq']
  exact ht (h levels closers lineStart rest ts hts)

include hR

theorem skipped (hrest : rest.length ≤ cs.length) :
    ∀ ts ∈ scanFrom fuel levels closers lineStart rest, R cs ts :=
  fun ts hts => hR.skip hrest (h levels closers lineStart rest ts hts)

theorem atLineStart : ∀ ts ∈ scanFrom (fuel + 1) levels closers true cs, R cs ts := by
  rw [scanFrom]
  refine forall_mem_bind.mpr fun ⟨column, other, rest⟩ hindentation => ?_
  have hrest := length_indentation _ _ _ _ _ hindentation
  dsimp only at hrest ⊢
  split
  · have hline := (List.dropWhile_suffix (p := (· != '\n')) (l := rest)).length_le
    split
    · exact hR.skipped h levels closers false (Nat.zero_le _)
    · rename_i heq
      rw [heq, List.length_cons] at hline
      exact hR.skipped h levels closers true (by omega)
  · refine forall_mem_bind.mpr fun ⟨tokens, levels⟩ hlevels => ?_
    refine forall_mem_bind.mpr fun ts hts => ?_
    simp only [Option.pure_def, Option.mem_def, Option.some.injEq, forall_eq']
    exact hR.line (lineTokens_relevel _ _ _ _ hlevels) (hR.skip hrest (h _ _ _ _ ts hts))

theorem insideLine : ∀ ts ∈ scanFrom (fuel + 1) levels closers false cs, R cs ts := by
  unfold scanFrom
  split
  · split
    · simpa using hR.nil _
    · simp
  · split
    · refine cons h levels closers true fun hts => ?_
      have htokens : ∀ t ∈ [Token.newline], t ∈ lineTokens := by simp [lineTokens]
      exact hR.line htokens (hR.skip (by simp) hts)
    · exact hR.skipped h levels closers false (by simp)
  · split
    · exact hR.skipped h levels closers false (by simp)
    · simp
  · rename_i rest
    have hline := (List.dropWhile_suffix (p := (· != '\n')) (l := rest)).length_le
    exact hR.skipped h levels closers false (Nat.le_succ_of_le hline)
  · rename_i c rest _ _ _
    split
    · exact hR.skipped h levels closers false (by simp)
    split
    · exact forall_mem_bind.mpr fun x hx => cons h levels closers false (hR.number x hx)
    split
    · exact forall_mem_bind.mpr fun x hx => cons h levels closers false (hR.quoted x hx)
    split
    · rename_i hdigit _ hword
      have hstart : isDigit c = false := Bool.eq_false_iff.mpr fun hc => hdigit (.inl hc)
      exact forall_mem_bind.mpr fun x hx => cons h levels closers false (hR.word hword hstart x hx)
    · refine forall_mem_bind.mpr fun ⟨symbol, after⟩ hsymbol => ?_
      have hop {ts} : R after ts → R (c :: rest) (.op symbol :: ts) :=
        hR.op (length_operator _ _ hsymbol)
      dsimp only
      split
      · split
        · exact forall_mem_bind.mpr (by simp)
        · exact cons h levels _ false hop
      · split
        · split
          · simp
          · split
            · exact cons h levels _ false hop
            · simp
        · exact cons h levels closers false hop

end KeptByScan

/-- What every step of scanning keeps holds of a source and its tokens. -/
theorem KeptByScan.scan {R : List Char → List Token → Prop} (hR : KeptByScan R) (cs : List Char) :
    ∀ ts ∈ scan cs, R cs ts := by
  have hfrom (fuel : Nat) : ∀ levels closers lineStart cs,
      ∀ ts ∈ scanFrom fuel levels closers lineStart cs, R cs ts := by
    induction fuel with
    | zero => simp [scanFrom]
    | succ fuel ih =>
        intro levels closers lineStart cs
        cases lineStart with
        | true => exact hR.atLineStart ih levels closers
        | false => exact hR.insideLine ih levels closers
  exact hfrom _ _ _ _ cs

/-- No source has more quoted text in its tokens than it is long. -/
theorem keptByScan_quotedLength : KeptByScan fun cs ts => quotedLength ts ≤ cs.length where
  nil _ := Nat.zero_le _
  skip hrest hts := Nat.le_trans hts hrest
  line {cs tokens ts} htokens hts := by
    have hnone : quotedLength tokens = 0 := by
      induction tokens with
      | nil => rfl
      | cons t tokens ih =>
          obtain ⟨ht, htokens⟩ := List.forall_mem_cons.mp htokens
          rw [quotedLength_cons, ih htokens]
          simp only [lineTokens, List.mem_cons, List.not_mem_nil, or_false] at ht
          rcases ht with rfl | rfl | rfl <;> rfl
    rw [quotedLength_append]
    omega
  number x hx hts := by
    obtain ⟨hnone, hless⟩ := length_numeral _ x hx
    simpa [quotedLength, hnone] using Nat.le_trans hts hless
  quoted x hx hts := by
    have hless := length_quotedText _ _ x hx
    rw [quotedLength_cons]
    omega
  word _ _ x hx hts := by
    have hless := length_wordToken _ x hx
    rw [quotedLength_cons]
    omega
  op hrest hts := Nat.le_trans hts hrest

/-- All quoted texts of a source together are no longer than the source. -/
theorem quotedLength_scan (cs : List Char) : ∀ ts ∈ scan cs, quotedLength ts ≤ cs.length :=
  keptByScan_quotedLength.scan cs

end Token

/-! ### What quoted texts denote -/

theorem length_hexDigits (count value : Nat) (cs : List Char) :
    ∀ x ∈ hexDigits count value cs, x.2.length ≤ cs.length := by
  fun_induction hexDigits count value cs with
  | case1 | case2 => simp
  | case3 value count c cs ih =>
      exact forall_mem_bind.mpr fun d _ x hx => Nat.le_succ_of_le (ih d x hx)

theorem length_octalDigits (count value : Nat) (cs : List Char) :
    (octalDigits count value cs).2.length ≤ cs.length := by
  fun_induction octalDigits count value cs with
  | case1 | case2 | case4 => simp
  | case3 _ _ _ _ _ _ ih => exact Nat.le_succ_of_le ih

theorem length_bracedName (cs : List Char) : ∀ x ∈ bracedName? cs, x.2.length ≤ cs.length := by
  fun_cases bracedName? cs with
  | case1 cs d rest hrest =>
      rintro _ ⟨⟩
      have hless := (List.dropWhile_sublist (l := cs) (· ≠ '\x7d')).length_le
      rw [hrest] at hless
      simp only [List.length_cons] at hless ⊢
      omega
  | case2 | case3 => simp

theorem length_unescapeUpTo (n : Nat) (cs : List Char) :
    ∀ ds ∈ unescapeUpTo n cs, ds.length ≤ cs.length := by
  have hmore (front : List CodePoint) {o : Option (List CodePoint)} {rest cs : List Char}
      (ih : ∀ ds ∈ o, ds.length ≤ rest.length) (hlength : front.length + rest.length ≤ cs.length) :
      ∀ ds ∈ o.map (front ++ ·), ds.length ≤ cs.length := by
    refine forall_mem_map.mpr fun ds hds => ?_
    have hless := ih ds hds
    rw [List.length_append]
    omega
  have hone {o : Option (List CodePoint)} {rest cs : List Char} (d : CodePoint)
      (ih : ∀ ds ∈ o, ds.length ≤ rest.length) (hlength : 1 + rest.length ≤ cs.length) :
      ∀ ds ∈ (do return d :: (← o)), ds.length ≤ cs.length := by
    cases o with
    | none => simp
    | some ds => exact hmore [d] ih hlength
  fun_induction unescapeUpTo n cs with
  | case1 | case2 | case3 => simp
  | case4 _ _ ih => exact fun ds hds => Nat.le_trans (ih ds hds) (by simp; omega)
  | case5 _ _ _ _ d _ ih =>
      refine hmore [.char d] ih ?_
      simp only [List.length_cons, List.length_nil]
      omega
  | case6 _ c cs _ _ value rest hdigits _ ih =>
      have hrest := length_octalDigits 3 0 (c :: cs)
      rw [hdigits] at hrest
      refine hone _ ih ?_
      simp only [List.length_cons] at hrest ⊢
      omega
  | case7 _ cs _ _ _ ih =>
      refine forall_mem_bind.mpr fun ⟨name, rest⟩ hname => forall_mem_bind.mpr fun d _ => ?_
      have hrest := length_bracedName _ _ hname
      refine hone (.char d) (ih rest) ?_
      simp only [List.length_cons] at hrest ⊢
      omega
  | case8 _ _ cs _ _ _ _ _ _ ih =>
      refine forall_mem_bind.mpr fun ⟨value, rest⟩ hdigits => forall_mem_bind.mpr fun d _ => ?_
      have hrest := length_hexDigits _ _ _ _ hdigits
      refine hone d (ih rest) ?_
      simp only [List.length_cons] at hrest ⊢
      omega
  | case9 _ c _ _ _ _ _ _ ih => exact hmore [.char '\\', .char c] ih (by simp; omega)
  | case10 _ c _ _ _ ih => exact hmore [.char c] ih (by simp; omega)

/-- A quoted text denotes no more characters than it has. -/
theorem length_textOf (raw : Bool) (cs : List Char) :
    ∀ ds ∈ textOf raw cs, ds.length ≤ cs.length := by
  cases raw with
  | true => simp [textOf]
  | false => exact length_unescapeUpTo _ cs

end TypedClients.Code
