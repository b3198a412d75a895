import TypedClients.Proofs.JoinedTexts
import TypedClients.Proofs.NameSearch
import TypedClients.Proofs.QuotedLengths
import TypedClients.Code.Format

/-!
# How long the texts of formatted text are

The texts of an expression are shorter than its source, formatted ones included: `TextsFit` says so of
one expression. Formatted text has no more characters outside its fields than stand between its quotes,
and each field has a source of its own, which is shorter again.
-/
namespace TypedClients.Code

open TypedClients.Text
open Code.Expr

/-! ### Texts in expressions -/

namespace Expr

/-- Every text that a search for names comes to would fit between two quotes in a source of the
given length. -/
def TextsFit (n : Nat) (e : Expr) : Prop := ∀ q, .text q ∈ e.leaves → q.length + 2 ≤ n

variable {n : Nat} {e : Expr}

theorem textsFit_of_parts (hown : e.ownLeaves = [])
    (h : ∀ part ∈ e.searchedParts, part.TextsFit n) : e.TextsFit n := by
  intro q hq
  rw [leaves_eq, hown, List.nil_append, List.mem_flatMap] at hq
  obtain ⟨part, hpart, hq⟩ := hq
  exact h part hpart q hq

theorem textsFit_constant {v : Literal} (h : ∀ q ∈ v.quotation?, q.length + 2 ≤ n) :
    (constant v).TextsFit n := by
  intro q hq
  refine h q ?_
  simpa [leaves_eq, ownLeaves, searchedParts] using hq

end Expr

/-! ### Formatted text -/

/-- How many characters stand in the texts without surrogates among some pieces. -/
def textLength : List (Piece Expr) → Nat
  | [] => 0
  | .text s :: pieces => s.length + textLength pieces
  | .brokenText _ :: pieces | .field .. :: pieces => textLength pieces

/-- Every text in the fields among some pieces would fit in a source of the given length. -/
def FieldsFit (n : Nat) (pieces : List (Piece Expr)) : Prop :=
  ∀ value conversion format, .field value conversion format ∈ pieces →
    value.TextsFit n ∧ ∀ inner ∈ format, (Expr.formatted inner).TextsFit n

section

variable {n : Nat}

theorem textLength_append (ps qs : List (Piece Expr)) :
    textLength (ps ++ qs) = textLength ps + textLength qs := by
  induction ps with
  | nil => simp [textLength]
  | cons p ps ih => cases p <;> simp [textLength, ih, Nat.add_assoc]

theorem length_le_textLength {s : String} {ps : List (Piece Expr)} (h : .text s ∈ ps) :
    s.length ≤ textLength ps := by
  obtain ⟨before, after, rfl⟩ := List.append_of_mem h
  rw [textLength_append, textLength]
  omega

/-- Texts that join one with surrogates no longer count. -/
theorem textLength_joinTexts (ps : List (Piece Expr)) :
    textLength (joinTexts ps) ≤ textLength ps := by
  fun_induction joinTexts ps with
  | case1 => exact Nat.le_refl _
  | case2 s ps t rest hjoin ih =>
      simp only [hjoin, textLength] at ih ⊢
      rw [String.length_append]
      omega
  | case3 s ps t rest hjoin ih | case6 t ps s rest hjoin ih | case7 t ps u rest hjoin ih =>
      simp only [hjoin, textLength] at ih ⊢
      omega
  | case4 ps _ _ ih => simpa [textLength] using ih
  | case5 s ps _ _ _ ih => simpa only [textLength, Nat.add_le_add_iff_left] using ih
  | case8 t ps _ _ ih => simpa only [textLength] using ih
  | case9 p ps htext hbroken ih =>
      obtain ⟨value, conversion, format, rfl⟩ := exists_eq_field htext hbroken
      simpa only [textLength] using ih

theorem textLength_ofPoints (points : List CodePoint) (ps : List (Piece Expr)) :
    textLength (.ofPoints points :: ps) ≤ points.length + textLength ps := by
  unfold Piece.ofPoints
  split
  · rename_i cs hcs
    rw [CodePoint.eq_map_char_of_chars hcs, textLength, String.length_ofList, List.length_map]
  · exact Nat.le_add_left _ _

theorem fieldsFit_nil : FieldsFit n [] := fun _ _ _ h => nomatch h

theorem fieldsFit_cons_text {s : String} {ps : List (Piece Expr)} :
    FieldsFit n (.text s :: ps) ↔ FieldsFit n ps := by simp [FieldsFit]

theorem fieldsFit_cons_brokenText {t : BrokenText} {ps : List (Piece Expr)} :
    FieldsFit n (.brokenText t :: ps) ↔ FieldsFit n ps := by simp [FieldsFit]

theorem fieldsFit_cons_ofPoints {points : List CodePoint} {ps : List (Piece Expr)} :
    FieldsFit n (.ofPoints points :: ps) ↔ FieldsFit n ps := by
  unfold Piece.ofPoints
  split
  · exact fieldsFit_cons_text
  · exact fieldsFit_cons_brokenText

theorem fieldsFit_cons_field {value : Expr} {conversion : Option Char}
    {format : Option (List (Piece Expr))} {ps : List (Piece Expr)} :
    FieldsFit n (.field value conversion format :: ps) ↔
      (value.TextsFit n ∧ ∀ inner ∈ format, (Expr.formatted inner).TextsFit n) ∧ FieldsFit n ps := by
  constructor
  · exact fun h => ⟨h _ _ _ List.mem_cons_self, fun v c f hf => h v c f (List.mem_cons_of_mem _ hf)⟩
  · rintro ⟨hfield, hps⟩ v c f hf
    rcases List.mem_cons.mp hf with heq | hf
    · cases heq
      exact hfield
    · exact hps v c f hf

theorem FieldsFit.append {ps qs : List (Piece Expr)} (hps : FieldsFit n ps) (hqs : FieldsFit n qs) :
    FieldsFit n (ps ++ qs) := fun v c f hf =>
  (List.mem_append.mp hf).elim (hps v c f) (hqs v c f)

theorem FieldsFit.joinTexts {ps : List (Piece Expr)} (h : FieldsFit n ps) :
    FieldsFit n (joinTexts ps) := by
  fun_induction Code.joinTexts ps with
  | case1 => exact h
  | case2 s ps t rest hjoin ih =>
      rw [fieldsFit_cons_text] at h ⊢
      exact fieldsFit_cons_text.mp (hjoin ▸ ih h)
  | case3 s ps t rest hjoin ih =>
      rw [fieldsFit_cons_brokenText]
      exact fieldsFit_cons_brokenText.mp (hjoin ▸ ih (fieldsFit_cons_text.mp h))
  | case4 ps _ _ ih => exact ih (fieldsFit_cons_text.mp h)
  | case5 s ps _ _ _ ih => exact fieldsFit_cons_text.mpr (ih (fieldsFit_cons_text.mp h))
  | case6 t ps s rest hjoin ih =>
      rw [fieldsFit_cons_brokenText] at h ⊢
      exact fieldsFit_cons_text.mp (hjoin ▸ ih h)
  | case7 t ps u rest hjoin ih =>
      rw [fieldsFit_cons_brokenText] at h ⊢
      exact fieldsFit_cons_brokenText.mp (hjoin ▸ ih h)
  | case8 t ps _ _ ih => exact fieldsFit_cons_brokenText.mpr (ih (fieldsFit_cons_brokenText.mp h))
  | case9 p ps htext hbroken ih =>
      obtain ⟨value, conversion, format, rfl⟩ := exists_eq_field htext hbroken
      rw [fieldsFit_cons_field] at h ⊢
      exact h.imp_right ih

theorem textsFit_formatted {pieces : List (Piece Expr)} (hlength : textLength pieces + 2 ≤ n)
    (hfields : FieldsFit n pieces) : (Expr.formatted pieces).TextsFit n := by
  refine textsFit_of_parts rfl fun part hpart => ?_
  obtain ⟨piece, hpiece, hpart⟩ := List.mem_flatMap.mp hpart
  cases piece with
  | text s =>
      obtain rfl : part = .string s := by simpa [pieceParts] using hpart
      have hs := length_le_textLength hpiece
      refine textsFit_constant fun q hq => ?_
      cases hq
      change s.length + 2 ≤ n
      omega
  | brokenText t =>
      obtain rfl : part = .constant (.brokenText t false) := by simpa [pieceParts] using hpart
      refine textsFit_constant fun q hq => ?_
      cases hq
      exact Nat.le_trans (Nat.le_add_left 2 _) hlength
  | field value conversion format =>
      obtain ⟨hvalue, hformat⟩ := hfields _ _ _ hpiece
      obtain rfl | ⟨inner, hinner, rfl⟩ :
          part = value ∨ ∃ inner ∈ format, .formatted inner = part := by
        simpa [pieceParts] using hpart
      · exact hvalue
      · exact hformat inner hinner

/-! ### Reading formatted text -/

theorem length_textRun (raw isFormat : Bool) (state : EscapeState) (cs : List Char) :
    ∀ x ∈ textRun raw isFormat state cs, x.1.length + x.2.1.length ≤ cs.length := by
  have hgo {c : Char} {cs : List Char} {o : Option (List Char × List Char × TextEnd)}
      (ih : ∀ x ∈ o, x.1.length + x.2.1.length ≤ cs.length) :
      ∀ x ∈ o.map fun x => (c :: x.1, x.2),
        x.1.length + x.2.1.length ≤ (c :: cs).length := by
    refine forall_mem_map.mpr fun x hx => ?_
    have hless := ih x hx
    simp only [List.length_cons]
    omega
  induction cs generalizing state with
  | nil => simp [textRun]
  | cons c cs ih =>
      unfold textRun
      extract_lets go
      have hgoes (state : EscapeState) :
          ∀ x ∈ go state, x.1.length + x.2.1.length ≤ (c :: cs).length := hgo (ih state)
      split
      · exact hgoes _
      · exact hgoes _
      · split
        · split
          · simp
          · split
            · split
              · simp
                omega
              · split <;> simp
            · split <;> simp
        · split
          · exact hgoes _
          · split <;> exact hgoes _

theorem length_fieldSource (quote : Option (Char × Bool)) (closers : List Char) (skip : Nat)
    (cs : List Char) :
    ∀ x ∈ fieldSource quote closers skip cs,
      x.1.length + x.2.length ≤ cs.length ∧ 0 < x.2.length := by
  induction cs generalizing quote closers skip with
  | nil => simp [fieldSource]
  | cons c cs ih =>
      unfold fieldSource
      extract_lets go
      have hgo (quote : Option (Char × Bool)) (closers : List Char) (skip : Nat) :
          ∀ x ∈ go quote closers skip,
            x.1.length + x.2.length ≤ (c :: cs).length ∧ 0 < x.2.length := by
        refine forall_mem_map.mpr fun x hx => ?_
        obtain ⟨hless, hrest⟩ := ih quote closers skip x hx
        refine ⟨?_, hrest⟩
        simp only [List.length_cons]
        omega
      repeat' split
      all_goals first | exact hgo _ _ _ | simp

/-- What a reader of a format leaves, together with the texts in the format, is no longer than what
it reads, and texts in its fields would fit in a source of the given length. -/
def FormatFits (n : Nat) (format : List Char → Option (List (Piece Expr) × List Char)) : Prop :=
  ∀ cs, cs.length + 2 ≤ n → ∀ x ∈ format cs,
    textLength x.1 + x.2.length ≤ cs.length ∧ FieldsFit n x.1

/-- What follows the source of a field: the conversion, the format and the closing brace. `shown` is
what an equals sign shows. -/
def fieldEnd (format : List Char → Option (List (Piece Expr) × List Char)) (e : Expr)
    (shown : Option (List Char)) (rest : List Char) :
    Option (List Char × Piece Expr × List Char) := do
  let (conversion, rest) ← match rest with
    | '!' :: c :: after => if isConversion c then some (some c, after) else none
    | ['!'] => none
    | _ => some (none, rest)
  let (spec, rest) ← match rest with
    | ':' :: after => (format after).map fun (pieces, rest) => (some pieces, rest)
    | _ => some (none, rest)
  match rest with
  | '\x7d' :: after =>
      let conversion :=
        if shown.isSome ∧ spec.isNone ∧ conversion.isNone then some 'r' else conversion
      return (shown.getD [], .field e conversion spec, after)
  | _ => none

theorem fieldEnd_fits {e : Expr} (he : e.TextsFit n)
    {format : List Char → Option (List (Piece Expr) × List Char)} (hformat : FormatFits n format)
    (shown : Option (List Char)) {rest : List Char} (hrest : rest.length + 1 ≤ n) :
    ∀ x ∈ fieldEnd format e shown rest, x.1 = shown.getD [] ∧ x.2.2.length < rest.length ∧
      textLength [x.2.1] = 0 ∧ FieldsFit n [x.2.1] := by
  unfold fieldEnd
  extract_lets convert
  have hconvert (conversion : Option Char) {after : List Char} (hafter : after.length ≤ rest.length) :
      ∀ x ∈ convert (conversion, after), x.1 = shown.getD [] ∧ x.2.2.length < rest.length ∧
        textLength [x.2.1] = 0 ∧ FieldsFit n [x.2.1] := by
    dsimp -zeta only [convert]
    extract_lets close
    have hclose {spec : Option (List (Piece Expr))} {after : List Char}
        (hspec : ∀ inner ∈ spec, (Expr.formatted inner).TextsFit n)
        (hafter : after.length ≤ rest.length) :
        ∀ x ∈ close (spec, after), x.1 = shown.getD [] ∧ x.2.2.length < rest.length ∧
          textLength [x.2.1] = 0 ∧ FieldsFit n [x.2.1] := by
      dsimp only [close]
      split
      · rename_i after
        simp only [Option.pure_def, Option.mem_def, Option.some.injEq, forall_eq', true_and]
        exact ⟨hafter, rfl, fieldsFit_cons_field.mpr ⟨⟨he, hspec⟩, fieldsFit_nil⟩⟩
      · simp
    split
    · refine forall_mem_bind.mpr (forall_mem_map.mpr fun ⟨inner, after⟩ hinner => ?_)
      rw [List.length_cons] at hafter
      obtain ⟨hlength, hfields⟩ := hformat _ (by omega) _ hinner
      dsimp only at hlength hfields
      refine hclose ?_ (by dsimp only; omega)
      simpa using textsFit_formatted (by omega) hfields
    · exact hclose (by simp) hafter
  split
  · split
    · exact hconvert _ (by simp; omega)
    · simp
  · simp
  · exact hconvert _ (Nat.le_refl _)

/-- What a field shows of its own source is no longer than what is read of it. -/
theorem readField_fits {value : List Char → Option Expr}
    (hvalue : ∀ source, source.length + 4 ≤ n → ∀ e ∈ value source, e.TextsFit n)
    {format : List Char → Option (List (Piece Expr) × List Char)} (hformat : FormatFits n format)
    {cs : List Char} (hcs : cs.length + 3 ≤ n) :
    ∀ x ∈ readField value format cs, x.1.length + x.2.2.length < cs.length ∧
      textLength [x.2.1] = 0 ∧ FieldsFit n [x.2.1] := by
  unfold readField
  refine forall_mem_bind.mpr fun ⟨source, rest⟩ hsource => ?_
  refine forall_mem_bind.mpr fun e he => ?_
  obtain ⟨hlength, hrest⟩ := length_fieldSource _ _ _ _ _ hsource
  dsimp only at hlength hrest
  have hend (shown : Option (List Char)) {after : List Char}
      (hshown : (shown.getD []).length + after.length ≤ cs.length) :
      ∀ x ∈ fieldEnd format e shown after, x.1.length + x.2.2.length < cs.length ∧
        textLength [x.2.1] = 0 ∧ FieldsFit n [x.2.1] := by
    intro x hx
    obtain ⟨heq, hless, hpiece⟩ :=
      fieldEnd_fits (hvalue source (by omega) e he) hformat shown (by omega) x hx
    exact ⟨by rw [heq]; omega, hpiece⟩
  dsimp -zeta only
  split
  -- what an equals sign shows and what is left after it were read one after the other
  · rename_i after
    have hparts := congrArg List.length (after.takeWhile_append_dropWhile (p := isAsciiBlank))
    simp only [List.length_append, List.length_cons] at hlength hparts
    refine hend (some (source ++ '=' :: after.takeWhile isAsciiBlank)) ?_
    simp only [List.length_append, Option.getD_some, List.length_cons]
    omega
  · exact hend none (by simpa using Nat.le_trans (Nat.le_add_left _ _) hlength)

theorem readPieces_fits {value : List Char → Option Expr}
    (hvalue : ∀ source, source.length + 4 ≤ n → ∀ e ∈ value source, e.TextsFit n)
    (raw isFormat : Bool) {format : Option (List Char → Option (List (Piece Expr) × List Char))}
    (hformat : ∀ f ∈ format, FormatFits n f) (bound : Nat) :
    FormatFits n (readPieces value raw isFormat format bound) := by
  induction bound with
  | zero => simp [FormatFits, readPieces]
  | succ bound ih =>
      intro cs hcs
      rw [readPieces]
      refine forall_mem_bind.mpr fun ⟨run, rest, how⟩ hrun => ?_
      refine forall_mem_bind.mpr fun text htext => ?_
      have hlength := length_textRun _ _ _ _ _ hrun
      have hless := length_textOf _ _ _ htext
      dsimp only at hlength hless ⊢
      cases how with
      | doubled =>
          refine forall_mem_bind.mpr fun ⟨pieces, after⟩ hpieces => ?_
          obtain ⟨hafter, hfields⟩ := ih rest (by omega) _ hpieces
          simp only [Option.pure_def, Option.mem_def, Option.some.injEq, forall_eq'] at hafter ⊢
          have htextLength := textLength_ofPoints text pieces
          exact ⟨by omega, fieldsFit_cons_ofPoints.mpr hfields⟩
      | brace =>
          dsimp only
          split
          · rename_i after
            refine forall_mem_bind.mpr fun f hf => ?_
            obtain rfl : format = some f := hf
            rw [List.length_cons] at hlength
            refine forall_mem_bind.mpr fun ⟨shown, field, rest⟩ hfield => ?_
            obtain ⟨hshown, hnone, hfit⟩ := readField_fits hvalue (hformat f rfl) (by omega) _ hfield
            refine forall_mem_bind.mpr fun ⟨pieces, after⟩ hpieces => ?_
            dsimp only at hshown hnone hfit hpieces
            obtain ⟨hafter, hfields⟩ := ih rest (by omega) _ hpieces
            simp only [Option.pure_def, Option.mem_def, Option.some.injEq, forall_eq'] at hafter ⊢
            have hsum := textLength_append [field] pieces
            rw [List.singleton_append] at hsum
            have htextLength :=
              textLength_ofPoints text (.text (String.ofList shown) :: field :: pieces)
            rw [textLength, String.length_ofList] at htextLength
            exact ⟨by omega,
              fieldsFit_cons_ofPoints.mpr (fieldsFit_cons_text.mpr (hfit.append hfields))⟩
          · simp only [Option.pure_def, Option.mem_def, Option.some.injEq, forall_eq']
            have htextLength := textLength_ofPoints text []
            rw [textLength] at htextLength
            exact ⟨by omega, fieldsFit_cons_ofPoints.mpr fieldsFit_nil⟩

theorem FormatFits.joinTexts {format : List Char → Option (List (Piece Expr) × List Char)}
    (h : FormatFits n format) :
    FormatFits n fun cs => do
      let (pieces, rest) ← format cs
      return (Code.joinTexts pieces, rest) := by
  intro cs hcs
  refine forall_mem_bind.mpr fun ⟨pieces, rest⟩ hpieces => ?_
  obtain ⟨hlength, hfields⟩ := h cs hcs _ hpieces
  simp only [Option.pure_def, Option.mem_def, Option.some.injEq, forall_eq']
  have hjoined := textLength_joinTexts pieces
  exact ⟨Nat.le_trans (Nat.add_le_add_right hjoined _) hlength, hfields.joinTexts⟩

/-- The texts in formatted text are no longer than what stands between its quotes. -/
theorem formattedPieces_fits {value : List Char → Option Expr}
    (hvalue : ∀ source, source.length + 4 ≤ n → ∀ e ∈ value source, e.TextsFit n)
    (raw : Bool) {body : List Char} (hbody : body.length + 2 ≤ n) :
    ∀ pieces ∈ formattedPieces value raw body,
      textLength pieces ≤ body.length ∧ FieldsFit n pieces := by
  unfold formattedPieces
  extract_lets bound inner outer
  have hinner : FormatFits n inner := (readPieces_fits hvalue raw true (by simp) bound).joinTexts
  have houter : FormatFits n outer :=
    (readPieces_fits hvalue raw true (by simpa using hinner) bound).joinTexts
  refine forall_mem_bind.mpr fun ⟨pieces, rest⟩ hpieces => ?_
  obtain ⟨hlength, hfields⟩ :=
    readPieces_fits hvalue raw false (by simpa using houter) bound body hbody _ hpieces
  dsimp only at hlength hfields ⊢
  split
  · simp only [Option.mem_def, Option.some.injEq, forall_eq']
    exact ⟨by omega, hfields⟩
  · simp

end

end TypedClients.Code
