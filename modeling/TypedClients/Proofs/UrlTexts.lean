import TypedClients.Proofs.Dispatch
import TypedClients.Proofs.FormattedText
import TypedClients.Proofs.JoinedTexts
import TypedClients.Proofs.Sequencing

/-!
# The text of a URL

A URL is put together from texts and the values of names. What is written for it is read back as the
same expression, and its value is that of its parts one after the other: `concatenation_of_source`.
-/
namespace TypedClients

open Code

namespace Client

open Evaluation Text

/-! ### Parts of bare text and of names -/

/-- A text without quotes and escapes, or a name that a value can be given to. -/
def UrlPart.IsPlain : UrlPart → Prop
  | text s => ∀ c ∈ s.toList, IsBare c
  | value name => Expr.IsPlainName name ∧ name ≠ debugName

def UrlPart.glyphs : UrlPart → List Glyph
  | text s => s.toList.map .char
  | value name => [.value name]

theorem UrlPart.isPlain_of_mem_glyphs {part : UrlPart} (h : part.IsPlain) :
    ∀ g ∈ part.glyphs, g.IsPlain := by
  cases part with
  | text s => exact List.forall_mem_map.mpr h
  | value name => exact List.forall_mem_singleton.mpr h.1

theorem joinTexts_chars_append (cs : List Char) (ps : List (Piece Expr)) :
    joinTexts ((cs.map Glyph.char).map Glyph.piece ++ ps) =
      joinTexts (.text (String.ofList cs) :: ps) := by
  induction cs with
  | nil => rw [String.ofList_nil, joinTexts_text_empty]; rfl
  | cons c cs ih =>
      rw [String.ofList_cons, joinTexts_text_append]
      exact joinTexts_cons_congr _ ih

theorem joinTexts_pieces (parts : List UrlPart) :
    joinTexts (parts.map UrlPart.piece) =
      joinTexts ((parts.flatMap UrlPart.glyphs).map Glyph.piece) := by
  induction parts with
  | nil => rfl
  | cons part parts ih =>
      rw [List.flatMap_cons, List.map_append, List.map_cons]
      cases part with
      | text s =>
          rw [UrlPart.glyphs, joinTexts_chars_append, String.ofList_toList]
          exact joinTexts_cons_congr _ ih
      | value name => exact joinTexts_cons_congr _ ih

/-! ### Plain texts -/

theorem mapM_text?_eq_none_iff {parts : List UrlPart} :
    parts.mapM UrlPart.text? = none ↔ ∃ name, UrlPart.value name ∈ parts := by
  rw [mapM_eq_none_iff]
  constructor
  · rintro ⟨_ | name, hmem, htext⟩
    · cases htext
    · exact ⟨name, hmem⟩
  · rintro ⟨name, hmem⟩
    exact ⟨_, hmem, rfl⟩

/-- Parts without values are one text. -/
theorem concatenation_eq_string_iff {parts : List UrlPart} :
    (∃ s, concatenation parts = Expr.string s) ↔ ∀ name, UrlPart.value name ∉ parts := by
  rw [← not_exists, ← mapM_text?_eq_none_iff, concatenation]
  cases parts.mapM UrlPart.text? with
  | none => simp [Expr.string]
  | some texts => simp [Expr.string]

theorem concatenation_of_value {parts : List UrlPart} {name : String}
    (h : UrlPart.value name ∈ parts) :
    concatenation parts = .formatted (joinTexts (parts.map UrlPart.piece)) := by
  rw [concatenation, mapM_text?_eq_none_iff.mpr ⟨name, h⟩]

/-! ### What is written is read back -/

theorem read_string (s : String) : Expr.read (Expr.string s).render = .ok (Expr.string s) := by
  have htype : Expr.IsType (Expr.string s) := .text s false
  exact (Expr.read_render htype rfl).trans (if_pos (Nat.zero_le _))

theorem read_concatenation {parts : List UrlPart} (h : ∀ part ∈ parts, part.IsPlain) :
    Expr.read (concatenation parts).render = .ok (concatenation parts) := by
  by_cases hvalue : ∃ name, UrlPart.value name ∈ parts
  · obtain ⟨name, hname⟩ := hvalue
    have hglyphs : ∀ g ∈ parts.flatMap UrlPart.glyphs, g.IsPlain := by
      intro g hg
      obtain ⟨part, hpart, hg⟩ := List.mem_flatMap.mp hg
      exact UrlPart.isPlain_of_mem_glyphs (h part hpart) g hg
    rw [concatenation_of_value hname, joinTexts_pieces]
    exact Expr.read_formatted hglyphs
  · obtain ⟨s, hs⟩ := concatenation_eq_string_iff.mpr (not_exists.mp hvalue)
    rw [hs]
    exact read_string s

/-! ### The value -/

/-- The text of a part where names stand for the given texts. -/
def UrlPart.filled (texts : String → String) : UrlPart → String
  | text s => s
  | value name => texts name

variable {α : Type} [DecidableEq α]

theorem eval_concatenation_of_texts {rt : Runtime α} {scope : Scope α} {parts : List UrlPart}
    {texts : String → String} (hshown : ∀ s, rt.shown (.text s) = s)
    (htexts : ∀ name, UrlPart.value name ∈ parts → scope.find? name = some (.text (texts name))) :
    eval rt scope (concatenation parts) =
      pure (.text (String.join (parts.map (UrlPart.filled texts)))) := by
  have hparts : parts.map (partText rt scope) = parts.map (UrlPart.filled texts) := by
    refine List.map_congr_left fun part hpart => ?_
    cases part with
    | text s => rfl
    | value name => simp [partText, UrlPart.filled, htexts name hpart, hshown]
  rw [eval_concatenation fun name hname => by simp [htexts name hname], hparts]

/-- The source text of parts put together is read back as the same expression. Its value is the texts
of the parts one after the other, whatever texts its names stand for. It is a plain text where no part
is a name, and else formatted text without empty texts and with no two texts side by side. -/
theorem concatenation_of_source {parts : List UrlPart} (h : ∀ part ∈ parts, part.IsPlain) :
    Expr.read (concatenation parts).render = .ok (concatenation parts) ∧
    (∀ (rt : Runtime α) (scope : Scope α) (texts : String → String),
      (∀ s, rt.shown (.text s) = s) →
      (∀ name, UrlPart.value name ∈ parts → scope.find? name = some (.text (texts name))) →
      eval rt scope (concatenation parts) =
        pure (.text (String.join (parts.map (UrlPart.filled texts))))) ∧
    ((∃ s, concatenation parts = Expr.string s) ↔ ∀ name, UrlPart.value name ∉ parts) ∧
    ((∃ name, UrlPart.value name ∈ parts) →
      ∃ pieces, concatenation parts = .formatted pieces ∧ IsSeparated pieces) := by
  refine ⟨read_concatenation h, fun rt scope texts => eval_concatenation_of_texts,
    concatenation_eq_string_iff, ?_⟩
  rintro ⟨name, hname⟩
  exact ⟨_, concatenation_of_value hname, isSeparated_joinTexts _⟩

/-- The parts of a URL with braces in its texts, an empty text and two texts side by side. -/
def bracedParts : List UrlPart := [.text "/\x7bkind", .text "\x7d/", .value "id", .text "", .text ".json"]

theorem concatenation_of_source_bracedParts :
    (∀ part ∈ bracedParts, part.IsPlain) ∧
    Expr.read (concatenation bracedParts).render = .ok (concatenation bracedParts) ∧
    eval echo ⟨[], [], [("id", .text "7")]⟩ (concatenation bracedParts) =
      pure (.text "/\x7bkind\x7d/7.json") := by
  have hplain : ∀ part ∈ bracedParts, part.IsPlain := by
    simp [bracedParts, UrlPart.IsPlain, IsBare]
    decide
  obtain ⟨hread, hvalue, -⟩ := @concatenation_of_source String _ _ hplain
  refine ⟨hplain, hread, ?_⟩
  exact hvalue echo ⟨[], [], [("id", .text "7")]⟩ (fun _ => "7") (fun _ => rfl)
    (by simp [bracedParts]; rfl)

/-- Formatted text with a reserved word as a name is not read back, the name that only a constant can
have gives its value in every scope, and without parts the text is empty. -/
theorem not_concatenation_of_source :
    isPlainIdentifier "class".toList = true ∧
    (Expr.read (concatenation [.value "class"]).render).isOk = false ∧
    Expr.IsPlainName debugName ∧
    (∀ scope : Scope String,
      eval echo scope (concatenation [.value debugName]) = pure (.text "True")) ∧
    concatenation [] = Expr.string "" := by
  refine ⟨by decide, by decide +kernel, by decide, fun scope => ?_, rfl⟩
  have hdebug : scope.find? debugName = some (.boolean true) := rfl
  rw [eval_concatenation (by simp [hdebug])]
  simp [partText, hdebug, echo]

end Client

end TypedClients
