import Mathlib.Data.List.Chain
import TypedClients.Code.Format

/-!
# Joined texts

Joining the texts of formatted text leaves none empty and no two side by side:
`isSeparated_joinTexts`.
-/
namespace TypedClients.Code

open TypedClients.Text

theorem joinTexts_cons_congr {ps qs : List (Piece Expr)} (p : Piece Expr)
    (h : joinTexts ps = joinTexts qs) : joinTexts (p :: ps) = joinTexts (p :: qs) := by
  cases p with
  | text | brokenText => rw [joinTexts, joinTexts, h]
  | field => simp [joinTexts, h]

theorem joinTexts_text_empty (ps : List (Piece Expr)) :
    joinTexts (.text "" :: ps) = joinTexts ps := by
  rw [joinTexts]
  split
  · rename_i h
    rw [h, String.empty_append]
  · rename_i h
    rw [h, String.toList_empty, BrokenText.prepend_nil]
  · exact if_pos rfl

/-- A text joins what follows as its two parts do one after the other. -/
theorem joinTexts_text_append (s t : String) (ps : List (Piece Expr)) :
    joinTexts (.text (s ++ t) :: ps) = joinTexts (.text s :: .text t :: ps) := by
  rw [joinTexts, joinTexts, joinTexts]
  split
  · simp [String.append_assoc]
  · simp [BrokenText.prepend_append]
  · by_cases ht : t = ""
    · simp [ht]
    · simp [ht]

/-! ### Separated texts -/

/-- Whether a piece is a text. -/
def Piece.isText : Piece Expr → Bool
  | .field .. => false
  | _ => true

theorem exists_eq_field {p : Piece Expr} (htext : ∀ s, p ≠ .text s)
    (hbroken : ∀ t, p ≠ .brokenText t) :
    ∃ value conversion format, p = .field value conversion format := by
  cases p with
  | text s => exact absurd rfl (htext s)
  | brokenText t => exact absurd rfl (hbroken t)
  | field value conversion format => exact ⟨value, conversion, format, rfl⟩

theorem isText_eq_false_of_head? {ps : List (Piece Expr)} (htext : ∀ s rest, ps ≠ .text s :: rest)
    (hbroken : ∀ t rest, ps ≠ .brokenText t :: rest) : ∀ q ∈ ps.head?, q.isText = false := by
  intro q hq
  obtain ⟨rest, rfl⟩ := List.head?_eq_some_iff.mp hq
  cases q with
  | text s => exact absurd rfl (htext s rest)
  | brokenText t => exact absurd rfl (hbroken t rest)
  | field => rfl

/-- No text is empty, and no two texts stand side by side. -/
structure IsSeparated (pieces : List (Piece Expr)) : Prop where
  nonempty : Piece.text "" ∉ pieces
  apart : pieces.IsChain fun p q => ¬ (p.isText = true ∧ q.isText = true)

section

variable {p q : Piece Expr} {ps : List (Piece Expr)}

theorem isSeparated_cons (hp : p ≠ .text "") (h : IsSeparated ps)
    (hfirst : p.isText = true → ∀ q ∈ ps.head?, q.isText = false) : IsSeparated (p :: ps) := by
  refine ⟨by simpa [eq_comm] using ⟨hp, h.nonempty⟩, ?_⟩
  cases ps with
  | nil => exact .singleton _
  | cons q ps =>
      refine .cons_cons ?_ h.apart
      rintro ⟨hp, hq⟩
      exact absurd (hfirst hp q rfl) (by simp [hq])

/-- Any text that is not empty may stand wherever a text does. -/
theorem isSeparated_of_text (hp : p ≠ .text "") (hq : q.isText = true)
    (h : IsSeparated (q :: ps)) : IsSeparated (p :: ps) := by
  obtain ⟨hnonempty, hapart⟩ := h
  rw [List.mem_cons, not_or] at hnonempty
  refine isSeparated_cons hp ⟨hnonempty.2, hapart.of_cons⟩ fun _ r hr => ?_
  obtain ⟨rest, rfl⟩ := List.head?_eq_some_iff.mp hr
  simpa [hq] using (List.isChain_cons_cons.mp hapart).1

end

theorem isSeparated_joinTexts (ps : List (Piece Expr)) : IsSeparated (joinTexts ps) := by
  fun_induction joinTexts ps with
  | case1 => exact ⟨by simp, .nil⟩
  | case2 s ps t rest hjoin ih =>
      rw [hjoin] at ih
      have ht : t ≠ "" := fun ht => ih.nonempty (by rw [ht]; exact List.mem_cons_self)
      exact isSeparated_of_text (by simpa using fun _ => ht) rfl ih
  | case3 s ps t rest hjoin ih =>
      exact isSeparated_of_text (by simp) rfl (hjoin ▸ ih)
  | case4 ps _ _ ih => exact ih
  | case5 s ps hs htext hbroken ih =>
      exact isSeparated_cons (by simpa using hs) ih fun _ => isText_eq_false_of_head? htext hbroken
  | case6 t ps s rest hjoin ih => exact isSeparated_of_text (by simp) rfl (hjoin ▸ ih)
  | case7 t ps u rest hjoin ih => exact isSeparated_of_text (by simp) rfl (hjoin ▸ ih)
  | case8 t ps htext hbroken ih =>
      exact isSeparated_cons (by simp) ih fun _ => isText_eq_false_of_head? htext hbroken
  | case9 p ps htext hbroken ih =>
      obtain ⟨value, conversion, format, rfl⟩ := exists_eq_field htext hbroken
      exact isSeparated_cons (by simp) ih (by simp [Piece.isText])

end TypedClients.Code
