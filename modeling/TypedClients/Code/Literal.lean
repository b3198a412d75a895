import TypedClients.Text.Binary64
import TypedClients.Text.CodePoint

/-!
# Literal values of source code

The values that a literal in source code denotes, and the text they are written with.
-/
namespace TypedClients.Code

open TypedClients.Text

/-- The value of a literal. Numbers are not negative: a sign is an operator. -/
inductive Literal where
  | none
  | ellipsis
  | bool (value : Bool)
  | int (value : Nat)
  | float (value : Binary64)
  | imaginary (value : Binary64)
  /-- Text; `marked` when the literal was written with a `u` in front. -/
  | text (value : String) (marked : Bool)
  | brokenText (value : BrokenText) (marked : Bool)
  | bytes (value : List UInt8)
  deriving DecidableEq, Repr, Inhabited

namespace Literal

/-- A text literal without mark. -/
def ofString (s : String) : Literal := .text s false

/-- The literal of a text with the given code points. -/
def ofPoints (points : List CodePoint) (marked : Bool) : Literal :=
  match CodePoint.chars points with
  | .ok cs => .text (String.ofList cs) marked
  | .error t => .brokenText t marked

@[simp] theorem ofPoints_ofString (s : String) (marked : Bool) :
    ofPoints (CodePoint.ofString s) marked = .text s marked := by
  simp [ofPoints, CodePoint.ofString]

@[simp] theorem ofPoints_points (t : BrokenText) (marked : Bool) :
    ofPoints t.points marked = .brokenText t marked := by
  rw [ofPoints, t.chars_points]

/-- The code points of a text literal. -/
def points? : Literal → Option (List CodePoint)
  | .text s _ => some (CodePoint.ofString s)
  | .brokenText t _ => some t.points
  | _ => Option.none

/-- The text value of a text literal without surrogates. -/
def text? : Literal → Option String
  | .text s _ => some s
  | _ => Option.none

/-- The written form. A text literal is written in the shortest quotes that need no escape of a
quote, where there are such quotes. -/
def render : Literal → String
  | .none => "None"
  | .ellipsis => "..."
  | .bool true => "True"
  | .bool false => "False"
  | .int n => String.ofList (Nat.toDigits 10 n)
  | .float x => String.ofList (x.text ".0".toList)
  | .imaginary x => String.ofList (x.text [] ++ ['j'])
  | .text s marked => (if marked then "u" else "") ++ quotedString s
  | .brokenText t marked => (if marked then "u" else "") ++ String.ofList (CodePoint.quotedText t.points)
  | .bytes bs => String.ofList (quotedBytes bs)

theorem points?_ofPoints (points : List CodePoint) (marked : Bool) :
    (ofPoints points marked).points? = some points := by
  unfold ofPoints
  split
  · rename_i cs hcs
    rw [CodePoint.eq_map_char_of_chars hcs, points?, CodePoint.ofString_ofList]
  · rename_i t ht
    rw [BrokenText.eq_points_of_chars ht, points?]

theorem toList_render_ofPoints (points : List CodePoint) (marked : Bool) :
    (ofPoints points marked).render.toList =
      (if marked then ['u'] else []) ++ CodePoint.quotedText points := by
  unfold ofPoints
  split
  · rename_i cs hcs
    rw [CodePoint.eq_map_char_of_chars hcs, CodePoint.quotedText_map_char]
    cases marked <;> simp [render, quotedString]
  · rename_i t ht
    rw [BrokenText.eq_points_of_chars ht]
    cases marked <;> simp [render]

theorem toList_render_text (s : String) (marked : Bool) :
    (text s marked).render.toList =
      (if marked then ['u'] else []) ++ CodePoint.quotedText (CodePoint.ofString s) := by
  rw [← ofPoints_ofString, toList_render_ofPoints]

theorem toList_render_brokenText (t : BrokenText) (marked : Bool) :
    (brokenText t marked).render.toList =
      (if marked then ['u'] else []) ++ CodePoint.quotedText t.points := by
  rw [← ofPoints_points, toList_render_ofPoints]

end Literal

end TypedClients.Code
