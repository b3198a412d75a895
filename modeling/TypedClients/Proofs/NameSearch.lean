import Mathlib.Data.List.Basic
import TypedClients.Source.Names

/-!
# What the search for names comes to

The search for the names of a type goes from an expression to its parts, `searchedParts`, and ends at
names and texts, its `leaves`. The names are those of the leaves in order: `namesWith_eq_leaves`. So
what is shown of an expression by its parts holds of all names that a search finds.
-/
namespace TypedClients.Code

namespace Expr

/-! ### Parts -/

/-- The expressions in a piece of formatted text. -/
def pieceParts : Piece Expr → List Expr
  | .text s => [.string s]
  | .brokenText t => [.constant (.brokenText t false)]
  | .field value _ format => value :: (format.map .formatted).toList

/-- The parts of an expression that are searched for names. -/
def searchedParts : Expr → List Expr
  | .constant _ | .name _ => []
  | .member value _ | .starred value | .await value | .yieldFrom value => [value]
  | .subscript value index => value :: if value.baseName? = some valueType then [] else [index]
  | .call callee args _ => callee :: args
  | .logic _ operands => operands
  | .unary _ operand => [operand]
  | .binary _ left right => [left, right]
  | .compare left rest => left :: rest.map (·.2)
  | .named target value => [target, value]
  | .lambda _ body => [body]
  | .conditional test body orelse => [test, body, orelse]
  | .tuple items | .list items | .set items => items
  | .dict entries => entries.filterMap (·.key) ++ entries.map (·.value)
  | .listComp item _ | .setComp item _ | .generator item _ => [item]
  | .dictComp key value _ => [key, value]
  | .yield value => value.toList
  | .formatted pieces => pieces.flatMap pieceParts
  | .slice lower upper step => lower.toList ++ upper.toList ++ step.toList

/-- A name or a text, where the search ends. -/
inductive Leaf where
  | name (id : String)
  | text (q : Quotation)
  deriving DecidableEq, Repr

/-- The name or the text that an expression is itself. -/
def ownLeaves : Expr → List Leaf
  | .name id => [.name id]
  | .constant v => (v.quotation?.map Leaf.text).toList
  | _ => []

/-- The names and texts that a search comes to, in order. -/
def leaves (e : Expr) : List Leaf := e.namesWith .name fun q => [.text q]

/-! ### The search goes along the parts -/

section

variable {α : Type} (named : String → α) (quoted : Quotation → List α)

/-- What a leaf gives. -/
def Leaf.names : Leaf → List α
  | .name id => [named id]
  | .text q => quoted q

theorem namesInAll_eq (es : List Expr) :
    namesInAll named quoted es = es.flatMap (namesWith named quoted) := by
  induction es with
  | nil => rfl
  | cons e es ih => rw [namesInAll, ih, List.flatMap_cons]

theorem namesInOption_eq (e : Option Expr) :
    namesInOption named quoted e = e.toList.flatMap (namesWith named quoted) := by
  cases e with
  | none => rfl
  | some e => simp [namesInOption]

theorem namesInCompared_eq (rest : List (CompareOp × Expr)) :
    namesInCompared named quoted rest = (rest.map (·.2)).flatMap (namesWith named quoted) := by
  induction rest with
  | nil => rfl
  | cons head rest ih => rw [namesInCompared, ih, List.map_cons, List.flatMap_cons]

theorem namesInKeys_eq (entries : List (Entry Expr)) :
    namesInKeys named quoted entries =
      (entries.filterMap (·.key)).flatMap (namesWith named quoted) := by
  induction entries with
  | nil => rfl
  | cons entry entries ih =>
      obtain ⟨key, value⟩ := entry
      cases key <;> simp [namesInKeys, namesInOption, ih]

theorem namesInValues_eq (entries : List (Entry Expr)) :
    namesInValues named quoted entries =
      (entries.map (·.value)).flatMap (namesWith named quoted) := by
  induction entries with
  | nil => rfl
  | cons entry entries ih => rw [namesInValues, ih, List.map_cons, List.flatMap_cons]

theorem namesInPieces_eq (pieces : List (Piece Expr)) :
    namesInPieces named quoted pieces =
      (pieces.flatMap pieceParts).flatMap (namesWith named quoted) := by
  induction pieces with
  | nil => rfl
  | cons piece pieces ih =>
      rw [namesInPieces, ih, List.flatMap_cons, List.flatMap_append]
      congr 1
      cases piece with
      | text s =>
          simp [namesInPiece, pieceParts, string, namesWith, Literal.ofString, Literal.quotation?]
      | brokenText t => simp [namesInPiece, pieceParts, namesWith, Literal.quotation?]
      | field value _ format =>
          cases format <;> simp [namesInPiece, namesInFormat, pieceParts, namesWith]

/-- A search gives what the expression is itself, and then what its parts give. -/
theorem namesWith_eq (e : Expr) :
    e.namesWith named quoted =
      e.ownLeaves.flatMap (Leaf.names named quoted) ++
        e.searchedParts.flatMap (namesWith named quoted) := by
  cases e with
  | constant v => cases hv : v.quotation? <;> simp [namesWith, ownLeaves, searchedParts, Leaf.names, hv]
  | subscript value index =>
      by_cases h : value.baseName? = some valueType <;>
        simp [namesWith, ownLeaves, searchedParts, h]
  | _ =>
      simp [namesWith, ownLeaves, searchedParts, Leaf.names, namesInAll_eq, namesInOption_eq,
        namesInCompared_eq, namesInKeys_eq, namesInValues_eq, namesInPieces_eq]

end

theorem leaves_eq (e : Expr) : e.leaves = e.ownLeaves ++ e.searchedParts.flatMap leaves := by
  have hown (l : Leaf) : Leaf.names .name (fun q => [.text q]) l = [l] := by cases l <;> rfl
  rw [leaves, namesWith_eq, List.flatMap_congr fun l _ => hown l, List.flatMap_singleton']
  rfl

/-! ### Parts are smaller -/

theorem sizeOf_add_two_le_of_mem {α : Type} [SizeOf α] {x : α} {xs : List α} (h : x ∈ xs) :
    sizeOf x + 2 ≤ sizeOf xs := by
  induction xs with
  | nil => cases h
  | cons y ys ih =>
      rw [List.cons.sizeOf_spec]
      rcases List.mem_cons.mp h with rfl | h
      · have hrest : 0 < sizeOf ys := by
          cases ys with
          | nil => simp
          | cons => rw [List.cons.sizeOf_spec]; omega
        omega
      · have hless := ih h
        omega

theorem sizeOf_lt_of_mem_pieceParts {pieces : List (Piece Expr)} {piece : Piece Expr}
    (hpiece : piece ∈ pieces) {part : Expr} (h : part ∈ pieceParts piece) :
    sizeOf part < sizeOf (Expr.formatted pieces) := by
  have hless := sizeOf_add_two_le_of_mem hpiece
  cases piece with
  | text s =>
      obtain rfl : part = .string s := by simpa [pieceParts] using h
      simp [string, Literal.ofString] at hless ⊢
      omega
  | brokenText t =>
      obtain rfl : part = .constant (.brokenText t false) := by simpa [pieceParts] using h
      simp at hless ⊢
      omega
  | field value conversion format =>
      cases format with
      | none =>
          obtain rfl : part = value := by simpa [pieceParts] using h
          simp at hless ⊢
          omega
      | some inner =>
          obtain rfl | rfl : part = value ∨ part = .formatted inner := by simpa [pieceParts] using h
          all_goals
            simp at hless ⊢
            omega

theorem sizeOf_lt_of_mem_searchedParts {e part : Expr} (h : part ∈ e.searchedParts) :
    sizeOf part < sizeOf e := by
  have hitems {es : List Expr} (h : part ∈ es) : sizeOf part < sizeOf es := List.sizeOf_lt_of_mem h
  have hoption {o : Option Expr} (h : part ∈ o.toList) : sizeOf part < sizeOf o := by
    obtain rfl := Option.mem_toList.mp h
    simp
  cases e with
  | constant | name => cases h
  | formatted pieces =>
      obtain ⟨piece, hpiece, h⟩ := List.mem_flatMap.mp h
      exact sizeOf_lt_of_mem_pieceParts hpiece h
  | compare left rest =>
      rcases List.mem_cons.mp h with rfl | h
      · simp
        omega
      · obtain ⟨⟨o, e⟩, he, rfl⟩ := List.mem_map.mp h
        have hless := List.sizeOf_lt_of_mem he
        simp at hless ⊢
        omega
  | dict entries =>
      rcases List.mem_append.mp h with h | h
      · obtain ⟨⟨key, value⟩, hentry, rfl⟩ := List.mem_filterMap.mp h
        have hless := List.sizeOf_lt_of_mem hentry
        simp at hless ⊢
        omega
      · obtain ⟨⟨key, value⟩, hentry, rfl⟩ := List.mem_map.mp h
        have hless := List.sizeOf_lt_of_mem hentry
        simp at hless ⊢
        omega
  | subscript value index =>
      have hpart : part = value ∨ part = index := by
        rw [searchedParts] at h
        split at h <;> simp_all
      rw [subscript.sizeOf_spec]
      rcases hpart with rfl | rfl <;> omega
  | call callee args =>
      rcases List.mem_cons.mp h with rfl | h
      · simp
        omega
      · have hless := hitems h
        simp
        omega
  | logic _ items | tuple items | list items | set items =>
      have hless : sizeOf part < sizeOf items := hitems h
      simp
      omega
  | yield value =>
      have hless := hoption h
      simp
      omega
  | slice lower upper step =>
      simp only [searchedParts, List.mem_append] at h
      rcases h with (h | h) | h <;>
        · have hless := hoption h
          simp
          omega
  | _ =>
      simp only [searchedParts, List.mem_cons, List.not_mem_nil, or_false] at h
      rcases h with rfl | rfl | rfl <;> simp <;> omega

/-- The names that a search finds are those of the leaves. -/
theorem namesWith_eq_leaves {α : Type} (named : String → α) (quoted : Quotation → List α) (e : Expr) :
    e.namesWith named quoted = e.leaves.flatMap (Leaf.names named quoted) := by
  rw [namesWith_eq, leaves_eq, List.flatMap_append, List.flatMap_assoc]
  congr 1
  exact List.flatMap_congr fun part hpart => namesWith_eq_leaves named quoted part
termination_by sizeOf e
decreasing_by exact sizeOf_lt_of_mem_searchedParts hpart

end Expr

end TypedClients.Code
