import Mathlib.Data.String.Basic
import TypedClients.FileTree

/-!
# Two orders of paths

Files come in the order of their places, which are compared name by name; texts come in the order of
their paths, which are compared character by character. The orders differ on a folder and a sibling
whose name is that of the folder with a character below the slash behind it: the name of the folder
is the lesser one of the two, but its path goes on with the slash.
-/
namespace TypedClients

open TypedClients.Text

/-- Whether two paths are alike up to the end of a folder of the first one, where the second one goes
on with a character below the slash. -/
def isDisplaced : List Char → List Char → Bool
  | a :: as, b :: bs => if a = b then isDisplaced as bs else a = '/' && b < '/'
  | _, _ => false

/-- A name that a file or folder can have. -/
structure IsFileName (name : String) : Prop where
  slashless : '/' ∉ name.toList
  nullless : Char.ofNat 0 ∉ name.toList

theorem lt_of_isDisplaced {p q : List Char} (h : isDisplaced p q) : q < p := by
  induction p, q using isDisplaced.induct with
  | case1 p b q ih =>
      rw [isDisplaced, if_pos rfl] at h
      exact List.cons_lt_cons_iff.mpr (.inr ⟨rfl, ih h⟩)
  | case2 a p b q hab =>
      rw [isDisplaced, if_neg hab] at h
      obtain ⟨rfl, hb⟩ : a = '/' ∧ b < '/' := by simpa using h
      exact List.cons_lt_cons_iff.mpr (.inl hb)
  | case3 p q hne =>
      rw [isDisplaced.eq_2 p q hne] at h
      exact absurd h (by simp)

theorem not_isDisplaced_self (p : List Char) : ¬ isDisplaced p p :=
  fun h => lt_irrefl _ (lt_of_isDisplaced h)

namespace FileTree

theorem placeOrder_eq_true_iff {p q : List String} : placeOrder p q = true ↔ p ≤ q := by
  rw [le_iff_eq_or_lt]
  induction p, q using placeOrder.induct with
  | case1 q => cases q <;> simp [placeOrder]
  | case2 a p => simp [placeOrder]
  | case3 a p b q ih =>
      simp only [placeOrder, Bool.or_eq_true, decide_eq_true_eq, Bool.and_eq_true, beq_iff_eq, ih,
        List.cons_lt_cons_iff, List.cons.injEq]
      tauto

end FileTree

/-! ### Names one after the other -/

/-- The names of a place, each with a slash before it. -/
def slashed (names : List String) : List Char := names.flatMap fun name => '/' :: name.toList

@[simp] theorem slashed_nil : slashed [] = [] := rfl

@[simp] theorem slashed_cons (name : String) (names : List String) :
    slashed (name :: names) = '/' :: (name.toList ++ slashed names) := rfl

/-- The path of a place is what follows the first slash. -/
theorem slashed_eq {names : List String} (h : names ≠ []) :
    slashed names = '/' :: ("/".intercalate names).toList := by
  induction names with
  | nil => exact absurd rfl h
  | cons name names ih =>
      cases names with
      | nil => simp
      | cons next names =>
          rw [slashed_cons, ih (by simp), String.toList_intercalate, String.toList_intercalate]
          simp [List.intercalate_cons_cons]

theorem slashed_start (names : List String) :
    slashed names = [] ∨ ∃ rest, slashed names = '/' :: rest := by
  cases names <;> simp

/-- Two names are in the order of the texts that start with them, unless the first one is displaced. -/
theorem append_order {a b r s : List Char} (ha : '/' ∉ a) (hb : '/' ∉ b)
    (hr : r = [] ∨ ∃ t, r = '/' :: t) (hs : s = [] ∨ ∃ t, s = '/' :: t) (hab : a ≠ b) :
    (a < b → a ++ r < b ++ s ∨ isDisplaced (a ++ r) (b ++ s)) ∧
      (isDisplaced (a ++ r) (b ++ s) → a < b) := by
  induction a generalizing b with
  | nil =>
      cases b with
      | nil => exact absurd rfl hab
      | cons d b =>
          have hd : '/' ≠ d := by rintro rfl; simp at hb
          refine ⟨fun _ => ?_, fun _ => List.nil_lt_cons d b⟩
          rcases hr with rfl | ⟨t, rfl⟩
          · exact .inl (List.nil_lt_cons d (b ++ s))
          · rcases lt_or_gt_of_ne hd with h | h
            · exact .inl (List.cons_lt_cons_iff.mpr (.inl h))
            · exact .inr (by simp [isDisplaced, hd, h])
  | cons c a ih =>
      have hc : c ≠ '/' := by rintro rfl; simp at ha
      cases b with
      | nil =>
          refine ⟨fun h => absurd h (List.not_lt_nil _), fun h => ?_⟩
          rcases hs with rfl | ⟨t, rfl⟩
          · simp [isDisplaced] at h
          · simp [isDisplaced, hc] at h
      | cons d b =>
          by_cases hcd : c = d
          · subst hcd
            have := ih (b := b) (fun h => ha (.tail _ h)) (fun h => hb (.tail _ h))
              (fun h => hab (by rw [h]))
            simpa [isDisplaced, List.cons_lt_cons_iff] using this
          · simp [isDisplaced, List.cons_lt_cons_iff, hcd, hc]

theorem append_order_left {a r s : List Char} :
    (a ++ r < a ++ s ↔ r < s) ∧ isDisplaced (a ++ r) (a ++ s) = isDisplaced r s := by
  induction a with
  | nil => simp
  | cons c a ih => simpa [isDisplaced, List.cons_lt_cons_iff] using ih

theorem slashed_order {p q : List String} (hp : ∀ name ∈ p, IsFileName name)
    (hq : ∀ name ∈ q, IsFileName name) :
    (p < q → slashed p < slashed q ∨ isDisplaced (slashed p) (slashed q)) ∧
      (isDisplaced (slashed p) (slashed q) → p < q) := by
  induction p generalizing q with
  | nil => cases q <;> simp [isDisplaced]
  | cons a p ih =>
      cases q with
      | nil => simp [isDisplaced]
      | cons b q =>
          have htail := ih (q := q) (fun n hn => hp n (.tail _ hn)) (fun n hn => hq n (.tail _ hn))
          by_cases hab : a = b
          · subst hab
            simpa [isDisplaced, List.cons_lt_cons_iff, append_order_left, -String.lt_iff_ltb]
              using htail
          · have := append_order (hp a (.head _)).slashless (hq b (.head _)).slashless
              (slashed_start p) (slashed_start q) (fun h => hab (String.toList_injective h))
            simpa [isDisplaced, List.cons_lt_cons_iff, hab, String.lt_iff_toList_lt,
              -String.lt_iff_ltb] using this

/-! ### Paths -/

/-- Whether the file at one path comes before the file at another one, name by name. -/
def ComesBefore (p q : List Char) : Prop := p < q ∧ ¬ isDisplaced q p ∨ isDisplaced p q

theorem comesBefore_of_lt {p q : List String} (hp : ∀ name ∈ p, IsFileName name)
    (hq : ∀ name ∈ q, IsFileName name) (hpne : p ≠ []) (h : p < q) :
    ComesBefore ("/".intercalate p).toList ("/".intercalate q).toList := by
  have hqne : q ≠ [] := by
    rintro rfl
    exact absurd h (List.not_lt_nil _)
  have hforth := (slashed_order hp hq).1 h
  have hback : ¬ isDisplaced (slashed q) (slashed p) := fun hd =>
    absurd h (lt_asymm ((slashed_order hq hp).2 hd))
  simp only [slashed_eq hpne, slashed_eq hqne, List.cons_lt_cons_iff, isDisplaced, lt_irrefl,
    true_and, false_or, if_true] at hforth hback
  exact hforth.imp (fun hlt => ⟨hlt, hback⟩) id

theorem ComesBefore.ne {p q : List Char} (h : ComesBefore p q) : p ≠ q := by
  rintro rfl
  rcases h with ⟨h, -⟩ | h
  · exact lt_irrefl _ h
  · exact lt_irrefl _ (lt_of_isDisplaced h)

/-- The two orders agree on paths that are not displaced. -/
theorem ComesBefore.lt_iff {p q : List Char} (h : ComesBefore p q) :
    p < q ↔ ¬ isDisplaced p q := by
  constructor
  · exact fun hlt hd => lt_asymm hlt (lt_of_isDisplaced hd)
  · intro hd
    rcases h with ⟨hlt, -⟩ | h
    · exact hlt
    · exact absurd h hd

theorem ComesBefore.not_isDisplaced {p q : List Char} (h : ComesBefore p q) :
    ¬ isDisplaced q p := by
  rcases h with ⟨-, h⟩ | h
  · exact h
  · exact fun hd => lt_asymm (lt_of_isDisplaced h) (lt_of_isDisplaced hd)

end TypedClients
