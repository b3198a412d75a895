import Mathlib.Data.List.Perm.Basic
import TypedClients.Traced

/-!
# Steps in sequence

When a computation of several steps has a result, every one of its steps has. `mapM_eq_ok_iff`
pairs the items of a list with their results, in order.
-/
namespace TypedClients

variable {ε α β γ : Type}

theorem bind_eq_ok_iff {x : Except ε α} {f : α → Except ε β} {b : β} :
    x >>= f = .ok b ↔ ∃ a, x = .ok a ∧ f a = .ok b := by
  cases x <;> simp [bind, Except.bind]

theorem bind_eq_error_iff {x : Except ε α} {f : α → Except ε β} {e : ε} :
    x >>= f = .error e ↔ x = .error e ∨ ∃ a, x = .ok a ∧ f a = .error e := by
  cases x <;> simp [bind, Except.bind]

theorem map_eq_ok_iff {x : Except ε α} {f : α → β} {b : β} :
    x.map f = .ok b ↔ ∃ a, x = .ok a ∧ f a = b := by
  cases x <;> simp [Except.map]

theorem map_eq_error_iff {x : Except ε α} {f : α → β} {e : ε} :
    x.map f = .error e ↔ x = .error e := by
  cases x <;> simp [Except.map]

theorem exists_eq_ok_of_isOk {x : Except ε α} (h : x.isOk = true) : ∃ a, x = .ok a := by
  cases x with
  | ok a => exact ⟨a, rfl⟩
  | error e => cases h

theorem mapM_eq_ok_iff {f : α → Except ε β} {xs : List α} {ys : List β} :
    xs.mapM f = .ok ys ↔ List.Forall₂ (fun x y => f x = .ok y) xs ys := by
  induction xs generalizing ys with
  | nil => cases ys <;> simp [pure, Except.pure]
  | cons x xs ih =>
      simp only [List.mapM_cons, bind_eq_ok_iff, ih, List.forall₂_cons_left_iff]
      constructor
      · rintro ⟨y, hy, ys', hys, h⟩
        cases h
        exact ⟨y, ys', hy, hys, rfl⟩
      · rintro ⟨y, ys', hy, hys, rfl⟩
        exact ⟨y, hy, ys', hys, rfl⟩

/-- A failure of a list of steps is the failure of one of them. -/
theorem exists_of_mapM_eq_error {f : α → Except ε β} {xs : List α} {e : ε}
    (h : xs.mapM f = .error e) : ∃ x ∈ xs, f x = .error e := by
  induction xs with
  | nil => simp [pure, Except.pure] at h
  | cons x xs ih =>
      rw [List.mapM_cons, bind_eq_error_iff] at h
      rcases h with h | ⟨y, _, h⟩
      · exact ⟨x, by simp, h⟩
      · rcases bind_eq_error_iff.mp h with h | ⟨ys, _, h⟩
        · obtain ⟨x', hx', h'⟩ := ih h
          exact ⟨x', List.mem_cons_of_mem x hx', h'⟩
        · cases h

/-- A list of steps has the same results in every order of the steps. -/
theorem mapM_eq_ok_of_perm {f : α → Except ε β} {xs xs' : List α} {ys : List β}
    (hperm : xs'.Perm xs) (h : xs.mapM f = .ok ys) :
    ∃ ys', xs'.mapM f = .ok ys' ∧ ys'.Perm ys := by
  obtain ⟨ys', hys', hperm⟩ := List.perm_comp_forall₂ hperm (mapM_eq_ok_iff.mp h)
  exact ⟨ys', mapM_eq_ok_iff.mpr hys', hperm⟩

/-- Steps whose results differ by a function. -/
theorem mapM_map_eq {f : α → Except ε β} {g : α → Except ε γ} {h : β → γ}
    (hfg : ∀ x, g x = (f x).map h) (xs : List α) : xs.mapM g = (xs.mapM f).map (List.map h) := by
  induction xs with
  | nil => rfl
  | cons x xs ih =>
      rw [List.mapM_cons, List.mapM_cons, hfg, ih]
      cases f x with
      | error e => rfl
      | ok y => cases xs.mapM f <;> rfl

/-! ### Items in the same places -/

/-- Items that are paired by way of the items of a list between them. -/
theorem forall₂_trans {R : α → β → Prop} {S : β → γ → Prop} {T : α → γ → Prop}
    (h : ∀ a b c, R a b → S b c → T a c) {xs : List α} {ys : List β} {zs : List γ}
    (hxs : List.Forall₂ R xs ys) (hys : List.Forall₂ S ys zs) : List.Forall₂ T xs zs := by
  induction hxs generalizing zs with
  | nil => cases hys; exact .nil
  | cons hxy _ ih =>
      cases hys with
      | cons hyz hys => exact .cons (h _ _ _ hxy hyz) (ih hys)

section

variable {R : α → β → Prop} {xs : List α} {ys : List β}

theorem exists_of_forall₂_of_mem (hR : List.Forall₂ R xs ys) {b : β} (hb : b ∈ ys) :
    ∃ a ∈ xs, R a b := by
  induction hR with
  | nil => cases hb
  | cons hab _ ih =>
      rcases List.mem_cons.mp hb with rfl | hb
      · exact ⟨_, List.mem_cons_self, hab⟩
      · obtain ⟨a, ha, hab⟩ := ih hb
        exact ⟨a, List.mem_cons_of_mem _ ha, hab⟩

theorem map_eq_of_forall₂ {f : α → γ} {g : β → γ} (h : ∀ a b, R a b → f a = g b)
    (hR : List.Forall₂ R xs ys) : xs.map f = ys.map g := by
  induction hR with
  | nil => rfl
  | cons hab _ ih => rw [List.map_cons, List.map_cons, h _ _ hab, ih]

theorem flatMap_eq_of_forall₂ {f : α → List γ} {g : β → List γ} (h : ∀ a b, R a b → f a = g b)
    (hR : List.Forall₂ R xs ys) : xs.flatMap f = ys.flatMap g := by
  rw [List.flatMap_def, List.flatMap_def, map_eq_of_forall₂ h hR]

theorem filterMap_congr_of_forall₂ {f : α → Option γ} {g : β → Option γ}
    (h : ∀ a b, R a b → f a = g b) (hR : List.Forall₂ R xs ys) :
    xs.filterMap f = ys.filterMap g := by
  induction hR with
  | nil => rfl
  | cons hab _ ih => rw [List.filterMap_cons, List.filterMap_cons, h _ _ hab, ih]

theorem filterMap_eq_of_forall₂ {f : α → γ} {g : β → Option γ}
    (h : ∀ a b, R a b → g b = some (f a)) (hR : List.Forall₂ R xs ys) :
    ys.filterMap g = xs.map f := by
  rw [← List.filterMap_eq_map]
  exact (filterMap_congr_of_forall₂ (fun a b hab => (h a b hab).symm) hR).symm

end

/-! ### Computations that end alike -/

/-- Two computations that end alike: with related results, or with the same failure. -/
inductive EndAlike {ε α β : Type} (R : α → β → Prop) : Except ε α → Except ε β → Prop
  | ok {a : α} {b : β} (h : R a b) : EndAlike R (.ok a) (.ok b)
  | error (e : ε) : EndAlike R (.error e) (.error e)

namespace EndAlike

variable {δ : Type} {R : α → β → Prop} {x : Except ε α} {y : Except ε β}

theorem refl (x : Except ε α) : EndAlike Eq x x := by
  cases x with
  | ok a => exact .ok rfl
  | error e => exact .error e

theorem of_map_eq {f : α → γ} {g : β → γ} (h : x.map f = y.map g) :
    EndAlike (fun a b => f a = g b) x y := by
  cases x with
  | error e =>
      cases y with
      | error e' =>
          obtain rfl : e = e' := Except.error.inj h
          exact .error e
      | ok b => cases h
  | ok a =>
      cases y with
      | error e' => cases h
      | ok b => exact .ok (Except.ok.inj h)

theorem mono {S : α → β → Prop} (h : EndAlike R x y) (hnext : ∀ a b, R a b → S a b) :
    EndAlike S x y := by
  cases h with
  | ok hab => exact .ok (hnext _ _ hab)
  | error e => exact .error e

theorem bind {S : γ → δ → Prop} {f : α → Except ε γ} {g : β → Except ε δ} (h : EndAlike R x y)
    (hnext : ∀ a b, R a b → EndAlike S (f a) (g b)) : EndAlike S (x >>= f) (y >>= g) := by
  cases h with
  | ok hab => exact hnext _ _ hab
  | error e => exact .error e

theorem map {S : γ → δ → Prop} {f : α → γ} {g : β → δ} (h : EndAlike R x y)
    (hnext : ∀ a b, y = .ok b → R a b → S (f a) (g b)) : EndAlike S (x.map f) (y.map g) := by
  cases h with
  | ok hab => exact .ok (hnext _ _ rfl hab)
  | error e => exact .error e

end EndAlike

/-- Two computations that end alike, unless the first one fails in one of the given ways. -/
inductive EndAlikeUnless {ε α β : Type} (early : ε → Prop) (R : α → β → Prop) :
    Except ε α → Except ε β → Prop
  | ok {a : α} {b : β} (h : R a b) : EndAlikeUnless early R (.ok a) (.ok b)
  | error (e : ε) : EndAlikeUnless early R (.error e) (.error e)
  | early {e : ε} (h : early e) (y : Except ε β) : EndAlikeUnless early R (.error e) y

theorem EndAlike.unless {R : α → β → Prop} {x : Except ε α} {y : Except ε β} (h : EndAlike R x y)
    (early : ε → Prop) : EndAlikeUnless early R x y := by
  cases h with
  | ok hab => exact .ok hab
  | error e => exact .error e

namespace EndAlikeUnless

variable {δ : Type} {early : ε → Prop} {R : α → β → Prop} {x : Except ε α} {y : Except ε β}

theorem refl (x : Except ε α) : EndAlikeUnless early Eq x x := (EndAlike.refl x).unless early

theorem bind {S : γ → δ → Prop} {f : α → Except ε γ} {g : β → Except ε δ}
    (h : EndAlikeUnless early R x y) (hnext : ∀ a b, R a b → EndAlikeUnless early S (f a) (g b)) :
    EndAlikeUnless early S (x >>= f) (y >>= g) := by
  cases h with
  | ok hab => exact hnext _ _ hab
  | error e => exact .error e
  | early h y => exact .early h _

/-- A first step that nothing corresponds to. -/
theorem bind_left {S : γ → δ → Prop} {f : α → Except ε γ} {b : β} {z : Except ε δ}
    (h : EndAlikeUnless early R x (.ok b)) (hnext : ∀ a, R a b → EndAlikeUnless early S (f a) z) :
    EndAlikeUnless early S (x >>= f) z := by
  cases h with
  | ok hab => exact hnext _ hab
  | early h _ => exact .early h _

theorem endAlike (h : EndAlikeUnless early R x y) (hnever : ∀ e, ¬ early e) : EndAlike R x y := by
  cases h with
  | ok hab => exact .ok hab
  | error e => exact .error e
  | early he _ => exact absurd he (hnever _)

theorem eq_or_early {x y : Except ε α} {R : α → α → Prop} (h : EndAlikeUnless early R x y)
    (hR : ∀ a b, R a b → a = b) : y = x ∨ ∃ e, early e ∧ x = .error e := by
  cases h with
  | ok hab => exact .inl (by rw [hR _ _ hab])
  | error e => exact .inl rfl
  | early he _ => exact .inr ⟨_, he, rfl⟩

end EndAlikeUnless

/-- The result of a list of steps is that of their results. -/
@[simp] theorem Traced.mapM_result (f : α → Traced β) (xs : List α) :
    (xs.mapM f).result = xs.mapM fun x => (f x).result := by
  induction xs with
  | nil => rfl
  | cons x xs ih =>
      simp only [List.mapM_cons, bind_result, ih]
      rfl

theorem mapM_eq_none_iff {f : α → Option β} {xs : List α} :
    xs.mapM f = none ↔ ∃ x ∈ xs, f x = none := by
  induction xs with
  | nil => simp
  | cons x xs ih =>
      simp only [List.mapM_cons, List.mem_cons, exists_eq_or_imp, ← ih]
      cases f x <;> cases xs.mapM f <;> simp

end TypedClients
