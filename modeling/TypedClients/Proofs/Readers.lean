import TypedClients.Code.Expr.Read

/-!
# Readers on known tokens

What the combinators of readers do where the steps of a reader are known. `Steps` lists the values
that a reader takes one after the other before it refuses, which is what `many` reads.
-/
namespace TypedClients.Code.Reader

variable {α β : Type} {p : Reader α} {ts us vs : List Token}

theorem bind_of_eq {f : α → Reader β} {a : α} (h : p ts = some (a, us)) :
    (p >>= f) ts = f a us := by
  change (p ts).bind _ = _
  rw [h]
  rfl

theorem bind_of_none {f : α → Reader β} (h : p ts = none) : (p >>= f) ts = none := by
  change (p ts).bind _ = _
  rw [h]
  rfl

theorem map_of_eq {f : α → β} {a : α} (h : p ts = some (a, us)) :
    (f <$> p) ts = some (f a, us) := by
  rw [map_eq_pure_bind, bind_of_eq h]
  rfl

theorem map_of_none {f : α → β} (h : p ts = none) : (f <$> p) ts = none := by
  rw [map_eq_pure_bind, bind_of_none h]

@[simp] theorem pure_apply (a : α) : (pure a : Reader α) ts = some (a, ts) := rfl

@[simp] theorem failure_apply : (failure : Reader α) ts = none := rfl

theorem orElse_of_none {q : Reader α} (h : p ts = none) : (p <|> q) ts = q ts := by
  change (p ts).orElse _ = _
  rw [h]
  rfl

/-! ### Single tokens -/

theorem exactly_self (t : Token) : exactly t (t :: ts) = some ((), ts) := by
  simp [exactly, token]

theorem op_self (symbol : String) : op symbol (.op symbol :: ts) = some ((), ts) :=
  exactly_self _

theorem exactly_of_ne {t : Token} (h : ts.head? ≠ some t) : exactly t ts = none := by
  cases ts with
  | nil => rfl
  | cons u us =>
      have hne : u ≠ t := by simpa using h
      simp [exactly, token, hne]

theorem accepts_self (t : Token) : accepts t (t :: ts) = some (true, ts) := by
  simp [accepts]

theorem accepts_of_ne {t : Token} (h : ts.head? ≠ some t) : accepts t ts = some (false, ts) := by
  cases ts with
  | nil => rfl
  | cons u us =>
      have hne : u ≠ t := by simpa using h
      simp [accepts, hne]

theorem sees_of_ne {t : Token} (h : ts.head? ≠ some t) : sees t ts = some (false, ts) := by
  simp [sees, h]

theorem optional?_of_eq {a : α} (h : p ts = some (a, us)) : optional? p ts = some (some a, us) := by
  simp [optional?, h]

theorem optional?_of_none (h : p ts = none) : optional? p ts = some (none, ts) := by
  simp [optional?, h]

theorem run_eq_some_iff {a : α} : run p ts = some a ↔ p ts = some (a, []) := by
  unfold run
  split
  · rename_i b h
    simp [h]
  · rename_i h
    simp only [reduceCtorEq, false_iff]
    exact h a

/-! ### Values one after the other -/

/-- The values that a reader takes before it refuses, and what is left. -/
inductive Steps (p : Reader α) : List Token → List α → List Token → Prop
  | nil {ts : List Token} (h : p ts = none) : Steps p ts [] ts
  | cons {ts us vs : List Token} {a : α} {as : List α} (h : p ts = some (a, us))
      (hless : us.length < ts.length) (hrest : Steps p us as vs) : Steps p ts (a :: as) vs

theorem manyUpTo_of_steps {as : List α} (h : Steps p ts as us) :
    ∀ n, ts.length ≤ n → manyUpTo p n ts = some (as, us) := by
  induction h with
  | nil h =>
      intro n _
      cases n with
      | zero => rfl
      | succ n => simp [manyUpTo, h]
  | cons h hless _ ih =>
      intro n hn
      obtain ⟨m, rfl⟩ : ∃ m, n = m + 1 := ⟨n - 1, by omega⟩
      simp [manyUpTo, h, ih m (by omega)]

theorem many_of_steps {as : List α} (h : Steps p ts as us) : many p ts = some (as, us) :=
  manyUpTo_of_steps h _ (Nat.le_refl _)

theorem many_of_none (h : p ts = none) : many p ts = some ([], ts) := many_of_steps (.nil h)

theorem oneOrMore_of_steps {a : α} {as : List α} (h : p ts = some (a, us))
    (hrest : Steps p us as vs) : oneOrMore p ts = some (a :: as, vs) := by
  rw [oneOrMore, bind_of_eq h, bind_of_eq (many_of_steps hrest)]
  rfl

/-- One value after a comma. -/
def afterComma (p : Reader α) : Reader α := do
  op ","
  p

theorem afterComma_of_ne (h : ts.head? ≠ some (.op ",")) : afterComma p ts = none :=
  bind_of_none (exactly_of_ne h)

theorem afterComma_cons : afterComma p (.op "," :: ts) = p ts := bind_of_eq (exactly_self _)

theorem listed_of_steps {a : α} {as : List α} {trailing : Bool} {ws : List Token}
    (hfirst : p ts = some (a, us)) (hothers : Steps (afterComma p) us as vs)
    (htrailing : accepts (.op ",") vs = some (trailing, ws)) :
    listed p ts = some (⟨a, as, trailing⟩, ws) := by
  rw [listed, bind_of_eq hfirst]
  exact (bind_of_eq (many_of_steps hothers)).trans (bind_of_eq htrailing)

/-- One operator with the operand after it. -/
def operation (operand : Reader α) (operator : Reader β) : Reader (β × α) := do
  return (← operator, ← operand)

theorem leftChain_of_steps {operator : Reader β} {combine : α → β → α → α} {a : α}
    {rest : List (β × α)} (hfirst : p ts = some (a, us))
    (hrest : Steps (operation p operator) us rest vs) :
    leftChain p operator combine ts =
      some (rest.foldl (fun left x => combine left x.1 x.2) a, vs) := by
  rw [leftChain, bind_of_eq hfirst]
  exact bind_of_eq (many_of_steps hrest)

theorem operation_of_none {operator : Reader β} (h : operator ts = none) :
    operation p operator ts = none := bind_of_none h

end TypedClients.Code.Reader
