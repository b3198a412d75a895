import TypedClients.Proofs.NameSearch

/-!
# Names that a type refers to

What holds of every name of a type, quoted ones included, is shown of the leaves that the search for
names comes to: `forall_namesWith`. So the names of a type can only be missing where a quoted text
cannot be read.
-/
namespace TypedClients.Code.Expr

/-- What holds of every name and of every quoted one holds of all names in an expression. -/
theorem forall_namesWith {α : Type} {named : String → α} {quoted : Quotation → List α} {P : α → Prop}
    (hnamed : ∀ name, P (named name)) (hquoted : ∀ q, ∀ x ∈ quoted q, P x) (e : Expr) :
    ∀ x ∈ e.namesWith named quoted, P x := by
  intro x hx
  rw [namesWith_eq_leaves] at hx
  obtain ⟨leaf, -, hx⟩ := List.mem_flatMap.mp hx
  cases leaf with
  | name id => exact List.mem_singleton.mp hx ▸ hnamed id
  | text q => exact hquoted q x hx

/-- What keeps a quoted text from being read: a null character or a surrogate in it. -/
def unreadFaults : List Fault := [.nullCharacter, .surrogate]

theorem read_quotation_error {q : Quotation} {e : Failure} (h : q.read = .error e) :
    ∃ f ∈ unreadFaults, e = .fault f := by
  unfold Quotation.read at h
  split at h
  · cases h
    exact ⟨.surrogate, by decide, rfl⟩
  · split at h <;> cases h
    exact ⟨.nullCharacter, by decide, rfl⟩

/-- If a name is missing, a quoted text could not be read. -/
def Unread (name : Except Failure String) : Prop :=
  ∀ e, name = .error e → ∃ f ∈ unreadFaults, e = .fault f

theorem unread_ok (name : String) : Unread (.ok name) := by
  intro e he
  cases he

theorem unread_quotedNames (n : Nat) (q : Quotation) : ∀ x ∈ quotedNames n q, Unread x := by
  induction n generalizing q with
  | zero => simp [quotedNames]
  | succ n ih =>
      rw [quotedNames]
      split
      · rename_i f hread
        intro x hx e he
        rw [List.mem_singleton] at hx
        cases hx.symm.trans he
        exact read_quotation_error hread
      · simp
      · exact forall_namesWith unread_ok ih _

/-- A name of a type is missing only where a quoted text cannot be read. -/
theorem referencedNames_error {t : Expr} {e : Failure} (h : .error e ∈ t.referencedNames) :
    ∃ f ∈ unreadFaults, e = .fault f :=
  forall_namesWith unread_ok (fun q => unread_quotedNames _ q) t _ h e rfl

/-- A type that quotes a text which cannot be read, itself or in a type that it quotes: one of its
names is missing. -/
structure QuotesUnread (t : Expr) (f : Fault) : Prop where
  fault : f ∈ unreadFaults
  name : .error (.fault f) ∈ t.referencedNames

theorem quotesUnread_of_error {t : Expr} {e : Failure} (h : .error e ∈ t.referencedNames) :
    ∃ f, t.QuotesUnread f ∧ e = .fault f := by
  obtain ⟨f, hf, rfl⟩ := referencedNames_error h
  exact ⟨f, ⟨hf, h⟩, rfl⟩

theorem error_mem_of_quotation {t : Expr} {q : Quotation} {e : Failure}
    (ht : t.quotation? = some q) (hq : q.read = .error e) : .error e ∈ t.referencedNames := by
  cases t with
  | constant v =>
      have hv : v.quotation? = some q := ht
      simp [referencedNames, namesWith, hv, quotedNames, hq]
  | _ => cases ht

end TypedClients.Code.Expr
