import TypedClients.Proofs.ReferencedNames
import TypedClients.Proofs.Sequencing
import TypedClients.Source.Type

/-!
# Failures of declared types

A type of a declaration may fail to answer, but never with an error that is reported: what it
cannot answer ends the run as a fault. This is shown of the types in source texts, where a type that
cannot be written, a quoted type with a null character or a surrogate and a wrapper without arguments
are the only such cases.
-/
namespace TypedClients

open TypedClients.Code

/-- Types that fail with faults only. -/
class LawfulDeclaredType (τ : Type) [DeclaredType τ] : Prop where
  text_error : ∀ {t : τ} {e : Failure}, DeclaredType.text t = .error e → ∃ f, e = .fault f
  carried_error : ∀ {t : τ} {e : Failure},
    DeclaredType.carried t = .error e → ∃ f, e = .fault f
  imports_error : ∀ {t : τ} {e : Failure},
    (DeclaredType.imports t).result = .error e → ∃ f, e = .fault f
  field_error : ∀ {t : τ} {name : String} {e : Failure},
    DeclaredType.field? t name = .error e → ∃ f, e = .fault f

instance : LawfulDeclaredType DescribedType where
  text_error h := nomatch h
  carried_error h := nomatch h
  imports_error h := nomatch h
  field_error h := nomatch h

/-! ### Types in source texts -/

namespace SourceType

theorem text_error {t : SourceType} {e : Failure} (h : t.text = .error e) :
    ∃ written f, t.expr = some written ∧ written.obstacle? = some f ∧ e = .fault f := by
  unfold text at h
  split at h
  · cases h
  · rename_i written hwritten
    unfold Expr.write at h
    split at h
    · rename_i f hf
      cases h
      exact ⟨written, f, hwritten, hf, rfl⟩
    · cases h

/-- An asynchronous wrapper without the arguments of which it carries one. -/
def IsBareWrapper (t : SourceType) : Prop :=
  ∃ value, t.expr = some (.subscript value (.tuple [])) ∧
    (value.baseName?.bind CarriedPlace.ofName?).isSome

theorem carried?_error {t : SourceType} {e : Failure} (h : t.carried? = .error e) :
    t.IsBareWrapper ∧ e = .fault .noCarriedType := by
  unfold carried? at h
  split at h
  · rename_i value index hexpr
    split at h
    · cases h
    · rename_i place hplace
      split at h <;> cases h
      rename_i hpick
      have hnone : index.typeArguments = [] := by
        cases place
        · exact List.head?_eq_none_iff.mp hpick
        · exact List.getLast?_eq_none_iff.mp hpick
      have hindex : index = .tuple [] := by
        cases index <;> simp_all [Expr.typeArguments]
      refine ⟨⟨value, hindex ▸ hexpr, ?_⟩, rfl⟩
      rw [hplace]
      rfl
  · cases h

/-- The import that gives a name in a module its meaning, if anything does. -/
def reference? (m : SourceModule) (name : String) : Option ImportRef :=
  match m.nameImports.get? name with
  | some origin =>
      some { module := origin.module, name := some origin.name
             localName := if name = origin.name then none else some name }
  | none =>
      match m.moduleImports.get? name with
      | some origin => some { module := origin.module, localName := origin.localName }
      | none =>
          if name ∈ m.definitions then some { module := m.name.text, name := some name } else none

theorem importFor_result (m : SourceModule) (name : String) :
    (importFor m name).result = .ok (reference? m name) := by
  unfold importFor reference?
  cases m.nameImports.get? name with
  | some origin => rfl
  | none =>
      cases m.moduleImports.get? name with
      | some origin => rfl
      | none =>
          simp only
          split
          · rfl
          · split <;> rfl

/-- The imports of names move as those of single names do, if no two of them move to one place. -/
theorem importsFor_map {m m' : SourceModule} {move : ImportRef → ImportRef}
    (hmove : move.Injective)
    (hreference : ∀ name, reference? m' name = (reference? m name).map move)
    (found : List ImportRef) (names : List (Except Failure String)) :
    (importsFor m' (found.map move) names).result =
      (importsFor m found names).result.map (List.map move) := by
  induction names generalizing found with
  | nil => rfl
  | cons head names ih =>
      cases head with
      | error e => rfl
      | ok name =>
          rw [importsFor, importsFor, Traced.bind_result, Traced.bind_result, importFor_result,
            importFor_result, hreference]
          cases reference? m name with
          | none => exact ih found
          | some ref =>
              have hmem : move ref ∈ found.map move ↔ ref ∈ found := List.mem_map_of_injective hmove
              change (importsFor _ (if _ then _ else _) names).result =
                (importsFor m (if _ then _ else _) names).result.map _
              by_cases hfound : ref ∈ found
              · rw [if_pos hfound, if_pos (hmem.mpr hfound)]
                exact ih found
              · rw [if_neg hfound, if_neg fun hmoved => hfound (hmem.mp hmoved)]
                have hnext := ih (found ++ [ref])
                rwa [List.map_append] at hnext

theorem importsFor_error {m : SourceModule} {found : List ImportRef}
    {names : List (Except Failure String)} {e : Failure}
    (h : (importsFor m found names).result = .error e) : .error e ∈ names := by
  induction names generalizing found with
  | nil => cases h
  | cons name names ih =>
      cases name with
      | error f =>
          simp only [importsFor, Traced.fail_result, Except.error.injEq] at h
          simp [h]
      | ok name =>
          rw [importsFor, Traced.bind_result, importFor_result] at h
          refine List.mem_cons_of_mem _ ?_
          cases hreference : reference? m name with
          | none => rw [hreference] at h; exact ih h
          | some ref => rw [hreference] at h; exact ih h

theorem imports_error {t : SourceType} {e : Failure} (h : t.imports.result = .error e) :
    ∃ written f, t.expr = some written ∧ written.QuotesUnread f ∧ e = .fault f := by
  unfold imports at h
  split at h
  · cases h
  · rename_i written hwritten
    obtain ⟨f, hf, he⟩ := Expr.quotesUnread_of_error (importsFor_error h)
    exact ⟨written, f, hwritten, hf, he⟩

theorem classOf_error {project : Option SourceProject} {m : SourceModule} {t : Expr} {e : Failure}
    (h : classOf project m t = .error e) : ∃ f, t.QuotesUnread f ∧ e = .fault f := by
  unfold classOf at h
  split at h
  · rename_i q hq
    rcases bind_eq_error_iff.mp h with h | ⟨_, _, h⟩
    · exact Expr.quotesUnread_of_error (Expr.error_mem_of_quotation hq h)
    · cases h
  · cases h

theorem searchBases_error {resolve : Expr → Except Failure (Option (SourceModule × ClassSource))}
    {search : List (String × String) → SourceModule × ClassSource → FieldSearch}
    {seen : List (String × String)} {bases : List Expr} {e : Failure}
    (h : searchBases resolve search seen bases = .error e) :
    ∃ base ∈ bases, resolve base = .error e ∨
      ∃ c seen, resolve base = .ok (some c) ∧ search seen c = .error e := by
  induction bases generalizing seen with
  | nil => cases h
  | cons base bases ih =>
      have hlater {seen} (h : searchBases resolve search seen bases = .error e) :=
        Exists.imp (fun b => And.imp_left (List.mem_cons_of_mem base)) (ih h)
      rcases bind_eq_error_iff.mp h with h | ⟨resolved, hresolved, h⟩
      · exact ⟨base, List.mem_cons_self, .inl h⟩
      · cases resolved with
        | none => exact hlater h
        | some c =>
            rcases bind_eq_error_iff.mp h with h | ⟨⟨found, seen'⟩, _, h⟩
            · exact ⟨base, List.mem_cons_self, .inr ⟨c, seen, hresolved, h⟩⟩
            · cases found with
              | none => exact hlater h
              | some found => cases h

/-- A search for a field fails at a base of one of the classes that it comes to. `Reached` holds of
all of these. -/
theorem searchClass_error {project : Option SourceProject}
    (Reached : SourceModule × ClassSource → Prop)
    (hnext : ∀ {c base next}, Reached c → classOf project c.1 base = .ok (some next) → Reached next)
    {field : String} {n : Nat} {seen : List (String × String)} {c : SourceModule × ClassSource}
    {e : Failure} (hc : Reached c) (h : searchClass project field n seen c = .error e) :
    ∃ c, Reached c ∧ ∃ base ∈ c.2.bases, ∃ f, base.QuotesUnread f ∧ e = .fault f := by
  induction n generalizing seen c e with
  | zero => cases h
  | succ n ih =>
      obtain ⟨m, c⟩ := c
      rw [searchClass] at h
      split at h
      · cases h
      · split at h
        · cases h
        · obtain ⟨base, hbase, hfail | ⟨next, _, hresolved, hfail⟩⟩ := searchBases_error h
          · exact ⟨(m, c), hc, base, hbase, classOf_error hfail⟩
          · exact ih (hnext hc hresolved) hfail

/-- A field cannot be looked for where its type quotes a text that cannot be read, or a base of a
class that the search comes to. -/
theorem field?_error (Reached : SourceModule × ClassSource → Prop) {t : SourceType}
    (hstart : ∀ {written c}, classOf t.project t.module written = .ok (some c) → Reached c)
    (hnext : ∀ {c base next}, Reached c → classOf t.project c.1 base = .ok (some next) →
      Reached next)
    {name : String} {e : Failure} (h : t.field? name = .error e) :
    ∃ f, e = .fault f ∧ ((∃ written, t.expr = some written ∧ written.QuotesUnread f) ∨
      ∃ c, Reached c ∧ ∃ base ∈ c.2.bases, base.QuotesUnread f) := by
  unfold field? at h
  split at h
  · cases h
  · rename_i written hwritten
    rcases bind_eq_error_iff.mp h with h | ⟨resolved, hresolved, h⟩
    · obtain ⟨f, hunread, he⟩ := classOf_error h
      exact ⟨f, he, .inl ⟨written, hwritten, hunread⟩⟩
    · cases resolved with
      | none => cases h
      | some c =>
          rcases bind_eq_error_iff.mp h with h | ⟨_, _, h⟩
          · obtain ⟨c, hc, base, hbase, f, hunread, he⟩ :=
              searchClass_error Reached hnext (hstart hresolved) h
            exact ⟨f, he, .inr ⟨c, hc, base, hbase, hunread⟩⟩
          · cases h

end SourceType

instance : LawfulDeclaredType SourceType where
  text_error h := by
    obtain ⟨_, f, -, -, rfl⟩ := SourceType.text_error h
    exact ⟨f, rfl⟩
  carried_error {t e} h := by
    change t.carried?.map (·.getD t) = .error e at h
    exact ⟨_, (SourceType.carried?_error (map_eq_error_iff.mp h)).2⟩
  imports_error h := by
    obtain ⟨_, f, -, -, he⟩ := SourceType.imports_error h
    exact ⟨f, he⟩
  field_error h := by
    obtain ⟨f, he, -⟩ :=
      SourceType.field?_error (fun _ => True) (fun _ => trivial) (fun _ _ => trivial) h
    exact ⟨f, he⟩

end TypedClients
