import TypedClients.Proofs.DeclaredTypes
import TypedClients.Proofs.ImportMeanings

/-!
# The imports of types

A name means in its module what the module imports or defines under it. The imports of a type give
each name that the type refers to this meaning again.
-/
namespace TypedClients

open TypedClients.Code

/-! ### Names in modules -/

/-- What a name stands for in a module; nothing for built-in and unknown names. -/
def SourceModule.meaning? (m : SourceModule) (name : String) : Option Meaning :=
  match m.nameImports.get? name with
  | some origin => some (.member origin.module origin.name)
  | none =>
      match m.moduleImports.get? name with
      | some origin => some (.module (if origin.localName.isSome then origin.module else name))
      | none => if name ∈ m.definitions then some (.member m.name.text name) else none

theorem get?_moduleImports {m : SourceModule} {name : String}
    {origin : SourceModule.ModuleOrigin} (h : m.moduleImports.get? name = some origin) :
    origin.localName = some name ∨ origin.localName = none ∧ firstComponent origin.module = name := by
  rcases Dictionary.get?_foldl_insert h with h | h
  · obtain ⟨stmt, -, hstmt⟩ := List.mem_flatMap.mp h
    cases stmt with
    | importModules modules =>
        obtain ⟨i, -, hi⟩ := List.mem_map.mp hstmt
        split at hi <;> cases hi
        · exact .inl rfl
        · exact .inr ⟨rfl, rfl⟩
    | _ => cases hstmt
  · cases h

namespace SourceType

/-- The import for a name binds this name, with the meaning that it has in its module. -/
theorem reference?_meaning (m : SourceModule) {name : String} (hname : name ≠ "") :
    m.meaning? name = (reference? m name).map ImportRef.meaning ∧
      ∀ r ∈ reference? m name, r.boundName = name := by
  have hown : Option.filter (· != "") (some name) = some name := by
    rw [Option.filter_some, if_pos (bne_iff_ne.mpr hname)]
  unfold reference? SourceModule.meaning?
  cases m.nameImports.get? name with
  | some origin =>
      by_cases hsame : name = origin.name
      · simp [ImportRef.boundName, ImportRef.meaning, ImportRef.ownName?, hsame]
      · simp [ImportRef.boundName, ImportRef.meaning, ImportRef.ownName?, hsame, hown]
  | none =>
      cases hmodules : m.moduleImports.get? name with
      | some origin =>
          rcases get?_moduleImports hmodules with hlocal | ⟨hlocal, hfirst⟩
          · simp [ImportRef.boundName, ImportRef.meaning, ImportRef.ownName?, hlocal, hown]
          · simp [ImportRef.boundName, ImportRef.meaning, ImportRef.ownName?, hlocal, hfirst]
      | none =>
          by_cases hdefined : name ∈ m.definitions <;>
            simp [ImportRef.boundName, ImportRef.meaning, ImportRef.ownName?, hdefined]

/-! ### Imports of types -/

theorem importsFor_eq_ok {m : SourceModule} {found refs : List ImportRef}
    {names : List (Except Failure String)} (h : (importsFor m found names).result = .ok refs)
    (r : ImportRef) :
    r ∈ refs ↔ r ∈ found ∨ ∃ name, .ok name ∈ names ∧ reference? m name = some r := by
  induction names generalizing found with
  | nil => cases h; simp
  | cons head names ih =>
      cases head with
      | error e => cases h
      | ok name =>
          rw [importsFor, Traced.bind_result, importFor_result] at h
          have hhead : (∃ n, .ok n ∈ (.ok name :: names : List (Except Failure String)) ∧
              reference? m n = some r) ↔
                reference? m name = some r ∨ ∃ n, .ok n ∈ names ∧ reference? m n = some r := by
            simp [or_and_right, exists_or]
          rw [hhead]
          cases hreference : reference? m name with
          | none =>
              rw [hreference] at h
              rw [ih h]
              simp
          | some ref =>
              rw [hreference] at h
              rw [ih h]
              by_cases hfound : ref ∈ found
              · rw [if_pos hfound]
                constructor
                · exact Or.imp_right .inr
                · rintro (h | h | h)
                  · exact .inl h
                  · cases h
                    exact .inl hfound
                  · exact .inr h
              · simp [hfound, or_assoc, eq_comm]

/-- The meanings that names in the text of a type have where it is written. -/
inductive Means (t : SourceType) : String → Meaning → Prop
  | any (ht : t.expr = none) : t.Means "Any" (.member "typing" "Any")
  | name {e : Expr} {name : String} {meaning : Meaning} (ht : t.expr = some e)
      (hname : .ok name ∈ e.referencedNames) (hmeaning : t.module.meaning? name = some meaning) :
      t.Means name meaning

/-- Whatever a name means in the text of a type, one of the imports binds it to that. -/
theorem exists_bound_of_means {t : SourceType} {refs : List ImportRef}
    (h : t.imports.result = .ok refs) {name : String} {meaning : Meaning} (hname : name ≠ "")
    (hmeans : t.Means name meaning) : ∃ r ∈ refs, r.bound = (name, meaning) := by
  unfold imports at h
  cases hmeans with
  | any ht =>
      rw [ht] at h
      cases h
      exact ⟨anyImport, List.mem_cons_self, rfl⟩
  | name ht hreferenced hmeaning =>
      rw [ht] at h
      obtain ⟨heq, hbound⟩ := reference?_meaning t.module hname
      rw [hmeaning] at heq
      obtain ⟨r, hr, rfl⟩ := Option.map_eq_some_iff.mp heq.symm
      refine ⟨r, (importsFor_eq_ok h r).mpr (.inr ⟨name, hreferenced, hr⟩), ?_⟩
      rw [ImportRef.bound, hbound r hr]

end SourceType

end TypedClients
