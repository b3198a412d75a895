import Mathlib.Data.List.Basic
import TypedClients.Imports

/-!
# What imports bind

An import binds a name and gives it a meaning: a module, or a name of one. The statements for some
imports bind what these bind and nothing else.
-/
namespace TypedClients

open TypedClients.Code

/-- What an imported name stands for. -/
inductive Meaning where
  | module (name : String)
  | member (module name : String)
  deriving DecidableEq, Repr

/-- The module that a meaning comes from. -/
def Meaning.source : Meaning → String
  | .module name => name
  | .member owner _ => owner

/-- The name of its own that a thing is bound to. An empty one is none. -/
def ImportRef.ownName? (r : ImportRef) : Option String := r.localName.filter (· != "")

/-- The name that an import binds. -/
def ImportRef.boundName (r : ImportRef) : String :=
  r.ownName?.getD (r.name.getD (firstComponent r.module))

/-- The meaning of the name that an import binds. Without a name of its own a module is known by
its first component, and so is the package of that name. -/
def ImportRef.meaning (r : ImportRef) : Meaning :=
  match r.name with
  | some name => .member r.module name
  | none => .module (if r.ownName?.isSome then r.module else firstComponent r.module)

/-- A bound name with its meaning. -/
def ImportRef.bound (r : ImportRef) : String × Meaning := (r.boundName, r.meaning)

theorem ImportRef.meaning_source_of_builtin {r : ImportRef} (h : r.module = Imports.builtinModule) :
    r.meaning.source = Imports.builtinModule := by
  have hfirst : firstComponent Imports.builtinModule = Imports.builtinModule := by decide
  unfold meaning
  split
  · exact h
  · rw [Meaning.source, h]
    split
    · rfl
    · exact hfirst

/-- The names that a statement imports, with their meanings. -/
def importedMeanings : Stmt → List (String × Meaning)
  | .importModules modules => modules.map fun i =>
      match i.localName with
      | some name => (name, .module i.name)
      | none => (firstComponent i.name, .module (firstComponent i.name))
  | .importFrom module names level => names.map fun i =>
      (i.localName.getD i.name,
        .member (String.ofList (List.replicate level '.') ++ module.getD "") i.name)
  | _ => []

/-- No name has two meanings. -/
def Unambiguous (bindings : List (String × Meaning)) : Prop :=
  ∀ name meaning other, (name, meaning) ∈ bindings → (name, other) ∈ bindings → meaning = other

namespace Imports

/-! ### Members -/

theorem mem_insert_iff {i : Imports} {ref r : ImportRef} :
    r ∈ (i.insert ref).refs ↔ r ∈ i.refs ∨ r = ref := by
  unfold insert
  split
  · rename_i hmem
    constructor
    · exact .inl
    · rintro (h | rfl)
      · exact h
      · exact hmem
  · simp

theorem mem_require_iff {i : Imports} {ref r : ImportRef} :
    r ∈ (i.require ref).refs ↔ r ∈ i.refs ∨ r = ref ∧ r.module ≠ builtinModule := by
  unfold require
  split
  · rename_i hbuiltin
    constructor
    · exact .inl
    · rintro (h | ⟨rfl, hne⟩)
      · exact h
      · exact absurd hbuiltin hne
  · rename_i hbuiltin
    rw [mem_insert_iff]
    constructor
    · exact Or.imp_right fun h => ⟨h, h ▸ hbuiltin⟩
    · exact Or.imp_right And.left

theorem mem_requireAll_iff {i : Imports} {refs : List ImportRef} {r : ImportRef} :
    r ∈ (i.requireAll refs).refs ↔ r ∈ i.refs ∨ r ∈ refs ∧ r.module ≠ builtinModule := by
  induction refs generalizing i with
  | nil => simp [requireAll]
  | cons ref refs ih =>
      have hstep : i.requireAll (ref :: refs) = (i.require ref).requireAll refs := rfl
      rw [hstep, ih, mem_require_iff, List.mem_cons, or_assoc, ← or_and_right]

theorem mem_plainModules_iff {i : Imports} {m : String × Option String} :
    m ∈ i.plainModules ↔ ⟨m.1, none, m.2⟩ ∈ i.refs := by
  rw [plainModules, List.mem_mergeSort, List.mem_filterMap]
  constructor
  · rintro ⟨⟨module, name, localName⟩, hr, h⟩
    cases name with
    | none => cases h; exact hr
    | some name => cases h
  · intro h
    exact ⟨_, h, rfl⟩

theorem mem_sourceModules_iff {i : Imports} {module : String} :
    module ∈ i.sourceModules ↔ ∃ n, n ∈ i.namesFrom module := by
  simp only [sourceModules, namesFrom, List.mem_mergeSort, List.mem_eraseDups, List.mem_filterMap]
  constructor
  · rintro ⟨r, hr, h⟩
    obtain ⟨name, hname, rfl⟩ := Option.map_eq_some_iff.mp h
    exact ⟨(name, r.localName), r, hr, by simp [hname]⟩
  · rintro ⟨n, r, hr, h⟩
    split at h
    · rename_i hmodule
      obtain ⟨name, hname, -⟩ := Option.map_eq_some_iff.mp h
      exact ⟨r, hr, by simp [hname, hmodule]⟩
    · cases h

theorem mem_namesFrom_iff {i : Imports} {module : String} {n : String × Option String} :
    n ∈ i.namesFrom module ↔ ⟨module, some n.1, n.2⟩ ∈ i.refs := by
  rw [namesFrom, List.mem_mergeSort, List.mem_filterMap]
  constructor
  · rintro ⟨⟨source, name, localName⟩, hr, h⟩
    split at h
    · rename_i hsource
      obtain ⟨name, rfl, rfl⟩ := Option.map_eq_some_iff.mp h
      exact hsource ▸ hr
    · cases h
  · intro h
    exact ⟨_, h, by simp⟩

/-! ### Statements -/

theorem relativeParts_join (module : String) :
    String.ofList (List.replicate (relativeParts module).1 '.') ++ (relativeParts module).2 =
      module := by
  have hdots : List.replicate (module.toList.takeWhile (· == '.')).length '.' =
      module.toList.takeWhile (· == '.') := by
    refine (List.eq_replicate_of_mem fun c hc => ?_).symm
    simpa using List.all_eq_true.mp List.all_takeWhile c hc
  apply String.toList_inj.mp
  simp [relativeParts, hdots, List.takeWhile_append_dropWhile]

theorem importedMeanings_plainStatement (m : String × Option String) :
    importedMeanings (plainStatement m) = [ImportRef.bound ⟨m.1, none, m.2⟩] := by
  obtain ⟨module, localName⟩ := m
  rcases hown : localName.filter (· != "") with _ | own <;>
    simp [plainStatement, imported, importedMeanings, ImportRef.bound, ImportRef.boundName,
      ImportRef.meaning, ImportRef.ownName?, hown]

theorem importedMeanings_fromStatement (module : String) (names : List (String × Option String)) :
    importedMeanings (fromStatement module names) =
      names.map fun n => ImportRef.bound ⟨module, some n.1, n.2⟩ := by
  have hmodule : String.ofList (List.replicate (relativeParts module).1 '.') ++
      (if (relativeParts module).2 = "" then none else some (relativeParts module).2).getD "" =
        module := by
    split
    · rename_i hrest
      simpa [hrest] using relativeParts_join module
    · exact relativeParts_join module
  simp only [fromStatement, importedMeanings, hmodule, List.map_map]
  rfl

theorem mem_statements_iff {i : Imports} {stmt : Stmt} :
    stmt ∈ i.statements ↔ (∃ m ∈ i.plainModules, plainStatement m = stmt) ∨
      ∃ m ∈ i.sourceModules, fromStatement m (i.namesFrom m) = stmt := by
  have hkind : ∀ kind : ModuleKind,
      kind ∈ [ModuleKind.standard, ModuleKind.external, ModuleKind.relative] := by
    intro kind
    cases kind <;> simp
  simp only [statements, statementsOf, List.mem_flatMap, List.mem_append, List.mem_map,
    List.mem_filter, beq_iff_eq]
  constructor
  · rintro ⟨kind, -, ⟨m, ⟨hm, -⟩, h⟩ | ⟨m, ⟨hm, -⟩, h⟩⟩
    · exact .inl ⟨m, hm, h⟩
    · exact .inr ⟨m, hm, h⟩
  · rintro (⟨m, hm, h⟩ | ⟨m, hm, h⟩)
    · exact ⟨_, hkind (.ofModule m.1), .inl ⟨m, ⟨hm, rfl⟩, h⟩⟩
    · exact ⟨_, hkind (.ofModule m), .inr ⟨m, ⟨hm, rfl⟩, h⟩⟩

/-- The statements bind what the imports bind. -/
theorem mem_importedMeanings_statements {i : Imports} {b : String × Meaning} :
    b ∈ i.statements.flatMap importedMeanings ↔ ∃ r ∈ i.refs, r.bound = b := by
  rw [List.mem_flatMap]
  constructor
  · rintro ⟨stmt, hstmt, hb⟩
    rcases mem_statements_iff.mp hstmt with ⟨m, hm, rfl⟩ | ⟨m, -, rfl⟩
    · rw [importedMeanings_plainStatement, List.mem_singleton] at hb
      exact ⟨_, mem_plainModules_iff.mp hm, hb.symm⟩
    · rw [importedMeanings_fromStatement] at hb
      obtain ⟨n, hn, rfl⟩ := List.mem_map.mp hb
      exact ⟨_, mem_namesFrom_iff.mp hn, rfl⟩
  · rintro ⟨⟨module, name, localName⟩, hr, rfl⟩
    cases name with
    | none =>
        refine ⟨_, mem_statements_iff.mpr (.inl ⟨(module, localName), ?_, rfl⟩), ?_⟩
        · exact mem_plainModules_iff.mpr hr
        · rw [importedMeanings_plainStatement]
          exact List.mem_singleton.mpr rfl
    | some name =>
        have hn : (name, localName) ∈ i.namesFrom module := mem_namesFrom_iff.mpr hr
        refine ⟨_, mem_statements_iff.mpr (.inr ⟨module, ?_, rfl⟩), ?_⟩
        · exact mem_sourceModules_iff.mpr ⟨_, hn⟩
        · rw [importedMeanings_fromStatement]
          exact List.mem_map.mpr ⟨_, hn, rfl⟩

end Imports

end TypedClients
