import Mathlib.Data.List.Nodup
import TypedClients.Proofs.ClassSearch

/-!
# The class behind an imported name

A name in a module refers to a class, whose fields give the parameters of paths their types, and a
client imports the name. The two are the same class for every name that the module takes from
another one, however often it is handed on, and for the module's own classes unless the module
imports their names as well.
-/
namespace TypedClients

open TypedClients.Code

namespace SourceModule

/-- A class of a module is one of its definitions. -/
theorem mem_definitions_of_class {m : SourceModule} {name : String}
    (h : (m.classes.get? name).isSome) : name ∈ m.definitions := by
  obtain ⟨c, hc⟩ := Option.isSome_iff_exists.mp h
  obtain ⟨rfl, stmt, hstmt, hclass⟩ := get?_classes hc
  refine List.mem_flatMap.mpr ⟨stmt, hstmt, ?_⟩
  unfold ClassSource.ofStmt? at hclass
  split at hclass <;> cases hclass
  exact List.mem_singleton_self _

end SourceModule

namespace SourceProject

/-- A name leads from a module of the project to a class. -/
def LeadsTo (p : SourceProject) (module name : String) (found : SourceModule × ClassSource) :
    Prop :=
  ∃ source, p.module? module = some source ∧ p.findClass source name = some found

/-- The import of a name in a module takes a name from a module of the project, and leads to a
class. -/
def ImportLeadsTo (p : SourceProject) (m : SourceModule) (name : String)
    (found : SourceModule × ClassSource) : Prop :=
  ∃ ref taken, (SourceType.importFor m name).result = .ok (some ref) ∧ ref.name = some taken ∧
    p.LeadsTo ref.module taken found

variable {p : SourceProject} {m : SourceModule} {name : String} {found : SourceModule × ClassSource}

theorem module?_of_mem (hnames : (p.modules.map (·.name.text)).Nodup) (hm : m ∈ p.modules) :
    p.module? m.name.text = some m := by
  have hfound : (p.module? m.name.text).isSome :=
    List.find?_isSome.mpr ⟨m, List.mem_reverse.mpr hm, beq_self_eq_true _⟩
  obtain ⟨m', hm'⟩ := Option.isSome_iff_exists.mp hfound
  have hname : m'.name.text = m.name.text := by simpa using List.find?_some hm'
  rw [hm', List.inj_on_of_nodup_map hnames (mem_of_module? hm') hm hname]

/-- A class that is none of the module's own comes from where its name is imported from. -/
theorem exists_origin_of_findClass (hnone : m.classes.get? name = none)
    (hfound : p.findClass m name = some found) :
    ∃ origin, m.nameImports.get? name = some origin ∧
      p.LeadsTo origin.module origin.name found := by
  unfold findClass at hfound
  rw [follow, List.contains_nil, if_neg Bool.false_ne_true, hnone] at hfound
  obtain ⟨origin, horigin, hfound⟩ := Option.bind_eq_some_iff.mp hfound
  obtain ⟨source, hsource, hfound⟩ := Option.bind_eq_some_iff.mp hfound
  exact ⟨origin, horigin, source, hsource,
    follow_of_subset (Nat.le_succ _) (List.nil_subset _) hfound⟩

theorem importLeadsTo_of_origin {origin : SourceModule.NameOrigin}
    (horigin : m.nameImports.get? name = some origin) :
    p.ImportLeadsTo m name found ↔ p.LeadsTo origin.module origin.name found := by
  rw [ImportLeadsTo, SourceType.importFor_result, SourceType.reference?, horigin]
  constructor
  · rintro ⟨ref, taken, href, htaken, h⟩
    cases href
    cases htaken
    exact h
  · intro h
    exact ⟨_, _, rfl, rfl, h⟩

/-- A name that refers to a class refers to it also where its import takes it from. The exception
are the classes of a module whose names the module imports as well: their imports lead elsewhere
unless they come back to the class. Where an import leads to the class, the fields of the imported
name are those of the name. -/
theorem importLeadsTo_iff (hnames : (p.modules.map (·.name.text)).Nodup) (hm : m ∈ p.modules)
    (hfound : p.findClass m name = some found) :
    (p.ImportLeadsTo m name found ↔ ((m.classes.get? name).isSome →
      (∀ origin, m.nameImports.get? name = some origin →
        p.LeadsTo origin.module origin.name found) ∧
      (m.nameImports.get? name = none → m.moduleImports.get? name = none))) ∧
    ∀ ref taken source, (SourceType.importFor m name).result = .ok (some ref) →
      ref.name = some taken → p.module? ref.module = some source →
      p.findClass source taken = some found → ∀ field,
        SourceType.field? ⟨some (.name name), m, some p⟩ field =
          SourceType.field? ⟨some (.name taken), source, some p⟩ field := by
  refine ⟨?_, ?_⟩
  · cases horigin : m.nameImports.get? name with
    | some origin =>
        rw [importLeadsTo_of_origin horigin]
        constructor
        · intro h _
          refine ⟨fun origin' horigin' => ?_, fun hnone => nomatch hnone⟩
          cases horigin'
          exact h
        · intro h
          cases hclass : m.classes.get? name with
          | some c => exact (h (by rw [hclass]; rfl)).1 origin rfl
          | none =>
              obtain ⟨origin', horigin', hleads⟩ := exists_origin_of_findClass hclass hfound
              rw [horigin] at horigin'
              cases horigin'
              exact hleads
    | none =>
        cases hclass : m.classes.get? name with
        | none =>
            obtain ⟨origin, horigin', -⟩ := exists_origin_of_findClass hclass hfound
            rw [horigin] at horigin'
            cases horigin'
        | some c =>
            have hsome : (m.classes.get? name).isSome := by rw [hclass]; rfl
            rw [ImportLeadsTo, SourceType.importFor_result, SourceType.reference?, horigin]
            cases hmodule : m.moduleImports.get? name with
            | some origin =>
                constructor
                · rintro ⟨ref, taken, href, htaken, -⟩
                  cases href
                  cases htaken
                · intro h
                  cases (h rfl).2 rfl
            | none =>
                have hdefined := SourceModule.mem_definitions_of_class hsome
                refine iff_of_true ?_ fun _ => ⟨fun _ h => (by cases h), fun _ => rfl⟩
                refine ⟨{ module := m.name.text, name := some name }, name, ?_, rfl, m,
                  module?_of_mem hnames hm, hfound⟩
                simp only [if_pos hdefined]
  · intro ref taken source _ _ hsource hsame field
    have hhas := has_of_findClass hm hfound
    have hsearch := SourceType.searchClass_eq_of_covers field (Covers.refl p) m source hhas
    have hname (m : SourceModule) (n : String) : SourceType.classOf (some p) m (.name n) =
        .ok (p.findClass m n) := rfl
    simp only [SourceType.field?, hname, hfound, hsame]
    change SourceType.searchClass _ _ _ _ _ >>= _ = SourceType.searchClass _ _ _ _ _ >>= _
    rw [hsearch]

/-! ### A class that extends one of its own name -/

/-- A module with accounts. -/
def accounts : SourceModule where
  name := ⟨"accounts", false⟩
  path := "accounts.py"
  body := [.classDef [] "User" [] [] [.declare (.name "name") (.name "str") none true]]

/-- A module that extends the class of accounts by one of the same name. -/
def people : SourceModule where
  name := ⟨"people", false⟩
  path := "people.py"
  body := [.importFrom (some "accounts") [{ name := "User" }] 0,
    .classDef [] "User" [.name "User"] [] [.declare (.name "id") (.name "int") none true]]

/-- A module that takes the class from where it is extended. -/
def visits : SourceModule where
  name := ⟨"visits", false⟩
  path := "visits.py"
  body := [.importFrom (some "people") [{ name := "User", localName := some "Visitor" }] 0]

def visitProject : SourceProject := ⟨[accounts, people, visits]⟩

theorem importLeadsTo_iff_visitor :
    (visitProject.modules.map (·.name.text)).Nodup ∧ visits ∈ visitProject.modules ∧
      ∃ found, visitProject.findClass visits "Visitor" = some found ∧
        visitProject.ImportLeadsTo visits "Visitor" found := by
  have hnames : (visitProject.modules.map (·.name.text)).Nodup := by decide
  have hmem : visits ∈ visitProject.modules := .tail _ (.tail _ (.head _))
  refine ⟨hnames, hmem, _, rfl, (importLeadsTo_iff hnames hmem rfl).1.mpr fun hclass => ?_⟩
  cases hclass

/-- In its own module the extending class is imported from where the extended one is, which has
none of its fields. -/
theorem not_importLeadsTo :
    (visitProject.modules.map (·.name.text)).Nodup ∧ people ∈ visitProject.modules ∧
    (∃ found, visitProject.findClass people "User" = some found ∧ found.1.name.text = "people" ∧
      ¬ visitProject.ImportLeadsTo people "User" found) ∧
    (SourceType.field? ⟨some (.name "User"), people, some visitProject⟩ "id").toOption.join.isSome ∧
    ¬ (SourceType.field? ⟨some (.name "User"), accounts, some visitProject⟩
      "id").toOption.join.isSome := by
  refine ⟨by decide, .tail _ (.head _), ⟨_, rfl, rfl, ?_⟩, by decide, by decide⟩
  have horigin : people.nameImports.get? "User" = some ⟨"accounts", "User"⟩ := by decide
  rw [importLeadsTo_of_origin horigin]
  rintro ⟨source, hsource, hfound⟩
  obtain rfl : accounts = source := Option.some.inj hsource
  have hname := congrArg (Option.map fun found => found.1.name.text) hfound
  revert hname
  decide

end SourceProject

end TypedClients
