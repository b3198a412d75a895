import TypedClients.Proofs.PackageNames

/-!
# Projects below a package

Put below a package, the modules of a project get other names and keep everything else. Searches for
modules, classes and fields then give what they gave before, under the new names, if the relative
imports stay below the root and the absolute ones lead out of the project and not to the package.
Of the imports for names only those change that are relative or stand for a definition.
-/
namespace TypedClients

open TypedClients.Text TypedClients.Code

/-! ### Imports as they are written -/

/-- What a name is imported from, as it is written: some dots, perhaps a module, and a name of it. -/
structure WrittenOrigin where
  level : Nat
  target : Option String
  name : String

/-- The relative imports that a statement makes: their dots, and the modules after these. -/
def Code.Stmt.relativeImports : Stmt → List (Nat × Option String)
  | .importFrom target _ level => if level = 0 then [] else [(level, target)]
  | _ => []

/-- The modules that a statement imports, or takes names from, by their absolute names. -/
def Code.Stmt.absoluteImports : Stmt → List String
  | .importFrom target _ level => if level = 0 then [target.getD ""] else []
  | .importModules modules => modules.map (·.name)
  | _ => []

namespace SourceModule

def relativeImports (m : SourceModule) : List (Nat × Option String) :=
  m.body.flatMap Stmt.relativeImports

def absoluteImports (m : SourceModule) : List String := m.body.flatMap Stmt.absoluteImports

/-- The names that a statement imports from a module. -/
def writtenNames : Stmt → List (String × WrittenOrigin)
  | .importFrom target names level =>
      (names.filter (·.name != "*")).map fun n =>
        (n.localName.getD n.name, ⟨level, target, n.name⟩)
  | _ => []

/-- The names imported from modules, by local name. -/
def writtenImports (m : SourceModule) : Dictionary String WrittenOrigin :=
  (m.body.flatMap writtenNames).foldl (fun d p => d.insert p.1 p.2) []

/-- What is written in a module stands for a name of another module. -/
def originOf (m : SourceModule) (o : WrittenOrigin) : NameOrigin :=
  ⟨m.name.resolve o.level o.target, o.name⟩

variable {m : SourceModule}

theorem importedNames_eq (stmt : Stmt) :
    importedNames m.name stmt = (writtenNames stmt).map fun p => (p.1, m.originOf p.2) := by
  cases stmt
  case importFrom target names level =>
    rw [importedNames, writtenNames, List.map_map]
    rfl
  all_goals rfl

theorem nameImports_eq (m : SourceModule) :
    m.nameImports = m.writtenImports.map fun p => (p.1, m.originOf p.2) := by
  have hnames : m.body.flatMap (importedNames m.name) =
      (m.body.flatMap writtenNames).map fun p => (p.1, m.originOf p.2) := by
    rw [List.map_flatMap]
    exact List.flatMap_congr fun stmt _ => importedNames_eq stmt
  rw [writtenImports, Dictionary.map_foldl_insert, ← hnames]
  rfl

theorem get?_nameImports (m : SourceModule) (name : String) :
    m.nameImports.get? name = (m.writtenImports.get? name).map m.originOf := by
  rw [nameImports_eq, Dictionary.get?_map]

theorem mem_of_writtenImports {name : String} {o : WrittenOrigin}
    (h : m.writtenImports.get? name = some o) :
    if o.level = 0 then o.target.getD "" ∈ m.absoluteImports
    else (o.level, o.target) ∈ m.relativeImports := by
  rcases Dictionary.get?_foldl_insert h with h | h
  · obtain ⟨stmt, hstmt, hname⟩ := List.mem_flatMap.mp h
    cases stmt
    case importFrom target names level =>
      obtain ⟨n, -, heq⟩ := List.mem_map.mp hname
      cases heq
      split
      · rename_i hlevel
        refine List.mem_flatMap.mpr ⟨_, hstmt, ?_⟩
        simp only at hlevel
        simp [Stmt.absoluteImports, hlevel]
      · rename_i hlevel
        refine List.mem_flatMap.mpr ⟨_, hstmt, ?_⟩
        simp only at hlevel
        simp [Stmt.relativeImports, hlevel]
    all_goals cases hname
  · cases h

theorem mem_of_moduleImports {name : String} {origin : ModuleOrigin}
    (h : m.moduleImports.get? name = some origin) : origin.module ∈ m.absoluteImports := by
  rcases Dictionary.get?_foldl_insert h with h | h
  · obtain ⟨stmt, hstmt, hname⟩ := List.mem_flatMap.mp h
    refine List.mem_flatMap.mpr ⟨stmt, hstmt, ?_⟩
    cases stmt
    case importModules modules =>
      obtain ⟨i, hi, heq⟩ := List.mem_map.mp hname
      refine List.mem_map.mpr ⟨i, hi, ?_⟩
      split at heq <;> cases heq <;> rfl
    all_goals cases hname
  · cases h

end SourceModule

/-! ### Modules -/

/-- A module with a package in front of the project. -/
def SourceModule.inPackage (package : String) (m : SourceModule) : SourceModule :=
  { m with name := m.name.inPackage package }

/-- A project with a package in front of it. -/
def SourceProject.inPackage (package : String) (p : SourceProject) : SourceProject :=
  ⟨p.modules.map (SourceModule.inPackage package)⟩

theorem SourceModule.read_inPackage {package : String} (hpackage : package ≠ "")
    (source path : String) : SourceModule.read source path (some package) =
      (SourceModule.read source path none).map (inPackage package) := by
  unfold read
  split
  · rfl
  · cases readStatements source with
    | error e => cases e <;> rfl
    | ok body =>
        simp only [ModuleName.ofPath_inPackage hpackage]
        cases ModuleName.ofPath path none <;> rfl

namespace SourceProject

/-- The project of sources in a package is the one without a package, put into it. -/
theorem ofSources_inPackage {package : String} (hpackage : package ≠ "")
    (sources : List (String × String)) : ofSources sources (some package) =
      (ofSources sources none).map (inPackage package) := by
  have hread (source : String × String) : readText (some package) source =
      (readText none source).map (SourceModule.inPackage package) :=
    SourceModule.read_inPackage hpackage source.2 source.1
  rw [ofSources_eq, ofSources_eq, mapM_map_eq hread]
  cases (sources.mergeSort fun a b => decide (a.1 ≤ b.1)).mapM (readText none) <;> rfl

/-- A name that has its first component in common with no module of a project and not with a
package. -/
structure Excludes (p : SourceProject) (package name : String) : Prop where
  package : firstComponent name ≠ firstComponent package
  modules : ∀ m ∈ p.modules, firstComponent name ≠ firstComponent m.name.text

instance (p : SourceProject) (package name : String) : Decidable (p.Excludes package name) :=
  decidable_of_iff (firstComponent name ≠ firstComponent package ∧
      ∀ m ∈ p.modules, firstComponent name ≠ firstComponent m.name.text)
    ⟨fun h => ⟨h.1, h.2⟩, fun h => ⟨h.package, h.modules⟩⟩

/-- Relative imports stay below the root of the project, and absolute ones lead elsewhere. -/
structure ImportsMove (package : String) (p : SourceProject) : Prop where
  relative : ∀ m ∈ p.modules, ∀ i ∈ m.relativeImports, m.name.StaysBelowRoot i.1 i.2
  absolute : ∀ m ∈ p.modules, ∀ name ∈ m.absoluteImports, p.Excludes package name

instance (package : String) (p : SourceProject) : Decidable (p.ImportsMove package) :=
  decidable_of_iff ((∀ m ∈ p.modules, ∀ i ∈ m.relativeImports, m.name.StaysBelowRoot i.1 i.2) ∧
      ∀ m ∈ p.modules, ∀ name ∈ m.absoluteImports, p.Excludes package name)
    ⟨fun h => ⟨h.1, h.2⟩, fun h => ⟨h.relative, h.absolute⟩⟩

/-- A project that can be put below a package. -/
structure Moves (package : String) (p : SourceProject) : Prop extends ImportsMove package p where
  package : package ≠ ""
  root : ∀ m ∈ p.modules, m.name.text = "" → m.name.isPackage = true

variable {package : String} {p : SourceProject}

theorem module?_inPackage (name : String) :
    (p.inPackage package).module? (belowPackage package name) =
      (p.module? name).map (SourceModule.inPackage package) := by
  have hsame (m : SourceModule) : ((m.inPackage package).name.text == belowPackage package name) =
      (m.name.text == name) := by
    rw [Bool.eq_iff_iff, beq_iff_eq, beq_iff_eq]
    exact (belowPackage_injective package).eq_iff
  rw [module?, module?, inPackage, ← List.map_reverse, List.find?_map]
  congr 2
  exact funext hsame

theorem Excludes.module?_eq_none {name : String} (h : p.Excludes package name) :
    p.module? name = none ∧ (p.inPackage package).module? name = none := by
  constructor
  · refine List.find?_eq_none.mpr fun m hm hname => ?_
    refine h.modules m (List.mem_reverse.mp hm) ?_
    rw [beq_iff_eq.mp hname]
  · refine List.find?_eq_none.mpr fun m hm hname => ?_
    obtain ⟨n, -, rfl⟩ := List.mem_map.mp (List.mem_reverse.mp hm)
    refine h.package ?_
    rw [← beq_iff_eq.mp hname]
    exact firstComponent_belowPackage package n.name.text

variable {m : SourceModule} {name : String}

theorem Moves.resolve_eq (h : p.Moves package) (hm : m ∈ p.modules) {o : WrittenOrigin}
    (ho : m.writtenImports.get? name = some o) : ((m.inPackage package).originOf o).module =
      if o.level = 0 then (m.originOf o).module else belowPackage package (m.originOf o).module := by
  have himport := SourceModule.mem_of_writtenImports ho
  by_cases hlevel : o.level = 0
  · rw [if_pos hlevel]
    simp only [SourceModule.originOf, ModuleName.resolve, if_pos hlevel]
  · rw [if_neg hlevel] at himport ⊢
    exact ModuleName.resolve_inPackage h.package (h.root m hm) hlevel (h.relative m hm _ himport)

/-- The module that a name is imported from is found below the package if it was found before. -/
theorem Moves.module?_originOf (h : p.Moves package) (hm : m ∈ p.modules) {o : WrittenOrigin}
    (ho : m.writtenImports.get? name = some o) :
    (p.inPackage package).module? ((m.inPackage package).originOf o).module =
      (p.module? (m.originOf o).module).map (SourceModule.inPackage package) := by
  have himport := SourceModule.mem_of_writtenImports ho
  rw [h.resolve_eq hm ho]
  by_cases hlevel : o.level = 0
  · rw [if_pos hlevel] at himport ⊢
    have hmodule : (m.originOf o).module = o.target.getD "" := by
      simp only [SourceModule.originOf, ModuleName.resolve, if_pos hlevel]
    obtain ⟨hnone, hnone'⟩ := (h.absolute m hm _ himport).module?_eq_none
    rw [hmodule, hnone, hnone']
    rfl
  · rw [if_neg hlevel]
    exact module?_inPackage _

/-! ### Classes -/

/-- A place of a search, with a package in front of the module. -/
def keyInPackage (package : String) (key : String × String) : String × String :=
  (belowPackage package key.1, key.2)

theorem keyInPackage_injective (package : String) : Function.Injective (keyInPackage package) := by
  rintro ⟨text, name⟩ ⟨text', name'⟩ heq
  obtain ⟨htext, hname⟩ := Prod.mk.inj heq
  exact Prod.ext (belowPackage_injective package htext) hname

/-- What a search finds, with a package in front of the module. -/
def foundInPackage {α : Type} (package : String) (found : SourceModule × α) : SourceModule × α :=
  (found.1.inPackage package, found.2)

theorem Moves.follow_eq (h : p.Moves package) (hm : m ∈ p.modules) (n : Nat)
    (seen : List (String × String)) (name : String) :
    (p.inPackage package).follow n (seen.map (keyInPackage package)) (m.inPackage package) name =
      (p.follow n seen m name).map (foundInPackage package) := by
  induction n generalizing seen m name with
  | zero => rfl
  | succ n ih =>
      have hseen : (seen.map (keyInPackage package)).contains
          ((m.inPackage package).name.text, name) = seen.contains (m.name.text, name) := by
        rw [Bool.eq_iff_iff, List.contains_iff_mem, List.contains_iff_mem]
        exact List.mem_map_of_injective (a := (m.name.text, name)) (keyInPackage_injective package)
      have hclasses : (m.inPackage package).classes = m.classes := rfl
      have himports : (m.inPackage package).writtenImports = m.writtenImports := rfl
      rw [follow, follow, hseen, hclasses, SourceModule.get?_nameImports,
        SourceModule.get?_nameImports, himports]
      by_cases hmem : seen.contains (m.name.text, name) = true
      · rw [if_pos hmem, if_pos hmem]
        rfl
      rw [if_neg hmem, if_neg hmem]
      cases m.classes.get? name with
      | some c => rfl
      | none =>
          cases ho : m.writtenImports.get? name with
          | none => rfl
          | some o =>
              simp only [Option.map_some, Option.bind_eq_bind, Option.bind_some]
              rw [h.module?_originOf hm ho]
              cases htarget : p.module? (m.originOf o).module with
              | none => rfl
              | some target => exact ih (mem_of_module? htarget) ((m.name.text, name) :: seen) o.name

theorem importCount_inPackage (package : String) (p : SourceProject) :
    (p.inPackage package).importCount = p.importCount := by
  have hcount (m : SourceModule) : (m.inPackage package).nameImports.length =
      m.nameImports.length := by
    rw [SourceModule.nameImports_eq, SourceModule.nameImports_eq, List.length_map, List.length_map]
    rfl
  rw [importCount, importCount, inPackage, List.foldl_map]
  simp only [hcount]

theorem Moves.findClass_eq (h : p.Moves package) (hm : m ∈ p.modules) (name : String) :
    (p.inPackage package).findClass (m.inPackage package) name =
      (p.findClass m name).map (foundInPackage package) := by
  rw [findClass, findClass, importCount_inPackage]
  exact h.follow_eq hm _ [] name

end SourceProject

/-! ### Fields -/

theorem firstComponent_ofComponents (first : String) (inner : List String) :
    firstComponent (ModuleName.ofComponents (first :: inner)) = firstComponent first := by
  rw [firstComponent, firstComponent, toList_ofComponents_cons, List.takeWhile_append]
  split
  · rename_i hall
    rw [(List.takeWhile_prefix _).eq_of_length hall]
    cases inner <;> simp
  · rfl

namespace SourceType

open SourceProject

variable {package : String} {p : SourceProject} {m : SourceModule}

/-- A module that a dotted type spells with an import is no module of the project. -/
theorem excludes_of_moduleImports (h : p.Moves package) (hm : m ∈ p.modules) {first : String}
    {origin : SourceModule.ModuleOrigin} (horigin : m.moduleImports.get? first = some origin)
    (inner : List String) : p.Excludes package (ModuleName.ofComponents
      (if origin.localName.isSome then origin.module :: inner else first :: inner)) := by
  have hsame : firstComponent (ModuleName.ofComponents
      (if origin.localName.isSome then origin.module :: inner else first :: inner)) =
        firstComponent origin.module := by
    rcases get?_moduleImports horigin with hlocal | ⟨hlocal, hfirst⟩
    · simp only [hlocal, Option.isSome_some, if_true, firstComponent_ofComponents]
    · simp only [hlocal, Option.isSome_none, Bool.false_eq_true, if_false,
        firstComponent_ofComponents, ← hfirst]
      rw [firstComponent, firstComponent, String.toList_ofList, List.takeWhile_idem]
  obtain ⟨hpackage, hmodules⟩ := h.absolute m hm _ (SourceModule.mem_of_moduleImports horigin)
  constructor
  · rw [hsame]
    exact hpackage
  · rw [hsame]
    exact hmodules

theorem classOfParts_inPackage (h : p.Moves package) (hm : m ∈ p.modules) (parts : List String) :
    classOfParts (some (p.inPackage package)) (m.inPackage package) parts =
      (classOfParts (some p) m parts).map (foundInPackage package) := by
  match parts with
  | [] => rfl
  | [name] => exact h.findClass_eq hm name
  | first :: second :: rest =>
      have himports : (m.inPackage package).moduleImports = m.moduleImports := rfl
      simp only [classOfParts, himports, Option.bind_eq_bind]
      cases horigin : m.moduleImports.get? first with
      | none => rfl
      | some origin =>
          obtain ⟨hnone, hnone'⟩ :=
            (excludes_of_moduleImports h hm horigin (second :: rest).dropLast).module?_eq_none
          simp only [Option.bind_some, hnone, hnone', Option.bind_none, Option.map_none]

theorem classOf_inPackage (h : p.Moves package) (hm : m ∈ p.modules) (e : Expr) :
    classOf (some (p.inPackage package)) (m.inPackage package) e =
      (classOf (some p) m e).map (Option.map (foundInPackage package)) :=
  classOf_map (classOfParts_inPackage h hm) e

/-- The answer of a search for a field, with a package in front of its modules. -/
def searchInPackage (package : String) (answer : Option FieldSource × List (String × String)) :
    Option FieldSource × List (String × String) :=
  (answer.1.map (foundInPackage package), answer.2.map (keyInPackage package))

theorem searchClass_inPackage (h : p.Moves package) (field : String) {c : SourceModule × ClassSource}
    (hc : c.1 ∈ p.modules) (n : Nat) (seen : List (String × String)) :
    searchClass (some (p.inPackage package)) field n (seen.map (keyInPackage package))
        (foundInPackage package c) =
      (searchClass (some p) field n seen c).map (searchInPackage package) := by
  induction n generalizing seen c with
  | zero => rfl
  | succ n ih =>
      obtain ⟨m, c⟩ := c
      have hkey : ((m.inPackage package).name.text, c.name) ∈ seen.map (keyInPackage package) ↔
          (m.name.text, c.name) ∈ seen :=
        List.mem_map_of_injective (a := (m.name.text, c.name)) (keyInPackage_injective package)
      rw [foundInPackage, searchClass, searchClass]
      by_cases hmem : (m.name.text, c.name) ∈ seen
      · rw [if_pos hmem, if_pos (hkey.mpr hmem)]
        rfl
      rw [if_neg hmem, if_neg fun hmem' => hmem (hkey.mp hmem')]
      cases c.body.findSome? (declaredField? field) with
      | some hint => rfl
      | none =>
          refine searchBases_map (foundInPackage package) (List.map (keyInPackage package))
            ((m.name.text, c.name) :: seen) (classOf_inPackage h hc) fun base c' hbase seen' => ?_
          exact ih (has_of_classOf hc hbase).1 seen'

theorem classCount_inPackage (package : String) (p : SourceProject) (m : SourceModule) :
    classCount (some (p.inPackage package)) (m.inPackage package) = classCount (some p) m := by
  simp only [classCount, Option.map_some, Option.getD_some, SourceProject.inPackage,
    List.foldl_cons, List.foldl_map]
  rfl

/-- A type in a module of a project, and the same type with a package in front of the project. -/
inductive InPackage (package : String) (p : SourceProject) : SourceType → SourceType → Prop
  | intro (e : Option Expr) {m : SourceModule} (hm : m ∈ p.modules) :
      InPackage package p ⟨e, m, some p⟩ ⟨e, m.inPackage package, some (p.inPackage package)⟩

theorem field?_inPackage (h : p.Moves package) {t u : SourceType} (htu : InPackage package p t u)
    (name : String) : EndAlike (Option.Rel (InPackage package p)) (t.field? name) (u.field? name) := by
  cases htu with
  | @intro e m hm =>
      cases e with
      | none => exact .ok .none
      | some e =>
          simp only [field?, classOf_inPackage h hm, classCount_inPackage]
          cases hclass : classOf (some p) m e with
          | error f => exact .error f
          | ok resolved =>
              cases resolved with
              | none => exact .ok .none
              | some c =>
                  have hc := has_of_classOf hm hclass
                  have hsame := searchClass_inPackage h name hc.1 (classCount (some p) m + 1) []
                  change EndAlike _ (searchClass _ _ _ _ c >>= _)
                    (searchClass _ _ _ _ (foundInPackage package c) >>= _)
                  rw [List.map_nil] at hsame
                  rw [hsame]
                  cases hsearch : searchClass (some p) name (classCount (some p) m + 1) [] c with
                  | error f => exact .error f
                  | ok answer =>
                      obtain ⟨found, seen⟩ := answer
                      cases found with
                      | none => exact .ok .none
                      | some source =>
                          exact .ok (.some (.intro _ (mem_of_searchClass hc hsearch)))

end SourceType

end TypedClients
