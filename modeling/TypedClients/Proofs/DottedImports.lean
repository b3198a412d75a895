import TypedClients.Proofs.TypeImports

/-!
# Types by dotted names

A type that is named by its module needs the import of that module. An import without a name of its own
binds the first component of what it imports, and of several the last one counts. So the import of a type
by its dotted name is that of the module it is named by exactly where this one is imported last:
`imports_of_dotted`.
-/
namespace TypedClients

open TypedClients.Code TypedClients.Text

/-! ### Names of modules -/

theorem splitOn_eq_cons (separator : Char) (cs : List Char) :
    ∃ parts, splitOn separator cs = cs.takeWhile (· != separator) :: parts := by
  induction cs with
  | nil => exact ⟨[], rfl⟩
  | cons c cs ih =>
      obtain ⟨parts, hparts⟩ := ih
      by_cases h : c = separator
      · exact ⟨splitOn separator cs, by simp [splitOn, h]⟩
      · exact ⟨parts, by simp [splitOn, h, hparts]⟩

theorem components_eq_cons (name : String) :
    ∃ inner, ModuleName.components name = firstComponent name :: inner := by
  obtain ⟨parts, hparts⟩ := splitOn_eq_cons '.' name.toList
  exact ⟨parts.map String.ofList, by rw [ModuleName.components, hparts]; rfl⟩

namespace Code.Expr

theorem dottedParts?_ne_nil (e : Expr) : e.dottedParts? ≠ some [] := by
  cases e <;> simp [dottedParts?]

/-- A dotted name refers to its first component. -/
theorem referencedNames_of_dotted {e : Expr} {first : String} {inner : List String}
    (h : e.dottedParts? = some (first :: inner)) : e.referencedNames = [.ok first] := by
  fun_induction dottedParts? e generalizing inner with
  | case1 id =>
      cases h
      rfl
  | case2 value field ih =>
      obtain ⟨parts, hparts, heq⟩ := Option.map_eq_some_iff.mp h
      cases parts with
      | nil => exact absurd hparts (dottedParts?_ne_nil value)
      | cons head parts =>
          cases heq
          exact ih hparts
  | case3 => cases h

theorem untagged_of_dotted {e : Expr} {parts : List String} (h : e.dottedParts? = some parts) :
    e.untagged = e := by
  cases e with
  | subscript => cases h
  | _ => rfl

end Code.Expr

/-! ### The last import of a name -/

namespace SourceModule

/-- The module that the last import of a name binds it to. -/
def LastImport (m : SourceModule) (name : String) (origin : ModuleOrigin) : Prop :=
  ∃ before after, m.body.flatMap importedModules = before ++ (name, origin) :: after ∧
    name ∉ after.map (·.1)

theorem get?_moduleImports_iff {m : SourceModule} {name : String} {origin : ModuleOrigin} :
    m.moduleImports.get? name = some origin ↔ m.LastImport name origin := by
  have hlast {origin : ModuleOrigin} (h : m.LastImport name origin) :
      m.moduleImports.get? name = some origin := by
    obtain ⟨before, after, heq, hafter⟩ := h
    rw [moduleImports, heq]
    exact Dictionary.get?_foldl_insert_of_last origin hafter []
  refine ⟨fun h => ?_, hlast⟩
  have hmem : (name, origin) ∈ m.body.flatMap importedModules :=
    (Dictionary.get?_foldl_insert h).resolve_right (by simp)
  obtain ⟨before, value, after, heq, hafter⟩ :=
    Dictionary.exists_last (List.mem_map_of_mem (f := (·.1)) hmem)
  cases h.symm.trans (hlast ⟨before, after, heq, hafter⟩)
  exact ⟨before, after, heq, hafter⟩

/-- The import of a module without a name of its own stands at the top level. -/
def ImportsPlainly (m : SourceModule) (name : String) : Prop :=
  ∃ modules, .importModules modules ∈ m.body ∧ { name } ∈ modules

theorem ImportsPlainly.mem_importedModules {m : SourceModule} {name : String}
    (h : m.ImportsPlainly name) :
    (firstComponent name, ⟨name, none⟩) ∈ m.body.flatMap importedModules := by
  obtain ⟨modules, hstmt, hmem⟩ := h
  exact List.mem_flatMap.mpr ⟨_, hstmt, List.mem_map.mpr ⟨_, hmem, rfl⟩⟩

end SourceModule

/-! ### Imports of dotted types -/

namespace SourceType

/-- A type that is named by an imported module has one import. Where no name of another module has the
place, it is that of the module which the last import binds the first component to. This is the named
module itself if and only if it is imported last, as it is where nothing else is imported under that
component. -/
theorem imports_of_dotted (m : SourceModule) (project : Option SourceProject) {name field : String}
    {e : Expr} (hname : m.ImportsPlainly name)
    (he : e.dottedParts? = some (ModuleName.components name ++ [field])) :
    ∃ ref, (ofExpr (some e) m project).imports = pure [ref] ∧
      (m.nameImports.get? (firstComponent name) = none →
        ∃ origin, m.LastImport (firstComponent name) origin ∧
          ref = { module := origin.module, localName := origin.localName }) ∧
      (ref = { module := name } ↔ m.nameImports.get? (firstComponent name) = none ∧
        m.LastImport (firstComponent name) ⟨name, none⟩) ∧
      (m.nameImports.get? (firstComponent name) = none →
        (∀ origin, (firstComponent name, origin) ∈ m.body.flatMap SourceModule.importedModules →
          origin = ⟨name, none⟩) → ref = { module := name }) := by
  obtain ⟨inner, hinner⟩ := components_eq_cons name
  rw [hinner] at he
  have himports : (ofExpr (some e) m project).imports = importsFor m [] [.ok (firstComponent name)] := by
    rw [← Expr.referencedNames_of_dotted he, imports, ofExpr, Option.map_some,
      Expr.untagged_of_dotted he]
  obtain ⟨before, origin, after, heq, hafter⟩ := Dictionary.exists_last
    (List.mem_map_of_mem (f := (·.1)) hname.mem_importedModules)
  have hlast : m.LastImport (firstComponent name) origin := ⟨before, after, heq, hafter⟩
  have hmodule := SourceModule.get?_moduleImports_iff.mpr hlast
  have hself : m.LastImport (firstComponent name) ⟨name, none⟩ ↔ origin = ⟨name, none⟩ := by
    rw [← SourceModule.get?_moduleImports_iff, hmodule, Option.some.injEq]
  rw [himports, hself]
  -- the names that are imported from modules are looked up before the modules
  cases hfrom : m.nameImports.get? (firstComponent name) with
  | some taken =>
      refine ⟨_, by simp only [importsFor, importFor, hfrom]; rfl, ?_, ?_, ?_⟩
      · intro h
        cases h
      · simp
      · intro h
        cases h
  | none =>
      have href : ({ module := origin.module, localName := origin.localName } : ImportRef) =
          { module := name } ↔ origin = ⟨name, none⟩ := by
        cases origin
        simp
      refine ⟨_, by simp only [importsFor, importFor, hfrom, hmodule]; rfl, ?_, ?_, ?_⟩
      · exact fun _ => ⟨origin, hlast, rfl⟩
      · simpa using href
      · refine fun _ hall => href.mpr (hall origin ?_)
        rw [heq]
        simp

/-! ### Two modules of one package -/

/-- A module that imports two modules of a package. -/
def loanDesk : SourceModule where
  name := ⟨"loanDesk", false⟩
  path := "loanDesk.py"
  body := [.importModules [{ name := "library.books" }], .importModules [{ name := "library.loans" }]]

/-- A class of a module of the package. -/
def libraryClass (module name : String) : Expr := .member (.member (.name "library") module) name

theorem imports_of_dotted_loan :
    loanDesk.ImportsPlainly "library.loans" ∧
    (libraryClass "loans" "Loan").dottedParts? =
      some (ModuleName.components "library.loans" ++ ["Loan"]) ∧
    (ofExpr (some (libraryClass "loans" "Loan")) loanDesk none).imports =
      pure [{ module := "library.loans" }] := by
  have hname : loanDesk.ImportsPlainly "library.loans" := ⟨_, .tail _ (.head _), .head _⟩
  have hparts : (libraryClass "loans" "Loan").dottedParts? =
      some (ModuleName.components "library.loans" ++ ["Loan"]) := by decide
  refine ⟨hname, hparts, ?_⟩
  obtain ⟨ref, himports, -, hself, -⟩ := imports_of_dotted loanDesk none hname hparts
  have hlast : loanDesk.LastImport (firstComponent "library.loans") ⟨"library.loans", none⟩ :=
    ⟨[_], [], rfl, by simp⟩
  rw [himports, hself.mpr ⟨by decide, hlast⟩]

/-- Of two modules of a package, the type that is named by the first one gets the import of the other
one. -/
theorem not_imports_of_dotted : ¬ ∀ (m : SourceModule) (project : Option SourceProject)
    (name field : String) (e : Expr),
      (∀ stmt ∈ m.body, ∃ modules, stmt = .importModules modules ∧
        ∀ i ∈ modules, i.localName = none) →
      m.ImportsPlainly name → e.dottedParts? = some (ModuleName.components name ++ [field]) →
      ∃ refs, (ofExpr (some e) m project).imports.result = .ok refs ∧ { module := name } ∈ refs := by
  intro h
  have hplain : ∀ stmt ∈ loanDesk.body, ∃ modules, stmt = .importModules modules ∧
      ∀ i ∈ modules, i.localName = none := by
    simp [loanDesk]
  obtain ⟨refs, hrefs, hmem⟩ := h loanDesk none "library.books" "Book" (libraryClass "books" "Book")
    hplain ⟨_, .head _, .head _⟩ (by decide)
  have hloans : (ofExpr (some (libraryClass "books" "Book")) loanDesk none).imports.result =
      .ok [{ module := "library.loans" }] := by decide
  cases hloans.symm.trans hrefs
  revert hmem
  decide

end SourceType

end TypedClients
