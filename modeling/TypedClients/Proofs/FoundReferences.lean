import TypedClients.Proofs.ClientImports

/-!
# References that types find

The names in a type lead to what its module imports or defines, and a client module imports what they
lead to. Whatever the import is, the statement for it binds the name that the type uses. Nothing is lost
on the way but what comes from the module of built-in names: `bindings_of_finds`.
-/
namespace TypedClients

open TypedClients.Code

namespace SourceType

/-- The import that a type finds for a name in its text. Where no type is written it is that of any
type. -/
inductive Finds (t : SourceType) : String → ImportRef → Prop
  | any (ht : t.expr = none) : t.Finds "Any" anyImport
  | name {e : Expr} {name : String} {ref : ImportRef} (ht : t.expr = some e)
      (hname : .ok name ∈ e.referencedNames) (href : reference? t.module name = some ref) :
      t.Finds name ref

variable {t : SourceType} {name : String} {ref : ImportRef}

/-- An import that a type finds is one of its imports. -/
theorem Finds.mem_imports (h : t.Finds name ref) {refs : List ImportRef}
    (hrefs : t.imports.result = .ok refs) : ref ∈ refs := by
  unfold imports at hrefs
  cases h with
  | any ht =>
      rw [ht] at hrefs
      cases hrefs
      exact List.mem_cons_self
  | name ht hname href =>
      rw [ht] at hrefs
      exact (importsFor_eq_ok hrefs ref).mpr (.inr ⟨name, hname, href⟩)

/-- The import that a type finds for a name binds this name, in whatever style it is written, and gives
it the meaning that it has in the module of the type. -/
theorem Finds.bound (h : t.Finds name ref) (hne : name ≠ "") :
    ref.boundName = name ∧ t.Means name ref.meaning := by
  cases h with
  | any ht => exact ⟨rfl, .any ht⟩
  | name ht hname href =>
      obtain ⟨hmeaning, hbound⟩ := reference?_meaning t.module hne
      rw [href] at hmeaning hbound
      exact ⟨hbound ref rfl, .name ht hname hmeaning⟩

end SourceType

/-- The names that the import statements of a module bind. -/
def ClientModule.boundNames (m : ClientModule) : List String := m.bindings.map (·.1)

/-- A client module binds every name for which one of its types finds an import, and to what it stands
for where the type is written. The exception are imports from the module of built-in names, under their
own name or another one: such a name is bound only if another import that the module needs binds it. -/
theorem bindings_of_finds {s : ClientSettings} {file : RouteFile} {m : ClientModule}
    (h : (s.clientModule file).result = .ok m) {ty : TypeText} (hty : ty ∈ file.types) {t : SourceType}
    (ht : (DeclaredType.typeText t).result = .ok ty) {name : String} {ref : ImportRef}
    (hne : name ≠ "") (hfinds : t.Finds name ref) :
    ref ∈ ty.imports ∧ ref.boundName = name ∧ t.Means name ref.meaning ∧
      (ref.module ≠ Imports.builtinModule → (name, ref.meaning) ∈ m.bindings) ∧
      (name ∈ m.boundNames ↔ ref.module ≠ Imports.builtinModule ∨
        ∃ other ∈ s.needed file, other.boundName = name) := by
  have hmem := hfinds.mem_imports (imports_of_typeText ht)
  obtain ⟨hbound, hmeans⟩ := hfinds.bound hne
  have hkept (hmodule : ref.module ≠ Imports.builtinModule) : (name, ref.meaning) ∈ m.bindings := by
    refine (bindings_of_clientModule h).mpr ⟨ref, ?_, by rw [ImportRef.bound, hbound]⟩
    exact s.mem_needed hty hmem hmodule
  refine ⟨hmem, hbound, hmeans, hkept, ?_⟩
  rw [ClientModule.boundNames, List.mem_map]
  constructor
  · rintro ⟨⟨_, meaning⟩, hb, rfl⟩
    obtain ⟨other, hother, heq⟩ := (bindings_of_clientModule h).mp hb
    exact .inr ⟨other, hother, congrArg Prod.fst heq⟩
  · rintro (hmodule | ⟨other, hother, hname⟩)
    · exact ⟨_, hkept hmodule, rfl⟩
    · exact ⟨other.bound, (bindings_of_clientModule h).mpr ⟨other, hother, rfl⟩, hname⟩

/-! ### Imports in two styles -/

/-- A module that takes a class under a name of its own, and another module as well. -/
def rentalModule : SourceModule where
  name := ⟨"rentals_controller", false⟩
  path := "rentals_controller.py"
  body := [.importFrom (some "people") [{ name := "User", localName := some "Owner" }] 0,
    .importModules [{ name := "datetime", localName := some "times" }]]

def rentalType : SourceType where
  expr := some (.subscript (.name "Owner") (.member (.name "times") "date"))
  module := rentalModule
  project := none

def rentalText : TypeText :=
  ⟨"Owner[times.date]", [⟨"people", some "User", some "Owner"⟩, ⟨"datetime", none, some "times"⟩]⟩

/-- A route file with one route, which answers with a type. -/
def answeringFile (type : TypeText) : RouteFile :=
  { apiName := "api", baseFileName := "rentals"
    classes := [{ baseName := "Rentals"
                  routes := [{ name := "find", verb := .get
                               segments := [.literal "", .literal "rentals"]
                               response := some type }] }] }

theorem bindings_of_finds_rental : ∃ m,
    (({} : ClientSettings).clientModule (answeringFile rentalText)).result = .ok m ∧
    rentalText ∈ (answeringFile rentalText).types ∧
    (DeclaredType.typeText rentalType).result = .ok rentalText ∧
    rentalType.Finds "times" ⟨"datetime", none, some "times"⟩ ∧
    rentalType.Finds "Owner" ⟨"people", some "User", some "Owner"⟩ ∧
    ("times", .module "datetime") ∈ m.bindings ∧ ("Owner", .member "people" "User") ∈ m.bindings := by
  obtain ⟨m, h⟩ : ∃ m, (({} : ClientSettings).clientModule (answeringFile rentalText)).result = .ok m :=
    exists_eq_ok_of_isOk (by decide +kernel)
  have hty : rentalText ∈ (answeringFile rentalText).types := by decide
  have ht : (DeclaredType.typeText rentalType).result = .ok rentalText := by decide
  have htimes : rentalType.Finds "times" ⟨"datetime", none, some "times"⟩ :=
    .name rfl (by decide) (by decide)
  have howner : rentalType.Finds "Owner" ⟨"people", some "User", some "Owner"⟩ :=
    .name rfl (by decide) (by decide)
  obtain ⟨-, -, -, hbound, -⟩ := bindings_of_finds h hty ht (by decide) htimes
  obtain ⟨-, -, -, hbound', -⟩ := bindings_of_finds h hty ht (by decide) howner
  exact ⟨m, h, hty, ht, htimes, howner, hbound (by decide), hbound' (by decide)⟩

/-- A module that gives a built-in type another name. -/
def countModule : SourceModule where
  name := ⟨"counts_controller", false⟩
  path := "counts_controller.py"
  body := [.importFrom (some "builtins") [{ name := "int", localName := some "Number" }] 0]

/-- The import of a built-in type under another name is left out, and nothing else binds this name. -/
theorem not_bindings_of_finds : ¬ ∀ (s : ClientSettings) (file : RouteFile) (m : ClientModule)
    (ty : TypeText) (t : SourceType) (name : String) (ref : ImportRef),
    (s.clientModule file).result = .ok m → ty ∈ file.types →
    (DeclaredType.typeText t).result = .ok ty → t.Finds name ref →
    ref ≠ ⟨Imports.builtinModule, some name, none⟩ → name ∈ m.boundNames := by
  intro hbinds
  let number : TypeText := ⟨"Number", [⟨"builtins", some "int", some "Number"⟩]⟩
  obtain ⟨m, h⟩ : ∃ m, (({} : ClientSettings).clientModule (answeringFile number)).result = .ok m :=
    exists_eq_ok_of_isOk (by decide +kernel)
  have hname := hbinds _ _ m number ⟨some (.name "Number"), countModule, none⟩ "Number"
    ⟨"builtins", some "int", some "Number"⟩ h (by decide) (by decide)
    (.name rfl (by decide) (by decide)) (by decide)
  obtain ⟨⟨_, meaning⟩, hb, rfl⟩ := List.mem_map.mp hname
  obtain ⟨other, hother, hbound⟩ := (bindings_of_clientModule h).mp hb
  have hneeded : ∀ r ∈ ({} : ClientSettings).needed (answeringFile number), r.boundName ≠ "Number" := by
    decide
  exact hneeded other hother (congrArg Prod.fst hbound)

end TypedClients
