import TypedClients.Proofs.MethodShape
import TypedClients.Proofs.RouteOrigins
import TypedClients.Proofs.TypeImports
import TypedClients.ProjectSettings

/-!
# The imports of client modules

A client module imports what its types need and what it takes from the runtime, and nothing else.
Nobody compares the names that are bound this way. They keep their meanings exactly where no two of
the needed imports give one name two meanings.
-/
namespace TypedClients

open TypedClients.Code

/-- What the import statements of a module bind, in order. -/
def ClientModule.bindings (m : ClientModule) : List (String × Meaning) :=
  m.body.flatMap importedMeanings

/-- The meaning of an imported name in a module. Of several bindings the last one counts. -/
def ClientModule.meaning? (m : ClientModule) (name : String) : Option Meaning :=
  Dictionary.get? m.bindings.reverse name

/-- The types of all routes of a file. -/
def RouteFile.types (file : RouteFile) : List TypeText :=
  (file.classes.flatMap (·.routes)).flatMap Client.routeTypes

/-- What a module needs: the names of the runtime and what its types refer to, apart from the
built-in names. -/
def ClientSettings.needed (s : ClientSettings) (file : RouteFile) : List ImportRef :=
  s.runtimeImports.refs ++
    (file.types.flatMap (·.imports)).filter (·.module != Imports.builtinModule)

/-! ### Bindings of generated modules -/

theorem importedMeanings_offers (names : List String) :
    importedMeanings (Client.offers names) = [] := rfl

theorem ofClass_eq_ok {c : RouteClass} {f : Client.Fragment} (h : Client.ofClass c = .ok f) :
    importedMeanings f.definition = [] ∧
      f.imports = (c.routes.flatMap Client.routeTypes).flatMap (·.imports) := by
  obtain ⟨methods, hmethods, h⟩ := bind_eq_ok_iff.mp h
  cases h
  refine ⟨rfl, ?_⟩
  rw [List.flatMap_assoc]
  refine (flatMap_eq_of_forall₂ (fun r f hmethod => ?_) (mapM_eq_ok_iff.mp hmethods)).symm
  obtain ⟨_, _, _, -, -, -, -, himports⟩ := Client.method_shape hmethod
  exact himports.symm

theorem bindings_of_clientModule {s : ClientSettings} {file : RouteFile} {m : ClientModule}
    (h : (s.clientModule file).result = .ok m) {b : String × Meaning} :
    b ∈ m.bindings ↔ ∃ r ∈ s.needed file, r.bound = b := by
  obtain ⟨classes, hclasses, rfl⟩ := Client.clientModule_shape h
  have hclasses := hclasses.imp fun _ _ => ofClass_eq_ok
  have hdefinitions : (classes.map (·.definition)).flatMap importedMeanings = [] := by
    have hnone := flatMap_eq_of_forall₂ (f := fun _ => []) (fun _ _ h => h.1.symm) hclasses
    rw [List.flatMap_map, ← hnone]
    simp
  have himports : file.types.flatMap (·.imports) = classes.flatMap (·.imports) := by
    rw [RouteFile.types, List.flatMap_assoc, List.flatMap_assoc]
    refine flatMap_eq_of_forall₂ (fun c f hclass => ?_) hclasses
    rw [hclass.2, List.flatMap_assoc]
  simp only [ClientModule.bindings, List.flatMap_append, List.flatMap_cons,
    importedMeanings_offers, hdefinitions, List.append_nil, himports,
    Imports.mem_importedMeanings_statements, Imports.mem_requireAll_iff, ClientSettings.needed,
    List.mem_append, List.mem_filter, bne_iff_ne]

/-! ### Meanings -/

theorem mem_of_meaning? {m : ClientModule} {name : String} {meaning : Meaning}
    (h : m.meaning? name = some meaning) : (name, meaning) ∈ m.bindings :=
  List.mem_reverse.mp (Dictionary.mem_of_get? h)

theorem isSome_meaning? {m : ClientModule} {b : String × Meaning} (h : b ∈ m.bindings) :
    (m.meaning? b.1).isSome := by
  rw [ClientModule.meaning?, ← Dictionary.mem_keys_iff]
  exact List.mem_map.mpr ⟨b, List.mem_reverse.mpr h, rfl⟩

/-- Names have one meaning each exactly where every binding keeps its own. -/
theorem unambiguous_iff_meaning? {m : ClientModule} :
    Unambiguous m.bindings ↔ ∀ b ∈ m.bindings, m.meaning? b.1 = some b.2 := by
  constructor
  · rintro h ⟨name, meaning⟩ hb
    obtain ⟨other, hother⟩ := Option.isSome_iff_exists.mp (isSome_meaning? hb)
    rw [hother, h name meaning other hb (mem_of_meaning? hother)]
  · intro h name meaning other hmeaning hother
    have hkept : some meaning = some other := (h _ hmeaning).symm.trans (h _ hother)
    exact Option.some.inj hkept

theorem unambiguous_iff_needed {s : ClientSettings} {file : RouteFile} {m : ClientModule}
    (h : (s.clientModule file).result = .ok m) :
    Unambiguous m.bindings ↔ ∀ r ∈ s.needed file, ∀ r' ∈ s.needed file,
      r.boundName = r'.boundName → r.meaning = r'.meaning := by
  constructor
  · intro hclear r hr r' hr' hname
    refine hclear r.boundName r.meaning r'.meaning ?_ ?_
    · exact (bindings_of_clientModule h).mpr ⟨r, hr, rfl⟩
    · exact (bindings_of_clientModule h).mpr ⟨r', hr', by rw [ImportRef.bound, hname]⟩
  · intro hagree name meaning other hmeaning hother
    obtain ⟨r, hr, hbound⟩ := (bindings_of_clientModule h).mp hmeaning
    obtain ⟨r', hr', hbound'⟩ := (bindings_of_clientModule h).mp hother
    cases hbound
    injection hbound' with hname hsame
    exact (hagree r hr r' hr' hname.symm).trans hsame

theorem unambiguous_iff_kept {s : ClientSettings} {file : RouteFile} {m : ClientModule}
    (h : (s.clientModule file).result = .ok m) :
    Unambiguous m.bindings ↔
      ∀ r ∈ s.needed file, m.meaning? r.boundName = some r.meaning := by
  rw [unambiguous_iff_meaning?]
  constructor
  · intro hkept r hr
    exact hkept r.bound ((bindings_of_clientModule h).mpr ⟨r, hr, rfl⟩)
  · intro hkept b hb
    obtain ⟨r, hr, rfl⟩ := (bindings_of_clientModule h).mp hb
    exact hkept r hr

/-- A module gives the names in the text of a type the meanings that they have where the type is
written, apart from the built-in ones. -/
def ClientModule.Keeps (m : ClientModule) (t : SourceType) : Prop :=
  ∀ name meaning, name ≠ "" → meaning.source ≠ Imports.builtinModule → t.Means name meaning →
    m.meaning? name = some meaning

theorem imports_of_typeText {t : SourceType} {ty : TypeText}
    (h : (DeclaredType.typeText t).result = .ok ty) : t.imports.result = .ok ty.imports := by
  simp only [DeclaredType.typeText, Traced.bind_result] at h
  obtain ⟨text, -, h⟩ := bind_eq_ok_iff.mp h
  obtain ⟨refs, hrefs, h⟩ := bind_eq_ok_iff.mp h
  cases h
  exact hrefs

/-- A client module needs the imports of its types, but for those of the built-in module. -/
theorem ClientSettings.mem_needed (s : ClientSettings) {file : RouteFile} {ty : TypeText}
    (hty : ty ∈ file.types) {r : ImportRef} (hr : r ∈ ty.imports)
    (hmodule : r.module ≠ Imports.builtinModule) : r ∈ s.needed file := by
  refine List.mem_append_right _ (List.mem_filter.mpr ⟨?_, bne_iff_ne.mpr hmodule⟩)
  exact List.mem_flatMap.mpr ⟨ty, hty, hr⟩

theorem keeps_of_unambiguous {s : ClientSettings} {file : RouteFile} {m : ClientModule}
    (h : (s.clientModule file).result = .ok m) (hclear : Unambiguous m.bindings) {ty : TypeText}
    (hty : ty ∈ file.types) {t : SourceType} (ht : (DeclaredType.typeText t).result = .ok ty) :
    m.Keeps t := by
  intro name meaning hname hbuiltin hmeans
  obtain ⟨r, hr, hbound⟩ :=
    SourceType.exists_bound_of_means (imports_of_typeText ht) hname hmeans
  cases hbound
  have hneeded : r ∈ s.needed file := s.mem_needed hty hr fun hmodule =>
    hbuiltin (ImportRef.meaning_source_of_builtin hmodule)
  exact (unambiguous_iff_kept h).mp hclear r hneeded

/-! ### Modules of a project -/

theorem clientModules_eq_ok {s : ProjectSettings} {p : SourceProject}
    {modules : List ClientModule} (h : (s.clientModules p).result = .ok modules) :
    ∃ files, (s.routeFiles p).result = .ok files ∧
      List.Forall₂ (fun file m => (s.clients.clientModule file).result = .ok m) files modules := by
  simp only [ProjectSettings.clientModules, Traced.bind_result, Traced.mapM_result] at h
  obtain ⟨files, hfiles, h⟩ := bind_eq_ok_iff.mp h
  obtain ⟨made, hmade, h⟩ := bind_eq_ok_iff.mp h
  have hmodules : made = modules := by
    split at h <;> cases h
    rfl
  exact ⟨files, hfiles, hmodules ▸ mapM_eq_ok_iff.mp hmade⟩

/-- Client modules of a project have unambiguous imports exactly where what they need does not
disagree about a name, which is where every import keeps its meaning. The names of the runtime and
those in types then mean what they mean where they come from. -/
theorem clientModules_unambiguous_iff (s : ProjectSettings) (p : SourceProject)
    {modules : List ClientModule} (h : (s.clientModules p).result = .ok modules) :
    ∃ files, (s.routeFiles p).result = .ok files ∧ List.Forall₂ (fun file m =>
      (Unambiguous m.bindings ↔ ∀ r ∈ s.clients.needed file, ∀ r' ∈ s.clients.needed file,
        r.boundName = r'.boundName → r.meaning = r'.meaning) ∧
      (Unambiguous m.bindings ↔
        ∀ r ∈ s.clients.needed file, m.meaning? r.boundName = some r.meaning) ∧
      (Unambiguous m.bindings →
        (∀ name ∈ [Client.requestFunction, Client.optionsType],
          m.meaning? name = some (.member s.runtimeModule name)) ∧
        ∀ ty ∈ file.types, ∃ u ∈ p.units, ∃ c ∈ u.controllers, ∃ method ∈ c.methods,
          ∃ t : SourceType, method.Mentions t ∧ (DeclaredType.typeText t).result = .ok ty ∧
            m.Keeps t)) files modules := by
  obtain ⟨files, hfiles, hmade⟩ := clientModules_eq_ok h
  refine ⟨files, hfiles, ?_⟩
  have hunits : ∀ file ∈ files, ∃ u ∈ p.units, (s.routing.routeFile u).result = .ok file := by
    intro file hfile
    obtain ⟨u, hu, hfile⟩ := exists_of_forall₂_of_mem (routeFiles_eq_ok hfiles) hfile
    exact ⟨u, (List.mem_filter.mp hu).1, hfile⟩
  refine ((List.forall₂_and_left _ _).mpr ⟨hunits, hmade⟩).imp ?_
  rintro file m ⟨⟨u, hu, hfile⟩, hm⟩
  refine ⟨unambiguous_iff_needed hm, unambiguous_iff_kept hm, fun hclear => ⟨?_, ?_⟩⟩
  · have hruntime : ∀ name ∈ [Client.requestFunction, Client.optionsType],
        ⟨s.runtimeModule, some name, none⟩ ∈ s.clients.needed file := by
      intro name hname
      refine List.mem_append_left _ ?_
      rw [ClientSettings.runtimeImports, Imports.mem_insert_iff, Imports.mem_insert_iff]
      simpa [ProjectSettings.clients] using hname
    intro name hname
    exact (unambiguous_iff_kept hm).mp hclear _ (hruntime name hname)
  · intro ty hty
    obtain ⟨r, hr, hr'⟩ := List.mem_flatMap.mp hty
    obtain ⟨c, hc, method, hmethod, basePath, tag, verb, className, hroute⟩ :=
      gives_of_routeFile hfile r hr
    obtain ⟨t, ht, htext⟩ := mentionsText_of_route hroute ty hr'
    have hkeeps := keeps_of_unambiguous hm hclear hty htext
    exact ⟨u, hu, c, hc, method, hmethod, t, ht, htext, hkeeps⟩

/-- A project whose controller takes two names from one module that other modules have as well: one
is that of the type of options, the other one that of the type of a field elsewhere. -/
def peopleProject : SourceProject :=
  ⟨[{ name := ⟨"people.params", false⟩
      path := "people/params.py"
      body := [.importFrom (some "people.ids") [{ name := "Id" }] 0,
        .classDef [] "PersonParams" [] [] [.declare (.name "id") (.name "Id") none true]] },
    { name := ⟨"people_controller", false⟩
      path := "people_controller.py"
      body := [.importFrom (some "accounts") [{ name := "Id" }, { name := "RequestOptions" }] 0,
        .importFrom (some "people.params") [{ name := "PersonParams" }] 0,
        .classDef [.call (.name "Controller") [Expr.string "/people"] []] "PeopleController" [] []
          [.functionDef false [.call (.name "Get") [Expr.string "/:id"] []] "find"
            { ordinary := [{ name := "self" },
                { name := "person"
                  hint := some (.subscript (.name "Annotated")
                    (.tuple [.name "PersonParams", .name "Params"])) }] }
            (some (.name "RequestOptions")) [.pass],
          .functionDef false [.name "Get"] "first" { ordinary := [{ name := "self" }] }
            (some (.name "Id")) [.pass]]] }]⟩

def peopleSettings : ProjectSettings := { source := "app", output := "clients" }

/-- What the one module of the project needs binds two names twice, with two meanings each. -/
theorem needed_peopleProject :
    (peopleSettings.routeFiles peopleProject).result.map
        (·.map fun file => (peopleSettings.clients.needed file).map ImportRef.bound) =
      .ok [[("request", .member "api_runtime" "request"),
        ("RequestOptions", .member "api_runtime" "RequestOptions"),
        ("Id", .member "people.ids" "Id"), ("RequestOptions", .member "accounts" "RequestOptions"),
        ("Id", .member "accounts" "Id")]] := by
  decide +kernel

theorem exists_peopleModules :
    ∃ modules, (peopleSettings.clientModules peopleProject).result = .ok modules :=
  exists_eq_ok_of_isOk (by decide +kernel)

/-- Imports that clash do not keep a project from having its client modules. -/
theorem not_unambiguous_of_clientModules :
    ¬ ∀ (s : ProjectSettings) (p : SourceProject) (modules : List ClientModule),
      (s.clientModules p).result = .ok modules → ∀ m ∈ modules, Unambiguous m.bindings := by
  intro hclear
  obtain ⟨modules, h⟩ := exists_peopleModules
  have hclear := hclear _ _ _ h
  obtain ⟨files, hfiles, hmade⟩ := clientModules_eq_ok h
  have hneeded := needed_peopleProject
  rw [hfiles] at hneeded
  have hneeded := Except.ok.inj hneeded
  cases hmade with
  | nil => cases hneeded
  | @cons file m files modules hm hmade =>
      have hneeded := (List.cons.inj hneeded).1
      beta_reduce at hneeded
      have hmem : ∀ b ∈ (peopleSettings.clients.needed file).map ImportRef.bound,
          b ∈ m.bindings := by
        intro b hb
        obtain ⟨r, hr, hbound⟩ := List.mem_map.mp hb
        exact (bindings_of_clientModule hm).mpr ⟨r, hr, hbound⟩
      rw [hneeded] at hmem
      have hsame := hclear m List.mem_cons_self "Id" (.member "people.ids" "Id")
        (.member "accounts" "Id") (hmem _ (by simp)) (hmem _ (by simp))
      exact absurd hsame (by decide)

theorem clientModules_unambiguous_iff_people :
    ∃ modules files, (peopleSettings.clientModules peopleProject).result = .ok modules ∧
      (peopleSettings.routeFiles peopleProject).result = .ok files ∧
      List.Forall₂ (fun file m => (Unambiguous m.bindings ↔
        ∀ r ∈ peopleSettings.clients.needed file,
          m.meaning? r.boundName = some r.meaning)) files modules := by
  obtain ⟨modules, h⟩ := exists_peopleModules
  obtain ⟨files, hfiles, hmatch⟩ := clientModules_unambiguous_iff peopleSettings peopleProject h
  exact ⟨modules, files, h, hfiles, hmatch.imp fun _ _ hm => hm.2.1⟩

end TypedClients
