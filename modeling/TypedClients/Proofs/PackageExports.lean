import TypedClients.Proofs.ClientImports
import TypedClients.Proofs.ClientOutline
import TypedClients.Proofs.FailedRuns

/-!
# What a package offers

The package module imports the clients of all client modules and offers them by name. The clients of
one module have names of their own, and no two modules have one path, but the clients of different
modules are never compared: the package tells its clients apart exactly where no two controllers of
the project have the same client.
-/
namespace TypedClients

open TypedClients.Text TypedClients.Code

/-! ### Reading a package module -/

/-- The names that a statement says a module offers. -/
def offeredNames? : Stmt → Option (List String)
  | .assign [.name "__all__"] (.tuple names) => names.mapM Expr.text?
  | _ => none

/-- The names that a module offers. -/
def OutputModule.offered (m : OutputModule) : List String :=
  ((m.body.filterMap offeredNames?).getLast?).getD []

/-- What the import statements of a module bind, in order. -/
def OutputModule.bindings (m : OutputModule) : List (String × Meaning) :=
  m.body.flatMap importedMeanings

/-- The meaning of an imported name in a module. Of several bindings the last one counts. -/
def OutputModule.meaning? (m : OutputModule) (name : String) : Option Meaning :=
  Dictionary.get? m.bindings.reverse name

/-- A client of a module, as a package that holds the module knows it. -/
def ClientModule.member (m : ClientModule) (client : String) : Meaning :=
  .member ("." ++ m.moduleName) client

/-- Whether an import from inside a package leads to a module of the package: where the name of the
module is no name, or is not read back as it is written, it leads somewhere else. -/
structure ClientModule.IsSubmodule (m : ClientModule) : Prop where
  name : isIdentifier m.moduleName.toList = true
  normal : normalise m.moduleName.toList = m.moduleName.toList
  notPackage : m.moduleName ≠ "__init__"

/-- Whether a client of one of its modules is what a package knows by the name of the client: of the
imports of this name the last one takes it from the module. -/
structure OutputModule.Knows (package : OutputModule) (m : ClientModule) (client : String) :
    Prop where
  imported : package.meaning? client = some (m.member client)
  found : m.IsSubmodule

theorem offeredNames?_offers (names : List String) :
    offeredNames? (Client.offers names) = some names := by
  show (names.map Expr.string).mapM Expr.text? = some names
  have htext (name : String) : (Expr.string name).text? = some name := rfl
  induction names with
  | nil => rfl
  | cons name names ih => simp [List.mapM_cons, ih, htext]

theorem offered_packageModule (apiName : String) (ms : List ClientModule) :
    (packageModule apiName ms).offered = ms.flatMap (·.exports) := by
  simp [OutputModule.offered, packageModule, List.filterMap_append, offeredNames?_offers]

theorem bindings_packageModule (apiName : String) (ms : List ClientModule) :
    (packageModule apiName ms).bindings =
      ms.flatMap fun m => m.exports.map fun name => (name, m.member name) := by
  have hstatement (m : ClientModule) : importedMeanings
      (.importFrom (some m.moduleName) (m.exports.map fun n => { name := n }) 1) =
        m.exports.map fun name => (name, m.member name) := by
    simp [importedMeanings, ClientModule.member]
  simp only [OutputModule.bindings, packageModule, List.flatMap_append, List.flatMap_map,
    List.flatMap_cons, importedMeanings_offers, List.flatMap_nil, List.append_nil, hstatement]

/-! ### Telling clients apart -/

section

variable (apiName : String) {ms : List ClientModule}

/-- Clients with names of their own are known by them. -/
theorem meaning?_of_nodup (h : (ms.flatMap (·.exports)).Nodup) {m : ClientModule} (hm : m ∈ ms)
    {name : String} (hname : name ∈ m.exports) :
    (packageModule apiName ms).meaning? name = some (m.member name) := by
  have hkeys : Dictionary.keys (packageModule apiName ms).bindings.reverse =
      (ms.flatMap (·.exports)).reverse := by
    rw [Dictionary.keys, List.map_reverse, bindings_packageModule, List.map_flatMap]
    simp [Function.comp_def]
  refine Dictionary.get?_of_mem (by rwa [hkeys, List.nodup_reverse]) (List.mem_reverse.mpr ?_)
  rw [bindings_packageModule]
  exact List.mem_flatMap.mpr ⟨m, hm, List.mem_map_of_mem hname⟩

/-- In a package whose modules have names of their own, and the clients of each module as well, all
clients are known by their names exactly where no name comes twice. -/
theorem meaning?_iff_nodup (hmodules : (ms.map (·.moduleName)).Nodup)
    (hclients : ∀ m ∈ ms, m.exports.Nodup) :
    (∀ m ∈ ms, ∀ name ∈ m.exports,
      (packageModule apiName ms).meaning? name = some (m.member name)) ↔
      (ms.flatMap (·.exports)).Nodup := by
  constructor
  · intro hknown
    refine List.nodup_flatMap.mpr ⟨hclients, (List.pairwise_map.mp hmodules).imp_of_mem ?_⟩
    intro m m' hm hm' hne name hname hname'
    -- One name stands for a client of either module, and so the modules have one name.
    have hsame := (hknown m hm name hname).symm.trans (hknown m' hm' name hname')
    simp only [ClientModule.member, Option.some.injEq, Meaning.member.injEq, and_true] at hsame
    exact hne ((String.append_right_inj ".").mp hsame)
  · exact fun h m hm name hname => meaning?_of_nodup apiName h hm hname

end

/-! ### The modules of a project -/

/-- The clients of a unit, in the order of its controllers. -/
def SourceUnit.clientNames {τ : Type} (u : SourceUnit τ) : List String :=
  u.controllers.map (·.clientName)

theorem repeatedPath?_eq_none {seen : List String} {ms : List ClientModule}
    (h : repeatedPath? seen ms = none) :
    (ms.map (·.path)).Nodup ∧ ∀ m ∈ ms, m.path ∉ seen := by
  induction ms generalizing seen with
  | nil => simp
  | cons m ms ih =>
      rw [repeatedPath?] at h
      split at h
      · cases h
      · rename_i hseen
        obtain ⟨hnodup, hfresh⟩ := ih h
        refine ⟨List.nodup_cons.mpr ⟨?_, hnodup⟩, ?_⟩
        · intro hmem
          obtain ⟨m', hm', hpath⟩ := List.mem_map.mp hmem
          exact hfresh m' hm' (by simp [hpath])
        · intro m' hm'
          rcases List.mem_cons.mp hm' with rfl | hm'
          · exact hseen
          · exact fun hmem => hfresh m' hm' (List.mem_cons_of_mem _ hmem)

/-- What the client modules of a project have in common, and what tells them apart. -/
structure ProjectSettings.ClientModules (s : ProjectSettings) (p : SourceProject)
    (modules : List ClientModule) : Prop where
  apiName : ∀ m ∈ modules, m.apiName = s.apiName
  paths : (modules.map (·.path)).Nodup
  exports : modules.flatMap (·.exports) = p.units.flatMap (·.clientNames)
  clients : ∀ m ∈ modules, m.exports.Nodup

theorem apiName_of_routeFile {τ : Type} [DeclaredType τ] {s : RouteSettings} {u : SourceUnit τ}
    {file : RouteFile} (h : (s.routeFile u).result = .ok file) : file.apiName = s.apiName := by
  simp only [RouteSettings.routeFile, Traced.bind_result] at h
  obtain ⟨classes, -, h⟩ := bind_eq_ok_iff.mp h
  split at h <;> cases h
  rfl

namespace ProjectSettings

variable {s : ProjectSettings} {p : SourceProject} {modules : List ClientModule}

theorem paths_of_clientModules (h : (s.clientModules p).result = .ok modules) :
    (modules.map (·.path)).Nodup := by
  simp only [clientModules, Traced.bind_result] at h
  obtain ⟨files, -, h⟩ := bind_eq_ok_iff.mp h
  obtain ⟨made, -, h⟩ := bind_eq_ok_iff.mp h
  split at h
  · cases h
  · rename_i hrepeated
    cases h
    exact (repeatedPath?_eq_none hrepeated).1

/-- Units without a controller have no clients. -/
theorem flatMap_clientNames (units : List (SourceUnit SourceType)) :
    (units.filter fun u => !u.controllers.isEmpty).flatMap (·.clientNames) =
      units.flatMap (·.clientNames) := by
  induction units with
  | nil => rfl
  | cons u units ih =>
      cases hu : u.controllers with
      | nil =>
          have hnone : u.clientNames = [] := by simp [SourceUnit.clientNames, hu]
          simp [hu, ih, hnone]
      | cons c cs => simp [hu, ih]

theorem clientModules_spec (h : (s.clientModules p).result = .ok modules) :
    s.ClientModules p modules := by
  obtain ⟨files, hfiles, hmade⟩ := clientModules_eq_ok h
  have hunits := routeFiles_eq_ok hfiles
  have hfile (file : RouteFile) (hmem : file ∈ files) :
      file.apiName = s.apiName ∧ (file.classes.map (·.clientName)).Nodup := by
    obtain ⟨u, -, hu⟩ := exists_of_forall₂_of_mem hunits hmem
    exact ⟨apiName_of_routeFile hu, (matches_of_routeFile hu).nodup⟩
  have hmodule (m : ClientModule) (hmem : m ∈ modules) :
      ∃ file ∈ files, (s.clients.clientModule file).result = .ok m :=
    exists_of_forall₂_of_mem hmade hmem
  refine ⟨?_, paths_of_clientModules h, ?_, ?_⟩
  · intro m hm
    obtain ⟨file, hmem, hmade⟩ := hmodule m hm
    obtain ⟨_, -, rfl⟩ := Client.clientModule_shape hmade
    exact (hfile file hmem).1
  · have hclasses (u : SourceUnit SourceType) (file : RouteFile)
        (hu : (s.routing.routeFile u).result = .ok file) :
        u.clientNames = file.classes.map (·.clientName) :=
      map_eq_of_forall₂ (fun _ _ h => (RouteClass.Matches.clientName h).symm)
        (matches_of_routeFile hu).classes
    have hexports (file : RouteFile) (m : ClientModule)
        (hm : (s.clients.clientModule file).result = .ok m) :
        file.classes.map (·.clientName) = m.exports := (describes_of_clientModule hm).exports.symm
    rw [← flatMap_clientNames, flatMap_eq_of_forall₂ hclasses hunits,
      flatMap_eq_of_forall₂ hexports hmade]
  · intro m hm
    obtain ⟨file, hmem, hmade⟩ := hmodule m hm
    rw [(describes_of_clientModule hmade).exports]
    exact (hfile file hmem).2

/-- Modules of one folder that have paths of their own have names of their own. -/
theorem moduleNames_nodup (h : s.ClientModules p modules) :
    (modules.map (·.moduleName)).Nodup := by
  refine List.Nodup.of_map (fun name =>
    ((Path.ofString s.apiName).join (Path.ofString (name ++ ".py"))).toString) ?_
  rw [List.map_map]
  convert h.paths using 1
  refine List.map_congr_left fun m hm => ?_
  simp [ClientModule.path, h.apiName m hm]

/-- The order of client modules in their package. -/
def byName (modules : List ClientModule) : List ClientModule :=
  modules.mergeSort fun a b => decide (a.moduleName ≤ b.moduleName)

/-- All client modules of a project are in one package. -/
theorem packageModules_eq (h : s.ClientModules p modules) (hne : modules ≠ []) :
    packageModules modules = [packageModule s.apiName (byName modules)] := by
  have hnames : (modules.map (·.apiName)).eraseDups = [s.apiName] := by
    rw [List.map_congr_left h.apiName, List.map_const']
    cases modules with
    | nil => exact absurd rfl hne
    | cons m ms => simp [List.replicate_succ, List.eraseDups_cons]
  have hall : modules.filter (·.apiName == s.apiName) = modules :=
    List.filter_eq_self.mpr fun m hm => by simp [h.apiName m hm]
  rw [packageModules, packageGroups, hnames, List.mergeSort_singleton]
  simp only [List.map_cons, List.map_nil, hall, byName]

end ProjectSettings

/-! ### What is put out -/

/-- Modules leave alone what is under other paths. -/
theorem get?_putAll_of_ne {path : String} {state : Collected} {ms : List OutputModule}
    (h : ∀ m ∈ ms, m.path ≠ path) :
    (collecting.putAll state ms).2.get? path = state.get? path := by
  induction ms generalizing state with
  | nil => rfl
  | cons m ms ih =>
      obtain ⟨hm, hms⟩ := List.forall_mem_cons.mp h
      cases htext : m.text with
      | error e =>
          obtain ⟨hput, hstate⟩ := put_collecting_of_error state htext
          rw [(Sink.putAll_cons_error ms hput).2, hstate]
      | ok text =>
          obtain ⟨hput, hstate⟩ := put_collecting_of_ok state htext
          rw [(Sink.putAll_cons_ok ms hput).2, ih hms, hstate]
          exact Dictionary.get?_insert_of_ne state text hm.symm

/-- A run that succeeds puts every module under its path, where it stays unless a later module has
the same path. -/
theorem exists_text_of_putAll {state : Collected} {before after : List OutputModule}
    {m : OutputModule} {outs : List String}
    (h : (collecting.putAll state (before ++ m :: after)).1.result = .ok outs) :
    ∃ text, m.text = .ok text ∧ ((∀ m' ∈ after, m'.path ≠ m.path) →
      (collecting.putAll state (before ++ m :: after)).2.get? m.path = some text) := by
  induction before generalizing state outs with
  | nil =>
      obtain ⟨out, outs', hput, -, hstate⟩ := Sink.putAll_cons_eq_ok h
      cases htext : m.text with
      | error e =>
          rw [(put_collecting_of_error state htext).1] at hput
          cases hput
      | ok text =>
          refine ⟨text, rfl, fun hafter => ?_⟩
          rw [List.nil_append, hstate, get?_putAll_of_ne hafter,
            (put_collecting_of_ok state htext).2, Dictionary.get?_insert_self]
  | cons first before ih =>
      rw [List.cons_append] at h ⊢
      obtain ⟨out, outs', -, hlater, hstate⟩ := Sink.putAll_cons_eq_ok h
      rw [hstate]
      exact ih hlater

/-- A run over modules that pass their checks succeeds. -/
theorem exists_of_isOk {state : Collected} {ms : List OutputModule}
    (h : ∀ m ∈ ms, m.text.isOk = true) :
    ∃ outs, (collecting.putAll state ms).1.result = .ok outs := by
  induction ms generalizing state with
  | nil => exact ⟨[], rfl⟩
  | cons m ms ih =>
      obtain ⟨hm, hms⟩ := List.forall_mem_cons.mp h
      cases htext : m.text with
      | error e => rw [htext] at hm; cases hm
      | ok text =>
          obtain ⟨hput, hstate⟩ := put_collecting_of_ok state htext
          have hlater : ∃ outs,
              (collecting.putAll (state.insert m.path text) ms).1.result = .ok outs := ih hms
          obtain ⟨outs, houts⟩ := hlater
          refine ⟨text :: outs, ?_⟩
          rw [(Sink.putAll_cons_ok ms hput).1, hstate, houts]
          rfl

/-! ### Packages of projects -/

namespace ProjectSettings

variable {s : ProjectSettings}

/-- The path of the package module for the clients of a project. -/
def packagePath (s : ProjectSettings) : String :=
  ((Path.ofString s.apiName).join (Path.ofString "__init__.py")).toString

theorem packageModule_path (s : ProjectSettings) (ms : List ClientModule) :
    (packageModule s.apiName ms).path = s.packagePath := by
  rw [packageModule, packagePath]

/-- A run over a project that has clients and a package. -/
theorem generate_eq {σ : Type} (sink : Sink σ) (state : σ) {project : Traced SourceProject}
    {p : SourceProject} {modules : List ClientModule} (hproject : project.result = .ok p)
    (hmodules : (s.clientModules p).result = .ok modules) (hne : modules ≠ []) :
    (s.generate sink state project).1.result =
        (sink.putAll state (s.outputModules modules)).1.result ∧
      (s.generate sink state project).2 = (sink.putAll state (s.outputModules modules)).2 := by
  have hmade : (project >>= s.clientModules).result = .ok modules := by
    rw [Traced.bind_result, hproject]
    exact hmodules
  cases modules with
  | nil => exact absurd rfl hne
  | cons m ms => simp only [generate, hmade, and_self]

/-- A run that makes a package puts its module out last, and every client module under a path of its
own. The package offers the clients of all controllers of the project. It offers no name twice
exactly where no two controllers of the project have the same client, and it knows every client by
its name exactly where, besides, the client modules have names that can be imported from. -/
theorem package_knows_clients_iff (s : ProjectSettings) (project : Traced SourceProject)
    (state : Collected) {p : SourceProject} {modules : List ClientModule} {outs : List String}
    (hpackages : s.withPackages = true) (hproject : project.result = .ok p)
    (hmodules : (s.clientModules p).result = .ok modules) (hne : modules ≠ [])
    (hrun : (s.generate collecting state project).1.result = .ok outs) :
    ∃ package : OutputModule, package.path = s.packagePath ∧
      (∃ text, package.text = .ok text ∧
        (s.generate collecting state project).2.get? s.packagePath = some text) ∧
      (∀ m ∈ modules, ∃ text, m.output.text = .ok text ∧ (m.path ≠ s.packagePath →
        (s.generate collecting state project).2.get? m.path = some text)) ∧
      package.offered.Perm (p.units.flatMap (·.clientNames)) ∧
      (package.offered.Nodup ↔ (p.units.flatMap (·.clientNames)).Nodup) ∧
      ((∀ m ∈ modules, ∀ client ∈ m.exports, package.Knows m client) ↔
        (p.units.flatMap (·.clientNames)).Nodup ∧
          ∀ m ∈ modules, m.exports ≠ [] → m.IsSubmodule) := by
  have hspec := clientModules_spec hmodules
  obtain ⟨hresult, hstate⟩ := generate_eq collecting state hproject hmodules hne
  have houtputs : s.outputModules modules = modules.map ClientModule.output ++
      [packageModule s.apiName (byName modules)] := by
    rw [outputModules, if_pos hpackages, packageModules_eq hspec hne]
  rw [hresult, houtputs] at hrun
  rw [hstate, houtputs]
  have hperm : (byName modules).Perm modules := List.mergeSort_perm _ _
  have hexports : ((byName modules).flatMap (·.exports)).Perm
      (p.units.flatMap (·.clientNames)) := by
    rw [← hspec.exports]
    exact hperm.flatMap_right _
  have hoffered : (packageModule s.apiName (byName modules)).offered.Perm
      (p.units.flatMap (·.clientNames)) := by
    rwa [offered_packageModule]
  refine ⟨packageModule s.apiName (byName modules), s.packageModule_path _, ?_, ?_, hoffered,
    hoffered.nodup_iff, ?_⟩
  · obtain ⟨text, htext, hkept⟩ := exists_text_of_putAll hrun
    rw [packageModule_path] at hkept
    exact ⟨text, htext, hkept (by simp)⟩
  · intro m hm
    obtain ⟨before, after, rfl⟩ := List.mem_iff_append.mp hm
    have hpaths := hspec.paths
    rw [List.map_append, List.map_cons, List.nodup_append] at hpaths
    have hlater : m.path ∉ after.map (·.path) := (List.nodup_cons.mp hpaths.2.1).1
    rw [List.map_append, List.map_cons, List.append_assoc, List.cons_append] at hrun ⊢
    obtain ⟨text, htext, hkept⟩ := exists_text_of_putAll hrun
    rw [ClientModule.output_path] at hkept
    refine ⟨text, htext, fun hpackage => hkept fun m' hm' hsame => ?_⟩
    rcases List.mem_append.mp hm' with hm' | hm'
    · obtain ⟨later, hmem, rfl⟩ := List.mem_map.mp hm'
      rw [ClientModule.output_path] at hsame
      exact hlater (List.mem_map.mpr ⟨later, hmem, hsame⟩)
    · rw [List.mem_singleton.mp hm', packageModule_path] at hsame
      exact hpackage hsame.symm
  · have hknown := meaning?_iff_nodup s.apiName
      ((hperm.map _).nodup_iff.mpr (moduleNames_nodup hspec))
      (fun m hm => hspec.clients m (hperm.mem_iff.mp hm))
    simp only [hperm.mem_iff, hexports.nodup_iff] at hknown
    rw [← hknown]
    constructor
    · intro h
      refine ⟨fun m hm client hclient => (h m hm client hclient).imported, fun m hm hne => ?_⟩
      obtain ⟨client, hclient⟩ := List.exists_mem_of_ne_nil _ hne
      exact (h m hm client hclient).found
    · intro h m hm client hclient
      exact ⟨h.1 m hm client hclient, h.2 m hm (List.ne_nil_of_mem hclient)⟩

/-- Two files with a controller of the same name each. -/
def sharedProject : SourceProject :=
  let body : List Stmt := [.classDef [.name "Controller"] "Users" [] [] [.pass]]
  ⟨[⟨⟨"a_controller", false⟩, "a_controller.py", body⟩,
    ⟨⟨"b_controller", false⟩, "b_controller.py", body⟩]⟩

def sharedSettings : ProjectSettings :=
  { source := "app", output := "clients", runtimeModule := ".runtime" }

/-- The statements of either client module of the project. -/
def sharedBody : List Stmt :=
  sharedSettings.clients.runtimeImports.statements ++
    [Client.offers ["UsersClient"], Client.classOf "UsersClient" []]

def sharedModules : List ClientModule :=
  ["a_client", "b_client"].map fun moduleName =>
    { apiName := "api", moduleName, body := sharedBody, exports := ["UsersClient"] }

theorem clientModules_shared :
    (sharedSettings.clientModules sharedProject).result = .ok sharedModules := by rfl

theorem clientNames_shared :
    sharedProject.units.flatMap (·.clientNames) = ["UsersClient", "UsersClient"] := by decide

theorem compile_shared : (Code.compile (renderStatements
    (documentation (some clientDocstring) ++ sharedBody))).isOk = true := by
  have hstatements : sharedSettings.clients.runtimeImports.statements =
      shelfSettings.clients.runtimeImports.statements := rfl
  rw [sharedBody, hstatements, statements_shelf]
  decide +kernel

/-- A module passes its check where its program does. -/
theorem isOk_text {m : OutputModule} {p : Path}
    (hp : (Path.ofString m.path).withoutExtension? = some p)
    (hnull : p.toString.toList.contains (Char.ofNat 0) = false)
    (h : (Code.compile (renderStatements (documentation m.docstring ++ m.body))).isOk = true) :
    m.text.isOk = true := by
  cases hcompile : Code.compile (renderStatements (documentation m.docstring ++ m.body)) with
  | error e => rw [hcompile] at h; cases h
  | ok _ =>
      simp only [OutputModule.text, hp, renderModule, hnull, hcompile]
      rfl

theorem outputModules_shared : sharedSettings.outputModules sharedModules =
    sharedModules.map ClientModule.output ++ [packageModule "api" sharedModules] := by
  have hsorted : byName sharedModules = sharedModules := List.mergeSort_of_pairwise (by decide)
  rw [outputModules, packageModules_eq (clientModules_spec clientModules_shared)
    (List.cons_ne_nil _ _), hsorted]
  rfl

theorem generate_shared : ∃ outs,
    (sharedSettings.generate collecting [] (pure sharedProject)).1.result = .ok outs := by
  have hproject : (pure sharedProject : Traced SourceProject).result = .ok sharedProject := rfl
  obtain ⟨hresult, -⟩ :=
    generate_eq collecting [] hproject clientModules_shared (List.cons_ne_nil _ _)
  rw [hresult, outputModules_shared]
  refine exists_of_isOk ?_
  have hpackage : (packageModule "api" sharedModules).text.isOk = true := by decide +kernel
  simpa [sharedModules] using ⟨isOk_text rfl (by decide) compile_shared,
    isOk_text rfl (by decide) compile_shared, hpackage⟩

theorem package_knows_clients_iff_shared : ∃ (outs : List String) (package : OutputModule),
    (sharedSettings.generate collecting [] (pure sharedProject)).1.result = .ok outs ∧
      package.offered.Perm ["UsersClient", "UsersClient"] ∧
      ((∀ m ∈ sharedModules, ∀ client ∈ m.exports, package.Knows m client) ↔
        ["UsersClient", "UsersClient"].Nodup ∧
          ∀ m ∈ sharedModules, m.exports ≠ [] → m.IsSubmodule) := by
  obtain ⟨outs, hrun⟩ := generate_shared
  obtain ⟨package, -, -, -, hoffered, -, hknown⟩ :=
    package_knows_clients_iff sharedSettings (pure sharedProject) [] rfl rfl clientModules_shared
      (List.cons_ne_nil _ _) hrun
  rw [clientNames_shared] at hoffered hknown
  exact ⟨outs, package, hrun, hoffered, hknown⟩

/-- A run makes a package that offers one name twice, and that knows the client of the second module
by the name of the client of the first one. -/
theorem exists_package_with_repeated_client : ∃ (outs : List String) (package : OutputModule),
    (sharedSettings.generate collecting [] (pure sharedProject)).1.result = .ok outs ∧
      (sharedSettings.clientModules sharedProject).result = .ok sharedModules ∧
      sharedSettings.outputModules sharedModules =
        sharedModules.map ClientModule.output ++ [package] ∧
      package.offered = ["UsersClient", "UsersClient"] ∧
      package.meaning? "UsersClient" = some (.member ".b_client" "UsersClient") := by
  obtain ⟨outs, hrun⟩ := generate_shared
  exact ⟨outs, packageModule "api" sharedModules, hrun, clientModules_shared, outputModules_shared,
    rfl, by decide⟩

end ProjectSettings

end TypedClients
