import TypedClients.Proofs.MovedProjects

/-!
# Routes below a package

The routes of a project do not depend on the package that it is put into, apart from the imports in
the texts of types: those that come from a relative import or from a definition of the module lead
below the package, all others stay as they are.
-/
namespace TypedClients

open TypedClients.Text TypedClients.Code

/-! ### Imports of types -/

namespace SourceModule

/-- Whether the meaning of a name depends on where the module is: the name comes from a relative
import, or the module defines it. -/
def isOwnName (m : SourceModule) (name : String) : Bool :=
  match m.writtenImports.get? name with
  | some o => o.level != 0
  | none => (m.moduleImports.get? name).isNone

/-- What an import in the types of a module becomes below a package. One of a whole module stays. -/
def movedImport (package : String) (m : SourceModule) (r : ImportRef) : ImportRef :=
  match r.name with
  | none => r
  | some name =>
      if m.isOwnName (r.localName.getD name) then
        { r with module := belowPackage package r.module }
      else r

theorem movedImport_name (package : String) (m : SourceModule) (r : ImportRef) :
    (m.movedImport package r).name = r.name := by
  unfold movedImport
  split
  · rfl
  · split <;> rfl

theorem movedImport_localName (package : String) (m : SourceModule) (r : ImportRef) :
    (m.movedImport package r).localName = r.localName := by
  unfold movedImport
  split
  · rfl
  · split <;> rfl

theorem movedImport_injective (package : String) (m : SourceModule) :
    Function.Injective (m.movedImport package) := by
  intro r r' heq
  have hname : r.name = r'.name := by
    rw [← movedImport_name package m r, heq, movedImport_name]
  have hlocal : r.localName = r'.localName := by
    rw [← movedImport_localName package m r, heq, movedImport_localName]
  obtain ⟨module, name, localName⟩ := r
  obtain ⟨module', name', localName'⟩ := r'
  simp only at hname hlocal
  subst hname hlocal
  cases name with
  | none => exact heq
  | some name =>
      simp only [movedImport] at heq
      split at heq
      · rw [belowPackage_injective package (congrArg ImportRef.module heq)]
      · exact heq

end SourceModule

namespace SourceType

open SourceProject SourceModule

variable {package : String} {p : SourceProject} {m : SourceModule}

theorem reference?_inPackage (h : p.Moves package) (hm : m ∈ p.modules) (name : String) :
    reference? (m.inPackage package) name =
      (reference? m name).map (m.movedImport package) := by
  have himports : (m.inPackage package).writtenImports = m.writtenImports := rfl
  have hmodules : (m.inPackage package).moduleImports = m.moduleImports := rfl
  have hdefinitions : (m.inPackage package).definitions = m.definitions := rfl
  unfold reference?
  rw [get?_nameImports, get?_nameImports, himports, hmodules, hdefinitions]
  cases ho : m.writtenImports.get? name with
  | some o =>
      have hown : m.isOwnName name = (o.level != 0) := by
        rw [isOwnName, ho]
      have hbound : (if name = o.name then none else some name).getD o.name = name := by
        by_cases hname : name = o.name
        · rw [if_pos hname, hname]
          rfl
        · rw [if_neg hname]
          rfl
      simp only [Option.map_some, movedImport, originOf, hbound, hown]
      have hresolve := h.resolve_eq hm ho
      simp only [originOf] at hresolve
      rw [hresolve]
      by_cases hlevel : o.level = 0 <;> simp [hlevel]
  | none =>
      cases horigin : m.moduleImports.get? name with
      | some origin => rfl
      | none =>
          have hown : m.isOwnName name = true := by
            rw [isOwnName, ho, horigin]
            rfl
          simp only [Option.map_none]
          by_cases hdefined : name ∈ m.definitions
          · rw [if_pos hdefined, if_pos hdefined]
            simp only [Option.map_some, movedImport, Option.getD_none, hown, if_true]
            rfl
          · rw [if_neg hdefined, if_neg hdefined]
            rfl

/-- The text of a type in a module of a project, and what it is below a package. Where no type is
written, nothing moves. -/
inductive TextInPackage (package : String) (p : SourceProject) : TypeText → TypeText → Prop
  | unwritten {m : SourceModule} {text : TypeText} (hm : m ∈ p.modules)
      (h : (DeclaredType.typeText (⟨none, m, some p⟩ : SourceType)).result = .ok text) :
      TextInPackage package p text text
  | written {m : SourceModule} {e : Expr} {text : TypeText} (hm : m ∈ p.modules)
      (h : (DeclaredType.typeText (⟨some e, m, some p⟩ : SourceType)).result = .ok text) :
      TextInPackage package p text { text with imports := text.imports.map (m.movedImport package) }

theorem typeText_written (e : Expr) (m : SourceModule) (project : Option SourceProject) :
    (DeclaredType.typeText (⟨some e, m, project⟩ : SourceType)).result =
      e.write >>= fun text => (importsFor m [] e.referencedNames).result.map (⟨text, ·⟩) := by
  rw [DeclaredType.typeText, Traced.bind_result]
  refine congrArg _ (funext fun text => ?_)
  rw [Traced.bind_result]
  change (importsFor m [] e.referencedNames).result >>= _ = _
  cases (importsFor m [] e.referencedNames).result <;> rfl

theorem typeText_inPackage (h : p.Moves package) {t u : SourceType} (htu : InPackage package p t u) :
    EndAlike (TextInPackage package p) (DeclaredType.typeText t).result
      (DeclaredType.typeText u).result := by
  cases htu with
  | @intro e m hm =>
      cases e with
      | none => exact .ok (.unwritten hm rfl)
      | some e =>
          have himports := importsFor_map (movedImport_injective package m)
            (reference?_inPackage h hm) [] e.referencedNames
          rw [List.map_nil] at himports
          rw [typeText_written, typeText_written, himports]
          cases hwrite : e.write with
          | error f => exact .error f
          | ok text =>
              cases hrefs : (importsFor m [] e.referencedNames).result with
              | error f => exact .error f
              | ok refs =>
                  refine .ok (.written (e := e) hm ?_)
                  rw [typeText_written, hwrite, hrefs]
                  rfl

theorem answersWith_inPackage (h : p.Moves package) :
    AnswersWith (InPackage package p) (TextInPackage package p) where
  typeText := typeText_inPackage h
  isVoid htu := by cases htu; rfl
  carried htu := by
    cases htu with
    | @intro e m hm => exact carried_endAlike (fun e => .intro e hm) e
  field? htu name := field?_inPackage h htu name

end SourceType

/-! ### Routes -/

namespace SourceProject

variable {package : String} {p : SourceProject}

theorem units_inPackage (package : String) (p : SourceProject) :
    UnitsThinned (fun _ => False) (SourceType.InPackage package p) p.units
      (p.inPackage package).units := by
  have hmodules : Thinned (fun _ => False) Eq p.modules p.modules := .refl (fun _ => rfl) _
  have hunits : (p.inPackage package).units = p.modules.map fun m =>
      (m.inPackage package).unit (some (p.inPackage package)) := List.map_map
  rw [hunits]
  refine hmodules.map (fun m n hn heq => ?_) fun _ h => h.elim
  subst heq
  exact unit_thins rfl rfl fun e => .intro e hn

theorem moves_of_ofSources (hpackage : package ≠ "") {sources : List (String × String)}
    (hp : ofSources sources none = .ok p) (h : p.ImportsMove package) : p.Moves package where
  toImportsMove := h
  package := hpackage
  root m hm hname := by
    obtain ⟨source, -, hread⟩ := exists_readText_of_mem hp hm
    exact ModuleName.isPackage_of_ofPath (SourceModule.read_eq_ok hread).2 hname

end SourceProject

namespace ProjectSettings

/-- The route files of source texts, and those of the same texts in a package. -/
def FilesInPackage (package : String) (sources : List (String × String))
    (files files' : List RouteFile) : Prop :=
  ∃ p, SourceProject.ofSources sources none = .ok p ∧
    List.Forall₂ (RouteFile.Alike (SourceType.TextInPackage package p)) files files'

/-- A package only renames. If no relative import leaves the root of the sources, or ends at a lone
empty component, and no absolute one leads to the package or into the project, then sources in the
package have the routes that they have without it, with the imports of their types moved, and where
there is a failure it is the same one. -/
theorem sourceRoutes_inPackage (s : ProjectSettings) {package : String} (hpackage : package ≠ "")
    {sources : List (String × String)}
    (h : ∀ p, SourceProject.ofSources sources none = .ok p → p.ImportsMove package) :
    EndAlike (FilesInPackage package sources) ({ s with package := none }.sourceRoutes sources)
      ({ s with package := some package }.sourceRoutes sources) := by
  unfold sourceRoutes
  simp only [SourceProject.ofSources_inPackage hpackage]
  cases hp : SourceProject.ofSources sources none with
  | error e => exact .error e
  | ok p =>
      have hmoves := SourceProject.moves_of_ofSources hpackage hp (h p hp)
      have hroutes := routeFiles_endAlike s.routing (SourceType.answersWith_inPackage hmoves)
        (SourceProject.units_inPackage package p)
      refine (hroutes.endAlike ?_).mono fun files files' hfiles => ⟨p, hp, hfiles⟩
      exact fun _ ⟨_, hlost, _⟩ => hlost

/-! ### A shop -/

def shopSettings : ProjectSettings := { source := "src", output := "client" }

/-- A controller, the parameters of its path in a module beside it, and their type in the root. -/
def shopSources : List (String × String) :=
  [("__init__.py", "class Id: ...\n"),
   ("people/models.py", "from .. import Id\nclass PersonParams:\n    id: Id\n"),
   ("people/people_controller.py",
    "from datetime import date\nfrom .models import PersonParams\n@Controller\nclass People:\n" ++
      "    @Get(':id')\n    def born(self, person: Annotated[PersonParams, Params]) -> date: ...\n")]

theorem sourceRoutes_inPackage_shop :
    (∀ p, SourceProject.ofSources shopSources none = .ok p → p.ImportsMove "shop") ∧
    (shopSettings.sourceRoutes shopSources).isOk = true ∧
    EndAlike (FilesInPackage "shop" shopSources) (shopSettings.sourceRoutes shopSources)
      ({ shopSettings with package := some "shop" }.sourceRoutes shopSources) := by
  obtain ⟨p, hp, hcheck⟩ := exists_project_of_check none
    (fun p => decide (p.ImportsMove "shop") && (shopSettings.routeFiles p).result.isOk)
    (by decide : shopSources.Pairwise _) (by decide +kernel)
  rw [Bool.and_eq_true, decide_eq_true_eq] at hcheck
  have hmove (p') (hp' : SourceProject.ofSources shopSources none = .ok p') :
      p'.ImportsMove "shop" := by
    cases hp.symm.trans hp'
    exact hcheck.1
  have hroutes : shopSettings.sourceRoutes shopSources =
      (shopSettings.routeFiles p).result := by
    rw [sourceRoutes]
    change SourceProject.ofSources shopSources none >>= _ = _
    rw [hp]
    rfl
  exact ⟨hmove, hroutes ▸ hcheck.2, sourceRoutes_inPackage shopSettings (by decide) hmove⟩

/-- A controller in a folder whose name starts with a dot, and the parameters of its path in the
package around it. -/
def hiddenSources : List (String × String) :=
  [(".hidden/people_controller.py",
    "from .. import PersonParams\n@Controller\nclass People:\n    @Get(':id')\n" ++
      "    def find(self, person: Annotated[PersonParams, Params]) -> None: ...\n"),
   ("__init__.py", "class Id: ...\nclass PersonParams:\n    id: Id\n")]

/-- Relative imports climb no further than to the root of the sources, by paths and by names, and
there are no others. -/
def ImportsInside (p : SourceProject) : Prop :=
  ∀ m ∈ p.modules, m.absoluteImports = [] ∧ ∀ i ∈ m.relativeImports,
    i.1 ≤ (Path.ofString m.path).parts.length ∧ i.1 - 1 ≤ m.name.ownPackage.length

instance (p : SourceProject) : Decidable (ImportsInside p) :=
  inferInstanceAs (Decidable (∀ m ∈ p.modules, m.absoluteImports = [] ∧ ∀ i ∈ m.relativeImports,
    i.1 ≤ (Path.ofString m.path).parts.length ∧ i.1 - 1 ≤ m.name.ownPackage.length))

/-- Without a package the parameters are found: the folder that the import climbs to has an empty
name, as the root has. Below a package its name is not that of the package. -/
theorem not_sourceRoutes_inPackage :
    (∃ p, SourceProject.ofSources hiddenSources none = .ok p ∧ ImportsInside p) ∧
    (shopSettings.sourceRoutes hiddenSources).isOk = true ∧
    { shopSettings with package := some "shop" }.sourceRoutes hiddenSources =
      .error (.reported (.unboundParameter "find" "id" (some "People"))) := by
  obtain ⟨p, hp, hcheck⟩ := exists_project_of_check none
    (fun p => decide (ImportsInside p) && (shopSettings.routeFiles p).result.isOk &&
      decide ((shopSettings.routeFiles (p.inPackage "shop")).result =
        .error (.reported (.unboundParameter "find" "id" (some "People")))))
    (by decide : hiddenSources.Pairwise _) (by decide +kernel)
  simp only [Bool.and_eq_true, decide_eq_true_eq] at hcheck
  obtain ⟨⟨hinside, hok⟩, hlost⟩ := hcheck
  refine ⟨⟨p, hp, hinside⟩, ?_, ?_⟩
  · rw [sourceRoutes]
    change (SourceProject.ofSources hiddenSources none >>= _).isOk = true
    rw [hp]
    exact hok
  · rw [sourceRoutes, SourceProject.ofSources_inPackage (by decide), hp]
    exact hlost

end ProjectSettings

end TypedClients
