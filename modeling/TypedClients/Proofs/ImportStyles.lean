import TypedClients.Proofs.DottedImports
import TypedClients.Proofs.PackageNames
import TypedClients.Proofs.ReExports

/-!
# Styles of imports

A module can take a class by its name, import the module that has it, or import that module under
another name. The three styles write the type differently, and the search starts at different places,
but it goes through the same module and ends at the same class: `field?_of_importStyles`.
-/
namespace TypedClients

open TypedClients.Code TypedClients.Text

/-! ### Modules with one import -/

/-- Whether a statement imports something. -/
def Code.Stmt.isImport : Stmt → Bool
  | .importModules _ | .importFrom _ _ _ => true
  | _ => false

namespace SourceModule

/-- A module that defines no classes, and with one statement that imports something. -/
structure OnlyImports (m : SourceModule) (stmt : Stmt) : Prop where
  classless : m.body.filterMap ClassSource.ofStmt? = []
  imports : m.body.filter Stmt.isImport = [stmt]

variable {m : SourceModule} {stmt : Stmt}

theorem OnlyImports.get?_classes (h : m.OnlyImports stmt) (name : String) :
    m.classes.get? name = none := by
  rw [classes, h.classless]
  rfl

/-- What statements import is what the import statements among them do. -/
theorem flatMap_filter_isImport {α : Type} {f : Stmt → List α}
    (hf : ∀ s : Stmt, s.isImport = false → f s = []) (body : List Stmt) :
    (body.filter Stmt.isImport).flatMap f = body.flatMap f := by
  induction body with
  | nil => rfl
  | cons s body ih =>
      by_cases hs : s.isImport = true
      · rw [List.filter_cons_of_pos hs, List.flatMap_cons, List.flatMap_cons, ih]
      · have hnone : f s = [] := hf s (by simpa using hs)
        rw [List.filter_cons_of_neg hs, List.flatMap_cons, hnone, List.nil_append, ih]

theorem OnlyImports.nameImports (h : m.OnlyImports stmt) :
    m.nameImports = (importedNames m.name stmt).foldl (fun d p => Dictionary.insert p.1 p.2 d) [] := by
  have hnone (s : Stmt) (hs : s.isImport = false) : importedNames m.name s = [] := by
    cases s with
    | importFrom => cases hs
    | _ => rfl
  rw [SourceModule.nameImports, ← flatMap_filter_isImport hnone, h.imports, List.flatMap_singleton]

theorem OnlyImports.moduleImports (h : m.OnlyImports stmt) :
    m.moduleImports = (importedModules stmt).foldl (fun d p => Dictionary.insert p.1 p.2 d) [] := by
  have hnone (s : Stmt) (hs : s.isImport = false) : importedModules s = [] := by
    cases s with
    | importModules => cases hs
    | _ => rfl
  rw [SourceModule.moduleImports, ← flatMap_filter_isImport hnone, h.imports,
    List.flatMap_singleton]

end SourceModule

/-! ### The class behind an import -/

namespace SourceProject

variable {p : SourceProject} {m : SourceModule} {name : String}

/-- A search finds the class that the chain leads to. -/
theorem findClass_of_chainFinds (hnames : (p.modules.map (·.name.text)).Nodup)
    (hm : m ∈ p.modules) {found : SourceModule × ClassSource}
    (h : p.ChainFinds (m, name) found) : p.findClass m name = some found := by
  have hsearch := searches_findClass hm name
  cases hanswer : p.findClass m name with
  | some found' => rw [(chainFinds_of_searches hsearch hanswer).unique h]
  | none =>
      rcases chain_of_searches_none hnames hsearch hanswer hm (by simp) with hbreaks | hcircles
      · exact absurd hbreaks (not_chainBreaks_of_chainFinds h)
      · exact absurd hcircles (not_chainCircles_of_chainFinds h)

/-- The class of an imported name is that of the name in the module that it is taken from. The search
there has not been to the importing module, but it could only come back to it on a circle. -/
theorem findClass_of_origin (hnames : (p.modules.map (·.name.text)).Nodup) (hm : m ∈ p.modules)
    (hclass : m.classes.get? name = none) {origin : SourceModule.NameOrigin}
    (horigin : m.nameImports.get? name = some origin) :
    p.findClass m name = (p.module? origin.module).bind (p.findClass · origin.name) := by
  cases htarget : p.module? origin.module with
  | none =>
      unfold findClass
      rw [follow, List.contains_nil, if_neg Bool.false_ne_true, hclass]
      simp [horigin, htarget]
  | some target =>
      have hstep : p.LeadsOn (m, name) (target, origin.name) := .intro hclass horigin htarget
      rw [Option.bind_some]
      refine Option.ext fun found => ⟨fun h => ?_, fun h => ?_⟩
      · obtain ⟨origin', horigin', source, hsource, hfound⟩ := exists_origin_of_findClass hclass h
        cases horigin.symm.trans horigin'
        cases htarget.symm.trans hsource
        exact hfound
      · obtain ⟨last, hreach, hlast⟩ :=
          chainFinds_of_searches (searches_findClass (mem_of_module? htarget) origin.name) h
        exact findClass_of_chainFinds hnames hm ⟨last, hreach.head hstep, hlast⟩

end SourceProject

/-! ### Fields -/

namespace SourceType

variable {p : SourceProject} {module name short field : String} {m m' : SourceModule} {e e' : Expr}
  {parts parts' : List String}

theorem classOf_of_dotted (h : e.dottedParts? = some parts) (project : Option SourceProject)
    (m : SourceModule) : classOf project m e = .ok (classOfParts project m parts) := by
  have htext : e.quotation? = none := by
    cases e with
    | constant => cases h
    | _ => rfl
  simp only [classOf, htext, pure_bind, Option.bind_some, h]
  rfl

/-- Dotted types that refer to one class have the same fields, wherever they are written. -/
theorem field?_congr (hm : m ∈ p.modules) (h : e.dottedParts? = some parts)
    (h' : e'.dottedParts? = some parts')
    (hsame : classOfParts (some p) m parts = classOfParts (some p) m' parts') (field : String) :
    (ofExpr (some e) m (some p)).field? field = (ofExpr (some e') m' (some p)).field? field := by
  have hclass := classOf_of_dotted h (some p) m
  have hclass' := classOf_of_dotted h' (some p) m'
  simp only [field?, ofExpr, Option.map_some, Expr.untagged_of_dotted h,
    Expr.untagged_of_dotted h', hclass, hclass', ← hsame]
  cases hfound : classOfParts (some p) m parts with
  | none => rfl
  | some c =>
      have hhas := has_of_classOfParts hm hfound
      have hsearch := searchClass_eq_of_covers field (SourceProject.Covers.refl p) m m' hhas
      change searchClass _ _ _ _ _ >>= _ = searchClass _ _ _ _ _ >>= _
      rw [hsearch]

/-! ### The class that each style refers to -/

/-- The class of a name in the module that a project has under a dotted name. -/
def classIn (p : SourceProject) (module name : String) : Option (SourceModule × ClassSource) :=
  (p.module? module).bind (p.findClass · name)

theorem classOfParts_of_taken (hnames : (p.modules.map (·.name.text)).Nodup) (hm : m ∈ p.modules)
    (hname : name ≠ "*") (h : m.OnlyImports (.importFrom (some module) [{ name }] 0)) :
    classOfParts (some p) m [name] = classIn p module name := by
  have horigin : m.nameImports.get? name = some ⟨module, name⟩ := by
    rw [h.nameImports]
    simp [SourceModule.importedNames, hname, ModuleName.resolve, Dictionary.insert,
      Dictionary.get?_cons]
  exact SourceProject.findClass_of_origin hnames hm (h.get?_classes name) horigin

/-- A dotted type goes to the module that is imported under its first component. -/
theorem classOfParts_of_origin {first last : String} {inner : List String}
    {origin : SourceModule.ModuleOrigin} (horigin : m.moduleImports.get? first = some origin) :
    classOfParts (some p) m (first :: (inner ++ [last])) = classIn p (ModuleName.ofComponents
      (if origin.localName.isSome then origin.module :: inner else first :: inner)) last := by
  obtain ⟨second, rest, hrest⟩ :=
    List.exists_cons_of_ne_nil (List.append_ne_nil_of_right_ne_nil inner (List.cons_ne_nil last []))
  have hlast : (second :: rest).getLast?.getD "" = last := by rw [← hrest]; simp
  have hinner : (second :: rest).dropLast = inner := by rw [← hrest]; simp
  rw [hrest]
  simp only [classOfParts, horigin, Option.bind_eq_bind, Option.bind_some, hlast, hinner, classIn]

theorem classOfParts_of_plain (h : m.OnlyImports (.importModules [{ name := module }])) :
    classOfParts (some p) m (ModuleName.components module ++ [name]) = classIn p module name := by
  obtain ⟨inner, hinner⟩ := components_eq_cons module
  have horigin : m.moduleImports.get? (firstComponent module) = some ⟨module, none⟩ := by
    rw [h.moduleImports]
    exact Dictionary.get?_insert_self [] _ _
  have hmodule : ModuleName.ofComponents (firstComponent module :: inner) = module := by
    rw [← hinner, ModuleName.ofComponents_components]
  rw [hinner, List.cons_append, classOfParts_of_origin horigin]
  simp only [Option.isSome_none, Bool.false_eq_true, if_false, hmodule]

theorem classOfParts_of_shortened
    (h : m.OnlyImports (.importModules [{ name := module, localName := some short }])) :
    classOfParts (some p) m [short, name] = classIn p module name := by
  have horigin : m.moduleImports.get? short = some ⟨module, some short⟩ := by
    rw [h.moduleImports]
    exact Dictionary.get?_insert_self [] _ _
  rw [← List.nil_append [name], classOfParts_of_origin horigin]
  simp only [Option.isSome_some, if_true, ModuleName.ofComponents, String.intercalate_singleton]

/-- A module that takes a class by name, one that imports the module of the class, and one that imports
it under another name: a field of the class, written in the style of each of them, has the same type in
all three, or none in all three. It is the type that the field has where the class is taken from, if the
project has this module. The search fails only at a base that quotes a text which cannot be read, and then
again in all three. -/
theorem field?_of_importStyles (hnames : (p.modules.map (·.name.text)).Nodup)
    {taking plain shortened : SourceModule} (hmem : ∀ m ∈ [taking, plain, shortened], m ∈ p.modules)
    (hname : name ≠ "*")
    (htaking : taking.OnlyImports (.importFrom (some module) [{ name }] 0))
    (hplain : plain.OnlyImports (.importModules [{ name := module }]))
    (hshort : shortened.OnlyImports (.importModules [{ name := module, localName := some short }]))
    {qualified : Expr}
    (hqualified : qualified.dottedParts? = some (ModuleName.components module ++ [name]))
    (field : String) :
    ∃ answer, (ofExpr (some (.name name)) taking (some p)).field? field = answer ∧
      (ofExpr (some qualified) plain (some p)).field? field = answer ∧
      (ofExpr (some (.member (.name short) name)) shortened (some p)).field? field = answer ∧
      (p.module? module = none → answer = .ok none) ∧
      (∀ source, p.module? module = some source →
        (ofExpr (some (.name name)) source (some p)).field? field = answer) ∧
      ∀ e, answer = .error e → ∃ f, e = .fault f ∧
        ∃ c, p.Has c ∧ ∃ base ∈ c.2.bases, base.QuotesUnread f := by
  obtain ⟨htakingMem, hplainMem, hshortMem⟩ :
      taking ∈ p.modules ∧ plain ∈ p.modules ∧ shortened ∈ p.modules := by simpa using hmem
  have htaken := classOfParts_of_taken hnames htakingMem hname htaking
  refine ⟨_, rfl, ?_, ?_, fun hnone => ?_, fun source hsource => ?_, fun e he => ?_⟩
  · exact field?_congr hplainMem hqualified rfl ((classOfParts_of_plain hplain).trans htaken.symm) field
  · exact field?_congr hshortMem rfl rfl
      ((classOfParts_of_shortened hshort).trans htaken.symm) field
  · have hclass := classOf_of_dotted (e := .name name) rfl (some p) taking
    rw [htaken, classIn, hnone] at hclass
    simp only [field?, ofExpr, Option.map_some, Expr.untagged, hclass]
    rfl
  · refine field?_congr (SourceProject.mem_of_module? hsource) rfl rfl ?_ field
    rw [htaken, classIn, hsource]
    rfl
  · obtain ⟨f, hf, hquotes⟩ := field?_error p.Has (has_of_classOf htakingMem)
      (fun hc hnext => has_of_classOf hc.1 hnext) he
    refine ⟨f, hf, hquotes.resolve_left ?_⟩
    rintro ⟨written, hwritten, hquoted⟩
    cases hwritten
    have hnone : (.error (.fault f) : Except Failure String) ∈ [.ok name] := hquoted.name
    cases List.mem_singleton.mp hnone

/-! ### A class that is handed on -/

/-- A module whose class has the field of another one. -/
def volumes : SourceModule where
  name := ⟨"library.volumes", false⟩
  path := "library/volumes.py"
  body := [.classDef [] "Holding" [] [] [.declare (.name "id") (.name "int") none true],
    .classDef [] "Volume" [.name "Holding"] [] [.pass]]

/-- A module that hands the class on. -/
def catalogue : SourceModule where
  name := ⟨"library.catalogue", false⟩
  path := "library/catalogue.py"
  body := [.importFrom (some "volumes") [{ name := "Volume" }] 1]

def volumeTaker : SourceModule where
  name := ⟨"taker", false⟩
  path := "taker.py"
  body := [.importFrom (some "library.catalogue") [{ name := "Volume" }] 0]

def catalogueUser : SourceModule where
  name := ⟨"user", false⟩
  path := "user.py"
  body := [.importModules [{ name := "library.catalogue" }], .pass]

def shortCatalogueUser : SourceModule where
  name := ⟨"short", false⟩
  path := "short.py"
  body := [.importModules [{ name := "library.catalogue", localName := some "c" }]]

def catalogueProject : SourceProject :=
  ⟨[catalogue, volumes, shortCatalogueUser, volumeTaker, catalogueUser]⟩

/-- The class under the name of the module that hands it on. -/
def catalogueVolume : Expr := .member (.member (.name "library") "catalogue") "Volume"

theorem field?_of_importStyles_volume :
    (catalogueProject.modules.map (·.name.text)).Nodup ∧
    (∀ m ∈ [volumeTaker, catalogueUser, shortCatalogueUser], m ∈ catalogueProject.modules) ∧
    volumeTaker.OnlyImports (.importFrom (some "library.catalogue") [{ name := "Volume" }] 0) ∧
    catalogueUser.OnlyImports (.importModules [{ name := "library.catalogue" }]) ∧
    shortCatalogueUser.OnlyImports
      (.importModules [{ name := "library.catalogue", localName := some "c" }]) ∧
    catalogueVolume.dottedParts? =
      some (ModuleName.components "library.catalogue" ++ ["Volume"]) ∧
    ∀ t ∈ [ofExpr (some (.name "Volume")) volumeTaker (some catalogueProject),
        ofExpr (some catalogueVolume) catalogueUser (some catalogueProject),
        ofExpr (some (.member (.name "c") "Volume")) shortCatalogueUser (some catalogueProject)],
      t.field? "id" = .ok (some (ofExpr (some (.name "int")) volumes (some catalogueProject))) := by
  have hnames : (catalogueProject.modules.map (·.name.text)).Nodup := by decide
  have hmem : ∀ m ∈ [volumeTaker, catalogueUser, shortCatalogueUser],
      m ∈ catalogueProject.modules := by
    simp [catalogueProject]
  have htaking : volumeTaker.OnlyImports
      (.importFrom (some "library.catalogue") [{ name := "Volume" }] 0) := ⟨rfl, rfl⟩
  have hplain : catalogueUser.OnlyImports (.importModules [{ name := "library.catalogue" }]) :=
    ⟨rfl, rfl⟩
  have hshort : shortCatalogueUser.OnlyImports
      (.importModules [{ name := "library.catalogue", localName := some "c" }]) := ⟨rfl, rfl⟩
  have hqualified : catalogueVolume.dottedParts? =
      some (ModuleName.components "library.catalogue" ++ ["Volume"]) := by decide
  refine ⟨hnames, hmem, htaking, hplain, hshort, hqualified, ?_⟩
  obtain ⟨answer, htaken, hqualifiedField, hshortField, -, hsource, -⟩ :=
    field?_of_importStyles hnames hmem (by decide) htaking hplain hshort hqualified "id"
  have hfield : (ofExpr (some (.name "Volume")) catalogue (some catalogueProject)).field? "id" =
      .ok (some (ofExpr (some (.name "int")) volumes (some catalogueProject))) := rfl
  obtain rfl := (hsource catalogue rfl).symm.trans hfield
  simp only [List.forall_mem_cons, List.not_mem_nil, false_implies, implies_true, and_true]
  exact ⟨htaken, hqualifiedField, hshortField⟩

end SourceType

end TypedClients
