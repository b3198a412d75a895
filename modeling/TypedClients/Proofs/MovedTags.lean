import TypedClients.Proofs.FurtherSources
import TypedClients.Proofs.TagPlaces

/-!
# Projects in which tags move

Whether a call beside the type of a parameter is its default value instead makes no difference to a
project, whichever parameters of whichever methods are written so. A search for a class or a field
looks at no signature (`field?_rewritten`), and the signatures are read alike.
-/
namespace TypedClients

open TypedClients.Text TypedClients.Code

/-! ### Signatures rewritten throughout a project -/

/-- A member of a class, with another signature if it is a method. -/
def Code.Stmt.rewriteMethod (f : Params Expr → Params Expr) : Stmt → Stmt
  | .functionDef isAsync decorators name params returns body =>
      .functionDef isAsync decorators name (f params) returns body
  | stmt => stmt

/-- A statement of a module, with other signatures of the methods if it is a class. -/
def Code.Stmt.rewriteMethods (f : Params Expr → Params Expr) : Stmt → Stmt
  | .classDef decorators name bases keywords body =>
      .classDef decorators name bases keywords (body.map (rewriteMethod f))
  | stmt => stmt

def ClassSource.rewritten (f : Params Expr → Params Expr) (c : ClassSource) : ClassSource :=
  { c with body := c.body.map (Stmt.rewriteMethod f) }

def SourceModule.rewritten (f : Params Expr → Params Expr) (m : SourceModule) : SourceModule :=
  { m with body := m.body.map (Stmt.rewriteMethods f) }

def SourceProject.rewritten (f : Params Expr → Params Expr) (p : SourceProject) : SourceProject :=
  ⟨p.modules.map (SourceModule.rewritten f)⟩

/-- What a search finds, in the rewritten module. -/
def foundRewritten {α β : Type} (f : Params Expr → Params Expr) (g : α → β)
    (found : SourceModule × α) : SourceModule × β := (found.1.rewritten f, g found.2)

section

variable (f : Params Expr → Params Expr) (m : SourceModule)

theorem flatMap_rewriteMethods {α : Type} (g : Stmt → List α)
    (h : ∀ stmt : Stmt, g (stmt.rewriteMethods f) = g stmt) :
    (m.rewritten f).body.flatMap g = m.body.flatMap g := by
  rw [SourceModule.rewritten, List.flatMap_map]
  exact List.flatMap_congr fun stmt _ => h stmt

theorem definitions_rewritten : (m.rewritten f).definitions = m.definitions :=
  flatMap_rewriteMethods f m _ fun stmt => by cases stmt <;> rfl

theorem nameImports_rewritten : (m.rewritten f).nameImports = m.nameImports :=
  congrArg (List.foldl _ _) (flatMap_rewriteMethods f m _ fun stmt => by cases stmt <;> rfl)

theorem moduleImports_rewritten : (m.rewritten f).moduleImports = m.moduleImports :=
  congrArg (List.foldl _ _) (flatMap_rewriteMethods f m _ fun stmt => by cases stmt <;> rfl)

theorem filterMap_ofStmt?_rewritten : (m.rewritten f).body.filterMap ClassSource.ofStmt? =
    (m.body.filterMap ClassSource.ofStmt?).map (ClassSource.rewritten f) := by
  rw [SourceModule.rewritten, List.filterMap_map, List.map_filterMap]
  refine List.filterMap_congr fun stmt _ => ?_
  cases stmt <;> rfl

theorem classes_rewritten :
    (m.rewritten f).classes = m.classes.map fun p => (p.1, p.2.rewritten f) := by
  have hpairs (cs : List ClassSource) :
      cs.foldl (fun d c => Dictionary.insert c.name c d) ([] : Dictionary String ClassSource) =
        (cs.map fun c => (c.name, c)).foldl (fun d p => Dictionary.insert p.1 p.2 d) [] := by
    rw [List.foldl_map]
  rw [SourceModule.classes, SourceModule.classes, hpairs, hpairs, Dictionary.map_foldl_insert,
    filterMap_ofStmt?_rewritten, List.map_map, List.map_map]
  rfl

theorem get?_classes_rewritten (name : String) :
    (m.rewritten f).classes.get? name = (m.classes.get? name).map (ClassSource.rewritten f) := by
  rw [classes_rewritten, Dictionary.get?_map]

theorem findSome?_declaredField?_rewritten (field : String) (c : ClassSource) :
    (c.rewritten f).body.findSome? (SourceType.declaredField? field) =
      c.body.findSome? (SourceType.declaredField? field) := by
  rw [ClassSource.rewritten, List.findSome?_map]
  congr 1
  funext stmt
  cases stmt <;> rfl

end

/-! ### Searches -/

namespace SourceProject

variable (f : Params Expr → Params Expr) (p : SourceProject)

theorem module?_rewritten (name : String) :
    (p.rewritten f).module? name = (p.module? name).map (SourceModule.rewritten f) := by
  rw [module?, module?, rewritten, ← List.map_reverse, List.find?_map]
  rfl

theorem follow_rewritten (n : Nat) (seen : List (String × String)) (m : SourceModule)
    (name : String) : (p.rewritten f).follow n seen (m.rewritten f) name =
      (p.follow n seen m name).map (foundRewritten f (ClassSource.rewritten f)) := by
  induction n generalizing seen m name with
  | zero => rfl
  | succ n ih =>
      rw [follow, follow, get?_classes_rewritten, nameImports_rewritten]
      by_cases hmem : seen.contains (m.name.text, name) = true
      · rw [if_pos hmem]
        exact if_pos hmem
      rw [if_neg hmem]
      refine (if_neg hmem).trans ?_
      cases m.classes.get? name with
      | some c => rfl
      | none =>
          cases m.nameImports.get? name with
          | none => rfl
          | some origin =>
              simp only [Option.map_none, Option.bind_eq_bind, Option.bind_some, module?_rewritten]
              cases p.module? origin.module with
              | none => rfl
              | some target => exact ih _ target origin.name

theorem importCount_rewritten : (p.rewritten f).importCount = p.importCount := by
  simp only [importCount, rewritten, List.foldl_map, nameImports_rewritten]

theorem findClass_rewritten (m : SourceModule) (name : String) :
    (p.rewritten f).findClass (m.rewritten f) name =
      (p.findClass m name).map (foundRewritten f (ClassSource.rewritten f)) := by
  rw [findClass, findClass, importCount_rewritten]
  exact follow_rewritten f p _ [] m name

end SourceProject

namespace SourceType

variable (f : Params Expr → Params Expr) (project : Option SourceProject)

/-- A type in the rewritten module of a rewritten project. -/
def rewritten (t : SourceType) : SourceType :=
  ⟨t.expr, t.module.rewritten f, t.project.map (SourceProject.rewritten f)⟩

theorem classOfParts_rewritten (m : SourceModule) (parts : List String) :
    classOfParts (project.map (SourceProject.rewritten f)) (m.rewritten f) parts =
      (classOfParts project m parts).map (foundRewritten f (ClassSource.rewritten f)) := by
  match project, parts with
  | none, [] | some _, [] => rfl
  | none, [name] =>
      simp only [classOfParts, Option.map_none, get?_classes_rewritten, Option.map_map]
      rfl
  | some p, [name] => exact SourceProject.findClass_rewritten f p m name
  | none, _ :: _ :: _ => rfl
  | some p, first :: second :: rest =>
      simp only [classOfParts, Option.map_some, moduleImports_rewritten, Option.bind_eq_bind,
        SourceProject.module?_rewritten]
      cases m.moduleImports.get? first with
      | none => rfl
      | some origin =>
          simp only [Option.bind_some]
          cases p.module? _ with
          | none => rfl
          | some target => exact SourceProject.findClass_rewritten f p target _

theorem classOf_rewritten (m : SourceModule) (e : Expr) :
    classOf (project.map (SourceProject.rewritten f)) (m.rewritten f) e =
      (classOf project m e).map (Option.map (foundRewritten f (ClassSource.rewritten f))) :=
  classOf_map (classOfParts_rewritten f project m) e

/-- The answer of a search for a field, in the rewritten module. -/
def searchRewritten (answer : Option FieldSource × List (String × String)) :
    Option FieldSource × List (String × String) :=
  (answer.1.map (foundRewritten f id), answer.2)

theorem searchClass_rewritten (field : String) (n : Nat) (seen : List (String × String))
    (c : SourceModule × ClassSource) :
    searchClass (project.map (SourceProject.rewritten f)) field n seen
        (foundRewritten f (ClassSource.rewritten f) c) =
      (searchClass project field n seen c).map (searchRewritten f) := by
  induction n generalizing seen c with
  | zero => rfl
  | succ n ih =>
      obtain ⟨m, c⟩ := c
      rw [foundRewritten, searchClass, searchClass, findSome?_declaredField?_rewritten]
      by_cases hmem : (m.name.text, c.name) ∈ seen
      · rw [if_pos hmem]
        exact if_pos hmem
      rw [if_neg hmem]
      refine (if_neg hmem).trans ?_
      cases c.body.findSome? (declaredField? field) with
      | some hint => rfl
      | none =>
          exact searchBases_map (foundRewritten f id) id _ (classOf_rewritten f project m)
            fun _ c _ seen => ih seen c

theorem classCount_rewritten (m : SourceModule) :
    classCount (project.map (SourceProject.rewritten f)) (m.rewritten f) =
      classCount project m := by
  have hlength (m : SourceModule) : (m.rewritten f).classes.length = m.classes.length := by
    rw [classes_rewritten, List.length_map]
  cases project with
  | none => simp only [classCount, Option.map_none, List.foldl_cons, hlength]
  | some p =>
      simp only [classCount, Option.map_some, Option.getD_some, SourceProject.rewritten,
        List.foldl_cons, List.foldl_map, hlength]

theorem field?_rewritten (t : SourceType) (name : String) :
    (t.rewritten f).field? name = (t.field? name).map (Option.map (rewritten f)) := by
  obtain ⟨e, m, project⟩ := t
  cases e with
  | none => rfl
  | some e =>
      simp only [field?, rewritten, classOf_rewritten, classCount_rewritten]
      cases classOf project m e with
      | error fault => rfl
      | ok resolved =>
          cases resolved with
          | none => rfl
          | some c =>
              change searchClass _ _ _ _ (foundRewritten f _ c) >>= _ =
                Except.map _ (searchClass _ _ _ _ c >>= _)
              rw [searchClass_rewritten]
              cases searchClass project name (classCount project m + 1) [] c with
              | error fault => rfl
              | ok answer =>
                  obtain ⟨found, seen⟩ := answer
                  cases found <;> rfl

theorem imports_rewritten (t : SourceType) :
    (t.rewritten f).imports.result = t.imports.result := by
  obtain ⟨e, m, project⟩ := t
  cases e with
  | none => rfl
  | some e =>
      have hreference (name : String) :
          reference? (m.rewritten f) name = (reference? m name).map id := by
        rw [reference?, nameImports_rewritten, moduleImports_rewritten, definitions_rewritten,
          Option.map_id]
        rfl
      have himports := importsFor_map Function.injective_id hreference [] e.referencedNames
      simp only [List.map_id_fun, Except.map_id, id] at himports
      exact himports

theorem rel_of_map_eq {α β : Type} {g : α → β} {x y : Option α} (h : x.map g = y.map g) :
    Option.Rel (fun a b => g a = g b) x y := by
  cases x with
  | none =>
      cases y with
      | none => exact .none
      | some b => cases h
  | some a =>
      cases y with
      | none => cases h
      | some b => exact .some (Option.some.inj h)

/-- Types answer alike where nothing but signatures of methods differs. -/
theorem answersAlike_rewritten :
    AnswersAlike fun t u : SourceType => t.rewritten f = u.rewritten f where
  text {t u} h := by
    change (t.rewritten f).text = (u.rewritten f).text
    rw [h]
  imports {t u} h := by
    change t.imports.result = u.imports.result
    rw [← imports_rewritten f t, h, imports_rewritten]
  isVoid {t u} h := by
    change (t.rewritten f).isVoid = (u.rewritten f).isVoid
    rw [h]
  carried {t u} h := by
    obtain ⟨e, m, project⟩ := t
    obtain ⟨e', m', project'⟩ := u
    obtain rfl : e = e' := congrArg SourceType.expr h
    have hplace (e : Option Expr) : rewritten f ⟨e, m, project⟩ = rewritten f ⟨e, m', project'⟩ :=
      congrArg (fun t : SourceType => (⟨e, t.module, t.project⟩ : SourceType)) h
    exact carried_endAlike hplace e
  field? {t u} h name := by
    have hfields : (t.field? name).map (Option.map (rewritten f)) =
        (u.field? name).map (Option.map (rewritten f)) := by
      rw [← field?_rewritten, ← field?_rewritten, h]
    exact (EndAlike.of_map_eq hfields).mono fun _ _ => rel_of_map_eq

end SourceType

/-! ### Calls as default values -/

/-- A parameter with a single call beside its type has it as its default value, where it has no
other and the type is in no further wrapper. -/
def Code.Param.tagByDefault : Param Expr → Param Expr
  | ⟨name, some (.subscript wrapper (.tuple [type, .call callee args keywords])), none⟩ =>
      if wrapper.baseName? = some taggedType ∧ type.isTagged = false then
        ⟨name, some type, some (.call callee args keywords)⟩
      else ⟨name, some (.subscript wrapper (.tuple [type, .call callee args keywords])), none⟩
  | p => p

theorem Code.Param.TagMoves.tagByDefault_eq {p q : Param Expr} (h : p.TagMoves q) :
    p.tagByDefault = q.tagByDefault := by
  cases h with
  | stays => rfl
  | moves _ _ _ _ hwrapper htype =>
      rw [tagByDefault, if_pos ⟨hwrapper, htype⟩, tagByDefault]
      exact fun _ _ _ _ _ _ h => by cases h

/-- A signature with calls as default values wherever they can be. -/
def Code.Params.tagsByDefault (ps : Params Expr) : Params Expr :=
  { ps with
    positionalOnly := ps.positionalOnly.map Param.tagByDefault
    ordinary := ps.ordinary.map Param.tagByDefault
    keywordOnly := ps.keywordOnly.map Param.tagByDefault }

theorem Code.Params.TagsMove.tagsByDefault_eq {ps qs : Params Expr} (h : ps.TagsMove qs) :
    ps.tagsByDefault = qs.tagsByDefault := by
  have hmap {xs ys : List (Param Expr)} (h : List.Forall₂ Param.TagMoves xs ys) :
      xs.map Param.tagByDefault = ys.map Param.tagByDefault :=
    map_eq_of_forall₂ (fun _ _ => Param.TagMoves.tagByDefault_eq) h
  simp only [tagsByDefault, hmap h.positionalOnly, hmap h.ordinary, hmap h.keywordOnly, h.rest,
    h.keywords]

/-- Members of classes that are the same, or methods in whose signatures tags move. -/
inductive Code.Stmt.MethodTagsMove : Stmt → Stmt → Prop
  | stays (stmt : Stmt) : MethodTagsMove stmt stmt
  | moves (isAsync : Bool) (decorators : List Expr) (name : String) (returns : Option Expr)
      (body : List Stmt) {ps qs : Params Expr} (h : ps.TagsMove qs) :
      MethodTagsMove (.functionDef isAsync decorators name ps returns body)
        (.functionDef isAsync decorators name qs returns body)

/-- Statements that are the same, or classes in whose methods tags move. -/
inductive Code.Stmt.TagsMove : Stmt → Stmt → Prop
  | stays (stmt : Stmt) : TagsMove stmt stmt
  | moves (decorators : List Expr) (name : String) (bases : List Expr)
      (keywords : List (Keyword Expr)) {body body' : List Stmt}
      (h : List.Forall₂ MethodTagsMove body body') :
      TagsMove (.classDef decorators name bases keywords body)
        (.classDef decorators name bases keywords body')

/-- Modules in which tags of some parameters of methods move to their default values. -/
structure SourceModule.TagsMove (m m' : SourceModule) : Prop where
  name : m.name = m'.name
  path : m.path = m'.path
  body : List.Forall₂ Stmt.TagsMove m.body m'.body

/-- Projects in which tags of some parameters of methods move to their default values. -/
def SourceProject.TagsMove (p p' : SourceProject) : Prop :=
  List.Forall₂ SourceModule.TagsMove p.modules p'.modules

theorem Code.Stmt.MethodTagsMove.rewriteMethod_eq {stmt stmt' : Stmt}
    (h : stmt.MethodTagsMove stmt') :
    stmt.rewriteMethod Params.tagsByDefault = stmt'.rewriteMethod Params.tagsByDefault := by
  cases h with
  | stays => rfl
  | moves _ _ _ _ _ h => rw [rewriteMethod, rewriteMethod, h.tagsByDefault_eq]

theorem Code.Stmt.TagsMove.rewriteMethods_eq {stmt stmt' : Stmt} (h : stmt.TagsMove stmt') :
    stmt.rewriteMethods Params.tagsByDefault = stmt'.rewriteMethods Params.tagsByDefault := by
  cases h with
  | stays => rfl
  | moves _ _ _ _ h =>
      rw [rewriteMethods, rewriteMethods,
        map_eq_of_forall₂ (fun _ _ h => MethodTagsMove.rewriteMethod_eq h) h]

theorem SourceModule.TagsMove.rewritten_eq {m m' : SourceModule} (h : m.TagsMove m') :
    m.rewritten Params.tagsByDefault = m'.rewritten Params.tagsByDefault := by
  simp only [rewritten, h.name, h.path,
    map_eq_of_forall₂ (fun _ _ h => Stmt.TagsMove.rewriteMethods_eq h) h.body]

theorem SourceProject.TagsMove.rewritten_eq {p p' : SourceProject} (h : p.TagsMove p') :
    p.rewritten Params.tagsByDefault = p'.rewritten Params.tagsByDefault := by
  rw [rewritten, rewritten,
    map_eq_of_forall₂ (fun _ _ h => SourceModule.TagsMove.rewritten_eq h) h]

/-! ### Routes -/

section

variable {m m' : SourceModule} {project project' : Option SourceProject}

/-- A method is read alike wherever the tags of its parameters stand. -/
theorem method?_of_tagsMove {stmt stmt' : Stmt} (h : stmt.MethodTagsMove stmt') :
    m.method? project stmt = m.method? project stmt' := by
  cases h with
  | stays => rfl
  | moves _ _ _ _ _ h =>
      have hparams := argumentParams_of_tagsMove h
      have hparameters (static : Bool) := map_eq_of_forall₂ (R := Param.TagMoves)
        (fun _ _ h => m.parameter_of_readsAlike project h.readsAlike) (hparams static)
      have hparts (static : Bool) := flatMap_eq_of_forall₂ (R := Param.TagMoves)
        (fun _ _ h => h.readsAlike.tags) (hparams static)
      simp only [SourceModule.method?, hparameters, hparts]

theorem classDeclaration_of_tagsMove {stmt stmt' : Stmt} (h : stmt.TagsMove stmt') :
    (ClassSource.ofStmt? stmt).map (m.classDeclaration project) =
      (ClassSource.ofStmt? stmt').map (m.classDeclaration project) := by
  cases h with
  | stays => rfl
  | moves _ _ _ _ h =>
      have hmethods := filterMap_congr_of_forall₂ (f := m.method? project)
        (fun _ _ h => method?_of_tagsMove h) h
      simp only [ClassSource.ofStmt?, Option.map_some, SourceModule.classDeclaration, hmethods]

theorem unit_thins_of_tagsMove {lost : Fault → Prop} {R : SourceType → SourceType → Prop} (h : m.TagsMove m')
    (hR : ∀ e, R ⟨e, m, project⟩ ⟨e, m', project'⟩) :
    (m.unit project).Thins lost R (m'.unit project') where
  name := by
    change m.fileName = m'.fileName
    rw [SourceModule.fileName, SourceModule.fileName, h.path]
  classes := by
    have hclasses : (m.unit project).classes =
        (m'.body.filterMap ClassSource.ofStmt?).map (m.classDeclaration project) := by
      rw [SourceModule.unit, List.map_filterMap, List.map_filterMap]
      exact filterMap_congr_of_forall₂ (fun _ _ h => classDeclaration_of_tagsMove h) h.body
    rw [hclasses]
    exact (Thinned.refl (R := Eq) (fun _ => rfl) _).map
      (fun _ _ _ heq => heq ▸
        { name := rfl
          tags := .refl (fun _ => rfl) _
          tagFault := .inl rfl
          methods := fun _ => Thinned.filterMap (method?_rel hR) _ })
      (fun _ (h : False) => h.elim)

end

/-- The binding styles of parameters are interchangeable. A call beside the type of a parameter
makes the same parameter of a method as its default value: the methods are the same, and so are the
answers of all types of the project and the routes. The parameters of a method are those of its
signature with the default values of positional ones counted from the last one. -/
theorem routes_of_tagsMove :
    (∀ ps : Params Expr, Rules.defaultsTrail (ps.positionalOnly ++ ps.ordinary) → ∀ static,
      (Signature.ofParams ps).arguments static = SourceModule.argumentParams static ps) ∧
    (∀ stmt stmt' : Stmt, stmt.MethodTagsMove stmt' → ∀ m project,
      SourceModule.method? m project stmt = m.method? project stmt') ∧
    ∀ p p' : SourceProject, p.TagsMove p' →
      (∃ R : SourceType → SourceType → Prop, AnswersAlike R ∧ ∀ m m' : SourceModule,
        m.TagsMove m' → ∀ e, R ⟨e, m, some p⟩ ⟨e, m', some p'⟩) ∧
      ∀ s : RouteSettings, (s.routeFiles p.units).result = (s.routeFiles p'.units).result := by
  refine ⟨fun ps => Signature.arguments_ofParams, fun stmt stmt' h m project =>
    method?_of_tagsMove h, fun p p' h => ?_⟩
  have hanswers := SourceType.answersAlike_rewritten Params.tagsByDefault
  have hplace (m m' : SourceModule) (hm : m.TagsMove m') (e : Option Expr) :
      SourceType.rewritten Params.tagsByDefault ⟨e, m, some p⟩ =
        SourceType.rewritten Params.tagsByDefault ⟨e, m', some p'⟩ := by
    simp only [SourceType.rewritten, hm.rewritten_eq, Option.map_some, h.rewritten_eq]
  refine ⟨⟨_, hanswers, hplace⟩, fun s => ?_⟩
  have hmodules : Thinned (fun _ => False) SourceModule.TagsMove p.modules p'.modules :=
    .of_forall₂ h
  let R (t u : SourceType) : Prop := t.rewritten Params.tagsByDefault = u.rewritten Params.tagsByDefault
  have hunits : UnitsThinned (fun _ => False) R p.units p'.units :=
    hmodules.map (fun m m' _ hm => unit_thins_of_tagsMove hm (hplace m m' hm)) fun _ h => h.elim
  exact ((routeFiles_eq_or_error s hanswers hunits).resolve_right fun ⟨_, hlost, _⟩ => hlost).symm

/-! ### A controller of books -/

def findBook (params : Params Expr) : Stmt :=
  .functionDef false [.call (.name "Get") [.string "/:id"] []] "find" params
    (some (.name "Book")) []

/-- The project of a controller with one method. -/
def booksProject (params : Params Expr) : SourceProject :=
  ⟨[⟨⟨"books", false⟩, "books.py",
    [.importFrom (some "models") [{ name := "Id" }, { name := "Page" }, { name := "Book" }] 0,
      .classDef [.call (.name "Controller") [.string "/books"] []] "Books" [] []
        [findBook params]]⟩]⟩

def idTag : Expr := .call (.name "Param") [.string "id"] []

def pageTag : Expr := .call (.name "QueryParams") [] []

def withTag (type tag : Expr) : Expr := .subscript (.name "Annotated") (.tuple [type, tag])

/-- The parameters of a method with both tags beside the types. -/
def tagsBeside : Params Expr :=
  { positionalOnly := [{ name := "self" }]
    ordinary := [{ name := "id", hint := some (withTag (.name "Id") idTag) }]
    keywordOnly := [{ name := "page", hint := some (withTag (.name "Page") pageTag) }] }

/-- The same parameters with both tags as default values. -/
def tagsByDefault : Params Expr :=
  { positionalOnly := [{ name := "self" }]
    ordinary := [{ name := "id", hint := some (.name "Id"), default := some idTag }]
    keywordOnly := [{ name := "page", hint := some (.name "Page"), default := some pageTag }] }

theorem tagsMove_findBook : (findBook tagsBeside).MethodTagsMove (findBook tagsByDefault) :=
  .moves _ _ _ _ _
    { positionalOnly := .cons (.stays _) .nil
      ordinary := .cons (.moves _ _ _ _ rfl rfl) .nil
      rest := rfl
      keywordOnly := .cons (.moves _ _ _ _ rfl rfl) .nil
      keywords := rfl }

theorem tagsMove_booksProject :
    (booksProject tagsBeside).TagsMove (booksProject tagsByDefault) := by
  refine .cons ⟨rfl, rfl, .cons (.stays _) (.cons (.moves _ _ _ _ ?_) .nil)⟩ .nil
  exact .cons tagsMove_findBook .nil

theorem routes_of_tagsMove_booksProject :
    (Signature.ofParams tagsByDefault).arguments false =
      [{ name := "id", hint := some (.name "Id"), default := some idTag },
        { name := "page", hint := some (.name "Page"), default := some pageTag }] ∧
    SourceModule.method? default none (findBook tagsBeside) =
      SourceModule.method? default none (findBook tagsByDefault) ∧
    (({} : RouteSettings).routeFiles (booksProject tagsBeside).units).result =
      (({} : RouteSettings).routeFiles (booksProject tagsByDefault).units).result ∧
    (({} : RouteSettings).routeFiles (booksProject tagsByDefault).units).result.isOk := by
  obtain ⟨harguments, hmethod, hroutes⟩ := routes_of_tagsMove
  refine ⟨harguments tagsByDefault rfl false, hmethod _ _ tagsMove_findBook default none,
    (hroutes _ _ tagsMove_booksProject).2 {}, ?_⟩
  decide +kernel

end TypedClients
