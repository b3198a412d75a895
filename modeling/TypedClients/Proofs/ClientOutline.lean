import TypedClients.Proofs.ImportMeanings
import TypedClients.Proofs.RouteFailures

/-!
# What client modules hold

The outline of a module, read off its statements: its classes, their methods, and the verb of the
request that each method makes. `clientModules_match` compares it with the declarations that the
module was made from.
-/
namespace TypedClients

open TypedClients.Code

/-! ### Outlines -/

/-- The text that the last entry for a key gives it in a mapping. -/
def entryText? (key : String) : Expr → Option String
  | .dict entries => entries.reverse.findSome? fun e =>
      if e.key.bind Expr.text? = some key then e.value.text? else none
  | _ => none

/-- The verb of the request whose answer a statement gives back. -/
def requestVerb? : Stmt → Option String
  | .returnValue (some (.await (.call _ [argument] _))) => entryText? "method" argument
  | _ => none

/-- The name of an asynchronous method and the verb of its request. -/
def methodOutline? : Stmt → Option (String × Option String)
  | .functionDef true _ name _ _ body => some (name, body.getLast?.bind requestVerb?)
  | _ => none

/-- A class with its asynchronous methods. -/
structure ClassOutline where
  name : String
  methods : List (String × Option String)
  deriving DecidableEq, Repr

def classOutline? : Stmt → Option ClassOutline
  | .classDef _ name _ _ body => some ⟨name, body.filterMap methodOutline?⟩
  | _ => none

/-- The classes of a module, in order. -/
def ClientModule.outline (m : ClientModule) : List ClassOutline := m.body.filterMap classOutline?

/-- The outline of the client for some routes. -/
def RouteClass.outline (c : RouteClass) : ClassOutline :=
  ⟨c.clientName, c.routes.map fun r => (r.name, some r.verb.name)⟩

/-! ### Outlines of what is generated -/

theorem methodOutline?_method {r : Route} {clientName : Option String} {f : Client.Fragment}
    (h : Client.method r clientName = .ok f) :
    methodOutline? f.definition = some (r.name, some r.verb.name) := by
  obtain ⟨names, params, returns, -, -, -, hdefinition, -⟩ := Client.method_shape h
  rw [hdefinition]
  have hverb : entryText? "method" (Client.requestExpr r.verb names) = some r.verb.name := by
    rcases names with ⟨_, _ | body, _ | query⟩ <;> rfl
  simp [Client.asyncMethod, methodOutline?, Client.methodBody, requestVerb?, hverb]

theorem classOutline?_ofClass {c : RouteClass} {f : Client.Fragment}
    (h : Client.ofClass c = .ok f) : classOutline? f.definition = some c.outline := by
  obtain ⟨methods, hmethods, h⟩ := bind_eq_ok_iff.mp h
  cases h
  have houtline : (methods.map (·.definition)).filterMap methodOutline? = c.outline.methods := by
    rw [List.filterMap_map]
    exact filterMap_eq_of_forall₂ (fun _ _ => methodOutline?_method) (mapM_eq_ok_iff.mp hmethods)
  -- The statement that stands for a class without methods is no method.
  have hpass : ∀ members : List Stmt,
      (if members.isEmpty then [.pass] else members).filterMap methodOutline? =
        members.filterMap methodOutline? := by
    intro members
    cases members <;> rfl
  rw [Client.classOf, classOutline?, hpass, houtline]
  rfl

theorem classOutline?_statements (i : Imports) : i.statements.filterMap classOutline? = [] := by
  rw [List.filterMap_eq_nil_iff]
  intro stmt hstmt
  rcases Imports.mem_statements_iff.mp hstmt with ⟨m, -, rfl⟩ | ⟨m, -, rfl⟩
  · rfl
  · rfl

/-- What a client module has of its route file. -/
structure ClientModule.Describes (s : ClientSettings) (file : RouteFile) (m : ClientModule) :
    Prop where
  moduleName : m.moduleName = file.baseFileName ++ s.moduleEnding
  outline : m.outline = file.classes.map RouteClass.outline
  exports : m.exports = file.classes.map RouteClass.clientName
  offers : Client.offers m.exports ∈ m.body

theorem describes_of_clientModule {s : ClientSettings} {file : RouteFile} {m : ClientModule}
    (h : (s.clientModule file).result = .ok m) : ClientModule.Describes s file m := by
  obtain ⟨classes, hclasses, rfl⟩ := Client.clientModule_shape h
  have houtline : (classes.map (·.definition)).filterMap classOutline? =
      file.classes.map RouteClass.outline := by
    rw [List.filterMap_map]
    exact filterMap_eq_of_forall₂ (fun _ _ => classOutline?_ofClass) hclasses
  refine ⟨rfl, ?_, rfl, by simp⟩
  simp only [ClientModule.outline, List.filterMap_append, List.filterMap_cons,
    classOutline?_statements, houtline]
  rfl

/-! ### Modules and declarations -/

variable {τ : Type}

/-- A generated class for a class: its name is the client's, its methods are those of the class
that have a verb, in order and under names of their own. -/
structure ClassOutline.Matches (c : ClassDeclaration τ) (o : ClassOutline) : Prop where
  name : NamesClient c.name o.name
  methods : o.methods = (routedMethods c.methods).map fun m => (m.1, some m.2.name)
  nodup : (o.methods.map Prod.fst).Nodup

/-- A generated module for a unit: its classes are those for the controllers of the unit, in order
and under names of their own, and it offers all of them. -/
structure ClientModule.Matches (rs : RouteSettings) (cs : ClientSettings) (u : SourceUnit τ)
    (m : ClientModule) : Prop where
  moduleName : m.moduleName = rs.baseFileName u.name ++ cs.moduleEnding
  classes : List.Forall₂ ClassOutline.Matches u.controllers m.outline
  exports : m.exports = m.outline.map (·.name)
  offers : Client.offers m.exports ∈ m.body
  nodup : m.exports.Nodup

theorem matches_outline {c : ClassDeclaration τ} {rc : RouteClass} (h : RouteClass.Matches c rc) :
    ClassOutline.Matches c rc.outline := by
  refine ⟨?_, ?_, ?_⟩
  · show NamesClient c.name rc.clientName
    rw [h.clientName]
    exact namesClient_clientName c
  · rw [← h.routes]
    simp [RouteClass.outline]
  · have hnames : rc.outline.methods.map Prod.fst = rc.routes.map (·.name) := by
      simp [RouteClass.outline]
    rw [hnames]
    exact h.nodup

theorem matches_of_describes {rs : RouteSettings} {cs : ClientSettings} {u : SourceUnit τ}
    {file : RouteFile} {m : ClientModule} (hfile : RouteFile.Matches rs u file)
    (hm : ClientModule.Describes cs file m) : ClientModule.Matches rs cs u m := by
  have hexports : m.exports = m.outline.map (·.name) := by
    rw [hm.exports, hm.outline, List.map_map]
    rfl
  refine ⟨?_, ?_, hexports, hm.offers, ?_⟩
  · rw [hm.moduleName, hfile.baseFileName]
  · rw [hm.outline, List.forall₂_map_right_iff]
    exact hfile.classes.imp fun _ _ => matches_outline
  · rw [hm.exports]
    exact hfile.nodup

variable [DeclaredType τ] [LawfulDeclaredType τ]

/-- From declarations to modules nothing is lost, made twice, moved or overwritten, and names are
refused as repeated only where they are. -/
theorem clientModules_match (rs : RouteSettings) (cs : ClientSettings) (us : List (SourceUnit τ)) :
    (∀ files modules, (rs.routeFiles us).result = .ok files →
      (files.mapM cs.clientModule).result = .ok modules →
      List.Forall₂ (ClientModule.Matches rs cs) (us.filter fun u => !u.controllers.isEmpty)
        modules) ∧
    (∀ name context,
      (rs.routeFiles us).result = .error (.reported (.routing (.duplicateRoute name) context)) →
      ∃ u ∈ us, ∃ c ∈ u.controllers, context = some c.name ∧ List.Duplicate name c.routeNames) ∧
    ∀ client file,
      (rs.routeFiles us).result = .error (.reported (.duplicateClient client file)) →
      ∃ u ∈ us, u.name = file ∧ List.Duplicate client (u.controllers.map (·.clientName)) := by
  refine ⟨?_, ?_, ?_⟩
  · intro files modules hfiles hmodules
    rw [Traced.mapM_result, mapM_eq_ok_iff] at hmodules
    have hfiles := (routeFiles_eq_ok hfiles).imp fun _ _ => matches_of_routeFile
    have hmodules := hmodules.imp fun _ _ => describes_of_clientModule
    exact forall₂_trans (R := RouteFile.Matches rs) (S := ClientModule.Describes cs)
      (fun _ _ _ => matches_of_describes) hfiles hmodules
  · intro name context h
    rcases routeFiles_error h with h | ⟨u, hu, hclash⟩
    · cases h
    · cases hclash with
      | route hc hname => exact ⟨u, hu, _, hc, rfl, hname⟩
  · intro client file h
    rcases routeFiles_error h with h | ⟨u, hu, hclash⟩
    · cases h
    · cases hclash with
      | client hclient => exact ⟨u, hu, rfl, hclient⟩

/-- A file with a controller among other classes, and one without. -/
def bookUnits : List (SourceUnit DescribedType) :=
  let void : DescribedType := ⟨"None", [], true, none, []⟩
  let text : DescribedType := ⟨"str", [], false, none, []⟩
  [{ name := "books_controller.py"
     classes := [{ name := "Shelf" },
       { name := "BooksController"
         tags := [⟨"final", []⟩, ⟨"Controller", ["'/books'"]⟩]
         methods := [{ name := "titles", tags := [⟨"Get", []⟩], returns := text },
           { name := "count", tags := [⟨"cached", []⟩], returns := text },
           { name := "add", tags := [⟨"Post", []⟩, ⟨"Get", []⟩], returns := void }] }] },
    { name := "shelves.py", classes := [{ name := "Shelf" }] }]

/-- A file whose two controllers have one client, the second of them by its plain name. -/
def sharedClientUnit : SourceUnit DescribedType :=
  { name := "books_controller.py"
    classes := [{ name := "BooksController", tags := [⟨"Controller", []⟩] },
      { name := "Books", tags := [⟨"Controller", []⟩] }] }

theorem clientModules_match_books :
    (∃ files modules, (({} : RouteSettings).routeFiles bookUnits).result = .ok files ∧
      (files.mapM ({} : ClientSettings).clientModule).result = .ok modules ∧
      List.Forall₂ (ClientModule.Matches {} {}) (bookUnits.filter fun u => !u.controllers.isEmpty)
        modules) ∧
    ({} : RouteSettings).routeFiles [sharedClientUnit] =
      Traced.report (.duplicateClient "BooksClient" "books_controller.py") ∧
    List.Duplicate "BooksClient" (sharedClientUnit.controllers.map (·.clientName)) := by
  have hok : (({} : RouteSettings).routeFiles bookUnits >>= fun files =>
      files.mapM ({} : ClientSettings).clientModule).result.isOk = true := by decide +kernel
  have hshared : ({} : RouteSettings).routeFiles [sharedClientUnit] =
      Traced.report (.duplicateClient "BooksClient" "books_controller.py") := by rfl
  refine ⟨?_, hshared, ?_⟩
  · cases hresult : (({} : RouteSettings).routeFiles bookUnits >>= fun files =>
        files.mapM ({} : ClientSettings).clientModule).result with
    | error e => rw [hresult] at hok; cases hok
    | ok modules =>
        rw [Traced.bind_result, bind_eq_ok_iff] at hresult
        obtain ⟨files, hfiles, hmodules⟩ := hresult
        exact ⟨files, modules, hfiles, hmodules,
          (clientModules_match {} {} bookUnits).1 files modules hfiles hmodules⟩
  · obtain ⟨u, hu, -, hduplicate⟩ := (clientModules_match {} {} [sharedClientUnit]).2.2
      "BooksClient" "books_controller.py" (by rw [hshared]; rfl)
    rw [List.mem_singleton] at hu
    exact hu ▸ hduplicate

end TypedClients
