import TypedClients.Code.Mark
import TypedClients.Proofs.ClientImports
import TypedClients.Proofs.ClientTypes

/-!
# Names in the body of a client class

The types of a client's methods are evaluated in the body of the class, where a method that stands
before has its name bound already. A type then means what it means in the module exactly where none
of the names that it takes is bound in the class by then, as `forall_senses_iff` says of any body.
-/
namespace TypedClients

open TypedClients.Code

/-! ### Uses and bindings of names -/

namespace Code

/-- What evaluation does with a name in the scope where it takes place. -/
inductive NameEvent where
  | use (name : String)
  | bind (name : String)
  deriving DecidableEq, Repr

mutual

/-- What evaluation does in the scope of a mark. Names in a scope inside it are looked for in that
scope and in the module, not in a class around it. -/
def Mark.events : Mark → List NameEvent
  | .use n => [.use n]
  | .bind n => [.bind n]
  | .source ms | .hint _ ms => eventsOfAll ms
  | _ => []

def eventsOfAll : List Mark → List NameEvent
  | [] => []
  | m :: ms => m.events ++ eventsOfAll ms

end

@[simp] theorem eventsOfAll_append (ms ms' : List Mark) :
    eventsOfAll (ms ++ ms') = eventsOfAll ms ++ eventsOfAll ms' := by
  induction ms with
  | nil => rfl
  | cons m ms ih => simp [eventsOfAll, ih]

/-- What the evaluation of an expression does, in order. A name that gets a value inside of it is
bound from there on. -/
def Expr.events (e : Expr) : List NameEvent := eventsOfAll e.valueMarks

theorem eventsOfAll_flatMap (es : List Expr) :
    eventsOfAll (es.flatMap Expr.valueMarks) = es.flatMap Expr.events := by
  induction es with
  | nil => rfl
  | cons e es ih => rw [List.flatMap_cons, eventsOfAll_append, ih, List.flatMap_cons, Expr.events]

/-- What a statement does in the scope where it stands, in order: a function has its name bound only
when its types have been evaluated. -/
def Stmt.events : Stmt → List NameEvent
  | .functionDef _ decorators name params returns _ =>
      eventsOfAll (decorators.flatMap Expr.valueMarks ++ Expr.paramDefaults params ++
        Expr.hintMarks params ++ Expr.optionMarks returns) ++ [.bind name]
  | s => eventsOfAll s.marks

end Code

/-! ### Looking names up in a class -/

/-- What a name stands for in the body of a class. -/
inductive Sense where
  /-- What the class has bound under that name. -/
  | member (name : String)
  /-- What the name stands for in the module. -/
  | outer (name : String)
  deriving DecidableEq, Repr

/-- The name that a class uses for a name: a private one gets that of the class before it. -/
def mangled (className name : String) : String :=
  let owner := className.toList.dropWhile (· == '_')
  let cs := name.toList
  if ['_', '_'].isPrefixOf cs && ! ['_', '_'].isSuffixOf cs && ! owner.isEmpty then
    String.ofList ('_' :: owner ++ cs)
  else name

/-- The names that every class has from the start. -/
def implicitNames : List String := ["__module__", "__qualname__"]

def lookUp (bound : List String) (name : String) : Sense :=
  if name ∈ bound then .member name else .outer name

/-- The names that are used in a class, with what they stand for; `bound` are those that the class
has bound before. -/
def senses (className : String) : List String → List NameEvent → List (String × Sense)
  | _, [] => []
  | bound, .use n :: es => (n, lookUp bound (mangled className n)) :: senses className bound es
  | bound, .bind n :: es => senses className (mangled className n :: bound) es

/-- The names that the body of a class uses, with what they stand for. -/
def bodySenses (className : String) (body : List Stmt) : List (String × Sense) :=
  senses className implicitNames (body.flatMap Stmt.events)

/-- All names that the body of a class uses stand for what they stand for in the module. -/
def KeepsNames (className : String) (body : List Stmt) : Prop :=
  ∀ x ∈ bodySenses className body, x.2 = .outer x.1

section

variable {className : String} {bound : List String}

theorem lookUp_mangled_iff {n : String} :
    lookUp bound (mangled className n) = .outer n ↔ mangled className n = n ∧ n ∉ bound := by
  unfold lookUp
  split
  · next h =>
      refine iff_of_false (by simp) ?_
      rintro ⟨hown, hfree⟩
      exact hfree (hown ▸ h)
  · next h =>
      simp only [Sense.outer.injEq, iff_self_and]
      intro hown
      rwa [hown] at h

/-- A use of a name with what comes before it. -/
def IsUse (events before : List NameEvent) (n : String) : Prop :=
  ∃ after, events = before ++ .use n :: after

theorem isUse_cons_iff {e : NameEvent} {events before : List NameEvent} {n : String} :
    IsUse (e :: events) before n ↔
      (before = [] ∧ e = .use n) ∨ ∃ before', before = e :: before' ∧ IsUse events before' n := by
  cases before with
  | nil => simp [IsUse]
  | cons b before => simp [IsUse, eq_comm, and_comm]

/-- Names keep what they stand for exactly where each of them is used under its own name and is not
bound in the class by then. -/
theorem forall_senses_iff {events : List NameEvent} :
    (∀ x ∈ senses className bound events, x.2 = .outer x.1) ↔
      ∀ before n, IsUse events before n → mangled className n = n ∧ n ∉ bound ∧
        ∀ given, .bind given ∈ before → mangled className given ≠ n := by
  induction events generalizing bound with
  | nil => simp [senses, IsUse]
  | cons e events ih =>
      cases e with
      | use m =>
          rw [senses, List.forall_mem_cons, ih, lookUp_mangled_iff]
          constructor
          · rintro ⟨hfirst, hrest⟩ before n huse
            rcases isUse_cons_iff.mp huse with ⟨rfl, hm⟩ | ⟨before', rfl, huse'⟩
            · cases hm
              exact ⟨hfirst.1, hfirst.2, by simp⟩
            · obtain ⟨hown, hfree, hgiven⟩ := hrest before' n huse'
              exact ⟨hown, hfree, fun given hmem => hgiven given (by simpa using hmem)⟩
          · intro h
            obtain ⟨hown, hfree, -⟩ := h [] m ⟨events, rfl⟩
            refine ⟨⟨hown, hfree⟩, fun before n huse => ?_⟩
            obtain ⟨hown, hfree, hgiven⟩ :=
              h (.use m :: before) n (isUse_cons_iff.mpr (.inr ⟨before, rfl, huse⟩))
            exact ⟨hown, hfree, fun given hmem => hgiven given (by simp [hmem])⟩
      | bind m =>
          rw [senses, ih]
          constructor
          · intro h before n huse
            rcases isUse_cons_iff.mp huse with ⟨-, hm⟩ | ⟨before', rfl, huse'⟩
            · cases hm
            · obtain ⟨hown, hfree, hgiven⟩ := h before' n huse'
              rw [List.mem_cons, not_or] at hfree
              refine ⟨hown, hfree.2, fun given hmem => ?_⟩
              rcases List.mem_cons.mp hmem with hm | hmem
              · cases hm
                exact Ne.symm hfree.1
              · exact hgiven given hmem
          · intro h before n huse
            obtain ⟨hown, hfree, hgiven⟩ :=
              h (.bind m :: before) n (isUse_cons_iff.mpr (.inr ⟨before, rfl, huse⟩))
            have hm : n ≠ mangled className m := Ne.symm (hgiven m (by simp))
            exact ⟨hown, by simp [hm, hfree], fun given hmem => hgiven given (by simp [hmem])⟩

theorem isUse_append_iff {events events' before : List NameEvent} {n : String} :
    IsUse (events ++ events') before n ↔
      IsUse events before n ∨ ∃ before', before = events ++ before' ∧ IsUse events' before' n := by
  induction events generalizing before with
  | nil => simp [IsUse]
  | cons e events ih =>
      rw [List.cons_append, isUse_cons_iff, isUse_cons_iff, or_assoc]
      refine or_congr_right ⟨?_, ?_⟩
      · rintro ⟨rest, rfl, hrest⟩
        rcases ih.mp hrest with huse | ⟨before', rfl, huse⟩
        · exact .inl ⟨rest, rfl, huse⟩
        · exact .inr ⟨before', rfl, huse⟩
      · rintro (⟨rest, rfl, huse⟩ | ⟨before', rfl, huse⟩)
        · exact ⟨rest, rfl, ih.mpr (.inl huse)⟩
        · exact ⟨events ++ before', rfl, ih.mpr (.inr ⟨before', rfl, huse⟩)⟩

/-- A use in what several things do one after the other belongs to one of them, and comes after
everything that those before it do. -/
theorem isUse_flatMap_iff {α : Type} {f : α → List NameEvent} {xs : List α}
    {before : List NameEvent} {n : String} :
    IsUse (xs.flatMap f) before n ↔ ∃ earlier x later given, xs = earlier ++ x :: later ∧
      IsUse (f x) given n ∧ before = earlier.flatMap f ++ given := by
  induction xs generalizing before with
  | nil => simp [IsUse]
  | cons x xs ih =>
      rw [List.flatMap_cons, isUse_append_iff]
      constructor
      · rintro (huse | ⟨before', rfl, hrest⟩)
        · exact ⟨[], x, xs, before, rfl, huse, rfl⟩
        · obtain ⟨earlier, y, later, given, rfl, huse, rfl⟩ := ih.mp hrest
          exact ⟨x :: earlier, y, later, given, rfl, huse, by simp⟩
      · rintro ⟨earlier, y, later, given, hxs, huse, rfl⟩
        cases earlier with
        | nil =>
            obtain ⟨rfl, rfl⟩ := List.cons.inj hxs
            exact .inl huse
        | cons first earlier =>
            obtain ⟨rfl, rfl⟩ := List.cons.inj hxs
            refine .inr ⟨earlier.flatMap f ++ given, by simp, ih.mpr ?_⟩
            exact ⟨earlier, y, later, given, rfl, huse, rfl⟩

end

/-! ### Types of routes -/

/-- The types in the signature of the method for a route, in order. -/
def Client.annotations (r : Route) : Except Failure (List Expr) := do
  let types ← r.bindings.mapM fun b => readType b.type
  return types ++ [.name optionsType, ← readResponse r]

/-- What the types of a route's method do with names. -/
def Route.typeEvents (r : Route) : List NameEvent :=
  ((Client.annotations r).toOption.getD []).flatMap Expr.events

/-- What the method of a route does with names in its class. -/
def Route.events (r : Route) : List NameEvent := r.typeEvents ++ [.bind r.name]

/-- Every name that the types of a client's methods use can be looked for in the module: it is not
private, no class has it from the start, it is not the name of an earlier method, and no type before
gives it a value. -/
def RouteClass.KeepsNames (c : RouteClass) : Prop :=
  ∀ earlier r later, c.routes = earlier ++ r :: later →
    ∀ before n, IsUse r.typeEvents before n →
      mangled c.clientName n = n ∧ n ∉ implicitNames ∧
        (∀ r' ∈ earlier, mangled c.clientName r'.name ≠ n) ∧
        ∀ given, .bind given ∈ earlier.flatMap Route.typeEvents ++ before →
          mangled c.clientName given ≠ n

namespace Client

/-- A parameter with a type and without a default value. -/
def Annotates (p : Param Expr) (e : Expr) : Prop := p.hint = some e ∧ p.default = none

theorem types_of_bindingParams {names : List String} {bs : List Binding}
    {params : List (Param Expr)} (h : bindingParams names bs = .ok params)
    (hlength : names.length = bs.length) :
    ∃ types, bs.mapM (fun b => readType b.type) = .ok types ∧
      List.Forall₂ Annotates params types := by
  induction bs generalizing names params with
  | nil =>
      obtain rfl := List.length_eq_zero_iff.mp hlength
      cases h
      exact ⟨[], rfl, .nil⟩
  | cons b bs ih =>
      cases names with
      | nil => cases hlength
      | cons name names =>
          obtain ⟨hint, hhint, h⟩ := bind_eq_ok_iff.mp h
          obtain ⟨rest, hrest, h⟩ := bind_eq_ok_iff.mp h
          cases h
          obtain ⟨types, htypes, hparams⟩ := ih hrest (by simpa using hlength)
          refine ⟨hint :: types, ?_, .cons ⟨rfl, rfl⟩ hparams⟩
          rw [mapM_eq_ok_iff] at htypes ⊢
          exact .cons hhint htypes

/-- The parameters of a generated method are evaluated to their types alone. -/
theorem marks_of_annotates {params : List (Param Expr)} {types : List Expr}
    (h : List.Forall₂ Annotates params types) :
    Expr.paramDefaults { ordinary := { name := selfName } :: params } = [] ∧
      Expr.hintMarks { ordinary := { name := selfName } :: params } =
        types.flatMap Expr.valueMarks := by
  induction h with
  | nil => exact ⟨rfl, rfl⟩
  | @cons p e params types hp _ ih =>
      obtain ⟨name, hint, default⟩ := p
      obtain ⟨rfl, rfl⟩ := hp
      obtain ⟨hdefaults, hhints⟩ := ih
      refine ⟨hdefaults, ?_⟩
      simp only [Expr.hintMarks, List.nil_append, List.flatMap_cons, List.append_assoc] at hhints ⊢
      rw [hhints]

theorem annotations_of_method {r : Route} {clientName : Option String} {f : Fragment}
    (h : method r clientName = .ok f) :
    (∃ types, annotations r = .ok types) ∧ f.definition.events = r.events := by
  obtain ⟨names, params, returns, body, hnames, hparams, hreturns, hdefinition⟩ :=
    exists_parts_of_method h
  obtain ⟨types, htypes, hannotates⟩ :=
    types_of_bindingParams hparams (bindingNames_length hnames)
  have hannotations : annotations r = .ok (types ++ [.name optionsType, returns]) := by
    rw [annotations, htypes, hreturns]
    rfl
  have hoptions : List.Forall₂ Annotates (withOptions params) (types ++ [.name optionsType]) :=
    List.rel_append hannotates (.cons ⟨rfl, rfl⟩ .nil)
  obtain ⟨hdefaults, hhints⟩ := marks_of_annotates hoptions
  refine ⟨⟨_, hannotations⟩, ?_⟩
  have hmarks : ([] : List Expr).flatMap Expr.valueMarks ++ [] ++
      (types ++ [Expr.name optionsType]).flatMap Expr.valueMarks ++
        Expr.optionMarks (some returns) =
      (types ++ [Expr.name optionsType, returns]).flatMap Expr.valueMarks := by
    simp [Expr.optionMarks]
  rw [hdefinition, asyncMethod, Stmt.events, hdefaults, hhints, hmarks, eventsOfAll_flatMap,
    Route.events, Route.typeEvents, hannotations]
  rfl

theorem events_of_ofClass {c : RouteClass} {f : Fragment} (h : ofClass c = .ok f) :
    (∀ r ∈ c.routes, ∃ types, annotations r = .ok types) ∧
      ∃ body, f.definition = .classDef [] c.clientName [] [] body ∧
        body.flatMap Stmt.events = c.routes.flatMap Route.events := by
  obtain ⟨methods, hmethods, h⟩ := bind_eq_ok_iff.mp h
  cases h
  have hmethods := (mapM_eq_ok_iff.mp hmethods).imp fun _ _ => annotations_of_method
  obtain ⟨hannotations, hevents⟩ := List.forall₂_and_left _ _ |>.mp hmethods
  have hmembers : (methods.map (·.definition)).flatMap Stmt.events =
      c.routes.flatMap Route.events := by
    rw [List.flatMap_map]
    exact (flatMap_eq_of_forall₂ (fun _ _ h => h.symm) hevents).symm
  refine ⟨hannotations, _, rfl, ?_⟩
  -- The statement that stands for a class without methods does nothing with names.
  cases methods with
  | nil => exact hmembers
  | cons _ _ => exact hmembers

end Client

/-! ### Classes of client modules -/

/-- The bindings of a route are those of its types and the one of its method. -/
theorem Route.mem_events_iff {r : Route} {name : String} :
    .bind name ∈ r.events ↔ .bind name ∈ r.typeEvents ∨ name = r.name := by
  simp [Route.events]

/-- All uses of names are in types. -/
theorem Route.isUse_events_iff {r : Route} {before : List NameEvent} {n : String} :
    IsUse r.events before n ↔ IsUse r.typeEvents before n := by
  have hname (before' : List NameEvent) : ¬ IsUse [.bind r.name] before' n := by
    rw [isUse_cons_iff]
    rintro (⟨-, h⟩ | ⟨rest, -, after, h⟩)
    · cases h
    · simp at h
  rw [Route.events, isUse_append_iff]
  constructor
  · rintro (huse | ⟨before', -, huse⟩)
    · exact huse
    · exact absurd huse (hname before')
  · exact .inl

theorem RouteClass.keepsNames_iff {c : RouteClass} {body : List Stmt}
    (h : body.flatMap Stmt.events = c.routes.flatMap Route.events) :
    TypedClients.KeepsNames c.clientName body ↔ c.KeepsNames := by
  unfold TypedClients.KeepsNames bodySenses
  rw [h, forall_senses_iff]
  constructor
  · intro hkeeps earlier r later hroutes before n huse
    have huse' : IsUse (c.routes.flatMap Route.events)
        (earlier.flatMap Route.events ++ before) n :=
      isUse_flatMap_iff.mpr ⟨earlier, r, later, before, hroutes,
        Route.isUse_events_iff.mpr huse, rfl⟩
    obtain ⟨hown, hfree, hgiven⟩ := hkeeps _ n huse'
    refine ⟨hown, hfree, fun r' hr' => ?_, fun given hmem => ?_⟩
    · refine hgiven r'.name (List.mem_append_left _ (List.mem_flatMap.mpr ⟨r', hr', ?_⟩))
      exact Route.mem_events_iff.mpr (.inr rfl)
    · refine hgiven given ?_
      rcases List.mem_append.mp hmem with hmem | hmem
      · obtain ⟨r', hr', hmem⟩ := List.mem_flatMap.mp hmem
        exact List.mem_append_left _
          (List.mem_flatMap.mpr ⟨r', hr', Route.mem_events_iff.mpr (.inl hmem)⟩)
      · exact List.mem_append_right _ hmem
  · intro hkeeps before n huse
    obtain ⟨earlier, r, later, given, hroutes, huse', rfl⟩ := isUse_flatMap_iff.mp huse
    obtain ⟨hown, hfree, hnames, hgiven⟩ :=
      hkeeps earlier r later hroutes given n (Route.isUse_events_iff.mp huse')
    refine ⟨hown, hfree, fun other hmem => ?_⟩
    rcases List.mem_append.mp hmem with hmem | hmem
    · obtain ⟨r', hr', hmem⟩ := List.mem_flatMap.mp hmem
      rcases Route.mem_events_iff.mp hmem with hmem | rfl
      · exact hgiven other (List.mem_append_left _ (List.mem_flatMap.mpr ⟨r', hr', hmem⟩))
      · exact hnames r' hr'
    · exact hgiven other (List.mem_append_right _ hmem)

/-- A class of a module: its name and its body. -/
def classBody? : Stmt → Option (String × List Stmt)
  | .classDef _ name _ _ body => some (name, body)
  | _ => none

def ClientModule.classBodies (m : ClientModule) : List (String × List Stmt) :=
  m.body.filterMap classBody?

theorem classBody?_statements (i : Imports) : i.statements.filterMap classBody? = [] := by
  rw [List.filterMap_eq_nil_iff]
  intro stmt hstmt
  rcases Imports.mem_statements_iff.mp hstmt with ⟨m, -, rfl⟩ | ⟨m, -, rfl⟩
  · rfl
  · rfl

/-- The body of the class for some routes. -/
structure RouteClass.HasBody (c : RouteClass) (b : String × List Stmt) : Prop where
  name : b.1 = c.clientName
  annotations : ∀ r ∈ c.routes, ∃ types, Client.annotations r = .ok types
  events : b.2.flatMap Stmt.events = c.routes.flatMap Route.events

theorem classBodies_of_ofClass {classes : List RouteClass} {fragments : List Client.Fragment}
    (h : List.Forall₂ (fun c f => Client.ofClass c = .ok f) classes fragments) :
    List.Forall₂ RouteClass.HasBody classes
      ((fragments.map (·.definition)).filterMap classBody?) := by
  induction h with
  | nil => exact .nil
  | cons hclass _ ih =>
      obtain ⟨hannotations, body, hdefinition, hevents⟩ := Client.events_of_ofClass hclass
      rw [List.map_cons, hdefinition]
      exact .cons ⟨rfl, hannotations, hevents⟩ ih

theorem classBodies_of_clientModule {s : ClientSettings} {file : RouteFile} {m : ClientModule}
    (h : (s.clientModule file).result = .ok m) :
    List.Forall₂ RouteClass.HasBody file.classes m.classBodies := by
  obtain ⟨classes, hclasses, rfl⟩ := Client.clientModule_shape h
  simp only [ClientModule.classBodies, List.filterMap_append, List.filterMap_cons,
    classBody?_statements]
  exact classBodies_of_ofClass hclasses

/-- In the client modules of a project, the types of a class keep what their names stand for in the
module exactly where none of these names is bound in the class by then: in general, where none is
that of an earlier route of the class. -/
theorem classBodies_keepNames_iff (s : ProjectSettings) (p : SourceProject)
    {modules : List ClientModule} (h : (s.clientModules p).result = .ok modules) :
    ∃ files, (s.routeFiles p).result = .ok files ∧ List.Forall₂ (fun file m =>
      List.Forall₂ (fun c b => b.1 = c.clientName ∧
        (∀ r ∈ c.routes, ∃ types, Client.annotations r = .ok types) ∧
        (KeepsNames b.1 b.2 ↔ c.KeepsNames)) file.classes m.classBodies) files modules := by
  obtain ⟨files, hfiles, hmade⟩ := clientModules_eq_ok h
  refine ⟨files, hfiles, hmade.imp fun file m hm => ?_⟩
  refine (classBodies_of_clientModule hm).imp fun c b hbody => ?_
  refine ⟨hbody.name, hbody.annotations, ?_⟩
  rw [hbody.name]
  exact RouteClass.keepsNames_iff hbody.events

/-! ### A method that is called like a type -/

/-- A method without parameters. -/
def plainMethod (name path : String) : Stmt :=
  .functionDef false [.call (.name "Get") [Expr.string path] []] name
    { ordinary := [{ name := "self" }] } (some Expr.absent) [.pass]

/-- A method for the news of a day. -/
def dayMethod (name : String) : Stmt :=
  .functionDef false [.call (.name "Get") [Expr.string "/on/:day"] []] name
    { ordinary := [{ name := "self" },
        { name := "day"
          hint := some (.subscript (.name "Annotated")
            (.tuple [.name "DayParams", .name "Params"])) }] }
    (some Expr.absent) [.pass]

/-- Two controllers with a method `date` each, and with a method whose parameter is a date by a class
of another module. Only in the first one this method comes after the other one. -/
def newsProject : SourceProject :=
  ⟨[{ name := ⟨"days", false⟩
      path := "days.py"
      body := [.importFrom (some "datetime") [{ name := "date" }] 0,
        .classDef [] "DayParams" [] [] [.declare (.name "day") (.name "date") none true]] },
    { name := ⟨"news_controller", false⟩
      path := "news_controller.py"
      body :=
        [.importFrom (some "days") [{ name := "DayParams" }] 0,
        .classDef [.call (.name "Controller") [Expr.string "/news"] []] "NewsController" [] []
          [plainMethod "date" "/date", dayMethod "find"],
        .classDef [.call (.name "Controller") [Expr.string "/events"] []] "EventsController" [] []
          [dayMethod "find", plainMethod "date" "/date"]] }]⟩

def newsSettings : ProjectSettings := { source := "app", output := "clients" }

theorem exists_newsModules :
    ∃ modules, (newsSettings.clientModules newsProject).result = .ok modules :=
  exists_eq_ok_of_isOk (by decide +kernel)

/-- In the first class, the type of the second route stands for the method of the first one. -/
theorem senses_newsProject :
    (newsSettings.routeFiles newsProject).result.map (·.map fun file => file.classes.map fun c =>
        senses c.clientName implicitNames (c.routes.flatMap Route.events)) =
      .ok [[[("RequestOptions", .outer "RequestOptions"), ("date", .member "date"),
            ("RequestOptions", .outer "RequestOptions")],
          [("date", .outer "date"), ("RequestOptions", .outer "RequestOptions"),
            ("RequestOptions", .outer "RequestOptions")]]] := by
  decide +kernel

theorem senses_of_clientModule {s : ClientSettings} {file : RouteFile} {m : ClientModule}
    (h : (s.clientModule file).result = .ok m) :
    file.classes.map (fun c => senses c.clientName implicitNames (c.routes.flatMap Route.events)) =
      m.classBodies.map fun b => bodySenses b.1 b.2 := by
  refine map_eq_of_forall₂ (fun c b hbody => ?_) (classBodies_of_clientModule h)
  rw [bodySenses, hbody.name, hbody.events]

/-- Client modules can be made although a type in one of their classes stands for something else
than in the module. -/
theorem not_keepsNames_of_clientModules :
    ¬ ∀ (s : ProjectSettings) (p : SourceProject) (modules : List ClientModule),
      (s.clientModules p).result = .ok modules → ∀ m ∈ modules, ∀ b ∈ m.classBodies,
        KeepsNames b.1 b.2 := by
  intro hkeeps
  obtain ⟨modules, h⟩ := exists_newsModules
  obtain ⟨files, hfiles, hmade⟩ := clientModules_eq_ok h
  have hsenses := senses_newsProject
  rw [hfiles] at hsenses
  have hsame := map_eq_of_forall₂ (fun file m hm => senses_of_clientModule hm) hmade
  have hmodules := hsame.symm.trans (Except.ok.inj hsenses)
  obtain ⟨m, hm, hbodies⟩ := List.mem_map.mp (hmodules ▸ List.mem_cons_self)
  obtain ⟨b, hb, hnames⟩ := List.mem_map.mp (hbodies ▸ List.mem_cons_self)
  have hlast : ("date", Sense.member "date") ∈ bodySenses b.1 b.2 := by
    rw [hnames]
    decide
  cases hkeeps _ _ _ h m hm b hb _ hlast

theorem classBodies_keepNames_iff_news :
    ∃ modules files, (newsSettings.clientModules newsProject).result = .ok modules ∧
      (newsSettings.routeFiles newsProject).result = .ok files ∧
      List.Forall₂ (fun file m => List.Forall₂ (fun c b =>
        KeepsNames b.1 b.2 ↔ c.KeepsNames) file.classes m.classBodies) files modules := by
  obtain ⟨modules, h⟩ := exists_newsModules
  obtain ⟨files, hfiles, hmatch⟩ := classBodies_keepNames_iff newsSettings newsProject h
  exact ⟨modules, files, h, hfiles, hmatch.imp fun _ _ hm => hm.imp fun _ _ hc => hc.2.2⟩

end TypedClients
