import Mathlib.Data.List.Duplicate
import TypedClients.Controller
import TypedClients.Proofs.DeclaredTypes

/-!
# The routes of controllers, declaration by declaration

The declarations that routing is about, told by the names of their tags alone: `controllers` and
`routedMethods`. Route files, route classes and routes correspond to them in order, and names are
refused as repeated only where they are.
-/
namespace TypedClients

open TypedClients.Text

/-! ### Declarations with a part in routing -/

section

variable {τ : Type}

/-- The verb of the first tag that names one. -/
def Method.verb? (m : Method τ) : Option Verb :=
  (m.tags.filterMap fun t => Verb.ofTagName? t.name).head?

/-- The methods with a verb, in order. -/
def routedMethods (ms : List (Method τ)) : List (String × Verb) :=
  ms.filterMap fun m => m.verb?.map (m.name, ·)

/-- The classes with the tag of controllers, in order. -/
def SourceUnit.controllers (u : SourceUnit τ) : List (ClassDeclaration τ) :=
  u.classes.filter fun c => c.tags.any (·.name == "Controller")

/-- The name of the client for a class. -/
def ClassDeclaration.clientName (c : ClassDeclaration τ) : String :=
  dropSuffix c.name controllerEnding ++ "Client"

/-- The names of a class and of its client: the ending of controllers is exchanged for that of
clients, which is added where there is none. -/
inductive NamesClient : String → String → Prop
  | ending (base : String) : NamesClient (base ++ "Controller") (base ++ "Client")
  | plain (name : String) (h : ∀ base, name ≠ base ++ "Controller") :
      NamesClient name (name ++ "Client")

/-- The names of the methods of a class that have a verb, in order. -/
def ClassDeclaration.routeNames (c : ClassDeclaration τ) : List String :=
  (routedMethods c.methods).map Prod.fst

/-- A failure that names something twice in a unit, where it does occur twice. -/
inductive SourceUnit.Clash (u : SourceUnit τ) : Failure → Prop
  | route {c : ClassDeclaration τ} {name : String} (hc : c ∈ u.controllers)
      (hname : List.Duplicate name c.routeNames) :
      u.Clash (.reported (.routing (.duplicateRoute name) (some c.name)))
  | client {client : String}
      (hclient : List.Duplicate client (u.controllers.map (·.clientName))) :
      u.Clash (.reported (.duplicateClient client u.name))

theorem dropSuffix_append (base ending : String) : dropSuffix (base ++ ending) ending = base := by
  apply String.toList_inj.mp
  simp [dropSuffix, ← String.length_toList]

theorem dropSuffix_eq_self {s ending : String} (h : ∀ base, s ≠ base ++ ending) :
    dropSuffix s ending = s := by
  rw [dropSuffix, if_neg]
  intro hsuffix
  obtain ⟨base, hbase⟩ := List.isSuffixOf_iff_suffix.mp hsuffix
  exact h (String.ofList base) (String.toList_inj.mp (by simp [hbase]))

theorem namesClient_clientName (c : ClassDeclaration τ) : NamesClient c.name c.clientName := by
  unfold ClassDeclaration.clientName controllerEnding
  by_cases hending : ∃ base, c.name = base ++ "Controller"
  · obtain ⟨base, hbase⟩ := hending
    rw [hbase, dropSuffix_append]
    exact .ending base
  · have hplain : ∀ base, c.name ≠ base ++ "Controller" := fun base hbase => hending ⟨base, hbase⟩
    rw [dropSuffix_eq_self hplain]
    exact .plain c.name hplain

theorem routeTag?_verb (tags : List Tag) :
    (routeTag? tags).map Prod.snd = (tags.filterMap fun t => Verb.ofTagName? t.name).head? := by
  induction tags with
  | nil => rfl
  | cons t tags ih =>
      have hverb : t.role?.bind Role.verb? = Verb.ofTagName? t.name := rfl
      simp only [routeTag?] at ih
      simp only [routeTag?, List.findSome?_cons, hverb, List.filterMap_cons]
      cases Verb.ofTagName? t.name with
      | none => simpa using ih
      | some verb => rfl

theorem ofName?_eq_controller (name : String) :
    (Role.ofName? name).any (· == .controller) = (name == "Controller") := by
  unfold Role.ofName?
  split <;> first | rfl | simp_all

theorem isSome_controllerTag? (c : ClassDeclaration τ) :
    c.controllerTag?.isSome = c.tags.any (·.name == "Controller") := by
  rw [ClassDeclaration.controllerTag?, firstTag?, Bool.eq_iff_iff, List.find?_isSome,
    List.any_eq_true]
  simp only [Tag.role?, ofName?_eq_controller]

theorem filter_controllerTag? (u : SourceUnit τ) :
    u.classes.filter (·.controllerTag?.isSome) = u.controllers :=
  List.filter_congr fun c _ => isSome_controllerTag? c

theorem findsController_eq_ok {cs : List (ClassDeclaration τ)} {found : Bool}
    (h : (findsController cs).result = .ok found) :
    found = cs.any (·.controllerTag?.isSome) := by
  induction cs with
  | nil => cases h; rfl
  | cons c cs ih =>
      rw [findsController, Traced.bind_result] at h
      obtain ⟨_, -, h⟩ := bind_eq_ok_iff.mp h
      rw [List.any_cons]
      split at h
      · rename_i htag
        cases h
        simp [htag]
      · rename_i htag
        simpa [htag] using ih h

theorem findsController_error {cs : List (ClassDeclaration τ)} {e : Failure}
    (h : (findsController cs).result = .error e) :
    ∃ c ∈ cs, ∃ f, c.tagFault = some f ∧ .fault f = e := by
  induction cs with
  | nil => cases h
  | cons c cs ih =>
      rw [findsController, Traced.bind_result] at h
      rcases bind_eq_error_iff.mp h with h | ⟨_, _, h⟩
      · exact ⟨c, List.mem_cons_self, Traced.check_eq_error_iff.mp h⟩
      · split at h
        · cases h
        · obtain ⟨c', hc', hfault⟩ := ih h
          exact ⟨c', List.mem_cons_of_mem c hc', hfault⟩

theorem findsController_classes {u : SourceUnit τ} {found : Bool}
    (h : (findsController u.classes).result = .ok found) : found = !u.controllers.isEmpty := by
  rw [findsController_eq_ok h, ← filter_controllerTag?, Bool.eq_iff_iff, Bool.not_eq_true',
    List.isEmpty_eq_false_iff_exists_mem, List.any_eq_true]
  simp only [List.mem_filter]

end

/-! ### Names that occur twice -/

theorem repeatedClient?_eq_none {seen : List String} {cs : List RouteClass}
    (h : repeatedClient? seen cs = none) :
    (cs.map (·.clientName)).Nodup ∧ ∀ c ∈ cs, c.clientName ∉ seen := by
  induction cs generalizing seen with
  | nil => simp
  | cons c cs ih =>
      rw [repeatedClient?] at h
      split at h
      · cases h
      · rename_i hseen
        obtain ⟨hnodup, hfresh⟩ := ih h
        refine ⟨List.nodup_cons.mpr ⟨?_, hnodup⟩, ?_⟩
        · intro hmem
          obtain ⟨c', hc', hname⟩ := List.mem_map.mp hmem
          exact hfresh c' hc' (by simp [hname])
        · intro c' hc'
          rcases List.mem_cons.mp hc' with rfl | hc'
          · simpa using hseen
          · exact fun hmem => hfresh c' hc' (List.mem_cons_of_mem _ hmem)

theorem repeatedClient?_eq_some {seen : List String} {cs : List RouteClass} {client : String}
    (h : repeatedClient? seen cs = some client) :
    2 ≤ (seen ++ cs.map (·.clientName)).count client := by
  induction cs generalizing seen with
  | nil => cases h
  | cons c cs ih =>
      rw [repeatedClient?] at h
      split at h
      · rename_i hseen
        cases h
        have hpos : 0 < seen.count c.clientName := by
          simpa [List.count_pos_iff] using hseen
        simp only [List.map_cons, List.count_append, List.count_cons_self]
        omega
      · have hcount := ih h
        simp only [List.map_cons, List.cons_append, List.count_append, List.count_cons] at hcount ⊢
        omega

section

variable {τ : Type} [DeclaredType τ]

/-! ### Routes -/

/-- What a route has of its method: all but its verb and the text of its path. -/
structure Route.Matches (m : Method τ) (className : Option String) (path : String) (r : Route) :
    Prop where
  name : r.name = m.name
  segments : (m.segments className path).result = .ok r.segments
  body : m.body.result = .ok r.body
  response : m.response.result = .ok r.response
  query : m.query.result = .ok r.query

theorem route_eq_ok {m : Method τ} {basePath : String} {tag : Tag} {verb : Verb}
    {className : Option String} {r : Route}
    (h : (m.route basePath tag verb className).result = .ok r) :
    (∃ path, Route.Matches m className (basePath ++ path) r) ∧ r.verb = verb := by
  simp only [Method.route, Traced.bind_result] at h
  obtain ⟨path, -, h⟩ := bind_eq_ok_iff.mp h
  obtain ⟨_, -, h⟩ := bind_eq_ok_iff.mp h
  obtain ⟨segments, hsegments, h⟩ := bind_eq_ok_iff.mp h
  obtain ⟨body, hbody, h⟩ := bind_eq_ok_iff.mp h
  obtain ⟨response, hresponse, h⟩ := bind_eq_ok_iff.mp h
  obtain ⟨query, hquery, h⟩ := bind_eq_ok_iff.mp h
  cases h
  exact ⟨⟨path, rfl, hsegments, hbody, hresponse, hquery⟩, rfl⟩

/-- The routes are those of the methods with a verb, in order and under names of their own. -/
theorem methodRoutes_eq_ok {basePath className : String} {names : List String}
    {ms : List (Method τ)} {routes : List Route}
    (h : (methodRoutes basePath className names ms).result = .ok routes) :
    routes.map (fun r => (r.name, r.verb)) = routedMethods ms ∧ (routes.map (·.name)).Nodup ∧
      ∀ r ∈ routes, r.name ∉ names := by
  induction ms generalizing names routes with
  | nil => cases h; simp [routedMethods]
  | cons m ms ih =>
      have hverb : (routeTag? m.tags).map Prod.snd = m.verb? := routeTag?_verb m.tags
      rw [methodRoutes, Traced.bind_result] at h
      obtain ⟨_, -, h⟩ := bind_eq_ok_iff.mp h
      rcases htag : routeTag? m.tags with _ | ⟨tag, verb⟩ <;> rw [htag] at h hverb
      · obtain ⟨hmap, hrest⟩ := ih h
        exact ⟨by simpa [routedMethods, ← hverb] using hmap, hrest⟩
      · simp only at h
        split at h
        · cases h
        · rename_i hfresh
          simp only [Traced.bind_result] at h
          obtain ⟨r, hr, h⟩ := bind_eq_ok_iff.mp h
          obtain ⟨rest, hrest, h⟩ := bind_eq_ok_iff.mp h
          cases h
          obtain ⟨⟨_, hmatches⟩, hv⟩ := route_eq_ok hr
          have hname := hmatches.name
          obtain ⟨hmap, hnodup, hnew⟩ := ih hrest
          refine ⟨?_, ?_, ?_⟩
          · simp only [routedMethods] at hmap
            simp [routedMethods, ← hverb, hname, hv, hmap]
          · refine List.nodup_cons.mpr ⟨fun hmem => ?_, hnodup⟩
            obtain ⟨r', hr', hsame⟩ := List.mem_map.mp hmem
            exact hnew r' hr' (by simp [hsame, hname])
          · intro r' hr'
            rcases List.mem_cons.mp hr' with rfl | hr'
            · simpa [hname] using hfresh
            · exact fun hmem => hnew r' hr' (List.mem_cons_of_mem _ hmem)

/-! ### Classes and files -/

theorem Tag.path_result (t : Tag) : ∃ text, t.path.result = .ok text := by
  unfold Tag.path
  split
  · exact ⟨_, rfl⟩
  · split <;> exact ⟨_, rfl⟩

/-- A class gives what its methods give, below some path. -/
theorem routeClass_result (c : ClassDeclaration τ) :
    ∃ basePath, c.routeClass.result = (methodRoutes basePath c.name [] c.methods).result >>=
      fun routes => .ok ⟨dropSuffix c.name controllerEnding, routes⟩ := by
  unfold ClassDeclaration.routeClass
  cases c.controllerTag? with
  | none => exact ⟨"", by simp only [Traced.bind_result]; rfl⟩
  | some tag =>
      obtain ⟨text, htext⟩ := tag.path_result
      exact ⟨text, by simp only [Traced.bind_result, htext]; rfl⟩

/-- What a route class has of its class. -/
structure RouteClass.Matches (c : ClassDeclaration τ) (rc : RouteClass) : Prop where
  clientName : rc.clientName = c.clientName
  routes : rc.routes.map (fun r => (r.name, r.verb)) = routedMethods c.methods
  nodup : (rc.routes.map (·.name)).Nodup

theorem routeClass_eq_ok {c : ClassDeclaration τ} {rc : RouteClass}
    (h : c.routeClass.result = .ok rc) : RouteClass.Matches c rc := by
  obtain ⟨basePath, hresult⟩ := routeClass_result c
  rw [hresult, bind_eq_ok_iff] at h
  obtain ⟨routes, hroutes, h⟩ := h
  cases h
  obtain ⟨hmap, hnodup, -⟩ := methodRoutes_eq_ok hroutes
  exact ⟨rfl, hmap, hnodup⟩

/-- What a route file has of its unit. -/
structure RouteFile.Matches (s : RouteSettings) (u : SourceUnit τ) (file : RouteFile) : Prop where
  baseFileName : file.baseFileName = s.baseFileName u.name
  classes : List.Forall₂ RouteClass.Matches u.controllers file.classes
  nodup : (file.classes.map (·.clientName)).Nodup

variable {s : RouteSettings}

/-- The route classes are those of the controllers, in order. -/
theorem routeClasses_eq_ok {cs : List (ClassDeclaration τ)} {classes : List RouteClass}
    (h : (routeClasses cs).result = .ok classes) :
    List.Forall₂ (fun c rc => c.routeClass.result = .ok rc)
      (cs.filter (·.controllerTag?.isSome)) classes := by
  induction cs generalizing classes with
  | nil => cases h; exact .nil
  | cons c cs ih =>
      rw [routeClasses, Traced.bind_result] at h
      obtain ⟨_, -, h⟩ := bind_eq_ok_iff.mp h
      split at h
      · rename_i htag
        simp only [Traced.bind_result] at h
        obtain ⟨rc, hrc, h⟩ := bind_eq_ok_iff.mp h
        obtain ⟨rest, hrest, h⟩ := bind_eq_ok_iff.mp h
        cases h
        rw [List.filter_cons, if_pos htag]
        exact .cons hrc (ih hrest)
      · rename_i htag
        rw [List.filter_cons, if_neg htag]
        exact ih h

theorem routeFile_eq_ok {u : SourceUnit τ} {file : RouteFile}
    (h : (s.routeFile u).result = .ok file) :
    file.baseFileName = s.baseFileName u.name ∧
      List.Forall₂ (fun c rc => c.routeClass.result = .ok rc) u.controllers file.classes ∧
      repeatedClient? [] file.classes = none := by
  simp only [RouteSettings.routeFile, Traced.bind_result] at h
  obtain ⟨classes, hclasses, h⟩ := bind_eq_ok_iff.mp h
  have hclasses := routeClasses_eq_ok hclasses
  rw [filter_controllerTag?] at hclasses
  cases hrepeated : repeatedClient? [] classes with
  | some client => rw [hrepeated] at h; cases h
  | none =>
      rw [hrepeated] at h
      cases h
      exact ⟨rfl, hclasses, hrepeated⟩

theorem matches_of_routeFile {u : SourceUnit τ} {file : RouteFile}
    (h : (s.routeFile u).result = .ok file) : RouteFile.Matches s u file := by
  obtain ⟨hname, hclasses, hrepeated⟩ := routeFile_eq_ok h
  exact ⟨hname, hclasses.imp fun _ _ => routeClass_eq_ok, (repeatedClient?_eq_none hrepeated).1⟩

/-- The route files are those of the units with a controller, in order. -/
theorem routeFiles_eq_ok {us : List (SourceUnit τ)} {files : List RouteFile}
    (h : (s.routeFiles us).result = .ok files) :
    List.Forall₂ (fun u file => (s.routeFile u).result = .ok file)
      (us.filter fun u => !u.controllers.isEmpty) files := by
  induction us generalizing files with
  | nil => cases h; exact .nil
  | cons u us ih =>
      rw [RouteSettings.routeFiles, Traced.bind_result] at h
      obtain ⟨found, hfound, h⟩ := bind_eq_ok_iff.mp h
      have hcontroller := findsController_classes hfound
      split at h
      · rename_i htrue
        simp only [Traced.bind_result] at h
        obtain ⟨file, hfile, h⟩ := bind_eq_ok_iff.mp h
        obtain ⟨rest, hrest, h⟩ := bind_eq_ok_iff.mp h
        cases h
        rw [List.filter_cons_of_pos (by rw [← hcontroller, htrue])]
        exact .cons hfile (ih hrest)
      · rename_i hfalse
        rw [List.filter_cons_of_neg (by rwa [← hcontroller])]
        exact ih h

end

end TypedClients
