import TypedClients.Proofs.ClassSearch
import TypedClients.Proofs.EmittedPaths
import TypedClients.Proofs.LoadedProjects
import TypedClients.Proofs.PackageExports

/-!
# Where faults come from

A run has a result, or an error that it reports, or it ends with a fault. A fault is traced to what
makes it: a tag or a type that cannot be written, an asynchronous wrapper that carries nothing, a
value without a name, a surrogate in a quoted type, or a null character in the sources, in a type or
in the settings. A run without any of these reports its failures.
-/
namespace TypedClients

open TypedClients.Text TypedClients.Code

/-! ### Null characters -/

/-- A text with a null character. -/
def HoldsNull (text : String) : Prop := Char.ofNat 0 ∈ text.toList

instance (text : String) : Decidable (HoldsNull text) :=
  inferInstanceAs (Decidable (Char.ofNat 0 ∈ text.toList))

theorem holdsNull_of_read {source : String} (h : Expr.read source = .error .nullCharacter) :
    HoldsNull source := by
  unfold Expr.read at h
  simp only at h
  split at h
  · rename_i hnull
    exact List.contains_iff_mem.mp hnull
  · split at h <;> cases h

theorem holdsNull_of_readStatements {source : String}
    (h : readStatements source = .error .nullCharacter) : HoldsNull source := by
  unfold readStatements at h
  simp only at h
  split at h
  · rename_i hnull
    exact List.contains_iff_mem.mp hnull
  · split at h <;> cases h

theorem holdsNull_of_compile {source : String} (h : Code.compile source = .error .nullCharacter) :
    HoldsNull source := by
  rcases bind_eq_error_iff.mp h with h | ⟨_, _, h⟩
  · exact holdsNull_of_readStatements h
  · split at h <;> cases h

theorem SourceModule.read_fault {source path : String} {package : Option String} {f : Fault}
    (hending : sourceEnding <:+ path.toList) (h : read source path package = .error (.fault f)) :
    HoldsNull path ∧ f = .nullInName ∨ HoldsNull source ∧ f = .nullCharacter := by
  by_cases hnull : Char.ofNat 0 ∈ path.toList
  · rw [read, if_pos (List.contains_iff_mem.mpr hnull)] at h
    cases h
    exact .inl ⟨hnull, rfl⟩
  · rcases read_error hnull hending h with ⟨hread, he⟩ | ⟨-, he⟩
    · cases he
      exact .inr ⟨holdsNull_of_readStatements hread, rfl⟩
    · cases he

theorem SourceModule.not_holdsNull_path {source path : String} {package : Option String}
    {m : SourceModule} (h : read source path package = .ok m) : ¬ HoldsNull m.path := by
  rw [(read_eq_ok h).1]
  intro hnull
  rw [read, if_pos (List.contains_iff_mem.mpr hnull)] at h
  cases h

/-! ### Faults of clients -/

namespace Client

variable {f : Fault}

theorem bindingName_fault {name : String} (h : bindingName name = .error (.fault f)) :
    name = "" ∧ f = .emptyName := by
  rcases bind_eq_error_iff.mp h with h | ⟨_, _, h⟩
  · unfold parameterName at h
    split at h
    · rename_i hempty
      cases h
      exact ⟨hempty, rfl⟩
    · cases h
  · cases h

theorem bindingNames_fault {place : String} {used : List String} {bs : List Binding}
    (h : bindingNames place used bs = .error (.fault f)) :
    (∃ b ∈ bs, b.name = "") ∧ f = .emptyName := by
  induction bs generalizing used with
  | nil => cases h
  | cons b bs ih =>
      rcases bind_eq_error_iff.mp h with h | ⟨name, _, h⟩
      · obtain ⟨hname, hf⟩ := bindingName_fault h
        exact ⟨⟨b, List.mem_cons_self, hname⟩, hf⟩
      · split at h
        · cases h
        · rcases bind_eq_error_iff.mp h with h | ⟨_, _, h⟩
          · obtain ⟨⟨b', hb', hname⟩, hf⟩ := ih h
            exact ⟨⟨b', List.mem_cons_of_mem b hb', hname⟩, hf⟩
          · cases h

theorem readType_fault {t : TypeText} (h : readType t = .error (.fault f)) :
    HoldsNull t.text ∧ f = .nullCharacter := by
  unfold readType at h
  split at h <;> cases h
  rename_i hread
  exact ⟨holdsNull_of_read hread, rfl⟩

theorem bindingParams_error {names : List String} {bs : List Binding} {e : Failure}
    (h : bindingParams names bs = .error e) : ∃ b ∈ bs, readType b.type = .error e := by
  induction names generalizing bs with
  | nil => cases h
  | cons name names ih =>
      cases bs with
      | nil => cases h
      | cons b bs =>
          rcases bind_eq_error_iff.mp h with h | ⟨_, _, h⟩
          · exact ⟨b, List.mem_cons_self, h⟩
          rcases bind_eq_error_iff.mp h with h | ⟨_, _, h⟩
          · obtain ⟨b', hb', h⟩ := ih h
            exact ⟨b', List.mem_cons_of_mem b hb', h⟩
          · cases h

/-- A route that gives no method for a fault has a value without a name or a type with a null
character. -/
inductive RouteFault (r : Route) : Fault → Prop
  | namelessValue {b : Binding} (hb : b ∈ r.bindings) (h : b.name = "") : RouteFault r .emptyName
  | nullType {t : TypeText} (ht : t ∈ routeTypes r) (h : HoldsNull t.text) :
      RouteFault r .nullCharacter

theorem method_fault {r : Route} {clientName : Option String}
    (h : method r clientName = .error (.fault f)) : RouteFault r f := by
  rcases bind_eq_error_iff.mp h with h | ⟨names, _, h⟩
  · obtain ⟨⟨b, hb, hname⟩, rfl⟩ := bindingNames_fault h
    exact .namelessValue hb hname
  rcases bind_eq_error_iff.mp h with h | ⟨params, _, h⟩
  · obtain ⟨b, hb, hread⟩ := bindingParams_error h
    obtain ⟨hnull, rfl⟩ := readType_fault hread
    exact .nullType (List.mem_append_left _ (List.mem_map_of_mem hb)) hnull
  rcases hresponse : r.response with _ | t <;> simp only [hresponse] at h
  · rcases bind_eq_error_iff.mp h with h | ⟨_, _, h⟩ <;> cases h
  · rcases bind_eq_error_iff.mp h with h | ⟨_, _, h⟩
    · obtain ⟨hnull, rfl⟩ := readType_fault h
      refine .nullType (List.mem_append_right _ ?_) hnull
      rw [hresponse]
      exact List.mem_singleton_self t
    · cases h

theorem clientModule_fault {s : ClientSettings} {file : RouteFile}
    (h : (s.clientModule file).result = .error (.fault f)) :
    ∃ r ∈ file.classes.flatMap (·.routes), RouteFault r f := by
  simp only [ClientSettings.clientModule, Traced.bind_result, Traced.ofExcept_result] at h
  rcases bind_eq_error_iff.mp h with h | ⟨_, _, h⟩
  · obtain ⟨c, hc, h⟩ := exists_of_mapM_eq_error h
    rcases bind_eq_error_iff.mp h with h | ⟨_, _, h⟩
    · obtain ⟨r, hr, h⟩ := exists_of_mapM_eq_error h
      exact ⟨r, List.mem_flatMap.mpr ⟨c, hc, hr⟩, method_fault h⟩
    · cases h
  · cases h

end Client

/-! ### Names of values -/

section

variable {τ : Type} [DeclaredType τ] {m : Method τ}

theorem PathPart.name_ne_empty {cs : List Char} {name ending : String}
    (h : PathPart.ofText cs = .parameter name ending) : name ≠ "" := by
  unfold PathPart.ofText at h
  simp only at h
  split at h
  · split at h
    · split at h <;> cases h
      intro hempty
      simpa using congrArg String.toList hempty
    · cases h
  · cases h

theorem named_of_fills {parts : List PathPart} {segments : List PathSegment}
    (h : List.Forall₂ m.Fills parts segments)
    (hparts : ∀ name ending, .parameter name ending ∈ parts → name ≠ "") :
    ∀ b ∈ segments.filterMap PathSegment.binding?, b.name ≠ "" := by
  intro b hb
  obtain ⟨segment, hsegment, hbinding⟩ := List.mem_filterMap.mp hb
  obtain ⟨part, hpart, hfills⟩ := exists_of_forall₂_of_mem h hsegment
  cases hfills with
  | literal => cases hbinding
  | parameter =>
      cases hbinding
      exact hparts _ _ hpart

theorem exists_parameter_of_body {b : Binding} (h : m.body.result = .ok (some b)) :
    ∃ q ∈ m.parameters, q.name = b.name := by
  unfold Method.body at h
  split at h
  · cases h
  · rename_i q hq
    simp only [Traced.bind_result, Traced.ofExcept_result] at h
    obtain ⟨_, -, h⟩ := bind_eq_ok_iff.mp h
    obtain ⟨_, -, h⟩ := bind_eq_ok_iff.mp h
    cases h
    exact ⟨q, List.mem_of_find?_eq_some hq, rfl⟩

theorem exists_parameter_of_query {b : Binding} (h : m.query.result = .ok (some b)) :
    ∃ q ∈ m.parameters, q.name = b.name := by
  unfold Method.query at h
  split at h
  · cases h
  · rename_i q hq
    rw [Traced.bind_result] at h
    obtain ⟨_, -, h⟩ := bind_eq_ok_iff.mp h
    cases h
    exact ⟨q, List.mem_of_find?_eq_some hq, rfl⟩

/-- The values of a path have names, so that a value without one is that of a parameter without
one. -/
theorem exists_parameter_of_nameless {r : Route} (h : m.Gives r) {b : Binding}
    (hb : b ∈ r.bindings) (hname : b.name = "") : ∃ q ∈ m.parameters, q.name = "" := by
  obtain ⟨basePath, tag, verb, className, h⟩ := h
  obtain ⟨⟨path, hmatches⟩, -⟩ := route_eq_ok h
  rw [← hname]
  rcases List.mem_append.mp hb with hb | hb
  · rcases List.mem_append.mp hb with hb | hb
    · have hfills := bindSegments_eq_ok_iff.mp hmatches.segments
      refine absurd hname (named_of_fills hfills (fun name ending hmem => ?_) b hb)
      obtain ⟨cs, -, hpart⟩ := List.mem_map.mp hmem
      exact PathPart.name_ne_empty hpart
    · exact exists_parameter_of_body (Option.mem_toList.mp hb ▸ hmatches.body)
  · exact exists_parameter_of_query (Option.mem_toList.mp hb ▸ hmatches.query)

end

/-! ### Faults of projects -/

namespace SourceProject

variable {p : SourceProject} {m : Method SourceType} {f : Fault}

/-- A method of a controller of the project. -/
def HasMethod (p : SourceProject) (m : Method SourceType) : Prop :=
  ∃ u ∈ p.units, ∃ c ∈ u.controllers, m ∈ c.methods

/-- A type that a method of a controller mentions. -/
def Mentions (p : SourceProject) (t : SourceType) : Prop := ∃ m, p.HasMethod m ∧ m.Mentions t

/-- A type that a method of a controller declares for a parameter or for what it gives back. -/
def Declares (p : SourceProject) (t : SourceType) : Prop :=
  ∃ m, p.HasMethod m ∧ (t = m.returns ∨ ∃ q ∈ m.parameters, t = q.type)

/-- What a fault of a project comes from. -/
inductive FaultOrigin (p : SourceProject) : Fault → Prop
  | classTag {u : SourceUnit SourceType} {c : ClassDeclaration SourceType} {f : Fault}
      (hu : u ∈ p.units) (hc : c ∈ u.classes) (h : c.tagFault = some f) : p.FaultOrigin f
  | methodTag {m : Method SourceType} {f : Fault} (hm : p.HasMethod m) (h : m.tagFault = some f) :
      p.FaultOrigin f
  | parameterTag {m : Method SourceType} {f : Fault} (hm : p.HasMethod m)
      (h : m.parameterFault = some f) : p.FaultOrigin f
  /-- A type has no source text. -/
  | unwrittenType {t : SourceType} {written : Expr} {f : Fault} (ht : p.Mentions t)
      (hwritten : t.expr = some written) (h : written.obstacle? = some f) : p.FaultOrigin f
  | bareWrapper {t : SourceType} (ht : p.Declares t) (h : t.IsBareWrapper) :
      p.FaultOrigin .noCarriedType
  /-- A type quotes a text with a null character or a surrogate. -/
  | quotedType {t : SourceType} {written : Expr} {f : Fault} (ht : p.Mentions t)
      (hwritten : t.expr = some written) (h : written.QuotesUnread f) : p.FaultOrigin f
  | quotedBase {c : SourceModule × ClassSource} {base : Expr} {f : Fault} (hc : p.Has c)
      (hbase : base ∈ c.2.bases) (h : base.QuotesUnread f) : p.FaultOrigin f
  | nullType {t : SourceType} {text : String} (ht : p.Mentions t) (htext : t.text = .ok text)
      (h : HoldsNull text) : p.FaultOrigin .nullCharacter
  | namelessValue {m : Method SourceType} {q : Parameter SourceType} (hm : p.HasMethod m)
      (hq : q ∈ m.parameters) (h : q.name = "") : p.FaultOrigin .emptyName

/-- A parameter of a method has its type from a module of the project. -/
theorem mem_modules_of_parameter (hm : p.HasMethod m) {q : Parameter SourceType}
    (hq : q ∈ m.parameters) : q.type.module ∈ p.modules ∧ q.type.project = some p := by
  obtain ⟨u, hu, c, hc, hm⟩ := hm
  obtain ⟨module, hmodule, rfl⟩ := List.mem_map.mp hu
  obtain ⟨source, -, rfl⟩ := List.mem_map.mp (List.mem_filter.mp hc).1
  obtain ⟨stmt, -, hstmt⟩ := List.mem_filterMap.mp hm
  unfold SourceModule.method? at hstmt
  split at hstmt <;> cases hstmt
  obtain ⟨param, -, rfl⟩ := List.mem_map.mp hq
  exact ⟨hmodule, rfl⟩

/-- A type that fails to give its text cannot be written or quotes a text that cannot be read. -/
theorem origin_of_typeText {t : SourceType} (ht : p.Mentions t)
    (h : (DeclaredType.typeText t).result = .error (.fault f)) : p.FaultOrigin f := by
  simp only [DeclaredType.typeText, Traced.bind_result, Traced.ofExcept_result] at h
  rcases bind_eq_error_iff.mp h with h | ⟨_, _, h⟩
  · obtain ⟨written, _, hwritten, hobstacle, he⟩ := SourceType.text_error h
    cases he
    exact .unwrittenType ht hwritten hobstacle
  rcases bind_eq_error_iff.mp h with h | ⟨_, _, h⟩
  · obtain ⟨written, _, hwritten, hunread, he⟩ := SourceType.imports_error h
    cases he
    exact .quotedType ht hwritten hunread
  · cases h

theorem origin_of_carried {t : SourceType} (ht : p.Declares t)
    (h : DeclaredType.carried t = .error (.fault f)) : p.FaultOrigin f := by
  change t.carried?.map (·.getD t) = .error (.fault f) at h
  obtain ⟨hbare, he⟩ := SourceType.carried?_error (map_eq_error_iff.mp h)
  cases he
  exact .bareWrapper ht hbare

theorem origin_of_field {q : Parameter SourceType} (hm : p.HasMethod m) (hq : q ∈ m.parameters)
    {name : String} (h : DeclaredType.field? q.type name = .error (.fault f)) :
    p.FaultOrigin f := by
  obtain ⟨hmodule, hproject⟩ := mem_modules_of_parameter hm hq
  obtain ⟨_, he, ⟨written, hwritten, hunread⟩ | ⟨c, hc, base, hbase, hunread⟩⟩ :=
    SourceType.field?_error p.Has
      (fun hclass => SourceType.has_of_classOf hmodule (hproject ▸ hclass))
      (fun hc hclass => SourceType.has_of_classOf hc.1 (hproject ▸ hclass)) h
  · cases he
    exact .quotedType ⟨m, hm, .parameter hq⟩ hwritten hunread
  · cases he
    exact .quotedBase hc hbase hunread

theorem origin_of_fails {u : SourceUnit SourceType} (hu : u ∈ p.units) (h : u.Fails (.fault f)) :
    p.FaultOrigin f := by
  cases h with
  | unreadTag hc h => exact .classTag hu hc h
  | method hc hm h =>
      have hm : p.HasMethod _ := ⟨u, hu, _, hc, hm⟩
      cases h with
      | unreadTag h => exact .methodTag hm h
      | unreadParameterTag h => exact .parameterTag hm h
      | text ht h => exact origin_of_typeText ⟨_, hm, ht⟩ h
      | field hq h => exact origin_of_field hm hq h
      | carried hq h => exact origin_of_carried ⟨_, hm, .inr ⟨_, hq, rfl⟩⟩ h
      | returned h => exact origin_of_carried ⟨_, hm, .inl rfl⟩ h

/-- What keeps a route from having a method comes from the method that the route is made from. -/
theorem origin_of_routeFault {r : Route} (hm : p.HasMethod m) (hr : m.Gives r)
    (h : Client.RouteFault r f) : p.FaultOrigin f := by
  cases h with
  | namelessValue hb hname =>
      obtain ⟨q, hq, hname⟩ := exists_parameter_of_nameless hr hb hname
      exact .namelessValue hm hq hname
  | nullType hty hnull =>
      obtain ⟨_, _, _, _, hroute⟩ := hr
      obtain ⟨t, ht, htext⟩ := mentionsText_of_route hroute _ hty
      simp only [DeclaredType.typeText, Traced.bind_result, Traced.ofExcept_result] at htext
      obtain ⟨text, hwritten, htext⟩ := bind_eq_ok_iff.mp htext
      obtain ⟨_, -, htext⟩ := bind_eq_ok_iff.mp htext
      cases htext
      exact .nullType ⟨m, hm, ht⟩ hwritten hnull

end SourceProject

/-! ### Faults of output -/

/-- The text that a module has before it is checked. -/
def OutputModule.code (o : OutputModule) : String :=
  renderStatements (documentation o.docstring ++ o.body)

theorem OutputModule.text_fault {o : OutputModule} {f : Fault}
    (hname : (Path.ofString o.path).fileName ≠ "") (h : o.text = .error (.fault f)) :
    HoldsNull o.path ∧ f = .nullInName ∨ HoldsNull o.code ∧ f = .nullCharacter := by
  unfold OutputModule.text at h
  simp only at h
  split at h
  · rename_i hnone
    simp [Path.withoutExtension?, hname] at hnone
  · rename_i name hsome
    unfold renderModule at h
    simp only at h
    split at h
    · rename_i hnull
      cases h
      exact .inl ⟨Path.mem_of_withoutExtension hsome (List.contains_iff_mem.mp hnull) (by decide)
        (by decide), rfl⟩
    · split at h <;> cases h
      rename_i hcompile
      exact .inr ⟨holdsNull_of_compile hcompile, rfl⟩

theorem holdsNull_of_fileName {m : SourceModule} (h : HoldsNull m.fileName) : HoldsNull m.path :=
  (Path.spells_ofString_iff (by decide) (by decide)).mp (Path.spells_of_fileName h)

/-- A base name has no characters that its file has not. -/
theorem holdsNull_of_baseFileName {s : RouteSettings} {name : String}
    (h : HoldsNull (s.baseFileName name)) : HoldsNull name := by
  unfold RouteSettings.baseFileName at h
  simp only at h
  split at h
  · have hspells := Path.spells_of_fileName (Path.mem_of_splitExtension h)
    exact (Path.spells_ofString_iff (by decide) (by decide)).mp hspells
  · unfold dropSuffix at h
    split at h
    · rw [HoldsNull, String.toList_ofList] at h
      exact List.mem_of_mem_take h
    · exact h

/-! ### Faults of runs -/

namespace ProjectSettings

variable {s : ProjectSettings} {p : SourceProject} {modules : List ClientModule} {f : Fault}

theorem origin_of_clientModules (h : (s.clientModules p).result = .error (.fault f)) :
    p.FaultOrigin f := by
  simp only [clientModules, Traced.bind_result, Traced.mapM_result] at h
  rcases bind_eq_error_iff.mp h with h | ⟨files, hfiles, h⟩
  · obtain ⟨u, hu, hfails | hclash⟩ := fails_of_routeFiles h
    · exact SourceProject.origin_of_fails hu hfails
    · cases hclash
  rcases bind_eq_error_iff.mp h with h | ⟨made, _, h⟩
  · obtain ⟨file, hfile, h⟩ := exists_of_mapM_eq_error h
    obtain ⟨u, hu, hroutes⟩ := exists_of_forall₂_of_mem (routeFiles_eq_ok hfiles) hfile
    obtain ⟨r, hr, hfault⟩ := Client.clientModule_fault h
    obtain ⟨c, hc, m, hm, hgives⟩ := gives_of_routeFile hroutes r hr
    exact SourceProject.origin_of_routeFault ⟨u, (List.mem_filter.mp hu).1, c, hc, hm⟩ hgives hfault
  · split at h <;> cases h

theorem outputModules_subset (s : ProjectSettings) (modules : List ClientModule) :
    s.outputModules modules ⊆ emitted modules := by
  refine List.append_subset.mpr ⟨List.subset_append_left _ _, ?_⟩
  split
  · exact List.subset_append_right _ _
  · exact List.nil_subset _

/-- What is put out has a file name, and its path has no null character but from the settings. -/
theorem path_of_mem_outputModules (hpaths : ∀ m ∈ p.modules, ¬ HoldsNull m.path)
    (hmodules : (s.clientModules p).result = .ok modules) {o : OutputModule}
    (ho : o ∈ s.outputModules modules) : (Path.ofString o.path).fileName ≠ "" ∧
      (HoldsNull o.path → HoldsNull s.apiName ∨ HoldsNull s.clientEnding) := by
  obtain ⟨m, hm, file, hpath, hending, hnull⟩ : ∃ m ∈ modules, ∃ file,
      o.path = ((Path.ofString m.apiName).join (Path.ofString file)).toString ∧
      'y' ∈ file.toList ∧ (HoldsNull file → HoldsNull m.moduleName) := by
    obtain ⟨m, hm, file, hfile, hpath⟩ := exists_of_mem_emitted (outputModules_subset s modules ho)
    refine ⟨m, hm, file, hpath, ?_⟩
    rcases hfile with rfl | rfl
    · simp [HoldsNull, String.toList_append]
    · exact ⟨by decide, fun h => absurd h (by decide)⟩
  constructor
  · rw [hpath]
    exact Path.fileName_ne_empty (Path.mem_join hending (by decide) (by decide)) (by decide)
      (by decide)
  · intro hholds
    rw [hpath] at hholds
    have hparts : HoldsNull m.apiName ∨ HoldsNull file :=
      Path.mem_of_mem_join hholds (by decide) (by decide)
    rcases hparts with hfolder | hfile
    · exact .inl ((clientModules_spec hmodules).apiName m hm ▸ hfolder)
    · obtain ⟨files, hfiles, hmade⟩ := clientModules_eq_ok hmodules
      obtain ⟨routes, hroutes, hmade⟩ := exists_of_forall₂_of_mem hmade hm
      obtain ⟨u, hu, hroutes⟩ := exists_of_forall₂_of_mem (routeFiles_eq_ok hfiles) hroutes
      obtain ⟨module, hmodule, rfl⟩ := List.mem_map.mp (List.mem_filter.mp hu).1
      obtain ⟨_, -, rfl⟩ := Client.clientModule_shape hmade
      have hmodule' : HoldsNull (routes.baseFileName ++ s.clientEnding) := hnull hfile
      rw [HoldsNull, String.toList_append, List.mem_append, (routeFile_eq_ok hroutes).1]
        at hmodule'
      rcases hmodule' with hbase | hending
      · have hname : HoldsNull module.fileName := holdsNull_of_baseFileName hbase
        exact absurd (holdsNull_of_fileName hname) (hpaths module hmodule)
      · exact .inr hending

/-- What a fault of a run over source texts comes from. -/
inductive FaultOrigin (s : ProjectSettings) (sources : List (String × String)) : Fault → Prop
  | nullPath {source : String × String} (hsource : source ∈ sources) (h : HoldsNull source.1) :
      s.FaultOrigin sources .nullInName
  | nullSource {source : String × String} (hsource : source ∈ sources) (h : HoldsNull source.2) :
      s.FaultOrigin sources .nullCharacter
  | project {p : SourceProject} {f : Fault}
      (hp : SourceProject.ofSources sources s.package = .ok p) (h : p.FaultOrigin f) :
      s.FaultOrigin sources f
  | nullSetting (h : HoldsNull s.apiName ∨ HoldsNull s.clientEnding) :
      s.FaultOrigin sources .nullInName
  | nullCode {p : SourceProject} {modules : List ClientModule} {o : OutputModule}
      (hp : SourceProject.ofSources sources s.package = .ok p)
      (hmodules : (s.clientModules p).result = .ok modules) (ho : o ∈ s.outputModules modules)
      (h : HoldsNull o.code) : s.FaultOrigin sources .nullCharacter

/-- The run over source texts that keeps what it makes. -/
def collect (s : ProjectSettings) (sources : List (String × String)) (state : Collected) :
    Except Failure (List String) :=
  (s.generate collecting state
    (Traced.ofExcept (SourceProject.ofSources sources s.package))).1.result

variable {sources : List (String × String)}

theorem origin_of_ofSources (hpaths : ∀ source ∈ sources, sourceEnding <:+ source.1.toList)
    (h : SourceProject.ofSources sources s.package = .error (.fault f)) :
    s.FaultOrigin sources f := by
  rw [SourceProject.ofSources_eq, map_eq_error_iff] at h
  obtain ⟨source, hsource, hread⟩ := exists_of_mapM_eq_error h
  have hsource := List.mem_mergeSort.mp hsource
  rcases SourceModule.read_fault (hpaths source hsource) hread with ⟨hnull, rfl⟩ | ⟨hnull, rfl⟩
  · exact .nullPath hsource hnull
  · exact .nullSource hsource hnull

theorem not_holdsNull_of_ofSources (h : SourceProject.ofSources sources s.package = .ok p) :
    ∀ m ∈ p.modules, ¬ HoldsNull m.path := by
  intro m hm
  obtain ⟨source, -, hread⟩ := SourceProject.exists_readText_of_mem h hm
  exact SourceModule.not_holdsNull_path hread

/-- A run over source files has a result, or an error that it reports, or it ends with a fault that
comes from a tag or a type that cannot be written, from an asynchronous wrapper without arguments,
from a value without a name, from a quoted surrogate, or from a null character. -/
theorem origin_of_collect (s : ProjectSettings) {sources : List (String × String)}
    (hpaths : ∀ source ∈ sources, sourceEnding <:+ source.1.toList) (state : Collected) :
    (∃ texts, s.collect sources state = .ok texts) ∨
      (∃ e, s.collect sources state = .error (.reported e)) ∨
      ∃ f, s.FaultOrigin sources f ∧ s.collect sources state = .error (.fault f) := by
  cases hrun : s.collect sources state with
  | ok texts => exact .inl ⟨texts, rfl⟩
  | error e =>
      cases e with
      | reported e => exact .inr (.inl ⟨e, rfl⟩)
      | fault f =>
          refine .inr (.inr ⟨f, ?_, rfl⟩)
          rcases generate_eq_error hrun with h | ⟨modules, done, o, rest, _, h, hall, _, hput, _⟩
          · rw [Traced.bind_result] at h
            rcases bind_eq_error_iff.mp h with h | ⟨p, hp, h⟩
            · exact origin_of_ofSources hpaths h
            · exact .project hp (origin_of_clientModules h)
          · rw [Traced.bind_result] at h
            obtain ⟨p, hp, hmodules⟩ := bind_eq_ok_iff.mp h
            have ho : o ∈ s.outputModules modules := hall ▸ by simp
            obtain ⟨hname, hsettings⟩ :=
              path_of_mem_outputModules (not_holdsNull_of_ofSources hp) hmodules ho
            cases htext : o.text with
            | ok text =>
                rw [(put_collecting_of_ok _ htext).1] at hput
                cases hput
            | error e =>
                rw [(put_collecting_of_error _ htext).1] at hput
                cases hput
                rcases OutputModule.text_fault hname htext with ⟨hnull, rfl⟩ | ⟨hnull, rfl⟩
                · exact .nullSetting (hsettings hnull)
                · exact .nullCode hp hmodules ho hnull

/-! ### A wrapper without arguments -/

/-- A controller with a method whose answer is to wait for nothing at all. -/
def waitingFile : String × String :=
  ("books.py",
    "@Controller('/books')\nclass Books:\n    @Get\n    def find(self) -> Awaitable[()]: ...\n")

def waitingSettings : ProjectSettings := { source := "src", output := "client" }

theorem collect_waiting :
    waitingSettings.collect [waitingFile] [] = .error (.fault .noCarriedType) := by
  have hsources : SourceProject.ofSources [waitingFile] waitingSettings.package =
      ([waitingFile].mapM (SourceProject.readText none)).map SourceProject.mk := by
    rw [SourceProject.ofSources_eq, List.mergeSort_singleton]
    rfl
  rw [collect, hsources]
  decide +kernel

theorem origin_of_collect_waiting : ∃ f, waitingSettings.FaultOrigin [waitingFile] f ∧
    waitingSettings.collect [waitingFile] [] = .error (.fault f) := by
  have hpaths : ∀ source ∈ [waitingFile], sourceEnding <:+ source.1.toList := by decide
  rcases origin_of_collect waitingSettings hpaths [] with ⟨_, hrun⟩ | ⟨_, hrun⟩ | h
  · cases collect_waiting.symm.trans hrun
  · cases collect_waiting.symm.trans hrun
  · exact h

/-- Not every failure of a run over source files is reported. -/
theorem not_reported_of_collect : ¬ ∀ (s : ProjectSettings) (sources : List (String × String)),
    (∀ source ∈ sources, sourceEnding <:+ source.1.toList) → ∀ state e,
      s.collect sources state = .error e → ∃ reported, e = .reported reported := by
  intro hreported
  obtain ⟨_, he⟩ := hreported waitingSettings [waitingFile] (by decide) [] _ collect_waiting
  cases he

end ProjectSettings

end TypedClients
