import TypedClients.Proofs.Evaluation
import TypedClients.Proofs.MethodShape

/-!
# What a client method asks for

Calling the method of a route asks the runtime for one thing: the route's URL with the given values
in it, its verb, and the body and the query where the route has them, on top of the options of the
caller. `callMethod_eq_request` says so for all values, unless one of them is to be bound to a
constant: such a method cannot be called.
-/
namespace TypedClients.Evaluation

open TypedClients.Code TypedClients.Client

variable {α : Type} [DecidableEq α]

/-! ### The request of a route -/

/-- The segments of a path with values in the place of its parameters, in order. -/
def filledSegments (rt : Runtime α) : List PathSegment → List (Value α) → List String
  | .literal text :: segments, values => text :: filledSegments rt segments values
  | .parameter _ _ ending :: segments, value :: values =>
      (rt.shown value ++ ending) :: filledSegments rt segments values
  | _, _ => []

/-- The URL of a route for values of its path. -/
def requestUrl (rt : Runtime α) (r : Route) (values : List (Value α)) : String :=
  "/".intercalate (filledSegments rt r.segments values)

/-- What is asked for under a key: the parts of the request by their keys, and what the options of
the caller have under any other key. -/
def requested (rt : Runtime α) (r : Route) (values : RouteParts (Value α)) (options : Mapping α)
    (key : Key α) : Option (Value α) :=
  if key = .text "url" then some (.text (requestUrl rt r values.path))
  else if key = .text "method" then some (.text r.verb.name)
  else if key = .text "body" then values.body.or (options.get? key)
  else if key = .text "query_params" then values.query.or (options.get? key)
  else options.get? key

/-- The mapping that a method builds: it starts from the options. -/
def requestMapping (rt : Runtime α) (r : Route) (values : RouteParts (Value α))
    (options : Mapping α) : Mapping α :=
  let m := Dictionary.insert (.text "url") (.text (requestUrl rt r values.path))
    (Mapping.update [] options)
  let m := m.insert (.text "method") (.text r.verb.name)
  let m := values.body.elim m (m.insert (.text "body"))
  values.query.elim m (m.insert (.text "query_params"))

theorem get?_requestMapping (rt : Runtime α) (r : Route) (values : RouteParts (Value α))
    (options : Mapping α) (key : Key α) :
    (requestMapping rt r values options).get? key = requested rt r values options key := by
  have hbase : (Mapping.update [] options).get? key = options.get? key := by
    rw [Mapping.get?_update, Dictionary.get?_nil, Option.or_none]
  rcases values with ⟨path, _ | body, _ | query⟩ <;>
    simp only [requestMapping, requested, Option.elim_none, Option.elim_some, Option.none_or,
      Option.some_or, Dictionary.get?_insert, hbase]
  all_goals
    by_cases hurl : key = .text "url"
    · simp [hurl]
    by_cases hmethod : key = .text "method"
    · simp [hmethod]
    simp only [hurl, hmethod, if_false]
  · simp
  · by_cases hbody : key = .text "body" <;> simp [hbody]
  · by_cases hbody : key = .text "body" <;> simp [hbody]
  · by_cases hbody : key = .text "body" <;> simp [hbody]

/-! ### The URL -/

/-- The text that a part of a URL stands for. -/
def partText (rt : Runtime α) (scope : Scope α) : UrlPart → String
  | .text s => s
  | .value name => rt.shown ((scope.find? name).getD .absent)

variable {rt : Runtime α} {scope : Scope α}

omit [DecidableEq α] in
theorem join_of_mapM_text? {parts : List UrlPart} {texts : List String}
    (h : parts.mapM UrlPart.text? = some texts) : parts.map (partText rt scope) = texts := by
  induction parts generalizing texts with
  | nil => cases h; rfl
  | cons part parts ih =>
      rw [List.mapM_cons] at h
      obtain ⟨s, hs, h⟩ := Option.bind_eq_some_iff.mp h
      obtain ⟨rest, hrest, h⟩ := Option.bind_eq_some_iff.mp h
      cases h
      cases part <;> cases hs
      simp [partText, ih hrest]

theorem evalPieces_parts {parts : List UrlPart}
    (h : ∀ name, UrlPart.value name ∈ parts → (scope.find? name).isSome) :
    evalPieces rt scope (parts.map UrlPart.piece) =
      pure (String.join (parts.map (partText rt scope))) := by
  induction parts with
  | nil => rfl
  | cons part parts ih =>
      have ih := ih fun name hname => h name (List.mem_cons_of_mem _ hname)
      cases part with
      | text s => simp [UrlPart.piece, evalPieces, ih, partText]
      | value name =>
          obtain ⟨v, hv⟩ := Option.isSome_iff_exists.mp (h name (by simp))
          simp [UrlPart.piece, evalPieces, eval_name hv, ih, partText, hv]

/-- Putting parts together gives their texts one after the other. -/
theorem eval_concatenation {parts : List UrlPart}
    (h : ∀ name, UrlPart.value name ∈ parts → (scope.find? name).isSome) :
    eval rt scope (concatenation parts) =
      pure (.text (String.join (parts.map (partText rt scope)))) := by
  unfold concatenation
  split
  · rename_i texts htexts
    rw [eval_string, join_of_mapM_text? htexts]
  · simp [eval, evalPieces_joinTexts, evalPieces_parts h]

theorem join_map_intercalate {β : Type} (f : β → String) (separator : β) (groups : List (List β)) :
    String.join (([separator].intercalate groups).map f) =
      (f separator).intercalate (groups.map fun g => String.join (g.map f)) := by
  induction groups with
  | nil => simp
  | cons g groups ih =>
      cases groups with
      | nil => simp
      | cons g' groups =>
          rw [List.intercalate_cons_cons]
          simp only [List.map_append, String.join_append, ih]
          simp [String.intercalate_cons_cons, String.append_assoc]

omit [DecidableEq α] in
/-- The names of a path's parameters stand where their values go. Further names are not used. -/
theorem partText_pathUrlParts {names more : List String} {values : List (Value α)}
    {segments : List PathSegment}
    (hbound : List.Forall₂ (fun name value => scope.find? name = some value) names values)
    (hlen : names.length = (segments.filterMap PathSegment.binding?).length) :
    ((pathUrlParts (names ++ more) segments).map fun g => String.join (g.map (partText rt scope))) =
      filledSegments rt segments values := by
  induction segments generalizing names values with
  | nil => cases hbound <;> cases more <;> simp_all [pathUrlParts, filledSegments]
  | cons segment segments ih =>
      cases segment with
      | literal s =>
          simp only [List.filterMap_cons, PathSegment.binding?] at hlen
          simp [pathUrlParts, filledSegments, partText, ih hbound hlen]
      | parameter name type ending =>
          cases hbound with
          | nil => simp [PathSegment.binding?] at hlen
          | cons hname hbound =>
              simp only [List.filterMap_cons, PathSegment.binding?, List.length_cons,
                Nat.add_right_cancel_iff] at hlen
              simp [pathUrlParts, filledSegments, partText, hname, ih hbound hlen]

theorem mem_of_value_mem_pathUrlParts {name : String} {names : List String}
    {segments : List PathSegment} {group : List UrlPart} (hgroup : group ∈ pathUrlParts names segments)
    (hname : UrlPart.value name ∈ group) : name ∈ names := by
  induction names, segments using pathUrlParts.induct with
  | case1 names s segments ih =>
      rcases List.mem_cons.mp hgroup with rfl | hgroup
      · simp at hname
      · exact ih hgroup
  | case2 n names _ type ending segments ih =>
      rcases List.mem_cons.mp hgroup with rfl | hgroup
      · simp_all
      · exact List.mem_cons_of_mem _ (ih hgroup)
  | case3 => simp_all [pathUrlParts]

theorem mem_of_mem_intercalate {β : Type} {x separator : β} {groups : List (List β)}
    (h : x ∈ [separator].intercalate groups) : x = separator ∨ ∃ g ∈ groups, x ∈ g := by
  induction groups with
  | nil => simp at h
  | cons g groups ih =>
      cases groups with
      | nil => exact .inr ⟨g, by simp, by simpa using h⟩
      | cons g' groups =>
          simp only [List.intercalate_cons_cons, List.mem_append, List.mem_singleton] at h
          rcases h with (h | h) | h
          · exact .inr ⟨g, by simp, h⟩
          · exact .inl h
          · rcases ih h with h | ⟨g, hg, hx⟩
            · exact .inl h
            · exact .inr ⟨g, List.mem_cons_of_mem _ hg, hx⟩

/-- The URL of a method is that of its route for the values that its names are bound to. -/
theorem eval_url {r : Route} {names : RouteParts String} {values : List (Value α)}
    (hnames : names.Fits r) (hbound : ∀ name ∈ names.all, (scope.find? name).isSome)
    (hvalues : List.Forall₂ (fun name value => scope.find? name = some value) names.path values) :
    eval rt scope (url names.all r.segments) = pure (.text (requestUrl rt r values)) := by
  have hparts : ∀ name, UrlPart.value name ∈
      [UrlPart.text "/"].intercalate (pathUrlParts names.all r.segments) →
        (scope.find? name).isSome := by
    intro name hname
    rcases mem_of_mem_intercalate hname with h | ⟨group, hgroup, h⟩
    · cases h
    · exact hbound name (mem_of_value_mem_pathUrlParts hgroup h)
  have hall : names.all = names.path ++ (names.body.toList ++ names.query.toList) := by
    rw [RouteParts.all, List.append_assoc]
  rw [url, eval_concatenation hparts, join_map_intercalate, hall,
    partText_pathUrlParts hvalues hnames.path]
  rfl

/-! ### The request -/

theorem evalEntries_cons {key : String} {e : Expr} {value : Value α}
    (h : eval rt scope e = pure value) (m : Mapping α) (entries : List (Entry Expr)) :
    evalEntries rt scope m (⟨some (Expr.string key), e⟩ :: entries) =
      evalEntries rt scope (m.insert (.text key) value) entries := by
  simp [evalEntries, h, Value.key?]

/-- An entry that is there only for a route with such a value. -/
theorem evalEntries_optional {name : Option String} {value : Option (Value α)}
    (h : List.Forall₂ (fun name value => scope.find? name = some value) name.toList value.toList)
    (key : String) (m : Mapping α) (entries : List (Entry Expr)) :
    evalEntries rt scope m
        (name.toList.map (fun n => ⟨some (Expr.string key), .name n⟩) ++ entries) =
      evalEntries rt scope (value.elim m (m.insert (.text key))) entries := by
  rcases name with _ | name <;> rcases value with _ | value
  · rfl
  · cases h
  · cases h
  · cases h with
    | cons hname _ => exact evalEntries_cons (eval_name hname) m entries

/-- The argument of a method's request is the options with the parts of the request on top. -/
theorem eval_requestExpr {r : Route} {names : RouteParts String} {values : RouteParts (Value α)}
    {options : Mapping α} (hoptions : scope.find? optionsName = some (.mapping options))
    (hurl : scope.find? urlName = some (.text (requestUrl rt r values.path)))
    (hvalues : names.Related (fun name value => scope.find? name = some value) values) :
    eval rt scope (requestExpr r.verb names) =
      pure (.mapping (requestMapping rt r values options)) := by
  have hentries : requestExpr r.verb names = .dict (⟨none, .name optionsName⟩ ::
      ⟨some (Expr.string "url"), .name urlName⟩ ::
      ⟨some (Expr.string "method"), Expr.string r.verb.name⟩ ::
      (names.body.toList.map (fun n => ⟨some (Expr.string "body"), .name n⟩) ++
        (names.query.toList.map (fun n => ⟨some (Expr.string "query_params"), .name n⟩) ++ []))) := by
    simp [requestExpr, overriding, requestEntries, Function.comp_def]
  rw [hentries, eval, evalEntries, eval_name hoptions]
  simp only [pure_bind]
  rw [evalEntries_cons (eval_name hurl), evalEntries_cons (eval_string _),
    evalEntries_optional hvalues.body, evalEntries_optional hvalues.query, evalEntries, pure_bind]
  rfl

/-! ### The call -/

/-- The names of a method's parameters: no two are the same, and none is that of the URL or of the
function of the runtime. -/
theorem parameterNames_nodup {names : List String} (hnodup : names.Nodup)
    (hfree : ∀ name ∈ names, name ∉ takenNames) : (selfName :: (names ++ [optionsName])).Nodup := by
  have hself : selfName ∉ names := fun h => hfree _ h (by decide)
  have hoptions : optionsName ∉ names := fun h => hfree _ h (by decide)
  have hne : selfName ≠ optionsName := by decide
  refine List.nodup_cons.mpr ⟨by simp [hself, hne], ?_⟩
  exact hnodup.append (List.nodup_singleton _) (by simpa using hoptions)

/-- The name that is made for a value of the route is a constant. -/
def BindsConstant (r : Route) : Prop :=
  ∃ b ∈ r.bindings, ∃ name ∈ constantNames, parameterName b.name = .ok name

/-- No constant is a name that a method uses itself. -/
theorem bindingName_eq_constant_iff {text name : String} (h : name ∈ constantNames) :
    bindingName text = .ok name ↔ parameterName text = .ok name := by
  have hfree : name ∉ takenNames := by
    revert name
    decide
  have hends : ∀ taken ∈ takenNames, taken ++ "_" ≠ name := by
    revert name
    decide
  rw [bindingName, bind_eq_ok_iff]
  constructor
  · rintro ⟨plain, hplain, hname⟩
    by_cases htaken : plain ∈ takenNames
    · rw [if_pos htaken] at hname
      exact absurd (Except.ok.inj hname) (hends plain htaken)
    · rw [if_neg htaken] at hname
      rwa [← Except.ok.inj hname]
  · exact fun hplain => ⟨name, hplain, by rw [if_neg hfree]; rfl⟩

/-- A method has a constant among its names exactly if its route binds one. -/
theorem exists_constant_iff {place : String} {r : Route} {names : List String}
    (h : bindingNames place [] r.bindings = .ok names) :
    (∃ name ∈ names, name ∈ constantNames) ↔ BindsConstant r := by
  have hall := (bindingNames_spec h).1
  constructor
  · rintro ⟨name, hname, hconstant⟩
    obtain ⟨b, hb, hbinding⟩ := exists_of_forall₂_of_mem hall hname
    exact ⟨b, hb, name, hconstant, (bindingName_eq_constant_iff hconstant).mp hbinding⟩
  · rintro ⟨b, hb, name, hconstant, hplain⟩
    obtain ⟨other, hother, hbinding⟩ := exists_of_forall₂_of_mem hall.flip hb
    rw [(bindingName_eq_constant_iff hconstant).mpr hplain] at hbinding
    exact ⟨name, Except.ok.inj hbinding ▸ hother, hconstant⟩

/-- The body of a method, where its names stand for the values of its route, asks for the route's
request and waits for the answer. -/
theorem run_methodBody {r : Route} {names : RouteParts String} {values : RouteParts (Value α)}
    {options : Mapping α} (hnames : names.Fits r) (hvalues : values.Fits r)
    (hfree : ∀ name ∈ names.all, name ∉ takenNames)
    (hurl : urlName ∈ scope.ownNames)
    (hrequest : scope.find? requestFunction = some .requestFunction)
    (hoptions : scope.find? optionsName = some (.mapping options))
    (hzip : ∀ name value, (name, value) ∈ names.all.zip values.all →
      scope.find? name = some value) :
    run rt scope (methodBody (url names.all r.segments) (requestExpr r.verb names)) =
      (request .requestFunction (.mapping (requestMapping rt r values options)) >>= wait rt) := by
  have hlen : names.all.length = values.all.length := by
    rw [hnames.length_all, hvalues.length_all]
  have hbound : ∀ name ∈ names.all, (scope.find? name).isSome := by
    intro name hname
    rw [← List.map_fst_zip (Nat.le_of_eq hlen)] at hname
    obtain ⟨⟨_, value⟩, hmem, rfl⟩ := List.mem_map.mp hname
    simp [hzip _ _ hmem]
  have hbefore := RouteParts.related_of_fits hnames hvalues hzip
  -- The URL gets a name that no value has.
  let after := scope.assign urlName (.text (requestUrl rt r values.path))
  have hkept : ∀ name, name ≠ urlName → after.find? name = scope.find? name :=
    fun name hne => find?_assign_of_ne scope _ hne
  have hafter := RouteParts.related_of_fits (R := fun name value => after.find? name = some value)
    hnames hvalues fun name value hmem => by
      have hne : name ≠ urlName := by
        rintro rfl
        exact hfree _ (List.of_mem_zip hmem).1 (by decide)
      rw [hkept name hne, hzip name value hmem]
  have hargument : eval rt after (requestExpr r.verb names) =
      pure (.mapping (requestMapping rt r values options)) :=
    eval_requestExpr (by rw [hkept _ (by decide), hoptions])
      (find?_assign_self _ (by decide) hurl) hafter
  have hcallee : eval rt after (.name requestFunction) = pure .requestFunction :=
    eval_name (by rw [hkept _ (by decide), hrequest])
  simp only [methodBody, run, eval_url hnames hbound hbefore.path, pure_bind]
  rw [if_neg (by decide), eval, eval, hcallee, pure_bind, hargument, pure_bind]

/-- Neither the instance nor the options have the name of a constant. -/
theorem forall_notMem_constantNames_iff {names : List String} :
    (∀ name ∈ selfName :: (names ++ [optionsName]), name ∉ constantNames) ↔
      ¬ ∃ name ∈ names, name ∈ constantNames := by
  have hself : selfName ∉ constantNames := by decide
  have hoptions : optionsName ∉ constantNames := by decide
  simp [or_imp, forall_and, hself, hoptions]

/-- Calling a method runs its body where no parameter is a constant, and is stuck otherwise. -/
theorem callMethod_asyncMethod (rt : Runtime α) (module : Dictionary String (Value α)) (name : String)
    {params : List (Param Expr)} {names : List String} {arguments : List (Value α)}
    (returns : Option Expr) (body : List Stmt) (hparams : params.map (·.name) = names)
    (hnodup : (selfName :: (names ++ [optionsName])).Nodup)
    (hlen : (selfName :: (names ++ [optionsName])).length = arguments.length) :
    callMethod rt module arguments (asyncMethod name (withOptions params) returns body) =
      if ∃ name ∈ names, name ∈ constantNames then throw .stuck
      else run rt (.ofCall (selfName :: (names ++ [optionsName])) arguments body module) body := by
  have hparameters : (({ name := selfName } :: withOptions params : List (Param Expr)).map
      (·.name)) = selfName :: (names ++ [optionsName]) := by
    simp [withOptions, hparams]
  rw [asyncMethod, callMethod]
  simp only [hparameters, hnodup, hlen, forall_notMem_constantNames_iff, true_and, and_true, ite_not]

theorem callMethod_of_bindsConstant {r : Route} {clientName : Option String} {f : Fragment}
    (h : method r clientName = .ok f) (hconstant : BindsConstant r) (rt : Runtime α)
    (module : Dictionary String (Value α)) {arguments : List (Value α)}
    (hlen : arguments.length = r.bindings.length + 2) :
    callMethod rt module arguments f.definition = throw .stuck := by
  obtain ⟨names, params, returns, hnames, hbinding, hparams, hdefinition, -⟩ := method_shape h
  have hnodup := parameterNames_nodup (bindingNames_nodup hbinding)
    (bindingNames_notMem_takenNames hbinding)
  have hlength : (selfName :: (names.all ++ [optionsName])).length = arguments.length := by
    simp [hlen, hnames.length_all]
  rw [hdefinition, callMethod_asyncMethod rt module _ _ _ hparams hnodup hlength,
    if_pos ((exists_constant_iff hbinding).mpr hconstant)]

/-- Calling the method of a route asks the runtime for one thing and gives back its answer, unless
its parameters have a constant among their names. Then the method cannot be called, and nothing is
asked for. -/
theorem callMethod_eq_request {r : Route} {clientName : Option String} {f : Fragment}
    (h : method r clientName = .ok f) (rt : Runtime α) (module : Dictionary String (Value α))
    (hmodule : module.get? requestFunction = some .requestFunction) (self : Value α)
    (values : RouteParts (Value α)) (hvalues : values.Fits r) (options : Mapping α)
    (earlier : List (Value α)) :
    (¬ BindsConstant r → ∃ argument : Mapping α,
      (∀ key, argument.get? key = requested rt r values options key) ∧
      (callMethod rt module (self :: (values.all ++ [.mapping options])) f.definition).run.run
          earlier =
        ((rt.answer (.mapping argument)).mapError .raised, earlier ++ [.mapping argument])) ∧
    (BindsConstant r →
      (callMethod rt module (self :: (values.all ++ [.mapping options])) f.definition).run.run
          earlier = (.error .stuck, earlier)) := by
  refine ⟨fun hconstant => ?_, fun hconstant => ?_⟩
  · obtain ⟨names, params, returns, hnames, hbinding, hparams, hdefinition, -⟩ := method_shape h
    have hfree := bindingNames_notMem_takenNames hbinding
    have hnodup := parameterNames_nodup (bindingNames_nodup hbinding) hfree
    have hlen : names.all.length = values.all.length := by
      rw [hnames.length_all, hvalues.length_all]
    let bound := selfName :: (names.all ++ [optionsName])
    let arguments := self :: (values.all ++ [.mapping options])
    let body := methodBody (url names.all r.segments) (requestExpr r.verb names)
    let scope := Scope.ofCall bound arguments body module
    have hlength : bound.length = arguments.length := by simp [bound, arguments, hlen]
    have hvariable : ¬ ∃ name ∈ names.all, name ∈ constantNames :=
      fun hmem => hconstant ((exists_constant_iff hbinding).mp hmem)
    have hcall : callMethod rt module arguments f.definition = run rt scope body := by
      rw [hdefinition, callMethod_asyncMethod rt module _ _ _ hparams hnodup hlength, if_neg hvariable]
    have hzip : bound.zip arguments =
        (selfName, self) :: (names.all.zip values.all ++ [(optionsName, .mapping options)]) := by
      simp [bound, arguments, List.zip_append hlen]
    have hfind : ∀ name value, (name, value) ∈ bound.zip arguments →
        scope.find? name = some value :=
      fun name value hmem => find?_ofCall body module hnodup
        (forall_notMem_constantNames_iff.mpr hvariable) hlength hmem
    have hown : scope.ownNames = bound ++ [urlName] := rfl
    have hrequest : requestFunction ∉ scope.ownNames := by
      have hnot : requestFunction ∉ names.all := fun hmem => hfree _ hmem (by decide)
      simp only [hown, bound, List.cons_append, List.append_assoc, List.mem_cons, List.mem_append,
        hnot, false_or]
      decide
    have hrun : run rt scope body =
        (request .requestFunction (.mapping (requestMapping rt r values options)) >>= wait rt) :=
      run_methodBody hnames hvalues hfree (by simp [hown])
        (by rw [find?_eq_of_notMem (by decide), if_neg hrequest]; exact hmodule)
        (hfind _ _ (by simp [hzip])) fun name value hmem => hfind _ _ (by simp [hzip, hmem])
    refine ⟨requestMapping rt r values options, get?_requestMapping rt r values options, ?_⟩
    rw [hcall, hrun, run_request_wait]
  · rw [callMethod_of_bindsConstant h hconstant rt module (by simp [hvalues.length_all])]
    rfl

/-- A route with a value in every part of its request. Its names are taken or reserved words. -/
def updateRoute : Route :=
  { name := "update"
    segments := [.literal "", .literal "users", .parameter "url" ⟨"int", []⟩ ".json"]
    verb := .patch
    body := some ⟨"class", ⟨"User | None", []⟩⟩
    query := some ⟨"request", ⟨"dict[str, int]", []⟩⟩ }

/-- A runtime that shows values as they are and answers with what it is asked for. -/
def echo : Runtime String where
  shown
    | .text s | .foreign s => s
    | .boolean b => if b then "True" else "False"
    | _ => ""
  answer argument := .ok argument

theorem callMethod_eq_request_updateRoute :
    ∃ (f : Fragment) (argument : Mapping String), method updateRoute (some "UsersClient") = .ok f ∧
      argument.get? (.text "url") = some (.text "/users/7.json") ∧
      argument.get? (.text "method") = some (.text "PATCH") ∧
      argument.get? (.text "body") = some (.foreign "new") ∧
      argument.get? (.text "timeout") = some (.foreign "3 s") ∧
      (callMethod echo [("request", .requestFunction)]
          [.absent, .foreign "7", .foreign "new", .foreign "full",
            .mapping [(.text "body", .absent), (.text "timeout", .foreign "3 s")]]
          f.definition).run.run [] = (.ok (.mapping argument), [.mapping argument]) := by
  obtain ⟨f, hf⟩ : ∃ f, method updateRoute (some "UsersClient") = .ok f :=
    exists_eq_ok_of_isOk (by decide +kernel)
  have hvariable : ¬ BindsConstant updateRoute := by
    rw [BindsConstant]
    decide +kernel
  obtain ⟨argument, hkeys, hcall⟩ := (callMethod_eq_request hf echo [("request", .requestFunction)]
    rfl .absent ⟨[.foreign "7"], some (.foreign "new"), some (.foreign "full")⟩ ⟨rfl, rfl, rfl⟩
    [(.text "body", .absent), (.text "timeout", .foreign "3 s")] []).1 hvariable
  refine ⟨f, argument, hf, ?_, ?_, ?_, ?_, hcall⟩ <;> rw [hkeys] <;> rfl

/-- A route whose body has the name of a constant once a mark is removed from it. -/
def createRoute : Route :=
  { name := "create", segments := [.literal "", .literal "books"], verb := .post
    body := some ⟨"None!", ⟨"Book", []⟩⟩ }

theorem not_callMethod_eq_request :
    ∃ f, method createRoute none = .ok f ∧
      (callMethod echo [("request", .requestFunction)] [.absent, .foreign "new", .mapping []]
          f.definition).run.run [] = (.error .stuck, []) := by
  obtain ⟨f, hf⟩ : ∃ f, method createRoute none = .ok f := exists_eq_ok_of_isOk (by decide +kernel)
  have hconstant : BindsConstant createRoute :=
    ⟨⟨"None!", ⟨"Book", []⟩⟩, by decide, "None", by decide, by decide⟩
  refine ⟨f, hf, ?_⟩
  rw [callMethod_of_bindsConstant hf hconstant echo _ rfl]
  rfl

end TypedClients.Evaluation
