import TypedClients.Client
import TypedClients.Proofs.ControllerRoutes
import TypedClients.Proofs.MethodShape

/-!
# Where the types of routes come from

Every type of a route is the text of a type that its method mentions: that of a parameter or of a
field of one, what a parameter carries, or what the method gives back.
-/
namespace TypedClients

variable {τ : Type} [DeclaredType τ]

/-! ### What a method declares -/

/-- The types that a method declares for the values of a route: those that its parameters bind the
values of the path to, the one that the body carries, and the one of the query. -/
structure Method.Declares (m : Method τ) (r : Route) (types : Client.RouteParts τ) : Prop where
  path : List.Forall₂ (fun b t => (boundType? b.name m.parameters).result = .ok (some t))
    r.pathParameters types.path
  body : List.Forall₂ (fun p t => DeclaredType.carried p.type = .ok t)
    (m.parameter? .body).toList types.body.toList
  query : types.query = (m.parameter? .queryParams).map (·.type)

/-- A text is that of a type. -/
def IsTextOf (t : τ) (ty : TypeText) : Prop := (DeclaredType.typeText t).result = .ok ty

/-! ### Segments -/

/-- A method binds a parameter of a path to a type, which has a text. -/
def Method.Binds (m : Method τ) (name : String) (type : TypeText) : Prop :=
  ∃ t, (boundType? name m.parameters).result = .ok (some t) ∧ IsTextOf t type

/-- The segment for what a part reads as: a parameter gets the type that it is bound to. -/
inductive Method.Fills (m : Method τ) : PathPart → PathSegment → Prop
  | literal {text : String} : m.Fills (.literal text) (.literal text)
  | parameter {name ending : String} {type : TypeText} (hbinds : m.Binds name type) :
      m.Fills (.parameter name ending) (.parameter name type ending)

/-- The segments for parts are those that fill them, one for each part. -/
theorem bindSegments_eq_ok_iff {m : Method τ} {className : Option String} {parts : List PathPart}
    {segments : List PathSegment} : (m.bindSegments className parts).result = .ok segments ↔
      List.Forall₂ m.Fills parts segments := by
  induction parts generalizing segments with
  | nil =>
      rw [List.forall₂_nil_left_iff]
      exact ⟨fun h => (Except.ok.inj h).symm, fun h => congrArg Except.ok h.symm⟩
  | cons part parts ih =>
      cases part with
      | literal text =>
          simp only [Method.bindSegments, Traced.bind_result, bind_eq_ok_iff, ih]
          constructor
          · rintro ⟨rest, hrest, h⟩
            cases h
            exact .cons .literal hrest
          · intro h
            cases h with
            | cons hfills hrest =>
                cases hfills
                exact ⟨_, hrest, rfl⟩
      | parameter name ending =>
          simp only [Method.bindSegments, Traced.bind_result, bind_eq_ok_iff]
          constructor
          · rintro ⟨type?, htype, h⟩
            cases type? with
            | none => cases h
            | some t =>
                simp only [Traced.bind_result] at h
                obtain ⟨type, htext, h⟩ := bind_eq_ok_iff.mp h
                obtain ⟨rest, hrest, h⟩ := bind_eq_ok_iff.mp h
                cases h
                exact .cons (.parameter ⟨t, htype, htext⟩) (ih.mp hrest)
          · intro h
            cases h with
            | cons hfills hrest =>
                cases hfills with
                | parameter hbinds =>
                    obtain ⟨t, htype, htext⟩ := hbinds
                    refine ⟨some t, htype, ?_⟩
                    simp only [Traced.bind_result]
                    exact bind_eq_ok_iff.mpr ⟨_, htext, bind_eq_ok_iff.mpr ⟨_, ih.mpr hrest, rfl⟩⟩

/-! ### What the parts of a route declare -/

theorem declares_of_fills {m : Method τ} {parts : List PathPart} {segments : List PathSegment}
    (h : List.Forall₂ m.Fills parts segments) :
    ∃ types : List τ,
      List.Forall₂ (fun b t => (boundType? b.name m.parameters).result = .ok (some t))
        (segments.filterMap PathSegment.binding?) types ∧
      List.Forall₂ (fun b t => IsTextOf t b.type) (segments.filterMap PathSegment.binding?) types := by
  induction h with
  | nil => exact ⟨[], .nil, .nil⟩
  | cons hfills _ ih =>
      obtain ⟨types, hbound, htexts⟩ := ih
      cases hfills with
      | literal => exact ⟨types, hbound, htexts⟩
      | parameter hbinds =>
          obtain ⟨type, htype, htext⟩ := hbinds
          exact ⟨type :: types, .cons htype hbound, .cons htext htexts⟩

theorem declares_of_body {m : Method τ} {body : Option Binding} (h : m.body.result = .ok body) :
    ∃ type : Option τ,
      List.Forall₂ (fun p t => DeclaredType.carried p.type = .ok t)
        (m.parameter? .body).toList type.toList ∧
      List.Forall₂ (fun b t => IsTextOf t b.type) body.toList type.toList := by
  unfold Method.body at h
  split at h
  · rename_i hnone
    cases h
    exact ⟨none, by simp [hnone], .nil⟩
  · rename_i p hp
    simp only [Traced.bind_result, Traced.ofExcept_result] at h
    obtain ⟨t, ht, h⟩ := bind_eq_ok_iff.mp h
    obtain ⟨text, htext, h⟩ := bind_eq_ok_iff.mp h
    cases h
    exact ⟨some t, by simpa [hp] using ht, .cons htext .nil⟩

theorem declares_of_query {m : Method τ} {query : Option Binding} (h : m.query.result = .ok query) :
    ∃ type : Option τ, type = (m.parameter? .queryParams).map (·.type) ∧
      List.Forall₂ (fun b t => IsTextOf t b.type) query.toList type.toList := by
  unfold Method.query at h
  split at h
  · rename_i hnone
    cases h
    exact ⟨none, by simp [hnone], .nil⟩
  · rename_i p hp
    rw [Traced.bind_result] at h
    obtain ⟨text, htext, h⟩ := bind_eq_ok_iff.mp h
    cases h
    exact ⟨some p.type, by simp [hp], .cons htext .nil⟩

theorem declares_of_response {m : Method τ} {response : Option TypeText}
    (h : m.response.result = .ok response) :
    ∃ returned, DeclaredType.carried m.returns = .ok returned ∧
      (DeclaredType.isVoid returned = true ∧ response = none ∨
        ∃ ty, response = some ty ∧ IsTextOf returned ty) := by
  simp only [Method.response, Traced.bind_result, Traced.ofExcept_result] at h
  obtain ⟨t, ht, h⟩ := bind_eq_ok_iff.mp h
  refine ⟨t, ht, ?_⟩
  split at h
  · rename_i hvoid
    cases h
    exact .inl ⟨hvoid, rfl⟩
  · rw [Traced.bind_result] at h
    obtain ⟨text, htext, h⟩ := bind_eq_ok_iff.mp h
    cases h
    exact .inr ⟨text, rfl, htext⟩

/-- What a route says of the types that its method declares. -/
theorem declares_of_route {m : Method τ} {basePath : String} {tag : Tag} {verb : Verb}
    {className : Option String} {r : Route}
    (h : (m.route basePath tag verb className).result = .ok r) :
    ∃ types returned, m.Declares r types ∧
      List.Forall₂ (fun b t => IsTextOf t b.type) r.bindings types.all ∧
      DeclaredType.carried m.returns = .ok returned ∧
      (DeclaredType.isVoid returned = true ∧ r.response = none ∨
        ∃ ty, r.response = some ty ∧ IsTextOf returned ty) := by
  obtain ⟨⟨path, hmatches⟩, -⟩ := route_eq_ok h
  obtain ⟨pathTypes, hbound, hpathTexts⟩ :=
    declares_of_fills (bindSegments_eq_ok_iff.mp hmatches.segments)
  obtain ⟨bodyType, hcarried, hbodyText⟩ := declares_of_body hmatches.body
  obtain ⟨queryType, hqueryType, hqueryText⟩ := declares_of_query hmatches.query
  obtain ⟨returned, hreturned, hresponse⟩ := declares_of_response hmatches.response
  refine ⟨⟨pathTypes, bodyType, queryType⟩, returned, ⟨hbound, hcarried, hqueryType⟩, ?_,
    hreturned, hresponse⟩
  exact List.rel_append (List.rel_append hpathTexts hbodyText) hqueryText

/-! ### What a method mentions -/

/-- The types that a method mentions. -/
inductive Method.Mentions (m : Method τ) : τ → Prop
  | parameter {p : Parameter τ} (hp : p ∈ m.parameters) : m.Mentions p.type
  | field {p : Parameter τ} (hp : p ∈ m.parameters) {name : String} {t : τ}
      (ht : DeclaredType.field? p.type name = .ok (some t)) : m.Mentions t
  | carried {p : Parameter τ} (hp : p ∈ m.parameters) {t : τ}
      (ht : DeclaredType.carried p.type = .ok t) : m.Mentions t
  | returned {t : τ} (ht : DeclaredType.carried m.returns = .ok t) : m.Mentions t

/-- The text of a type that a method mentions. -/
def Method.MentionsText (m : Method τ) (ty : TypeText) : Prop :=
  ∃ t, m.Mentions t ∧ (DeclaredType.typeText t).result = .ok ty

/-- The first of some parameters binds a name to its own type, or leaves it to its type to have a
field of that name, or leaves it to the parameters after it. -/
theorem boundType?_cases (name : String) (p : Parameter τ) (ps : List (Parameter τ)) :
    (boundType? name (p :: ps)).result = .ok (some p.type) ∨
      (boundType? name (p :: ps)).result = DeclaredType.field? p.type name ∨
      (boundType? name (p :: ps)).result = (boundType? name ps).result := by
  rw [boundType?]
  split
  · rename_i tag _
    obtain ⟨text, htext⟩ := tag.path_result
    rw [Traced.bind_result_of_ok _ htext]
    split
    · exact .inl rfl
    · exact .inr (.inr rfl)
  · split
    · rw [Traced.bind_result, Traced.ofExcept_result]
      rcases DeclaredType.field? p.type name with e | _ | type
      · exact .inr (.inl rfl)
      · exact .inr (.inr rfl)
      · exact .inr (.inl rfl)
    · exact .inr (.inr rfl)

theorem boundType?_eq_some {m : Method τ} {name : String} {ps : List (Parameter τ)} {t : τ}
    (hps : ps ⊆ m.parameters) (h : (boundType? name ps).result = .ok (some t)) :
    m.Mentions t := by
  induction ps with
  | nil => cases h
  | cons p ps ih =>
      have hp : p ∈ m.parameters := hps List.mem_cons_self
      rcases boundType?_cases name p ps with hown | hfield | hlater
      · cases hown.symm.trans h
        exact .parameter hp
      · exact .field hp (hfield.symm.trans h)
      · exact ih (List.subset_of_cons_subset hps) (hlater.symm.trans h)

/-- What a method declares for the values of a route, it mentions. -/
theorem mentions_of_declares {m : Method τ} {r : Route} {types : Client.RouteParts τ}
    (h : m.Declares r types) : ∀ t ∈ types.all, m.Mentions t := by
  simp only [Client.RouteParts.all, List.forall_mem_append]
  refine ⟨⟨fun t ht => ?_, fun t ht => ?_⟩, fun t ht => ?_⟩
  · obtain ⟨b, -, hbound⟩ := exists_of_forall₂_of_mem h.path ht
    exact boundType?_eq_some (List.Subset.refl _) hbound
  · obtain ⟨p, hp, hcarried⟩ := exists_of_forall₂_of_mem h.body ht
    exact .carried (List.mem_of_find?_eq_some (Option.mem_toList.mp hp)) hcarried
  · rw [h.query, Option.mem_toList, Option.map_eq_some_iff] at ht
    obtain ⟨p, hp, rfl⟩ := ht
    exact .parameter (List.mem_of_find?_eq_some hp)

/-- The types of a route are those that its method mentions. -/
theorem mentionsText_of_route {m : Method τ} {basePath : String} {tag : Tag} {verb : Verb}
    {className : Option String} {r : Route}
    (h : (m.route basePath tag verb className).result = .ok r) :
    ∀ ty ∈ Client.routeTypes r, m.MentionsText ty := by
  obtain ⟨types, returned, hdeclares, htexts, hreturned, hresponse⟩ := declares_of_route h
  simp only [Client.routeTypes, List.forall_mem_append, List.forall_mem_map]
  refine ⟨fun b hb => ?_, fun ty hty => ?_⟩
  · obtain ⟨t, ht, htext⟩ := exists_of_forall₂_of_mem htexts.flip hb
    exact ⟨t, mentions_of_declares hdeclares t ht, htext⟩
  · rcases hresponse with ⟨-, hnone⟩ | ⟨answer, hanswer, htext⟩
    · simp [hnone] at hty
    · obtain rfl : ty = answer := by simpa [hanswer] using hty
      exact ⟨returned, .returned hreturned, htext⟩

/-! ### Routes of files -/

/-- A route is that of a method. -/
def Method.Gives (m : Method τ) (r : Route) : Prop :=
  ∃ basePath tag verb className, (m.route basePath tag verb className).result = .ok r

theorem gives_of_methodRoutes {basePath className : String} {names : List String}
    {ms : List (Method τ)} {routes : List Route}
    (h : (methodRoutes basePath className names ms).result = .ok routes) :
    ∀ r ∈ routes, ∃ m ∈ ms, m.Gives r := by
  induction ms generalizing names routes with
  | nil => cases h; simp
  | cons m ms ih =>
      have hlater : ∀ {names routes}, (methodRoutes basePath className names ms).result = .ok routes →
          ∀ r ∈ routes, ∃ m' ∈ m :: ms, m'.Gives r := by
        intro names routes h r hr
        obtain ⟨m', hm', hr⟩ := ih h r hr
        exact ⟨m', List.mem_cons_of_mem m hm', hr⟩
      rw [methodRoutes, Traced.bind_result] at h
      obtain ⟨_, -, h⟩ := bind_eq_ok_iff.mp h
      split at h
      · exact hlater h
      · split at h
        · cases h
        · simp only [Traced.bind_result] at h
          obtain ⟨r, hr, h⟩ := bind_eq_ok_iff.mp h
          obtain ⟨rest, hrest, h⟩ := bind_eq_ok_iff.mp h
          cases h
          rw [List.forall_mem_cons]
          exact ⟨⟨m, List.mem_cons_self, _, _, _, _, hr⟩, hlater hrest⟩

theorem gives_of_routeClass {c : ClassDeclaration τ} {rc : RouteClass}
    (h : c.routeClass.result = .ok rc) : ∀ r ∈ rc.routes, ∃ m ∈ c.methods, m.Gives r := by
  obtain ⟨basePath, hresult⟩ := routeClass_result c
  rw [hresult, bind_eq_ok_iff] at h
  obtain ⟨routes, hroutes, h⟩ := h
  cases h
  exact gives_of_methodRoutes hroutes

variable {s : RouteSettings}

/-- Every route of a file is that of a method of some controller. -/
theorem gives_of_routeFile {u : SourceUnit τ} {file : RouteFile}
    (h : (s.routeFile u).result = .ok file) :
    ∀ r ∈ file.classes.flatMap (·.routes), ∃ c ∈ u.controllers, ∃ m ∈ c.methods, m.Gives r := by
  obtain ⟨-, hclasses, -⟩ := routeFile_eq_ok h
  intro r hr
  obtain ⟨rc, hrc, hr⟩ := List.mem_flatMap.mp hr
  obtain ⟨c, hc, hclass⟩ := exists_of_forall₂_of_mem hclasses hrc
  exact ⟨c, hc, gives_of_routeClass hclass r hr⟩

end TypedClients
