import TypedClients.Proofs.RouteOrigins

/-!
# Failures of routing

Routing fails for a tag that cannot be read, for a type that cannot answer what a method asks of it,
for a parameter of a path that nothing binds, and for a name that is given twice. Each failure of a
run is traced to the declaration that it comes from.
-/
namespace TypedClients

open TypedClients.Text

section

variable {τ : Type} [DeclaredType τ]

/-! ### Where failures come from -/

/-- The failures of the route of a method. -/
inductive Method.Fails (m : Method τ) : Failure → Prop
  | unreadTag {f : Fault} (h : m.tagFault = some f) : m.Fails (.fault f)
  | unreadParameterTag {f : Fault} (h : m.parameterFault = some f) : m.Fails (.fault f)
  | unbound (route parameter : String) (className : Option String) :
      m.Fails (.reported (.unboundParameter route parameter className))
  | text {t : τ} {e : Failure} (ht : m.Mentions t)
      (h : (DeclaredType.typeText t).result = .error e) : m.Fails e
  | field {p : Parameter τ} {name : String} {e : Failure} (hp : p ∈ m.parameters)
      (h : DeclaredType.field? p.type name = .error e) : m.Fails e
  | carried {p : Parameter τ} {e : Failure} (hp : p ∈ m.parameters)
      (h : DeclaredType.carried p.type = .error e) : m.Fails e
  | returned {e : Failure} (h : DeclaredType.carried m.returns = .error e) : m.Fails e

/-- The failures of a unit that no name given twice explains. -/
inductive SourceUnit.Fails (u : SourceUnit τ) : Failure → Prop
  | unreadTag {c : ClassDeclaration τ} {f : Fault} (hc : c ∈ u.classes)
      (h : c.tagFault = some f) : u.Fails (.fault f)
  | method {c : ClassDeclaration τ} {m : Method τ} {e : Failure} (hc : c ∈ u.controllers)
      (hm : m ∈ c.methods) (h : m.Fails e) : u.Fails e

/-! ### Routes -/

variable {m : Method τ} {e : Failure}

theorem boundType?_error {name : String} {ps : List (Parameter τ)}
    (h : (boundType? name ps).result = .error e) :
    ∃ p ∈ ps, DeclaredType.field? p.type name = .error e := by
  induction ps with
  | nil => cases h
  | cons p ps ih =>
      rcases boundType?_cases name p ps with hown | hfield | hlater
      · cases hown.symm.trans h
      · exact ⟨p, List.mem_cons_self, hfield.symm.trans h⟩
      · obtain ⟨q, hq, hfield⟩ := ih (hlater.symm.trans h)
        exact ⟨q, List.mem_cons_of_mem p hq, hfield⟩

theorem bindSegments_error {className : Option String} {parts : List PathPart}
    (h : (m.bindSegments className parts).result = .error e) : m.Fails e := by
  induction parts with
  | nil => cases h
  | cons part parts ih =>
      cases part with
      | literal text =>
          simp only [Method.bindSegments, Traced.bind_result] at h
          rcases bind_eq_error_iff.mp h with h | ⟨_, _, h⟩
          · exact ih h
          · cases h
      | parameter name ending =>
          simp only [Method.bindSegments, Traced.bind_result] at h
          rcases bind_eq_error_iff.mp h with h | ⟨type, htype, h⟩
          · obtain ⟨p, hp, hfield⟩ := boundType?_error h
            exact .field hp hfield
          · cases type with
            | none => cases h; exact .unbound _ _ _
            | some type =>
                have hmentions := boundType?_eq_some (List.Subset.refl m.parameters) htype
                simp only [Traced.bind_result] at h
                rcases bind_eq_error_iff.mp h with h | ⟨_, _, h⟩
                · exact .text hmentions h
                · rcases bind_eq_error_iff.mp h with h | ⟨_, _, h⟩
                  · exact ih h
                  · cases h

theorem body_error (h : m.body.result = .error e) : m.Fails e := by
  unfold Method.body at h
  split at h
  · cases h
  · rename_i p hp
    have hp : p ∈ m.parameters := List.mem_of_find?_eq_some hp
    simp only [Traced.bind_result, Traced.ofExcept_result] at h
    rcases bind_eq_error_iff.mp h with h | ⟨_, hcarried, h⟩
    · exact .carried hp h
    · rcases bind_eq_error_iff.mp h with h | ⟨_, _, h⟩
      · exact .text (.carried hp hcarried) h
      · cases h

theorem response_error (h : m.response.result = .error e) : m.Fails e := by
  simp only [Method.response, Traced.bind_result, Traced.ofExcept_result] at h
  rcases bind_eq_error_iff.mp h with h | ⟨type, htype, h⟩
  · exact .returned h
  · split at h
    · cases h
    · rw [Traced.bind_result] at h
      rcases bind_eq_error_iff.mp h with h | ⟨_, _, h⟩
      · exact .text (.returned htype) h
      · cases h

theorem query_error (h : m.query.result = .error e) : m.Fails e := by
  unfold Method.query at h
  split at h
  · cases h
  · rename_i p hp
    rw [Traced.bind_result] at h
    rcases bind_eq_error_iff.mp h with h | ⟨_, _, h⟩
    · exact .text (.parameter (List.mem_of_find?_eq_some hp)) h
    · cases h

theorem route_error {basePath : String} {tag : Tag} {verb : Verb} {className : Option String}
    (h : (m.route basePath tag verb className).result = .error e) : m.Fails e := by
  obtain ⟨text, htext⟩ := tag.path_result
  simp only [Method.route, Traced.bind_result, htext] at h
  rcases bind_eq_error_iff.mp h with h | ⟨_, _, h⟩
  · cases h
  rcases bind_eq_error_iff.mp h with h | ⟨_, _, h⟩
  · obtain ⟨f, hf, rfl⟩ := Traced.check_eq_error_iff.mp h
    exact .unreadParameterTag hf
  rcases bind_eq_error_iff.mp h with h | ⟨_, _, h⟩
  · exact bindSegments_error h
  rcases bind_eq_error_iff.mp h with h | ⟨_, _, h⟩
  · exact body_error h
  rcases bind_eq_error_iff.mp h with h | ⟨_, _, h⟩
  · exact response_error h
  rcases bind_eq_error_iff.mp h with h | ⟨_, _, h⟩
  · exact query_error h
  · cases h

/-- Methods fail as one of them does, or because two of those with a verb share a name. -/
theorem methodRoutes_error {basePath className : String} {names : List String}
    {ms : List (Method τ)} (h : (methodRoutes basePath className names ms).result = .error e) :
    (∃ m ∈ ms, m.Fails e) ∨
      ∃ name, e = .reported (.routing (.duplicateRoute name) (some className)) ∧
        2 ≤ (names ++ (routedMethods ms).map Prod.fst).count name := by
  induction ms generalizing names with
  | nil => cases h
  | cons m ms ih =>
      have hverb : (routeTag? m.tags).map Prod.snd = m.verb? := routeTag?_verb m.tags
      have hlater : (∃ m ∈ ms, m.Fails e) → ∃ m' ∈ m :: ms, m'.Fails e := by
        rintro ⟨m', hm', hfails⟩
        exact ⟨m', List.mem_cons_of_mem m hm', hfails⟩
      rw [methodRoutes, Traced.bind_result] at h
      rcases bind_eq_error_iff.mp h with h | ⟨_, _, h⟩
      · obtain ⟨f, hf, rfl⟩ := Traced.check_eq_error_iff.mp h
        exact .inl ⟨m, List.mem_cons_self, .unreadTag hf⟩
      rcases htag : routeTag? m.tags with _ | ⟨tag, verb⟩ <;> rw [htag] at h hverb
      · refine (ih h).imp hlater ?_
        rintro ⟨name, he, hcount⟩
        exact ⟨name, he, by simpa [routedMethods, ← hverb] using hcount⟩
      · have hrouted : (routedMethods (m :: ms)).map Prod.fst =
            m.name :: (routedMethods ms).map Prod.fst := by
          simp [routedMethods, ← hverb]
        rw [hrouted]
        simp only at h
        split at h
        · rename_i hseen
          cases h
          have hpos : 0 < names.count m.name := by simpa [List.count_pos_iff] using hseen
          refine .inr ⟨_, rfl, ?_⟩
          rw [List.count_append, List.count_cons_self]
          omega
        · simp only [Traced.bind_result] at h
          rcases bind_eq_error_iff.mp h with h | ⟨_, _, h⟩
          · exact .inl ⟨m, List.mem_cons_self, route_error h⟩
          rcases bind_eq_error_iff.mp h with h | ⟨_, _, h⟩
          · refine (ih h).imp hlater ?_
            rintro ⟨name, he, hcount⟩
            refine ⟨name, he, ?_⟩
            simp only [List.cons_append, List.count_append, List.count_cons] at hcount ⊢
            omega
          · cases h

/-! ### Classes and files -/

/-- Route classes fail as the tags of a class do, or as one of the controllers does. -/
theorem routeClasses_error {cs : List (ClassDeclaration τ)}
    (h : (routeClasses cs).result = .error e) :
    (∃ c ∈ cs, ∃ f, c.tagFault = some f ∧ .fault f = e) ∨
      ∃ c ∈ cs.filter (·.controllerTag?.isSome), c.routeClass.result = .error e := by
  induction cs with
  | nil => cases h
  | cons c cs ih =>
      have hlater : (∃ c ∈ cs, ∃ f, c.tagFault = some f ∧ .fault f = e) →
          ∃ c' ∈ c :: cs, ∃ f, c'.tagFault = some f ∧ .fault f = e := by
        rintro ⟨c', hc', hfault⟩
        exact ⟨c', List.mem_cons_of_mem c hc', hfault⟩
      rw [routeClasses, Traced.bind_result] at h
      rcases bind_eq_error_iff.mp h with h | ⟨_, _, h⟩
      · exact .inl ⟨c, List.mem_cons_self, Traced.check_eq_error_iff.mp h⟩
      split at h
      · rename_i htag
        rw [List.filter_cons, if_pos htag]
        simp only [Traced.bind_result] at h
        rcases bind_eq_error_iff.mp h with h | ⟨_, _, h⟩
        · exact .inr ⟨c, List.mem_cons_self, h⟩
        rcases bind_eq_error_iff.mp h with h | ⟨_, _, h⟩
        · refine (ih h).imp hlater ?_
          rintro ⟨c', hc', h⟩
          exact ⟨c', List.mem_cons_of_mem c hc', h⟩
        · cases h
      · rename_i htag
        rw [List.filter_cons, if_neg htag]
        exact (ih h).imp_left hlater

variable {u : SourceUnit τ} {s : RouteSettings}

theorem routeClass_error {c : ClassDeclaration τ} (hc : c ∈ u.controllers)
    (h : c.routeClass.result = .error e) : u.Fails e ∨ u.Clash e := by
  obtain ⟨basePath, hresult⟩ := routeClass_result c
  rw [hresult] at h
  rcases bind_eq_error_iff.mp h with h | ⟨_, _, h⟩
  · rcases methodRoutes_error h with ⟨m, hm, hfails⟩ | ⟨name, rfl, hcount⟩
    · exact .inl (.method hc hm hfails)
    · exact .inr (.route hc (List.duplicate_iff_two_le_count.mpr hcount))
  · cases h

theorem routeFile_error (h : (s.routeFile u).result = .error e) : u.Fails e ∨ u.Clash e := by
  simp only [RouteSettings.routeFile, Traced.bind_result] at h
  rcases bind_eq_error_iff.mp h with h | ⟨classes, hclasses, h⟩
  · rcases routeClasses_error h with ⟨c, hc, f, hf, rfl⟩ | ⟨c, hc, h⟩
    · exact .inl (.unreadTag hc hf)
    · rw [filter_controllerTag?] at hc
      exact routeClass_error hc h
  · have hclasses := routeClasses_eq_ok hclasses
    rw [filter_controllerTag?] at hclasses
    have hclients : u.controllers.map (·.clientName) = classes.map (·.clientName) :=
      map_eq_of_forall₂ (fun _ _ h => (routeClass_eq_ok h).clientName.symm) hclasses
    cases hrepeated : repeatedClient? [] classes with
    | none => rw [hrepeated] at h; cases h
    | some client =>
        rw [hrepeated] at h
        cases h
        have hcount := repeatedClient?_eq_some hrepeated
        rw [List.nil_append, ← hclients] at hcount
        exact .inr (.client (List.duplicate_iff_two_le_count.mpr hcount))

/-- A run over units fails as one of them does. -/
theorem fails_of_routeFiles {us : List (SourceUnit τ)}
    (h : (s.routeFiles us).result = .error e) : ∃ u ∈ us, u.Fails e ∨ u.Clash e := by
  induction us with
  | nil => cases h
  | cons u us ih =>
      have hlater (h : (s.routeFiles us).result = .error e) :
          ∃ v ∈ u :: us, v.Fails e ∨ v.Clash e := by
        obtain ⟨v, hv, hfails⟩ := ih h
        exact ⟨v, List.mem_cons_of_mem u hv, hfails⟩
      rw [RouteSettings.routeFiles, Traced.bind_result] at h
      rcases bind_eq_error_iff.mp h with h | ⟨_, _, h⟩
      · obtain ⟨c, hc, f, hf, rfl⟩ := findsController_error h
        exact ⟨u, List.mem_cons_self, .inl (.unreadTag hc hf)⟩
      split at h
      · simp only [Traced.bind_result] at h
        rcases bind_eq_error_iff.mp h with h | ⟨_, _, h⟩
        · exact ⟨u, List.mem_cons_self, routeFile_error h⟩
        rcases bind_eq_error_iff.mp h with h | ⟨_, _, h⟩
        · exact hlater h
        · cases h
      · exact hlater h

/-! ### Failures of single routes -/

/-- The failures of a single route: faults, and parameters of its path that nothing binds. -/
def Failure.OfRoute : Failure → Prop
  | .fault _ | .reported (.unboundParameter ..) => True
  | .reported _ => False

theorem ofRoute_of_fault (h : ∃ f, e = .fault f) : e.OfRoute := by
  obtain ⟨f, rfl⟩ := h
  trivial

variable [LawfulDeclaredType τ]

theorem typeText_error {t : τ} (h : (DeclaredType.typeText t).result = .error e) :
    ∃ f, e = .fault f := by
  simp only [DeclaredType.typeText, Traced.bind_result, Traced.ofExcept_result] at h
  rcases bind_eq_error_iff.mp h with h | ⟨_, _, h⟩
  · exact LawfulDeclaredType.text_error h
  rcases bind_eq_error_iff.mp h with h | ⟨_, _, h⟩
  · exact LawfulDeclaredType.imports_error h
  · cases h

theorem Method.Fails.ofRoute (h : m.Fails e) : e.OfRoute := by
  cases h with
  | unreadTag _ | unreadParameterTag _ | unbound _ _ _ => trivial
  | text _ h => exact ofRoute_of_fault (typeText_error h)
  | field _ h => exact ofRoute_of_fault (LawfulDeclaredType.field_error h)
  | carried _ h | returned h => exact ofRoute_of_fault (LawfulDeclaredType.carried_error h)

theorem SourceUnit.Fails.ofRoute (h : u.Fails e) : e.OfRoute := by
  cases h with
  | unreadTag _ _ => trivial
  | method _ _ h => exact h.ofRoute

/-- A run over units fails as a single route does, or because a name does occur twice. -/
theorem routeFiles_error {us : List (SourceUnit τ)}
    (h : (s.routeFiles us).result = .error e) : e.OfRoute ∨ ∃ u ∈ us, u.Clash e := by
  obtain ⟨u, hu, hfails | hclash⟩ := fails_of_routeFiles h
  · exact .inl hfails.ofRoute
  · exact .inr ⟨u, hu, hclash⟩

end

end TypedClients
