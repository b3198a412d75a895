import TypedClients.Proofs.ExpressionEnds
import TypedClients.Proofs.PathTexts

/-!
# The types that parameters of paths are bound to

A parameter of a method binds one name by a tag for it, or the fields of its type. A parameter of a
path has the type of the first one that binds it: `boundType?_result`. So a path is refused for the
first name in it that nothing binds, if the types before it can be written.
-/
namespace TypedClients

open TypedClients.Text TypedClients.Code

section

variable {τ : Type} [DeclaredType τ]

/-! ### Tags that bind -/

theorem ofName?_eq_pathParam (name : String) :
    (Role.ofName? name).any (· == .pathParam) = (name == "Param") := by
  unfold Role.ofName?
  split <;> first | rfl | simp_all

theorem ofName?_eq_pathParams (name : String) :
    (Role.ofName? name).any (· == .pathParams) = (name == "Params") := by
  unfold Role.ofName?
  split <;> first | rfl | simp_all

/-- The first argument of a tag is a text. -/
def Tag.Reads (t : Tag) (text : String) : Prop :=
  ∃ argument more, t.arguments = argument :: more ∧ literalText? argument = some text

theorem Tag.path_eq_ok_iff {t : Tag} {text : String} (hne : text ≠ "") :
    t.path.result = .ok text ↔ t.Reads text := by
  unfold path Reads
  cases t.arguments with
  | nil => simp [hne.symm]
  | cons argument more =>
      have hfirst : (∃ first rest, argument :: more = first :: rest ∧
          literalText? first = some text) ↔ literalText? argument = some text := by simp
      rw [hfirst]
      dsimp only
      cases literalText? argument with
      | none => exact ⟨fun h => absurd (Except.ok.inj h).symm hne, nofun⟩
      | some read => simp

/-- A parameter binds a name to a type. Its own type is for the name of its first tag for a single
name; only without such a tag are the names of the fields bound, by a tag for several. -/
inductive Parameter.BindsTo (p : Parameter τ) (name : String) : τ → Prop
  | own {tag : Tag} (htag : p.tags.find? (·.name == "Param") = some tag) (hreads : tag.Reads name) :
      p.BindsTo name p.type
  | field {type : τ} (hsingle : ∀ tag ∈ p.tags, tag.name ≠ "Param")
      (hseveral : ∃ tag ∈ p.tags, tag.name = "Params")
      (hfield : DeclaredType.field? p.type name = .ok (some type)) : p.BindsTo name type

variable {p : Parameter τ} {name : String} {ps : List (Parameter τ)}

/-- A first tag for a single name decides alone which name is bound. -/
theorem bindsTo_iff_of_single {tag : Tag} (hsingle : p.tags.find? (·.name == "Param") = some tag)
    {type : τ} : p.BindsTo name type ↔ tag.Reads name ∧ p.type = type := by
  constructor
  · intro h
    cases h with
    | own htag hreads =>
        cases hsingle.symm.trans htag
        exact ⟨hreads, rfl⟩
    | field hnone _ _ =>
        exact absurd (by simpa using List.find?_some hsingle)
          (hnone tag (List.mem_of_find?_eq_some hsingle))
  · rintro ⟨hreads, rfl⟩
    exact .own hsingle hreads

/-- Without a tag for a single name the fields are bound, where a tag for several names is there. -/
theorem bindsTo_iff_of_several (hsingle : p.tags.find? (·.name == "Param") = none) {type : τ} :
    p.BindsTo name type ↔ (p.tags.find? (·.name == "Params")).isSome ∧
      DeclaredType.field? p.type name = .ok (some type) := by
  have hseveral : (p.tags.find? (·.name == "Params")).isSome ↔
      ∃ tag ∈ p.tags, tag.name = "Params" := by simp
  rw [hseveral]
  constructor
  · intro h
    cases h with
    | own htag _ => cases hsingle.symm.trans htag
    | field _ hseveral hfield => exact ⟨hseveral, hfield⟩
  · rintro ⟨hseveral, hfield⟩
    exact .field (by simpa using hsingle) hseveral hfield

theorem Parameter.BindsTo.unique {type type' : τ} (h : p.BindsTo name type)
    (h' : p.BindsTo name type') : type = type' := by
  cases hsingle : p.tags.find? (·.name == "Param") with
  | some tag =>
      rw [bindsTo_iff_of_single hsingle] at h h'
      exact h.2.symm.trans h'.2
  | none =>
      rw [bindsTo_iff_of_several hsingle] at h h'
      exact Option.some.inj (Except.ok.inj (h.2.symm.trans h'.2))

/-- The first of some parameters that binds a name binds it to a type. -/
inductive FirstBinding (name : String) : List (Parameter τ) → τ → Prop
  | here {p : Parameter τ} {ps : List (Parameter τ)} {type : τ} (h : p.BindsTo name type) :
      FirstBinding name (p :: ps) type
  | later {p : Parameter τ} {ps : List (Parameter τ)} {type : τ}
      (hp : ∀ other, ¬ p.BindsTo name other) (h : FirstBinding name ps type) :
      FirstBinding name (p :: ps) type

theorem FirstBinding.unique {type type' : τ} (h : FirstBinding name ps type)
    (h' : FirstBinding name ps type') : type = type' := by
  induction h with
  | here h =>
      cases h' with
      | here h' => exact h.unique h'
      | later hp _ => exact absurd h (hp _)
  | later hp _ ih =>
      cases h' with
      | here h' => exact absurd h' (hp _)
      | later _ h' => exact ih h'

/-- Some parameter binds a name. -/
def IsBound (name : String) (ps : List (Parameter τ)) : Prop :=
  ∃ p ∈ ps, ∃ type, p.BindsTo name type

theorem exists_firstBinding_iff : (∃ type, FirstBinding name ps type) ↔ IsBound name ps := by
  induction ps with
  | nil =>
      simp only [IsBound, List.not_mem_nil, false_and, exists_false, iff_false]
      rintro ⟨_, ⟨⟩⟩
  | cons p ps ih =>
      constructor
      · rintro ⟨type, h⟩
        cases h with
        | here h => exact ⟨p, List.mem_cons_self, type, h⟩
        | later _ h =>
            obtain ⟨q, hq, hbinds⟩ := ih.mp ⟨type, h⟩
            exact ⟨q, List.mem_cons_of_mem p hq, hbinds⟩
      · rintro ⟨q, hq, type, hbinds⟩
        by_cases hp : ∃ other, p.BindsTo name other
        · exact hp.imp fun _ => .here
        · rcases List.mem_cons.mp hq with rfl | hq
          · exact absurd ⟨type, hbinds⟩ hp
          · obtain ⟨type, h⟩ := ih.mpr ⟨q, hq, type, hbinds⟩
            exact ⟨type, .later (not_exists.mp hp) h⟩

/-! ### The scan of parameters -/

/-- The fields of the types of some parameters can be looked up. -/
def HasFields (ps : List (Parameter τ)) : Prop :=
  ∀ p ∈ ps, ∀ name, ∃ found, DeclaredType.field? p.type name = .ok found

/-- A parameter ends the scan with the type that it binds the name to, or is passed over. -/
theorem boundType?_cons (ps : List (Parameter τ)) (hne : name ≠ "")
    (hfield : ∃ found, DeclaredType.field? p.type name = .ok found) :
    (∃ type, p.BindsTo name type ∧ (boundType? name (p :: ps)).result = .ok (some type)) ∨
      (∀ type, ¬ p.BindsTo name type) ∧
        (boundType? name (p :: ps)).result = (boundType? name ps).result := by
  have hplays : ∀ role, firstTag? (· == role) p.tags =
      p.tags.find? fun t => (Role.ofName? t.name).any (· == role) := fun _ => rfl
  rw [boundType?, hplays, hplays]
  simp only [ofName?_eq_pathParam, ofName?_eq_pathParams]
  cases hsingle : p.tags.find? (·.name == "Param") with
  | some tag =>
      simp only [bindsTo_iff_of_single hsingle]
      obtain ⟨text, htext⟩ := tag.path_result
      have hreads : tag.Reads name ↔ text = name := by
        rw [← Tag.path_eq_ok_iff hne, htext, Except.ok.injEq]
      rw [Traced.bind_result_of_ok _ htext]
      by_cases hname : text = name
      · rw [if_pos hname]
        exact .inl ⟨p.type, ⟨hreads.mpr hname, rfl⟩, rfl⟩
      · rw [if_neg hname]
        exact .inr ⟨fun type hbinds => hname (hreads.mp hbinds.1), rfl⟩
  | none =>
      simp only [bindsTo_iff_of_several hsingle]
      cases hseveral : p.tags.find? (·.name == "Params") with
      | none => exact .inr ⟨fun type hbinds => absurd hbinds.1 (by simp), rfl⟩
      | some tag =>
          obtain ⟨found, hfound⟩ := hfield
          cases found with
          | some type =>
              exact .inl ⟨type, ⟨rfl, hfound⟩, by rw [Traced.bind_result_of_ok _ hfound]; rfl⟩
          | none =>
              refine .inr ⟨fun type hbinds => ?_, by rw [Traced.bind_result_of_ok _ hfound]⟩
              cases hfound.symm.trans hbinds.2

/-- A name is looked up as the type that the first parameter binds it to, or as nothing where none
does. -/
theorem boundType?_result (hne : name ≠ "") (hfields : HasFields ps) :
    (∃ type, FirstBinding name ps type ∧ (boundType? name ps).result = .ok (some type)) ∨
      ¬ IsBound name ps ∧ (boundType? name ps).result = .ok none := by
  induction ps with
  | nil => exact .inr ⟨fun ⟨_, hp, _⟩ => absurd hp List.not_mem_nil, rfl⟩
  | cons p ps ih =>
      obtain ⟨hfield, hfields⟩ := List.forall_mem_cons.mp hfields
      rcases boundType?_cons ps hne (hfield name) with ⟨type, hbinds, hresult⟩ | ⟨hp, hresult⟩
      · exact .inl ⟨type, .here hbinds, hresult⟩
      · rw [hresult]
        rcases ih hfields with ⟨type, hfirst, hresult⟩ | ⟨hunbound, hresult⟩
        · exact .inl ⟨type, .later hp hfirst, hresult⟩
        · refine .inr ⟨?_, hresult⟩
          rintro ⟨q, hq, type, hbinds⟩
          rcases List.mem_cons.mp hq with rfl | hq
          · exact hp type hbinds
          · exact hunbound ⟨q, hq, type, hbinds⟩

theorem boundType?_eq_some_iff (hne : name ≠ "") (hfields : HasFields ps) {type : τ} :
    (boundType? name ps).result = .ok (some type) ↔ FirstBinding name ps type := by
  rcases boundType?_result hne hfields with ⟨type', hfirst, hresult⟩ | ⟨hunbound, hresult⟩
  · rw [hresult]
    constructor
    · rintro ⟨⟩
      exact hfirst
    · intro h
      rw [hfirst.unique h]
  · rw [hresult]
    constructor
    · rintro ⟨⟩
    · exact fun h => absurd (exists_firstBinding_iff.mp ⟨type, h⟩) hunbound

theorem boundType?_eq_none_iff (hne : name ≠ "") (hfields : HasFields ps) :
    (boundType? name ps).result = .ok none ↔ ¬ IsBound name ps := by
  rcases boundType?_result hne hfields with ⟨type, hfirst, hresult⟩ | ⟨hunbound, hresult⟩
  · rw [hresult]
    exact ⟨nofun, fun h => absurd (exists_firstBinding_iff.mp ⟨type, hfirst⟩) h⟩
  · exact ⟨fun _ => hunbound, fun _ => hresult⟩

/-! ### The parts of a path -/

variable {m : Method τ} {className : Option String} {parts : List PathPart} {e : Failure}

/-- The segment for a part of a path: a parameter has the text and the imports of the type that it
is bound to first. -/
inductive Method.Completes (m : Method τ) : PathPart → PathSegment → Prop
  | literal {text : String} : m.Completes (.literal text) (.literal text)
  | parameter {name ending : String} {t : τ} {type : TypeText}
      (hfirst : FirstBinding name m.parameters t) (htext : DeclaredType.text t = .ok type.text)
      (himports : (DeclaredType.imports t).result = .ok type.imports) :
      m.Completes (.parameter name ending) (.parameter name type ending)

theorem isTextOf_iff {t : τ} {type : TypeText} : IsTextOf t type ↔
    DeclaredType.text t = .ok type.text ∧ (DeclaredType.imports t).result = .ok type.imports := by
  simp only [IsTextOf, DeclaredType.typeText, Traced.bind_result, bind_eq_ok_iff]
  constructor
  · rintro ⟨text, htext, imports, himports, h⟩
    cases h
    exact ⟨htext, himports⟩
  · rintro ⟨htext, himports⟩
    exact ⟨type.text, htext, type.imports, himports, rfl⟩

/-- The names of the parameters among some parts are no empty texts, as those of a path. -/
def AreNamed (parts : List PathPart) : Prop :=
  ∀ name ending, .parameter name ending ∈ parts → name ≠ ""

theorem areNamed_pathParts (path : String) : AreNamed (pathParts path) := by
  rintro name ending hmem rfl
  cases isPlainIdentifier_of_mem_pathParts hmem

theorem fills_iff_completes {part : PathPart} {segment : PathSegment} (hnamed : AreNamed [part])
    (hfields : HasFields m.parameters) : m.Fills part segment ↔ m.Completes part segment := by
  constructor
  · intro h
    cases h with
    | literal => exact .literal
    | parameter hbinds =>
        obtain ⟨t, hbound, htext⟩ := hbinds
        obtain ⟨htext, himports⟩ := isTextOf_iff.mp htext
        have hne := hnamed _ _ List.mem_cons_self
        exact .parameter ((boundType?_eq_some_iff hne hfields).mp hbound) htext himports
  · intro h
    cases h with
    | literal => exact .literal
    | parameter hfirst htext himports =>
        have hne := hnamed _ _ List.mem_cons_self
        exact .parameter ⟨_, (boundType?_eq_some_iff hne hfields).mpr hfirst,
          isTextOf_iff.mpr ⟨htext, himports⟩⟩

theorem bindSegments_eq_ok_iff_completes (hnamed : AreNamed parts)
    (hfields : HasFields m.parameters) {segments : List PathSegment} :
    (m.bindSegments className parts).result = .ok segments ↔
      List.Forall₂ m.Completes parts segments := by
  rw [bindSegments_eq_ok_iff]
  have hparts : ∀ part ∈ parts, AreNamed [part] := by
    rintro part hpart name ending hmem
    rw [List.mem_singleton] at hmem
    exact hnamed name ending (hmem ▸ hpart)
  clear hnamed
  induction parts generalizing segments with
  | nil => simp
  | cons part parts ih =>
      obtain ⟨hpart, hparts⟩ := List.forall_mem_cons.mp hparts
      simp only [List.forall₂_cons_left_iff, fills_iff_completes hpart hfields, ih hparts]

/-- What keeps a parameter of a path from having a segment. -/
inductive Method.Refuses (m : Method τ) (className : Option String) (name : String) : Failure → Prop
  | unbound (h : ¬ IsBound name m.parameters) :
      m.Refuses className name (.reported (.unboundParameter m.name name className))
  | unwritten {t : τ} {e : Failure} (hfirst : FirstBinding name m.parameters t)
      (h : (DeclaredType.typeText t).result = .error e) : m.Refuses className name e

theorem bindSegments_of_fills {part : PathPart} {segment : PathSegment}
    (h : m.Fills part segment) (parts : List PathPart) :
    (m.bindSegments className (part :: parts)).result =
      (m.bindSegments className parts).result.map (segment :: ·) := by
  cases h with
  | literal =>
      rw [Method.bindSegments, Traced.bind_result]
      cases (m.bindSegments className parts).result <;> rfl
  | parameter hbinds =>
      obtain ⟨t, hbound, htext⟩ := hbinds
      rw [Method.bindSegments, Traced.bind_result_of_ok _ hbound, Traced.bind_result_of_ok _ htext,
        Traced.bind_result]
      cases (m.bindSegments className parts).result <;> rfl

theorem bindSegments_of_refuses {name : String} (hne : name ≠ "") (hfields : HasFields m.parameters)
    (h : m.Refuses className name e) (ending : String) (parts : List PathPart) :
    (m.bindSegments className (.parameter name ending :: parts)).result = .error e := by
  cases h with
  | unbound h =>
      rw [Method.bindSegments, Traced.bind_result_of_ok _ ((boundType?_eq_none_iff hne hfields).mpr h)]
      rfl
  | unwritten hfirst h =>
      rw [Method.bindSegments,
        Traced.bind_result_of_ok _ ((boundType?_eq_some_iff hne hfields).mpr hfirst)]
      simp only [Traced.bind_result]
      exact bind_eq_error_iff.mpr (.inl h)

theorem completes_or_refuses (m : Method τ) (className : Option String) (part : PathPart) :
    (∃ segment, m.Completes part segment) ∨
      ∃ name ending e, part = .parameter name ending ∧ m.Refuses className name e := by
  cases part with
  | literal text => exact .inl ⟨_, .literal⟩
  | parameter name ending =>
      by_cases hbound : IsBound name m.parameters
      · obtain ⟨t, hfirst⟩ := exists_firstBinding_iff.mpr hbound
        cases htext : (DeclaredType.typeText t).result with
        | ok type =>
            obtain ⟨htext, himports⟩ := isTextOf_iff.mp htext
            exact .inl ⟨_, .parameter hfirst htext himports⟩
        | error e => exact .inr ⟨name, ending, e, rfl, .unwritten hfirst htext⟩
      · exact .inr ⟨name, ending, _, rfl, .unbound hbound⟩

theorem AreNamed.head {part : PathPart} (h : AreNamed (part :: parts)) : AreNamed [part] :=
  fun name ending hmem => h name ending (List.mem_singleton.mp hmem ▸ List.mem_cons_self)

theorem AreNamed.tail {part : PathPart} (h : AreNamed (part :: parts)) : AreNamed parts :=
  fun name ending hmem => h name ending (.tail part hmem)

theorem bindSegments_of_split (hfields : HasFields m.parameters) {before after : List PathPart}
    {name ending : String} (hnamed : AreNamed (before ++ .parameter name ending :: after))
    (hbefore : ∀ part ∈ before, ∃ segment, m.Completes part segment)
    (hrefuses : m.Refuses className name e) :
    (m.bindSegments className (before ++ .parameter name ending :: after)).result = .error e := by
  induction before with
  | nil =>
      exact bindSegments_of_refuses (hnamed name ending List.mem_cons_self) hfields hrefuses _ _
  | cons part before ih =>
      obtain ⟨⟨segment, hcompletes⟩, hbefore⟩ := List.forall_mem_cons.mp hbefore
      rw [List.cons_append,
        bindSegments_of_fills ((fills_iff_completes hnamed.head hfields).mpr hcompletes),
        map_eq_error_iff]
      exact ih hnamed.tail hbefore

theorem exists_split_of_bindSegments (hnamed : AreNamed parts) (hfields : HasFields m.parameters)
    (h : (m.bindSegments className parts).result = .error e) :
    ∃ before name ending after, parts = before ++ .parameter name ending :: after ∧
      (∀ part ∈ before, ∃ segment, m.Completes part segment) ∧ m.Refuses className name e := by
  induction parts with
  | nil => cases h
  | cons part parts ih =>
      rcases completes_or_refuses m className part with hsegment | ⟨name, ending, e', rfl, hrefuses⟩
      · obtain ⟨segment, hcompletes⟩ := hsegment
        rw [bindSegments_of_fills ((fills_iff_completes hnamed.head hfields).mpr hcompletes),
          map_eq_error_iff] at h
        obtain ⟨before, name, ending, after, rfl, hbefore, hrefuses⟩ := ih hnamed.tail h
        exact ⟨part :: before, name, ending, after, rfl,
          List.forall_mem_cons.mpr ⟨⟨segment, hcompletes⟩, hbefore⟩, hrefuses⟩
      · have hne := hnamed name ending List.mem_cons_self
        rw [bindSegments_of_refuses hne hfields hrefuses] at h
        cases h
        exact ⟨[], name, ending, parts, rfl, by simp, hrefuses⟩

/-- The types that parameters of paths are bound to have texts and imports. -/
def Method.HasTexts (m : Method τ) : Prop :=
  ∀ name t, FirstBinding name m.parameters t → ∃ type, IsTextOf t type

theorem exists_binds_iff {name : String} (hne : name ≠ "") (hfields : HasFields m.parameters)
    (htexts : m.HasTexts) : (∃ type, m.Binds name type) ↔ IsBound name m.parameters := by
  rw [← exists_firstBinding_iff]
  constructor
  · rintro ⟨type, t, hbound, -⟩
    exact ⟨t, (boundType?_eq_some_iff hne hfields).mp hbound⟩
  · rintro ⟨t, hfirst⟩
    obtain ⟨type, htype⟩ := htexts name t hfirst
    exact ⟨type, t, (boundType?_eq_some_iff hne hfields).mpr hfirst, htype⟩

theorem exists_completes_of_isBound (htexts : m.HasTexts) {part : PathPart}
    (h : ∀ name ending, part = .parameter name ending → IsBound name m.parameters) :
    ∃ segment, m.Completes part segment := by
  rcases completes_or_refuses m none part with hsegment | ⟨name, ending, e, rfl, hrefuses⟩
  · exact hsegment
  · cases hrefuses with
    | unbound hunbound => exact absurd (h name ending rfl) hunbound
    | unwritten hfirst herror =>
        obtain ⟨type, htype⟩ := htexts name _ hfirst
        cases htype.symm.trans herror

/-- A path has a segment for every part, where each parameter has the text and the imports of the
type that the first parameter of the method binding its name gives it. It is refused for the first
of its parameters that is unbound or has a type that cannot be written. Where all types can be
written it is refused exactly if one of its parameters is unbound, and then for the first that is.
-/
theorem segments_of_bindings (m : Method τ) (className : Option String) (path : String)
    (hfields : HasFields m.parameters) :
    (∀ segments, (m.segments className path).result = .ok segments ↔
      List.Forall₂ m.Completes (pathParts path) segments) ∧
    (∀ e, (m.segments className path).result = .error e ↔
      ∃ before name ending after, pathParts path = before ++ .parameter name ending :: after ∧
        (∀ part ∈ before, ∃ segment, m.Completes part segment) ∧ m.Refuses className name e) ∧
    (m.HasTexts →
      ((∃ segments, (m.segments className path).result = .ok segments) ↔
        ∀ name ending, .parameter name ending ∈ pathParts path → IsBound name m.parameters) ∧
      ∀ before name ending after, pathParts path = before ++ .parameter name ending :: after →
        (∀ other rest, .parameter other rest ∈ before → IsBound other m.parameters) →
        ¬ IsBound name m.parameters →
        (m.segments className path).result =
          .error (.reported (.unboundParameter m.name name className))) := by
  have hnamed := areNamed_pathParts path
  refine ⟨fun segments => bindSegments_eq_ok_iff_completes hnamed hfields,
    fun e => ⟨exists_split_of_bindSegments hnamed hfields, ?_⟩, fun htexts => ⟨?_, ?_⟩⟩
  · rintro ⟨before, name, ending, after, hsplit, hbefore, hrefuses⟩
    rw [Method.segments, hsplit]
    exact bindSegments_of_split hfields (hsplit ▸ hnamed) hbefore hrefuses
  · rw [Method.segments, exists_bindSegments_iff]
    exact forall_congr' fun name => forall_congr' fun ending => forall_congr' fun hmem =>
      exists_binds_iff (hnamed name ending hmem) hfields htexts
  · intro before name ending after hsplit hbound hunbound
    rw [Method.segments, hsplit]
    refine bindSegments_of_split hfields (hsplit ▸ hnamed) (fun part hpart => ?_)
      (.unbound hunbound)
    refine exists_completes_of_isBound htexts ?_
    rintro other rest rfl
    exact hbound other rest hpart

end

/-! ### Two ways of binding -/

/-- A type with fields for a page of results. -/
def pageType : DescribedType where
  text := "Page"
  imports := []
  isVoid := false
  carried := none
  fields := [("id", { integerType with text := "str" }), ("page", integerType)]

/-- A method with two parameters that bind the name `id`; the last one binds another name and none
of its fields. -/
def findPage : Method DescribedType where
  name := "find"
  parameters :=
    [{ name := "page", tags := [⟨"Params", []⟩], type := pageType },
      { name := "id", tags := [⟨"Param", ["'id'"]⟩], type := integerType },
      { name := "size", tags := [⟨"Params", []⟩, ⟨"Param", ["'count'"]⟩], type := pageType }]
  returns := integerType

theorem hasFields_findPage : HasFields findPage.parameters := fun _ _ _ => ⟨_, rfl⟩

theorem segments_of_bindings_findPage :
    (findPage.segments none "/:id/:page").result = .ok [.literal "",
      .parameter "id" ⟨"str", []⟩ "", .parameter "page" ⟨"int", []⟩ ""] ∧
    (findPage.segments (some "Pages") "/:id/:size/:page/:other").result =
      .error (.reported (.unboundParameter "find" "size" (some "Pages"))) := by
  have hfields := hasFields_findPage
  obtain ⟨hok, -⟩ := segments_of_bindings findPage none "/:id/:page" hfields
  obtain ⟨-, -, hunbound⟩ :=
    segments_of_bindings findPage (some "Pages") "/:id/:size/:page/:other" hfields
  have hid {t : DescribedType} (h : (boundType? "id" findPage.parameters).result = .ok (some t)) :
      FirstBinding "id" findPage.parameters t := (boundType?_eq_some_iff (by decide) hfields).mp h
  constructor
  · refine (hok _).mpr (.cons .literal (.cons (.parameter (hid rfl) rfl rfl) (.cons ?_ .nil)))
    exact .parameter ((boundType?_eq_some_iff (by decide) hfields).mp rfl) rfl rfl
  · refine (hunbound fun _ t _ => ⟨⟨t.text, t.imports⟩, rfl⟩).2 [.literal "", .parameter "id" ""]
      "size" "" [.parameter "page" "", .parameter "other" ""] (by decide +kernel) ?_
      ((boundType?_eq_none_iff (by decide) hfields).mp rfl)
    intro name rest hmem
    obtain ⟨rfl, -⟩ : name = "id" ∧ rest = "" := by simpa using hmem
    exact exists_firstBinding_iff.mp ⟨_, hid rfl⟩

/-! ### A type that cannot be written -/

/-- A formatted text with a field that needs a backslash to be written. -/
def escapedField : Expr := .formatted [.field (.string "\x01") none none]

/-- A method that binds one parameter of a path, to a type that cannot be written. -/
def findEscaped : Method SourceType where
  name := "find"
  parameters :=
    [{ name := "id", tags := [⟨"Param", ["'id'"]⟩]
       type := SourceType.ofExpr (some escapedField) default none }]
  returns := SourceType.ofExpr (some (.name "str")) default none

/-- A parameter that nothing binds goes unnoticed after one whose type cannot be written. -/
theorem not_segments_of_bindings : ¬ ∀ (m : Method SourceType) (className : Option String)
    (path : String), HasFields m.parameters →
      ∀ before name ending after, pathParts path = before ++ .parameter name ending :: after →
        (∀ other rest, .parameter other rest ∈ before → IsBound other m.parameters) →
        ¬ IsBound name m.parameters →
        (m.segments className path).result =
          .error (.reported (.unboundParameter m.name name className)) := by
  intro h
  have hfields : HasFields findEscaped.parameters := by
    intro p hp name
    obtain rfl := List.mem_singleton.mp hp
    exact ⟨none, rfl⟩
  have herror := h findEscaped (some "Books") "/:id/:other" hfields
    [.literal "", .parameter "id" ""] "other" "" [] (by decide +kernel) ?_
    ((boundType?_eq_none_iff (by decide) hfields).mp rfl)
  · have hfault : (findEscaped.segments (some "Books") "/:id/:other").result =
        .error (.fault .backslashInField) := by decide +kernel
    cases hfault.symm.trans herror
  · intro name rest hmem
    obtain ⟨rfl, -⟩ : name = "id" ∧ rest = "" := by simpa using hmem
    exact exists_firstBinding_iff.mp ⟨_, (boundType?_eq_some_iff (by decide) hfields).mp rfl⟩

end TypedClients
