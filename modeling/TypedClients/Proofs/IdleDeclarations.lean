import TypedClients.Proofs.ControllerRoutes
import TypedClients.Proofs.RelatedRoutes

/-!
# Declarations that routing passes over

Routing knows a few tags. Other tags play no part in it, nor do the parameters, methods, classes and
units that have none of the tags that count for them: leaving any of these out gives the same routes
or the same failure, unless a tag that is left out cannot be read, which ends the routing. The types
of what is left need not be the same either, as long as they give the same answers (`AnswersAlike`).
-/
namespace TypedClients

open TypedClients.Text

/-! ### Lists with items left out -/

/-- Two lists with the same items, up to a relation, and up to idle ones that the second list leaves
out. -/
inductive Thinned {α β : Type} (idle : α → Prop) (R : α → β → Prop) : List α → List β → Prop
  | nil : Thinned idle R [] []
  | keep {a : α} {b : β} {as : List α} {bs : List β} (h : R a b) (hs : Thinned idle R as bs) :
      Thinned idle R (a :: as) (b :: bs)
  | drop {a : α} {as : List α} {bs : List β} (h : idle a) (hs : Thinned idle R as bs) :
      Thinned idle R (a :: as) bs

namespace Thinned

variable {α β : Type} {idle : α → Prop} {R : α → β → Prop} {as : List α} {bs : List β}

theorem refl {idle : α → Prop} {R : α → α → Prop} (h : ∀ a, R a a) (as : List α) :
    Thinned idle R as as := by
  induction as with
  | nil => exact .nil
  | cons a as ih => exact .keep (h a) ih

theorem of_forall₂ (h : List.Forall₂ R as bs) : Thinned idle R as bs := by
  induction h with
  | nil => exact .nil
  | cons hab _ ih => exact .keep hab ih

theorem mono {idle' : α → Prop} {S : α → β → Prop} (h : Thinned idle R as bs)
    (hkeep : ∀ a ∈ as, ∀ b, R a b → S a b) (hidle : ∀ a ∈ as, idle a → idle' a) :
    Thinned idle' S as bs := by
  induction h with
  | nil => exact .nil
  | keep hab _ ih =>
      obtain ⟨ha, hkeep⟩ := List.forall_mem_cons.mp hkeep
      exact .keep (ha _ hab) (ih hkeep (List.forall_mem_cons.mp hidle).2)
  | drop ha _ ih =>
      obtain ⟨hdrop, hidle⟩ := List.forall_mem_cons.mp hidle
      exact .drop (hdrop ha) (ih (List.forall_mem_cons.mp hkeep).2 hidle)

/-- The first item that passes a test is the same one if no idle item passes it. -/
theorem find? (h : Thinned idle R as bs) {f : α → Bool} {g : β → Bool}
    (hkeep : ∀ a b, R a b → f a = g b) (hdrop : ∀ a, idle a → f a = false) :
    Option.Rel R (as.find? f) (bs.find? g) := by
  induction h with
  | nil => exact .none
  | @keep a b as bs hab _ ih =>
      rw [List.find?_cons, List.find?_cons, hkeep a b hab]
      cases g b with
      | true => exact .some hab
      | false => exact ih
  | @drop a as bs ha _ ih => rwa [List.find?_cons, hdrop a ha]

theorem findSome?_eq {γ : Type} {as bs : List α} (h : Thinned idle Eq as bs) {f : α → Option γ}
    (hdrop : ∀ a, idle a → f a = none) : as.findSome? f = bs.findSome? f := by
  induction h with
  | nil => rfl
  | keep hab _ ih => rw [hab, List.findSome?_cons, List.findSome?_cons, ih]
  | drop ha _ ih => simpa only [List.findSome?_cons, hdrop _ ha] using ih

theorem map {γ δ : Type} {idle' : γ → Prop} {S : γ → δ → Prop} {f : α → γ} {g : β → δ}
    (h : Thinned idle R as bs) (hkeep : ∀ a, ∀ b ∈ bs, R a b → S (f a) (g b))
    (hdrop : ∀ a, idle a → idle' (f a)) : Thinned idle' S (as.map f) (bs.map g) := by
  induction h with
  | nil => exact .nil
  | @keep a b as bs hab _ ih =>
      exact .keep (hkeep a b List.mem_cons_self hab)
        (ih fun a b hb => hkeep a b (List.mem_cons_of_mem _ hb))
  | @drop a as bs ha _ ih => exact .drop (hdrop a ha) (ih hkeep)

theorem filterMap {γ δ : Type} {idle' : γ → Prop} {S : γ → δ → Prop} {f : α → Option γ}
    {g : α → Option δ} (h : ∀ a, Option.Rel S (f a) (g a)) (as : List α) :
    Thinned idle' S (as.filterMap f) (as.filterMap g) := by
  induction as with
  | nil => exact .nil
  | cons a as ih =>
      have ha := h a
      rw [List.filterMap_cons, List.filterMap_cons]
      generalize f a = c at ha ⊢
      generalize g a = d at ha ⊢
      cases ha with
      | none => exact ih
      | some hab => exact .keep hab ih

theorem sublist {as bs : List α} (h : Thinned idle Eq as bs) : bs.Sublist as := by
  induction h with
  | nil => exact .slnil
  | keep hab _ ih => rw [hab]; exact ih.cons_cons _
  | drop _ _ ih => exact ih.cons _

theorem filter_eq {as bs : List α} (h : Thinned idle Eq as bs) {f : α → Bool}
    (hdrop : ∀ a, idle a → f a = false) : as.filter f = bs.filter f := by
  induction h with
  | nil => rfl
  | keep hab _ ih => rw [hab, List.filter_cons, List.filter_cons, ih]
  | @drop a _ _ ha _ ih =>
      rw [List.filter_cons_of_neg (by rw [hdrop a ha]; exact Bool.false_ne_true), ih]

end Thinned

/-! ### Types that answer alike -/

section

variable {τ σ : Type} [DeclaredType τ] [DeclaredType σ]

/-- Types that answer alike, whatever they are asked. -/
structure AnswersAlike (R : τ → σ → Prop) : Prop where
  text : ∀ {t u}, R t u → DeclaredType.text t = DeclaredType.text u
  imports : ∀ {t u}, R t u → (DeclaredType.imports t).result = (DeclaredType.imports u).result
  isVoid : ∀ {t u}, R t u → DeclaredType.isVoid t = DeclaredType.isVoid u
  carried : ∀ {t u}, R t u → EndAlike R (DeclaredType.carried t) (DeclaredType.carried u)
  field? : ∀ {t u}, R t u → ∀ name,
    EndAlike (Option.Rel R) (DeclaredType.field? t name) (DeclaredType.field? u name)

/-- Types whose texts are related, and whose answers to other questions are alike. -/
structure AnswersWith (R : τ → σ → Prop) (Q : TypeText → TypeText → Prop) : Prop where
  typeText : ∀ {t u}, R t u →
    EndAlike Q (DeclaredType.typeText t).result (DeclaredType.typeText u).result
  isVoid : ∀ {t u}, R t u → DeclaredType.isVoid t = DeclaredType.isVoid u
  carried : ∀ {t u}, R t u → EndAlike R (DeclaredType.carried t) (DeclaredType.carried u)
  field? : ∀ {t u}, R t u → ∀ name,
    EndAlike (Option.Rel R) (DeclaredType.field? t name) (DeclaredType.field? u name)

theorem AnswersAlike.answersWith {R : τ → σ → Prop} (hR : AnswersAlike R) : AnswersWith R Eq where
  typeText h := by
    simp only [DeclaredType.typeText, Traced.bind_result, Traced.ofExcept_result, hR.text h,
      hR.imports h]
    exact .refl _
  isVoid := hR.isVoid
  carried := hR.carried
  field? := hR.field?

theorem Option.rel_eq {α : Type} (x : Option α) : Option.Rel Eq x x := by
  cases x with
  | none => exact .none
  | some a => exact .some rfl

theorem AnswersAlike.of_eq : AnswersAlike (τ := τ) (σ := τ) Eq where
  text h := by rw [h]
  imports h := by rw [h]
  isVoid h := by rw [h]
  carried h := by rw [h]; exact .refl _
  field? {t u} h name := by
    rw [h]
    cases DeclaredType.field? u name with
    | ok found => exact .ok (Option.rel_eq found)
    | error e => exact .error e

end

/-! ### Declarations with idle parts left out -/

/-- What keeps tags from being read stays, unless it is one of the faults that may be lost with the
tags that are left out. -/
def FaultThins (lost : Fault → Prop) (fault fault' : Option Fault) : Prop :=
  fault = fault' ∨ ∃ f, fault = some f ∧ lost f

/-- The failures that are lost with tags. -/
def LostWith (lost : Fault → Prop) (e : Failure) : Prop := ∃ f, lost f ∧ e = .fault f

section

variable {τ σ : Type}

/-- A tag that routing does not know. -/
def Tag.IsIdle (t : Tag) : Prop := t.role? = none

/-- A parameter without any tag that routing knows. -/
def Parameter.IsIdle (p : Parameter τ) : Prop := ∀ t ∈ p.tags, t.IsIdle

/-- A method of which no tag names a verb. -/
structure Method.IsIdle (lost : Fault → Prop) (m : Method τ) : Prop where
  tagFault : FaultThins lost m.tagFault none
  tags : ∀ t ∈ m.tags, Verb.ofTagName? t.name = none

/-- A class of which no tag is that of controllers. -/
structure ClassDeclaration.IsIdle (lost : Fault → Prop) (c : ClassDeclaration τ) : Prop where
  tagFault : FaultThins lost c.tagFault none
  tags : ∀ t ∈ c.tags, t.name ≠ "Controller"

/-- A unit without controllers. -/
def SourceUnit.IsIdle (lost : Fault → Prop) (u : SourceUnit τ) : Prop :=
  ∀ c ∈ u.classes, c.IsIdle lost

structure Parameter.Thins (R : τ → σ → Prop) (p : Parameter τ) (p' : Parameter σ) : Prop where
  name : p.name = p'.name
  tags : Thinned Tag.IsIdle Eq p.tags p'.tags
  type : R p.type p'.type

/-- The tags of parameters are read only where a method has a verb. -/
structure Method.Thins (lost : Fault → Prop) (R : τ → σ → Prop) (m : Method τ) (m' : Method σ) :
    Prop where
  name : m.name = m'.name
  tags : Thinned Tag.IsIdle Eq m.tags m'.tags
  tagFault : FaultThins lost m.tagFault m'.tagFault
  parameters : Thinned Parameter.IsIdle (Parameter.Thins R) m.parameters m'.parameters
  parameterFault : (routeTag? m.tags).isSome → FaultThins lost m.parameterFault m'.parameterFault
  returns : R m.returns m'.returns

/-- The methods of a class are read only where it is a controller. -/
structure ClassDeclaration.Thins (lost : Fault → Prop) (R : τ → σ → Prop) (c : ClassDeclaration τ)
    (c' : ClassDeclaration σ) : Prop where
  name : c.name = c'.name
  tags : Thinned Tag.IsIdle Eq c.tags c'.tags
  tagFault : FaultThins lost c.tagFault c'.tagFault
  methods : c.controllerTag?.isSome →
    Thinned (Method.IsIdle lost) (Method.Thins lost R) c.methods c'.methods

structure SourceUnit.Thins (lost : Fault → Prop) (R : τ → σ → Prop) (u : SourceUnit τ)
    (u' : SourceUnit σ) : Prop where
  name : u.name = u'.name
  classes : Thinned (ClassDeclaration.IsIdle lost) (ClassDeclaration.Thins lost R) u.classes u'.classes

/-- Units of which idle parts are left out, on any level, and with them tags that cannot be read for
one of the given faults. -/
abbrev UnitsThinned (lost : Fault → Prop) (R : τ → σ → Prop) (us : List (SourceUnit τ))
    (us' : List (SourceUnit σ)) : Prop :=
  Thinned (SourceUnit.IsIdle lost) (SourceUnit.Thins lost R) us us'

/-! ### Tags that cannot be read -/

/-- A tag of a method cannot be read, or one of its parameters, if it has a verb. -/
def Method.HasUnreadTag (m : Method τ) (f : Fault) : Prop :=
  m.tagFault = some f ∨ (routeTag? m.tags).isSome ∧ m.parameterFault = some f

/-- A tag of a class cannot be read, or one of its methods, if it is a controller. -/
def ClassDeclaration.HasUnreadTag (c : ClassDeclaration τ) (f : Fault) : Prop :=
  c.tagFault = some f ∨ c.controllerTag?.isSome ∧ ∃ m ∈ c.methods, m.HasUnreadTag f

/-- A tag that routing reads in some unit cannot be read. -/
def UnitsHaveUnreadTag (us : List (SourceUnit τ)) (f : Fault) : Prop :=
  ∃ u ∈ us, ∃ c ∈ u.classes, c.HasUnreadTag f

variable {lost lost' : Fault → Prop} {R : τ → σ → Prop}

theorem FaultThins.mono {fault fault' : Option Fault} (h : FaultThins lost fault fault')
    (hlost : ∀ f, fault = some f → lost' f) : FaultThins lost' fault fault' := by
  rcases h with h | ⟨f, hf, -⟩
  · exact .inl h
  · exact .inr ⟨f, hf, hlost f hf⟩

theorem Method.Thins.mono {m : Method τ} {m' : Method σ} (h : m.Thins lost R m')
    (hlost : ∀ f, m.HasUnreadTag f → lost' f) : m.Thins lost' R m' :=
  { h with
    tagFault := h.tagFault.mono fun f hf => hlost f (.inl hf)
    parameterFault := fun hroute =>
      (h.parameterFault hroute).mono fun f hf => hlost f (.inr ⟨hroute, hf⟩) }

theorem ClassDeclaration.Thins.mono {c : ClassDeclaration τ} {c' : ClassDeclaration σ}
    (h : c.Thins lost R c') (hlost : ∀ f, c.HasUnreadTag f → lost' f) : c.Thins lost' R c' :=
  { h with
    tagFault := h.tagFault.mono fun f hf => hlost f (.inl hf)
    methods := fun hcontroller => (h.methods hcontroller).mono
      (fun m hm _ hthins => hthins.mono fun f hf => hlost f (.inr ⟨hcontroller, m, hm, hf⟩))
      fun m hm hidle => ⟨hidle.tagFault.mono fun f hf =>
        hlost f (.inr ⟨hcontroller, m, hm, .inl hf⟩), hidle.tags⟩ }

/-- What is lost at most are the faults of tags that routing reads. -/
theorem UnitsThinned.mono {us : List (SourceUnit τ)} {us' : List (SourceUnit σ)}
    (h : UnitsThinned lost R us us') (hlost : ∀ f, UnitsHaveUnreadTag us f → lost' f) :
    UnitsThinned lost' R us us' := by
  have hidle (u) (hu : u ∈ us) (c) (hc : c ∈ u.classes) (h : c.IsIdle lost) : c.IsIdle lost' :=
    ⟨h.tagFault.mono fun f hf => hlost f ⟨u, hu, c, hc, .inl hf⟩, h.tags⟩
  refine Thinned.mono h (fun u hu u' hthins => ⟨hthins.name, ?_⟩) fun u hu hunit c hc =>
    hidle u hu c hc (hunit c hc)
  exact hthins.classes.mono
    (fun c hc c' hclass => hclass.mono fun f hf => hlost f ⟨u, hu, c, hc, hf⟩) (hidle u hu)

theorem check_endAlike {fault fault' : Option Fault} (h : FaultThins lost fault fault') :
    EndAlikeUnless (LostWith lost) Eq (Traced.check fault).result (Traced.check fault').result := by
  rcases h with rfl | ⟨f, rfl, hf⟩
  · exact .refl _
  · exact .early ⟨f, hf, rfl⟩ _

/-! ### Tags -/

theorem firstTag?_eq {ts ts' : List Tag} (h : Thinned Tag.IsIdle Eq ts ts') (plays : Role → Bool) :
    firstTag? plays ts = firstTag? plays ts' := by
  have hrel := h.find? (f := fun t => t.role?.any plays) (g := fun t => t.role?.any plays)
    (fun _ _ h => by rw [h]) (fun t ht => by rw [show t.role? = none from ht]; rfl)
  unfold firstTag?
  generalize ts.find? _ = found at hrel ⊢
  generalize ts'.find? _ = found' at hrel ⊢
  cases hrel with
  | some hab => rw [hab]
  | none => rfl

theorem routeTag?_eq {ts ts' : List Tag} (h : Thinned Tag.IsIdle Eq ts ts') :
    routeTag? ts = routeTag? ts' :=
  h.findSome?_eq fun t ht => by rw [show t.role? = none from ht]; rfl

theorem firstTag?_of_isIdle {p : Parameter τ} (h : p.IsIdle) (plays : Role → Bool) :
    firstTag? plays p.tags = none := by
  refine List.find?_eq_none.mpr fun t ht => ?_
  rw [show t.role? = none from h t ht]
  exact Bool.false_ne_true

theorem routeTag?_of_isIdle {m : Method τ} (h : m.IsIdle lost) : routeTag? m.tags = none := by
  refine List.findSome?_eq_none_iff.mpr fun t ht => ?_
  rw [show t.role?.bind Role.verb? = none from h.tags t ht]
  rfl

theorem controllerTag?_of_isIdle {c : ClassDeclaration τ} (h : c.IsIdle lost) :
    c.controllerTag?.isSome = false := by
  rw [isSome_controllerTag?]
  exact List.any_eq_false.mpr fun t ht => by simpa using h.tags t ht

/-! ### Parameters and controllers -/

theorem parameter?_rel {m : Method τ} {m' : Method σ} (hm : m.Thins lost R m') (role : Role) :
    Option.Rel (Parameter.Thins R) (m.parameter? role) (m'.parameter? role) :=
  hm.parameters.find? (fun p p' hp => by rw [firstTag?_eq hp.tags])
    (fun p hp => by rw [firstTag?_of_isIdle hp]; rfl)

theorem controllerTag?_eq {c : ClassDeclaration τ} {c' : ClassDeclaration σ}
    (h : c.Thins lost R c') : c.controllerTag? = c'.controllerTag? := firstTag?_eq h.tags _

theorem findsController_endAlike {cs : List (ClassDeclaration τ)} {cs' : List (ClassDeclaration σ)}
    (h : Thinned (ClassDeclaration.IsIdle lost) (ClassDeclaration.Thins lost R) cs cs') :
    EndAlikeUnless (LostWith lost) Eq (findsController cs).result (findsController cs').result := by
  induction h with
  | nil => exact .refl _
  | @keep c c' cs cs' hc _ ih =>
      simp only [findsController, Traced.bind_result, controllerTag?_eq hc]
      refine (check_endAlike hc.tagFault).bind fun _ _ _ => ?_
      by_cases hcontroller : c'.controllerTag?.isSome = true
      · simp only [if_pos hcontroller]
        exact .refl _
      · simpa only [if_neg hcontroller] using ih
  | @drop c cs cs' hc _ ih =>
      simp only [findsController, Traced.bind_result, controllerTag?_of_isIdle hc]
      exact (check_endAlike hc.tagFault).bind_left fun _ _ => ih

theorem findsController_of_isIdle {cs : List (ClassDeclaration τ)} (h : ∀ c ∈ cs, c.IsIdle lost) :
    EndAlikeUnless (LostWith lost) Eq (findsController cs).result (.ok false) := by
  have hthin : Thinned (ClassDeclaration.IsIdle lost) (ClassDeclaration.Thins lost (Eq (α := τ)))
      cs [] := by
    induction cs with
    | nil => exact .nil
    | cons c cs ih =>
        obtain ⟨hc, hcs⟩ := List.forall_mem_cons.mp h
        exact .drop hc (ih hcs)
  exact findsController_endAlike hthin

end

/-! ### Routes -/

section

variable {τ σ : Type} [DeclaredType τ] [DeclaredType σ] {lost : Fault → Prop} {R : τ → σ → Prop}
  {Q : TypeText → TypeText → Prop} {m : Method τ} {m' : Method σ}

theorem boundType?_endAlike (hR : AnswersWith R Q) (name : String) {ps : List (Parameter τ)}
    {ps' : List (Parameter σ)} (h : Thinned Parameter.IsIdle (Parameter.Thins R) ps ps') :
    EndAlike (Option.Rel R) (boundType? name ps).result (boundType? name ps').result := by
  induction h with
  | nil => exact .ok .none
  | @keep p p' ps ps' hp _ ih =>
      rw [boundType?, boundType?, firstTag?_eq hp.tags, firstTag?_eq hp.tags]
      cases firstTag? (· == .pathParam) p'.tags with
      | some tag =>
          simp only [Traced.bind_result]
          refine (EndAlike.refl tag.path.result).bind fun text text' htext => ?_
          rw [htext]
          by_cases hname : text' = name
          · simp only [if_pos hname, Traced.pure_result]
            exact .ok (.some hp.type)
          · simpa only [if_neg hname] using ih
      | none =>
          cases firstTag? (· == .pathParams) p'.tags with
          | none => exact ih
          | some tag =>
              simp only [Traced.bind_result, Traced.ofExcept_result]
              refine (hR.field? hp.type name).bind fun found found' hfound => ?_
              cases hfound with
              | none => exact ih
              | some hab => exact .ok (.some hab)
  | drop hp _ ih =>
      rw [boundType?, firstTag?_of_isIdle hp, firstTag?_of_isIdle hp]
      exact ih

theorem bindSegments_endAlike (hR : AnswersWith R Q) (hm : m.Thins lost R m')
    (className : Option String) (parts : List PathPart) :
    EndAlike (List.Forall₂ (PathSegment.Alike Q)) (m.bindSegments className parts).result
      (m'.bindSegments className parts).result := by
  induction parts with
  | nil => exact .ok .nil
  | cons part parts ih =>
      cases part with
      | literal text =>
          simp only [Method.bindSegments, Traced.bind_result]
          exact ih.bind fun _ _ hsegments => .ok (.cons (.literal text) hsegments)
      | parameter name ending =>
          simp only [Method.bindSegments, Traced.bind_result]
          refine (boundType?_endAlike hR name hm.parameters).bind fun found found' hfound => ?_
          cases hfound with
          | none =>
              simp only [hm.name, Traced.report_result]
              exact .error _
          | some hab =>
              simp only [Traced.bind_result]
              refine (hR.typeText hab).bind fun t u htu => ?_
              exact ih.bind fun _ _ hsegments => .ok (.cons (.parameter name ending htu) hsegments)

theorem body_endAlike (hR : AnswersWith R Q) (hm : m.Thins lost R m') :
    EndAlike (Option.Rel (Binding.Alike Q)) m.body.result m'.body.result := by
  have hrel := parameter?_rel hm .body
  unfold Method.body
  generalize m.parameter? .body = p at hrel ⊢
  generalize m'.parameter? .body = p' at hrel ⊢
  cases hrel with
  | none => exact .ok .none
  | some hp =>
      simp only [Traced.bind_result, Traced.ofExcept_result]
      refine (hR.carried hp.type).bind fun t u htu => ?_
      exact (hR.typeText htu).bind fun _ _ htext => .ok (.some ⟨hp.name, htext⟩)

theorem response_endAlike (hR : AnswersWith R Q) (hm : m.Thins lost R m') :
    EndAlike (Option.Rel Q) m.response.result m'.response.result := by
  simp only [Method.response, Traced.bind_result, Traced.ofExcept_result]
  refine (hR.carried hm.returns).bind fun t u htu => ?_
  rw [hR.isVoid htu]
  by_cases hvoid : DeclaredType.isVoid u = true
  · simp only [if_pos hvoid]
    exact .ok .none
  · simp only [if_neg hvoid, Traced.bind_result]
    exact (hR.typeText htu).bind fun _ _ htext => .ok (.some htext)

theorem query_endAlike (hR : AnswersWith R Q) (hm : m.Thins lost R m') :
    EndAlike (Option.Rel (Binding.Alike Q)) m.query.result m'.query.result := by
  have hrel := parameter?_rel hm .queryParams
  unfold Method.query
  generalize m.parameter? .queryParams = p at hrel ⊢
  generalize m'.parameter? .queryParams = p' at hrel ⊢
  cases hrel with
  | none => exact .ok .none
  | some hp =>
      simp only [Traced.bind_result]
      exact (hR.typeText hp.type).bind fun _ _ htext => .ok (.some ⟨hp.name, htext⟩)

theorem route_endAlike (hR : AnswersWith R Q) (hm : m.Thins lost R m')
    (hroute : (routeTag? m.tags).isSome) (basePath : String) (tag : Tag) (verb : Verb)
    (className : Option String) :
    EndAlikeUnless (LostWith lost) (Route.Alike Q) (m.route basePath tag verb className).result
      (m'.route basePath tag verb className).result := by
  simp only [Method.route, Method.segments, Traced.bind_result]
  refine (EndAlikeUnless.refl tag.path.result).bind fun path _ hpath => ?_
  subst hpath
  refine (check_endAlike (hm.parameterFault hroute)).bind fun _ _ _ => EndAlike.unless ?_ _
  refine (bindSegments_endAlike hR hm className _).bind fun _ _ hsegments => ?_
  refine (body_endAlike hR hm).bind fun _ _ hbody => ?_
  refine (response_endAlike hR hm).bind fun _ _ hresponse => ?_
  refine (query_endAlike hR hm).bind fun _ _ hquery => ?_
  exact .ok ⟨hm.name, hsegments, rfl, hbody, hquery, hresponse⟩

theorem methodRoutes_endAlike (hR : AnswersWith R Q) (basePath className : String)
    (names : List String) {ms : List (Method τ)} {ms' : List (Method σ)}
    (h : Thinned (Method.IsIdle lost) (Method.Thins lost R) ms ms') :
    EndAlikeUnless (LostWith lost) (List.Forall₂ (Route.Alike Q))
      (methodRoutes basePath className names ms).result
      (methodRoutes basePath className names ms').result := by
  induction h generalizing names with
  | nil => exact .ok .nil
  | @keep m m' ms ms' hm _ ih =>
      simp only [methodRoutes, Traced.bind_result, ← routeTag?_eq hm.tags, hm.name]
      refine (check_endAlike hm.tagFault).bind fun _ _ _ => ?_
      rcases htag : routeTag? m.tags with _ | ⟨tag, verb⟩
      · exact ih names
      · by_cases htaken : names.contains m'.name = true
        · simp only [if_pos htaken, Traced.report_result]
          exact .error _
        · simp only [if_neg htaken, Traced.bind_result]
          refine (route_endAlike hR hm (by rw [htag]; rfl) basePath tag verb _).bind
            fun _ _ hroute => ?_
          exact (ih _).bind fun _ _ hroutes => .ok (.cons hroute hroutes)
  | drop hm _ ih =>
      simp only [methodRoutes, Traced.bind_result, routeTag?_of_isIdle hm]
      exact (check_endAlike hm.tagFault).bind_left fun _ _ => ih names

/-! ### Classes and units -/

theorem routeClass_endAlike (hR : AnswersWith R Q) {c : ClassDeclaration τ}
    {c' : ClassDeclaration σ} (h : c.Thins lost R c') (hcontroller : c.controllerTag?.isSome) :
    EndAlikeUnless (LostWith lost) (RouteClass.Alike Q) c.routeClass.result
      c'.routeClass.result := by
  obtain ⟨tag, htag⟩ := Option.isSome_iff_exists.mp hcontroller
  unfold ClassDeclaration.routeClass
  rw [← controllerTag?_eq h, htag, h.name]
  simp only [Traced.bind_result]
  refine (EndAlikeUnless.refl tag.path.result).bind fun path _ hpath => ?_
  subst hpath
  exact (methodRoutes_endAlike hR path _ _ (h.methods hcontroller)).bind
    fun _ _ hroutes => .ok ⟨rfl, hroutes⟩

theorem routeClasses_endAlike (hR : AnswersWith R Q) {cs : List (ClassDeclaration τ)}
    {cs' : List (ClassDeclaration σ)}
    (h : Thinned (ClassDeclaration.IsIdle lost) (ClassDeclaration.Thins lost R) cs cs') :
    EndAlikeUnless (LostWith lost) (List.Forall₂ (RouteClass.Alike Q)) (routeClasses cs).result
      (routeClasses cs').result := by
  induction h with
  | nil => exact .ok .nil
  | @keep c c' cs cs' hc _ ih =>
      simp only [routeClasses, Traced.bind_result, ← controllerTag?_eq hc]
      refine (check_endAlike hc.tagFault).bind fun _ _ _ => ?_
      by_cases hcontroller : c.controllerTag?.isSome = true
      · simp only [if_pos hcontroller, Traced.bind_result]
        refine (routeClass_endAlike hR hc hcontroller).bind fun _ _ hroutes => ?_
        exact ih.bind fun _ _ hclasses => .ok (.cons hroutes hclasses)
      · simpa only [if_neg hcontroller] using ih
  | drop hc _ ih =>
      simp only [routeClasses, Traced.bind_result, controllerTag?_of_isIdle hc]
      exact (check_endAlike hc.tagFault).bind_left fun _ _ => ih

/-- Classes whose routes are alike have the same client names. -/
theorem repeatedClient?_eq {cs cs' : List RouteClass} (h : List.Forall₂ (RouteClass.Alike Q) cs cs')
    (seen : List String) : repeatedClient? seen cs = repeatedClient? seen cs' := by
  induction h generalizing seen with
  | nil => rfl
  | @cons c c' _ _ hc _ ih =>
      have hname : c.clientName = c'.clientName := by
        rw [RouteClass.clientName, RouteClass.clientName, hc.baseName]
      rw [repeatedClient?, repeatedClient?, hname, ih]

theorem routeFile_endAlike (s : RouteSettings) (hR : AnswersWith R Q) {u : SourceUnit τ}
    {u' : SourceUnit σ} (h : u.Thins lost R u') :
    EndAlikeUnless (LostWith lost) (RouteFile.Alike Q) (s.routeFile u).result
      (s.routeFile u').result := by
  simp only [RouteSettings.routeFile, Traced.bind_result]
  refine (routeClasses_endAlike hR h.classes).bind fun classes classes' hclasses => ?_
  rw [repeatedClient?_eq hclasses, h.name]
  cases repeatedClient? [] classes' with
  | some client =>
      simp only [Traced.report_result]
      exact .error _
  | none => exact .ok ⟨rfl, rfl, hclasses⟩

/-- Units with related types give related routes, and those of their parts that routing does not
know play no part in it, unless they have tags that cannot be read. -/
theorem routeFiles_endAlike (s : RouteSettings) (hR : AnswersWith R Q) {us : List (SourceUnit τ)}
    {us' : List (SourceUnit σ)} (h : UnitsThinned lost R us us') :
    EndAlikeUnless (LostWith lost) (List.Forall₂ (RouteFile.Alike Q)) (s.routeFiles us).result
      (s.routeFiles us').result := by
  induction h with
  | nil => exact .ok .nil
  | @keep u u' us us' hu _ ih =>
      simp only [RouteSettings.routeFiles, Traced.bind_result]
      refine (findsController_endAlike hu.classes).bind fun found _ hfound => ?_
      subst hfound
      by_cases hcontroller : found = true
      · simp only [if_pos hcontroller, Traced.bind_result]
        refine (routeFile_endAlike s hR hu).bind fun _ _ hfile => ?_
        exact ih.bind fun _ _ hfiles => .ok (.cons hfile hfiles)
      · simp only [if_neg hcontroller, Traced.bind_result, Traced.note_result]
        exact ih
  | @drop u us us' hu _ ih =>
      simp only [RouteSettings.routeFiles, Traced.bind_result]
      refine (findsController_of_isIdle hu).bind_left fun found hfound => ?_
      subst hfound
      exact ih

/-- Units give what is given by those of their parts that routing knows, unless a tag is lost that
cannot be read. -/
theorem routeFiles_eq_or_error (s : RouteSettings) (hR : AnswersAlike R) {us : List (SourceUnit τ)}
    {us' : List (SourceUnit σ)} (h : UnitsThinned lost R us us') :
    (s.routeFiles us').result = (s.routeFiles us).result ∨
      ∃ f, lost f ∧ (s.routeFiles us).result = .error (.fault f) := by
  have hends := (routeFiles_endAlike s hR.answersWith h).eq_or_early fun _ _ hfiles =>
    List.eq_of_forall₂ hfiles fun _ _ => RouteFile.Alike.eq
  exact hends.imp_right fun ⟨_, ⟨f, hf, he⟩, herror⟩ => ⟨f, hf, he ▸ herror⟩

end

/-! ### Routes of units whose tags can be read -/

section

variable {τ : Type} [DeclaredType τ]

theorem eq_none_of_check {fault : Option Fault} {r : Unit}
    (h : (Traced.check fault).result = .ok r) (f : Fault) : fault ≠ some f := by
  rintro rfl
  cases h

theorem not_hasUnreadTag_of_methodRoutes {basePath className : String} {names : List String}
    {ms : List (Method τ)} {routes : List Route}
    (h : (methodRoutes basePath className names ms).result = .ok routes) :
    ∀ m ∈ ms, ∀ f, ¬ m.HasUnreadTag f := by
  induction ms generalizing names routes with
  | nil => exact fun m hm => by cases hm
  | cons m ms ih =>
      rw [methodRoutes, Traced.bind_result] at h
      obtain ⟨_, hcheck, h⟩ := bind_eq_ok_iff.mp h
      rcases htag : routeTag? m.tags with _ | ⟨tag, verb⟩ <;> rw [htag] at h
      · refine List.forall_mem_cons.mpr ⟨fun f hf => ?_, ih h⟩
        rcases hf with hf | ⟨hroute, -⟩
        · exact eq_none_of_check hcheck f hf
        · rw [htag] at hroute
          cases hroute
      · simp only at h
        split at h
        · cases h
        · simp only [Traced.bind_result] at h
          obtain ⟨r, hr, h⟩ := bind_eq_ok_iff.mp h
          obtain ⟨rest, hrest, -⟩ := bind_eq_ok_iff.mp h
          simp only [Method.route, Traced.bind_result] at hr
          obtain ⟨_, -, hr⟩ := bind_eq_ok_iff.mp hr
          obtain ⟨_, hparameter, -⟩ := bind_eq_ok_iff.mp hr
          refine List.forall_mem_cons.mpr ⟨fun f hf => ?_, ih hrest⟩
          rcases hf with hf | ⟨-, hf⟩
          · exact eq_none_of_check hcheck f hf
          · exact eq_none_of_check hparameter f hf

theorem not_hasUnreadTag_of_routeClasses {cs : List (ClassDeclaration τ)}
    {classes : List RouteClass} (h : (routeClasses cs).result = .ok classes) :
    ∀ c ∈ cs, ∀ f, ¬ c.HasUnreadTag f := by
  induction cs generalizing classes with
  | nil => exact fun c hc => by cases hc
  | cons c cs ih =>
      rw [routeClasses, Traced.bind_result] at h
      obtain ⟨_, hcheck, h⟩ := bind_eq_ok_iff.mp h
      by_cases hcontroller : c.controllerTag?.isSome = true
      · simp only [if_pos hcontroller, Traced.bind_result] at h
        obtain ⟨rc, hrc, h⟩ := bind_eq_ok_iff.mp h
        obtain ⟨rest, hrest, -⟩ := bind_eq_ok_iff.mp h
        obtain ⟨basePath, hresult⟩ := routeClass_result c
        obtain ⟨routes, hroutes, -⟩ := bind_eq_ok_iff.mp (hresult ▸ hrc)
        refine List.forall_mem_cons.mpr ⟨fun f hf => ?_, ih hrest⟩
        rcases hf with hf | ⟨-, m, hm, hf⟩
        · exact eq_none_of_check hcheck f hf
        · exact not_hasUnreadTag_of_methodRoutes hroutes m hm f hf
      · rw [if_neg hcontroller] at h
        refine List.forall_mem_cons.mpr ⟨fun f hf => ?_, ih h⟩
        rcases hf with hf | ⟨htag, -⟩
        · exact eq_none_of_check hcheck f hf
        · exact hcontroller htag

omit [DeclaredType τ] in
theorem not_hasUnreadTag_of_findsController {cs : List (ClassDeclaration τ)}
    (h : (findsController cs).result = .ok false) : ∀ c ∈ cs, ∀ f, ¬ c.HasUnreadTag f := by
  induction cs with
  | nil => exact fun c hc => by cases hc
  | cons c cs ih =>
      rw [findsController, Traced.bind_result] at h
      obtain ⟨_, hcheck, h⟩ := bind_eq_ok_iff.mp h
      by_cases hcontroller : c.controllerTag?.isSome = true
      · rw [if_pos hcontroller] at h
        cases h
      · rw [if_neg hcontroller] at h
        refine List.forall_mem_cons.mpr ⟨fun f hf => ?_, ih h⟩
        rcases hf with hf | ⟨htag, -⟩
        · exact eq_none_of_check hcheck f hf
        · exact hcontroller htag

/-- Where units have route files, all their tags that routing reads can be read. -/
theorem not_unitsHaveUnreadTag_of_routeFiles {s : RouteSettings} {us : List (SourceUnit τ)}
    {files : List RouteFile} (h : (s.routeFiles us).result = .ok files) :
    ∀ f, ¬ UnitsHaveUnreadTag us f := by
  suffices hunits : ∀ u ∈ us, ∀ c ∈ u.classes, ∀ f, ¬ c.HasUnreadTag f by
    rintro f ⟨u, hu, c, hc, hf⟩
    exact hunits u hu c hc f hf
  induction us generalizing files with
  | nil => exact fun u hu => by cases hu
  | cons u us ih =>
      rw [RouteSettings.routeFiles, Traced.bind_result] at h
      obtain ⟨found, hfound, h⟩ := bind_eq_ok_iff.mp h
      cases found with
      | true =>
          simp only [if_true, Traced.bind_result] at h
          obtain ⟨file, hfile, h⟩ := bind_eq_ok_iff.mp h
          obtain ⟨rest, hrest, -⟩ := bind_eq_ok_iff.mp h
          simp only [RouteSettings.routeFile, Traced.bind_result] at hfile
          obtain ⟨classes, hclasses, -⟩ := bind_eq_ok_iff.mp hfile
          exact List.forall_mem_cons.mpr ⟨not_hasUnreadTag_of_routeClasses hclasses, ih hrest⟩
      | false => exact List.forall_mem_cons.mpr ⟨not_hasUnreadTag_of_findsController hfound, ih h⟩

/-- Tags that routing does not know, and parameters, methods, classes and units without the tags
that count for them, can be left out of units in any number: the route files are the same, and so is
the failure where there is one, unless the run ends at a tag that cannot be read. Where what is left
has route files, the units have the same ones exactly if all tags that routing reads can be read. -/
theorem routeFiles_thinned (s : RouteSettings) {us us' : List (SourceUnit τ)}
    (h : UnitsThinned (fun _ => True) Eq us us') :
    ((s.routeFiles us').result = (s.routeFiles us).result ∨
      ∃ f, UnitsHaveUnreadTag us f ∧ (s.routeFiles us).result = .error (.fault f)) ∧
    ∀ files, (s.routeFiles us').result = .ok files →
      ((s.routeFiles us).result = .ok files ↔ ∀ f, ¬ UnitsHaveUnreadTag us f) := by
  have hends := routeFiles_eq_or_error s .of_eq (UnitsThinned.mono h fun f hf => hf)
  refine ⟨hends, fun files hfiles => ⟨not_unitsHaveUnreadTag_of_routeFiles, fun hread => ?_⟩⟩
  rcases hends with heq | ⟨f, hf, -⟩
  · rw [← heq, hfiles]
  · exact absurd hf (hread f)

end

/-- A type without imports and fields. -/
def plainType (text : String) : DescribedType := ⟨text, [], false, none, []⟩

/-- The route of a book, with the tag of its controller and those of its parameter. -/
def plainBookUnits : List (SourceUnit DescribedType) :=
  [{ name := "books_controller.py"
     classes := [
       { name := "BooksController"
         tags := [⟨"Controller", ["'/books'"]⟩]
         methods := [
           { name := "find"
             tags := [⟨"Get", ["'/:id'"]⟩]
             parameters :=
               [{ name := "key", tags := [⟨"Param", ["'id'"]⟩], type := plainType "int" }]
             returns := plainType "Book" }] }] }]

/-- The route of a book among declarations that routing passes over. -/
def annotatedBookUnits : List (SourceUnit DescribedType) :=
  [{ name := "shelves.py", classes := [{ name := "Shelf", tags := [⟨"dataclass", []⟩] }] },
   { name := "books_controller.py"
     classes := [
       { name := "Book" },
       { name := "BooksController"
         tags := [⟨"final", []⟩, ⟨"Controller", ["'/books'"]⟩]
         methods := [
           { name := "find", returns := plainType "None" },
           { name := "find"
             tags := [⟨"Get", ["'/:id'"]⟩, ⟨"cached", ["60"]⟩]
             parameters := [
               { name := "self", type := plainType "Any" },
               { name := "key", tags := [⟨"Doc", ["'id'"]⟩, ⟨"Param", ["'id'"]⟩]
                 type := plainType "int" }]
             returns := plainType "Book" }] }] }]

theorem routeFiles_thinned_books :
    UnitsThinned (fun _ => True) Eq annotatedBookUnits plainBookUnits ∧
      (∀ f, ¬ UnitsHaveUnreadTag annotatedBookUnits f) ∧
      (({} : RouteSettings).routeFiles plainBookUnits).result =
        (({} : RouteSettings).routeFiles annotatedBookUnits).result ∧
      (({} : RouteSettings).routeFiles plainBookUnits).result.isOk := by
  have hthin : UnitsThinned (fun _ => True) Eq annotatedBookUnits plainBookUnits := by
    refine .drop ?_ (.keep ⟨rfl, .drop ?_ (.keep ⟨rfl, ?_, .inl rfl, fun _ => ?_⟩ .nil)⟩ .nil)
    · exact List.forall_mem_singleton.mpr ⟨.inl rfl, by simp⟩
    · exact ⟨.inl rfl, by simp⟩
    · exact .drop rfl (.keep rfl .nil)
    · refine .drop ⟨.inl rfl, by simp⟩
        (.keep ⟨rfl, .keep rfl (.drop rfl .nil), .inl rfl, ?_, fun _ => .inl rfl, rfl⟩ .nil)
      refine .drop ?_ (.keep ⟨rfl, .drop rfl (.keep rfl .nil), rfl⟩ .nil)
      simp [Parameter.IsIdle]
  obtain ⟨files, hfiles⟩ : ∃ files,
    (({} : RouteSettings).routeFiles annotatedBookUnits).result = .ok files := ⟨_, rfl⟩
  have hread := not_unitsHaveUnreadTag_of_routeFiles hfiles
  refine ⟨hthin, hread, ?_, rfl⟩
  exact (routeFiles_thinned {} hthin).1.resolve_right fun ⟨f, hf, _⟩ => hread f hf

/-- The controller of books with a further method, which has no verb and a tag that cannot be
read. -/
def notedBookUnits : List (SourceUnit DescribedType) :=
  plainBookUnits.map fun u => { u with classes := u.classes.map fun c => { c with methods :=
    { name := "note", tags := [⟨"note", []⟩], tagFault := some .backslashInField
      returns := plainType "None" } :: c.methods } }

theorem not_routeFiles_thinned :
    UnitsThinned (fun _ => True) Eq notedBookUnits plainBookUnits ∧
      (({} : RouteSettings).routeFiles plainBookUnits).result.isOk ∧
      (({} : RouteSettings).routeFiles notedBookUnits).result =
        .error (.fault .backslashInField) := by
  refine ⟨?_, rfl, rfl⟩
  refine .keep ⟨rfl, .keep ⟨rfl, .refl (fun _ => rfl) _, .inl rfl, fun _ => ?_⟩ .nil⟩ .nil
  refine .drop ⟨.inr ⟨_, rfl, trivial⟩, ?_⟩ (.refl (fun m => ?_) _)
  · exact List.forall_mem_singleton.mpr rfl
  · exact ⟨rfl, .refl (fun _ => rfl) _, .inl rfl, .refl (fun p => ⟨rfl, .refl (fun _ => rfl) _, rfl⟩) _,
      fun _ => .inl rfl, rfl⟩

end TypedClients
