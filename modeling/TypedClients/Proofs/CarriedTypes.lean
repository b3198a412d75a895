import TypedClients.Controller
import TypedClients.Proofs.TagPlaces

/-!
# Types in asynchronous wrappers

One asynchronous wrapper around a type makes no difference to what a method answers or to what it takes
as the body of a request, with any wrappers around and inside that add tags: `bodies_of_wrapped`. The
tags beside a parameter's type are read all the same, and where one of them cannot be read the body
cannot either.
-/
namespace TypedClients

open TypedClients.Code

/-! ### Wrapped types -/

namespace Code.Expr

/-- Whether a type is in an asynchronous wrapper. -/
def isCarrying : Expr → Bool
  | .subscript value _ => (value.baseName?.bind CarriedPlace.ofName?).isSome
  | _ => false

/-- The second type is the first one in one asynchronous wrapper. Wrappers that add tags may stand
around and inside this one, and others around the first type. -/
inductive WrapsOnce : Expr → Expr → Prop
  | only {type wrapper : Expr} (before around inside : List TagLayer)
      (hplain : type.untagged.isCarrying = false) (hitems : ∀ items, type.tagged inside ≠ .tuple items)
      (hname : wrapper.baseName? ∈ [some "Awaitable", some "Future", some "Task"]) :
      WrapsOnce (type.tagged before) ((Expr.subscript wrapper (type.tagged inside)).tagged around)
  | last {type wrapper : Expr} (before around inside : List TagLayer) (others : List Expr)
      (hplain : type.untagged.isCarrying = false) (hname : wrapper.baseName? = some "Coroutine") :
      WrapsOnce (type.tagged before)
        ((Expr.subscript wrapper (.tuple (others ++ [type.tagged inside]))).tagged around)

end Code.Expr

namespace SourceType

variable (m : SourceModule) (project : Option SourceProject)

theorem carried_of_plain {e : Expr} (h : e.untagged.isCarrying = false) :
    DeclaredType.carried (ofExpr (some e) m project) = .ok (ofExpr (some e) m project) := by
  have hnone : (ofExpr (some e) m project).carried? = .ok none := by
    unfold carried?
    split
    · rename_i value index heq
      have hvalue : e.untagged = .subscript value index := Option.some.inj heq
      rw [hvalue, Expr.isCarrying, Option.isSome_eq_false_iff, Option.isNone_iff_eq_none] at h
      rw [h]
    · rfl
  change Except.map _ (carried? _) = _
  rw [hnone]
  rfl

theorem carried_of_place {e value index inner : Expr} {place : CarriedPlace}
    (he : e.untagged = .subscript value index)
    (hplace : value.baseName?.bind CarriedPlace.ofName? = some place)
    (hpick : place.pick? index.typeArguments = some inner) :
    DeclaredType.carried (ofExpr (some e) m project) = .ok (ofExpr (some inner) m project) := by
  change Except.map _ (carried? _) = _
  simp only [carried?, ofExpr, Option.map_some, he, hplace, hpick]
  rfl

theorem ofExpr_tagged (type : Expr) (layers : List TagLayer) :
    ofExpr (some (type.tagged layers)) m project = ofExpr (some type) m project := by
  rw [ofExpr, ofExpr, Option.map_some, Option.map_some, Expr.untagged_tagged]

theorem untagged_of_name {wrapper index : Expr} (h : wrapper.baseName? ≠ some taggedType) :
    (Expr.subscript wrapper index).untagged = .subscript wrapper index := by
  refine Expr.untagged_of_isTagged ?_
  unfold Expr.isTagged
  split
  · rename_i heq
    cases heq
    exact beq_eq_false_iff_ne.mpr h
  · rfl

theorem isVoid_ofExpr_iff (e : Expr) :
    DeclaredType.isVoid (ofExpr (some e) m project) = true ↔ e.untagged = .absent := by
  change SourceType.isVoid ⟨some e.untagged, m, project⟩ = true ↔ _
  unfold isVoid
  cases e.untagged with
  | constant v => cases v <;> simp [Expr.absent]
  | _ => simp [Expr.absent]

/-- What a wrapped type carries is what the type alone stands for. -/
theorem carried_of_wrapsOnce {type e : Expr} (h : type.WrapsOnce e) :
    DeclaredType.carried (ofExpr (some e) m project) = .ok (ofExpr (some type) m project) ∧
      DeclaredType.carried (ofExpr (some type) m project) = .ok (ofExpr (some type) m project) := by
  cases h with
  | @only type wrapper before around inside hplain hitems hname =>
      have hplace : wrapper.baseName?.bind CarriedPlace.ofName? = some .first := by
        simp only [List.mem_cons, List.not_mem_nil, or_false] at hname
        rcases hname with h | h | h <;> rw [h] <;> rfl
      -- the wrappers that add tags end at the asynchronous one
      have huntagged : (Expr.subscript wrapper (type.tagged inside)).untagged =
          .subscript wrapper (type.tagged inside) := by
        refine untagged_of_name fun h => ?_
        rw [h] at hname
        revert hname
        decide
      have hpick : CarriedPlace.first.pick? (type.tagged inside).typeArguments =
          some (type.tagged inside) := by
        unfold Expr.typeArguments
        split
        · rename_i items heq
          exact absurd heq (hitems items)
        · rfl
      rw [ofExpr_tagged, ofExpr_tagged, carried_of_place m project huntagged hplace hpick,
        carried_of_plain m project hplain, ofExpr_tagged]
      exact ⟨rfl, rfl⟩
  | @last type wrapper before around inside others hplain hname =>
      have huntagged : (Expr.subscript wrapper (.tuple (others ++ [type.tagged inside]))).untagged =
          .subscript wrapper (.tuple (others ++ [type.tagged inside])) := by
        refine untagged_of_name fun h => ?_
        rw [hname] at h
        revert h
        decide
      have hpick : CarriedPlace.last.pick?
          (Expr.tuple (others ++ [type.tagged inside])).typeArguments = some (type.tagged inside) :=
        List.getLast?_concat
      rw [ofExpr_tagged, ofExpr_tagged,
        carried_of_place m project huntagged (by rw [hname]; rfl) hpick,
        carried_of_plain m project hplain, ofExpr_tagged]
      exact ⟨rfl, rfl⟩

end SourceType

/-! ### Answers -/

namespace Method

variable {τ : Type} [DeclaredType τ] {method method' : Method τ}

theorem response_of_carried {type : τ} (h' : DeclaredType.carried method'.returns = .ok type)
    (h : DeclaredType.carried method.returns = .ok type) : method'.response = method.response := by
  simp only [response, h', h]

theorem bindSegments_congr (hname : method'.name = method.name)
    (hparameters : method'.parameters = method.parameters) (className : Option String)
    (parts : List PathPart) :
    method'.bindSegments className parts = method.bindSegments className parts := by
  induction parts with
  | nil => rfl
  | cons part parts ih => cases part <;> simp only [bindSegments, hname, hparameters, ih]

/-- The type that is declared for the answer has a part in the route by the answer alone. -/
theorem route_congr (hname : method'.name = method.name)
    (hparameters : method'.parameters = method.parameters)
    (hfault : method'.parameterFault = method.parameterFault)
    (hresponse : method'.response = method.response) (basePath : String) (tag : Tag) (verb : Verb)
    (className : Option String) :
    method'.route basePath tag verb className = method.route basePath tag verb className := by
  simp only [route, segments, body, query, parameter?, bindSegments_congr hname hparameters, hname,
    hparameters, hfault, hresponse]

theorem response_eq_none_iff {type : τ} (h : DeclaredType.carried method.returns = .ok type) :
    method.response.result = .ok none ↔ DeclaredType.isVoid type = true := by
  simp only [response, h, Traced.bind_result, Traced.ofExcept_result]
  change (if DeclaredType.isVoid type then _ else _ : Traced (Option TypeText)).result = _ ↔ _
  cases DeclaredType.isVoid type with
  | true => simp
  | false =>
      simp only [Bool.false_eq_true, if_false, iff_false, Traced.bind_result]
      intro h
      obtain ⟨t, -, ht⟩ := bind_eq_ok_iff.mp h
      cases ht

/-- What is read of a method as the body of a request, once the tags of its parameters are read. -/
def requestBody (method : Method τ) : Traced (Option Binding) := do
  Traced.check method.parameterFault
  method.body

theorem requestBody_congr (hfault : method'.parameterFault = method.parameterFault)
    (hbody : method'.body = method.body) : method'.requestBody = method.requestBody := by
  rw [requestBody, requestBody, hfault, hbody]

theorem requestBody_of_fault {f : Fault} (h : method.parameterFault = some f) :
    method.requestBody.result = .error (.fault f) := by
  rw [requestBody, h]
  rfl

end Method

/-! ### Bodies of requests -/

section

variable {τ : Type} [DeclaredType τ]

/-- Whether the tags of a parameter make it the body of a request. -/
def makesBody (tags : List Tag) : Bool := (firstTag? (· == .body) tags).isSome

/-- Parameters that give the same body of a request. -/
structure Parameter.BodyAlike (p q : Parameter τ) : Prop where
  name : p.name = q.name
  makesBody : makesBody p.tags = makesBody q.tags
  type : DeclaredType.carried p.type = DeclaredType.carried q.type

theorem find?_of_bodyAlike {ps qs : List (Parameter τ)} (h : List.Forall₂ Parameter.BodyAlike ps qs) :
    Option.Rel Parameter.BodyAlike (ps.find? fun p => makesBody p.tags)
      (qs.find? fun q => makesBody q.tags) := by
  induction h with
  | nil => exact .none
  | cons hpq _ ih =>
      rw [List.find?_cons, List.find?_cons, hpq.makesBody]
      split
      · exact .some hpq
      · exact ih

theorem Method.body_of_bodyAlike {method method' : Method τ}
    (h : List.Forall₂ Parameter.BodyAlike method.parameters method'.parameters) :
    method'.body = method.body := by
  have hfind : Option.Rel Parameter.BodyAlike (method.parameter? .body) (method'.parameter? .body) :=
    find?_of_bodyAlike h
  unfold body
  generalize method.parameter? .body = found at hfind ⊢
  generalize method'.parameter? .body = found' at hfind ⊢
  cases hfind with
  | none => rfl
  | some hpq => simp only [hpq.name, hpq.type]

end

/-- A parameter may have its type in one asynchronous wrapper, where its tags make it the body of a
request just as before. -/
inductive Code.Param.BodyWraps : Param Expr → Param Expr → Prop
  | stays (p : Param Expr) : BodyWraps p p
  | wraps (name : String) (default : Option Expr) {type e : Expr} (h : type.WrapsOnce e)
      (hbody : makesBody ((SourceModule.taggingParts ⟨name, some type, default⟩).filterMap Tag.ofExpr?) =
        makesBody ((SourceModule.taggingParts ⟨name, some e, default⟩).filterMap Tag.ofExpr?)) :
      BodyWraps ⟨name, some type, default⟩ ⟨name, some e, default⟩

theorem Code.Param.BodyWraps.bodyAlike {p q : Param Expr} (h : p.BodyWraps q) (m : SourceModule)
    (project : Option SourceProject) : (m.parameter project p).BodyAlike (m.parameter project q) := by
  cases h with
  | stays => exact ⟨rfl, rfl, rfl⟩
  | wraps name default h hbody =>
      obtain ⟨hwrapped, hplain⟩ := SourceType.carried_of_wrapsOnce m project h
      exact ⟨rfl, hbody, hplain.trans hwrapped.symm⟩

/-- Signatures of which some parameters have their types in an asynchronous wrapper in the second
one. -/
structure Code.Params.BodiesWrap (ps qs : Params Expr) : Prop where
  positionalOnly : List.Forall₂ Param.BodyWraps ps.positionalOnly qs.positionalOnly
  ordinary : List.Forall₂ Param.BodyWraps ps.ordinary qs.ordinary
  keywordOnly : List.Forall₂ Param.BodyWraps ps.keywordOnly qs.keywordOnly

namespace SourceModule

/-- Of a method, one asynchronous wrapper around the type of its answer changes nothing of the route, and
around the types of parameters nothing of the body of requests, as far as the tags of parameters can be
read. -/
theorem bodies_of_wrapped (m : SourceModule) (project : Option SourceProject) (isAsync : Bool)
    (decorators : List Expr) (name : String) (params : Params Expr) (body : List Stmt) :
    (∀ type e, type.WrapsOnce e → ∃ method method',
      m.method? project (.functionDef isAsync decorators name params (some type) body) = some method ∧
      m.method? project (.functionDef isAsync decorators name params (some e) body) = some method' ∧
      method'.response = method.response ∧
      (∀ basePath tag verb className, method'.route basePath tag verb className =
        method.route basePath tag verb className) ∧
      (method'.response.result = .ok none ↔ type.untagged = .absent)) ∧
    ∀ params' returns, params.BodiesWrap params' → ∃ method method',
      m.method? project (.functionDef isAsync decorators name params returns body) = some method ∧
      m.method? project (.functionDef isAsync decorators name params' returns body) = some method' ∧
      method'.body = method.body ∧
      (method'.parameterFault = method.parameterFault → method'.requestBody = method.requestBody) ∧
      ∀ f, method'.parameterFault = some f → method'.requestBody.result = .error (.fault f) := by
  refine ⟨fun type e h => ⟨_, _, rfl, rfl, ?_⟩, fun params' returns h => ⟨_, _, rfl, rfl, ?_⟩⟩
  · obtain ⟨hwrapped, hplain⟩ := SourceType.carried_of_wrapsOnce m project h
    have hresponse {method method' : Method SourceType}
        (h' : method'.returns = SourceType.ofExpr (some e) m project)
        (h : method.returns = SourceType.ofExpr (some type) m project) :
        method'.response = method.response :=
      Method.response_of_carried (h' ▸ hwrapped) (h ▸ hplain)
    refine ⟨hresponse rfl rfl, Method.route_congr rfl rfl rfl (hresponse rfl rfl), ?_⟩
    exact (Method.response_eq_none_iff hwrapped).trans (SourceType.isVoid_ofExpr_iff m project type)
  · have hparams := argumentParams_of_forall₂ h.positionalOnly h.ordinary h.keywordOnly
      (isStatic (decorators.filterMap Tag.ofExpr?))
    have halike := List.forall₂_map_left_iff.mpr
      (List.forall₂_map_right_iff.mpr (hparams.imp fun p q hpq => hpq.bodyAlike m project))
    exact ⟨Method.body_of_bodyAlike halike,
      fun hfault => Method.requestBody_congr hfault (Method.body_of_bodyAlike halike),
      fun f => Method.requestBody_of_fault⟩

/-! ### A book as the body of a request -/

/-- A module with books from elsewhere. -/
def bookShop : SourceModule where
  name := ⟨"shop", false⟩
  path := "shop.py"
  body := [.importFrom (some "books") [{ name := "Book" }] 0]

/-- The parameters of a method that takes something of the given type as the body of a request. -/
def bodyParams (hint : Expr) : Params Expr :=
  { ordinary := [{ name := "self" },
      { name := "book", hint := some hint, default := some (.call (.name "Body") [] []) }] }

/-- A promise of a book, in wrappers that add tags. -/
def promisedBook (around : List TagLayer) : Expr :=
  (Expr.subscript (.name "Awaitable") (.name "Book")).tagged around

theorem wrapsOnce_promisedBook (around : List TagLayer) :
    Expr.WrapsOnce (.name "Book") (promisedBook around) :=
  .only [] around [] rfl (fun _ h => by cases h) (by decide)

/-- The default value makes the body of a request of a parameter, whatever stands beside its type. -/
theorem makesBody_of_default (name : String) (hint : Option Expr) :
    makesBody ((taggingParts ⟨name, hint, some (.call (.name "Body") [] [])⟩).filterMap Tag.ofExpr?) =
      true := by
  have hbody : Tag.ofExpr? (.call (.name "Body") [] []) = some { name := "Body" } := rfl
  have hrole : Tag.role? { name := "Body" } = some .body := by decide
  rw [makesBody, firstTag?, taggingParts, taggingDefault, List.filterMap_append, List.find?_isSome]
  exact ⟨_, List.mem_append_right _ (by rw [List.filterMap_cons_some hbody]; exact .head _), by simp [hrole]⟩

theorem bodiesWrap_promisedBook (around : List TagLayer) :
    (bodyParams (.name "Book")).BodiesWrap (bodyParams (promisedBook around)) where
  positionalOnly := .nil
  ordinary := by
    refine .cons (.stays _) (.cons (.wraps _ _ (wrapsOnce_promisedBook around) ?_) .nil)
    rw [makesBody_of_default, makesBody_of_default]
  keywordOnly := .nil

theorem bodies_of_wrapped_book :
    Expr.WrapsOnce (.name "Book") (promisedBook [tagLayer [.name "Later"]]) ∧
    (bodyParams (.name "Book")).BodiesWrap (bodyParams (promisedBook [])) ∧
    ∃ method, bookShop.method? none (.functionDef false [] "swap" (bodyParams (promisedBook []))
        (some (promisedBook [tagLayer [.name "Later"]])) []) = some method ∧
      method.requestBody.result = .ok (some ⟨"book", ⟨"Book", [⟨"books", some "Book", none⟩]⟩⟩) ∧
      method.response.result = .ok (some ⟨"Book", [⟨"books", some "Book", none⟩]⟩) := by
  have hreturns := wrapsOnce_promisedBook [tagLayer [.name "Later"]]
  have hparams := bodiesWrap_promisedBook []
  refine ⟨hreturns, hparams, ?_⟩
  obtain ⟨method, method', hmethod, hmethod', hresponse, -, -⟩ :=
    (bodies_of_wrapped bookShop none false [] "swap" (bodyParams (promisedBook [])) []).1 _ _ hreturns
  obtain ⟨plain, taking, hplain, htaking, -, hbody, -⟩ :=
    (bodies_of_wrapped bookShop none false [] "swap" (bodyParams (.name "Book")) []).2 _
      (some (promisedBook [tagLayer [.name "Later"]])) hparams
  refine ⟨method', hmethod', ?_, ?_⟩
  · cases hplain
    cases htaking
    cases hmethod'
    rw [hbody rfl]
    decide
  · cases hmethod
    rw [hresponse]
    decide

/-- A tag that cannot be read. -/
def unreadTag : Expr := .call (.name "Note") [.formatted [.field (.string "\x01") none none]] []

/-- Beside a wrapped type, a tag that cannot be read keeps the body from being read. -/
theorem not_bodies_of_wrapped : ¬ ∀ (m : SourceModule) (project : Option SourceProject)
    (isAsync : Bool) (decorators : List Expr) (name : String) (params params' : Params Expr)
    (returns : Option Expr) (body : List Stmt) (method method' : Method SourceType),
      params.BodiesWrap params' →
      m.method? project (.functionDef isAsync decorators name params returns body) = some method →
      m.method? project (.functionDef isAsync decorators name params' returns body) = some method' →
      method'.requestBody = method.requestBody := by
  intro h
  have hsame := congrArg (·.result.isOk) (h bookShop none false [] "create" (bodyParams (.name "Book"))
    (bodyParams (promisedBook [tagLayer [unreadTag]])) none [] _ _ (bodiesWrap_promisedBook _) rfl rfl)
  revert hsame
  decide

end SourceModule

end TypedClients
