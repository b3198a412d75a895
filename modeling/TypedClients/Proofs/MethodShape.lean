import TypedClients.Proofs.ParameterNames

/-!
# The shape of client methods and modules

The names of a method's parameters fall into those of the path, the one of the body and the one of
the query. `method_shape` gives the whole method in terms of these three, `clientModule_shape` the
whole module in terms of its classes.
-/
namespace TypedClients.Client

open TypedClients.Code

/-- Something for each value of a route, by the part of a request that the value goes to. -/
structure RouteParts (β : Type) where
  path : List β
  body : Option β := none
  query : Option β := none

namespace RouteParts

variable {β γ : Type}

def all (p : RouteParts β) : List β := p.path ++ p.body.toList ++ p.query.toList

/-- There is one thing for each value of the route. -/
structure Fits (p : RouteParts β) (r : Route) : Prop where
  path : p.path.length = r.pathParameters.length
  body : p.body.isSome = r.body.isSome
  query : p.query.isSome = r.query.isSome

/-- The things in the same places are related. -/
structure Related (R : β → γ → Prop) (p : RouteParts β) (q : RouteParts γ) : Prop where
  path : List.Forall₂ R p.path q.path
  body : List.Forall₂ R p.body.toList q.body.toList
  query : List.Forall₂ R p.query.toList q.query.toList

theorem length_toList_eq {o : Option β} {o' : Option γ} (h : o.isSome = o'.isSome) :
    o.toList.length = o'.toList.length := by
  cases o <;> cases o' <;> simp_all

theorem Fits.length_all {p : RouteParts β} {r : Route} (h : p.Fits r) :
    p.all.length = r.bindings.length := by
  simp only [all, Route.bindings, List.length_append, h.path, length_toList_eq h.body,
    length_toList_eq h.query]

theorem related_of_fits {R : β → γ → Prop} {p : RouteParts β} {q : RouteParts γ} {r : Route}
    (hp : p.Fits r) (hq : q.Fits r) (h : ∀ b c, (b, c) ∈ p.all.zip q.all → R b c) :
    p.Related R q := by
  have hpath : p.path.length = q.path.length := hp.path.trans hq.path.symm
  have hbody : p.body.toList.length = q.body.toList.length :=
    length_toList_eq (hp.body.trans hq.body.symm)
  have hquery : p.query.toList.length = q.query.toList.length :=
    length_toList_eq (hp.query.trans hq.query.symm)
  simp only [all, List.append_assoc, List.zip_append hpath, List.zip_append hbody,
    List.mem_append] at h
  exact ⟨List.forall₂_iff_zip.mpr ⟨hpath, fun hmem => h _ _ (.inl hmem)⟩,
    List.forall₂_iff_zip.mpr ⟨hbody, fun hmem => h _ _ (.inr (.inl hmem))⟩,
    List.forall₂_iff_zip.mpr ⟨hquery, fun hmem => h _ _ (.inr (.inr hmem))⟩⟩

end RouteParts

/-- What a method hands to the runtime: its options, overridden by the values of its route. -/
def requestExpr (verb : Verb) (names : RouteParts String) : Expr :=
  overriding (some (.name optionsName)) (requestEntries verb names.body names.query)

/-- The parameters of a method: the values of its route, then the options. -/
def withOptions (params : List (Param Expr)) : List (Param Expr) :=
  params ++ [{ name := optionsName, hint := some (.name optionsType) }]

/-- Names for all values of a route fall into those of its path, its body and its query. -/
theorem exists_routeParts (r : Route) {names : List String}
    (hlen : names.length = r.bindings.length) :
    ∃ parts : RouteParts String, parts.Fits r ∧ names = parts.all ∧
      (let afterPath := names.drop r.pathParameters.length
       parts.body = (if r.body.isSome then afterPath.head? else none) ∧
       parts.query =
         (if r.query.isSome then (afterPath.drop r.body.toList.length).head? else none)) := by
  have hpath : r.pathParameters.length ≤ names.length := by
    simp only [hlen, Route.bindings, List.length_append]; omega
  obtain ⟨path, afterPath, rfl, hp⟩ : ∃ path afterPath, names = path ++ afterPath ∧
      path.length = r.pathParameters.length :=
    ⟨_, _, (List.take_append_drop _ names).symm, List.length_take_of_le hpath⟩
  have hafter : afterPath.length = r.body.toList.length + r.query.toList.length := by
    simp only [Route.bindings, List.length_append] at hlen; omega
  rw [List.drop_left' hp]
  rcases hb : r.body with _ | b <;> rcases hq : r.query with _ | q <;>
    simp only [hb, hq, Option.toList_none, Option.toList_some, List.length_nil, List.length_cons]
      at hafter
  · obtain rfl := List.length_eq_zero_iff.mp hafter
    exact ⟨⟨path, none, none⟩, ⟨hp, by simp [hb], by simp [hq]⟩, by simp [RouteParts.all]⟩
  · obtain ⟨n, rfl⟩ := List.length_eq_one_iff.mp hafter
    exact ⟨⟨path, none, some n⟩, ⟨hp, by simp [hb], by simp [hq]⟩, by simp [RouteParts.all]⟩
  · obtain ⟨n, rfl⟩ := List.length_eq_one_iff.mp hafter
    exact ⟨⟨path, some n, none⟩, ⟨hp, by simp [hb], by simp [hq]⟩, by simp [RouteParts.all]⟩
  · obtain ⟨m, n, rfl⟩ := List.length_eq_two.mp hafter
    exact ⟨⟨path, some m, some n⟩, ⟨hp, by simp [hb], by simp [hq]⟩, by simp [RouteParts.all]⟩

/-- A method takes the values of its route under names of their own and then the options; its body
builds the URL and hands it to the runtime. -/
theorem method_shape {r : Route} {clientName : Option String} {f : Fragment}
    (h : method r clientName = .ok f) :
    ∃ (names : RouteParts String) (params : List (Param Expr)) (returns : Expr),
      names.Fits r ∧ bindingNames (place clientName r) [] r.bindings = .ok names.all ∧
      params.map (·.name) = names.all ∧
      f.definition = asyncMethod r.name (withOptions params) (some returns)
        (methodBody (url names.all r.segments) (requestExpr r.verb names)) ∧
      f.imports = (routeTypes r).flatMap (·.imports) := by
  obtain ⟨names, hnames, h⟩ := bind_eq_ok_iff.mp h
  obtain ⟨params, hparams, h⟩ := bind_eq_ok_iff.mp h
  have hlen := bindingNames_length hnames
  obtain ⟨parts, hfits, hall, hbody, hquery⟩ := exists_routeParts r hlen
  have hparams := bindingParams_names hparams hlen
  simp only [← hbody, ← hquery] at h
  -- Whether or not there is a response, one type is read for what the method gives back.
  rcases hr : r.response with _ | t <;> simp only [hr] at h <;>
    obtain ⟨returns, -, h⟩ := bind_eq_ok_iff.mp h <;> cases h <;>
    exact ⟨parts, params, returns, hfits, hall ▸ hnames, hall ▸ hparams, hall ▸ rfl, rfl⟩

/-! ### Modules -/

/-- A module holds the imports, the list of what it offers, and the classes of its route file. -/
theorem clientModule_shape {s : ClientSettings} {file : RouteFile} {m : ClientModule}
    (h : (s.clientModule file).result = .ok m) :
    ∃ classes, List.Forall₂ (fun c f => ofClass c = .ok f) file.classes classes ∧
      m = { apiName := file.apiName
            moduleName := file.baseFileName ++ s.moduleEnding
            body := (s.runtimeImports.requireAll (classes.flatMap (·.imports))).statements ++
              offers (file.classes.map RouteClass.clientName) :: classes.map (·.definition)
            exports := file.classes.map RouteClass.clientName } := by
  simp only [ClientSettings.clientModule, Traced.bind_result, Traced.ofExcept_result] at h
  obtain ⟨classes, hclasses, h⟩ := bind_eq_ok_iff.mp h
  cases h
  exact ⟨classes, mapM_eq_ok_iff.mp hclasses, rfl⟩

end TypedClients.Client
