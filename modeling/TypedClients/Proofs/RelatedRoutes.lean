import Mathlib.Data.List.Forall2
import TypedClients.Route

/-!
# Routes that differ in their types

Routes are alike if they differ in nothing but the texts of types, and if these texts are related
wherever they stand. Routes with the same texts are the same.
-/
namespace TypedClients

variable {Q : TypeText → TypeText → Prop}

inductive PathSegment.Alike (Q : TypeText → TypeText → Prop) : PathSegment → PathSegment → Prop
  | literal (text : String) : Alike Q (.literal text) (.literal text)
  | parameter (name ending : String) {t u : TypeText} (h : Q t u) :
      Alike Q (.parameter name t ending) (.parameter name u ending)

structure Binding.Alike (Q : TypeText → TypeText → Prop) (b b' : Binding) : Prop where
  name : b.name = b'.name
  type : Q b.type b'.type

structure Route.Alike (Q : TypeText → TypeText → Prop) (r r' : Route) : Prop where
  name : r.name = r'.name
  segments : List.Forall₂ (PathSegment.Alike Q) r.segments r'.segments
  verb : r.verb = r'.verb
  body : Option.Rel (Binding.Alike Q) r.body r'.body
  query : Option.Rel (Binding.Alike Q) r.query r'.query
  response : Option.Rel Q r.response r'.response

structure RouteClass.Alike (Q : TypeText → TypeText → Prop) (c c' : RouteClass) : Prop where
  baseName : c.baseName = c'.baseName
  routes : List.Forall₂ (Route.Alike Q) c.routes c'.routes

structure RouteFile.Alike (Q : TypeText → TypeText → Prop) (f f' : RouteFile) : Prop where
  apiName : f.apiName = f'.apiName
  baseFileName : f.baseFileName = f'.baseFileName
  classes : List.Forall₂ (RouteClass.Alike Q) f.classes f'.classes

/-! ### The same types -/

theorem Option.eq_of_rel {α : Type} {R : α → α → Prop} {x y : Option α} (hxy : Option.Rel R x y)
    (h : ∀ a b, R a b → a = b) : x = y := by
  cases hxy with
  | none => rfl
  | some hab => rw [h _ _ hab]

theorem List.eq_of_forall₂ {α : Type} {R : α → α → Prop} {xs ys : List α}
    (hxs : List.Forall₂ R xs ys) (h : ∀ a b, R a b → a = b) : xs = ys := by
  have heq : List.Forall₂ Eq xs ys := hxs.imp h
  rwa [List.forall₂_eq_eq_eq] at heq

theorem PathSegment.Alike.eq {s s' : PathSegment} (h : s.Alike Eq s') : s = s' := by
  cases h with
  | literal text => rfl
  | parameter name ending h => rw [h]

theorem Binding.Alike.eq {b b' : Binding} (h : b.Alike Eq b') : b = b' := by
  cases b
  cases b'
  rw [Binding.mk.injEq]
  exact ⟨h.name, h.type⟩

theorem Route.Alike.eq {r r' : Route} (h : r.Alike Eq r') : r = r' := by
  have hsegments := List.eq_of_forall₂ h.segments fun _ _ => PathSegment.Alike.eq
  have hbody := Option.eq_of_rel h.body fun _ _ => Binding.Alike.eq
  have hquery := Option.eq_of_rel h.query fun _ _ => Binding.Alike.eq
  have hresponse := Option.eq_of_rel h.response fun _ _ => id
  cases r
  cases r'
  rw [Route.mk.injEq]
  exact ⟨h.name, hsegments, h.verb, hbody, hquery, hresponse⟩

theorem RouteClass.Alike.eq {c c' : RouteClass} (h : c.Alike Eq c') : c = c' := by
  have hroutes := List.eq_of_forall₂ h.routes fun _ _ => Route.Alike.eq
  cases c
  cases c'
  rw [RouteClass.mk.injEq]
  exact ⟨h.baseName, hroutes⟩

theorem RouteFile.Alike.eq {f f' : RouteFile} (h : f.Alike Eq f') : f = f' := by
  have hclasses := List.eq_of_forall₂ h.classes fun _ _ => RouteClass.Alike.eq
  cases f
  cases f'
  rw [RouteFile.mk.injEq]
  exact ⟨h.apiName, h.baseFileName, hclasses⟩

end TypedClients
