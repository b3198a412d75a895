import Mathlib.Data.List.TakeWhile
import TypedClients.Proofs.ClassSearch
import TypedClients.Proofs.IdleDeclarations
import TypedClients.Proofs.LoadedProjects
import TypedClients.Proofs.TypeImports
import TypedClients.ProjectSettings

/-!
# Sources that are added to a project

Sources without controllers that no source of a project can refer to leave the routes of the project
as they are. The one thing that gets in the way is a tag on a class that cannot be read: routing
reads the tags of all classes, to find out which are controllers.
-/
namespace TypedClients

open TypedClients.Text TypedClients.Code

/-! ### Modules that do not refer to a module -/

/-- Nothing in a module can be taken for another module: not its name, no module that it takes names
from, no module below one that it renames, and no module with the root of a plain import. -/
structure SourceModule.Ignores (m d : SourceModule) : Prop where
  name : d.name.text ≠ m.name.text
  source : ∀ {name origin}, m.nameImports.get? name = some origin → origin.module ≠ d.name.text
  renamed : ∀ {name origin}, m.moduleImports.get? name = some origin → origin.localName.isSome →
    d.name.text ≠ origin.module ∧ ¬ (origin.module ++ ".").toList <+: d.name.text.toList
  plain : ∀ {name origin}, m.moduleImports.get? name = some origin → origin.localName = none →
    firstComponent d.name.text ≠ firstComponent origin.module

theorem toList_ofComponents_cons (first : String) (inner : List String) :
    (ModuleName.ofComponents (first :: inner)).toList =
      first.toList ++ (inner.flatMap fun s => '.' :: s.toList) := by
  induction inner generalizing first with
  | nil => simp [ModuleName.ofComponents]
  | cons second inner ih =>
      have h : ModuleName.ofComponents (first :: second :: inner) =
          first ++ "." ++ ModuleName.ofComponents (second :: inner) := by
        simp [ModuleName.ofComponents]
      rw [h, String.toList_append, String.toList_append, ih]
      simp

/-- A module asks for no module that it ignores. -/
theorem SourceModule.Ignores.ne_of_asksFor {m d : SourceModule} (h : m.Ignores d) {name : String}
    (hasks : m.AsksFor name) : d.name.text ≠ name := by
  cases hasks with
  | source hget => exact (h.source hget).symm
  | renamed hget hlocal inner =>
      rintro heq
      obtain ⟨hne, hbelow⟩ := h.renamed hget hlocal
      have hchars := congrArg String.toList heq
      rw [toList_ofComponents_cons] at hchars
      cases inner with
      | nil => exact hne (String.toList_inj.mp (by simpa using hchars))
      | cons second inner =>
          refine hbelow ⟨second.toList ++ inner.flatMap fun s => '.' :: s.toList, ?_⟩
          rw [hchars]
          simp
  | @plain first origin hget hlocal inner =>
      rintro heq
      refine h.plain hget hlocal ?_
      rcases get?_moduleImports hget with hsome | ⟨-, hfirst⟩
      · rw [hlocal] at hsome
        cases hsome
      · have hdots : ∀ c ∈ first.toList, (c != '.') = true := by
          rw [← hfirst, firstComponent, String.toList_ofList]
          intro c hc
          exact List.mem_takeWhile_imp (p := (· != '.')) hc
        rw [hfirst, heq, firstComponent, toList_ofComponents_cons,
          List.takeWhile_append_of_pos hdots]
        cases inner <;> simp

/-! ### Types in two projects -/

/-- A type in a module that two projects share, in the one and in the other. -/
inductive SourceType.Twins (p q : SourceProject) : SourceType → SourceType → Prop
  | intro (e : Option Expr) {m : SourceModule} (hm : m ∈ q.modules) :
      Twins p q ⟨e, m, some p⟩ ⟨e, m, some q⟩

namespace SourceType

variable {p q : SourceProject}

/-- Wrappers carry the same expressions in all modules. -/
theorem carried_endAlike {R : SourceType → SourceType → Prop} {m m' : SourceModule}
    {project project' : Option SourceProject} (hR : ∀ e, R ⟨e, m, project⟩ ⟨e, m', project'⟩)
    (e : Option Expr) :
    EndAlike R (DeclaredType.carried (τ := SourceType) ⟨e, m, project⟩)
      (DeclaredType.carried (τ := SourceType) ⟨e, m', project'⟩) := by
  change EndAlike R ((carried? ⟨e, m, project⟩).map (·.getD ⟨e, m, project⟩))
    ((carried? ⟨e, m', project'⟩).map (·.getD ⟨e, m', project'⟩))
  rcases e with _ | e
  · exact .ok (hR _)
  cases e
  case subscript value index =>
    simp only [carried?]
    cases value.baseName?.bind CarriedPlace.ofName? with
    | none => exact .ok (hR _)
    | some place =>
        simp only
        cases place.pick? index.typeArguments with
        | none => exact .error _
        | some e => exact .ok (hR _)
  all_goals exact .ok (hR _)

theorem field?_endAlike (hcovers : p.Covers q) {t u : SourceType} (h : Twins p q t u)
    (name : String) : EndAlike (Option.Rel (Twins p q)) (t.field? name) (u.field? name) := by
  cases h with
  | @intro e m hm =>
      cases e with
      | none => exact .ok .none
      | some e =>
          simp only [field?, classOf_eq hcovers hm]
          cases hclass : classOf (some q) m e with
          | error f => exact .error f
          | ok resolved =>
              cases resolved with
              | none => exact .ok .none
              | some c =>
                  have hc := has_of_classOf hm hclass
                  change EndAlike _ (searchClass _ _ _ _ _ >>= _) (searchClass _ _ _ _ _ >>= _)
                  rw [searchClass_eq_of_covers _ hcovers m m hc]
                  cases hsearch : searchClass (some q) name (classCount (some q) m + 1) [] c with
                  | error f => exact .error f
                  | ok answer =>
                      obtain ⟨found, seen⟩ := answer
                      cases found with
                      | none => exact .ok .none
                      | some source =>
                          exact .ok (.some (.intro _ (mem_of_searchClass hc hsearch)))

theorem answersAlike_twins (hcovers : p.Covers q) : AnswersAlike (Twins p q) where
  text h := by cases h; rfl
  imports h := by cases h; rfl
  isVoid h := by cases h; rfl
  carried h := by
    cases h with
    | @intro e m hm => exact carried_endAlike (fun e => .intro e hm) e
  field? h name := field?_endAlike hcovers h name

end SourceType

/-! ### Units in two projects -/

/-- No class of a module has the tag of controllers. -/
def SourceModule.HasNoController (m : SourceModule) : Prop :=
  ∀ c ∈ (m.unit none).classes, ∀ t ∈ c.tags, t.name ≠ "Controller"

instance (m : SourceModule) : Decidable m.HasNoController :=
  inferInstanceAs (Decidable (∀ c ∈ (m.unit none).classes, ∀ t ∈ c.tags, t.name ≠ "Controller"))

/-- A tag on a class of a module cannot be read. -/
def SourceModule.HasUnreadTag (m : SourceModule) (f : Fault) : Prop :=
  ∃ c ∈ (m.unit none).classes, c.tagFault = some f

section

variable {m m' : SourceModule} {project project' : Option SourceProject}
  {lost : Fault → Prop} {R : SourceType → SourceType → Prop}

theorem method?_rel (hR : ∀ e, R ⟨e, m, project⟩ ⟨e, m', project'⟩) (stmt : Stmt) :
    Option.Rel (Method.Thins lost R) (m.method? project stmt) (m'.method? project' stmt) := by
  have hparam (p : Param Expr) : (m.parameter project p).Thins R (m'.parameter project' p) :=
    { name := rfl
      tags := .refl (fun _ => rfl) _
      type := hR _ }
  unfold SourceModule.method?
  split
  · exact .some
      { name := rfl
        tags := .refl (fun _ => rfl) _
        tagFault := .inl rfl
        parameters := (Thinned.refl (R := Eq) (fun _ => rfl) _).map
          (fun p _ _ heq => heq ▸ hparam p) (fun _ (h : False) => h.elim)
        parameterFault := fun _ => .inl rfl
        returns := hR _ }
  · exact .none

/-- Modules with the same text have the same units up to their types. -/
theorem unit_thins (hbody : m.body = m'.body) (hpath : m.path = m'.path)
    (hR : ∀ e, R ⟨e, m, project⟩ ⟨e, m', project'⟩) :
    (m.unit project).Thins lost R (m'.unit project') where
  name := by
    change m.fileName = m'.fileName
    rw [SourceModule.fileName, SourceModule.fileName, hpath]
  classes := by
    rw [SourceModule.unit, SourceModule.unit, hbody]
    exact (Thinned.refl (R := Eq) (fun _ => rfl) _).map
      (fun _ _ _ heq => heq ▸
        { name := rfl
          tags := .refl (fun _ => rfl) _
          tagFault := .inl rfl
          methods := fun _ => Thinned.filterMap (method?_rel hR) _ })
      (fun _ (h : False) => h.elim)

end

section

variable {m : SourceModule}

/-- The tags on the classes of a module do not depend on the project. -/
theorem exists_class_of_mem {project : Option SourceProject} (project' : Option SourceProject)
    {c : ClassDeclaration SourceType} (h : c ∈ (m.unit project).classes) :
    ∃ c' ∈ (m.unit project').classes, c'.tags = c.tags ∧ c'.tagFault = c.tagFault := by
  obtain ⟨source, hsource, rfl⟩ := List.mem_map.mp h
  exact ⟨_, List.mem_map_of_mem hsource, rfl, rfl⟩

/-- A module without controllers has no part in routing, unless a tag on its classes cannot be
read. -/
theorem isIdle_unit {project : Option SourceProject} {lost : Fault → Prop}
    (hplain : m.HasNoController) (hlost : ∀ f, m.HasUnreadTag f → lost f) :
    (m.unit project).IsIdle lost := by
  intro c hc
  obtain ⟨c', hc', htags, hfault⟩ := exists_class_of_mem none hc
  refine ⟨?_, htags ▸ hplain c' hc'⟩
  cases h : c.tagFault with
  | none => exact .inl rfl
  | some f => exact .inr ⟨f, rfl, hlost f ⟨c', hc', hfault.trans h⟩⟩

end

/-! ### Reading more sources -/

/-- What two lists with idle items left out give is alike where idle items can be read. -/
theorem mapM_endAlike {ε α β : Type} {idle : α → Prop} {f : α → Except ε β} {as bs : List α}
    (h : Thinned idle Eq as bs) (hread : ∀ a, idle a → ∃ b, f a = .ok b) :
    EndAlike (Thinned (fun b => ∃ a, idle a ∧ f a = .ok b) Eq) (as.mapM f) (bs.mapM f) := by
  induction h with
  | nil => exact .ok .nil
  | @keep a _ as bs hab _ ih =>
      subst hab
      rw [List.mapM_cons, List.mapM_cons]
      refine (EndAlike.refl (f a)).bind fun b b' hb => ih.bind fun xs ys hs => ?_
      exact .ok (.keep hb hs)
  | @drop a as bs ha _ ih =>
      obtain ⟨b, hb⟩ := hread a ha
      rw [List.mapM_cons, hb]
      change EndAlike _ (as.mapM f >>= fun xs => .ok (b :: xs)) (bs.mapM f)
      generalize as.mapM f = xs at ih ⊢
      generalize bs.mapM f = ys at ih ⊢
      cases ih with
      | ok hs => exact .ok (.drop ⟨a, ha, hb⟩ hs)
      | error e => exact .error e

theorem thinned_filter {α : Type} (keep : α → Bool) (as : List α) :
    Thinned (fun a => keep a = false) Eq as (as.filter keep) := by
  induction as with
  | nil => exact .nil
  | cons a as ih =>
      rw [List.filter_cons]
      cases h : keep a with
      | true => exact .keep rfl ih
      | false => exact .drop h ih

namespace SourceProject

/-- The order of source texts by their paths. -/
def pathOrder (a b : String × String) : Bool := decide (a.1 ≤ b.1)

theorem pairwise_mergeSort_pathOrder (sources : List (String × String)) :
    (sources.mergeSort pathOrder).Pairwise fun a b => a.1 ≤ b.1 := by
  have h : (sources.mergeSort pathOrder).Pairwise fun a b => pathOrder a b = true :=
    List.pairwise_mergeSort (fun a b c => by simpa [pathOrder] using String.le_trans)
      (fun a b => by simpa [pathOrder] using String.le_total a.1 b.1) sources
  exact h.imp fun hab => by simpa [pathOrder] using hab

variable {sources further : List (String × String)}

/-- Among more sources those of a project are in the same order. -/
theorem thinned_mergeSort (hpaths : ((sources ++ further).map Prod.fst).Nodup) :
    Thinned (· ∈ further) Eq ((sources ++ further).mergeSort pathOrder)
      (sources.mergeSort pathOrder) := by
  have hnew (source) (hsource : source ∈ sources) : source ∉ further := by
    rw [List.map_append, List.nodup_append] at hpaths
    intro hmem
    exact hpaths.2.2 _ (List.mem_map_of_mem hsource) _ (List.mem_map_of_mem hmem) rfl
  have hfilter : ((sources ++ further).mergeSort pathOrder).filter (· ∉ further) =
      sources.mergeSort pathOrder := by
    have hanti (a b : String × String)
        (ha : a ∈ ((sources ++ further).mergeSort pathOrder).filter (· ∉ further))
        (hb : b ∈ sources.mergeSort pathOrder) (hab : a.1 ≤ b.1) (hba : b.1 ≤ a.1) : a = b := by
      have ha := List.mem_mergeSort.mp (List.mem_filter.mp ha).1
      have hb := List.mem_append_left further (List.mem_mergeSort.mp hb)
      exact List.inj_on_of_nodup_map hpaths ha hb (String.le_antisymm hab hba)
    refine List.Perm.eq_of_pairwise hanti ((pairwise_mergeSort_pathOrder _).filter _)
      (pairwise_mergeSort_pathOrder _) ?_
    refine ((List.mergeSort_perm _ _).filter _).trans (.trans ?_ (List.mergeSort_perm _ _).symm)
    rw [List.filter_append, List.filter_eq_self.mpr (by simpa using hnew),
      List.filter_eq_nil_iff.mpr (by simp), List.append_nil]
  have hthin := thinned_filter (fun source => decide (source ∉ further))
    ((sources ++ further).mergeSort pathOrder)
  rw [hfilter] at hthin
  exact hthin.mono (fun _ _ _ => id) fun source _ hsource => by simpa using hsource

end SourceProject

/-! ### Routes of more sources -/

namespace ProjectSettings

/-- The route files of source texts under their paths. -/
def sourceRoutes (s : ProjectSettings) (sources : List (String × String)) :
    Except Failure (List RouteFile) := do
  let project ← SourceProject.ofSources sources s.package
  (s.routeFiles project).result

/-- Further source texts that have nothing to do with those of a project: they can be read, no
module of the project refers to theirs, and they have no controllers. -/
structure Unrelated (s : ProjectSettings) (sources further : List (String × String)) : Prop where
  paths : ((sources ++ further).map Prod.fst).Nodup
  read : ∀ d ∈ further, ∃ n, SourceProject.readText s.package d = .ok n
  ignored : ∀ a ∈ sources, ∀ d ∈ further, ∀ m n, SourceProject.readText s.package a = .ok m →
    SourceProject.readText s.package d = .ok n → m.Ignores n
  plain : ∀ d ∈ further, ∀ n, SourceProject.readText s.package d = .ok n → n.HasNoController

/-- A tag on a class in one of some source texts cannot be read. -/
def HasUnreadTag (s : ProjectSettings) (further : List (String × String)) (f : Fault) : Prop :=
  ∃ d ∈ further, ∃ n, SourceProject.readText s.package d = .ok n ∧ n.HasUnreadTag f

variable {s : ProjectSettings} {sources further : List (String × String)}

/-- The modules that are read from further sources. -/
def IsFurther (s : ProjectSettings) (further : List (String × String)) (n : SourceModule) : Prop :=
  ∃ d ∈ further, SourceProject.readText s.package d = .ok n

/-- With unrelated sources reading ends as without them, and gives their modules besides. -/
theorem Unrelated.ofSources_endAlike (h : s.Unrelated sources further) :
    EndAlike (fun p q => Thinned (s.IsFurther further) Eq p.modules q.modules ∧
        ∀ m ∈ q.modules, ∀ n, s.IsFurther further n → m.Ignores n)
      (SourceProject.ofSources (sources ++ further) s.package)
      (SourceProject.ofSources sources s.package) := by
  have hread := mapM_endAlike (SourceProject.thinned_mergeSort h.paths) h.read
  rw [SourceProject.ofSources_eq, SourceProject.ofSources_eq]
  refine hread.map fun all ms hms hthin => ⟨hthin, fun m hm n hn => ?_⟩
  obtain ⟨a, ha, hma⟩ := exists_of_forall₂_of_mem (mapM_eq_ok_iff.mp hms) hm
  obtain ⟨d, hd, hnd⟩ := hn
  exact h.ignored a (List.mem_mergeSort.mp ha) d hd m n hma hnd

theorem covers_of_thinned {p q : SourceProject}
    (hthin : Thinned (s.IsFurther further) Eq p.modules q.modules)
    (hignored : ∀ m ∈ q.modules, ∀ n, s.IsFurther further n → m.Ignores n) : p.Covers q where
  sublist := hthin.sublist
  module?_eq m hm name hasks := by
    rw [SourceProject.module?_eq, SourceProject.module?_eq, hthin.filter_eq fun n hn => ?_]
    exact beq_eq_false_iff_ne.mpr ((hignored m hm n hn).ne_of_asksFor hasks)

theorem mem_modules_of_ofSources {p : SourceProject} {d : String × String} {n : SourceModule}
    (hp : SourceProject.ofSources sources s.package = .ok p) (hd : d ∈ sources)
    (hn : SourceProject.readText s.package d = .ok n) : n ∈ p.modules := by
  rw [SourceProject.ofSources_eq] at hp
  obtain ⟨ms, hms, rfl⟩ := map_eq_ok_iff.mp hp
  obtain ⟨m, hm, hread⟩ :=
    exists_of_forall₂_of_mem (mapM_eq_ok_iff.mp hms).flip (List.mem_mergeSort.mpr hd)
  cases hn.symm.trans hread
  exact hm

/-- Unrelated sources leave the routes of a project as they are, or the failure to find them, if the
tags on their classes can be read. Where a tag cannot be read and the project alone has routes, the
run ends at such a tag. -/
theorem sourceRoutes_append (s : ProjectSettings) {sources further : List (String × String)}
    (h : s.Unrelated sources further) :
    ((∀ f, ¬ s.HasUnreadTag further f) →
      s.sourceRoutes (sources ++ further) = s.sourceRoutes sources) ∧
    ∀ files, s.sourceRoutes sources = .ok files → (∃ f, s.HasUnreadTag further f) →
      ∃ f, s.HasUnreadTag further f ∧ s.sourceRoutes (sources ++ further) = .error (.fault f) := by
  have hends := h.ofSources_endAlike
  unfold sourceRoutes
  generalize hall : SourceProject.ofSources (sources ++ further) s.package = all at hends ⊢
  generalize SourceProject.ofSources sources s.package = own at hends ⊢
  cases hends with
  | error e => exact ⟨fun _ => rfl, fun files hfiles => by cases hfiles⟩
  | @ok p q hpq =>
      obtain ⟨hthin, hignored⟩ := hpq
      have hR := SourceType.answersAlike_twins (covers_of_thinned hthin hignored)
      have hunits : UnitsThinned (s.HasUnreadTag further) (SourceType.Twins p q) p.units q.units := by
        refine hthin.map (fun _ _ hm heq => heq ▸ unit_thins rfl rfl fun e => .intro e (heq ▸ hm)) ?_
        rintro n ⟨d, hd, hn⟩
        exact isIdle_unit (h.plain d hd n hn) fun f hf => ⟨d, hd, n, hn, hf⟩
      have hroutes := routeFiles_eq_or_error s.routing hR hunits
      constructor
      · intro hread
        exact (hroutes.resolve_right fun ⟨f, hf, _⟩ => hread f hf).symm
      · rintro files hfiles ⟨f, d, hd, n, hn, c, hc, hf⟩
        refine hroutes.resolve_left fun heq => ?_
        have hread := not_unitsHaveUnreadTag_of_routeFiles (heq.symm.trans hfiles)
        have hmem := mem_modules_of_ofSources hall (List.mem_append_right _ hd) hn
        obtain ⟨c', hc', -, hfault⟩ := exists_class_of_mem (some p) hc
        exact hread f ⟨_, List.mem_map_of_mem hmem, c', hc', .inl (hfault.trans hf)⟩

/-! ### Notes beside books -/

/-- Sources in the order of their paths are read as they stand. -/
theorem ofSources_of_pairwise {sources : List (String × String)} {package : Option String}
    (h : sources.Pairwise fun a b => SourceProject.pathOrder a b) :
    SourceProject.ofSources sources package =
      (sources.mapM (SourceProject.readText package)).map SourceProject.mk := by
  have hsort : sources.mergeSort SourceProject.pathOrder = sources := List.mergeSort_of_pairwise h
  rw [SourceProject.ofSources_eq]
  change Except.map _ ((sources.mergeSort SourceProject.pathOrder).mapM _) = _
  rw [hsort]

theorem sourceRoutes_of_pairwise (s : ProjectSettings) {sources : List (String × String)}
    (h : sources.Pairwise fun a b => SourceProject.pathOrder a b) :
    s.sourceRoutes sources = sources.mapM (SourceProject.readText s.package) >>= fun ms =>
      (s.routeFiles ⟨ms⟩).result := by
  rw [sourceRoutes, ofSources_of_pairwise h]
  cases sources.mapM (SourceProject.readText s.package) <;> rfl

/-- A module of the given name without imports. -/
def ignoresOthers (name : String) (m : SourceModule) : Bool :=
  m.name.text == name && m.nameImports.isEmpty && m.moduleImports.isEmpty

/-- A module of the given name without controllers, and why tags on its classes cannot be read. -/
def hasFaults (name : String) (faults : List Fault) (n : SourceModule) : Bool :=
  n.name.text == name && decide n.HasNoController &&
    (n.unit none).classes.filterMap (·.tagFault) == faults

theorem exists_of_any {ε α : Type} {x : Except ε α} {check : α → Bool}
    (h : x.toOption.any check = true) : ∃ a, x = .ok a ∧ check a = true := by
  cases x with
  | ok a => exact ⟨a, rfl, h⟩
  | error e => cases h

/-- The project of sources in the order of their paths, with what a check says about it. -/
theorem exists_project_of_check (package : Option String) {sources : List (String × String)}
    (check : SourceProject → Bool)
    (hsorted : sources.Pairwise fun a b => SourceProject.pathOrder a b)
    (h : ((sources.mapM (SourceProject.readText package)).toOption.any fun ms => check ⟨ms⟩) = true) :
    ∃ p, SourceProject.ofSources sources package = .ok p ∧ check p = true := by
  obtain ⟨ms, hms, hcheck⟩ := exists_of_any h
  refine ⟨⟨ms⟩, ?_, hcheck⟩
  rw [ofSources_of_pairwise hsorted, hms]
  rfl

/-- Where one source is read to a module without imports, and another one to a module of another
name without controllers, the second is unrelated to the first. -/
theorem unrelated_of_check {a d : String × String} (own other : String) {faults : List Fault}
    (hpaths : a.1 ≠ d.1) (hnames : other ≠ own)
    (ha : (SourceProject.readText s.package a).toOption.any (ignoresOthers own) = true)
    (hd : (SourceProject.readText s.package d).toOption.any (hasFaults other faults) = true) :
    s.Unrelated [a] [d] ∧ ∀ f, s.HasUnreadTag [d] f ↔ f ∈ faults := by
  obtain ⟨m, hm, hown⟩ := exists_of_any ha
  obtain ⟨n, hn, hother⟩ := exists_of_any hd
  simp only [ignoresOthers, hasFaults, Bool.and_eq_true, beq_iff_eq, decide_eq_true_eq,
    List.isEmpty_iff] at hown hother
  obtain ⟨⟨hname, hsources⟩, hmodules⟩ := hown
  obtain ⟨⟨hname', hplain⟩, hfaults⟩ := hother
  have hignores : m.Ignores n :=
    { name := by rw [hname, hname']; exact hnames
      source := fun hget => by rw [hsources] at hget; cases hget
      renamed := fun hget => by rw [hmodules] at hget; cases hget
      plain := fun hget => by rw [hmodules] at hget; cases hget }
  constructor
  · constructor
    · simpa using hpaths
    · simpa using ⟨n, hn⟩
    · simpa [hm, hn] using hignores
    · simpa [hn] using hplain
  · intro f
    rw [← hfaults]
    simp [HasUnreadTag, SourceModule.HasUnreadTag, hn]

def booksFile : String × String :=
  ("books.py", "@Controller('/books')\nclass Books:\n    @Get\n    def find(self) -> None: ...\n")

def shelvesFile : String × String := ("shelves.py", "@dataclass\nclass Shelf: ...\n")

/-- A file with a class whose tag cannot be written without a backslash inside a formatted text. -/
def notesFile : String × String :=
  ("notes.py", "@note(f\"\x7b'\x01'\x7d\")\nclass Note: ...\n")

def bookSettings : ProjectSettings := { source := "src", output := "client" }

theorem unrelated_shelves : bookSettings.Unrelated [booksFile] [shelvesFile] ∧
    ∀ f, bookSettings.HasUnreadTag [shelvesFile] f ↔ f ∈ [] :=
  unrelated_of_check "books" "shelves" (by decide) (by decide)
    (by decide +kernel) (by decide +kernel)

theorem unrelated_notes : bookSettings.Unrelated [booksFile] [notesFile] ∧
    ∀ f, bookSettings.HasUnreadTag [notesFile] f ↔ f ∈ [Fault.backslashInField] :=
  unrelated_of_check "books" "notes" (by decide) (by decide)
    (by decide +kernel) (by decide +kernel)

theorem sourceRoutes_books : ∃ files, bookSettings.sourceRoutes [booksFile] = .ok files := by
  refine exists_eq_ok_of_isOk ?_
  rw [sourceRoutes_of_pairwise bookSettings (by decide)]
  decide +kernel

theorem sourceRoutes_append_books :
    bookSettings.sourceRoutes [booksFile, shelvesFile] = bookSettings.sourceRoutes [booksFile] ∧
    bookSettings.sourceRoutes [booksFile, notesFile] = .error (.fault .backslashInField) := by
  obtain ⟨hshelves, hread⟩ := unrelated_shelves
  obtain ⟨hnotes, hunread⟩ := unrelated_notes
  obtain ⟨files, hfiles⟩ := sourceRoutes_books
  refine ⟨(sourceRoutes_append bookSettings hshelves).1 fun f hf => ?_, ?_⟩
  · cases (hread f).mp hf
  · obtain ⟨f, hf, he⟩ := (sourceRoutes_append bookSettings hnotes).2 files hfiles
      ⟨_, (hunread _).mpr List.mem_cons_self⟩
    rw [List.mem_singleton.mp ((hunread f).mp hf)] at he
    exact he

/-- A file without controllers that nothing refers to ends a run that has routes without it. -/
theorem not_sourceRoutes_append : bookSettings.Unrelated [booksFile] [notesFile] ∧
    (∃ files, bookSettings.sourceRoutes [booksFile] = .ok files) ∧
    bookSettings.sourceRoutes ([booksFile] ++ [notesFile]) = .error (.fault .backslashInField) := by
  refine ⟨unrelated_notes.1, sourceRoutes_books, ?_⟩
  rw [sourceRoutes_of_pairwise bookSettings (by decide)]
  decide +kernel

end ProjectSettings

end TypedClients
