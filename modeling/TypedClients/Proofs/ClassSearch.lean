import Mathlib.Data.List.Flatten
import Mathlib.Data.List.Perm.Subperm
import TypedClients.Proofs.DeclaredTypes

/-!
# Searches for classes and fields

A search for a class follows names from module to module, one for a field goes from a class to its
bases. Neither comes to the same place twice, so that the bounds of both are never reached, and
neither looks at a module that it does not come to: two projects that have the same modules there
give the same answer. Where the classes are moved, the answers move with them.
-/
namespace TypedClients

open TypedClients.Code

namespace SourceModule

/-- The names of modules that a search in a module may ask for: those that its names come from, and
those that a dotted type can spell with one of its module imports. -/
inductive AsksFor (m : SourceModule) : String → Prop
  | source {name : String} {origin : NameOrigin} (h : m.nameImports.get? name = some origin) :
      m.AsksFor origin.module
  | renamed {name : String} {origin : ModuleOrigin} (h : m.moduleImports.get? name = some origin)
      (hname : origin.localName.isSome) (inner : List String) :
      m.AsksFor (ModuleName.ofComponents (origin.module :: inner))
  | plain {name : String} {origin : ModuleOrigin} (h : m.moduleImports.get? name = some origin)
      (hname : origin.localName = none) (inner : List String) :
      m.AsksFor (ModuleName.ofComponents (name :: inner))

/-- A class that a module has under a name is written in the module under this name. -/
theorem get?_classes {m : SourceModule} {name : String} {c : ClassSource}
    (h : m.classes.get? name = some c) :
    c.name = name ∧ ∃ stmt ∈ m.body, ClassSource.ofStmt? stmt = some c := by
  have hpairs : m.classes = ((m.body.filterMap ClassSource.ofStmt?).map fun c => (c.name, c)).foldl
      (fun d p => Dictionary.insert p.1 p.2 d) [] := by
    rw [List.foldl_map]
    rfl
  rw [hpairs] at h
  rcases Dictionary.get?_foldl_insert h with h | h
  · obtain ⟨c', hc', heq⟩ := List.mem_map.mp h
    cases heq
    exact ⟨rfl, List.mem_filterMap.mp hc'⟩
  · cases h

end SourceModule

/-! ### Places of a search -/

namespace SourceProject

/-- A class that a project has under its name in one of its modules. -/
def Has (p : SourceProject) (found : SourceModule × ClassSource) : Prop :=
  found.1 ∈ p.modules ∧ found.1.classes.get? found.2.name = some found.2

/-- The imported names, each in its module. -/
def links (p : SourceProject) : List (String × String) :=
  p.modules.flatMap fun m => m.nameImports.keys.map (m.name.text, ·)

/-- The classes by name, each in its module. -/
def classKeys (p : SourceProject) : List (String × String) :=
  p.modules.flatMap fun m => m.classes.keys.map (m.name.text, ·)

theorem foldl_length_eq {α : Type} (f : SourceModule → Dictionary String α) (ms : List SourceModule)
    (n : Nat) :
    ms.foldl (fun n m => n + (f m).length) n =
      n + (ms.flatMap fun m => (f m).keys.map (m.name.text, ·)).length := by
  induction ms generalizing n with
  | nil => rfl
  | cons m ms ih =>
      simp only [List.foldl_cons, ih, List.flatMap_cons, List.length_append, List.length_map,
        Dictionary.keys]
      omega

theorem importCount_eq (p : SourceProject) : p.importCount = p.links.length := by
  rw [importCount, foldl_length_eq, Nat.zero_add]
  rfl

theorem classCount_eq (p : SourceProject) (m : SourceModule) :
    SourceType.classCount (some p) m = m.classes.length + p.classKeys.length := by
  have h := foldl_length_eq SourceModule.classes p.modules m.classes.length
  rw [SourceType.classCount, List.foldl_cons, Nat.zero_add]
  exact h

theorem mem_of_module? {p : SourceProject} {name : String} {m : SourceModule}
    (h : p.module? name = some m) : m ∈ p.modules :=
  List.mem_reverse.mp (List.mem_of_find?_eq_some h)

/-- A project with the modules of another one, and with the same answer wherever a search in the
other one asks for a module. -/
structure Covers (p q : SourceProject) : Prop where
  sublist : q.modules.Sublist p.modules
  module?_eq : ∀ m ∈ q.modules, ∀ name, m.AsksFor name → p.module? name = q.module? name

theorem Covers.refl (p : SourceProject) : p.Covers p := ⟨List.Sublist.refl _, fun _ _ _ _ => rfl⟩

variable {p q : SourceProject}

theorem Covers.links_le (h : p.Covers q) : q.links.length ≤ p.links.length :=
  (h.sublist.flatMap _).length_le

theorem Covers.classKeys_le (h : p.Covers q) : q.classKeys.length ≤ p.classKeys.length :=
  (h.sublist.flatMap _).length_le

/-! ### Classes -/

/-- Two searches agree that are past the same places and can still go to all others. -/
theorem follow_eq (h : p.Covers q) {n n' : Nat} {seen : List (String × String)} {m : SourceModule}
    (name : String) (hm : m ∈ q.modules) (hnodup : seen.Nodup) (hseen : seen ⊆ q.links)
    (hn : q.links.length < n + seen.length) (hn' : q.links.length < n' + seen.length) :
    p.follow n seen m name = q.follow n' seen m name := by
  have hle : seen.length ≤ q.links.length := (List.subperm_of_subset hnodup hseen).length_le
  induction n generalizing n' seen m name with
  | zero => omega
  | succ n ih =>
      obtain ⟨k, rfl⟩ : ∃ k, n' = k + 1 := ⟨n' - 1, by omega⟩
      rw [follow, follow]
      by_cases hmem : seen.contains (m.name.text, name) = true
      · rw [if_pos hmem, if_pos hmem]
      rw [if_neg hmem, if_neg hmem]
      cases m.classes.get? name with
      | some c => rfl
      | none =>
          cases horigin : m.nameImports.get? name with
          | none => rfl
          | some origin =>
              simp only [Option.bind_eq_bind, Option.bind_some]
              rw [h.module?_eq m hm origin.module (.source horigin)]
              cases htarget : q.module? origin.module with
              | none => rfl
              | some target =>
                  have hnodup' : ((m.name.text, name) :: seen).Nodup :=
                    List.nodup_cons.mpr ⟨by simpa using hmem, hnodup⟩
                  have hlink : (m.name.text, name) ∈ q.links := by
                    refine List.mem_flatMap.mpr ⟨m, hm, List.mem_map_of_mem ?_⟩
                    rw [Dictionary.mem_keys_iff, horigin]
                    rfl
                  have hseen' : (m.name.text, name) :: seen ⊆ q.links :=
                    List.cons_subset.mpr ⟨hlink, hseen⟩
                  exact ih origin.name (mem_of_module? htarget) hnodup' hseen'
                    (by rw [List.length_cons]; omega) (by rw [List.length_cons]; omega)
                    (List.subperm_of_subset hnodup' hseen').length_le

theorem findClass_eq (h : p.Covers q) {m : SourceModule} (hm : m ∈ q.modules) (name : String) :
    p.findClass m name = q.findClass m name := by
  have hle := h.links_le
  refine follow_eq h name hm List.nodup_nil (List.nil_subset _) ?_ ?_ <;>
    · rw [importCount_eq, List.length_nil]
      omega

theorem has_of_follow {n : Nat} {seen : List (String × String)} {m : SourceModule} {name : String}
    {found : SourceModule × ClassSource} (hm : m ∈ p.modules)
    (h : p.follow n seen m name = some found) : p.Has found := by
  induction n generalizing seen m name with
  | zero => cases h
  | succ n ih =>
      rw [follow] at h
      split at h
      · cases h
      · split at h
        · rename_i c hc
          cases h
          refine ⟨hm, ?_⟩
          rw [(SourceModule.get?_classes hc).1]
          exact hc
        · obtain ⟨origin, -, h⟩ := Option.bind_eq_some_iff.mp h
          obtain ⟨target, htarget, h⟩ := Option.bind_eq_some_iff.mp h
          exact ih (mem_of_module? htarget) h

theorem has_of_findClass {m : SourceModule} {name : String} {found : SourceModule × ClassSource}
    (hm : m ∈ p.modules) (h : p.findClass m name = some found) : p.Has found := has_of_follow hm h

/-- What a search finds it finds as well if it has more room and has been to fewer places. -/
theorem follow_of_subset {n n' : Nat} {seen seen' : List (String × String)} {m : SourceModule}
    {name : String} {found : SourceModule × ClassSource} (hn : n ≤ n') (hseen : seen' ⊆ seen)
    (h : p.follow n seen m name = some found) : p.follow n' seen' m name = some found := by
  induction n generalizing n' seen seen' m name with
  | zero => cases h
  | succ n ih =>
      obtain ⟨k, rfl⟩ : ∃ k, n' = k + 1 := ⟨n' - 1, by omega⟩
      rw [follow] at h ⊢
      split at h
      · cases h
      · rename_i hnew
        have hnew' : ¬ seen'.contains (m.name.text, name) = true := fun hmem =>
          hnew (List.contains_iff_mem.mpr (hseen (List.contains_iff_mem.mp hmem)))
        rw [if_neg hnew']
        split at h
        · exact h
        · obtain ⟨origin, horigin, h⟩ := Option.bind_eq_some_iff.mp h
          obtain ⟨target, htarget, h⟩ := Option.bind_eq_some_iff.mp h
          refine Option.bind_eq_some_iff.mpr ⟨origin, horigin, ?_⟩
          refine Option.bind_eq_some_iff.mpr ⟨target, htarget, ?_⟩
          exact ih (by omega) (List.cons_subset_cons _ hseen) h

end SourceProject

/-! ### Fields -/

namespace SourceType

variable {p q : SourceProject} {field : String}

theorem classOfParts_eq (h : p.Covers q) {m : SourceModule} (hm : m ∈ q.modules)
    (parts : List String) : classOfParts (some p) m parts = classOfParts (some q) m parts := by
  match parts with
  | [] => rfl
  | [name] => exact SourceProject.findClass_eq h hm name
  | first :: second :: rest =>
      simp only [classOfParts, Option.bind_eq_bind]
      refine Option.bind_congr fun origin horigin => ?_
      have hasks : m.AsksFor (ModuleName.ofComponents (if origin.localName.isSome
          then origin.module :: (second :: rest).dropLast
          else first :: (second :: rest).dropLast)) := by
        split
        · rename_i hlocal
          exact .renamed horigin hlocal _
        · rename_i hlocal
          exact .plain horigin (by simpa using hlocal) _
      rw [h.module?_eq m hm _ hasks]
      exact Option.bind_congr fun target htarget =>
        SourceProject.findClass_eq h (SourceProject.mem_of_module? htarget) _

theorem has_of_classOfParts {m : SourceModule} (hm : m ∈ p.modules) {parts : List String}
    {found : SourceModule × ClassSource} (h : classOfParts (some p) m parts = some found) :
    p.Has found := by
  match parts with
  | [] => cases h
  | [name] => exact SourceProject.has_of_findClass hm h
  | first :: second :: rest =>
      obtain ⟨origin, -, h⟩ := Option.bind_eq_some_iff.mp h
      obtain ⟨target, htarget, h⟩ := Option.bind_eq_some_iff.mp h
      exact SourceProject.has_of_findClass (SourceProject.mem_of_module? htarget) h

theorem classOf_eq (h : p.Covers q) {m : SourceModule} (hm : m ∈ q.modules) (e : Expr) :
    classOf (some p) m e = classOf (some q) m e := by
  have hparts : classOfParts (some p) m = classOfParts (some q) m :=
    funext (classOfParts_eq h hm)
  rw [classOf, classOf, hparts]

theorem has_of_classOf {m : SourceModule} (hm : m ∈ p.modules) {e : Expr}
    {found : SourceModule × ClassSource} (h : classOf (some p) m e = .ok (some found)) :
    p.Has found := by
  obtain ⟨read, h⟩ : ∃ read : Option Expr,
      (read.bind Expr.dottedParts?).bind (classOfParts (some p) m) = some found := by
    unfold classOf at h
    split at h
    · obtain ⟨read, -, h⟩ := bind_eq_ok_iff.mp h
      exact ⟨read, Except.ok.inj h⟩
    · exact ⟨some e, Except.ok.inj h⟩
  obtain ⟨parts, -, h⟩ := Option.bind_eq_some_iff.mp h
  exact has_of_classOfParts hm h

/-- A search for a field keeps what has been searched. -/
theorem subset_of_searchBases
    {resolve : Expr → Except Failure (Option (SourceModule × ClassSource))}
    {search : List (String × String) → SourceModule × ClassSource → FieldSearch}
    (hsearch : ∀ {seen c found seen'}, search seen c = .ok (found, seen') → seen ⊆ seen')
    {seen seen' : List (String × String)} {bases : List Expr} {found : Option FieldSource}
    (h : searchBases resolve search seen bases = .ok (found, seen')) : seen ⊆ seen' := by
  induction bases generalizing seen with
  | nil => cases h; exact List.Subset.refl _
  | cons base bases ih =>
      obtain ⟨resolved, -, h⟩ := bind_eq_ok_iff.mp h
      cases resolved with
      | none => exact ih h
      | some c =>
          obtain ⟨⟨first, between⟩, hfirst, h⟩ := bind_eq_ok_iff.mp h
          cases first with
          | some first => cases h; exact hsearch hfirst
          | none => exact List.Subset.trans (hsearch hfirst) (ih h)

theorem subset_of_searchClass {project : Option SourceProject} {n : Nat}
    {seen seen' : List (String × String)} {c : SourceModule × ClassSource}
    {found : Option FieldSource} (h : searchClass project field n seen c = .ok (found, seen')) :
    seen ⊆ seen' := by
  induction n generalizing seen seen' c found with
  | zero => cases h; exact List.Subset.refl _
  | succ n ih =>
      obtain ⟨m, c⟩ := c
      rw [searchClass] at h
      split at h
      · cases h; exact List.Subset.refl _
      · split at h
        · cases h; exact List.subset_cons_self _ _
        · exact List.Subset.trans (List.subset_cons_self _ _) (subset_of_searchBases ih h)

/-- The class of a type moves as that of its names does. -/
theorem classOf_map {project project' : Option SourceProject} {m m' : SourceModule}
    {moveClass : SourceModule × ClassSource → SourceModule × ClassSource}
    (hparts : ∀ parts, classOfParts project' m' parts =
      (classOfParts project m parts).map moveClass) (e : Expr) :
    classOf project' m' e = (classOf project m e).map (Option.map moveClass) := by
  have hread (read : Option Expr) :
      (read.bind Expr.dottedParts?).bind (classOfParts project' m') =
        ((read.bind Expr.dottedParts?).bind (classOfParts project m)).map moveClass := by
    cases read.bind Expr.dottedParts? with
    | none => rfl
    | some parts => exact hparts parts
  unfold classOf
  cases e.quotation? with
  | none => exact congrArg Except.ok (hread (some e))
  | some q =>
      cases hquoted : q.read with
      | error f =>
          simp only [hquoted]
          rfl
      | ok read =>
          simp only [hquoted]
          exact congrArg Except.ok (hread read)

theorem searchBases_congr
    {resolve resolve' : Expr → Except Failure (Option (SourceModule × ClassSource))}
    {search search' : List (String × String) → SourceModule × ClassSource → FieldSearch}
    {seen : List (String × String)} {bases : List Expr}
    (hresolve : ∀ base, resolve base = resolve' base)
    (hgrows : ∀ {seen c found seen'}, search' seen c = .ok (found, seen') → seen ⊆ seen')
    (hsearch : ∀ base c, resolve' base = .ok (some c) → ∀ seen', seen ⊆ seen' →
      search seen' c = search' seen' c) :
    searchBases resolve search seen bases = searchBases resolve' search' seen bases := by
  induction bases generalizing seen with
  | nil => rfl
  | cons base bases ih =>
      rw [searchBases, searchBases, hresolve]
      cases hbase : resolve' base with
      | error e => rfl
      | ok resolved =>
          cases resolved with
          | none => exact ih hsearch
          | some c =>
              change search seen c >>= _ = search' seen c >>= _
              rw [hsearch base c hbase seen (List.Subset.refl _)]
              cases hfirst : search' seen c with
              | error e => rfl
              | ok first =>
                  obtain ⟨found, between⟩ := first
                  cases found with
                  | some found => rfl
                  | none =>
                      exact ih fun base c hc seen' hseen' =>
                        hsearch base c hc seen' (List.Subset.trans (hgrows hfirst) hseen')

/-- A search finds what it found before, at the places where its classes have moved to, if the class
of a base and the search for each one move alike. -/
theorem searchBases_map
    {resolve resolve' : Expr → Except Failure (Option (SourceModule × ClassSource))}
    {search search' : List (String × String) → SourceModule × ClassSource → FieldSearch}
    {moveClass : SourceModule × ClassSource → SourceModule × ClassSource}
    (moveSource : FieldSource → FieldSource)
    (moveSeen : List (String × String) → List (String × String)) {bases : List Expr}
    (seen : List (String × String))
    (hresolve : ∀ base, resolve' base = (resolve base).map (Option.map moveClass))
    (hsearch : ∀ base c, resolve base = .ok (some c) → ∀ seen,
      search' (moveSeen seen) (moveClass c) =
        (search seen c).map (Prod.map (Option.map moveSource) moveSeen)) :
    searchBases resolve' search' (moveSeen seen) bases =
      (searchBases resolve search seen bases).map (Prod.map (Option.map moveSource) moveSeen) := by
  induction bases generalizing seen with
  | nil => rfl
  | cons base bases ih =>
      rw [searchBases, searchBases, hresolve]
      cases hbase : resolve base with
      | error e => rfl
      | ok resolved =>
          cases resolved with
          | none => exact ih seen
          | some c =>
              change search' _ (moveClass c) >>= _ = Except.map _ (search seen c >>= _)
              rw [hsearch base c hbase seen]
              cases search seen c with
              | error e => rfl
              | ok answer =>
                  obtain ⟨found, between⟩ := answer
                  cases found with
                  | some source => rfl
                  | none => exact ih between

/-- The classes of a project that have not been searched. -/
def unsearched (p : SourceProject) (seen : List (String × String)) : List (String × String) :=
  p.classKeys.filter fun key => !seen.contains key

theorem unsearched_le {seen seen' : List (String × String)} (h : seen ⊆ seen') :
    (unsearched p seen').length ≤ (unsearched p seen).length := by
  refine (List.monotone_filter_right p.classKeys fun key hkey => ?_).length_le
  simp only [List.contains_eq_mem, Bool.not_eq_true', decide_eq_false_iff_not] at hkey ⊢
  exact fun hmem => hkey (h hmem)

theorem unsearched_cons_lt {seen : List (String × String)} {m : SourceModule} {c : ClassSource}
    (hc : p.Has (m, c)) (hnew : (m.name.text, c.name) ∉ seen) :
    (unsearched p ((m.name.text, c.name) :: seen)).length < (unsearched p seen).length := by
  have hkey : (m.name.text, c.name) ∈ unsearched p seen := by
    refine List.mem_filter.mpr ⟨List.mem_flatMap.mpr ⟨m, hc.1, List.mem_map_of_mem ?_⟩, ?_⟩
    · rw [Dictionary.mem_keys_iff, hc.2]
      rfl
    · simpa using hnew
  have hsplit : unsearched p ((m.name.text, c.name) :: seen) =
      (unsearched p seen).filter fun key => !key == (m.name.text, c.name) := by
    simp only [unsearched, List.filter_filter, List.contains_cons, Bool.not_or]
  rw [hsplit, List.length_filter_lt_length_iff_exists]
  exact ⟨_, hkey, by simp⟩

/-- Two searches agree that have searched the same classes and have room for all others. -/
theorem searchClass_eq (h : p.Covers q) {n n' : Nat} {seen : List (String × String)}
    {c : SourceModule × ClassSource} (hc : q.Has c) (hn : (unsearched q seen).length < n)
    (hn' : (unsearched q seen).length < n') :
    searchClass (some p) field n seen c = searchClass (some q) field n' seen c := by
  induction n generalizing n' seen c with
  | zero => omega
  | succ n ih =>
      obtain ⟨k, rfl⟩ : ∃ k, n' = k + 1 := ⟨n' - 1, by omega⟩
      obtain ⟨m, c⟩ := c
      rw [searchClass, searchClass]
      by_cases hmem : (m.name.text, c.name) ∈ seen
      · rw [if_pos hmem, if_pos hmem]
      rw [if_neg hmem, if_neg hmem]
      cases c.body.findSome? (declaredField? field) with
      | some hint => rfl
      | none =>
          have hless := unsearched_cons_lt hc hmem
          refine searchBases_congr (classOf_eq h hc.1) subset_of_searchClass ?_
          intro base c' hc' seen' hseen'
          have hle := unsearched_le (p := q) hseen'
          exact ih (has_of_classOf hc.1 hc') (by omega) (by omega)

/-- The module that a search for a field ends in is one of the project. -/
theorem mem_of_searchBases {resolve : Expr → Except Failure (Option (SourceModule × ClassSource))}
    {search : List (String × String) → SourceModule × ClassSource → FieldSearch}
    (hsearch : ∀ {base c seen source seen'}, resolve base = .ok (some c) →
      search seen c = .ok (some source, seen') → source.1 ∈ p.modules)
    {seen seen' : List (String × String)} {bases : List Expr} {source : FieldSource}
    (h : searchBases resolve search seen bases = .ok (some source, seen')) :
    source.1 ∈ p.modules := by
  induction bases generalizing seen with
  | nil => cases h
  | cons base bases ih =>
      obtain ⟨resolved, hresolved, h⟩ := bind_eq_ok_iff.mp h
      cases resolved with
      | none => exact ih h
      | some c =>
          obtain ⟨⟨first, between⟩, hfirst, h⟩ := bind_eq_ok_iff.mp h
          cases first with
          | some first => cases h; exact hsearch hresolved hfirst
          | none => exact ih h

theorem mem_of_searchClass {n : Nat} {seen seen' : List (String × String)}
    {c : SourceModule × ClassSource} {source : FieldSource} (hc : p.Has c)
    (h : searchClass (some p) field n seen c = .ok (some source, seen')) :
    source.1 ∈ p.modules := by
  induction n generalizing seen seen' c source with
  | zero => cases h
  | succ n ih =>
      obtain ⟨m, c⟩ := c
      rw [searchClass] at h
      split at h
      · cases h
      · split at h
        · cases h; exact hc.1
        · exact mem_of_searchBases
            (fun hbase hfound => ih (has_of_classOf hc.1 hbase) hfound) h

/-- The search for a field starts with room for all classes. -/
theorem searchClass_eq_of_covers (field : String) (h : p.Covers q) (m m' : SourceModule)
    {c : SourceModule × ClassSource} (hc : q.Has c) :
    searchClass (some p) field (classCount (some p) m + 1) [] c =
      searchClass (some q) field (classCount (some q) m' + 1) [] c := by
  have hle : (unsearched q []).length ≤ q.classKeys.length := List.length_filter_le _ _
  have hkeys := h.classKeys_le
  refine searchClass_eq h hc ?_ ?_ <;>
    · rw [SourceProject.classCount_eq]
      omega

end SourceType

end TypedClients
