import Mathlib.Logic.Relation
import TypedClients.Proofs.ImportedClasses

/-!
# Re-exports

A name that a module takes from another one goes on to that module, and so from place to place up to
a module with a class of that name. The search for a class follows these chains, in circles as well:
it always ends, it finds the class that the chain leads to, and it finds none exactly where the chain
breaks off or comes back to itself.
-/
namespace TypedClients

open Relation

/-! ### Relations with one way on -/

section

variable {α : Type} {r : α → α → Prop} {a b c : α}

/-- What lies on a circle leads only to places on circles. -/
theorem transGen_self_of_reflTransGen (hr : Relator.RightUnique r) (hcircle : TransGen r a a)
    (h : ReflTransGen r a b) : TransGen r b b := by
  induction h with
  | refl => exact hcircle
  | @tail b b' _ hstep ih =>
      obtain ⟨next, hnext, hback⟩ := TransGen.head'_iff.mp ih
      obtain rfl := hr hnext hstep
      exact TransGen.tail' hback hstep

/-- Where a way ends, it has not come to a circle. -/
theorem not_transGen_self_of_end (hr : Relator.RightUnique r) (hend : ReflTransGen r a b)
    (hstop : ∀ next, ¬ r b next) (h : ReflTransGen r a c) : ¬ TransGen r c c := by
  intro hcircle
  rcases ReflTransGen.total_of_right_unique hr hend h with hbc | hcb
  · rcases hbc.cases_head with rfl | ⟨next, hnext, -⟩
    · obtain ⟨next, hnext, -⟩ := TransGen.head'_iff.mp hcircle
      exact hstop next hnext
    · exact hstop next hnext
  · obtain ⟨next, hnext, -⟩ :=
      TransGen.head'_iff.mp (transGen_self_of_reflTransGen hr hcircle hcb)
    exact hstop next hnext

/-- A way has one end. -/
theorem eq_of_ends (hr : Relator.RightUnique r) (hb : ReflTransGen r a b)
    (hbstop : ∀ next, ¬ r b next) (hc : ReflTransGen r a c) (hcstop : ∀ next, ¬ r c next) :
    b = c := by
  rcases ReflTransGen.total_of_right_unique hr hb hc with h | h
  · rcases h.cases_head with rfl | ⟨next, hnext, -⟩
    · rfl
    · exact absurd hnext (hbstop next)
  · rcases h.cases_head with rfl | ⟨next, hnext, -⟩
    · rfl
    · exact absurd hnext (hcstop next)

end

namespace SourceProject

/-! ### Chains -/

/-- A name in a module. -/
abbrev Place := SourceModule × String

/-- The class that a module has under a name. -/
def Place.class? (place : Place) : Option ClassSource := place.1.classes.get? place.2

/-- What a search notes down of a place. -/
def Place.key (place : Place) : String × String := (place.1.name.text, place.2)

/-- A place without a class leads on to the imported name in the imported module, if that module is
in the project. -/
inductive LeadsOn (p : SourceProject) : Place → Place → Prop
  | intro {m target : SourceModule} {name : String} {origin : SourceModule.NameOrigin}
      (hnone : m.classes.get? name = none) (horigin : m.nameImports.get? name = some origin)
      (htarget : p.module? origin.module = some target) : p.LeadsOn (m, name) (target, origin.name)

/-- A chain leads to a class: it comes to a module that has it under the name it is asked for. -/
def ChainFinds (p : SourceProject) (start : Place) (found : SourceModule × ClassSource) : Prop :=
  ∃ name, ReflTransGen p.LeadsOn start (found.1, name) ∧
    found.1.classes.get? name = some found.2

/-- A chain breaks off at a place without a class that leads nowhere. -/
def ChainBreaks (p : SourceProject) (start : Place) : Prop :=
  ∃ last : Place, ReflTransGen p.LeadsOn start last ∧ last.class? = none ∧
    ∀ next, ¬ p.LeadsOn last next

/-- A chain comes back to one of its places. -/
def ChainCircles (p : SourceProject) (start : Place) : Prop :=
  ∃ again, ReflTransGen p.LeadsOn start again ∧ TransGen p.LeadsOn again again

/-- A search without a bound that has been to some places, and what it finds. -/
inductive Searches (p : SourceProject) :
    List (String × String) → Place → Option (SourceModule × ClassSource) → Prop
  | again {seen : List (String × String)} {place : Place} (hseen : place.key ∈ seen) :
      p.Searches seen place none
  | found {seen : List (String × String)} {place : Place} {c : ClassSource}
      (hnew : place.key ∉ seen) (hclass : place.class? = some c) :
      p.Searches seen place (some (place.1, c))
  | lost {seen : List (String × String)} {place : Place} (hnew : place.key ∉ seen)
      (hnone : place.class? = none) (hlast : ∀ next, ¬ p.LeadsOn place next) :
      p.Searches seen place none
  | on {seen : List (String × String)} {place next : Place}
      {answer : Option (SourceModule × ClassSource)} (hnew : place.key ∉ seen)
      (hstep : p.LeadsOn place next) (h : p.Searches (place.key :: seen) next answer) :
      p.Searches seen place answer

variable {p : SourceProject} {place next : Place}

theorem LeadsOn.class?_eq_none (h : p.LeadsOn place next) : place.class? = none := by
  cases h with
  | intro hnone _ _ => exact hnone

theorem LeadsOn.mem_modules (h : p.LeadsOn place next) : next.1 ∈ p.modules := by
  cases h with
  | intro _ _ htarget => exact mem_of_module? htarget

theorem leadsOn_rightUnique : Relator.RightUnique p.LeadsOn := by
  intro place next next' h h'
  cases h with
  | intro _ horigin htarget =>
      cases h' with
      | intro _ horigin' htarget' =>
          cases horigin.symm.trans horigin'
          cases htarget.symm.trans htarget'
          rfl

theorem not_leadsOn_of_class {c : ClassSource} (h : place.class? = some c) (next : Place) :
    ¬ p.LeadsOn place next := by
  intro hstep
  cases h.symm.trans hstep.class?_eq_none

/-! ### Searches -/

/-- A search has one answer. -/
theorem Searches.unique {seen : List (String × String)}
    {answer answer' : Option (SourceModule × ClassSource)} (h : p.Searches seen place answer)
    (h' : p.Searches seen place answer') : answer = answer' := by
  induction h with
  | again hseen =>
      cases h' with
      | again _ => rfl
      | found hnew _ => exact absurd hseen hnew
      | lost hnew _ _ => exact absurd hseen hnew
      | on hnew _ _ => exact absurd hseen hnew
  | found hnew hclass =>
      cases h' with
      | again hseen => exact absurd hseen hnew
      | found _ hclass' => cases hclass.symm.trans hclass'; rfl
      | lost _ hnone _ => cases hclass.symm.trans hnone
      | on _ hstep _ => exact absurd hstep (not_leadsOn_of_class hclass _)
  | lost hnew hnone hlast =>
      cases h' with
      | again _ => rfl
      | found _ hclass => cases hclass.symm.trans hnone
      | lost _ _ _ => rfl
      | on _ hstep _ => exact absurd hstep (hlast _)
  | on hnew hstep _ ih =>
      cases h' with
      | again hseen => exact absurd hseen hnew
      | found _ hclass => exact absurd hstep (not_leadsOn_of_class hclass _)
      | lost _ _ hlast => exact absurd hstep (hlast _)
      | on _ hstep' h' =>
          obtain rfl := leadsOn_rightUnique hstep hstep'
          exact ih h'

/-- A search ends: every place that it goes on from is an imported name that it has not been to, and
a bound above the number of those is never reached. -/
theorem searches_follow {n : Nat} {seen : List (String × String)} {m : SourceModule}
    (name : String) (hm : m ∈ p.modules) (hnodup : seen.Nodup) (hseen : seen ⊆ p.links)
    (hn : p.links.length < n + seen.length) :
    p.Searches seen (m, name) (p.follow n seen m name) := by
  have hle : seen.length ≤ p.links.length := (List.subperm_of_subset hnodup hseen).length_le
  induction n generalizing seen m name with
  | zero => omega
  | succ n ih =>
      rw [follow]
      by_cases hmem : (m.name.text, name) ∈ seen
      · rw [if_pos (List.contains_iff_mem.mpr hmem)]
        exact .again hmem
      rw [if_neg fun h => hmem (List.contains_iff_mem.mp h)]
      cases hclass : m.classes.get? name with
      | some c => exact .found hmem hclass
      | none =>
          cases horigin : m.nameImports.get? name with
          | none =>
              refine .lost hmem hclass fun next hstep => ?_
              cases hstep with
              | intro _ horigin' _ => cases horigin.symm.trans horigin'
          | some origin =>
              cases htarget : p.module? origin.module with
              | none =>
                  simp only [Option.bind_eq_bind, Option.bind_some, htarget, Option.bind_none]
                  refine .lost hmem hclass fun next hstep => ?_
                  cases hstep with
                  | intro _ horigin' htarget' =>
                      cases horigin.symm.trans horigin'
                      cases htarget.symm.trans htarget'
              | some target =>
                  simp only [Option.bind_eq_bind, Option.bind_some, htarget]
                  have hlink : (m.name.text, name) ∈ p.links := by
                    refine List.mem_flatMap.mpr ⟨m, hm, List.mem_map_of_mem ?_⟩
                    rw [Dictionary.mem_keys_iff, horigin]
                    rfl
                  have hnodup' : ((m.name.text, name) :: seen).Nodup :=
                    List.nodup_cons.mpr ⟨hmem, hnodup⟩
                  have hseen' : (m.name.text, name) :: seen ⊆ p.links :=
                    List.cons_subset.mpr ⟨hlink, hseen⟩
                  have hrest := ih origin.name (mem_of_module? htarget) hnodup' hseen'
                    (by rw [List.length_cons]; omega)
                    (List.subperm_of_subset hnodup' hseen').length_le
                  exact .on hmem (.intro hclass horigin htarget) hrest

theorem searches_findClass {m : SourceModule} (hm : m ∈ p.modules) (name : String) :
    p.Searches [] (m, name) (p.findClass m name) := by
  refine searches_follow name hm List.nodup_nil (List.nil_subset _) ?_
  rw [importCount_eq, List.length_nil]
  omega

/-! ### Answers -/

/-- What a search finds, the chain leads to. -/
theorem chainFinds_of_searches {seen : List (String × String)}
    {answer : Option (SourceModule × ClassSource)} {found : SourceModule × ClassSource}
    (h : p.Searches seen place answer) (hfound : answer = some found) :
    p.ChainFinds place found := by
  induction h with
  | again _ => cases hfound
  | @found seen place c _ hclass =>
      cases hfound
      exact ⟨place.2, .refl, hclass⟩
  | lost _ _ _ => cases hfound
  | on _ hstep _ ih =>
      obtain ⟨name, hreach, hclass⟩ := ih hfound
      exact ⟨name, hreach.head hstep, hclass⟩

/-- With distinct names of modules, what is noted down of a place says which place it is. -/
theorem eq_of_key_eq (hnames : (p.modules.map (·.name.text)).Nodup) {place place' : Place}
    (hm : place.1 ∈ p.modules) (hm' : place'.1 ∈ p.modules) (hkey : place.key = place'.key) :
    place = place' := by
  obtain ⟨hmodule, hname⟩ := Prod.ext_iff.mp hkey
  exact Prod.ext (List.inj_on_of_nodup_map hnames hm hm' hmodule) hname

/-- Where a search finds nothing, the chain breaks off or comes back. The search has only been to
places from which the chain leads to where it is. -/
theorem chain_of_searches_none (hnames : (p.modules.map (·.name.text)).Nodup)
    {seen : List (String × String)} {answer : Option (SourceModule × ClassSource)}
    (h : p.Searches seen place answer) (hnone : answer = none) (hm : place.1 ∈ p.modules)
    (hseen : ∀ key ∈ seen, ∃ before : Place, before.1 ∈ p.modules ∧ before.key = key ∧
      TransGen p.LeadsOn before place) : p.ChainBreaks place ∨ p.ChainCircles place := by
  induction h with
  | @again seen place hmem =>
      obtain ⟨before, hbefore, hkey, hcircle⟩ := hseen _ hmem
      obtain rfl := eq_of_key_eq hnames hbefore hm hkey
      exact .inr ⟨before, .refl, hcircle⟩
  | found _ _ => cases hnone
  | @lost seen place _ hclass hlast => exact .inl ⟨place, .refl, hclass, hlast⟩
  | @on seen place next _ _ hstep _ ih =>
      have hseen' : ∀ key ∈ place.key :: seen, ∃ before : Place, before.1 ∈ p.modules ∧
          before.key = key ∧ TransGen p.LeadsOn before next := by
        refine List.forall_mem_cons.mpr ⟨⟨place, hm, rfl, .single hstep⟩, fun key hkey => ?_⟩
        obtain ⟨before, hbefore, hbeforeKey, hreach⟩ := hseen key hkey
        exact ⟨before, hbefore, hbeforeKey, hreach.tail hstep⟩
      rcases ih hnone hstep.mem_modules hseen' with ⟨last, hreach, hlast⟩ | ⟨again, hreach, hagain⟩
      · exact .inl ⟨last, hreach.head hstep, hlast⟩
      · exact .inr ⟨again, hreach.head hstep, hagain⟩

theorem not_chainBreaks_of_chainFinds {found : SourceModule × ClassSource}
    (h : p.ChainFinds place found) : ¬ p.ChainBreaks place := by
  rintro ⟨last, hlast, hnone, hstop⟩
  obtain ⟨name, hreach, hclass⟩ := h
  obtain rfl := eq_of_ends leadsOn_rightUnique hreach (not_leadsOn_of_class hclass) hlast hstop
  cases hnone.symm.trans hclass

theorem not_chainCircles_of_chainFinds {found : SourceModule × ClassSource}
    (h : p.ChainFinds place found) : ¬ p.ChainCircles place := by
  rintro ⟨again, hagain, hcircle⟩
  obtain ⟨name, hreach, hclass⟩ := h
  exact not_transGen_self_of_end leadsOn_rightUnique hreach (not_leadsOn_of_class hclass) hagain
    hcircle

theorem ChainFinds.unique {found found' : SourceModule × ClassSource}
    (h : p.ChainFinds place found) (h' : p.ChainFinds place found') : found = found' := by
  obtain ⟨name, hreach, hclass⟩ := h
  obtain ⟨name', hreach', hclass'⟩ := h'
  have hplace := eq_of_ends leadsOn_rightUnique hreach (not_leadsOn_of_class hclass) hreach'
    (not_leadsOn_of_class hclass')
  obtain ⟨hmodule, rfl⟩ := Prod.ext_iff.mp hplace
  refine Prod.ext hmodule (Option.some.inj ?_)
  rw [← hclass, ← hclass', hmodule]

/-- The search for a class ends without help of its bound. It finds a class exactly where the chain
of re-exports leads to that class in finitely many steps, and none exactly where the chain breaks
off or comes back to one of its places. -/
theorem findClass_follows_chain (hnames : (p.modules.map (·.name.text)).Nodup) {m : SourceModule}
    (hm : m ∈ p.modules) (name : String) :
    (∀ answer, p.Searches [] (m, name) answer ↔ p.findClass m name = answer) ∧
    (∀ found, p.findClass m name = some found ↔ p.ChainFinds (m, name) found) ∧
    (p.findClass m name = none ↔ p.ChainBreaks (m, name) ∨ p.ChainCircles (m, name)) := by
  have hsearch := searches_findClass hm name
  have hlost (hnone : p.findClass m name = none) :
      p.ChainBreaks (m, name) ∨ p.ChainCircles (m, name) :=
    chain_of_searches_none hnames hsearch hnone hm fun _ hkey => by cases hkey
  refine ⟨fun answer => ⟨hsearch.unique, fun h => h ▸ hsearch⟩, fun found => ?_, hlost, ?_⟩
  · refine ⟨chainFinds_of_searches hsearch, fun hchain => ?_⟩
    cases hfound : p.findClass m name with
    | none =>
        rcases hlost hfound with hbreaks | hcircles
        · exact absurd hbreaks (not_chainBreaks_of_chainFinds hchain)
        · exact absurd hcircles (not_chainCircles_of_chainFinds hchain)
    | some found' => rw [(chainFinds_of_searches hsearch hfound).unique hchain]
  · intro hchain
    cases hfound : p.findClass m name with
    | none => rfl
    | some found =>
        have hfinds := chainFinds_of_searches hsearch hfound
        rcases hchain with hbreaks | hcircles
        · exact absurd hbreaks (not_chainBreaks_of_chainFinds hfinds)
        · exact absurd hcircles (not_chainCircles_of_chainFinds hfinds)

/-! ### A circle of imports -/

/-- A module that takes authors from the module of books, and shelves from their own. -/
def authors : SourceModule where
  name := ⟨"authors", false⟩
  path := "authors.py"
  body := [.importFrom (some "books") [{ name := "Author" }] 0,
    .importFrom (some "shelves") [{ name := "Shelf" }] 0]

/-- A module that takes authors and shelves from the module of authors. -/
def books : SourceModule where
  name := ⟨"books", false⟩
  path := "books.py"
  body := [.importFrom (some "authors") [{ name := "Author" },
    { name := "Shelf", localName := some "Place" }] 0]

def shelves : SourceModule where
  name := ⟨"shelves", false⟩
  path := "shelves.py"
  body := [.classDef [] "Shelf" [] [] [.pass]]

def circularProject : SourceProject := ⟨[authors, books, shelves]⟩

theorem findClass_follows_chain_circular :
    (circularProject.modules.map (·.name.text)).Nodup ∧ books ∈ circularProject.modules ∧
      circularProject.ChainCircles (books, "Author") ∧
      circularProject.findClass books "Author" = none ∧
      circularProject.ChainFinds (books, "Place") (shelves, ⟨"Shelf", [], [], [.pass]⟩) := by
  have hnames : (circularProject.modules.map (·.name.text)).Nodup := by decide
  have hmem : books ∈ circularProject.modules := .tail _ (.head _)
  have hfrom : books.nameImports.get? "Author" = some ⟨"authors", "Author"⟩ := by decide
  have hfrom' : authors.nameImports.get? "Author" = some ⟨"books", "Author"⟩ := by decide
  have hthere : circularProject.LeadsOn (books, "Author") (authors, "Author") :=
    .intro rfl hfrom rfl
  have hback : circularProject.LeadsOn (authors, "Author") (books, "Author") :=
    .intro rfl hfrom' rfl
  have hcircles : circularProject.ChainCircles (books, "Author") :=
    ⟨_, .refl, .tail (.single hthere) hback⟩
  refine ⟨hnames, hmem, hcircles, ?_, ?_⟩
  · exact (findClass_follows_chain hnames hmem "Author").2.2.mpr (.inr hcircles)
  · exact ((findClass_follows_chain hnames hmem "Place").2.1 _).mp rfl

end SourceProject

end TypedClients
