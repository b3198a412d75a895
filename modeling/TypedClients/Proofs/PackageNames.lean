import TypedClients.Proofs.EmittedPaths
import TypedClients.Proofs.FurtherSources

/-!
# Names below a package

A package that is put in front of a project stands in front of the names of all modules, and the
root of the sources becomes the package itself. A relative import climbs from the components of a
name, so that it ends below the package where it ended below the root.
-/
namespace TypedClients

open TypedClients.Text

/-- A dotted name below a package. The empty name is that of the root. -/
def belowPackage (package name : String) : String :=
  if name = "" then package else package ++ "." ++ name

@[simp] theorem belowPackage_empty (package : String) : belowPackage package "" = package :=
  if_pos rfl

theorem belowPackage_of_ne {package name : String} (h : name ≠ "") :
    belowPackage package name = package ++ "." ++ name := if_neg h

theorem belowPackage_injective (package : String) : Function.Injective (belowPackage package) := by
  have hlonger (name : String) : package ≠ package ++ "." ++ name := by
    intro h
    have hlength := congrArg String.length h
    simp only [String.length_append] at hlength
    have hdot : ".".length = 1 := rfl
    omega
  intro name other h
  by_cases hname : name = "" <;> by_cases hother : other = ""
  · rw [hname, hother]
  · rw [hname, belowPackage_empty, belowPackage_of_ne hother] at h
    exact absurd h (hlonger other)
  · rw [hother, belowPackage_empty, belowPackage_of_ne hname] at h
    exact absurd h.symm (hlonger name)
  · rw [belowPackage_of_ne hname, belowPackage_of_ne hother] at h
    exact String.append_right_inj _ |>.mp h

/-- A package keeps its first component, whatever stands below it. -/
theorem firstComponent_belowPackage (package name : String) :
    firstComponent (belowPackage package name) = firstComponent package := by
  by_cases hname : name = ""
  · rw [hname, belowPackage_empty]
  · rw [belowPackage_of_ne hname, firstComponent, firstComponent, String.toList_append,
      String.toList_append, List.append_assoc, List.takeWhile_append]
    by_cases hall : (package.toList.takeWhile (· != '.')).length = package.toList.length
    · rw [if_pos hall, (List.takeWhile_prefix _).eq_of_length hall]
      simp
    · rw [if_neg hall]

/-! ### Components -/

namespace ModuleName

theorem components_ne_nil (text : String) : components text ≠ [] := by
  rw [components, ne_eq, List.map_eq_nil_iff]
  exact splitOn_ne_nil _ _

theorem components_append (front back : String) :
    components (front ++ "." ++ back) = components front ++ components back := by
  have htext : (front ++ "." ++ back).toList = front.toList ++ '.' :: back.toList := by
    simp
  rw [components, htext, splitOn_append_cons, List.map_append]
  rfl

theorem components_belowPackage {package name : String} (h : name ≠ "") :
    components (belowPackage package name) = components package ++ components name := by
  rw [belowPackage_of_ne h, components_append]

theorem ofComponents_components (text : String) : ofComponents (components text) = text := by
  have hjoin (parts : List (List Char)) :
      ofComponents (parts.map String.ofList) = String.ofList (joinWith ['.'] parts) := by
    induction parts using joinWith.induct with
    | case1 => rfl
    | case2 part => simp [ofComponents, joinWith]
    | case3 part parts hparts ih =>
        have hne : parts.map String.ofList ≠ [] := by
          rw [ne_eq, List.map_eq_nil_iff]
          exact hparts
        rw [ofComponents] at ih ⊢
        rw [List.map_cons, String.intercalate_cons_of_ne_nil hne, ih, joinWith.eq_3 _ _ _ hparts]
        simp [String.append_assoc]
  rw [components, hjoin, joinWith_splitOn, String.ofList_toList]

theorem ofComponents_append {cs ds : List String} (hcs : cs ≠ []) (hds : ds ≠ []) :
    ofComponents (cs ++ ds) = ofComponents cs ++ "." ++ ofComponents ds :=
  String.intercalate_append_of_ne_nil hcs hds

theorem ofComponents_eq_empty_iff {cs : List String} :
    ofComponents cs = "" ↔ cs = [] ∨ cs = [""] := by
  match cs with
  | [] => simp [ofComponents]
  | [c] => simp [ofComponents]
  | c :: d :: cs =>
      rw [ofComponents, String.intercalate_cons_cons]
      simp

theorem ofComponents_ne_empty {cs : List String} (hne : cs ≠ []) (h : ∀ c ∈ cs, c ≠ "") :
    ofComponents cs ≠ "" := by
  rw [ne_eq, ofComponents_eq_empty_iff, not_or]
  exact ⟨hne, fun hlone => h "" (hlone ▸ List.mem_singleton.mpr rfl) rfl⟩

theorem concat_ne_lone (cs : List String) {c : String} (h : c ≠ "") : cs ++ [c] ≠ [""] := by
  intro heq
  have hlast := congrArg List.getLast? heq
  simp only [List.getLast?_append, List.getLast?_singleton, Option.some_or,
    Option.some.injEq] at hlast
  exact h hlast

theorem ofComponents_concat_ne_empty (cs : List String) {c : String} (h : c ≠ "") :
    ofComponents (cs ++ [c]) ≠ "" := by
  rw [ne_eq, ofComponents_eq_empty_iff, not_or]
  exact ⟨by simp, concat_ne_lone cs h⟩

/-- Components below a package, unless they are nothing but an empty one, which is no root. -/
theorem ofComponents_below (package : String) {cs : List String} (h : cs ≠ [""]) :
    ofComponents (components package ++ cs) = belowPackage package (ofComponents cs) := by
  by_cases hnil : cs = []
  · subst hnil
    rw [List.append_nil, ofComponents_components]
    exact (belowPackage_empty package).symm
  · have hne : ofComponents cs ≠ "" := fun hempty =>
      (ofComponents_eq_empty_iff.mp hempty).elim hnil h
    rw [ofComponents_append (components_ne_nil package) hnil, ofComponents_components,
      belowPackage_of_ne hne]

/-! ### Names of modules -/

/-- The name of a module with a package in front of the project. -/
def inPackage (package : String) (m : ModuleName) : ModuleName :=
  ⟨belowPackage package m.text, m.isPackage⟩

theorem packageComponents_some {package : String} (h : package ≠ "") :
    packageComponents (some package) = components package := by
  unfold packageComponents
  split
  · rename_i heq
    cases heq
  · rename_i heq
    exact absurd (Option.some.inj heq) h
  · rename_i heq
    rw [Option.some.inj heq]

/-- No component of a path is empty. -/
theorem ne_empty_of_mem_components {path c : String} {p : Path}
    (hp : (Path.ofString path).withoutExtension? = some p) (hc : c ∈ p.components) : c ≠ "" := by
  unfold Path.withoutExtension? at hp
  split at hp
  · cases hp
  · rename_i hname
    cases hp
    have hstem : (Path.ofString path).stem ≠ "" := by
      rw [Path.stem, Path.splitExtension]
      split
      · rename_i h
        simpa using h.2.1
      · exact hname
    have hparts (hc : c ∈ (Path.ofString path).parts.dropLast ++ [(Path.ofString path).stem]) :
        c ≠ "" := by
      rcases List.mem_append.mp hc with hc | hc
      · exact (isPart_of_mem (List.dropLast_subset _ hc)).ne_empty
      · rw [List.mem_singleton.mp hc]
        exact hstem
    rw [Path.components] at hc
    split at hc
    · exact hparts hc
    · rename_i hroot
      rcases List.mem_cons.mp hc with rfl | hc
      · exact hroot
      · exact hparts hc

theorem length_le_components_of_path {path : String} {p : Path}
    (h : (Path.ofString path).withoutExtension? = some p) :
    (Path.ofString path).parts.length ≤ p.components.length ∧ p.components ≠ [] := by
  unfold Path.withoutExtension? at h
  split at h
  · cases h
  · cases h
    unfold Path.components
    split <;> simp <;> omega

theorem ofComponents_ne_empty_of_path {path : String} {p : Path}
    (h : (Path.ofString path).withoutExtension? = some p) : ofComponents p.components ≠ "" :=
  ofComponents_ne_empty (length_le_components_of_path h).2 fun _ hc => ne_empty_of_mem_components h hc

/-- The name of a module follows its path. -/
theorem eq_of_ofPath {path : String} {package : Option String} {m : ModuleName}
    (h : ofPath path package = .ok m) :
    ∃ p, (Path.ofString path).withoutExtension? = some p ∧
      m = ⟨ofComponents (packageComponents package ++
        if p.components.getLast? = some packageFile then p.components.dropLast else p.components),
        p.components.getLast? = some packageFile⟩ := by
  unfold ofPath at h
  cases hp : (Path.ofString path).withoutExtension? with
  | none => simp only [hp] at h; cases h
  | some p =>
      simp only [hp] at h
      cases h
      exact ⟨p, rfl, rfl⟩

/-- A module without a name is the package at the root. -/
theorem isPackage_of_ofPath {path : String} {m : ModuleName} (h : ofPath path none = .ok m)
    (htext : m.text = "") : m.isPackage = true := by
  obtain ⟨p, hp, rfl⟩ := eq_of_ofPath h
  rw [decide_eq_true_eq]
  by_contra hfile
  rw [if_neg hfile] at htext
  exact ofComponents_ne_empty_of_path hp htext

theorem ofPath_inPackage {package : String} (hpackage : package ≠ "") (path : String) :
    ofPath path (some package) = (ofPath path none).map (inPackage package) := by
  unfold ofPath
  cases hp : (Path.ofString path).withoutExtension? with
  | none => simp only [hp, Except.map]
  | some p =>
      have hparts (c) (hc : c ∈ p.components) : c ≠ "" := ne_empty_of_mem_components hp hc
      have hinner : (if p.components.getLast? = some packageFile then p.components.dropLast
          else p.components) ≠ [""] := by
        intro h
        refine hparts "" ?_ rfl
        split at h
        · exact List.dropLast_subset _ (h ▸ List.mem_singleton.mpr rfl)
        · exact h ▸ List.mem_singleton.mpr rfl
      simp only [hp, packageComponents_some hpackage, ofComponents_below package hinner]
      rfl

/-! ### Relative imports -/

/-- A relative import that climbs no further than to the root of the sources. If it names no module,
it does not end at a lone empty component either, which is in front of a name that starts with a
dot. -/
structure StaysBelowRoot (m : ModuleName) (level : Nat) (target : Option String) : Prop where
  inside : level - 1 ≤ m.ownPackage.length
  named : target.filter (· != "") = none →
    m.ownPackage.take (m.ownPackage.length - (level - 1)) ≠ [""]

instance (m : ModuleName) (level : Nat) (target : Option String) :
    Decidable (m.StaysBelowRoot level target) :=
  decidable_of_iff (level - 1 ≤ m.ownPackage.length ∧ (target.filter (· != "") = none →
      m.ownPackage.take (m.ownPackage.length - (level - 1)) ≠ [""]))
    ⟨fun h => ⟨h.1, h.2⟩, fun h => ⟨h.inside, h.named⟩⟩

variable {package : String} {m : ModuleName}

theorem ownPackage_inPackage (hpackage : package ≠ "") (hroot : m.text = "" → m.isPackage = true) :
    (m.inPackage package).ownPackage = components package ++ m.ownPackage := by
  by_cases htext : m.text = ""
  · simp [ownPackage, hpackage, htext, hroot htext, inPackage]
  · have hbelow : (m.inPackage package).text ≠ "" := by
      rw [inPackage, belowPackage_of_ne htext]
      simp
    have hcomponents : components (m.inPackage package).text =
        components package ++ components m.text := components_belowPackage htext
    rw [ownPackage, ownPackage, if_neg hbelow, if_neg htext, hcomponents,
      List.dropLast_append_of_ne_nil (components_ne_nil m.text)]
    cases hkind : m.isPackage <;> simp [inPackage, hkind]

theorem resolve_inPackage (hpackage : package ≠ "") (hroot : m.text = "" → m.isPackage = true)
    {level : Nat} {target : Option String} (hlevel : level ≠ 0)
    (h : m.StaysBelowRoot level target) :
    (m.inPackage package).resolve level target = belowPackage package (m.resolve level target) := by
  have hinside := h.inside
  have hkept : kept m.ownPackage.length (level - 1) = m.ownPackage.length - (level - 1) :=
    if_pos hinside
  have hkept' : kept (components package ++ m.ownPackage).length (level - 1) =
      (components package).length + (m.ownPackage.length - (level - 1)) := by
    rw [kept, List.length_append, if_pos (by omega)]
    omega
  have hreached : m.ownPackage.take (m.ownPackage.length - (level - 1)) ++
      (target.filter (· != "")).toList ≠ [""] := by
    cases htarget : target.filter (· != "") with
    | none => simpa using h.named htarget
    | some name =>
        have hname : name ≠ "" := bne_iff_ne.mp (Option.filter_eq_some_iff.mp htarget).2
        exact concat_ne_lone _ hname
  rw [resolve, resolve, if_neg hlevel, if_neg hlevel, ownPackage_inPackage hpackage hroot]
  simp only [hkept, hkept', List.take_append, List.append_assoc]
  rw [List.take_of_length_le (by omega), Nat.add_sub_cancel_left]
  exact ofComponents_below package hreached

end ModuleName

end TypedClients
