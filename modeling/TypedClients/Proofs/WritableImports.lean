import TypedClients.Proofs.MovedRoutes
import TypedClients.Proofs.RelativeImports
import TypedClients.Proofs.TypeImports
import TypedClients.Proofs.WrittenImports

/-!
# Imports that can be written

The imports of a type come from the imports and the definitions of its module. They name a module, and
can be written and read back, but for those that lead to the root of sources that stand in no package:
the root has no name. `isWritable_iff` says where this is so.
-/
namespace TypedClients

open TypedClients.Text TypedClients.Code

/-! ### Packages of modules -/

namespace ModuleName

variable {path : String} {package : Option String} {m : ModuleName}

/-- A module of a project that is in no package belongs to at least the folders of its path. -/
theorem length_le_ownPackage (h : ofPath path none = .ok m) :
    (Path.ofString path).parts.length ≤ m.ownPackage.length + 1 := by
  obtain ⟨p, hp, rfl⟩ := eq_of_ofPath h
  obtain ⟨hlength, hne⟩ := length_le_components_of_path hp
  rw [show packageComponents none = [] from rfl, List.nil_append]
  by_cases hpackage : p.components.getLast? = some packageFile
  · have hdrop : p.components.dropLast.length = p.components.length - 1 := List.length_dropLast
    simp only [ownPackage, hpackage, if_true, decide_true]
    split
    · rename_i hempty
      have hinner : p.components.dropLast = [] := by
        by_contra hne
        refine ofComponents_ne_empty hne (fun c hc => ?_) hempty
        exact ne_empty_of_mem_components hp (List.dropLast_subset _ hc)
      rw [hinner] at hdrop
      simp only [List.length_nil] at hdrop ⊢
      omega
    · rename_i hnamed
      have hinner : p.components.dropLast ≠ [] := fun hnil => hnamed (by rw [hnil]; rfl)
      have hcomponents := length_le_components hinner
      omega
  · have hnamed := ofComponents_ne_empty_of_path hp
    have hcomponents := length_le_components hne
    simp only [ownPackage, hpackage, if_false, decide_false, Bool.false_eq_true, hnamed,
      List.length_dropLast]
    omega

/-- A module belongs to the package of the project, and there to at least the folders of its path. -/
theorem exists_ownPackage (h : ofPath path package = .ok m) :
    ∃ folders, m.ownPackage = packageComponents package ++ folders ∧
      (Path.ofString path).parts.length ≤ folders.length + 1 := by
  have hplain (h : ofPath path none = .ok m) : ∃ folders, m.ownPackage = [] ++ folders ∧
      (Path.ofString path).parts.length ≤ folders.length + 1 :=
    ⟨m.ownPackage, rfl, length_le_ownPackage h⟩
  match package with
  | none => exact hplain h
  | some package =>
      by_cases hempty : package = ""
      · subst hempty
        exact hplain h
      · rw [ofPath_inPackage hempty] at h
        cases hm : ofPath path none with
        | error f => rw [hm] at h; cases h
        | ok inner =>
            rw [hm] at h
            obtain rfl : inner.inPackage package = m := Except.ok.inj h
            rw [packageComponents_some hempty]
            exact ⟨_, ownPackage_inPackage hempty (isPackage_of_ofPath hm), length_le_ownPackage hm⟩

/-- A package has a name, and so has everything below it. -/
theorem eq_none_of_ofComponents {cs : List String}
    (h : ofComponents (packageComponents package ++ cs) = "") :
    package = none ∨ package = some "" := by
  have hnil : packageComponents package = [] := by
    rcases ofComponents_eq_empty_iff.mp h with h | h
    · exact (List.append_eq_nil_iff.mp h).1
    · rcases List.append_eq_singleton_iff.mp h with ⟨hnil, -⟩ | ⟨hlone, -⟩
      · exact hnil
      · exact absurd hlone (packageComponents_ne package)
  match package with
  | none => exact .inl rfl
  | some package =>
      refine .inr (congrArg some ?_)
      by_contra hempty
      rw [packageComponents_some hempty] at hnil
      exact components_ne_nil package hnil

theorem eq_none_of_text (h : ofPath path package = .ok m) (htext : m.text = "") :
    package = none ∨ package = some "" := by
  obtain ⟨p, -, rfl⟩ := eq_of_ofPath h
  exact eq_none_of_ofComponents htext

/-- The root of the sources has no name only if the project is in no package. -/
theorem eq_none_of_below (h : ofPath path package = .ok m) {level : Nat}
    (hinside : level ≤ (Path.ofString path).parts.length)
    (hroot : m.below (m.ownPackage.length + 1 - level) none = "") :
    package = none ∨ package = some "" := by
  obtain ⟨folders, hown, hfolders⟩ := exists_ownPackage h
  have hcount : (packageComponents package ++ folders).length + 1 - level =
      (packageComponents package).length + (folders.length + 1 - level) := by
    rw [List.length_append]
    omega
  rw [below, hown, hcount, List.take_length_add_append, Option.filter_none, Option.toList_none,
    List.append_nil] at hroot
  exact eq_none_of_ofComponents hroot

/-- A relative import that stays inside the sources climbs as many folders as its dots say. -/
theorem resolve_of_inside (h : ofPath path package = .ok m) {level : Nat} (hlevel : level ≠ 0)
    (hinside : level ≤ (Path.ofString path).parts.length) (target : Option String) :
    m.resolve level target = m.below (m.ownPackage.length + 1 - level) target := by
  obtain ⟨folders, hown, hfolders⟩ := exists_ownPackage h
  obtain ⟨climbs, rfl⟩ := Nat.exists_eq_succ_of_ne_zero hlevel
  have hlength : m.ownPackage.length = (packageComponents package).length + folders.length := by
    rw [hown, List.length_append]
  have hkept : kept m.ownPackage.length climbs = m.ownPackage.length + 1 - (climbs + 1) := by
    rw [kept, if_pos (by omega)]
    omega
  rw [resolve_succ, hkept]

theorem target_of_below {count : Nat} {target : Option String} (h : m.below count target = "") :
    target.filter (· != "") = none := by
  cases htarget : target.filter (· != "") with
  | none => rfl
  | some text =>
      have hne : text ≠ "" := bne_iff_ne.mp (Option.filter_eq_some_iff.mp htarget).2
      rw [below, htarget, Option.toList_some] at h
      exact absurd h (ofComponents_concat_ne_empty _ hne)

/-! ### Dotted names -/

theorem ne_empty_of_dotted {text : String}
    (h : Dotted (fun c => isIdentifier c.toList = true) text) : text ≠ "" := by
  obtain ⟨cs, hne, hcs, rfl⟩ := h
  exact ofComponents_ne_empty hne fun c hc => ne_empty_of_isIdentifier (hcs c hc)

/-- If the name of a module is made of names, so is its package. -/
theorem isName_of_mem_ownPackage (h : m.text ≠ "" → Dotted IsName m.text) :
    ∀ c ∈ m.ownPackage, IsName c := by
  intro c hc
  have hmem : c ∈ if m.text = "" then [] else components m.text := by
    unfold ownPackage at hc
    extract_lets cs at hc
    split at hc
    · exact hc
    · exact List.dropLast_subset _ hc
  split at hmem
  · cases hmem
  · rename_i hne
    obtain ⟨cs, hcs, hnames, htext⟩ := h hne
    have hdotless (c) (hc : c ∈ cs) : '.' ∉ c.toList :=
      not_mem_of_isIdentifier (hnames c hc).identifier (by decide) (by decide)
    rw [htext, components_ofComponents hdotless hcs] at hmem
    exact hnames c hmem

theorem dotted_below {N : String → Prop} (hown : ∀ c ∈ m.ownPackage, N c) {target : Option String}
    (htarget : ∀ text ∈ target, Dotted N text) {count : Nat} (hne : m.below count target ≠ "") :
    Dotted N (m.below count target) := by
  have htake (c) (hc : c ∈ m.ownPackage.take count) : N c := hown c (List.take_subset _ _ hc)
  rw [below] at hne ⊢
  cases hfilter : target.filter (· != "") with
  | none =>
      rw [hfilter, Option.toList_none, List.append_nil] at hne
      rw [Option.toList_none, List.append_nil]
      refine ⟨_, fun hnil => hne ?_, htake, rfl⟩
      rw [hnil]
      rfl
  | some text =>
      obtain ⟨ds, hds, hnames, rfl⟩ := htarget text (Option.filter_eq_some_iff.mp hfilter).1
      rw [Option.toList_some, ofComponents_concat _ hds]
      exact ⟨_, by simp [hds], List.forall_mem_append.mpr ⟨htake, hnames⟩, rfl⟩

/-- What an import names is made of names, if the name of its module and its target are. -/
theorem dotted_resolve {N : String → Prop} (hown : ∀ c ∈ m.ownPackage, N c) {level : Nat}
    {target : Option String} (htarget : ∀ text ∈ target, Dotted N text)
    (hne : m.resolve level target ≠ "") : Dotted N (m.resolve level target) := by
  cases level with
  | zero =>
      have hresolve : m.resolve 0 target = target.getD "" := rfl
      rw [hresolve] at hne ⊢
      cases target with
      | none => exact absurd rfl hne
      | some text => exact htarget text rfl
  | succ climbs =>
      rw [resolve_succ] at hne ⊢
      exact dotted_below hown htarget hne

end ModuleName

/-! ### References of a module -/

namespace SourceModule

open SourceType

variable {m : SourceModule} {name : String} {r : ImportRef}

/-- The relative imports of a module climb no further than to the root of the sources. -/
def StaysInside (m : SourceModule) : Prop :=
  ∀ i ∈ m.relativeImports, i.1 ≤ (Path.ofString m.path).parts.length

instance (m : SourceModule) : Decidable m.StaysInside :=
  inferInstanceAs (Decidable (∀ i ∈ m.relativeImports, _))

/-- A name that comes from a place without a name: a relative import takes it from there, or the module
is the one that stands for this place and defines it. -/
inductive AtRoot (m : SourceModule) (name : String) : Prop
  | taken {o : WrittenOrigin} (ho : m.writtenImports.get? name = some o) (hlevel : o.level ≠ 0)
      (htarget : o.target = none)
      (hroot : m.name.below (m.name.ownPackage.length + 1 - o.level) none = "")
  | defined (hnames : m.writtenImports.get? name = none) (hmodules : m.moduleImports.get? name = none)
      (hdefined : name ∈ m.definitions) (hroot : m.name.text = "")

/-- The import for a name by what the module says about the name. -/
inductive Refers (m : SourceModule) (name : String) : ImportRef → Prop
  | taken {o : WrittenOrigin} (ho : m.writtenImports.get? name = some o) :
      Refers m name ⟨m.name.resolve o.level o.target, some o.name,
        if name = o.name then none else some name⟩
  | module {origin : ModuleOrigin} (hnames : m.writtenImports.get? name = none)
      (horigin : m.moduleImports.get? name = some origin) :
      Refers m name ⟨origin.module, none, origin.localName⟩
  | defined (hnames : m.writtenImports.get? name = none) (hmodules : m.moduleImports.get? name = none)
      (hdefined : name ∈ m.definitions) : Refers m name ⟨m.name.text, some name, none⟩

theorem refers_of_reference? (h : reference? m name = some r) : m.Refers name r := by
  unfold reference? at h
  rw [get?_nameImports] at h
  cases ho : m.writtenImports.get? name with
  | some o =>
      rw [ho] at h
      cases h
      exact .taken ho
  | none =>
      rw [ho] at h
      cases horigin : m.moduleImports.get? name with
      | some origin =>
          rw [horigin] at h
          cases h
          exact .module ho horigin
      | none =>
          rw [horigin] at h
          dsimp only [Option.map_none] at h
          split at h
          · rename_i hdefined
            cases h
            exact .defined ho horigin hdefined
          · cases h

section

variable {N : String → Prop} (hbody : ∀ stmt ∈ m.body, stmt.NamesMeet N)

include hbody

theorem meets_of_writtenImports {o : WrittenOrigin} (ho : m.writtenImports.get? name = some o) :
    (∀ text ∈ o.target, Dotted N text) ∧ (o.target = none → o.level ≠ 0) ∧ N o.name ∧ N name := by
  rcases Dictionary.get?_foldl_insert ho with h | h
  · obtain ⟨stmt, hstmt, hname⟩ := List.mem_flatMap.mp h
    have hmeets := hbody stmt hstmt
    cases stmt
    case importFrom target names level =>
      obtain ⟨htarget, hlevel, hnames⟩ := hmeets
      obtain ⟨i, hi, heq⟩ := List.mem_map.mp hname
      cases heq
      obtain ⟨hi, hstar⟩ := List.mem_filter.mp hi
      obtain ⟨htaken, hlocal⟩ := hnames i hi
      have htaken := htaken.resolve_left (bne_iff_ne.mp hstar)
      refine ⟨htarget, hlevel, htaken, ?_⟩
      cases hown : i.localName with
      | none => exact htaken
      | some n => exact hlocal n hown
    all_goals cases hname
  · cases h

theorem meets_of_moduleImports {origin : ModuleOrigin}
    (h : m.moduleImports.get? name = some origin) :
    Dotted N origin.module ∧ ∀ n ∈ origin.localName, N n := by
  rcases Dictionary.get?_foldl_insert h with h | h
  · obtain ⟨stmt, hstmt, hname⟩ := List.mem_flatMap.mp h
    have hmeets := hbody stmt hstmt
    cases stmt
    case importModules modules =>
      obtain ⟨i, hi, heq⟩ := List.mem_map.mp hname
      obtain ⟨hmodule, hlocal⟩ := hmeets i hi
      cases hown : i.localName with
      | none =>
          rw [hown] at heq
          cases heq
          exact ⟨hmodule, nofun⟩
      | some n =>
          rw [hown] at heq
          cases heq
          refine ⟨hmodule, ?_⟩
          rintro _ ⟨⟩
          exact hlocal _ hown
    all_goals cases hname
  · cases h

theorem meets_of_definitions (h : name ∈ m.definitions) : N name := by
  obtain ⟨stmt, hstmt, hname⟩ := List.mem_flatMap.mp h
  have hmeets := hbody stmt hstmt
  cases stmt
  case importModules modules => cases hname
  case importFrom target names level => cases hname
  all_goals exact hmeets name hname

end

/-- The import for a name names a module, unless the name comes from the root of the sources. -/
theorem module_eq_empty_iff {path : String} {package : Option String}
    (hpath : ModuleName.ofPath path package = .ok m.name)
    (hbody : ∀ stmt ∈ m.body, stmt.NamesMeet fun n => isIdentifier n.toList = true)
    (hinside : ∀ i ∈ m.relativeImports, i.1 ≤ (Path.ofString path).parts.length)
    (h : reference? m name = some r) : r.module = "" ↔ m.AtRoot name := by
  cases refers_of_reference? h with
  | @taken o ho =>
      obtain ⟨htarget, hnone, -⟩ := meets_of_writtenImports hbody ho
      have hmem := mem_of_writtenImports ho
      have hresolve (hlevel : o.level ≠ 0) : m.name.resolve o.level o.target =
          m.name.below (m.name.ownPackage.length + 1 - o.level) o.target := by
        rw [if_neg hlevel] at hmem
        exact ModuleName.resolve_of_inside hpath hlevel (hinside _ hmem) o.target
      constructor
      · intro hempty
        dsimp only at hempty
        cases hwritten : o.target with
        | some text =>
            have hne := ModuleName.ne_empty_of_dotted (htarget text hwritten)
            exfalso
            by_cases hlevel : o.level = 0
            · rw [hlevel, hwritten] at hempty
              exact hne hempty
            · rw [hresolve hlevel, hwritten] at hempty
              have hfilter := ModuleName.target_of_below hempty
              rw [Option.filter_some, if_pos (bne_iff_ne.mpr hne)] at hfilter
              cases hfilter
        | none =>
            have hlevel := hnone hwritten
            refine .taken ho hlevel hwritten ?_
            rw [hresolve hlevel, hwritten] at hempty
            exact hempty
      · rintro (⟨ho', hlevel, htarget', hroot⟩ | ⟨hnames, -⟩)
        · cases ho.symm.trans ho'
          dsimp only
          rw [hresolve hlevel, htarget', hroot]
        · cases ho.symm.trans hnames
  | module hnames horigin =>
      have hmodule := ModuleName.ne_empty_of_dotted (meets_of_moduleImports hbody horigin).1
      refine iff_of_false hmodule ?_
      rintro (⟨ho, -⟩ | ⟨-, hmodules, -⟩)
      · cases hnames.symm.trans ho
      · cases horigin.symm.trans hmodules
  | defined hnames hmodules hdefined =>
      constructor
      · exact .defined hnames hmodules hdefined
      · rintro (⟨ho, -⟩ | ⟨-, -, -, hroot⟩)
        · cases hnames.symm.trans ho
        · exact hroot

/-- An import that leads to the root of the sources is one of a name. -/
theorem name_of_atRoot (h : reference? m name = some r) (hroot : m.AtRoot name) :
    ∃ n, r.name = some n := by
  cases refers_of_reference? h with
  | taken ho => exact ⟨_, rfl⟩
  | module hnames horigin =>
      rcases hroot with ⟨ho, -⟩ | ⟨-, hmodules, -⟩
      · cases hnames.symm.trans ho
      · cases horigin.symm.trans hmodules
  | defined hnames hmodules hdefined => exact ⟨_, rfl⟩

/-- An import that names a module consists of names, if the source and its own name do. -/
theorem isNamed_of_reference? (hbody : ∀ stmt ∈ m.body, stmt.NamesMeet IsName)
    (hname : m.name.text ≠ "" → Dotted IsName m.name.text) (h : reference? m name = some r)
    (hne : r.module ≠ "") : r.IsNamed := by
  cases refers_of_reference? h with
  | @taken o ho =>
      obtain ⟨htarget, -, htaken, hlocal⟩ := meets_of_writtenImports hbody ho
      refine ⟨ModuleName.dotted_resolve (ModuleName.isName_of_mem_ownPackage hname) htarget hne, ?_, ?_⟩
      · rintro _ ⟨⟩
        exact htaken
      · intro n hn
        dsimp only at hn
        split at hn
        · cases hn
        · cases hn
          exact hlocal
  | module hnames horigin =>
      obtain ⟨hmodule, hlocal⟩ := meets_of_moduleImports hbody horigin
      exact ⟨hmodule, nofun, hlocal⟩
  | defined hnames hmodules hdefined =>
      refine ⟨hname hne, ?_, nofun⟩
      rintro _ ⟨⟩
      exact meets_of_definitions hbody hdefined

end SourceModule

/-- The names in a source are written as they are. -/
def WritesNames (source : String) : Prop :=
  ∀ ts ∈ Token.scan (scannedText source), Token.NamesMeet IsName ts

instance (source : String) : Decidable (WritesNames source) :=
  inferInstanceAs (Decidable (∀ ts ∈ Token.scan (scannedText source), Token.NamesMeet IsName ts))

namespace SourceProject

open SourceType

theorem isNamed_anyImport : anyImport.IsNamed where
  module := ⟨["typing"], by simp, List.forall_mem_singleton.mpr
    (isName_of_isPlainIdentifier (by decide) (by decide)), by decide⟩
  name := by
    rintro _ ⟨⟩
    exact isName_of_isPlainIdentifier (by decide) (by decide)
  localName := nofun

/-- Of the imports of the types in a module that stays inside the sources, those without a module are the
ones for names that come from the root. There are none if the project is in a package, and they cannot be
written. All others are read back as they are, if no name in the source and in the path is written in
another way than it is spelled. -/
theorem isWritable_iff {sources : List (String × String)} {package : Option String} {p : SourceProject}
    (hp : ofSources sources package = .ok p) {m : SourceModule} (hm : m ∈ p.modules)
    (hinside : m.StaysInside) {e : Option Expr} {refs : List ImportRef}
    (hrefs : (ofExpr e m (some p)).imports.result = .ok refs) {r : ImportRef} (hr : r ∈ refs) :
    (r.module = "" ↔ ∃ name, m.AtRoot name ∧ reference? m name = some r) ∧
    (r.module = "" → (package = none ∨ package = some "") ∧ ¬ r.IsWritable) ∧
    ((∀ source ∈ sources, source.1 = m.path → WritesNames source.2) →
      (m.name.text ≠ "" → Dotted IsName m.name.text) → (r.IsWritable ↔ r.module ≠ "")) := by
  obtain ⟨source, hsource, hread⟩ := exists_readText_of_mem hp hm
  obtain ⟨hpath, hname⟩ := SourceModule.read_eq_ok hread
  have hstmts := SourceModule.readStatements_of_read hread
  have hidentifiers : ∀ stmt ∈ m.body, stmt.NamesMeet fun n => isIdentifier n.toList = true :=
    namesMeet_of_readStatements hstmts (Token.isIdentifier_of_scan _)
  have hinside : ∀ i ∈ m.relativeImports, i.1 ≤ (Path.ofString source.1).parts.length := by
    rw [← hpath]
    exact hinside
  -- An import is either that of any type, or found for a name.
  have hfound : r = anyImport ∨ ∃ name, reference? m name = some r := by
    unfold imports at hrefs
    cases e with
    | none =>
        cases hrefs
        exact .inl (List.mem_singleton.mp hr)
    | some e =>
        rcases (importsFor_eq_ok hrefs r).mp hr with hnil | ⟨name, -, h⟩
        · cases hnil
        · exact .inr ⟨name, h⟩
  have hroot : r.module = "" ↔ ∃ name, m.AtRoot name ∧ reference? m name = some r := by
    constructor
    · intro hempty
      rcases hfound with rfl | ⟨name, h⟩
      · exact absurd hempty (by decide)
      · exact ⟨name, (SourceModule.module_eq_empty_iff hname hidentifiers hinside h).mp hempty, h⟩
    · rintro ⟨name, hroot, h⟩
      exact (SourceModule.module_eq_empty_iff hname hidentifiers hinside h).mpr hroot
  have hunwritten (hempty : r.module = "") : ¬ r.IsWritable := by
    obtain ⟨name, hroot, h⟩ := hroot.mp hempty
    obtain ⟨n, hn⟩ := SourceModule.name_of_atRoot h hroot
    obtain ⟨module, _, own⟩ := r
    cases hempty
    cases hn
    exact ImportRef.not_isWritable_of_empty n own
  refine ⟨hroot, fun hempty => ⟨?_, hunwritten hempty⟩, fun hwrites hdotted => ?_⟩
  · obtain ⟨name, hroot, -⟩ := hroot.mp hempty
    cases hroot with
    | taken ho hlevel htarget hroot =>
        have hmem := SourceModule.mem_of_writtenImports ho
        rw [if_neg hlevel] at hmem
        exact ModuleName.eq_none_of_below hname (hinside _ hmem) hroot
    | defined _ _ _ hroot => exact ModuleName.eq_none_of_text hname hroot
  · have hnames := namesMeet_of_readStatements hstmts (hwrites source hsource hpath.symm)
    refine ⟨fun hwritable hempty => hunwritten hempty hwritable, fun hne => ?_⟩
    rcases hfound with rfl | ⟨name, h⟩
    · exact ImportRef.isWritable_of_isNamed isNamed_anyImport
    · exact ImportRef.isWritable_of_isNamed (SourceModule.isNamed_of_reference? hnames hdotted h hne)

/-! ### Imports in a shop -/

/-- A module that takes a type from another one beside it. -/
def userSources : List (String × String) :=
  [("people/api.py", "from .models import User as Person\n"), ("people/models.py", "class User: ...\n")]

theorem isWritable_iff_user : ∃ p, ofSources userSources (some "shop") = .ok p ∧ ∃ m ∈ p.modules,
    m.StaysInside ∧ (∀ source ∈ userSources, source.1 = m.path → WritesNames source.2) ∧
    Dotted IsName m.name.text ∧
    (ofExpr (some (.name "Person")) m (some p)).imports.result =
      .ok [⟨"shop.people.models", some "User", some "Person"⟩] ∧
    ImportRef.IsWritable ⟨"shop.people.models", some "User", some "Person"⟩ := by
  obtain ⟨p, hp, hcheck⟩ := ProjectSettings.exists_project_of_check (some "shop")
    (fun p => p.modules.any fun m => decide (m.StaysInside ∧
      m.name.text = ModuleName.ofComponents ["shop", "people", "api"] ∧
      (ofExpr (some (.name "Person")) m (some p)).imports.result =
        .ok [⟨"shop.people.models", some "User", some "Person"⟩]))
    (by decide : userSources.Pairwise _) (by decide +kernel)
  obtain ⟨m, hm, hcheck⟩ := List.any_eq_true.mp hcheck
  obtain ⟨hinside, hname, hrefs⟩ := of_decide_eq_true hcheck
  have hwrites : ∀ source ∈ userSources, WritesNames source.2 := by decide +kernel
  have hdotted : Dotted IsName m.name.text := ⟨_, by simp, by decide +kernel, hname⟩
  refine ⟨p, hp, m, hm, hinside, fun source h _ => hwrites source h, hdotted, hrefs, ?_⟩
  obtain ⟨-, -, hwritable⟩ := isWritable_iff hp hm hinside hrefs List.mem_cons_self
  exact (hwritable (fun source h _ => hwrites source h) fun _ => hdotted).mpr (by decide)

/-- A module in the root of the sources that takes a name from there. -/
def rootSources : List (String × String) := [("users.py", "from . import User\n")]

/-- The import for a name that is taken from the root has no module. -/
theorem not_isWritable : ¬ ∀ (sources : List (String × String)) (package : Option String)
    (p : SourceProject), ofSources sources package = .ok p → (∀ m ∈ p.modules, m.StaysInside) →
    ∀ m ∈ p.modules, ∀ (e : Expr) (refs : List ImportRef),
      (ofExpr (some e) m (some p)).imports.result = .ok refs →
      ∀ r ∈ refs, r.module ≠ "" ∧ r.IsWritable := by
  intro hall
  obtain ⟨p, hp, hcheck⟩ := ProjectSettings.exists_project_of_check none
    (fun p => decide (∀ m ∈ p.modules, m.StaysInside) && p.modules.any fun m =>
      decide ((ofExpr (some (.name "User")) m (some p)).imports.result = .ok [⟨"", some "User", none⟩]))
    (by decide : rootSources.Pairwise _) (by decide +kernel)
  rw [Bool.and_eq_true, decide_eq_true_eq, List.any_eq_true] at hcheck
  obtain ⟨hinside, m, hm, hrefs⟩ := hcheck
  exact (hall _ none p hp hinside m hm _ _ (of_decide_eq_true hrefs) _ List.mem_cons_self).1 rfl

end SourceProject

end TypedClients
