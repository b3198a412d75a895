import TypedClients.Proofs.PackageNames

/-!
# Relative imports

A relative import names its module by the place of the file that it stands in. As long as it climbs no
further than to the root of the sources it leads to the name that the file at this place has:
`resolve_of_paths`. Beyond the top of the package the climb starts again from the bottom, so that it ends
inside the package once more: `resolve_climbs_iff`.
-/
namespace TypedClients

open TypedClients.Text

namespace ModuleName

/-! ### Components of dotted names -/

/-- A text that is one component, both of a dotted name and of a path. -/
structure IsComponent (c : String) : Prop where
  ne_empty : c ≠ ""
  dotless : '.' ∉ c.toList
  slashless : '/' ∉ c.toList

theorem isComponent_of_isIdentifier {c : String} (h : isIdentifier c.toList = true) :
    IsComponent c where
  ne_empty := by
    rintro rfl
    exact absurd h (by decide)
  dotless := not_mem_of_isIdentifier h (by decide) (by decide)
  slashless := not_mem_of_isIdentifier h (by decide) (by decide)

theorem IsComponent.isPart {c : String} (h : IsComponent c) : IsPart c where
  ne_empty := h.ne_empty
  ne_dot := by
    rintro rfl
    exact h.dotless (by decide)
  slashless := h.slashless

/-- Components without dots are found again in the name that they make up. -/
theorem components_ofComponents {cs : List String} (hdots : ∀ c ∈ cs, '.' ∉ c.toList)
    (hne : cs ≠ []) : components (ofComponents cs) = cs := by
  have hsplit : splitOn '.' (ofComponents cs).toList = cs.map String.toList := by
    induction cs with
    | nil => exact absurd rfl hne
    | cons c cs ih =>
        obtain ⟨hc, hcs⟩ := List.forall_mem_cons.mp hdots
        cases cs with
        | nil =>
            rw [ofComponents, String.intercalate_singleton]
            exact splitOn_eq_singleton hc
        | cons d cs =>
            have htext : (ofComponents (c :: d :: cs)).toList =
                c.toList ++ '.' :: (ofComponents (d :: cs)).toList := by
              simp [ofComponents, String.intercalate_cons_cons]
            rw [htext, splitOn_append_separator hc, ih hcs (List.cons_ne_nil d cs)]
            rfl
  rw [components, hsplit, List.map_map]
  simp [Function.comp_def]

theorem dotless_of_mem_components {text c : String} (h : c ∈ components text) :
    '.' ∉ c.toList := by
  obtain ⟨part, hpart, rfl⟩ := List.mem_map.mp h
  rw [String.toList_ofList]
  exact not_mem_of_mem_splitOn hpart

theorem dotless_of_mem_packageComponents {package : Option String} {c : String}
    (h : c ∈ packageComponents package) : '.' ∉ c.toList := by
  unfold packageComponents at h
  split at h
  · cases h
  · cases h
  · exact dotless_of_mem_components h

/-- Components with dots count more than once. -/
theorem length_le_components {cs : List String} (h : cs ≠ []) :
    cs.length ≤ (components (ofComponents cs)).length := by
  induction cs with
  | nil => exact absurd rfl h
  | cons c cs ih =>
      by_cases hnil : cs = []
      · subst hnil
        exact List.length_pos_iff.mpr (components_ne_nil _)
      · have ih := ih hnil
        rw [ofComponents, String.intercalate_cons_of_ne_nil hnil, components_append, List.length_append]
        have hfirst := List.length_pos_iff.mpr (components_ne_nil c)
        rw [List.length_cons]
        rw [ofComponents] at ih
        omega

/-- A package has a name, so that its components are not just an empty one. -/
theorem packageComponents_ne (package : Option String) : packageComponents package ≠ [""] := by
  unfold packageComponents
  split
  · simp
  · simp
  · rename_i package hempty
    intro h
    have hname := ofComponents_components package
    rw [h, ofComponents, String.intercalate_singleton] at hname
    exact hempty hname.symm

/-- A dotted name at the end of a name stands for its components. -/
theorem ofComponents_concat (cs : List String) {ds : List String} (hds : ds ≠ []) :
    ofComponents (cs ++ [ofComponents ds]) = ofComponents (cs ++ ds) := by
  by_cases hcs : cs = []
  · subst hcs
    exact String.intercalate_singleton
  · rw [ofComponents_append hcs (List.cons_ne_nil _ _), ofComponents_append hcs hds]
    exact congrArg _ String.intercalate_singleton

/-! ### Names of source files -/

/-- The path of a source file in nested folders. -/
def sourcePath (folders : List String) (file : String) : String :=
  "/".intercalate (folders ++ [file ++ ".py"])

theorem splitExtension_source {file : String} (hne : file ≠ "") :
    Path.splitExtension (file ++ ".py") = (file, ".py") := by
  have htext : (file ++ ".py").toList = file.toList ++ ['.', 'p', 'y'] := by simp
  have hending : (file ++ ".py").toList.reverse.takeWhile (· != '.') = ['y', 'p'] := by
    simp [htext]
  have hstem : (file ++ ".py").toList.take
      ((file ++ ".py").toList.length - ['y', 'p'].length - 1) = file.toList := by
    simp [htext]
  have hchars : file.toList ≠ [] := by simpa using hne
  have hlength : ['y', 'p'].length < (file ++ ".py").toList.length := by simp [htext]
  simp only [Path.splitExtension, hending, hstem]
  rw [if_pos ⟨by simp, hchars, hlength⟩, String.ofList_toList]
  rfl

/-- The name of a source file is made of the package, its folders, and the file itself unless that stands
for its folder. -/
theorem ofPath_sourcePath (package : Option String) {folders : List String} {file : String}
    (hfolders : ∀ d ∈ folders, IsComponent d) (hfile : IsComponent file) :
    ofPath (sourcePath folders file) package = .ok
      ⟨ofComponents (packageComponents package ++
        if file = packageFile then folders else folders ++ [file]), file = packageFile⟩ := by
  have hparts : ∀ name ∈ folders ++ [file ++ ".py"], IsPart name := by
    refine List.forall_mem_append.mpr ⟨fun d hd => (hfolders d hd).isPart, ?_⟩
    refine List.forall_mem_singleton.mpr ⟨by simp, ?_, ?_⟩
    · intro h
      have hlength := congrArg String.length h
      have hending : ".py".length = 3 := rfl
      have hdot : ".".length = 1 := rfl
      rw [String.length_append] at hlength
      omega
    · simpa using hfile.slashless
  have hpath : Path.ofString (sourcePath folders file) = ⟨"", folders ++ [file ++ ".py"]⟩ :=
    ofString_intercalate hparts (by simp)
  have hname : (⟨"", folders ++ [file ++ ".py"]⟩ : Path).fileName = file ++ ".py" := by
    simp [Path.fileName]
  have hstem : (⟨"", folders ++ [file ++ ".py"]⟩ : Path).withoutExtension? =
      some ⟨"", folders ++ [file]⟩ := by
    rw [Path.withoutExtension?, Path.stem, hname, splitExtension_source hfile.ne_empty,
      if_neg (by simp), List.dropLast_concat]
  have hlast : (folders ++ [file]).getLast? = some packageFile ↔ file = packageFile := by simp
  unfold ofPath
  simp only [hpath, hstem, Path.components, if_true, hlast, List.dropLast_concat]

/-- A file belongs to the package of its folders, be it the file that stands for the folder or not. -/
theorem ownPackage_of_sourcePath {package : Option String} {folders : List String} {file : String}
    (hfolders : ∀ d ∈ folders, IsComponent d) (hfile : IsComponent file) {m : ModuleName}
    (h : ofPath (sourcePath folders file) package = .ok m) :
    m.ownPackage = packageComponents package ++ folders := by
  rw [ofPath_sourcePath package hfolders hfile] at h
  obtain rfl := Except.ok.inj h
  have hdotless : ∀ c ∈ packageComponents package ++ folders, '.' ∉ c.toList :=
    List.forall_mem_append.mpr
      ⟨fun c hc => dotless_of_mem_packageComponents hc, fun d hd => (hfolders d hd).dotless⟩
  by_cases hpackage : file = packageFile
  · simp only [ownPackage, hpackage, if_true, decide_true]
    by_cases hempty : packageComponents package ++ folders = []
    · simp [hempty, ofComponents]
    · have hnamed : ofComponents (packageComponents package ++ folders) ≠ "" := by
        rw [ne_eq, ofComponents_eq_empty_iff, not_or]
        refine ⟨hempty, fun hlone => ?_⟩
        rcases List.append_eq_singleton_iff.mp hlone with ⟨-, hfolder⟩ | ⟨hcomponents, -⟩
        · exact (hfolders "" (hfolder ▸ List.mem_singleton.mpr rfl)).ne_empty rfl
        · exact packageComponents_ne package hcomponents
      rw [if_neg hnamed, components_ofComponents hdotless hempty]
  · have hall : ∀ c ∈ packageComponents package ++ (folders ++ [file]), '.' ∉ c.toList := by
      rw [← List.append_assoc]
      exact List.forall_mem_append.mpr ⟨hdotless, List.forall_mem_singleton.mpr hfile.dotless⟩
    have hnamed : ofComponents (packageComponents package ++ (folders ++ [file])) ≠ "" := by
      rw [← List.append_assoc]
      exact ofComponents_concat_ne_empty _ hfile.ne_empty
    simp only [ownPackage, hpackage, if_false, decide_false, Bool.false_eq_true]
    rw [if_neg hnamed, components_ofComponents hall (by simp), ← List.append_assoc,
      List.dropLast_concat]

/-- Within the sources a relative import climbs over the folders of its file and leaves the package as it
is. -/
theorem resolve_of_sourcePath {package : Option String} {folders : List String} {file : String}
    (hfolders : ∀ d ∈ folders, IsComponent d) (hfile : IsComponent file) {m : ModuleName}
    (h : ofPath (sourcePath folders file) package = .ok m) {level : Nat} (hlevel : 1 ≤ level)
    (hinside : level ≤ folders.length + 1) (target : Option String) :
    m.resolve level target = ofComponents (packageComponents package ++
      folders.take (folders.length + 1 - level) ++ (target.filter (· != "")).toList) := by
  have hkept : kept (packageComponents package ++ folders).length (level - 1) =
      (packageComponents package).length + (folders.length + 1 - level) := by
    rw [kept, List.length_append, if_pos (by omega)]
    omega
  rw [resolve, if_neg (by omega), ownPackage_of_sourcePath hfolders hfile h]
  simp only [hkept, List.take_length_add_append]

/-- A relative import that climbs no further than to the root of the sources names the module of the file
that it leads to: the file of the target, or the one that stands for the folder of this name, and without
a target the one that stands for the folder that it climbs to. -/
theorem resolve_of_paths (package : Option String) {folders : List String} {file : String} {level : Nat}
    (hfolders : ∀ d ∈ folders, isIdentifier d.toList = true) (hfile : isIdentifier file.toList = true)
    (hlevel : 1 ≤ level) (hinside : level ≤ folders.length + 1) :
    ∃ m, ofPath (sourcePath folders file) package = .ok m ∧
      (∀ inner last, (∀ c ∈ inner ++ [last], isIdentifier c.toList = true) → last ≠ packageFile →
        ofPath (sourcePath (folders.take (folders.length + 1 - level) ++ inner) last) package =
          .ok ⟨m.resolve level (some (ofComponents (inner ++ [last]))), false⟩ ∧
        ofPath (sourcePath (folders.take (folders.length + 1 - level) ++ (inner ++ [last])) packageFile)
          package = .ok ⟨m.resolve level (some (ofComponents (inner ++ [last]))), true⟩) ∧
      ofPath (sourcePath (folders.take (folders.length + 1 - level)) packageFile) package =
        .ok ⟨m.resolve level none, true⟩ := by
  have hfolders (d) (hd : d ∈ folders) : IsComponent d := isComponent_of_isIdentifier (hfolders d hd)
  have hfile : IsComponent file := isComponent_of_isIdentifier hfile
  have hreached : ∀ d ∈ folders.take (folders.length + 1 - level), IsComponent d :=
    fun d hd => hfolders d (List.take_subset _ _ hd)
  have hpackage : IsComponent packageFile := isComponent_of_isIdentifier (by decide)
  have hresolve := resolve_of_sourcePath hfolders hfile (ofPath_sourcePath package hfolders hfile)
    hlevel hinside
  refine ⟨_, ofPath_sourcePath package hfolders hfile, fun inner last htarget hlast => ?_, ?_⟩
  · have htarget (c) (hc : c ∈ inner ++ [last]) : IsComponent c :=
      isComponent_of_isIdentifier (htarget c hc)
    have hnamed : ofComponents (inner ++ [last]) ≠ "" :=
      ofComponents_concat_ne_empty inner (htarget last (by simp)).ne_empty
    have hfilter : (some (ofComponents (inner ++ [last]))).filter (· != "") =
        some (ofComponents (inner ++ [last])) := by
      rw [Option.filter_some, if_pos (bne_iff_ne.mpr hnamed)]
    have hinner := List.forall_mem_append.mp htarget
    rw [hresolve, hfilter, Option.toList_some, ofComponents_concat _ (by simp),
      ofPath_sourcePath package (List.forall_mem_append.mpr ⟨hreached, hinner.1⟩)
        (List.forall_mem_singleton.mp hinner.2),
      ofPath_sourcePath package (List.forall_mem_append.mpr ⟨hreached, htarget⟩) hpackage]
    simp only [hlast, if_false, if_true, List.append_assoc, decide_true, decide_false, and_self]
  · rw [hresolve, ofPath_sourcePath package hreached hpackage]
    simp

theorem resolve_of_paths_users :
    (∀ d ∈ ["app", "api"], isIdentifier d.toList = true) ∧ isIdentifier "users".toList = true ∧
    (∀ c ∈ ["people", "models"], isIdentifier c.toList = true) ∧ 2 ≤ ["app", "api"].length + 1 ∧
    sourcePath ["app", "api"] "users" = "app/api/users.py" ∧
    ∃ m, ofPath "app/api/users.py" (some "server") = .ok m ∧
      ofPath "app/people/models.py" (some "server") =
        .ok ⟨m.resolve 2 (some "people.models"), false⟩ ∧
      m.resolve 2 (some "people.models") = "server.app.people.models" := by
  have hfolders : ∀ d ∈ ["app", "api"], isIdentifier d.toList = true := by decide
  have hfile : isIdentifier "users".toList = true := by decide
  have htarget : ∀ c ∈ ["people", "models"], isIdentifier c.toList = true := by decide
  obtain ⟨m, hm, hresolve, -⟩ :=
    resolve_of_paths (some "server") hfolders hfile (by decide : 1 ≤ 2) (by decide)
  have hmodels := (hresolve ["people"] "models" htarget (by decide)).1
  refine ⟨hfolders, hfile, htarget, by decide, by decide, m, hm, hmodels, ?_⟩
  obtain rfl := Except.ok.inj hm
  decide

/-! ### Climbing beyond the top -/

/-- The dotted name of a target below some components of the package that a module belongs to. -/
def below (m : ModuleName) (count : Nat) (target : Option String) : String :=
  ofComponents (m.ownPackage.take count ++ (target.filter (· != "")).toList)

theorem resolve_succ (m : ModuleName) (climbs : Nat) (target : Option String) :
    m.resolve (climbs + 1) target = m.below (kept m.ownPackage.length climbs) target := rfl

theorem length_ofComponents {cs : List String} (h : cs ≠ []) :
    (ofComponents cs).length + 1 = (cs.flatMap fun c => '.' :: c.toList).length := by
  obtain ⟨c, cs, rfl⟩ := List.exists_cons_of_ne_nil h
  rw [← String.length_toList, toList_ofComponents_cons, List.flatMap_cons, List.cons_append,
    List.length_cons]

/-- More components make another name, unless all that is added to nothing is an empty component. -/
theorem below_eq_iff {m : ModuleName} {few more : Nat} (hless : few < more)
    (hmore : more ≤ m.ownPackage.length) (target : Option String) :
    m.below few target = m.below more target ↔
      few = 0 ∧ target.filter (· != "") = none ∧ m.ownPackage.take more = [""] := by
  have hsplit : m.ownPackage.take more =
      m.ownPackage.take few ++ (m.ownPackage.drop few).take (more - few) := by
    rw [← List.take_add, Nat.add_sub_cancel' (Nat.le_of_lt hless)]
  have hadded : (m.ownPackage.drop few).take (more - few) ≠ [] := by
    rw [← List.length_pos_iff, List.length_take, List.length_drop]
    omega
  rw [below, below]
  by_cases hnone : m.ownPackage.take few ++ (target.filter (· != "")).toList = []
  · obtain ⟨hfew, htarget⟩ := List.append_eq_nil_iff.mp hnone
    have htarget : target.filter (· != "") = none := Option.toList_eq_nil_iff.mp htarget
    have hzero : few = 0 := by
      have hlength := congrArg List.length hfew
      rw [List.length_take, List.length_nil] at hlength
      omega
    have hne : m.ownPackage.take more ≠ [] := by
      rw [hsplit]
      simp [hadded]
    simp only [htarget, Option.toList_none, List.append_nil, hzero, List.take_zero, true_and]
    rw [eq_comm, show ofComponents [] = "" from rfl, ofComponents_eq_empty_iff, or_iff_right hne]
  · have hlength : (ofComponents (m.ownPackage.take more ++ (target.filter (· != "")).toList)).length
        ≠ (ofComponents (m.ownPackage.take few ++ (target.filter (· != "")).toList)).length := by
      have hall : m.ownPackage.take more ++ (target.filter (· != "")).toList ≠ [] := by
        rw [hsplit]
        simp [hadded]
      have hsum := length_ofComponents hall
      have hsum' := length_ofComponents hnone
      obtain ⟨c, cs, hcons⟩ := List.exists_cons_of_ne_nil hadded
      rw [hsplit, hcons] at hsum
      simp only [List.flatMap_append, List.length_append, List.flatMap_cons, List.length_cons]
        at hsum hsum'
      rw [hsplit, hcons]
      omega
    refine iff_of_false (fun heq => hlength (congrArg String.length heq).symm) ?_
    rintro ⟨rfl, htarget, -⟩
    simp [htarget] at hnone

theorem kept_le (count climbs : Nat) : kept count climbs ≤ count := by
  unfold kept
  split <;> omega

/-- What is kept is the number of components less the climb, but not where the climb ends between the
top and as far again above it. -/
theorem kept_eq_sub_iff (count climbs : Nat) :
    kept count climbs = count - climbs ↔ climbs ≤ count ∨ 2 * count ≤ climbs := by
  unfold kept
  split <;> omega

/-- A longer climb keeps no more, but where it alone goes beyond the top, and not far. -/
theorem kept_antitone_iff (count climbs further : Nat) :
    kept count (climbs + further) ≤ kept count climbs ↔
      climbs + further ≤ count ∨ count < climbs ∨ count ≤ further := by
  unfold kept
  split <;> split <;> omega

/-- A relative import keeps some first components of the package of its module. They are those that its
climb leaves, unless it climbs beyond the top, but not as far again above it. In between the import leads
where one leads that climbs only as far as this one goes beyond the top. So of two imports the one that
climbs further keeps no more, unless it goes beyond the top where the other one does not, and by fewer
levels than the package has. -/
theorem resolve_climbs_iff (m : ModuleName) (target : Option String) (climbs : Nat) :
    (m.resolve (climbs + 1) target = m.below (kept m.ownPackage.length climbs) target ∧
      kept m.ownPackage.length climbs ≤ m.ownPackage.length) ∧
    (m.resolve (climbs + 1) target = m.below (m.ownPackage.length - climbs) target ↔
      climbs ≤ m.ownPackage.length ∨ 2 * m.ownPackage.length ≤ climbs ∨
        (target.filter (· != "") = none ∧
          m.ownPackage.take (2 * m.ownPackage.length - climbs) = [""])) ∧
    (∀ beyond < m.ownPackage.length,
      m.resolve (m.ownPackage.length + beyond + 2) target = m.resolve (beyond + 2) target) ∧
    ∀ further, kept m.ownPackage.length (climbs + further) ≤ kept m.ownPackage.length climbs ↔
      climbs + further ≤ m.ownPackage.length ∨ m.ownPackage.length < climbs ∨
        m.ownPackage.length ≤ further := by
  have hkept := kept_eq_sub_iff m.ownPackage.length climbs
  refine ⟨⟨resolve_succ m climbs target, kept_le _ _⟩, ?_, fun beyond hbeyond => ?_,
    kept_antitone_iff _ _⟩
  · rw [resolve_succ, ← or_assoc, ← hkept]
    by_cases heq : kept m.ownPackage.length climbs = m.ownPackage.length - climbs
    · simp [heq]
    · have hbeyond : m.ownPackage.length < climbs ∧ climbs < 2 * m.ownPackage.length := by
        rw [hkept] at heq
        omega
      have hzero : m.ownPackage.length - climbs = 0 := by omega
      have hwrapped : kept m.ownPackage.length climbs = 2 * m.ownPackage.length - climbs :=
        if_neg (by omega)
      rw [or_iff_right heq, hwrapped, hzero, eq_comm, below_eq_iff (by omega) (by omega),
        and_iff_right rfl]
  · have hwraps : kept m.ownPackage.length (m.ownPackage.length + beyond + 1) =
        kept m.ownPackage.length (beyond + 1) := by
      rw [kept, kept, if_neg (by omega), if_pos (by omega)]
      omega
    exact (resolve_succ m _ target).trans (hwraps ▸ (resolve_succ m (beyond + 1) target).symm)

/-- Four dots in a module two folders below the root climb one level beyond the top, and lead to the
module of the outer folder. -/
theorem not_resolve_climbs : ¬ ∀ (m : ModuleName) (target : Option String) (level : Nat), 1 ≤ level →
    m.resolve level target = m.below (m.ownPackage.length - (level - 1)) target := by
  intro h
  exact absurd (h ⟨"app.api.users", false⟩ (some "models") 4 (by decide)) (by decide)

end ModuleName

end TypedClients
