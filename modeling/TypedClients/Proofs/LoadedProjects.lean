import Mathlib.Data.List.Perm.Basic
import TypedClients.Proofs.PathCharacters
import TypedClients.Proofs.Sequencing
import TypedClients.Source.Project

/-!
# Projects from files and from texts

A project can be read from the files below a folder, or made from the texts of these files under
their paths. Both ways give the same modules, or both fail. They differ in the order of the modules,
and with it in the module that a name stands for, where a folder has a displaced sibling.
-/
namespace TypedClients

open TypedClients.Text TypedClients.Code

/-! ### Names of source files -/

theorem matchItems_chars (text cs : List Char) :
    Wildcard.matchItems (text.map .char) cs = true ↔ cs = text := by
  induction text generalizing cs with
  | nil => cases cs <;> simp [Wildcard.matchItems]
  | cons d text ih => cases cs <;> simp [Wildcard.matchItems, ih]

theorem mem_suffixes {part cs : List Char} : part ∈ Wildcard.suffixes cs ↔ part <:+ cs := by
  induction cs with
  | nil => simp [Wildcard.suffixes]
  | cons c cs ih => simp [Wildcard.suffixes, ih, List.suffix_cons_iff]

/-- The ending of source files. -/
def sourceEnding : List Char := ['.', 'p', 'y']

theorem matchesWildcard_source {text : String} :
    matchesWildcard "*.py" text = true ↔ sourceEnding <:+ text.toList := by
  have hitems : Wildcard.items "*.py".toList = .anyText :: sourceEnding.map .char := by rfl
  rw [matchesWildcard, hitems, Wildcard.matchItems]
  simp only [List.any_eq_true, matchItems_chars, exists_eq_right, mem_suffixes]

theorem isSourceName_iff {name : String} :
    SourceProject.isSourceName name = true ↔ sourceEnding <:+ name.toList :=
  matchesWildcard_source

theorem suffix_slashed {names : List String} {name : String} (h : names.getLast? = some name) :
    name.toList <:+ ("/".intercalate names).toList := by
  obtain ⟨front, rfl⟩ := List.getLast?_eq_some_iff.mp h
  have hpath := slashed_eq (List.append_ne_nil_of_right_ne_nil front (List.cons_ne_nil name []))
  obtain ⟨before, hb⟩ : ∃ before, slashed (front ++ [name]) = before ++ '/' :: name.toList :=
    ⟨slashed front, by simp [slashed]⟩
  rw [hb] at hpath
  cases before with
  | nil => exact ⟨[], by simpa using hpath⟩
  | cons c before => exact ⟨before ++ ['/'], by simpa using (List.cons.inj hpath).2⟩

namespace SourceModule

/-- A text is refused for a null character or for its grammar, and for nothing else. -/
theorem read_error {source path : String} {package : Option String} {e : Failure}
    (hnull : Char.ofNat 0 ∉ path.toList) (hending : sourceEnding <:+ path.toList)
    (h : read source path package = .error e) :
    readStatements source = .error .nullCharacter ∧ e = .fault .nullCharacter ∨
      readStatements source = .error .malformed ∧
        e = .reported (.sourceLoad path (some .malformedSource)) := by
  have hname : (Path.ofString path).fileName ≠ "" :=
    Path.fileName_ne_empty (c := 'y') (hending.subset (by decide)) (by decide) (by decide)
  rw [read, if_neg (by simpa using hnull)] at h
  cases hread : readStatements source with
  | error cause => cases cause <;> simp_all
  | ok body => simp [hread, ModuleName.ofPath, Path.withoutExtension?, hname] at h

theorem read_eq_ok {source path : String} {package : Option String} {m : SourceModule}
    (h : read source path package = .ok m) :
    m.path = path ∧ ModuleName.ofPath path package = .ok m.name := by
  unfold read at h
  split at h
  · cases h
  · split at h
    · cases h
    · cases h
    · obtain ⟨name, hname, h⟩ := bind_eq_ok_iff.mp h
      cases h
      exact ⟨rfl, hname⟩

theorem readStatements_of_read {source path : String} {package : Option String} {m : SourceModule}
    (h : read source path package = .ok m) : readStatements source = .ok m.body := by
  unfold read at h
  split at h
  · cases h
  · split at h
    · cases h
    · cases h
    · rename_i hbody
      obtain ⟨name, -, h⟩ := bind_eq_ok_iff.mp h
      cases h
      exact hbody

end SourceModule

/-! ### Files and their texts -/

namespace FileTree

/-- In a well-formed tree one thing stands at a place, and its name is that of a file or folder. -/
structure WellFormed (tree : FileTree) : Prop where
  places : tree.nodes.keys.Nodup
  names : ∀ place ∈ tree.nodes.keys, ∀ name ∈ place, IsFileName name

/-- The source files below a place, in order. -/
def sourceFiles (tree : FileTree) (place : List String) : List (List String × List UInt8) :=
  (tree.filesBelow place).filter fun (names, _) =>
    SourceProject.isSourceName (names.getLast?.getD "")

/-- Whether a text under a path is that of a file. -/
structure IsTextOf (file : List String × List UInt8) (source : String × String) : Prop where
  path : source.1 = "/".intercalate file.1
  text : decodeText file.2 = .ok source.2

/-- Whether texts under their paths, in any order, are those of the source files below a place. -/
def HasTexts (tree : FileTree) (place : List String) (sources : List (String × String)) : Prop :=
  ∃ listed, List.Forall₂ IsTextOf (tree.sourceFiles place) listed ∧ listed.Perm sources

variable {tree : FileTree} {place : List String}

theorem mem_filesBelow {file : List String × List UInt8} (h : file ∈ tree.filesBelow place) :
    place ++ file.1 ∈ tree.nodes.keys := by
  obtain ⟨⟨p, node⟩, hmem, hfile⟩ := List.mem_filterMap.mp (List.mem_mergeSort.mp h)
  cases node with
  | folder => cases hfile
  | file bytes =>
      obtain ⟨⟨rest, rfl⟩, rfl⟩ : place <+: p ∧ _ = file := by simpa using hfile
      simpa [Dictionary.keys] using ⟨_, hmem⟩

/-- The places of the files below a place are in order, and none of them comes twice. -/
theorem filesBelow_pairwise (hw : tree.WellFormed) :
    (tree.filesBelow place).Pairwise fun a b => a.1 < b.1 := by
  have hsorted : (tree.filesBelow place).Pairwise fun a b => placeOrder a.1 b.1 := by
    apply List.pairwise_mergeSort
    · intro a b c
      simpa [placeOrder_eq_true_iff] using le_trans
    · intro a b
      simpa [placeOrder_eq_true_iff] using le_total a.1 b.1
  have hdistinct : (tree.filesBelow place).Pairwise fun a b => a.1 ≠ b.1 := by
    refine (List.mergeSort_perm _ _).pairwise_iff (fun h => h.symm) |>.mpr ?_
    refine List.pairwise_filterMap.mpr ((List.pairwise_map.mp hw.places).imp ?_)
    rintro ⟨p, _ | _⟩ ⟨q, _ | _⟩ hne a ha b hb heq
    all_goals simp at ha hb
    obtain ⟨⟨restA, rfl⟩, rfl⟩ := ha
    obtain ⟨⟨restB, rfl⟩, rfl⟩ := hb
    simp_all
  exact (hsorted.and hdistinct).imp fun h => lt_of_le_of_ne (placeOrder_eq_true_iff.mp h.1) h.2

end FileTree

namespace SourceProject

/-- Reads a text under its path. -/
def readText (package : Option String) (source : String × String) : Except Failure SourceModule :=
  SourceModule.read source.2 source.1 package

theorem readText_path {package : Option String} {source : String × String} {m : SourceModule}
    (h : readText package source = .ok m) : m.path = source.1 := (SourceModule.read_eq_ok h).1

theorem loadFiles_result (root : Path) (package : Option String)
    {files : List (List String × List UInt8)} {listed : List (String × String)}
    (htexts : List.Forall₂ FileTree.IsTextOf files listed)
    (hnames : ∀ file ∈ files, sourceEnding <:+ ("/".intercalate file.1).toList) :
    (loadFiles root {} package files).result = listed.mapM (readText package) := by
  induction htexts with
  | nil => rfl
  | @cons file source files listed hfile _ ih =>
      have hin : matchesWildcard "*.py" ("/".intercalate file.1) = true :=
        matchesWildcard_source.mpr (hnames file (.head _))
      have ih := ih fun file hmem => hnames file (.tail _ hmem)
      rw [loadFiles]
      simp only [hfile.text, List.any_cons, hin, List.any_nil, Bool.not_true, Bool.or_false,
        Bool.false_eq_true, if_false, Traced.bind_result, Traced.ofExcept_result, ih,
        List.mapM_cons, readText, hfile.path]
      rfl

/-- Whether a failure is that of reading one of some texts. -/
def IsReadFailure (sources : List (String × String)) (e : Failure) : Prop :=
  ∃ source ∈ sources,
    readStatements source.2 = .error .nullCharacter ∧ e = .fault .nullCharacter ∨
      readStatements source.2 = .error .malformed ∧
        e = .reported (.sourceLoad source.1 (some .malformedSource))

/-! ### Modules in two orders -/

theorem module?_eq (p : SourceProject) (name : String) :
    p.module? name = (p.modules.filter (·.name.text == name)).getLast? :=
  List.getLast?_filter.symm

/-- The last item of a list in order is above all others. -/
theorem pairwise_getLast? {α : Type} {R : α → α → Prop} {xs : List α} {last : α}
    (h : xs.Pairwise R) (hlast : xs.getLast? = some last) {x : α} (hx : x ∈ xs) :
    x = last ∨ R x last := by
  obtain ⟨front, rfl⟩ := List.getLast?_eq_some_iff.mp hlast
  rcases List.mem_append.mp hx with hx | hx
  · exact .inr ((List.pairwise_append.mp h).2.2 x hx last (by simp))
  · exact .inl (by simpa using hx)

/-- Modules in the order of their places and the same modules in the order of their paths. -/
structure SameModules (p q : SourceProject) : Prop where
  perm : p.modules.Perm q.modules
  byPlace : p.modules.Pairwise fun m n => ComesBefore m.path.toList n.path.toList
  byPath : q.modules.Pairwise fun m n => m.path.toList < n.path.toList

namespace SameModules

variable {p q : SourceProject}

theorem modules_eq_iff (h : SameModules p q) :
    p.modules = q.modules ↔
      ∀ m ∈ p.modules, ∀ n ∈ p.modules, ¬ isDisplaced m.path.toList n.path.toList := by
  constructor
  · intro heq
    have hsorted := h.byPath
    rw [← heq] at hsorted
    exact List.Pairwise.forall_of_forall_of_flip (fun m _ => not_isDisplaced_self _)
      ((h.byPlace.and hsorted).imp fun h => h.1.lt_iff.mp h.2)
      (h.byPlace.imp fun h => h.not_isDisplaced)
  · intro hfree
    refine List.Perm.eq_of_pairwise (fun m n _ _ hmn hnm => absurd hnm (lt_asymm hmn)) ?_ h.byPath
      h.perm
    exact h.byPlace.imp_of_mem fun hm hn hmn => hmn.lt_iff.mpr (hfree _ hm _ hn)

theorem module?_eq_iff (h : SameModules p q) (name : String) :
    p.module? name = q.module? name ↔
      ∀ last, p.module? name = some last → ∀ m ∈ p.modules, m.name.text = name →
        ¬ isDisplaced m.path.toList last.path.toList := by
  have hplace := h.byPlace.filter (·.name.text == name)
  have hpath := h.byPath.filter (·.name.text == name)
  have hperm := h.perm.filter (·.name.text == name)
  have hmem (m : SourceModule) : m ∈ p.modules.filter (·.name.text == name) ↔
      m ∈ p.modules ∧ m.name.text = name := by simp
  rw [module?_eq, module?_eq]
  generalize p.modules.filter (·.name.text == name) = ms at *
  generalize q.modules.filter (·.name.text == name) = ns at *
  constructor
  · intro heq last hlast m hm hname hd
    rw [heq] at hlast
    have hin := hperm.mem_iff.mp ((hmem m).mpr ⟨hm, hname⟩)
    rcases pairwise_getLast? hpath hlast hin with rfl | hlt
    · exact not_isDisplaced_self _ hd
    · exact lt_asymm hlt (lt_of_isDisplaced hd)
  · intro hfree
    cases hlast : ms.getLast? with
    | none =>
        obtain rfl := List.getLast?_eq_none_iff.mp hlast
        rw [List.nil_perm.mp hperm]
        rfl
    | some last =>
        cases htop : ns.getLast? with
        | none =>
            obtain rfl := List.getLast?_eq_none_iff.mp htop
            rw [List.perm_nil.mp hperm] at hlast
            cases hlast
        | some top =>
            -- `top` is no later file than `last`, and `last` no later path than `top`
            have htopmem := hperm.mem_iff.mpr (List.mem_of_getLast? htop)
            have hlastmem := hperm.mem_iff.mp (List.mem_of_getLast? hlast)
            rcases pairwise_getLast? hplace hlast htopmem with rfl | hbefore
            · rfl
            · rcases pairwise_getLast? hpath htop hlastmem with rfl | hlt
              · rfl
              · obtain ⟨hin, hname⟩ := (hmem top).mp htopmem
                exact absurd hlt (lt_asymm (hbefore.lt_iff.mpr (hfree last hlast top hin hname)))

end SameModules

/-! ### Loading -/

variable {tree : FileTree} {place : List String} {sources : List (String × String)}

theorem sourceFiles_names (hw : tree.WellFormed) {file : List String × List UInt8}
    (hfile : file ∈ tree.sourceFiles place) :
    (∀ name ∈ file.1, IsFileName name) ∧ file.1 ≠ [] ∧
      sourceEnding <:+ ("/".intercalate file.1).toList := by
  obtain ⟨hbelow, hname⟩ := List.mem_filter.mp hfile
  rw [isSourceName_iff] at hname
  have hnames := hw.names _ (FileTree.mem_filesBelow hbelow)
  refine ⟨fun name h => hnames name (List.mem_append_right _ h), ?_⟩
  cases hlast : file.1.getLast? with
  | none => simp [hlast, sourceEnding] at hname
  | some last =>
      rw [hlast] at hname
      refine ⟨?_, hname.trans (suffix_slashed hlast)⟩
      rintro h
      simp [h] at hlast

theorem load_result {root : Path} {package : Option String} {listed : List (String × String)}
    (hw : tree.WellFormed) (hplace : tree.place root = .ok place)
    (hfolder : tree.node? place = some .folder)
    (hlisted : List.Forall₂ FileTree.IsTextOf (tree.sourceFiles place) listed) :
    (load tree root {} package).result = (listed.mapM (readText package)).map SourceProject.mk := by
  have hfind : tree.find? root = .ok (some .folder) := by
    simp [FileTree.find?, FileTree.find, hplace, hfolder, bind, Except.bind, pure, Except.pure]
  have hfiles := loadFiles_result root package hlisted
    fun file hfile => (sourceFiles_names hw hfile).2.2
  rw [load, hfind]
  simp only [hplace, Except.toOption, Option.getD_some, Traced.bind_result]
  rw [← FileTree.sourceFiles, hfiles]
  cases listed.mapM (readText package) <;> rfl

theorem ofSources_eq (sources : List (String × String)) (package : Option String) :
    ofSources sources package =
      ((sources.mergeSort fun a b => decide (a.1 ≤ b.1)).mapM (readText package)).map
        SourceProject.mk := by
  have h : ofSources sources package =
      (sources.mergeSort fun a b => decide (a.1 ≤ b.1)).mapM (readText package) >>=
        fun modules => .ok ⟨modules⟩ := rfl
  rw [h]
  cases (sources.mergeSort fun a b => decide (a.1 ≤ b.1)).mapM (readText package) <;> rfl

/-- Every module of a project is read from one of the sources. -/
theorem exists_readText_of_mem {sources : List (String × String)} {package : Option String}
    {p : SourceProject} (hp : ofSources sources package = .ok p) {m : SourceModule}
    (hm : m ∈ p.modules) : ∃ source ∈ sources, readText package source = .ok m := by
  rw [ofSources_eq] at hp
  obtain ⟨ms, hms, rfl⟩ := map_eq_ok_iff.mp hp
  obtain ⟨source, hsource, hread⟩ := exists_of_forall₂_of_mem (mapM_eq_ok_iff.mp hms) hm
  exact ⟨source, List.mem_mergeSort.mp hsource, hread⟩

/-- Reading texts of files fails as reading one of them does. -/
theorem isReadFailure_of_mapM {listed texts : List (String × String)} {package : Option String}
    {e : Failure} (hw : tree.WellFormed)
    (hlisted : List.Forall₂ FileTree.IsTextOf (tree.sourceFiles place) listed)
    (hperm : listed.Perm sources) (htexts : texts.Perm sources)
    (h : texts.mapM (readText package) = .error e) : IsReadFailure sources e := by
  obtain ⟨source, hsource, hread⟩ := exists_of_mapM_eq_error h
  have hmem := htexts.mem_iff.mp hsource
  obtain ⟨file, hfile, htext⟩ := exists_of_forall₂_of_mem hlisted (hperm.mem_iff.mpr hmem)
  obtain ⟨hnames, hne, hending⟩ := sourceFiles_names hw hfile
  rw [← htext.path] at hending
  refine ⟨source, hmem, SourceModule.read_error ?_ hending hread⟩
  rw [htext.path]
  exact null_notMem_path hnames

/-- The modules of files come in the order of the files. -/
theorem pairwise_of_mapM {listed : List (String × String)} {package : Option String}
    {ms : List SourceModule} (hw : tree.WellFormed)
    (hlisted : List.Forall₂ FileTree.IsTextOf (tree.sourceFiles place) listed)
    (h : listed.mapM (readText package) = .ok ms) :
    ms.Pairwise fun m n => ComesBefore m.path.toList n.path.toList := by
  have hsame : List.Forall₂ (fun file (m : SourceModule) => "/".intercalate file.1 = m.path)
      (tree.sourceFiles place) ms :=
    forall₂_trans (fun _ _ _ hfile hread => hfile.path.symm.trans (readText_path hread).symm)
      hlisted (mapM_eq_ok_iff.mp h)
  have hpaths : (tree.sourceFiles place).map (fun file => "/".intercalate file.1) =
      ms.map (·.path) := map_eq_of_forall₂ (fun _ _ h => h) hsame
  have hfiles : (tree.sourceFiles place).Pairwise fun a b =>
      ComesBefore ("/".intercalate a.1).toList ("/".intercalate b.1).toList := by
    refine ((FileTree.filesBelow_pairwise hw).filter _).imp_of_mem fun ha hb hlt => ?_
    obtain ⟨hnames, hne, -⟩ := sourceFiles_names hw ha
    exact comesBefore_of_lt hnames (sourceFiles_names hw hb).1 hne hlt
  have hmap : (ms.map (·.path)).Pairwise fun a b => ComesBefore a.toList b.toList := by
    rw [← hpaths]
    exact List.pairwise_map.mpr hfiles
  rwa [List.pairwise_map] at hmap

/-- Texts in the order of their paths give modules in the order of their paths. -/
theorem pairwise_of_ofSources {package : Option String} {ms : List SourceModule}
    (h : (sources.mergeSort fun a b => decide (a.1 ≤ b.1)).mapM (readText package) = .ok ms)
    (hpaths : ms.Pairwise fun m n => m.path.toList ≠ n.path.toList) :
    ms.Pairwise fun m n => m.path.toList < n.path.toList := by
  have hsorted : (sources.mergeSort fun a b => decide (a.1 ≤ b.1)).Pairwise
      fun a b => a.1.toList ≤ b.1.toList := by
    refine (List.pairwise_mergeSort ?_ ?_ sources).imp ?_
    · intro a b c
      simpa using le_trans
    · intro a b
      simpa using le_total a.1 b.1
    · intro a b hab
      exact String.le_iff_toList_le.mp (of_decide_eq_true hab)
  have hsame : (sources.mergeSort fun a b => decide (a.1 ≤ b.1)).map (·.1) = ms.map (·.path) :=
    map_eq_of_forall₂ (fun _ _ hread => (readText_path hread).symm) (mapM_eq_ok_iff.mp h)
  have hle : (ms.map (·.path)).Pairwise fun a b => a.toList ≤ b.toList := by
    rw [← hsame]
    exact List.pairwise_map.mpr hsorted
  exact ((List.pairwise_map.mp hle).and hpaths).imp fun h => lt_of_le_of_ne h.1 h.2

/-! ### A folder and a file of one name -/

/-- A file `a.py` beside a folder `a` that is a package. -/
def twinTree : FileTree where
  nodes := [(["a"], .folder), (["a", "__init__.py"], .file []), (["a.py"], .file [])]

def twinTexts : List (String × String) := [("a.py", ""), ("a/__init__.py", "")]

theorem twinTree_wellFormed : twinTree.WellFormed := by
  refine ⟨by decide, ?_⟩
  intro place hplace name hname
  exact ⟨by revert name; revert place; decide, by revert name; revert place; decide⟩

theorem twinTree_sourceFiles :
    twinTree.sourceFiles [] = [(["a", "__init__.py"], []), (["a.py"], [])] := by
  have h : twinTree.filesBelow [] = [(["a", "__init__.py"], []), (["a.py"], [])] :=
    List.mergeSort_of_pairwise (by decide)
  rw [FileTree.sourceFiles, h]
  decide

theorem twinTree_isTextOf : List.Forall₂ FileTree.IsTextOf (twinTree.sourceFiles [])
    [("a/__init__.py", ""), ("a.py", "")] := by
  rw [twinTree_sourceFiles]
  exact .cons ⟨by decide, by decide⟩ (.cons ⟨by decide, by decide⟩ .nil)

theorem twinTree_hasTexts : twinTree.HasTexts [] twinTexts :=
  ⟨_, twinTree_isTextOf, List.Perm.swap _ _ _⟩

/-- A project read from the files below a folder and one made from their texts: either both are
there and have the same modules, or both fail, each on a text that cannot be read. The modules come
in the same order exactly where none of them is displaced before another one, and a name stands for
the same module exactly where no other module of that name is displaced before the one that is
found among the files. -/
theorem load_agrees {root : Path} {package : Option String} (hw : tree.WellFormed)
    (hplace : tree.place root = .ok place) (hfolder : tree.node? place = some .folder)
    (htexts : tree.HasTexts place sources) :
    (∃ p q, (load tree root {} package).result = .ok p ∧ ofSources sources package = .ok q ∧
      p.modules.Perm q.modules ∧
      (p.modules = q.modules ↔
        ∀ m ∈ p.modules, ∀ n ∈ p.modules, ¬ isDisplaced m.path.toList n.path.toList) ∧
      ∀ name, p.module? name = q.module? name ↔
        ∀ last, p.module? name = some last → ∀ m ∈ p.modules, m.name.text = name →
          ¬ isDisplaced m.path.toList last.path.toList) ∨
    ∃ e f, (load tree root {} package).result = .error e ∧ ofSources sources package = .error f ∧
      IsReadFailure sources e ∧ IsReadFailure sources f := by
  obtain ⟨listed, hlisted, hperm⟩ := htexts
  rw [load_result hw hplace hfolder hlisted, ofSources_eq]
  have hsort : (sources.mergeSort fun a b => decide (a.1 ≤ b.1)).Perm sources :=
    List.mergeSort_perm _ _
  cases hms : listed.mapM (readText package) with
  | ok ms =>
      obtain ⟨ns, hns, hsame⟩ := mapM_eq_ok_of_perm (hsort.trans hperm.symm) hms
      have hplaces := pairwise_of_mapM hw hlisted hms
      have hpaths : ns.Pairwise fun m n => m.path.toList ≠ n.path.toList :=
        (hsame.symm.pairwise_iff fun h => h.symm).mp (hplaces.imp fun h => h.ne)
      have h : SameModules ⟨ms⟩ ⟨ns⟩ := ⟨hsame.symm, hplaces, pairwise_of_ofSources hns hpaths⟩
      rw [hns]
      exact .inl ⟨⟨ms⟩, ⟨ns⟩, rfl, rfl, h.perm, h.modules_eq_iff, h.module?_eq_iff⟩
  | error e =>
      refine .inr ?_
      cases hns : (sources.mergeSort fun a b => decide (a.1 ≤ b.1)).mapM (readText package) with
      | ok ns =>
          obtain ⟨ms, h, -⟩ := mapM_eq_ok_of_perm (hperm.trans hsort.symm) hns
          rw [hms] at h
          cases h
      | error f =>
          exact ⟨e, f, rfl, rfl, isReadFailure_of_mapM hw hlisted hperm hperm hms,
            isReadFailure_of_mapM hw hlisted hperm hsort hns⟩

theorem load_agrees_twin :
    twinTree.WellFormed ∧ twinTree.place ⟨"", []⟩ = .ok [] ∧ twinTree.node? [] = some .folder ∧
      twinTree.HasTexts [] twinTexts ∧
      ((∃ p q, (load twinTree ⟨"", []⟩ {} none).result = .ok p ∧ ofSources twinTexts none = .ok q ∧
        p.modules.Perm q.modules ∧
        (p.modules = q.modules ↔
          ∀ m ∈ p.modules, ∀ n ∈ p.modules, ¬ isDisplaced m.path.toList n.path.toList) ∧
        ∀ name, p.module? name = q.module? name ↔
          ∀ last, p.module? name = some last → ∀ m ∈ p.modules, m.name.text = name →
            ¬ isDisplaced m.path.toList last.path.toList) ∨
      ∃ e f, (load twinTree ⟨"", []⟩ {} none).result = .error e ∧
        ofSources twinTexts none = .error f ∧
        IsReadFailure twinTexts e ∧ IsReadFailure twinTexts f) :=
  ⟨twinTree_wellFormed, rfl, rfl, twinTree_hasTexts,
    load_agrees twinTree_wellFormed rfl rfl twinTree_hasTexts⟩

/-- Among the files the folder comes first and the file `a.py` is the module `a`; among the texts it
is the other way round. -/
theorem load_ne_ofSources :
    ∃ p q, (load twinTree ⟨"", []⟩ {} none).result = .ok p ∧ ofSources twinTexts none = .ok q ∧
      p.modules.map (·.path) = ["a/__init__.py", "a.py"] ∧
      q.modules.map (·.path) = ["a.py", "a/__init__.py"] ∧
      (p.module? "a").map (·.path) = some "a.py" ∧
      (q.module? "a").map (·.path) = some "a/__init__.py" := by
  rw [load_result twinTree_wellFormed rfl rfl twinTree_isTextOf, ofSources_eq,
    List.mergeSort_of_pairwise (by decide)]
  exact ⟨_, _, rfl, rfl, rfl, rfl, rfl, rfl⟩

end SourceProject
end TypedClients
