import TypedClients.Client.Package
import TypedClients.Proofs.MadeFolders

/-!
# Paths of emitted modules

The path of an emitted module is that of its folder followed by that of its file. Its text and its
names determine each other, and where neither of the two leads up it leads down from the folder that
it is joined to.
-/
namespace TypedClients

open TypedClients.Text

/-! ### Splitting -/

section

variable {separator : Char} {cs ds : List Char}

theorem not_mem_of_mem_splitOn {part : List Char} (h : part ∈ splitOn separator cs) :
    separator ∉ part := by
  induction cs generalizing part with
  | nil =>
      rw [splitOn, List.mem_singleton] at h
      rw [h]
      exact List.not_mem_nil
  | cons c cs ih =>
      rw [splitOn] at h
      split at h
      · rcases List.mem_cons.mp h with rfl | h
        · exact List.not_mem_nil
        · exact ih h
      · rename_i hc
        split at h
        · rename_i hnil
          exact absurd hnil (splitOn_ne_nil _ _)
        · rename_i first rest hsplit
          rcases List.mem_cons.mp h with rfl | h
          · refine fun hmem => ih (hsplit ▸ List.mem_cons_self) ?_
            exact (List.mem_cons.mp hmem).resolve_left fun heq => hc heq.symm
          · exact ih (hsplit ▸ List.mem_cons_of_mem _ h)

theorem splitOn_eq_singleton (h : separator ∉ cs) : splitOn separator cs = [cs] := by
  induction cs with
  | nil => rfl
  | cons c cs ih =>
      obtain ⟨hc, hcs⟩ := List.ne_and_not_mem_of_not_mem_cons h
      rw [splitOn, if_neg hc.symm, ih hcs]

theorem splitOn_append_cons (separator : Char) (cs ds : List Char) :
    splitOn separator (cs ++ separator :: ds) = splitOn separator cs ++ splitOn separator ds := by
  induction cs with
  | nil =>
      rw [List.nil_append, splitOn.eq_2, if_pos rfl]
      rfl
  | cons c cs ih =>
      rw [List.cons_append, splitOn, splitOn, ih]
      by_cases hc : c = separator
      · rw [if_pos hc, if_pos hc, List.cons_append]
      · rw [if_neg hc, if_neg hc]
        cases hcs : splitOn separator cs with
        | nil => exact absurd hcs (splitOn_ne_nil separator cs)
        | cons part parts => rfl

theorem splitOn_append_separator (h : separator ∉ cs) :
    splitOn separator (cs ++ separator :: ds) = cs :: splitOn separator ds := by
  rw [splitOn_append_cons, splitOn_eq_singleton h, List.singleton_append]

/-- A text without separators continues the last part. -/
theorem splitOn_append (cs : List Char) (h : separator ∉ ds) : ∃ front last,
    splitOn separator cs = front ++ [last] ∧
      splitOn separator (cs ++ ds) = front ++ [last ++ ds] := by
  induction cs with
  | nil => exact ⟨[], [], rfl, splitOn_eq_singleton h⟩
  | cons c cs ih =>
      obtain ⟨front, last, hcs, hall⟩ := ih
      rw [List.cons_append, splitOn, splitOn]
      by_cases hc : c = separator
      · rw [if_pos hc, if_pos hc, hcs, hall]
        exact ⟨[] :: front, last, rfl, rfl⟩
      · rw [if_neg hc, if_neg hc, hcs, hall]
        cases front with
        | nil => exact ⟨[], c :: last, rfl, rfl⟩
        | cons part front => exact ⟨(c :: part) :: front, last, rfl, rfl⟩

end

/-! ### Names and texts of paths -/

/-- A name that stands for itself in a path. -/
structure IsPart (name : String) : Prop where
  ne_empty : name ≠ ""
  ne_dot : name ≠ "."
  slashless : '/' ∉ name.toList

theorem mem_ofString_iff {text name : String} : name ∈ (Path.ofString text).parts ↔
    name.toList ∈ splitOn '/' text.toList ∧ name ≠ "" ∧ name ≠ "." := by
  simp only [Path.ofString, List.mem_filter, List.mem_map, decide_eq_true_eq]
  constructor
  · rintro ⟨⟨part, hpart, rfl⟩, hname⟩
    rw [String.toList_ofList]
    exact ⟨hpart, hname⟩
  · rintro ⟨hpart, hname⟩
    exact ⟨⟨_, hpart, String.ofList_toList⟩, hname⟩

theorem isPart_of_mem {text name : String} (h : name ∈ (Path.ofString text).parts) :
    IsPart name := by
  obtain ⟨hpart, hne, hdot⟩ := mem_ofString_iff.mp h
  exact ⟨hne, hdot, not_mem_of_mem_splitOn hpart⟩

theorem splitOn_intercalate {names : List String} (hnames : ∀ name ∈ names, IsPart name)
    (hne : names ≠ []) :
    splitOn '/' ("/".intercalate names).toList = names.map String.toList := by
  induction names with
  | nil => exact absurd rfl hne
  | cons name names ih =>
      have hname := (hnames name List.mem_cons_self).slashless
      cases names with
      | nil =>
          rw [String.intercalate_singleton]
          exact splitOn_eq_singleton hname
      | cons next names =>
          have hsplit := ih (fun name h => hnames name (List.mem_cons_of_mem _ h)) (by simp)
          rw [String.intercalate_cons_cons, String.toList_append, String.toList_append]
          change splitOn '/' (name.toList ++ ['/'] ++ _) = _
          rw [List.append_assoc, List.singleton_append, splitOn_append_separator hname, hsplit]
          rfl

theorem rootOf_eq_empty_iff {cs : List Char} : Path.rootOf cs = "" ↔ cs.head? ≠ some '/' := by
  cases cs with
  | nil => exact ⟨fun _ => by simp, fun _ => rfl⟩
  | cons c cs =>
      by_cases hc : c = '/'
      · subst hc
        simp only [Path.rootOf, List.takeWhile_cons, beq_self_eq_true, if_true, List.length_cons,
          List.head?_cons, ne_eq, not_true_eq_false, iff_false]
        split
        · omega
        · decide
        · decide
      · simp [Path.rootOf, hc]

/-- Reading the text of a path gives its names again. -/
theorem ofString_intercalate {names : List String} (hnames : ∀ name ∈ names, IsPart name)
    (hne : names ≠ []) : Path.ofString ("/".intercalate names) = ⟨"", names⟩ := by
  have hroot : Path.rootOf ("/".intercalate names).toList = "" := by
    rw [rootOf_eq_empty_iff]
    cases names with
    | nil => exact absurd rfl hne
    | cons name names =>
        obtain ⟨hempty, -, hslash⟩ := hnames name List.mem_cons_self
        have hhead : ("/".intercalate (name :: names)).toList.head? = name.toList.head? := by
          cases names with
          | nil => rw [String.intercalate_singleton]
          | cons next names =>
              rw [String.intercalate_cons_cons, String.toList_append, String.toList_append,
                List.append_assoc, List.head?_append_of_ne_nil]
              simpa using hempty
        rw [hhead]
        exact fun h => hslash (List.mem_of_mem_head? h)
  rw [Path.ofString, hroot, splitOn_intercalate hnames hne, List.map_map]
  congr 1
  rw [List.filter_eq_self.mpr]
  · simp
  · intro name hname
    obtain ⟨name, hmem, rfl⟩ := List.mem_map.mp hname
    have hpart := hnames name hmem
    simp [hpart.ne_empty, hpart.ne_dot]

/-! ### Sizes -/

theorem size_intercalate_le (front rest : List String) :
    ("/".intercalate front).utf8ByteSize ≤ ("/".intercalate (front ++ rest)).utf8ByteSize := by
  induction front with
  | nil => simp
  | cons name front ih =>
      cases front with
      | nil =>
          cases rest with
          | nil => simp
          | cons next rest =>
              rw [List.cons_append, List.nil_append, String.intercalate_cons_cons,
                String.intercalate_singleton, String.utf8ByteSize_append,
                String.utf8ByteSize_append]
              omega
      | cons next front =>
          rw [List.cons_append, List.cons_append, String.intercalate_cons_cons,
            String.intercalate_cons_cons]
          simp only [String.utf8ByteSize_append]
          rw [List.cons_append] at ih
          omega

theorem size_toString_le (root : String) (front rest : List String) (hne : front ≠ []) :
    (⟨root, front⟩ : Path).toString.utf8ByteSize ≤
      (⟨root, front ++ rest⟩ : Path).toString.utf8ByteSize := by
  have h := size_intercalate_le front rest
  simp only [Path.toString, hne, List.append_eq_nil_iff, false_and, and_false, if_false,
    String.utf8ByteSize_append]
  omega

/-- Names that lead down fit below a path if the last one does and none is too long. -/
theorem fitBelow_of_size {p : Path} {names : List String} (hdown : ".." ∉ names)
    (hsizes : ∀ name ∈ names, name.utf8ByteSize ≤ FileTree.maxNameSize)
    (hpath : (⟨p.root, p.parts ++ names⟩ : Path).toString.utf8ByteSize ≤ FileTree.maxPathSize) :
    FileTree.FitBelow p names := by
  intro front name hstart
  have hmem : name ∈ names := hstart.subset (by simp)
  refine ⟨fun h => hdown (h ▸ hmem), hsizes name hmem, ?_⟩
  obtain ⟨rest, rfl⟩ := hstart
  have hsize := size_toString_le p.root (p.parts ++ (front ++ [name])) rest (by simp)
  rw [List.append_assoc] at hsize
  rw [List.append_assoc]
  exact Nat.le_trans hsize hpath

/-! ### Emitted paths -/

/-- A path that leads neither to the root nor up. -/
structure LeadsDown (path : String) : Prop where
  root : (Path.ofString path).root = ""
  down : ".." ∉ (Path.ofString path).parts

/-- A path as it is emitted: it leads down to something, and is written as its names. -/
structure IsEmittedPath (path : String) : Prop extends LeadsDown path where
  parts_ne_nil : (Path.ofString path).parts ≠ []
  text : "/".intercalate (Path.ofString path).parts = path

theorem isEmittedPath_intercalate {names : List String} (hnames : ∀ name ∈ names, IsPart name)
    (hne : names ≠ []) (hdown : ".." ∉ names) : IsEmittedPath ("/".intercalate names) := by
  have hread := ofString_intercalate hnames hne
  constructor
  · constructor <;> rw [hread]
    exact hdown
  · rw [hread]
    exact hne
  · rw [hread]

/-- A file below a folder has an emitted path if both lead down. -/
theorem isEmittedPath_join {folder file : String} (hfolder : LeadsDown folder)
    (hfile : LeadsDown file) (hne : (Path.ofString file).parts ≠ []) :
    IsEmittedPath ((Path.ofString folder).join (Path.ofString file)).toString := by
  have hparts : (Path.ofString folder).parts ++ (Path.ofString file).parts ≠ [] :=
    List.append_ne_nil_of_right_ne_nil _ hne
  have hpath : ((Path.ofString folder).join (Path.ofString file)).toString =
      "/".intercalate ((Path.ofString folder).parts ++ (Path.ofString file).parts) := by
    simp only [Path.join, hfile.root, if_true, Path.toString, hfolder.root, hparts, and_false,
      if_false, String.empty_append]
  rw [hpath]
  refine isEmittedPath_intercalate (fun name h => ?_) hparts ?_
  · rcases List.mem_append.mp h with h | h <;> exact isPart_of_mem h
  · simpa using ⟨hfolder.down, hfile.down⟩

/-- The ending of emitted files does not change where a path leads. -/
theorem leadsDown_append_ending {name : String} (h : LeadsDown name) :
    LeadsDown (name ++ ".py") ∧ (Path.ofString (name ++ ".py")).parts ≠ [] := by
  have hending : '/' ∉ ['.', 'p', 'y'] := by decide
  obtain ⟨front, last, hsplit, hall⟩ := splitOn_append name.toList hending
  have htext : (name ++ ".py").toList = name.toList ++ ['.', 'p', 'y'] := String.toList_append
  rw [← htext] at hall
  refine ⟨⟨?_, fun hup => ?_⟩, ?_⟩
  · have hroot := h.root
    change Path.rootOf _ = "" at hroot
    change Path.rootOf _ = ""
    rw [rootOf_eq_empty_iff] at hroot ⊢
    rw [htext]
    cases hname : name.toList with
    | nil => decide
    | cons c cs => simpa [hname] using hroot
  · obtain ⟨hpart, hne⟩ := mem_ofString_iff.mp hup
    rw [hall] at hpart
    rcases List.mem_append.mp hpart with hpart | hpart
    · refine h.down (mem_ofString_iff.mpr ⟨?_, hne⟩)
      rw [hsplit]
      exact List.mem_append_left _ hpart
    · -- the last name ends in a letter
      have hlast := congrArg List.getLast? (List.mem_singleton.mp hpart)
      rw [List.getLast?_append] at hlast
      exact absurd (Option.some.inj hlast) (by decide)
  · have hlast : String.ofList (last ++ ['.', 'p', 'y']) ∈
        (Path.ofString (name ++ ".py")).parts := by
      rw [mem_ofString_iff, String.toList_ofList, hall]
      refine ⟨by simp, fun h => ?_, fun h => ?_⟩
      · simpa using congrArg String.toList h
      · have hlength := congrArg (fun s => s.toList.length) h
        rw [String.toList_ofList, List.length_append] at hlength
        change _ + 3 = 1 at hlength
        omega
    exact List.ne_nil_of_mem hlast

/-- A client module whose folder and name lead down. -/
structure ClientModule.LeadsDown (m : ClientModule) : Prop where
  folder : TypedClients.LeadsDown m.apiName
  name : TypedClients.LeadsDown m.moduleName

/-- What is emitted for client modules: the modules and their packages. -/
def emitted (ms : List ClientModule) : List OutputModule :=
  ms.map ClientModule.output ++ packageModules ms

/-- A package module is that of the folder of some client module. -/
theorem exists_of_mem_packageModules {ms : List ClientModule} {o : OutputModule}
    (ho : o ∈ packageModules ms) : ∃ m ∈ ms, ∃ members, o = packageModule m.apiName members := by
  obtain ⟨⟨api, members⟩, hgroup, rfl⟩ := List.mem_map.mp ho
  obtain ⟨api', hapi, hpair⟩ := List.mem_map.mp hgroup
  cases hpair
  obtain ⟨m, hm, rfl⟩ := List.mem_map.mp (List.mem_eraseDups.mp (List.mem_mergeSort.mp hapi))
  exact ⟨m, hm, _, rfl⟩

/-- What is emitted has its path in the folder of some client module: the module itself does, and
the package does. -/
theorem exists_of_mem_emitted {ms : List ClientModule} {o : OutputModule} (ho : o ∈ emitted ms) :
    ∃ m ∈ ms, ∃ file, (file = m.moduleName ++ ".py" ∨ file = "__init__.py") ∧
      o.path = ((Path.ofString m.apiName).join (Path.ofString file)).toString := by
  rcases List.mem_append.mp ho with ho | ho
  · obtain ⟨m, hm, rfl⟩ := List.mem_map.mp ho
    exact ⟨m, hm, _, .inl rfl, by simp only [ClientModule.output, ClientModule.path]⟩
  · obtain ⟨m, hm, members, rfl⟩ := exists_of_mem_packageModules ho
    exact ⟨m, hm, _, .inr rfl, by simp only [packageModule]⟩

theorem isEmittedPath_of_mem {ms : List ClientModule} (hms : ∀ m ∈ ms, m.LeadsDown)
    {o : OutputModule} (ho : o ∈ emitted ms) : IsEmittedPath o.path := by
  obtain ⟨m, hm, file, hfile, hpath⟩ := exists_of_mem_emitted ho
  have hfolder := (hms m hm).folder
  rw [hpath]
  rcases hfile with rfl | rfl
  · obtain ⟨hname, hne⟩ := leadsDown_append_ending (hms m hm).name
    exact isEmittedPath_join hfolder hname hne
  · exact isEmittedPath_join hfolder ⟨by decide, by decide⟩ (by decide)

end TypedClients
