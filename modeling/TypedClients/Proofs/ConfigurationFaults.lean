import TypedClients.Proofs.Sequencing
import TypedClients.Proofs.TableKeys
import TypedClients.Settings.Load

/-!
# What a configuration fails with

Loading a configuration gives projects, or an error about the configuration, or a fault. The faults
are those of the readers that are not guarded: a file of its own that cannot be decoded, and a
project file that cannot be opened, decoded or read, or in which something else stands where the
table of this tool is looked for.
-/
namespace TypedClients.Settings

open TypedClients.Text

/-! ### Keys -/

theorem textEntries_eq_none_iff {entries : List (Data × Data)} :
    textEntries entries = none ↔ ∃ e ∈ entries, e.1.text? = none := by
  rw [textEntries, Option.bind_eq_bind, Option.bind_eq_none_iff]
  constructor
  · intro h
    have hnone : entries.mapM (fun e => e.1.text?.map (·, e.2)) = none := by
      cases hnamed : entries.mapM (fun e => e.1.text?.map (·, e.2)) with
      | none => rfl
      | some named => cases h named hnamed
    obtain ⟨e, he, hkey⟩ := mapM_eq_none_iff.mp hnone
    exact ⟨e, he, Option.map_eq_none_iff.mp hkey⟩
  · rintro ⟨e, he, hkey⟩ named hnamed
    have hnone : entries.mapM (fun e => e.1.text?.map (·, e.2)) = none :=
      mapM_eq_none_iff.mpr ⟨e, he, Option.map_eq_none_iff.mpr hkey⟩
    cases hnone.symm.trans hnamed

/-- The mapping of a configuration has a key that is no text. -/
def HasOtherKey (data : Data) : Prop :=
  ∃ entries, data = .mapping entries ∧ ∃ e ∈ entries, e.1.text? = none

theorem Data.KeyedByText.not_hasOtherKey {data : Data} (h : data.KeyedByText) :
    ¬ HasOtherKey data := by
  rintro ⟨entries, rfl, e, he, hnone⟩
  obtain ⟨key, hkey⟩ := h.keys e he
  cases hnone.symm.trans hkey

section

variable {environment : List (String × String)} {name : String} {data : Data}

theorem interpret_fault_iff {f : Fault} :
    interpret environment name data = .error (.fault f) ↔ HasOtherKey data ∧ f = .wrongKind := by
  constructor
  · intro h
    cases data with
    | mapping entries =>
        cases hkeys : textEntries entries with
        | none =>
            simp only [interpret, hkeys] at h
            cases h
            exact ⟨⟨entries, rfl, textEntries_eq_none_iff.mp hkeys⟩, rfl⟩
        | some keys =>
            simp only [interpret, hkeys] at h
            split at h <;> cases h
    | _ => cases h
  · rintro ⟨⟨entries, rfl, hother⟩, rfl⟩
    simp only [interpret, textEntries_eq_none_iff.mpr hother]

theorem interpret_reported {e : Error}
    (h : interpret environment name data = .error (.reported e)) :
    ∃ problem field cause, e = .configuration problem (some name) field cause := by
  cases data with
  | mapping entries =>
      cases hkeys : textEntries entries with
      | none =>
          simp only [interpret, hkeys] at h
          cases h
      | some keys =>
          simp only [interpret, hkeys] at h
          split at h
          · cases h
          · cases h
            exact ⟨_, _, _, rfl⟩
  | _ =>
      cases h
      exact ⟨_, _, _, rfl⟩

end

/-! ### Files with a configuration -/

/-- The bytes of a file are read. -/
structure Opens (files : FileTree) (path : Path) (bytes : List UInt8) : Prop where
  noNull : Char.ofNat 0 ∉ path.toString.toList
  read : files.readFile path = .ok bytes

/-- How a file of its own ends a run without a report. The reader of texts in YAML has faults for
values that are written in a known form but do not exist. -/
inductive FileFault (files : FileTree) (path : Path) : Fault → Prop
  | nullInPath (h : Char.ofNat 0 ∈ path.toString.toList) : FileFault files path .nullInPath
  | undecodable {bytes : List UInt8} {e : DecodeError} (hopens : Opens files path bytes)
      (h : decodeText bytes = .error e) : FileFault files path (.undecodable e)
  | reader {bytes : List UInt8} {text : String} {f : Fault} (hopens : Opens files path bytes)
      (htext : decodeText bytes = .ok text) (h : Yaml.read text = .error (.fault f)) :
      FileFault files path f
  | otherKey {bytes : List UInt8} {text : String} {data : Data} (hopens : Opens files path bytes)
      (htext : decodeText bytes = .ok text) (hdata : Yaml.read text = .ok data)
      (h : HasOtherKey data) : FileFault files path .wrongKind

/-- The value under the key of tools is neither a table nor without the name of this tool. -/
def HidesOwnTable : Data → Prop
  | .mapping _ => False
  | .text s => (s.splitOn ownKey).length ≠ 1
  | .list items => ∃ d ∈ items, d.text? = some ownKey
  | _ => True

/-- How a project file ends a run without a report. -/
inductive ProjectFileFault (files : FileTree) (path : Path) : Fault → Prop
  | unreadable {e : SystemError} (h : files.readFile path = .error e) :
      ProjectFileFault files path (.system e)
  | undecodable {bytes : List UInt8} {e : DecodeError} (hread : files.readFile path = .ok bytes)
      (h : decodeText bytes = .error e) : ProjectFileFault files path (.undecodable e)
  | malformed {bytes : List UInt8} {text : String} (hread : files.readFile path = .ok bytes)
      (htext : decodeText bytes = .ok text) (h : Toml.read text = none) :
      ProjectFileFault files path .malformedProjectFile
  | hidden {bytes : List UInt8} {text : String} {table : Toml.Table} {tools : Data}
      (hread : files.readFile path = .ok bytes) (htext : decodeText bytes = .ok text)
      (htable : Toml.read text = some table) (htools : Data.value? table toolKey = some tools)
      (h : HidesOwnTable tools) : ProjectFileFault files path .wrongKind

section

variable {files : FileTree} {path : Path} {name : String} {f : Fault}

/-- An empty value and an empty mapping have no keys. -/
theorem hasOtherKey_ifEmpty {data : Data} :
    HasOtherKey (if data.isEmpty then .mapping [] else data) ↔ HasOtherKey data := by
  split
  · next hempty =>
      have hnot : ∀ data : Data, data.isEmpty → ¬ HasOtherKey data := by
        rintro _ hempty ⟨entries, rfl, e, he, _⟩
        cases entries with
        | nil => cases he
        | cons _ _ => cases hempty
      exact iff_of_false (hnot _ rfl) (hnot _ hempty)
  · rfl

theorem readConfiguration_fault
    (h : readConfiguration files path name = .error (.fault f)) : FileFault files path f := by
  unfold readConfiguration at h
  split at h
  · next hnull =>
      cases h
      exact .nullInPath (List.contains_iff_mem.mp hnull)
  next hnull =>
  have hnull : Char.ofNat 0 ∉ path.toString.toList := fun hmem =>
    hnull (List.contains_iff_mem.mpr hmem)
  split at h
  · cases h
  next bytes hread =>
  split at h
  · next e hdecode =>
      cases h
      exact .undecodable ⟨hnull, hread⟩ hdecode
  next text htext =>
  split at h
  · cases h
  · next f' hyaml =>
      cases h
      exact .reader ⟨hnull, hread⟩ htext hyaml
  · cases h

theorem readConfiguration_ok {data : Data} (h : readConfiguration files path name = .ok data) :
    ∃ bytes text value, Opens files path bytes ∧ decodeText bytes = .ok text ∧
      Yaml.read text = .ok value ∧ data = if value.isEmpty then .mapping [] else value := by
  unfold readConfiguration at h
  split at h
  · cases h
  next hnull =>
  split at h
  · cases h
  next bytes hread =>
  split at h
  · cases h
  next text htext =>
  split at h
  · cases h
  · cases h
  · next value hvalue =>
      cases h
      exact ⟨bytes, text, value, ⟨fun hmem => hnull (List.contains_iff_mem.mpr hmem), hread⟩,
        htext, hvalue, rfl⟩

theorem readConfiguration_reported {e : Error}
    (h : readConfiguration files path name = .error (.reported e)) :
    ∃ problem field cause, e = .configuration problem (some name) field cause := by
  unfold readConfiguration at h
  split at h
  · cases h
  split at h
  · cases h
    exact ⟨_, _, _, rfl⟩
  split at h
  · cases h
  split at h <;> cases h
  exact ⟨_, _, _, rfl⟩

/-! ### Project files -/

theorem ownTable_error_iff {tools : Data} {e : Failure} :
    ownTable tools = .error e ↔ HidesOwnTable tools ∧ e = .fault .wrongKind := by
  cases tools with
  | mapping entries => simp [ownTable, HidesOwnTable]
  | text s =>
      by_cases hone : (s.splitOn ownKey).length = 1
      · simp [ownTable, HidesOwnTable, hone]
      · simp [ownTable, HidesOwnTable, hone, eq_comm]
  | list items =>
      have hiff : (items.any (·.text? == some ownKey)) = true ↔ HidesOwnTable (.list items) := by
        simp [HidesOwnTable]
      by_cases hany : HidesOwnTable (.list items)
      · simp [ownTable, hiff.mpr hany, hany, eq_comm]
      · simp [ownTable, hiff, hany]
  | _ => simp [ownTable, HidesOwnTable, eq_comm]

/-- The table of this tool is one of the values in the table of tools. -/
theorem keyedByText_of_ownTable {tools own : Data} (htools : tools.KeyedByText)
    (h : ownTable tools = .ok (some own)) : own.KeyedByText := by
  cases tools with
  | mapping entries => exact htools.value (Except.ok.inj h)
  | text s => simp only [ownTable] at h; split at h <;> cases h
  | list items => simp only [ownTable] at h; split at h <;> cases h
  | _ => cases h

theorem readProjectFile_ok {own : Data} (h : readProjectFile files path = .ok (some own)) :
    own.KeyedByText := by
  unfold readProjectFile at h
  split at h
  · cases h
  split at h
  · cases h
  split at h
  · cases h
  · next table htable =>
      exact keyedByText_of_ownTable ((Toml.read_keyedByText htable).valueOrEmpty toolKey) h

theorem readProjectFile_error_iff {e : Failure} :
    readProjectFile files path = .error e ↔ ∃ f, ProjectFileFault files path f ∧ e = .fault f := by
  constructor
  · intro h
    unfold readProjectFile at h
    split at h
    · next hread =>
        cases h
        exact ⟨_, .unreadable hread, rfl⟩
    next bytes hread =>
    split at h
    · next hdecode =>
        cases h
        exact ⟨_, .undecodable hread hdecode, rfl⟩
    next text htext =>
    split at h
    · next hmalformed =>
        cases h
        exact ⟨_, .malformed hread htext hmalformed, rfl⟩
    next table htable =>
    obtain ⟨hhides, rfl⟩ := ownTable_error_iff.mp h
    cases htools : Data.value? table toolKey with
    | none => simp [htools, HidesOwnTable] at hhides
    | some tools =>
        rw [htools] at hhides
        exact ⟨_, .hidden hread htext htable htools hhides, rfl⟩
  · rintro ⟨f, h, rfl⟩
    cases h with
    | unreadable hread => simp [readProjectFile, hread]
    | undecodable hread hdecode => simp [readProjectFile, hread, hdecode]
    | malformed hread htext hmalformed => simp [readProjectFile, hread, htext, hmalformed]
    | hidden hread htext htable htools hhides =>
        simp [readProjectFile, hread, htext, htable, htools, ownTable_error_iff.mpr ⟨hhides, rfl⟩]

/-! ### Paths that lead to something -/

theorem walk_error {place names : List String} {e : SystemError}
    (h : files.walk place names = .error e) :
    e = .notFound ∨ e = .notADirectory ∨ e = .nameTooLong := by
  induction names generalizing place with
  | nil => cases h
  | cons name names ih =>
      rw [FileTree.walk] at h
      split at h
      · cases h; exact .inl rfl
      · cases h; exact .inr (.inl rfl)
      split at h
      · exact ih h
      split at h
      · cases h; exact .inr (.inr rfl)
      · exact ih h

theorem find_error {e : SystemError} (h : files.find path = .error e) :
    e = .notFound ∨ e = .notADirectory ∨ e = .nameTooLong := by
  rcases bind_eq_error_iff.mp h with h | ⟨place, -, h⟩
  · rw [FileTree.place] at h
    split at h
    · cases h; exact .inr (.inr rfl)
    · exact walk_error h
  · split at h
    · cases h
    · cases h; exact .inl rfl

/-- Only a path that is too long cannot be asked for what it leads to. -/
theorem find?_error {e : SystemError} (h : files.find? path = .error e) : e = .nameTooLong := by
  unfold FileTree.find? at h
  split at h
  · cases h
  · cases h
  · cases h
  · next e' hnotFound hnotADirectory hfind =>
      cases h
      rcases find_error hfind with rfl | rfl | hlong
      · exact absurd rfl hnotFound
      · exact absurd rfl hnotADirectory
      · exact hlong

theorem firstFound_error {paths : List Path} {e : SystemError}
    (h : firstFound files paths = .error e) : e = .nameTooLong := by
  induction paths with
  | nil => cases h
  | cons path paths ih =>
      rcases bind_eq_error_iff.mp h with h | ⟨found, -, h⟩
      · exact find?_error h
      · cases found with
        | some _ => cases h
        | none => exact ih h

end

/-! ### Loading -/

/-- How loading ends without a report. Without a name, the files in the working folder are looked for
first, which cannot be done where their paths are too long. -/
inductive LoadFault (s : Surroundings) (name : Option String) : Fault → Prop
  | search (hname : name.filter (· != "") = none)
      (h : firstFound s.files (fileNames.map s.inFolder) = .error .nameTooLong) :
      LoadFault s name (.system .nameTooLong)
  | ownFile {path : Path} {called : String} {f : Fault}
      (hfile : s.ownFile name = .ok (some (path, called))) (h : FileFault s.files path f) :
      LoadFault s name f
  | projectSearch (hfile : s.ownFile name = .ok none)
      (h : s.files.find? (s.inFolder projectFileName) = .error .nameTooLong) :
      LoadFault s name (.system .nameTooLong)
  | projectFile {node : FileNode} {f : Fault} (hfile : s.ownFile name = .ok none)
      (hthere : s.files.find? (s.inFolder projectFileName) = .ok (some node))
      (h : ProjectFileFault s.files (s.inFolder projectFileName) f) : LoadFault s name f

namespace Surroundings

variable {s : Surroundings} {name : Option String} {f : Fault} {e : Failure}

theorem first_error_iff {names : List String} :
    s.first names = .error e ↔
      firstFound s.files (names.map s.inFolder) = .error .nameTooLong ∧
        e = .fault (.system .nameTooLong) := by
  rw [first]
  cases hfound : firstFound s.files (names.map s.inFolder) with
  | ok found => simp [Except.mapError]
  | error e' =>
      obtain rfl := firstFound_error hfound
      simp [Except.mapError, eq_comm]

theorem ownFile_error_iff :
    s.ownFile name = .error e ↔ name.filter (· != "") = none ∧
      firstFound s.files (fileNames.map s.inFolder) = .error .nameTooLong ∧
        e = .fault (.system .nameTooLong) := by
  rw [ownFile]
  cases hname : name.filter (· != "") with
  | some given => simp
  | none => simp [map_eq_error_iff, first_error_iff]

/-- A file of its own ends the run without a report exactly where its path has a null character, it
cannot be decoded, its reader has a fault, or a key of its mapping is no text. -/
theorem loadFile_fault_iff {path : Path} {called : String} :
    s.loadFile path called = .error (.fault f) ↔ FileFault s.files path f := by
  constructor
  · intro h
    rcases bind_eq_error_iff.mp h with h | ⟨data, hdata, h⟩
    · exact readConfiguration_fault h
    · obtain ⟨bytes, text, value, hopens, htext, hvalue, rfl⟩ := readConfiguration_ok hdata
      obtain ⟨hother, rfl⟩ := interpret_fault_iff.mp h
      exact .otherKey hopens htext hvalue (hasOtherKey_ifEmpty.mp hother)
  · intro h
    cases h with
    | nullInPath hnull => simp [loadFile, readConfiguration, hnull, bind, Except.bind]
    | undecodable hopens hdecode =>
        simp [loadFile, readConfiguration, hopens.noNull, hopens.read, hdecode, bind, Except.bind]
    | reader hopens htext hyaml =>
        simp [loadFile, readConfiguration, hopens.noNull, hopens.read, htext, hyaml, bind,
          Except.bind]
    | @otherKey bytes text data hopens htext hdata hother =>
        have hread : readConfiguration s.files path called =
            .ok (if data.isEmpty then .mapping [] else data) := by
          simp [readConfiguration, hopens.noNull, hopens.read, htext, hdata]
        rw [loadFile, hread]
        exact interpret_fault_iff.mpr ⟨hasOtherKey_ifEmpty.mpr hother, rfl⟩

theorem loadFile_reported {path : Path} {called : String} {e : Error}
    (h : s.loadFile path called = .error (.reported e)) :
    ∃ problem field cause, e = .configuration problem (some called) field cause := by
  rcases bind_eq_error_iff.mp h with h | ⟨data, -, h⟩
  · exact readConfiguration_reported h
  · exact interpret_reported h

theorem projectTable_of_none (h : s.files.find? (s.inFolder projectFileName) = .ok none) :
    s.projectTable = .ok none := by
  simp [projectTable, first, firstFound, h, bind, Except.bind, Except.mapError, pure, Except.pure]

theorem projectTable_of_some {node : FileNode}
    (h : s.files.find? (s.inFolder projectFileName) = .ok (some node)) :
    s.projectTable = readProjectFile s.files (s.inFolder projectFileName) := by
  simp [projectTable, first, firstFound, h, bind, Except.bind, Except.mapError, pure, Except.pure]

theorem projectTable_of_error
    (h : s.files.find? (s.inFolder projectFileName) = .error .nameTooLong) :
    s.projectTable = .error (.fault (.system .nameTooLong)) := by
  simp [projectTable, first, firstFound, h, bind, Except.bind, Except.mapError]

theorem projectTable_error_iff :
    s.projectTable = .error e ↔
      (s.files.find? (s.inFolder projectFileName) = .error .nameTooLong ∧
          e = .fault (.system .nameTooLong)) ∨
        ∃ node f, s.files.find? (s.inFolder projectFileName) = .ok (some node) ∧
          ProjectFileFault s.files (s.inFolder projectFileName) f ∧ e = .fault f := by
  cases hfind : s.files.find? (s.inFolder projectFileName) with
  | error e' =>
      obtain rfl := find?_error hfind
      simp [projectTable_of_error hfind, eq_comm]
  | ok found =>
      cases found with
      | none => simp [projectTable_of_none hfind]
      | some node => simp [projectTable_of_some hfind, readProjectFile_error_iff]

theorem projectTable_ok {own : Data} (h : s.projectTable = .ok (some own)) : own.KeyedByText := by
  cases hfind : s.files.find? (s.inFolder projectFileName) with
  | error e =>
      obtain rfl := find?_error hfind
      cases (projectTable_of_error hfind).symm.trans h
  | ok found =>
      cases found with
      | none => cases (projectTable_of_none hfind).symm.trans h
      | some node => exact readProjectFile_ok ((projectTable_of_some hfind).symm.trans h)

theorem loadTable_reported {own : Option Data} {e : Error}
    (h : s.loadTable own = .error (.reported e)) :
    ∃ path problem field cause, e = .configuration problem (some path) field cause := by
  cases own with
  | some data => exact ⟨_, interpret_reported h⟩
  | none =>
      cases h
      exact ⟨_, _, _, _, rfl⟩

/-- The table of this tool has texts for keys, so that reading it ends with a report if it fails. -/
theorem loadTable_not_fault {own : Option Data} (h : s.projectTable = .ok own) :
    s.loadTable own ≠ .error (.fault f) := by
  intro hload
  cases own with
  | none => cases hload
  | some data => exact (projectTable_ok h).not_hasOtherKey (interpret_fault_iff.mp hload).1

end Surroundings

section

variable {s : Surroundings} {name : Option String} {f : Fault}

theorem loadFault_of_load (h : load s name = .error (.fault f)) : LoadFault s name f := by
  rcases bind_eq_error_iff.mp h with h | ⟨found, hfound, h⟩
  · obtain ⟨hname, hsearch, he⟩ := Surroundings.ownFile_error_iff.mp h
    cases he
    exact .search hname hsearch
  cases found with
  | some file => exact .ownFile hfound (Surroundings.loadFile_fault_iff.mp h)
  | none =>
      rcases bind_eq_error_iff.mp h with h | ⟨own, hown, h⟩
      · rcases Surroundings.projectTable_error_iff.mp h with ⟨hfind, he⟩ | ⟨node, f, hfind, hf, he⟩
        · cases he
          exact .projectSearch hfound hfind
        · cases he
          exact .projectFile hfound hfind hf
      · exact absurd h (Surroundings.loadTable_not_fault hown)

theorem load_of_loadFault (h : LoadFault s name f) : load s name = .error (.fault f) := by
  cases h with
  | search hname h =>
      have hfile := Surroundings.ownFile_error_iff.mpr ⟨hname, h, rfl⟩
      rw [load, hfile]
      rfl
  | ownFile hfile h =>
      rw [load, hfile]
      exact Surroundings.loadFile_fault_iff.mpr h
  | projectSearch hfile h =>
      rw [load, hfile]
      change s.projectTable >>= s.loadTable = _
      exact bind_eq_error_iff.mpr (.inl (Surroundings.projectTable_of_error h))
  | projectFile hfile hthere h =>
      have htable := Surroundings.projectTable_error_iff.mpr (.inr ⟨_, _, hthere, h, rfl⟩)
      rw [load, hfile]
      change s.projectTable >>= s.loadTable = _
      exact bind_eq_error_iff.mpr (.inl htable)

theorem load_reported {e : Error} (h : load s name = .error (.reported e)) :
    ∃ path problem field cause, e = .configuration problem (some path) field cause := by
  rcases bind_eq_error_iff.mp h with h | ⟨found, -, h⟩
  · obtain ⟨-, -, he⟩ := Surroundings.ownFile_error_iff.mp h
    cases he
  cases found with
  | some file => exact ⟨file.2, Surroundings.loadFile_reported h⟩
  | none =>
      rcases bind_eq_error_iff.mp h with h | ⟨own, -, h⟩
      · rcases Surroundings.projectTable_error_iff.mp h with ⟨-, he⟩ | ⟨_, _, -, -, he⟩ <;> cases he
      · exact Surroundings.loadTable_reported h

end

/-- Loading a configuration gives projects, or an error about the configuration that names a file or
the working folder, or a fault; and it gives a fault exactly where a step that nothing guards has
one. -/
theorem load_fails_iff (s : Surroundings) (name : Option String) :
    (∀ e, load s name = .error (.reported e) →
      ∃ path problem field cause, e = .configuration problem (some path) field cause) ∧
    ∀ f, load s name = .error (.fault f) ↔ LoadFault s name f :=
  ⟨fun _ => load_reported, fun _ => ⟨loadFault_of_load, load_of_loadFault⟩⟩

/-! ### A file that cannot be decoded -/

/-- A working folder with a configuration of one byte, which starts no character. -/
def undecodableTree : FileTree where
  nodes := [(["routegen.yaml"], .file [0xff])]

/-- Loading a configuration can fail with something else than an error about the configuration. -/
theorem not_configuration_of_load : ¬ ∀ (s : Surroundings) (name : Option String) (e : Failure),
    load s name = .error e →
      ∃ problem path field cause, e = .reported (.configuration problem path field cause) := by
  intro hall
  have hload : load ⟨undecodableTree, []⟩ none =
      .error (.fault (.undecodable ⟨[0xff], 0, "invalid start byte"⟩)) := by
    decide +kernel
  obtain ⟨_, _, _, _, he⟩ := hall _ _ _ hload
  cases he

end TypedClients.Settings
