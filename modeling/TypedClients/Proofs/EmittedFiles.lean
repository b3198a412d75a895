import Mathlib.Data.List.Nodup
import TypedClients.Output.Files
import TypedClients.Proofs.EmittedPaths
import TypedClients.Proofs.FailedRuns

/-!
# Emitted files

Putting modules out to files does what keeping their texts does: a module fails in the one place
where it fails in the other, and the files below the output folder are the texts under their paths.
Both hold at every point of any sequence of calls, as long as no file is in the way of another.
-/
namespace TypedClients

open TypedClients.Text

/-- The names of a path. -/
abbrev partsOf (path : String) : List String := (Path.ofString path).parts

/-- Paths of files that can be written side by side below an output folder: their names are no
longer than the system takes, and no file is in the place of a folder around another one. -/
structure SideBySide (output : Path) (paths : List String) : Prop where
  nameSizes : ∀ path ∈ paths, ∀ name ∈ partsOf path, name.utf8ByteSize ≤ FileTree.maxNameSize
  pathSizes : ∀ path ∈ paths,
    (output.join (Path.ofString path)).toString.utf8ByteSize ≤ FileTree.maxPathSize
  apart : ∀ path ∈ paths, ∀ other ∈ paths, partsOf path <+: partsOf other → path = other

/-- Emitted paths side by side. -/
structure EmittedSideBySide (output : Path) (paths : List String) : Prop
    extends SideBySide output paths where
  emitted : ∀ path ∈ paths, IsEmittedPath path

namespace EmittedSideBySide

variable {output : Path} {paths : List String} {path : String}

theorem join_eq (h : EmittedSideBySide output paths) (hpath : path ∈ paths) :
    output.join (Path.ofString path) = ⟨output.root, output.parts ++ partsOf path⟩ := by
  rw [Path.join, if_pos (h.emitted path hpath).root]

theorem fitBelow (h : EmittedSideBySide output paths) (hpath : path ∈ paths) :
    FileTree.FitBelow output (partsOf path) := by
  refine fitBelow_of_size (h.emitted path hpath).down (h.nameSizes path hpath) ?_
  rw [← h.join_eq hpath]
  exact h.pathSizes path hpath

/-- The place of a file is none of the folders around the files. -/
theorem not_prefix_dropLast (h : EmittedSideBySide output paths) (hpath : path ∈ paths)
    {other : String} (hother : other ∈ paths) : ¬ partsOf path <+: (partsOf other).dropLast := by
  intro hstart
  obtain rfl := h.apart path hpath other hother (hstart.trans (List.dropLast_prefix _))
  have hlength := hstart.length_le
  rw [List.length_dropLast] at hlength
  have hpositive : 0 < (partsOf path).length :=
    List.length_pos_iff.mpr (h.emitted path hpath).parts_ne_nil
  omega

end EmittedSideBySide

variable {output : Path} {paths : List String} {path : String}

namespace FileTree

variable {t made : FileTree} {place : List String} {collected : Collected}

/-! ### Writing one file -/

/-- Files can be written to paths below an output folder, which is there or can be made: no folder
stands in their place, and no file in that of a folder around them. -/
def HasRoomFor (t : FileTree) (output : Path) (place paths : List String) : Prop :=
  ∃ made, t.makeFolders output = .ok made ∧ made.HasFolder output place ∧ ∀ path ∈ paths,
    made.node? (place ++ partsOf path) ≠ some .folder ∧
      made.IsFreeFor place (partsOf path).dropLast

/-- A tree with folders around a path that were not there. -/
structure GrowsAround (made after : FileTree) (place : List String) (path : String) : Prop
    extends made.Grows after where
  around : ∀ other, made.node? other = none → after.node? other ≠ none →
    ∃ front, front <+: (partsOf path).dropLast ∧ other = place ++ front
  file : after.node? (place ++ partsOf path) ≠ some .folder

/-- A text is written into the folders that are made around it. -/
theorem exists_writeText (hpaths : EmittedSideBySide output paths) (hpath : path ∈ paths)
    (hmade : t.makeFolders output = .ok made) (hfolder : made.HasFolder output place)
    (hfile : made.node? (place ++ partsOf path) ≠ some .folder)
    (hfree : made.IsFreeFor place (partsOf path).dropLast) (text : String) :
    ∃ after, GrowsAround made after place path ∧
      writeText t (output.join (Path.ofString path)) text = (.ok (),
        after.set (place ++ partsOf path) (.file (encodeUtf8 text.toList))) := by
  have hne := (hpaths.emitted path hpath).parts_ne_nil
  have hsplit := List.dropLast_append_getLast hne
  have hfit : FitBelow output ((partsOf path).dropLast ++ [(partsOf path).getLast hne]) := by
    rw [hsplit]
    exact hpaths.fitBelow hpath
  obtain ⟨after, hafter, hparent, hgrows, haround⟩ := makeFolders_below hmade hfolder
    (fun front name h => hfit front name (h.trans (List.prefix_append _ _))) hfree
  have hplace := place_child hparent (hfit _ _ List.prefix_rfl)
  rw [List.append_assoc, List.append_assoc, hsplit, ← hpaths.join_eq hpath] at hplace
  have hnode : after.node? (place ++ partsOf path) ≠ some .folder := by
    intro hnode
    cases hbefore : made.node? (place ++ partsOf path) with
    | some node =>
        cases hnode.symm.trans (hgrows.kept hbefore)
        exact hfile hbefore
    | none =>
        obtain ⟨front, hfront, heq⟩ := haround _ hbefore (by rw [hnode]; simp)
        rw [← List.append_cancel_left heq] at hfront
        exact hpaths.not_prefix_dropLast hpath hpath hfront
  refine ⟨after, ⟨hgrows, haround, hnode⟩, ?_⟩
  have hfolders : t.makeFolders (output.join (Path.ofString path)).parent = .ok after := by
    rw [hpaths.join_eq hpath, Path.parent, List.dropLast_append_of_ne_nil hne]
    exact hafter
  rw [writeText, hfolders]
  simp only [writeFile_of_place hplace hnode]

/-- After a file is written there is room for the files as before. -/
theorem GrowsAround.hasRoomFor {after : FileTree} (h : GrowsAround made after place path)
    (hpaths : EmittedSideBySide output paths) (hpath : path ∈ paths)
    (hfolder : made.HasFolder output place)
    (hroom : ∀ path ∈ paths, made.node? (place ++ partsOf path) ≠ some .folder ∧
      made.IsFreeFor place (partsOf path).dropLast) (bytes : List UInt8) :
    (after.set (place ++ partsOf path) (.file bytes)).HasRoomFor output place paths := by
  have hkeeps : after.KeepsFolders (after.set (place ++ partsOf path) (.file bytes)) :=
    keepsFolders_set_file h.file
  have hthere := hkeeps.hasFolder (h.toGrows.keepsFolders.hasFolder hfolder)
  refine ⟨_, makeFolders_of_hasFolder hthere, hthere, fun other hother => ⟨?_, ?_⟩⟩
  · by_cases heq : other = path
    · rw [heq, node?_set_file h.file]
      simp
    · have hne : place ++ partsOf other ≠ place ++ partsOf path := fun hsame =>
        heq (hpaths.apart other hother path hpath (List.append_cancel_left hsame ▸ List.prefix_rfl))
      rw [node?_set_of_ne hne]
      intro hnode
      cases hbefore : made.node? (place ++ partsOf other) with
      | some node =>
          cases hnode.symm.trans (h.kept hbefore)
          exact (hroom other hother).1 hbefore
      | none =>
          obtain ⟨front, hfront, hsame⟩ := h.around _ hbefore (by rw [hnode]; simp)
          rw [← List.append_cancel_left hsame] at hfront
          exact hpaths.not_prefix_dropLast hother hpath hfront
  · intro front hfront bytes' hnode
    have hne : place ++ front ≠ place ++ partsOf path := fun hsame =>
      hpaths.not_prefix_dropLast hpath hother (List.append_cancel_left hsame ▸ hfront)
    rw [node?_set_of_ne hne] at hnode
    cases hbefore : made.node? (place ++ front) with
    | some node =>
        cases hnode.symm.trans (h.kept hbefore)
        exact (hroom other hother).2 front hfront bytes' hbefore
    | none => cases h.new hbefore hnode

/-! ### Files and texts -/

/-- The files below a place are texts under their paths. -/
structure Mirrors (t : FileTree) (place : List String) (collected : Collected) : Prop where
  places : t.nodes.keys.Nodup
  keys : collected.keys.Nodup
  paths : ∀ path ∈ collected.keys, IsEmittedPath path
  files : ∀ {names bytes}, t.nodes.get? (place ++ names) = some (.file bytes) ↔
    ∃ path text, collected.get? path = some text ∧ partsOf path = names ∧
      encodeUtf8 text.toList = bytes

theorem eq_of_partsOf_eq {other : String} (hpath : IsEmittedPath path)
    (hother : IsEmittedPath other) (h : partsOf path = partsOf other) : path = other := by
  rw [← hpath.text, ← hother.text]
  exact congrArg _ h

theorem Grows.mirrors {after : FileTree} (h : t.Grows after)
    (hmirrors : t.Mirrors place collected) : after.Mirrors place collected where
  places := h.places hmirrors.places
  keys := hmirrors.keys
  paths := hmirrors.paths
  files := h.files.trans hmirrors.files

/-- A file and a text that are new, or take the place of others. -/
theorem Mirrors.set (h : t.Mirrors place collected) (hpath : IsEmittedPath path) (text : String) :
    (t.set (place ++ partsOf path) (.file (encodeUtf8 text.toList))).Mirrors place
      (collected.insert path text) where
  places := nodup_keys_insert h.places _ _
  keys := nodup_keys_insert h.keys _ _
  paths other hother := by
    rw [Dictionary.keys_insert] at hother
    split at hother
    · exact h.paths other hother
    · rcases List.mem_append.mp hother with hother | hother
      · exact h.paths other hother
      · rw [List.mem_singleton.mp hother]
        exact hpath
  files {names bytes} := by
    change (t.nodes.insert _ _).get? _ = _ ↔ _
    rw [Dictionary.get?_insert]
    by_cases hsame : names = partsOf path
    · subst hsame
      rw [if_pos rfl]
      constructor
      · intro hbytes
        cases hbytes
        exact ⟨path, text, Dictionary.get?_insert_self _ _ _, rfl, rfl⟩
      · rintro ⟨other, text', hget, hparts, rfl⟩
        rw [Dictionary.get?_insert] at hget
        split at hget
        · cases hget
          rfl
        · rename_i hne
          have hother := h.paths other ((Dictionary.mem_keys_iff _ _).mpr (by rw [hget]; rfl))
          exact absurd (eq_of_partsOf_eq hother hpath hparts) hne
    · rw [if_neg fun hplace => hsame (List.append_cancel_left hplace), h.files]
      have hget (other : String) (hparts : partsOf other = names) :
          (collected.insert path text).get? other = collected.get? other :=
        Dictionary.get?_insert_of_ne _ _ fun heq => hsame (heq ▸ hparts.symm)
      constructor
      · rintro ⟨other, text', hfound, hparts, hbytes⟩
        exact ⟨other, text', (hget other hparts).trans hfound, hparts, hbytes⟩
      · rintro ⟨other, text', hfound, hparts, hbytes⟩
        exact ⟨other, text', (hget other hparts).symm.trans hfound, hparts, hbytes⟩

/-- A file is found below a place where one stands there. -/
theorem mem_filesBelow_iff (hplaces : t.nodes.keys.Nodup) {names : List String}
    {bytes : List UInt8} : (names, bytes) ∈ t.filesBelow place ↔
      t.nodes.get? (place ++ names) = some (.file bytes) := by
  have hmem : (names, bytes) ∈ t.filesBelow place ↔ (place ++ names, .file bytes) ∈ t.nodes := by
    rw [filesBelow, List.mem_mergeSort, List.mem_filterMap]
    constructor
    · rintro ⟨⟨p, _ | _⟩, hnode, hfile⟩
      · simp only [Option.ite_none_right_eq_some, Option.some.injEq, Prod.mk.injEq] at hfile
        obtain ⟨⟨rest, rfl⟩, hnames, rfl⟩ := hfile
        rw [List.drop_left] at hnames
        rwa [← hnames]
      · cases hfile
    · intro hnode
      exact ⟨_, hnode, by simp⟩
  rw [hmem]
  exact ⟨Dictionary.get?_of_mem hplaces, Dictionary.mem_of_get?⟩

theorem nodup_filesBelow (hplaces : t.nodes.keys.Nodup) : (t.filesBelow place).Nodup := by
  refine (List.mergeSort_perm _ _).nodup_iff.mpr (List.Nodup.filterMap ?_ hplaces.of_map)
  rintro ⟨p, _ | _⟩ ⟨q, _ | _⟩ ⟨names, bytes⟩ hp hq
  all_goals simp only [Option.mem_def, Option.ite_none_right_eq_some, Option.some.injEq,
    Prod.mk.injEq, reduceCtorEq] at hp hq
  obtain ⟨⟨rest, rfl⟩, hnames, rfl⟩ := hp
  obtain ⟨⟨rest', rfl⟩, hnames', rfl⟩ := hq
  rw [List.drop_left] at hnames hnames'
  rw [hnames, hnames']

/-- A tree that mirrors texts has their files and no others. -/
theorem Mirrors.perm (h : t.Mirrors place collected) :
    ((t.filesBelow place).map fun file => ("/".intercalate file.1, file.2)).Perm
      (collected.map fun kept => (kept.1, encodeUtf8 kept.2.toList)) := by
  have hparts : (t.filesBelow place).Perm
      (collected.map fun kept => (partsOf kept.1, encodeUtf8 kept.2.toList)) := by
    refine (List.perm_ext_iff_of_nodup (nodup_filesBelow h.places) ?_).mpr ?_
    · refine List.Nodup.map_on ?_ h.keys.of_map
      rintro ⟨path, text⟩ hpath ⟨other, text'⟩ hother heq
      have hkey := h.paths path (List.mem_map_of_mem hpath)
      have hkey' := h.paths other (List.mem_map_of_mem hother)
      obtain rfl := eq_of_partsOf_eq hkey hkey' (Prod.ext_iff.mp heq).1
      have hget := Dictionary.get?_of_mem h.keys hpath
      rw [Dictionary.get?_of_mem h.keys hother] at hget
      rw [Option.some.inj hget]
    · rintro ⟨names, bytes⟩
      rw [mem_filesBelow_iff h.places, h.files, List.mem_map]
      constructor
      · rintro ⟨path, text, hget, rfl, rfl⟩
        exact ⟨(path, text), Dictionary.mem_of_get? hget, rfl⟩
      · rintro ⟨⟨path, text⟩, hmem, hfile⟩
        cases hfile
        exact ⟨path, text, Dictionary.get?_of_mem h.keys hmem, rfl, rfl⟩
  have hmap := hparts.map fun file => ("/".intercalate file.1, file.2)
  rw [List.map_map] at hmap
  refine hmap.trans (.of_eq (List.map_congr_left ?_))
  rintro ⟨path, text⟩ hmem
  exact Prod.ext (h.paths path (List.mem_map_of_mem hmem)).text rfl

end FileTree

/-! ### Putting modules -/

/-- Files that have been written and texts that have been kept, for the same modules. -/
structure Reflects (output : Path) (place paths : List String) (state : FileOutput)
    (collected : Collected) (done : List OutputModule) : Prop where
  room : state.tree.HasRoomFor output place paths
  mirrors : state.tree.Mirrors place collected
  written : state.written = done.map fun m => (output.join (Path.ofString m.path)).toString

variable {place : List String} {state : FileOutput} {collected : Collected}
  {done : List OutputModule}

/-- A module that passes its check is put out in both places, any other one in none. -/
theorem Reflects.put (hpaths : EmittedSideBySide output paths)
    (h : Reflects output place paths state collected done) {m : OutputModule}
    (hm : m.path ∈ paths) :
    (∃ text, m.text = .ok text ∧
      ((writing output).put state m).1.result =
        .ok (output.join (Path.ofString m.path)).toString ∧
      Reflects output place paths ((writing output).put state m).2
        (collecting.put collected m).2 (done ++ [m])) ∨
    ∃ e, m.text = .error e ∧ (writing output).put state m = (Traced.fail e, state) ∧
      collecting.put collected m = (Traced.fail e, collected) := by
  cases htext : m.text with
  | error e => exact .inr ⟨e, rfl, by simp [writing, htext], by simp [collecting, htext]⟩
  | ok text =>
      obtain ⟨made, hmade, hfolder, hroom⟩ := h.room
      obtain ⟨-, -, hgrows⟩ := FileTree.hasFolder_of_makeFolders hmade
      obtain ⟨after, haround, hwrite⟩ := FileTree.exists_writeText hpaths hm hmade hfolder
        (hroom _ hm).1 (hroom _ hm).2 text
      refine .inl ⟨text, rfl, ?_, ?_⟩
      · simp only [writing, htext, hwrite]
        rfl
      · rw [(put_collecting_of_ok collected htext).2]
        simp only [writing, htext, hwrite]
        exact
          { room := haround.hasRoomFor hpaths hm hfolder hroom _
            mirrors := ((hgrows.trans haround.toGrows).mirrors h.mirrors).set
              (hpaths.emitted _ hm) text
            written := by rw [h.written, List.map_append, List.map_singleton] }

/-- A call ends alike in both places, and puts out the modules up to the first that fails. -/
theorem Reflects.putAll (hpaths : EmittedSideBySide output paths)
    (h : Reflects output place paths state collected done) {call : List OutputModule}
    (hcall : ∀ m ∈ call, m.path ∈ paths) :
    EndAlike (fun files texts => files.length = texts.length)
      ((writing output).putAll state call).1.result (collecting.putAll collected call).1.result ∧
    Reflects output place paths ((writing output).putAll state call).2
      (collecting.putAll collected call).2 (done ++ call.takeWhile (·.text.isOk)) := by
  induction call generalizing state collected done with
  | nil =>
      refine ⟨.ok rfl, ?_⟩
      rw [List.takeWhile_nil, List.append_nil]
      exact h
  | cons m call ih =>
      obtain ⟨hm, hcall⟩ := List.forall_mem_cons.mp hcall
      rcases h.put hpaths hm with ⟨text, htext, hput, hafter⟩ | ⟨e, htext, hput, hput'⟩
      · obtain ⟨hresult, hstate⟩ := Sink.putAll_cons_ok call hput
        obtain ⟨hresult', hstate'⟩ :=
          Sink.putAll_cons_ok call (put_collecting_of_ok collected htext).1
        obtain ⟨hlater, hlast⟩ := ih hafter hcall
        rw [hresult, hresult', hstate, hstate']
        refine ⟨hlater.map fun files texts _ hlength => by simpa using hlength, ?_⟩
        rw [List.takeWhile_cons_of_pos (by rw [htext]; rfl)]
        rwa [List.append_assoc, List.singleton_append] at hlast
      · obtain ⟨hresult, hstate⟩ := Sink.putAll_cons_error call (by rw [hput]; rfl)
        obtain ⟨hresult', hstate'⟩ := Sink.putAll_cons_error call (by rw [hput']; rfl)
        rw [hresult, hresult', hstate, hstate', hput, hput']
        refine ⟨.error e, ?_⟩
        rw [List.takeWhile_cons_of_neg (by rw [htext]; exact Bool.false_ne_true), List.append_nil]
        exact h

/-- Makes calls one after the other. Each puts its modules up to the first one that fails, and the
next one is made all the same. -/
def Sink.callAll {σ : Type} (sink : Sink σ) (state : σ) :
    List (List OutputModule) → List (Except Failure (List String)) × σ
  | [] => ([], state)
  | call :: calls =>
      let (out, after) := sink.putAll state call
      let (outs, last) := sink.callAll after calls
      (out.result :: outs, last)

/-- The modules that calls put out, in order. -/
def passed (calls : List (List OutputModule)) : List OutputModule :=
  calls.flatMap fun call => call.takeWhile (·.text.isOk)

theorem Reflects.callAll (hpaths : EmittedSideBySide output paths)
    (h : Reflects output place paths state collected done) {calls : List (List OutputModule)}
    (hcalls : ∀ call ∈ calls, ∀ m ∈ call, m.path ∈ paths) :
    List.Forall₂ (EndAlike fun files texts => files.length = texts.length)
      ((writing output).callAll state calls).1 (collecting.callAll collected calls).1 ∧
    Reflects output place paths ((writing output).callAll state calls).2
      (collecting.callAll collected calls).2 (done ++ passed calls) := by
  induction calls generalizing state collected done with
  | nil =>
      refine ⟨.nil, ?_⟩
      rw [passed, List.flatMap_nil, List.append_nil]
      exact h
  | cons call calls ih =>
      obtain ⟨hcall, hcalls⟩ := List.forall_mem_cons.mp hcalls
      obtain ⟨hends, hafter⟩ := h.putAll hpaths hcall
      obtain ⟨hlater, hlast⟩ := ih hafter hcalls
      refine ⟨.cons hends hlater, ?_⟩
      rw [passed, List.flatMap_cons, ← List.append_assoc]
      exact hlast

/-! ### Emitting client modules -/

/-- No file and no folder is below a place. -/
structure FileTree.IsEmptyBelow (t : FileTree) (place : List String) : Prop where
  files : t.filesBelow place = []
  nodes : ∀ names, names ≠ [] → t.node? (place ++ names) = none

/-- Before anything is put out an empty folder reflects that there are no texts. -/
theorem reflects_nil {tree made : FileTree} (hpaths : EmittedSideBySide output paths)
    (hplaces : tree.nodes.keys.Nodup) (hmade : tree.makeFolders output = .ok made)
    (hfolder : made.HasFolder output place) (hempty : made.IsEmptyBelow place) :
    Reflects output place paths ⟨tree, []⟩ [] [] where
  room := by
    refine ⟨made, hmade, hfolder, fun path hpath => ⟨?_, fun front _ bytes => ?_⟩⟩
    · rw [hempty.nodes _ (hpaths.emitted path hpath).parts_ne_nil]
      simp
    · cases front with
      | nil =>
          rw [List.append_nil, hfolder.node]
          simp
      | cons name front =>
          rw [hempty.nodes _ (List.cons_ne_nil _ _)]
          simp
  mirrors :=
    { places := hplaces
      keys := List.nodup_nil
      paths := fun path h => by cases h
      files := by
        intro names bytes
        obtain ⟨-, -, hgrows⟩ := FileTree.hasFolder_of_makeFolders hmade
        rw [← hgrows.files, ← FileTree.mem_filesBelow_iff (hgrows.places hplaces), hempty.files]
        simp }
  written := rfl

/-- Client modules and their packages are put out to files as they are kept as texts, if the output
folder is empty, and there or can be made. In any sequence of calls, the ones to put out each client
module and then the packages among them, every call succeeds in both places or fails in both with
the same error. Afterwards, and so after the calls up to any point, the files below the output
folder are the texts under their paths, and the written files are those of the modules that were
put out, in order. -/
theorem writing_callAll {ms : List ClientModule} {tree made : FileTree}
    (hms : ∀ m ∈ ms, m.LeadsDown) (hpaths : SideBySide output ((emitted ms).map (·.path)))
    (hplaces : tree.nodes.keys.Nodup) (hmade : tree.makeFolders output = .ok made)
    (hfolder : made.HasFolder output place) (hempty : made.IsEmptyBelow place)
    {calls : List (List OutputModule)} (hcalls : ∀ call ∈ calls, ∀ m ∈ call, m ∈ emitted ms) :
    List.Forall₂ (EndAlike fun files texts => files.length = texts.length)
      ((writing output).callAll ⟨tree, []⟩ calls).1 (collecting.callAll [] calls).1 ∧
    ((((writing output).callAll ⟨tree, []⟩ calls).2.tree.filesBelow place).map fun file =>
        ("/".intercalate file.1, file.2)).Perm
      ((collecting.callAll [] calls).2.map fun kept => (kept.1, encodeUtf8 kept.2.toList)) ∧
    ((writing output).callAll ⟨tree, []⟩ calls).2.written =
      (passed calls).map fun m => (output.join (Path.ofString m.path)).toString := by
  have hemitted : EmittedSideBySide output ((emitted ms).map (·.path)) :=
    { toSideBySide := hpaths
      emitted := fun path hpath => by
        obtain ⟨m, hm, rfl⟩ := List.mem_map.mp hpath
        exact isEmittedPath_of_mem hms hm }
  obtain ⟨hends, hreflects⟩ :=
    (reflects_nil hemitted hplaces hmade hfolder hempty).callAll hemitted fun call hcall m hm =>
      List.mem_map_of_mem (hcalls call hcall m hm)
  exact ⟨hends, hreflects.mirrors.perm, hreflects.written⟩

/-! ### A client of books -/

def bookClient : ClientModule where
  apiName := "api"
  moduleName := "books_client"
  body := [.pass]
  exports := ["BooksClient"]

/-- A tree with a working folder and nothing in it. -/
def homeTree : FileTree := { here := ["home"] }

theorem packageModules_bookClient :
    packageModules [bookClient] = [packageModule "api" [bookClient]] := by
  have hnames : ["api"].eraseDups.mergeSort (· ≤ ·) = ["api"] := List.mergeSort_singleton "api"
  have hgroups : packageGroups [bookClient] = [("api", [bookClient])] := by
    simp [packageGroups, bookClient, hnames]
  rw [packageModules, hgroups]
  rfl

theorem emitted_bookClient :
    emitted [bookClient] = [bookClient.output, packageModule "api" [bookClient]] := by
  rw [emitted, packageModules_bookClient]
  rfl

theorem sideBySide_bookClient :
    SideBySide (Path.ofString "client") ((emitted [bookClient]).map (·.path)) := by
  rw [emitted_bookClient]
  have hpaths : [bookClient.output, packageModule "api" [bookClient]].map (·.path) =
      ["api/books_client.py", "api/__init__.py"] := by decide
  rw [hpaths]
  constructor <;> decide

theorem writing_callAll_books :
    ((writing (Path.ofString "client")).callAll ⟨homeTree, []⟩
      [[bookClient.output], packageModules [bookClient]]).2.written =
        ["client/api/books_client.py", "client/api/__init__.py"] := by
  have hmade : homeTree.makeFolders (Path.ofString "client") =
      .ok (homeTree.set ["home", "client"] .folder) := by rfl
  have hfolder : (homeTree.set ["home", "client"] .folder).HasFolder (Path.ofString "client")
      ["home", "client"] := ⟨by rfl, by rfl⟩
  have hempty : (homeTree.set ["home", "client"] .folder).IsEmptyBelow ["home", "client"] :=
    { files := List.mergeSort_nil
      nodes := fun names hne => by
        rw [FileTree.node?_set_of_ne fun heq => hne (List.append_right_eq_self.mp heq)]
        exact if_neg fun h => absurd h.length_le (by simp [homeTree]) }
  have hms : ∀ m ∈ [bookClient], m.LeadsDown := by
    simp only [List.mem_singleton, forall_eq]
    exact ⟨⟨by decide, by decide⟩, ⟨by decide, by decide⟩⟩
  have hcalls : ∀ call ∈ [[bookClient.output], packageModules [bookClient]],
      ∀ m ∈ call, m ∈ emitted [bookClient] := by
    rw [emitted, packageModules_bookClient]
    simp
  have hplaces : homeTree.nodes.keys.Nodup := List.nodup_nil
  obtain ⟨-, -, hwritten⟩ :=
    writing_callAll hms sideBySide_bookClient hplaces hmade hfolder hempty hcalls
  rw [hwritten, packageModules_bookClient, passed]
  have hclient : bookClient.output.text.isOk = true := by decide +kernel
  have hpackage : (packageModule "api" [bookClient]).text.isOk = true := by decide +kernel
  simp only [List.flatMap_cons, List.flatMap_nil, List.takeWhile_cons, hclient, hpackage, if_true,
    List.takeWhile_nil]
  decide

end TypedClients
