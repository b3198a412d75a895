import TypedClients.Proofs.FaultOrigins
import TypedClients.Proofs.ImportBlocks
import TypedClients.Proofs.PackageExports

/-!
# The order of packages

Where no folder has two client modules of one name, the packages depend on what client modules there
are and not on the order that they come in: `putAll_packageModules_of_perm`. There is one package for
each folder, in the order of the folders, and its text has one line for each of the modules, in the
order of their names.
-/
namespace TypedClients

open TypedClients.Text TypedClients.Code

/-! ### Sorting by a key -/

section

variable {α : Type} (key : α → String)

/-- Items in the order of their keys. -/
def sortedBy (xs : List α) : List α := xs.mergeSort fun a b => decide (key a ≤ key b)

theorem sortedBy_perm (xs : List α) : (sortedBy key xs).Perm xs := List.mergeSort_perm _ _

/-- Keys that are all different are in strict order. -/
theorem pairwise_sortedBy {xs : List α} (h : (xs.map key).Nodup) :
    (sortedBy key xs).Pairwise fun a b => key a < key b := by
  have hle : (sortedBy key xs).Pairwise fun a b => decide (key a ≤ key b) = true := by
    refine List.pairwise_mergeSort (fun a b c => ?_) (fun a b => ?_) xs
    · simpa using le_trans
    · simpa using le_total (key a) (key b)
  have hne : (sortedBy key xs).Pairwise fun a b => key a ≠ key b :=
    List.pairwise_map.mp (((sortedBy_perm key xs).map key).nodup_iff.mpr h)
  exact hle.imp₂ (fun a b hab hab' => lt_of_le_of_ne (by simpa using hab) hab') hne

/-- There is one way to put items in strict order. -/
theorem sortedBy_eq_of_perm {xs ys : List α} (h : xs.Perm ys) (hxs : (xs.map key).Nodup) :
    sortedBy key xs = sortedBy key ys := by
  have hys : (ys.map key).Nodup := (h.map key).nodup_iff.mp hxs
  refine List.Perm.eq_of_pairwise (fun a b _ _ hab hba => absurd hab (lt_asymm hba))
    (pairwise_sortedBy key hxs) (pairwise_sortedBy key hys) ?_
  exact (sortedBy_perm key xs).trans (h.trans (sortedBy_perm key ys).symm)

end

/-! ### Groups of client modules -/

/-- The client modules of a folder, each of them once and in the order of their names. -/
structure IsPackageGroup (ms : List ClientModule) (apiName : String) (group : List ClientModule) :
    Prop where
  members : group.Perm (ms.filter (·.apiName == apiName))
  sorted : group.Pairwise fun a b => a.moduleName < b.moduleName

/-- The folders of client modules, each of them once and in order, with their modules. -/
structure IsGrouping (ms : List ClientModule) (groups : List (String × List ClientModule)) :
    Prop where
  folders : ∀ apiName, apiName ∈ groups.map Prod.fst ↔ ∃ m ∈ ms, m.apiName = apiName
  sorted : groups.Pairwise fun g g' => g.1 < g'.1
  groups : ∀ g ∈ groups, IsPackageGroup ms g.1 g.2

/-- The folders of client modules, in order. -/
def folders (ms : List ClientModule) : List String := sortedBy id (ms.map (·.apiName)).eraseDups

theorem packageGroups_eq (ms : List ClientModule) : packageGroups ms =
    (folders ms).map fun apiName =>
      (apiName, sortedBy (·.moduleName) (ms.filter (·.apiName == apiName))) := rfl

section

variable {ms ms' : List ClientModule}

theorem mem_folders {apiName : String} : apiName ∈ folders ms ↔ ∃ m ∈ ms, m.apiName = apiName := by
  rw [folders, (sortedBy_perm id _).mem_iff, List.mem_eraseDups, List.mem_map]

theorem nodup_map_id_eraseDups (names : List String) : (names.eraseDups.map id).Nodup := by
  rw [List.map_id]
  exact Imports.nodup_eraseDups names

theorem pairwise_folders (ms : List ClientModule) : (folders ms).Pairwise (· < ·) :=
  pairwise_sortedBy id (nodup_map_id_eraseDups _)

/-- The folders depend only on what modules there are. -/
theorem folders_eq_of_perm (h : ms.Perm ms') : folders ms = folders ms' := by
  refine sortedBy_eq_of_perm id ?_ (nodup_map_id_eraseDups _)
  rw [List.perm_ext_iff_of_nodup (Imports.nodup_eraseDups _) (Imports.nodup_eraseDups _)]
  intro apiName
  rw [List.mem_eraseDups, List.mem_eraseDups, (h.map _).mem_iff]

variable (hnames : (ms.map fun m => (m.apiName, m.moduleName)).Nodup)

include hnames

/-- Inside one folder the names of modules are all different. -/
theorem nodup_moduleNames (apiName : String) :
    ((ms.filter (·.apiName == apiName)).map (·.moduleName)).Nodup := by
  refine List.Nodup.of_map (fun name => (apiName, name)) ?_
  have hpairs : (ms.filter (·.apiName == apiName)).map (fun m => (apiName, m.moduleName)) =
      (ms.filter (·.apiName == apiName)).map fun m => (m.apiName, m.moduleName) := by
    refine List.map_congr_left fun m hm => ?_
    rw [beq_iff_eq.mp (List.mem_filter.mp hm).2]
  rw [List.map_map]
  exact hpairs ▸ hnames.sublist (List.filter_sublist.map _)

theorem isGrouping_packageGroups : IsGrouping ms (packageGroups ms) := by
  rw [packageGroups_eq]
  refine ⟨fun apiName => ?_, ?_, ?_⟩
  · rw [List.map_map, ← mem_folders]
    exact iff_of_eq (congrArg (apiName ∈ ·) (List.map_id _))
  · exact List.pairwise_map.mpr (pairwise_folders ms)
  · intro g hg
    obtain ⟨apiName, -, rfl⟩ := List.mem_map.mp hg
    exact ⟨sortedBy_perm _ _, pairwise_sortedBy _ (nodup_moduleNames hnames apiName)⟩

theorem packageGroups_eq_of_perm (h : ms.Perm ms') : packageGroups ms = packageGroups ms' := by
  rw [packageGroups_eq, packageGroups_eq, folders_eq_of_perm h]
  refine List.map_congr_left fun apiName _ => ?_
  rw [sortedBy_eq_of_perm _ (h.filter _) (nodup_moduleNames hnames apiName)]

end

/-! ### Texts of packages -/

/-- The line of a package for one of its modules. -/
def ClientModule.importLine (m : ClientModule) : String :=
  "from ." ++ m.moduleName ++ " import " ++ ", ".intercalate m.exports

/-- The line that lists what a package offers. -/
def offersLine (names : List String) : String :=
  "__all__ = (" ++ commaList (names.map quotedString) ++ ")"

/-- The text of the package of client modules. -/
def packageText (group : List ClientModule) : String :=
  "\n".intercalate ("\"\"\"Generated API clients.\"\"\"" ::
    (group.map (·.importLine) ++ [offersLine (group.flatMap (·.exports))])) ++ "\n"

theorem renderAll_strings (names : List String) :
    Expr.renderAll false (names.map Expr.string) = names.map quotedString := by
  induction names with
  | nil => rfl
  | cons name names ih =>
      have hname : Expr.renderAt false .test (Expr.string name) = quotedString name :=
        String.empty_append
      rw [List.map_cons, Expr.renderAll, ih, hname, List.map_cons]

/-- At the left margin nothing stands before a line. -/
theorem line_zero (s : String) : Stmt.line 0 s = s := String.empty_append

theorem lines_offers (names : List String) :
    Stmt.lines 0 (Client.offers names) = [offersLine names] := by
  have htuple : (Expr.tuple (names.map Expr.string)).render =
      "(" ++ commaList (names.map quotedString) ++ ")" := by
    have hparens : ((names.map Expr.string).isEmpty || decide (Strength.tuple < Strength.test)) =
        true := by
      rw [Bool.or_eq_true]
      exact .inr (by decide)
    rw [Expr.render, Expr.renderAt, renderAll_strings, parensIf, if_pos hparens]
  have hhead : String.join ([Expr.name "__all__"].map fun t => t.renderAt false .tuple ++ " = ") =
      "__all__ = " := rfl
  rw [Client.offers, Stmt.lines, htuple, hhead, line_zero, ← String.append_assoc,
    ← String.append_assoc]
  rfl

theorem lines_import (m : ClientModule) :
    Stmt.lines 0 (.importFrom (some m.moduleName) (m.exports.map fun n => { name := n }) 1) =
      [m.importLine] := by
  have hnames : (m.exports.map fun n => ({ name := n } : Imported)).map Imported.render =
      m.exports := by
    rw [List.map_map]
    exact List.map_id _
  rw [Stmt.lines, line_zero, hnames]
  rfl

theorem blockLines_packageModule (apiName : String) (group : List ClientModule) :
    Stmt.blockLines 0 (packageModule apiName group).body =
      group.map (·.importLine) ++ [offersLine (group.flatMap (·.exports))] := by
  have hlines (offers : List Stmt) : Stmt.blockLines 0 (group.map (fun m => .importFrom
      (some m.moduleName) (m.exports.map fun n => { name := n }) 1) ++ offers) =
        group.map (·.importLine) ++ Stmt.blockLines 0 offers := by
    induction group with
    | nil => rfl
    | cons m group ih =>
        rw [List.map_cons, List.cons_append, Stmt.blockLines, lines_import, ih]
        rfl
  rw [packageModule, hlines, Stmt.blockLines, lines_offers]
  rfl

theorem code_packageModule (apiName : String) (group : List ClientModule) :
    (packageModule apiName group).code ++ "\n" = packageText group := by
  have hdocstring : Stmt.line 0
      (Stmt.renderDocstring (CodePoint.ofString packageDocstring) false) =
      "\"\"\"Generated API clients.\"\"\"" := by decide
  have hlines : Stmt.bodyLines 0 (documentation (some packageDocstring) ++
      (packageModule apiName group).body) = "\"\"\"Generated API clients.\"\"\"" ::
        (group.map (·.importLine) ++ [offersLine (group.flatMap (·.exports))]) := by
    rw [← blockLines_packageModule apiName group, ← hdocstring]
    rfl
  have htext (lines : List String) : textOfLines ("\"\"\"Generated API clients.\"\"\"" :: lines) =
      "\n".intercalate ("\"\"\"Generated API clients.\"\"\"" :: lines) := rfl
  change renderStatements (documentation (some packageDocstring) ++
    (packageModule apiName group).body) ++ "\n" = packageText group
  rw [renderStatements, hlines, htext, packageText]

theorem text_eq_of_ok {o : OutputModule} {text : String} (h : o.text = .ok text) :
    text = o.code ++ "\n" := by
  unfold OutputModule.text at h
  simp only at h
  split at h
  · cases h
  · unfold renderModule at h
    simp only at h
    split at h
    · cases h
    · split at h <;> cases h
      rfl

/-- The texts that are collected, if none of the modules is refused. -/
theorem texts_of_putAll {state : Collected} {ms : List OutputModule} {outs : List String}
    (h : (collecting.putAll state ms).1.result = .ok outs) :
    outs = ms.map fun m => m.code ++ "\n" := by
  induction ms generalizing state outs with
  | nil =>
      cases h
      rfl
  | cons m ms ih =>
      cases htext : m.text with
      | error e =>
          rw [(Sink.putAll_cons_error ms (put_collecting_of_error state htext).1).1] at h
          cases h
      | ok text =>
          rw [(Sink.putAll_cons_ok ms (put_collecting_of_ok state htext).1).1, map_eq_ok_iff] at h
          obtain ⟨outs', hlater, rfl⟩ := h
          rw [List.map_cons, ← ih hlater, text_eq_of_ok htext]

/-! ### Putting packages out -/

/-- Where no folder has two client modules of one name, the packages are put out in the same way for
every order of the client modules: with the same results, the same errors and the same state after
it. There is one package for each folder, in the order of the folders. It takes the clients of every
module of its folder from that module, in the order of the modules' names, and offers just these
clients. Its text says so line by line. -/
theorem putAll_packageModules_of_perm {ms ms' : List ClientModule}
    (hnames : (ms.map fun m => (m.apiName, m.moduleName)).Nodup) (hperm : ms.Perm ms') :
    (∀ {σ : Type} (sink : Sink σ) (state : σ),
      sink.putAll state (packageModules ms) = sink.putAll state (packageModules ms')) ∧
    ∃ groups, IsGrouping ms groups ∧
      packageModules ms = groups.map (fun g => packageModule g.1 g.2) ∧
      (∀ g ∈ groups,
        (packageModule g.1 g.2).bindings =
          g.2.flatMap (fun m => m.exports.map fun name => (name, m.member name)) ∧
        (packageModule g.1 g.2).offered = g.2.flatMap (·.exports)) ∧
      ∀ (state : Collected) (outs : List String),
        (collecting.putAll state (packageModules ms)).1.result = .ok outs →
          outs = groups.map fun g => packageText g.2 := by
  constructor
  · intro σ sink state
    rw [packageModules, packageModules, packageGroups_eq_of_perm hnames hperm]
  · refine ⟨packageGroups ms, isGrouping_packageGroups hnames, rfl, fun g _ => ?_, ?_⟩
    · exact ⟨bindings_packageModule g.1 g.2, offered_packageModule g.1 g.2⟩
    · intro state outs h
      rw [texts_of_putAll h, packageModules, List.map_map]
      exact List.map_congr_left fun g _ => code_packageModule g.1 g.2

/-- A client module of a folder, with one client. -/
def moduleOf (apiName moduleName client : String) : ClientModule :=
  { apiName, moduleName, body := [], exports := [client] }

/-- Modules of two folders, in the order of the folders and of their names. -/
def orderedModules : List ClientModule :=
  [moduleOf "desk" "log" "Log", moduleOf "shop" "ale" "Ale", moduleOf "shop" "tea" "Tea"]

theorem packageModules_ordered : packageModules orderedModules =
    [packageModule "desk" (orderedModules.take 1), packageModule "shop" (orderedModules.drop 1)] := by
  have hfolders : folders orderedModules = ["desk", "shop"] := List.mergeSort_of_pairwise (by decide)
  have hdesk : sortedBy (·.moduleName) (orderedModules.filter (·.apiName == "desk")) =
      orderedModules.take 1 := List.mergeSort_of_pairwise (by decide)
  have hshop : sortedBy (·.moduleName) (orderedModules.filter (·.apiName == "shop")) =
      orderedModules.drop 1 := List.mergeSort_of_pairwise (by decide)
  rw [packageModules, packageGroups_eq, hfolders]
  simp only [List.map_cons, List.map_nil, hdesk, hshop]

/-- The modules in the opposite order give the two packages in the same order. -/
theorem putAll_packageModules_of_perm_ordered :
    orderedModules.Perm orderedModules.reverse ∧ ∃ outs,
      (collecting.putAll [] (packageModules orderedModules)).1.result = .ok outs ∧
      (collecting.putAll [] (packageModules orderedModules.reverse)).1.result = .ok outs ∧
      outs.length = 2 := by
  have hperm : orderedModules.Perm orderedModules.reverse := (List.reverse_perm _).symm
  obtain ⟨hsame, groups, hgroups, hmodules, -, htexts⟩ :=
    putAll_packageModules_of_perm (by decide) hperm
  have hok : ∃ outs, (collecting.putAll [] (packageModules orderedModules)).1.result = .ok outs := by
    rw [packageModules_ordered]
    refine exists_of_isOk ?_
    have hdesk : (packageModule "desk" (orderedModules.take 1)).text.isOk = true := by decide +kernel
    have hshop : (packageModule "shop" (orderedModules.drop 1)).text.isOk = true := by decide +kernel
    simpa using ⟨hdesk, hshop⟩
  obtain ⟨outs, houts⟩ := hok
  refine ⟨hperm, outs, houts, hsame collecting [] ▸ houts, ?_⟩
  have hlength := congrArg List.length hmodules
  rw [packageModules_ordered, List.length_map] at hlength
  rw [htexts [] outs houts, List.length_map, ← hlength]
  rfl

end TypedClients
