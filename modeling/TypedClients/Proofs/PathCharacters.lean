import TypedClients.Proofs.PathOrder

/-!
# The characters of paths

Apart from slashes and dots, a path has the characters of its names. They stay when the path is read
and when it is written, and each step from a path to another one can be followed character by
character.
-/
namespace TypedClients

open TypedClients.Text

/-! ### Parts of texts -/

section

variable {separator c : Char} {cs : List Char}

theorem mem_splitOn (h : c ∈ cs) (hne : c ≠ separator) :
    ∃ part ∈ splitOn separator cs, c ∈ part := by
  rw [← joinWith_splitOn separator cs] at h
  generalize splitOn separator cs = parts at h
  induction parts using joinWith.induct with
  | case1 => simp [joinWith] at h
  | case2 part => exact ⟨part, by simp, h⟩
  | case3 part parts hparts ih =>
      simp only [joinWith, List.mem_append, List.mem_singleton] at h
      rcases h with (h | h) | h
      · exact ⟨part, by simp, h⟩
      · exact absurd h hne
      · obtain ⟨part', hmem, hc⟩ := ih h
        exact ⟨part', .tail _ hmem, hc⟩

theorem mem_of_mem_splitOn {part : List Char} (hpart : part ∈ splitOn separator cs)
    (h : c ∈ part) : c ∈ cs := by
  rw [← joinWith_splitOn separator cs]
  generalize splitOn separator cs = parts at hpart
  induction parts using joinWith.induct with
  | case1 => cases hpart
  | case2 only => rwa [joinWith, ← List.mem_singleton.mp hpart]
  | case3 first parts hparts ih =>
      rw [joinWith.eq_3 _ _ _ hparts, List.mem_append, List.mem_append]
      rcases List.mem_cons.mp hpart with rfl | hpart
      · exact .inl (.inl h)
      · exact .inr (ih hpart)

theorem mem_intercalate_iff {names : List String} (hslash : c ≠ '/') :
    c ∈ ("/".intercalate names).toList ↔ ∃ name ∈ names, c ∈ name.toList := by
  cases names with
  | nil => simp
  | cons first names =>
      have hslashed : c ∈ slashed (first :: names) ↔
          c ∈ ("/".intercalate (first :: names)).toList := by
        rw [slashed_eq (List.cons_ne_nil _ _), List.mem_cons, or_iff_right hslash]
      simp only [← hslashed, slashed, List.mem_flatMap, List.mem_cons, hslash, false_or]

end

/-- A path of names without null characters has none. -/
theorem null_notMem_path {names : List String} (h : ∀ name ∈ names, IsFileName name) :
    Char.ofNat 0 ∉ ("/".intercalate names).toList := by
  rw [mem_intercalate_iff (by decide)]
  rintro ⟨name, hname, hnull⟩
  exact (h name hname).nullless hnull

/-! ### Paths -/

namespace Text.Path

/-- A character of one of the names of a path. -/
def Spells (p : Path) (c : Char) : Prop := ∃ name ∈ p.parts, c ∈ name.toList

/-- The root of a path that is read, or of one that is made from such paths: slashes only. -/
def HasPlainRoot (p : Path) : Prop := ∀ c ∈ p.root.toList, c = '/'

theorem hasPlainRoot_ofString (text : String) : (Path.ofString text).HasPlainRoot := by
  change ∀ c ∈ (Path.rootOf text.toList).toList, c = '/'
  unfold Path.rootOf
  split <;> simp

variable {c : Char} {p q : Path}

theorem spells_ofString_iff {text : String} (hslash : c ≠ '/') (hdot : c ≠ '.') :
    (Path.ofString text).Spells c ↔ c ∈ text.toList := by
  simp only [Spells, Path.ofString, List.mem_filter, List.mem_map, decide_eq_true_eq]
  constructor
  · rintro ⟨_, ⟨⟨part, hpart, rfl⟩, -⟩, hc⟩
    exact mem_of_mem_splitOn hpart (by simpa using hc)
  · intro hc
    obtain ⟨part, hpart, hc⟩ := mem_splitOn hc hslash
    refine ⟨_, ⟨⟨part, hpart, rfl⟩, ?_, ?_⟩, by simpa using hc⟩
    · intro h
      rw [show part = [] by simpa using congrArg String.toList h] at hc
      cases hc
    · intro h
      rw [show part = ['.'] by simpa using congrArg String.toList h] at hc
      exact hdot (List.mem_singleton.mp hc)

theorem mem_toString_iff (hp : p.HasPlainRoot) (hslash : c ≠ '/') (hdot : c ≠ '.') :
    c ∈ p.toString.toList ↔ p.Spells c := by
  rw [Path.toString]
  split
  · rename_i hempty
    simp [Spells, hempty.2, hdot]
  · rw [String.toList_append, List.mem_append, mem_intercalate_iff hslash]
    exact or_iff_right fun hc => hslash (hp c hc)

theorem hasPlainRoot_join (hp : p.HasPlainRoot) (hq : q.HasPlainRoot) :
    (p.join q).HasPlainRoot := by
  unfold Path.join
  split
  · exact hp
  · exact hq

theorem spells_of_join (h : (p.join q).Spells c) : p.Spells c ∨ q.Spells c := by
  unfold Path.join at h
  split at h
  · obtain ⟨name, hname, hc⟩ := h
    exact (List.mem_append.mp hname).imp (fun h => ⟨name, h, hc⟩) fun h => ⟨name, h, hc⟩
  · exact .inr h

theorem Spells.join (h : q.Spells c) : (p.join q).Spells c := by
  unfold Path.join
  split
  · obtain ⟨name, hname, hc⟩ := h
    exact ⟨name, List.mem_append_right _ hname, hc⟩
  · exact h

variable {folder file : String}

theorem mem_join (hc : c ∈ file.toList) (hslash : c ≠ '/') (hdot : c ≠ '.') :
    c ∈ ((Path.ofString folder).join (Path.ofString file)).toString.toList := by
  rw [mem_toString_iff (hasPlainRoot_join (hasPlainRoot_ofString _) (hasPlainRoot_ofString _))
    hslash hdot]
  exact ((spells_ofString_iff hslash hdot).mpr hc).join

theorem mem_of_mem_join
    (hc : c ∈ ((Path.ofString folder).join (Path.ofString file)).toString.toList)
    (hslash : c ≠ '/') (hdot : c ≠ '.') : c ∈ folder.toList ∨ c ∈ file.toList := by
  rw [mem_toString_iff (hasPlainRoot_join (hasPlainRoot_ofString _) (hasPlainRoot_ofString _))
    hslash hdot] at hc
  exact (spells_of_join hc).imp (spells_ofString_iff hslash hdot).mp
    (spells_ofString_iff hslash hdot).mp

/-! ### File names -/

theorem spells_of_fileName (h : c ∈ p.fileName.toList) : p.Spells c := by
  unfold Path.fileName at h
  cases hlast : p.parts.getLast? with
  | none => simp [hlast] at h
  | some name => exact ⟨name, List.mem_of_getLast? hlast, by simpa [hlast] using h⟩

theorem mem_of_splitExtension {name : String} (h : c ∈ (Path.splitExtension name).1.toList) :
    c ∈ name.toList := by
  unfold Path.splitExtension at h
  simp only at h
  split at h
  · rw [String.toList_ofList] at h
    exact List.mem_of_mem_take h
  · exact h

/-- A path with a character that is no slash and no dot has a file name. -/
theorem fileName_ne_empty {path : String} (hc : c ∈ path.toList) (hslash : c ≠ '/')
    (hdot : c ≠ '.') : (Path.ofString path).fileName ≠ "" := by
  obtain ⟨part, hpart, -⟩ := (spells_ofString_iff hslash hdot).mpr hc
  cases hlast : (Path.ofString path).parts.getLast? with
  | none => simp [List.getLast?_eq_none_iff.mp hlast] at hpart
  | some last =>
      have hkept := (List.mem_filter.mp (List.mem_of_getLast? hlast)).2
      simpa [Path.fileName, hlast] using And.left (by simpa using hkept)

/-- What is left of a path without its extension has no other characters. -/
theorem mem_of_withoutExtension {text : String}
    (h : (Path.ofString text).withoutExtension? = some q) (hc : c ∈ q.toString.toList)
    (hslash : c ≠ '/') (hdot : c ≠ '.') : c ∈ text.toList := by
  rw [← spells_ofString_iff hslash hdot]
  unfold Path.withoutExtension? at h
  split at h
  · cases h
  have hroot : q.HasPlainRoot := Option.some.inj h ▸ hasPlainRoot_ofString text
  rw [mem_toString_iff hroot hslash hdot] at hc
  cases h
  obtain ⟨name, hname, hc⟩ := hc
  rcases List.mem_append.mp hname with hname | hname
  · exact ⟨name, List.dropLast_subset _ hname, hc⟩
  · rw [List.mem_singleton.mp hname] at hc
    exact spells_of_fileName (mem_of_splitExtension hc)

end Text.Path

end TypedClients
