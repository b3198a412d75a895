import Mathlib.Data.List.Induction
import TypedClients.FileTree
import TypedClients.Proofs.Sequencing

/-!
# Folders that are made on the way

A tree grows by the folders that are made in it, and everything else stays as it is. Where a folder
can be made, so can the folders below it, as long as no file is in the way and the names are no
longer than the system takes.
-/
namespace TypedClients

open TypedClients.Text

namespace FileTree

variable {t t' t'' : FileTree} {p : Path} {place other : List String}

/-! ### Nodes -/

theorem node?_set_of_ne {node : FileNode} (h : other ≠ place) :
    (t.set place node).node? other = t.node? other := by
  simp only [node?, set, Dictionary.get?_insert, if_neg h]

theorem node?_set_folder : (t.set place .folder).node? place = some .folder := by
  simp only [node?, set, Dictionary.get?_insert_self, ite_self]

theorem node?_set_file {bytes : List UInt8} (h : t.node? place ≠ some .folder) :
    (t.set place (.file bytes)).node? place = some (.file bytes) := by
  simp only [node?, set, Dictionary.get?_insert_self]
  exact if_neg fun hhere => h (by rw [node?, if_pos hhere])

theorem get?_eq_none_of_node? (h : t.node? place = none) : t.nodes.get? place = none := by
  unfold node? at h
  split at h
  · cases h
  · exact h

/-! ### Trees that have grown -/

/-- A tree and what it is after some folders have been made: nothing else is new. -/
structure Grows (t t' : FileTree) : Prop where
  here : t'.here = t.here
  kept : ∀ {place node}, t.node? place = some node → t'.node? place = some node
  new : ∀ {place node}, t.node? place = none → t'.node? place = some node → node = .folder
  files : ∀ {place bytes}, t'.nodes.get? place = some (.file bytes) ↔
    t.nodes.get? place = some (.file bytes)
  places : t.nodes.keys.Nodup → t'.nodes.keys.Nodup

theorem Grows.refl (t : FileTree) : t.Grows t where
  here := rfl
  kept h := h
  new h h' := by rw [h] at h'; cases h'
  files := Iff.rfl
  places h := h

theorem Grows.trans (h : t.Grows t') (h' : t'.Grows t'') : t.Grows t'' where
  here := h'.here.trans h.here
  kept hnode := h'.kept (h.kept hnode)
  new {place node} hnone hnode := by
    cases hbetween : t'.node? place with
    | none => exact h'.new hbetween hnode
    | some between =>
        cases hnode.symm.trans (h'.kept hbetween)
        exact h.new hnone hbetween
  files := h'.files.trans h.files
  places hplaces := h'.places (h.places hplaces)

theorem nodup_keys_insert {κ α : Type} [DecidableEq κ] {d : Dictionary κ α} (h : d.keys.Nodup)
    (key : κ) (value : α) : (d.insert key value).keys.Nodup := by
  rw [Dictionary.keys_insert]
  split
  · exact h
  · rename_i hnew
    refine List.nodup_append.mpr ⟨h, List.pairwise_singleton _ _, fun a ha b hb hab => hnew ?_⟩
    rwa [← List.mem_singleton.mp hb, ← hab]

/-- A tree grows by a folder where there is nothing. -/
theorem grows_set_folder (h : t.node? place = none) : t.Grows (t.set place .folder) where
  here := rfl
  kept {other node} hnode := by
    rwa [node?_set_of_ne]
    rintro rfl
    rw [h] at hnode
    cases hnode
  new {other node} hnone hnode := by
    by_cases hother : other = place
    · rw [hother, node?_set_folder] at hnode
      exact (Option.some.inj hnode).symm
    · rw [node?_set_of_ne hother, hnone] at hnode
      cases hnode
  files {other bytes} := by
    change (t.nodes.insert place .folder).get? other = _ ↔ _
    rw [Dictionary.get?_insert]
    split
    · rename_i hother
      rw [hother, get?_eq_none_of_node? h]
      simp
    · exact Iff.rfl
  places hplaces := nodup_keys_insert hplaces _ _

/-- A tree and one that has its folders, in the same places. -/
structure KeepsFolders (t t' : FileTree) : Prop where
  here : t'.here = t.here
  kept : ∀ {place}, t.node? place = some .folder → t'.node? place = some .folder

theorem Grows.keepsFolders (h : t.Grows t') : t.KeepsFolders t' := ⟨h.here, h.kept⟩

theorem keepsFolders_set_file {bytes : List UInt8} (h : t.node? place ≠ some .folder) :
    t.KeepsFolders (t.set place (.file bytes)) where
  here := rfl
  kept {other} hother := by
    rwa [node?_set_of_ne]
    rintro rfl
    exact h hother

/-! ### Places -/

theorem walk_append (start names names' : List String) :
    t.walk start (names ++ names') = t.walk start names >>= fun place => t.walk place names' := by
  induction names generalizing start with
  | nil => rfl
  | cons name names ih =>
      rw [List.cons_append, walk, walk]
      split
      · rfl
      · rfl
      · split
        · exact ih _
        · split
          · rfl
          · exact ih _

theorem KeepsFolders.walk_eq_ok (h : t.KeepsFolders t') {start names : List String}
    (hwalk : t.walk start names = .ok place) : t'.walk start names = .ok place := by
  induction names generalizing start with
  | nil => exact hwalk
  | cons name names ih =>
      rw [walk] at hwalk ⊢
      split at hwalk
      · cases hwalk
      · cases hwalk
      · rename_i hnode
        rw [h.kept hnode]
        split at hwalk
        · rename_i hup
          simpa only [if_pos hup] using ih hwalk
        · rename_i hup
          split at hwalk
          · cases hwalk
          · rename_i hsize
            simpa only [if_neg hup, if_neg hsize] using ih hwalk

theorem KeepsFolders.place_eq_ok (h : t.KeepsFolders t') (hplace : t.place p = .ok place) :
    t'.place p = .ok place := by
  unfold FileTree.place at hplace ⊢
  split at hplace
  · cases hplace
  · rename_i hsize
    rw [if_neg hsize, h.here]
    exact h.walk_eq_ok hplace

/-- A path leads to a folder at a place. -/
structure HasFolder (t : FileTree) (p : Path) (place : List String) : Prop where
  path : t.place p = .ok place
  node : t.node? place = some .folder

theorem KeepsFolders.hasFolder (h : t.KeepsFolders t') (hfolder : t.HasFolder p place) :
    t'.HasFolder p place :=
  ⟨h.place_eq_ok hfolder.path, h.kept hfolder.node⟩

theorem isFolder_iff : t.isFolder p = true ↔ ∃ place, t.HasFolder p place := by
  constructor
  · intro h
    unfold isFolder find at h
    cases hplace : t.place p with
    | error e => simp [hplace, bind, Except.bind] at h
    | ok place =>
        refine ⟨place, hplace, ?_⟩
        cases hnode : t.node? place with
        | none => simp [hplace, hnode, bind, Except.bind, throw, throwThe, MonadExceptOf.throw] at h
        | some node =>
            cases node with
            | folder => rfl
            | file bytes => simp [hplace, hnode, bind, Except.bind, pure, Except.pure] at h
  · rintro ⟨place, hplace, hnode⟩
    simp [isFolder, find, hplace, hnode, bind, Except.bind, pure, Except.pure]

/-- A name that can follow a folder in a path: it does not lead back, and is not too long. -/
structure FitsBelow (p : Path) (name : String) : Prop where
  down : name ≠ ".."
  size : name.utf8ByteSize ≤ maxNameSize
  pathSize : (⟨p.root, p.parts ++ [name]⟩ : Path).toString.utf8ByteSize ≤ maxPathSize

theorem place_append {names : List String}
    (hsize : p.toString.utf8ByteSize ≤ maxPathSize)
    (hsize' : (⟨p.root, p.parts ++ names⟩ : Path).toString.utf8ByteSize ≤ maxPathSize) :
    t.place ⟨p.root, p.parts ++ names⟩ = t.place p >>= fun place => t.walk place names := by
  rw [FileTree.place, if_neg (Nat.not_lt.mpr hsize'), FileTree.place, if_neg (Nat.not_lt.mpr hsize)]
  exact walk_append _ _ _

theorem size_of_place_eq_ok (h : t.place p = .ok place) :
    p.toString.utf8ByteSize ≤ maxPathSize := by
  unfold FileTree.place at h
  split at h
  · cases h
  · rename_i hsize
    exact Nat.not_lt.mp hsize

theorem place_child {name : String} (hfolder : t.HasFolder p place) (hname : FitsBelow p name) :
    t.place ⟨p.root, p.parts ++ [name]⟩ = .ok (place ++ [name]) := by
  rw [place_append (size_of_place_eq_ok hfolder.path) hname.pathSize, hfolder.path]
  change t.walk place [name] = _
  rw [walk, hfolder.node]
  simp only [if_neg hname.down, if_neg (Nat.not_lt.mpr hname.size)]
  rfl

/-! ### Making folders -/

theorem makeFolder_of_place (hplace : t.place p = .ok place) :
    t.makeFolder p = match t.node? place with
      | some _ => .error .alreadyExists
      | none => .ok (t.set place .folder) := by
  unfold makeFolder
  rw [hplace]
  change (match t.node? place with | some _ => _ | none => _) = _
  cases t.node? place <;> rfl

theorem makeFolder_of_error {e : SystemError} (hplace : t.place p = .error e) :
    t.makeFolder p = .error e := by
  unfold makeFolder
  rw [hplace]
  rfl

theorem acceptFolder_of_isFolder (e : SystemError) (h : t.isFolder p = true) :
    t.acceptFolder p (.error e) = .ok t := if_pos h

theorem acceptFolder_of_not_isFolder (e : SystemError) (h : ¬ t.isFolder p = true) :
    t.acceptFolder p (.error e) = .error (e, p) := if_neg h

/-- A folder that is made, or there already, is there afterwards, and nothing else is new. -/
theorem hasFolder_of_acceptFolder (h : t.acceptFolder p (t.makeFolder p) = .ok t') :
    ∃ place, t'.HasFolder p place ∧ t.Grows t' := by
  cases hplace : t.place p with
  | error e =>
      rw [makeFolder_of_error hplace] at h
      by_cases hfolder : t.isFolder p = true
      · obtain ⟨place, hhas⟩ := isFolder_iff.mp hfolder
        rw [hhas.path] at hplace
        cases hplace
      · rw [acceptFolder_of_not_isFolder _ hfolder] at h
        cases h
  | ok place =>
      rw [makeFolder_of_place hplace] at h
      cases hnode : t.node? place with
      | none =>
          rw [hnode] at h
          cases h
          have hgrows := grows_set_folder hnode
          exact ⟨place, ⟨hgrows.keepsFolders.place_eq_ok hplace, node?_set_folder⟩, hgrows⟩
      | some node =>
          rw [hnode] at h
          by_cases hfolder : t.isFolder p = true
          · obtain ⟨place, hhas⟩ := isFolder_iff.mp hfolder
            rw [acceptFolder_of_isFolder _ hfolder] at h
            cases h
            exact ⟨place, hhas, Grows.refl _⟩
          · rw [acceptFolder_of_not_isFolder _ hfolder] at h
            cases h

section

variable {root name : String} {names : List String}

theorem makeFolders_of_notFound
    (h : t.makeFolder ⟨root, names ++ [name]⟩ = .error .notFound) :
    t.makeFolders ⟨root, names ++ [name]⟩ = t.makeFolders ⟨root, names⟩ >>= fun mid =>
      mid.acceptFolder ⟨root, names ++ [name]⟩ (mid.makeFolder ⟨root, names ++ [name]⟩) := by
  simp only [makeFolders, List.reverse_append, List.reverse_cons, List.reverse_nil, List.nil_append,
    List.singleton_append, makeFoldersFrom, List.reverse_reverse, h]

theorem makeFolders_of_ne_notFound
    (h : t.makeFolder ⟨root, names ++ [name]⟩ ≠ .error .notFound) :
    t.makeFolders ⟨root, names ++ [name]⟩ =
      t.acceptFolder ⟨root, names ++ [name]⟩ (t.makeFolder ⟨root, names ++ [name]⟩) := by
  simp only [makeFolders, List.reverse_append, List.reverse_cons, List.reverse_nil, List.nil_append,
    List.singleton_append, makeFoldersFrom, List.reverse_reverse]

end

/-- Folders that are made are there afterwards, and nothing else is new. -/
theorem hasFolder_of_makeFolders (h : t.makeFolders p = .ok t') :
    ∃ place, t'.HasFolder p place ∧ t.Grows t' := by
  obtain ⟨root, names⟩ := p
  induction names using List.reverseRecOn generalizing t' with
  | nil => exact hasFolder_of_acceptFolder h
  | append_singleton names name ih =>
      by_cases hnotFound : t.makeFolder ⟨root, names ++ [name]⟩ = .error .notFound
      · rw [makeFolders_of_notFound hnotFound] at h
        obtain ⟨mid, hmid, h⟩ := bind_eq_ok_iff.mp h
        obtain ⟨-, -, hgrows⟩ := ih hmid
        obtain ⟨place, hfolder, hgrows'⟩ := hasFolder_of_acceptFolder h
        exact ⟨place, hfolder, hgrows.trans hgrows'⟩
      · rw [makeFolders_of_ne_notFound hnotFound] at h
        exact hasFolder_of_acceptFolder h

/-- A folder that is there already is left alone. -/
theorem makeFolders_of_hasFolder (h : t.HasFolder p place) : t.makeFolders p = .ok t := by
  have hmake : t.makeFolder p = .error .alreadyExists := by
    rw [makeFolder_of_place h.path, h.node]
  have haccept : t.acceptFolder p (t.makeFolder p) = .ok t := by
    rw [hmake]
    exact acceptFolder_of_isFolder _ (isFolder_iff.mpr ⟨place, h⟩)
  obtain ⟨root, names⟩ := p
  cases names using List.reverseRecOn with
  | nil => exact haccept
  | append_singleton names name =>
      rw [makeFolders_of_ne_notFound (by rw [hmake]; simp)]
      exact haccept

/-- What keeps a folder from being made, other than that one around it is missing, is final. -/
theorem makeFolders_of_error {e : SystemError} (hmake : t.makeFolder p = .error e)
    (he : e ≠ .notFound) (hfolder : ¬ t.isFolder p = true) :
    t.makeFolders p = .error (e, p) := by
  have haccept : t.makeFolders p = t.acceptFolder p (t.makeFolder p) := by
    obtain ⟨root, names⟩ := p
    cases names using List.reverseRecOn with
    | nil => rfl
    | append_singleton names name =>
        refine makeFolders_of_ne_notFound ?_
        rw [hmake]
        exact fun h => he (Except.error.inj h)
  rw [haccept, hmake, acceptFolder_of_not_isFolder _ hfolder]

/-- Where a folder can be made that is not there, nothing is there, or nothing that is around it. -/
theorem missing_of_makeFolders (h : t.makeFolders p = .ok t') (hfolder : ¬ t.isFolder p = true) :
    t.place p = .error .notFound ∨ ∃ place, t.place p = .ok place ∧ t.node? place = none := by
  cases hplace : t.place p with
  | error e =>
      refine .inl (congrArg _ ?_)
      by_contra he
      rw [makeFolders_of_error (makeFolder_of_error hplace) he hfolder] at h
      cases h
  | ok place =>
      refine .inr ⟨place, rfl, ?_⟩
      cases hnode : t.node? place with
      | none => rfl
      | some node =>
          have hmake : t.makeFolder p = .error .alreadyExists := by
            rw [makeFolder_of_place hplace, hnode]
          rw [makeFolders_of_error hmake (by simp) hfolder] at h
          cases h

/-- A folder below one that can be made is made in the tree that has that one. -/
theorem makeFolders_child {mid : FileTree} {name : String} (hmid : t.makeFolders p = .ok mid)
    (hfolder : mid.HasFolder p place) (hname : FitsBelow p name) :
    t.makeFolders ⟨p.root, p.parts ++ [name]⟩ = mid.acceptFolder ⟨p.root, p.parts ++ [name]⟩
      (mid.makeFolder ⟨p.root, p.parts ++ [name]⟩) := by
  by_cases hthere : t.isFolder p = true
  · obtain ⟨place', hthere⟩ := isFolder_iff.mp hthere
    obtain rfl : t = mid := Except.ok.inj ((makeFolders_of_hasFolder hthere).symm.trans hmid)
    refine makeFolders_of_ne_notFound ?_
    rw [makeFolder_of_place (place_child hfolder hname)]
    cases t.node? (place ++ [name]) <;> simp
  · have hmissing : t.place ⟨p.root, p.parts ++ [name]⟩ = .error .notFound := by
      rw [place_append (size_of_place_eq_ok hfolder.path) hname.pathSize]
      rcases missing_of_makeFolders hmid hthere with hplace | ⟨place', hplace, hnode⟩
      · rw [hplace]
        rfl
      · rw [hplace]
        change t.walk place' [name] = _
        rw [walk, hnode]
    rw [makeFolders_of_notFound (makeFolder_of_error hmissing), hmid]
    rfl

/-- Names that can follow a folder one after the other. -/
def FitBelow (p : Path) (names : List String) : Prop :=
  ∀ front name, front ++ [name] <+: names → FitsBelow ⟨p.root, p.parts ++ front⟩ name

/-- No file is in the way of folders below a place. -/
def IsFreeFor (t : FileTree) (place names : List String) : Prop :=
  ∀ front, front <+: names → ∀ bytes, t.node? (place ++ front) ≠ some (.file bytes)

/-- Folders below one that can be made can be made as well; besides them nothing is new. -/
theorem makeFolders_below {made : FileTree} {names : List String}
    (hmade : t.makeFolders p = .ok made) (hfolder : made.HasFolder p place)
    (hfit : FitBelow p names) (hfree : made.IsFreeFor place names) :
    ∃ after, t.makeFolders ⟨p.root, p.parts ++ names⟩ = .ok after ∧
      after.HasFolder ⟨p.root, p.parts ++ names⟩ (place ++ names) ∧ made.Grows after ∧
      ∀ other, made.node? other = none → after.node? other ≠ none →
        ∃ front, front <+: names ∧ other = place ++ front := by
  induction names using List.reverseRecOn with
  | nil =>
      refine ⟨made, ?_, ?_, .refl made, fun other h h' => absurd h h'⟩
      · simpa using hmade
      · simpa using hfolder
  | append_singleton names name ih =>
      have hstart {front} (h : front <+: names) : front <+: names ++ [name] :=
        h.trans (List.prefix_append _ _)
      obtain ⟨mid, hmid, hmidFolder, hgrows, hnew⟩ :=
        ih (fun front name h => hfit front name (hstart h)) fun front h => hfree front (hstart h)
      have hname : FitsBelow ⟨p.root, p.parts ++ names⟩ name := hfit names name List.prefix_rfl
      have hmake := makeFolders_child hmid hmidFolder hname
      have hchild := place_child hmidFolder hname
      simp only [List.append_assoc] at hmake hchild
      rw [makeFolder_of_place hchild] at hmake
      cases hnode : mid.node? (place ++ (names ++ [name])) with
      | none =>
          rw [hnode] at hmake
          have hset := grows_set_folder hnode
          refine ⟨_, hmake, ⟨hset.keepsFolders.place_eq_ok hchild, node?_set_folder⟩,
            hgrows.trans hset, fun other h h' => ?_⟩
          by_cases hother : other = place ++ (names ++ [name])
          · exact ⟨_, List.prefix_rfl, hother⟩
          · rw [node?_set_of_ne hother] at h'
            obtain ⟨front, hfront, heq⟩ := hnew other h h'
            exact ⟨front, hstart hfront, heq⟩
      | some node =>
          have hhas : mid.HasFolder ⟨p.root, p.parts ++ (names ++ [name])⟩
              (place ++ (names ++ [name])) := by
            refine ⟨hchild, ?_⟩
            rw [hnode]
            cases node with
            | folder => rfl
            | file bytes =>
                cases hbefore : made.node? (place ++ (names ++ [name])) with
                | none => cases hgrows.new hbefore hnode
                | some before =>
                    cases hnode.symm.trans (hgrows.kept hbefore)
                    exact absurd hbefore (hfree _ List.prefix_rfl bytes)
          rw [hnode, acceptFolder_of_isFolder _ (isFolder_iff.mpr ⟨_, hhas⟩)] at hmake
          refine ⟨mid, hmake, hhas, hgrows, fun other h h' => ?_⟩
          obtain ⟨front, hfront, heq⟩ := hnew other h h'
          exact ⟨front, hstart hfront, heq⟩

/-! ### Writing files -/

theorem writeFile_of_place (hplace : t.place p = .ok place) (hnode : t.node? place ≠ some .folder)
    (bytes : List UInt8) : t.writeFile p bytes = .ok (t.set place (.file bytes)) := by
  simp only [writeFile, hplace, bind, Except.bind]
  rfl

end FileTree

end TypedClients
