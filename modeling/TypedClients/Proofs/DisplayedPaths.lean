import TypedClients.Proofs.EmittedPaths
import TypedClients.Proofs.PathTexts

/-!
# Paths as they are shown

The path of a route is its segments, each one as it is shown, and can be read again. A literal segment
and a parameter with nothing left out after its name are read as before. Where a constraint has been left
out, the name stands next to what came after the constraint: if the name goes on there, or another
constraint begins, the segment that is read is another one. So a path shows the segments of a route
exactly where no constraint stands in such a place: `segments_of_shown_path`.
-/
namespace TypedClients

open TypedClients.Text

/-! ### Parts -/

namespace PathPart

/-- A part as it is shown in a path. -/
def shown : PathPart → List Char
  | literal text => text.toList
  | parameter name ending => ':' :: name.toList ++ ending.toList

/-- A part in which no constraint keeps two things apart that are read as one without it: what comes
after a constraint neither goes on with the name before it nor begins with a constraint itself. -/
def StaysApart (cs : List Char) : Prop :=
  ∀ name dropped ending, Names cs name (dropped ++ ending) → Constraint dropped ending →
    dropped ≠ [] → (∀ c ∈ ending.head?, isPlainNameChar c = false) ∧ Constraint [] ending

variable {cs name dropped ending : List Char}

/-- What is shown of a parameter is read as the same parameter exactly where its name ends there as well
and no constraint follows. -/
theorem ofText_shown_parameter_iff (h : Names cs name (dropped ++ ending)) (hline : '\n' ∉ cs) :
    ofText (':' :: name ++ ending) = .parameter (String.ofList name) (String.ofList ending) ↔
      (∀ c ∈ ending.head?, isPlainNameChar c = false) ∧ Constraint [] ending := by
  have hshown : '\n' ∉ ':' :: name ++ ending := by
    rw [h.text] at hline
    simp only [List.cons_append, List.mem_cons, List.mem_append, not_or] at hline ⊢
    exact ⟨hline.1, hline.2.1, hline.2.2.2⟩
  constructor
  · intro hread
    obtain ⟨name', dropped', ending', hnames, hdrop, hname, hending⟩ := ofText_eq_parameter hshown hread
    obtain rfl := String.ofList_injective hname
    obtain rfl := String.ofList_injective hending
    have hnone : dropped' = [] :=
      List.self_eq_append_left.mp (List.append_cancel_left hnames.text)
    subst hnone
    exact ⟨hnames.longest, hdrop⟩
  · rintro ⟨hlongest, hdrop⟩
    have hnames : Names (':' :: name ++ ending) name ([] ++ ending) := ⟨rfl, h.plain, hlongest⟩
    exact ofText_of_names hnames hdrop hshown

/-- A part has one name and one constraint, so that it is enough to look at these. -/
theorem staysApart_iff (h : Names cs name (dropped ++ ending)) (hdrop : Constraint dropped ending)
    (hline : '\n' ∉ cs) :
    StaysApart cs ↔ (∀ c ∈ ending.head?, isPlainNameChar c = false) ∧ Constraint [] ending := by
  constructor
  · intro happart
    by_cases hnone : dropped = []
    · subst hnone
      exact ⟨h.longest, hdrop⟩
    · exact happart name dropped ending h hdrop hnone
  · intro hends name' dropped' ending' h' hdrop' _
    have hsame := (ofText_of_names h hdrop hline).symm.trans (ofText_of_names h' hdrop' hline)
    obtain rfl := String.ofList_injective (PathPart.parameter.inj hsame).2
    exact hends

theorem ofText_shown_iff (hline : '\n' ∉ cs) :
    ofText (ofText cs).shown = ofText cs ↔ StaysApart cs := by
  cases hpart : ofText cs with
  | literal text =>
      obtain ⟨-, rfl⟩ := ofText_eq_literal hline hpart
      refine iff_of_true ?_ fun name dropped ending hnames hdrop _ => ?_
      · rw [shown, String.toList_ofList, hpart]
      · cases hpart.symm.trans (ofText_of_names hnames hdrop hline)
  | parameter n e =>
      obtain ⟨name, dropped, ending, hnames, hdrop, rfl, rfl⟩ := ofText_eq_parameter hline hpart
      rw [shown, String.toList_ofList, String.toList_ofList, ofText_shown_parameter_iff hnames hline,
        staysApart_iff hnames hdrop hline]

/-- A part without slashes is shown without them. -/
theorem slash_notMem_shown (hline : '\n' ∉ cs) (hslash : '/' ∉ cs) : '/' ∉ (ofText cs).shown := by
  cases hpart : ofText cs with
  | literal text =>
      obtain ⟨-, rfl⟩ := ofText_eq_literal hline hpart
      rwa [shown, String.toList_ofList]
  | parameter n e =>
      obtain ⟨name, dropped, ending, hnames, -, rfl, rfl⟩ := ofText_eq_parameter hline hpart
      rw [hnames.text] at hslash
      simp only [shown, String.toList_ofList, List.cons_append, List.mem_cons, List.mem_append,
        not_or] at hslash ⊢
      exact ⟨hslash.1, hslash.2.1, hslash.2.2.2⟩

end PathPart

/-! ### Segments -/

/-- What a segment shows: its text, or its name and its ending. -/
def PathSegment.part : PathSegment → PathPart
  | literal text => .literal text
  | parameter name _ ending => .parameter name ending

/-- The shape of the URLs of a route: their literal parts, and the names and the endings of those that
are parameters. -/
def Route.shape (r : Route) : List PathPart := r.segments.map PathSegment.part

theorem PathSegment.toList_display (s : PathSegment) : s.display.toList = s.part.shown := by
  cases s <;> simp [display, part, PathPart.shown]

/-- Parts without slashes are found again in the path that they make up. -/
theorem splitOn_joinWith {separator : Char} {parts : List (List Char)} (hne : parts ≠ [])
    (h : ∀ part ∈ parts, separator ∉ part) :
    splitOn separator (joinWith [separator] parts) = parts := by
  induction parts using joinWith.induct with
  | case1 => exact absurd rfl hne
  | case2 part => exact splitOn_eq_singleton (h part List.mem_cons_self)
  | case3 part parts hparts ih =>
      obtain ⟨hpart, hrest⟩ := List.forall_mem_cons.mp h
      have hsplit := ih (fun hnil => hparts hnil) hrest
      rw [joinWith.eq_3 _ _ _ hparts, List.append_assoc, List.singleton_append,
        splitOn_append_separator hpart, hsplit]

section

variable {τ : Type} [DeclaredType τ] {m : Method τ} {className : Option String} {path : String}
  {r : Route}

theorem Method.Fills.part_eq {part : PathPart} {segment : PathSegment} (h : m.Fills part segment) :
    segment.part = part := by
  cases h <;> rfl

/-- The shape of a route is what the parts of its path read as. -/
theorem shape_eq (h : (m.segments className path).result = .ok r.segments) :
    r.shape = pathParts path := by
  rw [Method.segments, bindSegments_eq_ok_iff] at h
  have hparts := map_eq_of_forall₂ (f := id) (fun _ _ hfills => hfills.part_eq.symm) h
  rw [Route.shape, ← hparts, List.map_id]

/-- What is shown of a route is read part by part. -/
theorem pathParts_path (hline : '\n' ∉ path.toList)
    (h : (m.segments className path).result = .ok r.segments) :
    pathParts r.path = (pathParts path).map fun part => PathPart.ofText part.shown := by
  have htext : r.path.toList = joinWith ['/'] ((pathParts path).map PathPart.shown) := by
    rw [Route.path, joinWith_slash, ← shape_eq h, Route.shape, List.map_map, List.map_map]
    exact congrArg _ (List.map_congr_left fun s _ => s.toList_display)
  have hslash : ∀ shown ∈ (pathParts path).map PathPart.shown, '/' ∉ shown := by
    intro shown hshown
    obtain ⟨_, hpart, rfl⟩ := List.mem_map.mp hshown
    obtain ⟨part, hmem, rfl⟩ := List.mem_map.mp hpart
    exact PathPart.slash_notMem_shown (fun hc => hline (mem_of_mem_splitOn hmem hc))
      (not_mem_of_mem_splitOn hmem)
  have hne : (pathParts path).map PathPart.shown ≠ [] := by
    simp [pathParts, splitOn_ne_nil]
  rw [pathParts, htext, splitOn_joinWith hne hslash, List.map_map]
  rfl

/-- A path in whose parts no constraint keeps two things apart. -/
def ShownApart (path : String) : Prop := ∀ part ∈ splitOn '/' path.toList, PathPart.StaysApart part

theorem pathParts_path_eq_iff (hline : '\n' ∉ path.toList)
    (h : (m.segments className path).result = .ok r.segments) :
    pathParts r.path = pathParts path ↔ ShownApart path := by
  have hparts (part : List Char) (hpart : part ∈ splitOn '/' path.toList) : '\n' ∉ part :=
    fun hc => hline (mem_of_mem_splitOn hpart hc)
  rw [pathParts_path hline h, pathParts, List.map_map, List.map_inj_left]
  exact forall₂_congr fun part hpart => PathPart.ofText_shown_iff (hparts part hpart)

/-- A path without line ends has segments if the method binds the names of its parameters. The path of a
route with these segments is read as the same segments exactly where no constraint keeps two things apart:
where no name goes on after the constraint behind it, and no other constraint begins there. Two routes from
such paths have the same shape if they are shown with the same path. -/
theorem segments_of_shown_path (m : Method τ) (className : Option String) {path : String}
    (hline : '\n' ∉ path.toList)
    (hbinds : ∀ part ∈ splitOn '/' path.toList, ∀ name rest, PathPart.Names part name rest →
      ∃ type, m.Binds (String.ofList name) type) :
    ∃ segments, (m.segments className path).result = .ok segments ∧
      ∀ r : Route, r.segments = segments →
        ((m.segments className r.path).result = .ok segments ↔ ShownApart path) ∧
        ∀ (m' : Method τ) (className' : Option String) (path' : String) (r' : Route),
          '\n' ∉ path'.toList → (m'.segments className' path').result = .ok r'.segments →
          ShownApart path → ShownApart path' → r.path = r'.path → r.shape = r'.shape := by
  obtain ⟨segments, hsegments⟩ : ∃ segments, (m.segments className path).result = .ok segments := by
    refine exists_bindSegments_iff.mpr fun name ending hmem => ?_
    obtain ⟨part, hpart, hread⟩ := List.mem_map.mp hmem
    obtain ⟨name, dropped, ending, hnames, -, rfl, -⟩ :=
      PathPart.ofText_eq_parameter (fun hc => hline (mem_of_mem_splitOn hpart hc)) hread
    exact hbinds part hpart name _ hnames
  refine ⟨segments, hsegments, ?_⟩
  rintro r rfl
  refine ⟨?_, fun m' className' path' r' hline' hsegments' happart happart' hsame => ?_⟩
  · rw [← pathParts_path_eq_iff hline hsegments]
    constructor
    · exact fun hagain => (shape_eq hagain).symm.trans (shape_eq hsegments)
    · intro hparts
      rwa [Method.segments, hparts]
  · rw [shape_eq hsegments, shape_eq hsegments', ← (pathParts_path_eq_iff hline hsegments).mpr happart,
      ← (pathParts_path_eq_iff hline' hsegments').mpr happart', hsame]

end

/-! ### Constraints before a dot and before a letter -/

/-- The route of a path with a constraint before a dot. -/
def findAsJson : Route where
  name := "find"
  segments := [.literal "books", .parameter "id" ⟨"int", []⟩ ".json"]
  verb := .get

theorem segments_of_shown_path_findById :
    '\n' ∉ "books/:id(\\d+).json".toList ∧
    (∀ part ∈ splitOn '/' "books/:id(\\d+).json".toList, ∀ name rest,
      PathPart.Names part name rest → ∃ type, findById.Binds (String.ofList name) type) ∧
    ShownApart "books/:id(\\d+).json" ∧
    (findById.segments none "books/:id(\\d+).json").result = .ok findAsJson.segments ∧
    (findById.segments none findAsJson.path).result = .ok findAsJson.segments := by
  have hline : '\n' ∉ "books/:id(\\d+).json".toList := by decide
  have hparts : splitOn '/' "books/:id(\\d+).json".toList =
      ["books".toList, ":id(\\d+).json".toList] := by decide
  have hbooks : PathPart.ofText "books".toList = .literal "books" := by decide
  have hid : PathPart.ofText ":id(\\d+).json".toList = .parameter "id" ".json" := by decide
  have hread (part : List Char) (hpart : part ∈ splitOn '/' "books/:id(\\d+).json".toList) :
      PathPart.ofText part = .literal "books" ∨ PathPart.ofText part = .parameter "id" ".json" := by
    rw [hparts] at hpart
    simp only [List.mem_cons, List.not_mem_nil, or_false] at hpart
    rcases hpart with rfl | rfl
    · exact .inl hbooks
    · exact .inr hid
  have hbinds : ∀ part ∈ splitOn '/' "books/:id(\\d+).json".toList, ∀ name rest,
      PathPart.Names part name rest → ∃ type, findById.Binds (String.ofList name) type := by
    intro part hpart name rest hnames
    obtain ⟨dropped, ending, rfl, hdrop⟩ := PathPart.exists_constraint rest
    have hname := PathPart.ofText_of_names hnames hdrop fun hc =>
      hline (mem_of_mem_splitOn hpart hc)
    rcases hread part hpart with h | h
    · cases h.symm.trans hname
    · rw [← (PathPart.parameter.inj (h.symm.trans hname)).1]
      exact ⟨_, binds_findById⟩
  have happart : ShownApart "books/:id(\\d+).json" := by
    intro part hpart
    refine (PathPart.ofText_shown_iff fun hc => hline (mem_of_mem_splitOn hpart hc)).mp ?_
    rcases hread part hpart with h | h <;> rw [h] <;> decide
  have hsegments : (findById.segments none "books/:id(\\d+).json").result =
      .ok findAsJson.segments := rfl
  obtain ⟨segments, hresult, hshown⟩ := segments_of_shown_path findById none hline hbinds
  cases hsegments.symm.trans hresult
  exact ⟨hline, hbinds, happart, hsegments, (hshown findAsJson rfl).1.mpr happart⟩

/-- A method that binds the name of a parameter with and without what may come after it. -/
def findByRank : Method DescribedType where
  name := "find"
  parameters := [{ name := "id", tags := [⟨"Param", ["'id'"]⟩], type := integerType },
    { name := "idst", tags := [⟨"Param", ["'idst'"]⟩], type := integerType }]
  returns := integerType

/-- A route whose parameter is followed by a letter. -/
def findRanked : Route where
  name := "find"
  segments := [.parameter "id" ⟨"int", []⟩ "st"]
  verb := .get

/-- The path that a route is shown with is read as other segments, although all of its names are bound. -/
theorem not_segments_of_shown_path : ¬ ∀ (m : Method DescribedType) (className : Option String)
    (path : String) (r : Route) (again : List PathSegment), '\n' ∉ path.toList →
      (m.segments className path).result = .ok r.segments →
      (m.segments className r.path).result = .ok again → again = r.segments := by
  intro h
  have hread : (findByRank.segments none ":id(\\d+)st").result = .ok findRanked.segments := rfl
  have hagain : (findByRank.segments none findRanked.path).result =
      .ok [.parameter "idst" ⟨"int", []⟩ ""] := rfl
  have hsame := h findByRank none ":id(\\d+)st" findRanked _ (by decide) hread hagain
  exact absurd hsame (by decide)

end TypedClients
