import TypedClients.Proofs.PathCharacters
import TypedClients.Proofs.RouteOrigins

/-!
# The texts of paths

A path is read part by part, and almost nothing of it gets lost: a literal part is its segment, and
a parameter keeps its name and all that comes after it, apart from one constraint in parentheses
right after the name. So the path of a route is the one that it was read from without these
constraints.
-/
namespace TypedClients

open TypedClients.Text

/-! ### Parts -/

/-- The text of a part of a path, with what its segment leaves out of it. -/
structure PartText where
  front : List Char
  dropped : List Char := []
  back : List Char := []

namespace PartText

def text (t : PartText) : List Char := t.front ++ t.dropped ++ t.back

/-- What the segment of a part shows of its text. -/
def kept (t : PartText) : List Char := t.front ++ t.back

end PartText

namespace PathPart

/-- A part is marked as a parameter by a colon and a letter or an underscore after it. -/
def Marked (cs : List Char) : Prop := ∃ c rest, cs = ':' :: c :: rest ∧ isPlainNameStart c

/-- A part starts with a colon and a name, which is the longest one there. -/
structure Names (cs name rest : List Char) : Prop where
  text : cs = ':' :: name ++ rest
  plain : isPlainIdentifier name
  longest : ∀ c ∈ rest.head?, isPlainNameChar c = false

/-- What is left out between a name and the ending of a part: the text from a parenthesis right
after the name up to the first closing one, and nothing where there are no such parentheses. -/
inductive Constraint : List Char → List Char → Prop
  | closed {inner ending : List Char} (hinner : ')' ∉ inner) :
      Constraint ('(' :: (inner ++ [')'])) ending
  | absent {ending : List Char} (hopen : ∀ rest, ending = '(' :: rest → ')' ∉ rest) :
      Constraint [] ending

variable {cs name rest dropped ending : List Char}

/-- Every marked part has a name. -/
theorem exists_names (h : Marked cs) : ∃ name rest, Names cs name rest := by
  obtain ⟨c, rest, rfl, hc⟩ := h
  refine ⟨c :: rest.takeWhile isPlainNameChar, rest.dropWhile isPlainNameChar, ?_, ?_, ?_⟩
  · rw [List.cons_append, List.cons_append, List.takeWhile_append_dropWhile]
  · simp [isPlainIdentifier, hc, List.all_takeWhile]
  · intro d hd
    have hstop := List.head?_dropWhile_not isPlainNameChar rest
    rwa [hd] at hstop

theorem exists_constraint (rest : List Char) :
    ∃ dropped ending, rest = dropped ++ ending ∧ Constraint dropped ending := by
  by_cases h : ∃ cs, rest = '(' :: cs ∧ ')' ∈ cs
  · obtain ⟨cs, rfl, hmem⟩ := h
    obtain ⟨inner, ending, rfl, hinner⟩ := List.eq_append_cons_of_mem hmem
    exact ⟨'(' :: (inner ++ [')']), ending, by simp, .closed hinner⟩
  · exact ⟨[], rest, rfl, .absent fun cs hcs hmem => h ⟨cs, hcs, hmem⟩⟩

theorem ending?_eq (h : '\n' ∉ cs) : ending? cs = some cs := by
  have hlast : cs.getLast? ≠ some '\n' := fun hlast => h (List.mem_of_getLast? hlast)
  simp [ending?, hlast, h]

/-- The ending of a parameter is what comes after its constraint. -/
theorem ending_of_constraint (h : Constraint dropped ending) (hline : '\n' ∉ ending) :
    (((afterConstraint? (dropped ++ ending)).bind ending?) <|> ending? (dropped ++ ending)) =
      some ending := by
  cases h with
  | @closed inner _ hinner =>
      have hopen : ∀ c ∈ inner, (c != ')') = true := by
        rintro c hc
        simp only [bne_iff_ne, ne_eq]
        rintro rfl
        exact hinner hc
      have hafter : afterConstraint? ('(' :: (inner ++ [')']) ++ ending) = some ending := by
        simp [afterConstraint?, List.dropWhile_append_of_pos hopen]
      rw [hafter, Option.bind_some, ending?_eq hline]
      rfl
  | absent hopen =>
      have hafter : afterConstraint? ending = none := by
        unfold afterConstraint?
        split
        · next rest => simp [hopen rest rfl]
        · rfl
      rw [List.nil_append, hafter, ending?_eq hline]
      rfl

/-- A part with a name is a parameter. -/
theorem ofText_of_names (h : Names cs name (dropped ++ ending)) (hdrop : Constraint dropped ending)
    (hline : '\n' ∉ cs) : ofText cs = .parameter (String.ofList name) (String.ofList ending) := by
  obtain ⟨rfl, hplain, hlongest⟩ := h
  cases name with
  | nil => cases hplain
  | cons c name =>
      rw [isPlainIdentifier, Bool.and_eq_true, List.all_eq_true] at hplain
      have hends : '\n' ∉ ending := fun hmem => hline (by simp [hmem])
      have hstop : (dropped ++ ending).takeWhile isPlainNameChar = [] ∧
          (dropped ++ ending).dropWhile isPlainNameChar = dropped ++ ending := by
        cases hrest : dropped ++ ending with
        | nil => exact ⟨rfl, rfl⟩
        | cons d rest =>
            have hd := hlongest d (by rw [hrest]; rfl)
            exact ⟨List.takeWhile_cons_of_neg (by simp [hd]),
              List.dropWhile_cons_of_neg (by simp [hd])⟩
      rw [List.cons_append, List.cons_append, ofText]
      simp only [hplain.1, if_true, List.takeWhile_append_of_pos hplain.2,
        List.dropWhile_append_of_pos hplain.2, hstop.1, hstop.2, List.append_nil,
        ending_of_constraint hdrop hends]

theorem ofText_of_not_marked (h : ¬ Marked cs) : ofText cs = .literal (String.ofList cs) := by
  unfold ofText
  split
  · next c rest => exact if_neg fun hc => h ⟨c, rest, rfl, hc⟩
  · rfl

theorem ofText_eq_literal {text : String} (hline : '\n' ∉ cs) (h : ofText cs = .literal text) :
    ¬ Marked cs ∧ text = String.ofList cs := by
  have hliteral : ¬ Marked cs := fun hmarked => by
    obtain ⟨name, rest, hnames⟩ := exists_names hmarked
    obtain ⟨dropped, ending, rfl, hdrop⟩ := exists_constraint rest
    cases (ofText_of_names hnames hdrop hline).symm.trans h
  rw [ofText_of_not_marked hliteral] at h
  exact ⟨hliteral, (PathPart.literal.inj h).symm⟩

theorem ofText_eq_parameter {n e : String} (hline : '\n' ∉ cs) (h : ofText cs = .parameter n e) :
    ∃ name dropped ending, Names cs name (dropped ++ ending) ∧ Constraint dropped ending ∧
      n = String.ofList name ∧ e = String.ofList ending := by
  by_cases hmarked : Marked cs
  · obtain ⟨name, rest, hnames⟩ := exists_names hmarked
    obtain ⟨dropped, ending, rfl, hdrop⟩ := exists_constraint rest
    obtain ⟨hn, he⟩ := PathPart.parameter.inj ((ofText_of_names hnames hdrop hline).symm.trans h)
    exact ⟨name, dropped, ending, hnames, hdrop, hn.symm, he.symm⟩
  · rw [ofText_of_not_marked hmarked] at h
    cases h

end PathPart

/-! ### Segments -/

section

variable {τ : Type} [DeclaredType τ]

/-- The segment for the text of a part. It is the whole text, unless this is marked as a parameter;
then it is the longest name there and what comes after a constraint. -/
inductive Method.ReadsAs (m : Method τ) : PartText → PathSegment → Prop
  | literal {text : List Char} (hliteral : ¬ PathPart.Marked text) :
      m.ReadsAs { front := text } (.literal (String.ofList text))
  | parameter {name dropped ending : List Char} {type : TypeText}
      (hnames : PathPart.Names (':' :: name ++ (dropped ++ ending)) name (dropped ++ ending))
      (hdrop : PathPart.Constraint dropped ending) (hbinds : m.Binds (String.ofList name) type) :
      m.ReadsAs { front := ':' :: name, dropped, back := ending }
        (.parameter (String.ofList name) type (String.ofList ending))

variable {m : Method τ} {className : Option String} {parts : List PathPart}
  {segments : List PathSegment} {segment : PathSegment} {cs : List Char}

/-- A method has segments for parts if it binds all parameters among them. -/
theorem exists_bindSegments_iff :
    (∃ segments, (m.bindSegments className parts).result = .ok segments) ↔
      ∀ name ending, .parameter name ending ∈ parts → ∃ type, m.Binds name type := by
  simp only [bindSegments_eq_ok_iff]
  constructor
  · rintro ⟨segments, h⟩ name ending hmem
    obtain ⟨segment, -, hfills⟩ := exists_of_forall₂_of_mem h.flip hmem
    cases hfills with
    | parameter hbinds => exact ⟨_, hbinds⟩
  · intro h
    induction parts with
    | nil => exact ⟨[], .nil⟩
    | cons part parts ih =>
        obtain ⟨segments, hsegments⟩ := ih fun name ending hmem => h name ending (.tail _ hmem)
        cases part with
        | literal text => exact ⟨_, .cons .literal hsegments⟩
        | parameter name ending =>
            obtain ⟨type, hbinds⟩ := h name ending List.mem_cons_self
            exact ⟨_, .cons (.parameter hbinds) hsegments⟩

theorem Method.Fills.readsAs (hline : '\n' ∉ cs) (h : m.Fills (PathPart.ofText cs) segment) :
    ∃ t : PartText, t.text = cs ∧ m.ReadsAs t segment := by
  generalize hpart : PathPart.ofText cs = part at h
  cases h with
  | literal =>
      obtain ⟨hliteral, rfl⟩ := PathPart.ofText_eq_literal hline hpart
      exact ⟨_, by simp [PartText.text], .literal hliteral⟩
  | parameter hbinds =>
      obtain ⟨name, dropped, ending, hnames, hdrop, rfl, rfl⟩ :=
        PathPart.ofText_eq_parameter hline hpart
      obtain rfl := hnames.text
      exact ⟨_, by simp [PartText.text], .parameter hnames hdrop hbinds⟩

theorem display_of_readsAs {t : PartText} (h : m.ReadsAs t segment) :
    segment.display.toList = t.kept := by
  cases h <;> simp [PathSegment.display, PartText.kept]

theorem not_dropped_of_readsAs {t : PartText} (h : m.ReadsAs t segment) (hopen : '(' ∉ t.text) :
    t.dropped = [] := by
  cases h with
  | literal _ => rfl
  | parameter _ hdrop _ =>
      cases hdrop with
      | closed _ => simp [PartText.text] at hopen
      | absent _ => rfl

theorem joinWith_slash (names : List String) :
    ("/".intercalate names).toList = joinWith ['/'] (names.map String.toList) := by
  induction names with
  | nil => rfl
  | cons name names ih =>
      cases names with
      | nil => simp [joinWith]
      | cons next names =>
          rw [String.intercalate_cons_cons, String.toList_append, String.toList_append, ih]
          rfl

/-- The texts of parts without line ends, with what the segments leave out of them. -/
theorem exists_texts {parts : List (List Char)} (hline : ∀ part ∈ parts, '\n' ∉ part)
    (h : List.Forall₂ m.Fills (parts.map PathPart.ofText) segments) :
    ∃ texts : List PartText, texts.map PartText.text = parts ∧
      List.Forall₂ m.ReadsAs texts segments := by
  induction parts generalizing segments with
  | nil =>
      cases h
      exact ⟨[], rfl, .nil⟩
  | cons part parts ih =>
      cases h with
      | cons hfills hrest =>
          obtain ⟨texts, htexts, hreads⟩ := ih (fun p hp => hline p (.tail _ hp)) hrest
          obtain ⟨t, rfl, hread⟩ := hfills.readsAs (hline _ List.mem_cons_self)
          exact ⟨t :: texts, by rw [List.map_cons, htexts], .cons hread hreads⟩

/-- A path without line ends is read part by part, if the method binds the names of its parameters.
The path of a route with these segments is the one that was read without the constraints. -/
theorem segments_keep_path (m : Method τ) (className : Option String) {path : String}
    (hline : '\n' ∉ path.toList) :
    ((∃ segments, (m.segments className path).result = .ok segments) ↔
      ∀ part ∈ splitOn '/' path.toList, ∀ name rest, PathPart.Names part name rest →
        ∃ type, m.Binds (String.ofList name) type) ∧
    ∀ segments, (m.segments className path).result = .ok segments →
      ∃ texts : List PartText, texts.map PartText.text = splitOn '/' path.toList ∧
        List.Forall₂ m.ReadsAs texts segments ∧
        ∀ r : Route, r.segments = segments →
          r.path.toList = joinWith ['/'] (texts.map PartText.kept) ∧
          ('(' ∉ path.toList → r.path = path) := by
  have hparts (part : List Char) (hpart : part ∈ splitOn '/' path.toList) : '\n' ∉ part :=
    fun hmem => hline (mem_of_mem_splitOn hpart hmem)
  refine ⟨?_, fun segments hsegments => ?_⟩
  · rw [Method.segments, exists_bindSegments_iff]
    constructor
    · intro h part hpart name rest hnames
      obtain ⟨dropped, ending, rfl, hdrop⟩ := PathPart.exists_constraint rest
      refine h _ (String.ofList ending) (List.mem_map.mpr ⟨part, hpart, ?_⟩)
      exact PathPart.ofText_of_names hnames hdrop (hparts part hpart)
    · intro h name ending hmem
      obtain ⟨part, hpart, hread⟩ := List.mem_map.mp hmem
      obtain ⟨name, dropped, ending, hnames, -, rfl, -⟩ :=
        PathPart.ofText_eq_parameter (hparts part hpart) hread
      exact h part hpart name _ hnames
  · rw [Method.segments, bindSegments_eq_ok_iff] at hsegments
    obtain ⟨texts, htexts, hreads⟩ := exists_texts hparts hsegments
    refine ⟨texts, htexts, hreads, ?_⟩
    rintro r rfl
    have hpath : r.path.toList = joinWith ['/'] (texts.map PartText.kept) := by
      have hkept : texts.map PartText.kept = r.segments.map fun s => s.display.toList :=
        map_eq_of_forall₂ (fun _ _ hread => (display_of_readsAs hread).symm) hreads
      rw [Route.path, joinWith_slash, List.map_map, hkept]
      rfl
    refine ⟨hpath, fun hopen => ?_⟩
    have hkept : texts.map PartText.kept = texts.map PartText.text := by
      refine List.map_congr_left fun t ht => ?_
      obtain ⟨segment, -, hread⟩ := exists_of_forall₂_of_mem hreads.flip ht
      have hpart : t.text ∈ splitOn '/' path.toList := htexts ▸ List.mem_map_of_mem ht
      have hdropped : t.dropped = [] :=
        not_dropped_of_readsAs hread fun hmem => hopen (mem_of_mem_splitOn hpart hmem)
      rw [PartText.kept, PartText.text, hdropped, List.append_nil]
    rw [← String.toList_inj, hpath, hkept, htexts, joinWith_splitOn]

end

/-! ### A path with a constraint -/

def integerType : DescribedType where
  text := "int"
  imports := []
  isVoid := false
  carried := none
  fields := []

/-- A method that binds one parameter of a path. -/
def findById : Method DescribedType where
  name := "find"
  parameters := [{ name := "id", tags := [⟨"Param", ["'id'"]⟩], type := integerType }]
  returns := integerType

theorem binds_findById : findById.Binds "id" ⟨"int", []⟩ := ⟨integerType, rfl, rfl⟩

theorem segments_keep_path_findById :
    '\n' ∉ "/books/:id(\\d+).json".toList ∧
      (findById.segments none "/books/:id(\\d+).json").result =
        .ok [.literal "", .literal "books", .parameter "id" ⟨"int", []⟩ ".json"] ∧
      ∃ texts : List PartText,
        texts.map PartText.text = splitOn '/' "/books/:id(\\d+).json".toList ∧
        joinWith ['/'] (texts.map PartText.kept) = "/books/:id.json".toList := by
  have hline : '\n' ∉ "/books/:id(\\d+).json".toList := by decide
  have hsegments : (findById.segments none "/books/:id(\\d+).json").result =
      .ok [.literal "", .literal "books", .parameter "id" ⟨"int", []⟩ ".json"] := rfl
  obtain ⟨texts, htexts, -, hpath⟩ := (segments_keep_path findById none hline).2 _ hsegments
  let find : Route :=
    { name := "find"
      segments := [.literal "", .literal "books", .parameter "id" ⟨"int", []⟩ ".json"]
      verb := .get }
  exact ⟨hline, hsegments, texts, htexts, ((hpath find rfl).1.symm : _ = find.path.toList)⟩

end TypedClients
