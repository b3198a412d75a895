import Mathlib.Data.List.Lex
import Mathlib.Logic.Relation
import TypedClients.Proofs.ImportedClasses

/-!
# Inherited fields

The field of a type is looked for in the class that the type refers to, and then in the classes that
this one inherits from: above the first base as far up as it goes, then above the next one. No class
is searched twice, so the search ends in every project, also where classes inherit in a circle. That
it skips what it has searched makes no difference: it ends at the first place where a search could
end that remembers no more than its own way. This is the first class that declares the field, unless
a base before it cannot be read.
-/
namespace TypedClients

open Relation TypedClients.Code

/-- A class in its module. -/
abbrev PlacedClass := SourceModule × ClassSource

/-- What a base of a class refers to: a class of the project, nothing that the project knows, or
what keeps the base from being read. -/
abbrev ResolvedBase := Except Failure (Option PlacedClass)

namespace PlacedClass

/-- What a search notes down of a class. -/
def key (c : PlacedClass) : String × String := (c.1.name.text, c.2.name)

/-- The type that a class itself declares for a field. -/
def hint? (c : PlacedClass) (field : String) : Option Expr :=
  c.2.body.findSome? (SourceType.declaredField? field)

def bases (c : PlacedClass) (p : SourceProject) : List ResolvedBase :=
  c.2.bases.map (SourceType.classOf (some p) c.1)

end PlacedClass

namespace SourceProject

open SourceType

/-! ### Places above a class -/

/-- A class has another one as one of its bases. -/
def HasBase (p : SourceProject) (c d : PlacedClass) : Prop := .ok (some d) ∈ c.bases p

/-- A way from a class up to one that it inherits from, by the positions of the bases that it takes.
It comes to no class twice, and to none of those that it avoids. -/
inductive Way (p : SourceProject) :
    List (String × String) → PlacedClass → List Nat → PlacedClass → Prop
  | here {avoid : List (String × String)} {c : PlacedClass} (hnew : c.key ∉ avoid) :
      p.Way avoid c [] c
  | up {avoid : List (String × String)} {c d e : PlacedClass} {i : Nat} {is : List Nat}
      (hnew : c.key ∉ avoid) (hbase : (c.bases p)[i]? = some (.ok (some d)))
      (hway : p.Way (c.key :: avoid) d is e) : p.Way avoid c (i :: is) e

/-- Where a search for a field can end, and how: at a class that declares it, or at a base that
cannot be read. -/
inductive EndsAt (p : SourceProject) (field : String) (avoid : List (String × String))
    (c : PlacedClass) : List Nat → Except Failure FieldSource → Prop
  | declared {is : List Nat} {d : PlacedClass} {hint : Expr} (hway : p.Way avoid c is d)
      (hhint : d.hint? field = some hint) : p.EndsAt field avoid c is (.ok (d.1, hint))
  | unreadable {is : List Nat} {d : PlacedClass} {i : Nat} {f : Failure}
      (hway : p.Way avoid c is d) (hbase : (d.bases p)[i]? = some (.error f)) :
      p.EndsAt field avoid c (is ++ [i]) (.error f)

/-- The order in which a search that goes depth first comes to places, each given by the positions
on the way to it: to a class before what is above it, and to all that is above a base before the
next base. -/
def Precedes (is js : List Nat) : Prop := List.Lex (· < ·) is js

/-- What is at the first of some places. -/
def IsFirst {α : Type} (ends : List Nat → α → Prop) (out : α) : Prop :=
  ∃ is, ends is out ∧ ∀ is' out', ends is' out' → ¬ Precedes is' is

/-- Of the classes that a class inherits from, itself included, no two have the same name in modules
of the same name. -/
def TellsApart (p : SourceProject) (start : PlacedClass) : Prop :=
  ∀ c d, ReflTransGen p.HasBase start c → ReflTransGen p.HasBase start d → c.key = d.key → c = d

/-- A class that a search goes past: it does not declare the field, and its bases can be read. -/
def Passes (p : SourceProject) (field : String) (c : PlacedClass) : Prop :=
  c.hint? field = none ∧ ∀ f, .error f ∉ c.bases p

/-- The type of a field, in the module that declares it. -/
def fieldType (p : SourceProject) (found : FieldSource) : SourceType :=
  SourceType.ofExpr (some found.2) found.1 (some p)

section

variable {p : SourceProject} {field : String} {avoid seen : List (String × String)}
  {start c d : PlacedClass} {is : List Nat} {out : Except Failure FieldSource}
  {bases : List ResolvedBase}

theorem not_precedes_nil : ¬ Precedes is [] := fun h => nomatch h

theorem precedes_cons_iff {i j : Nat} {js : List Nat} :
    Precedes (i :: is) (j :: js) ↔ i < j ∨ i = j ∧ Precedes is js := by
  constructor
  · intro h
    cases h with
    | rel hlt => exact .inl hlt
    | cons h => exact .inr ⟨rfl, h⟩
  · rintro (hlt | ⟨rfl, h⟩)
    · exact .rel hlt
    · exact .cons h

theorem has_of_hasBase (hc : p.Has c) (h : p.HasBase c d) : p.Has d := by
  obtain ⟨base, -, hbase⟩ := List.mem_map.mp h
  exact has_of_classOf hc.1 hbase

theorem has_of_reflTransGen (hc : p.Has c) (h : ReflTransGen p.HasBase c d) : p.Has d := by
  induction h with
  | refl => exact hc
  | tail _ hbase ih => exact has_of_hasBase ih hbase

/-- With distinct names of modules, what is noted down of a class says which class it is. -/
theorem tellsApart_of_nodup (hnames : (p.modules.map (·.name.text)).Nodup) (hstart : p.Has start) :
    p.TellsApart start := by
  intro c d hc hd hkey
  replace hc := has_of_reflTransGen hstart hc
  replace hd := has_of_reflTransGen hstart hd
  obtain ⟨hmodule, hname⟩ := Prod.ext_iff.mp hkey
  have hsame : c.1 = d.1 := List.inj_on_of_nodup_map hnames hc.1 hd.1 hmodule
  refine Prod.ext hsame (Option.some.inj ?_)
  rw [← hc.2, ← hd.2, hsame, show c.2.name = d.2.name from hname]

theorem reflTransGen_of_way (h : p.Way avoid c is d) : ReflTransGen p.HasBase c d := by
  induction h with
  | here _ => exact .refl
  | up _ hbase _ ih => exact .head (List.mem_of_getElem? hbase) ih

/-- A search does not end where it goes past every class. -/
theorem not_endsAt_of_passes (h : ∀ d, ReflTransGen p.HasBase c d → p.Passes field d) :
    ¬ p.EndsAt field avoid c is out := by
  intro hend
  cases hend with
  | declared hway hhint => cases (h _ (reflTransGen_of_way hway)).1.symm.trans hhint
  | unreadable hway hbase =>
      exact (h _ (reflTransGen_of_way hway)).2 _ (List.mem_of_getElem? hbase)

/-! ### Places above some bases -/

/-- Where a search that starts from some bases can end. -/
inductive EndsAmong (p : SourceProject) (field : String) (avoid : List (String × String))
    (bases : List ResolvedBase) : List Nat → Except Failure FieldSource → Prop
  | unreadable {i : Nat} {f : Failure} (hbase : bases[i]? = some (.error f)) :
      p.EndsAmong field avoid bases [i] (.error f)
  | above {i : Nat} {is : List Nat} {c : PlacedClass} {out : Except Failure FieldSource}
      (hbase : bases[i]? = some (.ok (some c))) (hend : p.EndsAt field avoid c is out) :
      p.EndsAmong field avoid bases (i :: is) out

theorem EndsAmong.exists_cons (h : p.EndsAmong field avoid bases is out) :
    ∃ i js, is = i :: js := by
  cases h with
  | unreadable _ => exact ⟨_, _, rfl⟩
  | above _ _ => exact ⟨_, _, rfl⟩

theorem endsAt_iff : p.EndsAt field avoid c is out ↔ c.key ∉ avoid ∧
    ((∃ hint, c.hint? field = some hint ∧ is = [] ∧ out = .ok (c.1, hint)) ∨
      p.EndsAmong field (c.key :: avoid) (c.bases p) is out) := by
  constructor
  · intro h
    cases h with
    | declared hway hhint =>
        cases hway with
        | here hnew => exact ⟨hnew, .inl ⟨_, hhint, rfl, rfl⟩⟩
        | up hnew hbase hway => exact ⟨hnew, .inr (.above hbase (.declared hway hhint))⟩
    | unreadable hway hunread =>
        cases hway with
        | here hnew => exact ⟨hnew, .inr (.unreadable hunread)⟩
        | up hnew hbase hway => exact ⟨hnew, .inr (.above hbase (.unreadable hway hunread))⟩
  · rintro ⟨hnew, ⟨hint, hhint, rfl, rfl⟩ | h⟩
    · exact .declared (.here hnew) hhint
    · cases h with
      | unreadable hbase => exact .unreadable (.here hnew) hbase
      | above hbase hend =>
          cases hend with
          | declared hway hhint => exact .declared (.up hnew hbase hway) hhint
          | unreadable hway hunread => exact .unreadable (.up hnew hbase hway) hunread

/-- At a class that does not declare the field, a search ends only above it. -/
theorem endsAt_iff_of_undeclared (hnew : c.key ∉ avoid) (hhint : c.hint? field = none) :
    p.EndsAt field avoid c is out ↔ p.EndsAmong field (c.key :: avoid) (c.bases p) is out := by
  simp [endsAt_iff, hnew, hhint]

theorem endsAmong_cons_iff {base : ResolvedBase} :
    p.EndsAmong field avoid (base :: bases) is out ↔
      (∃ js, is = 0 :: js ∧ p.EndsAmong field avoid [base] is out) ∨
        ∃ i js, is = (i + 1) :: js ∧ p.EndsAmong field avoid bases (i :: js) out := by
  constructor
  · intro h
    cases h with
    | @unreadable i f hbase =>
        cases i with
        | zero => exact .inl ⟨[], rfl, .unreadable (by simpa using hbase)⟩
        | succ i => exact .inr ⟨i, [], rfl, .unreadable (by simpa using hbase)⟩
    | @above i is c out hbase hend =>
        cases i with
        | zero => exact .inl ⟨is, rfl, .above (by simpa using hbase) hend⟩
        | succ i => exact .inr ⟨i, is, rfl, .above (by simpa using hbase) hend⟩
  · rintro (⟨js, rfl, h⟩ | ⟨i, js, rfl, h⟩)
    · cases h with
      | unreadable hbase => exact .unreadable (by simpa using hbase)
      | above hbase hend => exact .above (by simpa using hbase) hend
    · cases h with
      | unreadable hbase => exact .unreadable (by simpa using hbase)
      | above hbase hend => exact .above (by simpa using hbase) hend

theorem endsAmong_singleton_iff {i : Nat} :
    p.EndsAmong field avoid [.ok (some c)] (i :: is) out ↔
      i = 0 ∧ p.EndsAt field avoid c is out := by
  constructor
  · intro h
    cases h with
    | unreadable hbase => simp [List.getElem?_singleton] at hbase
    | above hbase hend =>
        obtain ⟨rfl, hbase⟩ := by simpa [List.getElem?_singleton] using hbase
        cases hbase
        exact ⟨rfl, hend⟩
  · rintro ⟨rfl, hend⟩
    exact .above rfl hend

/-- A place above the first base comes before all places above the others. -/
theorem isFirst_cons {base : ResolvedBase} (h : p.EndsAmong field avoid [base] (0 :: is) out)
    (hleast : ∀ is' out', p.EndsAmong field avoid [base] (0 :: is') out' → ¬ Precedes is' is) :
    IsFirst (p.EndsAmong field avoid (base :: bases)) out := by
  refine ⟨0 :: is, endsAmong_cons_iff.mpr (.inl ⟨is, rfl, h⟩), fun is' out' h' => ?_⟩
  rcases endsAmong_cons_iff.mp h' with ⟨js, rfl, hend'⟩ | ⟨i, js, rfl, -⟩
  · simpa [precedes_cons_iff] using hleast _ _ hend'
  · simp [precedes_cons_iff]

theorem IsFirst.above (hnew : c.key ∉ avoid) (hhint : c.hint? field = none)
    (h : IsFirst (p.EndsAmong field (c.key :: avoid) (c.bases p)) out) :
    IsFirst (p.EndsAmong field avoid (.ok (some c) :: bases)) out := by
  obtain ⟨is, hfirst, hleast⟩ := h
  have hend := (endsAt_iff_of_undeclared hnew hhint).mpr hfirst
  refine isFirst_cons (.above rfl hend) fun is' out' h' => hleast is' out' ?_
  exact (endsAt_iff_of_undeclared hnew hhint).mp (endsAmong_singleton_iff.mp h').2

theorem IsFirst.tail {base : ResolvedBase}
    (hnone : ∀ is out, ¬ p.EndsAmong field avoid [base] is out)
    (h : IsFirst (p.EndsAmong field avoid bases) out) :
    IsFirst (p.EndsAmong field avoid (base :: bases)) out := by
  obtain ⟨is, hend, hleast⟩ := h
  obtain ⟨i, js, rfl⟩ := hend.exists_cons
  refine ⟨(i + 1) :: js, endsAmong_cons_iff.mpr (.inr ⟨i, js, rfl, hend⟩), fun is' out' h' => ?_⟩
  rcases endsAmong_cons_iff.mp h' with ⟨_, -, hend'⟩ | ⟨i', js', rfl, hend'⟩
  · exact absurd hend' (hnone _ _)
  · have hle := hleast _ _ hend'
    simpa [precedes_cons_iff] using hle

theorem IsFirst.endsAt (h : IsFirst (p.EndsAmong field avoid [.ok (some c)]) out) :
    IsFirst (p.EndsAt field avoid c) out := by
  obtain ⟨is, hend, hleast⟩ := h
  obtain ⟨i, js, rfl⟩ := hend.exists_cons
  obtain ⟨rfl, hfirst⟩ := endsAmong_singleton_iff.mp hend
  refine ⟨js, hfirst, fun is' out' h' hlex => ?_⟩
  exact hleast _ _ (endsAmong_singleton_iff.mpr ⟨rfl, h'⟩)
    (precedes_cons_iff.mpr (.inr ⟨rfl, hlex⟩))

/-! ### Searches -/

/-- A search for a field without a bound, which starts from some bases and has been to some classes:
what it ends with. -/
inductive SearchesFields (p : SourceProject) (field : String) :
    List (String × String) → List ResolvedBase → FieldSearch → Prop
  | nil {seen : List (String × String)} : p.SearchesFields field seen [] (.ok (none, seen))
  | unreadable {seen : List (String × String)} {f : Failure} {bases : List ResolvedBase} :
      p.SearchesFields field seen (.error f :: bases) (.error f)
  | skip {seen : List (String × String)} {base : Option PlacedClass} {bases : List ResolvedBase}
      {answer : FieldSearch} (hskip : ∀ c, base = some c → c.key ∈ seen)
      (hrest : p.SearchesFields field seen bases answer) :
      p.SearchesFields field seen (.ok base :: bases) answer
  | declared {seen : List (String × String)} {c : PlacedClass} {bases : List ResolvedBase}
      {hint : Expr} (hnew : c.key ∉ seen) (hhint : c.hint? field = some hint) :
      p.SearchesFields field seen (.ok (some c) :: bases)
        (.ok (some (c.1, hint), c.key :: seen))
  | above {seen : List (String × String)} {c : PlacedClass} {bases : List ResolvedBase}
      {answer : FieldSearch} (hnew : c.key ∉ seen) (hhint : c.hint? field = none)
      (habove : p.SearchesFields field (c.key :: seen) (c.bases p) answer)
      (hends : ∀ seen', answer ≠ .ok (none, seen')) :
      p.SearchesFields field seen (.ok (some c) :: bases) answer
  | on {seen seen' : List (String × String)} {c : PlacedClass} {bases : List ResolvedBase}
      {answer : FieldSearch} (hnew : c.key ∉ seen) (hhint : c.hint? field = none)
      (habove : p.SearchesFields field (c.key :: seen) (c.bases p) (.ok (none, seen')))
      (hrest : p.SearchesFields field seen' bases answer) :
      p.SearchesFields field seen (.ok (some c) :: bases) answer

theorem searchClass_succ (n : Nat) (seen : List (String × String)) (c : PlacedClass) :
    searchClass (some p) field (n + 1) seen c =
      if c.key ∈ seen then .ok (none, seen)
      else match c.hint? field with
        | some hint => .ok (some (c.1, hint), c.key :: seen)
        | none => searchBases (classOf (some p) c.1) (searchClass (some p) field n) (c.key :: seen)
            c.2.bases := rfl

/-- A search comes to a class that it has been to, or ends there, or goes on above it. -/
theorem searchClass_cases (n : Nat) (seen : List (String × String)) (c : PlacedClass) :
    c.key ∈ seen ∧ searchClass (some p) field (n + 1) seen c = .ok (none, seen) ∨
    (∃ hint, c.key ∉ seen ∧ c.hint? field = some hint ∧
      searchClass (some p) field (n + 1) seen c = .ok (some (c.1, hint), c.key :: seen)) ∨
    c.key ∉ seen ∧ c.hint? field = none ∧ searchClass (some p) field (n + 1) seen c =
      searchBases (classOf (some p) c.1) (searchClass (some p) field n) (c.key :: seen)
        c.2.bases := by
  by_cases hseen : c.key ∈ seen
  · exact .inl ⟨hseen, if_pos hseen⟩
  · rw [searchClass_succ, if_neg hseen]
    cases hhint : c.hint? field with
    | some hint => exact .inr (.inl ⟨hint, hseen, rfl, rfl⟩)
    | none => exact .inr (.inr ⟨hseen, rfl, rfl⟩)

/-- The answer of a search from some bases is that for the first one, unless it finds nothing. -/
theorem searchBases_cons {resolve : Expr → Except Failure (Option PlacedClass)}
    {search : List (String × String) → PlacedClass → FieldSearch} {e : Expr}
    (h : resolve e = .ok (some c)) (es : List Expr) :
    searchBases resolve search seen (e :: es) = search seen c ∧
      (∀ seen', search seen c ≠ .ok (none, seen')) ∨
    ∃ seen', search seen c = .ok (none, seen') ∧
      searchBases resolve search seen (e :: es) = searchBases resolve search seen' es := by
  rw [searchBases, h]
  change search seen c >>= _ = search seen c ∧ _ ∨ ∃ seen', _ ∧ search seen c >>= _ = _
  cases search seen c with
  | error f => exact .inl ⟨rfl, by simp⟩
  | ok answer =>
      obtain ⟨_ | found, seen'⟩ := answer
      · exact .inr ⟨seen', rfl, rfl⟩
      · exact .inl ⟨rfl, by simp⟩

theorem searchBases_singleton {resolve : Expr → Except Failure (Option PlacedClass)}
    {search : List (String × String) → PlacedClass → FieldSearch} {e : Expr}
    (h : resolve e = .ok (some c)) : searchBases resolve search seen [e] = search seen c := by
  rcases searchBases_cons h [] with ⟨heq, -⟩ | ⟨seen', hnone, heq⟩
  · exact heq
  · rw [heq, hnone, searchBases]

/-- The search with a bound is one without: every class that it goes on from is one of the project
that it has not been to, and the bound is above the number of those. -/
theorem searchesFields_searchBases {n : Nat} (hn : (unsearched p seen).length < n)
    {m : SourceModule} (hm : m ∈ p.modules) (es : List Expr) :
    p.SearchesFields field seen (es.map (classOf (some p) m))
      (searchBases (classOf (some p) m) (searchClass (some p) field n) seen es) := by
  induction n generalizing seen m es with
  | zero => omega
  | succ n ih =>
      have habove {seen : List (String × String)} (hn : (unsearched p seen).length < n + 1)
          {c : PlacedClass} (hc : p.Has c) (hnew : c.key ∉ seen) :
          p.SearchesFields field (c.key :: seen) (c.bases p)
            (searchBases (classOf (some p) c.1) (searchClass (some p) field n) (c.key :: seen)
              c.2.bases) := by
        have hless : (unsearched p (c.key :: seen)).length < (unsearched p seen).length :=
          unsearched_cons_lt hc hnew
        exact ih (by omega) hc.1 c.2.bases
      induction es generalizing seen with
      | nil => exact .nil
      | cons e es ihes =>
          rw [List.map_cons]
          cases hbase : classOf (some p) m e with
          | error f =>
              rw [searchBases, hbase]
              exact .unreadable
          | ok base =>
              cases base with
              | none =>
                  rw [searchBases, hbase]
                  exact .skip (by simp) (ihes hn)
              | some c =>
                  have hc : p.Has c := has_of_classOf hm hbase
                  rcases searchBases_cons hbase es with ⟨heq, hends⟩ | ⟨seen', hnone, heq⟩
                  · rw [heq]
                    rcases searchClass_cases n seen c with ⟨-, hsearch⟩ |
                      ⟨hint, hnew, hhint, hsearch⟩ | ⟨hnew, hhint, hsearch⟩
                    · exact absurd hsearch (hends seen)
                    · rw [hsearch]
                      exact .declared hnew hhint
                    · rw [hsearch] at hends ⊢
                      exact .above hnew hhint (habove hn hc hnew) hends
                  · rw [heq]
                    have hgrows := subset_of_searchClass hnone
                    have hle := unsearched_le (p := p) hgrows
                    have hrest := @ihes seen' (by omega)
                    rcases searchClass_cases n seen c with ⟨hseen, hsearch⟩ |
                      ⟨hint, -, -, hsearch⟩ | ⟨hnew, hhint, hsearch⟩
                    · cases hsearch.symm.trans hnone
                      exact .skip (fun d hd => Option.some.inj hd ▸ hseen) hrest
                    · cases hsearch.symm.trans hnone
                    · have hup := habove hn hc hnew
                      rw [← hsearch, hnone] at hup
                      exact .on hnew hhint hup hrest

/-- The search for a field of a type, and what the type of the field is made from. -/
theorem exists_searchesFields {m : SourceModule} (hm : m ∈ p.modules) {e : Expr}
    (hc : classOf (some p) m e.untagged = .ok (some c)) (field : String) :
    ∃ answer, p.SearchesFields field [] [.ok (some c)] answer ∧
      (ofExpr (some e) m (some p)).field? field =
        answer.map fun (found, _) => found.map p.fieldType := by
  refine ⟨searchClass (some p) field (classCount (some p) m + 1) [] c, ?_, ?_⟩
  · have hroom : (unsearched p []).length < classCount (some p) m + 1 := by
      have hle : (unsearched p []).length ≤ p.classKeys.length := List.length_filter_le _ _
      rw [classCount_eq]
      omega
    have h := @searchesFields_searchBases p field _ _ hroom m hm [e.untagged]
    rwa [searchBases_singleton hc, List.map_singleton, hc] at h
  · have hresolved : (ofExpr (some e) m (some p)).field? field =
        (searchClass (some p) field (classCount (some p) m + 1) [] c >>= fun (found, _) =>
          .ok (found.map p.fieldType)) := by
      change (classOf (some p) m e.untagged >>= _) = _
      rw [hc]
      rfl
    rw [hresolved]
    cases searchClass (some p) field (classCount (some p) m + 1) [] c <;> rfl

/-! ### What has been searched -/

/-- What has been searched above a class, apart from the classes on the way: the search has gone
past each of these classes, and has been to all of its bases. -/
def Settled (p : SourceProject) (start : PlacedClass) (field : String)
    (avoid seen : List (String × String)) : Prop :=
  ∀ d, ReflTransGen p.HasBase start d → d.key ∈ seen → d.key ∉ avoid →
    p.Passes field d ∧ ∀ e, p.HasBase d e → e.key ∈ seen

theorem Settled.mono {avoid' : List (String × String)} (h : p.Settled start field avoid seen)
    (havoid : avoid ⊆ avoid') : p.Settled start field avoid' seen :=
  fun _ hd hseen hnew => h _ hd hseen fun hmem => hnew (havoid hmem)

/-- A search goes to a further class. -/
theorem Settled.enter (h : p.Settled start field avoid seen) (key : String × String) :
    p.Settled start field (key :: avoid) (key :: seen) := by
  intro d hd hseen hnew
  obtain ⟨hne, hnew⟩ := List.ne_and_not_mem_of_not_mem_cons hnew
  obtain ⟨hpasses, hbases⟩ := h d hd ((List.mem_cons.mp hseen).resolve_left hne) hnew
  exact ⟨hpasses, fun e he => .tail _ (hbases e he)⟩

/-- A search is done with a class when it has been to all of its bases. -/
theorem Settled.leave (hkeys : p.TellsApart start) (hc : ReflTransGen p.HasBase start c)
    (h : p.Settled start field (c.key :: avoid) seen) (hpasses : p.Passes field c)
    (hbases : ∀ d, p.HasBase c d → d.key ∈ seen) : p.Settled start field avoid seen := by
  intro d hd hseen hnew
  by_cases hkey : d.key = c.key
  · obtain rfl := hkeys d c hd hc hkey
    exact ⟨hpasses, hbases⟩
  · exact h d hd hseen (List.not_mem_cons_of_ne_of_not_mem hkey hnew)

/-- A way from what has been searched stays there. -/
theorem Settled.passes_of_way (h : p.Settled start field avoid seen)
    (hc : ReflTransGen p.HasBase start c) (hseen : c.key ∈ seen)
    (hway : p.Way avoid c is d) : p.Passes field d := by
  induction hway with
  | here hnew => exact (h _ hc hseen hnew).1
  | @up avoid c d e i is hnew hbase _ ih =>
      have hnext : p.HasBase c d := List.mem_of_getElem? hbase
      exact ih (h.mono (List.subset_cons_self _ _)) (hc.tail hnext)
        ((h _ hc hseen hnew).2 _ hnext)

theorem Settled.not_endsAt (h : p.Settled start field avoid seen)
    (hc : ReflTransGen p.HasBase start c) (hseen : c.key ∈ seen) :
    ¬ p.EndsAt field avoid c is out := by
  intro hend
  cases hend with
  | declared hway hhint => cases (h.passes_of_way hc hseen hway).1.symm.trans hhint
  | unreadable hway hbase =>
      exact (h.passes_of_way hc hseen hway).2 _ (List.mem_of_getElem? hbase)

theorem Settled.not_endsAmong (h : p.Settled start field avoid seen) {base : Option PlacedClass}
    (hskip : ∀ c, base = some c → ReflTransGen p.HasBase start c ∧ c.key ∈ seen) :
    ¬ p.EndsAmong field avoid [.ok base] is out := by
  intro hend
  cases hend with
  | unreadable hbase => simp [List.getElem?_singleton] at hbase
  | above hbase hend =>
      obtain ⟨-, hbase⟩ := by simpa [List.getElem?_singleton] using hbase
      obtain ⟨hc, hseen⟩ := hskip _ hbase
      exact h.not_endsAt hc hseen hend

/-- When nothing is on the way any more, a search that has been to a class has gone past all that it
inherits from. -/
theorem Settled.passes (h : p.Settled start field [] seen)
    (hc : ReflTransGen p.HasBase start c) (hseen : c.key ∈ seen)
    (hreach : ReflTransGen p.HasBase c d) : p.Passes field d := by
  induction hreach using ReflTransGen.head_induction_on with
  | refl => exact (h d hc hseen List.not_mem_nil).1
  | head hstep _ ih =>
      exact ih (hc.tail hstep) ((h _ hc hseen List.not_mem_nil).2 _ hstep)

/-! ### Answers -/

/-- What is true of the answer of a search from some bases. Where nothing is found, it could not end
at any of them and has been to all of them; otherwise it ends at the first place. -/
def AnswersFor (p : SourceProject) (start : PlacedClass) (field : String)
    (avoid seen : List (String × String)) (bases : List ResolvedBase) : FieldSearch → Prop
  | .ok (none, seen') => (∀ is out, ¬ p.EndsAmong field avoid bases is out) ∧
      p.Settled start field avoid seen' ∧ seen ⊆ seen' ∧ ∀ c, .ok (some c) ∈ bases → c.key ∈ seen'
  | .ok (some found, _) => IsFirst (p.EndsAmong field avoid bases) (.ok found)
  | .error f => IsFirst (p.EndsAmong field avoid bases) (.error f)

/-- A search that cannot end at the first base goes on with the others. -/
theorem answersFor_cons {base : ResolvedBase} {seen' : List (String × String)}
    {answer : FieldSearch} (hnone : ∀ is out, ¬ p.EndsAmong field avoid [base] is out)
    (hseen : seen ⊆ seen')
    (hbase : ∀ c, base = .ok (some c) → c.key ∈ seen')
    (h : p.AnswersFor start field avoid seen' bases answer) :
    p.AnswersFor start field avoid seen (base :: bases) answer := by
  match answer with
  | .ok (none, seen'') =>
      obtain ⟨hends, hsettled, hgrows, hall⟩ := h
      refine ⟨fun is out hend => ?_, hsettled, List.Subset.trans hseen hgrows, fun c hc => ?_⟩
      · rcases endsAmong_cons_iff.mp hend with ⟨_, -, hend⟩ | ⟨i, js, -, hend⟩
        · exact hnone _ _ hend
        · exact hends _ _ hend
      · rcases List.mem_cons.mp hc with hc | hc
        · exact hgrows (hbase c hc.symm)
        · exact hall c hc
  | .ok (some found, _) => exact IsFirst.tail hnone h
  | .error f => exact IsFirst.tail hnone h

/-- The classes that a search is on the way above are those to avoid, and all else that it has been
to is settled. Then it ends at the first place. -/
theorem answersFor_of_searchesFields (hkeys : p.TellsApart start) {answer : FieldSearch}
    (h : p.SearchesFields field seen bases answer)
    (havoid : avoid ⊆ seen) (hsettled : p.Settled start field avoid seen)
    (hbases : ∀ c, .ok (some c) ∈ bases → ReflTransGen p.HasBase start c) :
    p.AnswersFor start field avoid seen bases answer := by
  induction h generalizing avoid with
  | nil =>
      refine ⟨fun is out h => ?_, hsettled, List.Subset.refl _, fun _ h => nomatch h⟩
      cases h with
      | unreadable h => cases h
      | above h _ => cases h
  | unreadable => exact isFirst_cons (.unreadable rfl) fun _ _ _ => not_precedes_nil
  | @skip seen base bases answer hskip _ ih =>
      have hbase : ∀ c, base = some c → ReflTransGen p.HasBase start c ∧ c.key ∈ seen :=
        fun c hc => ⟨hbases c (hc ▸ List.mem_cons_self), hskip c hc⟩
      refine answersFor_cons (fun _ _ => hsettled.not_endsAmong hbase) (List.Subset.refl _) ?_
        (ih havoid hsettled fun c hc => hbases c (.tail _ hc))
      intro c hc
      exact hskip c (Except.ok.inj hc)
  | @declared seen c bases hint hnew hhint =>
      have hend : p.EndsAt field avoid c [] (.ok (c.1, hint)) :=
        .declared (.here fun hmem => hnew (havoid hmem)) hhint
      exact isFirst_cons (.above rfl hend) fun _ _ _ => not_precedes_nil
  | @above seen c bases answer hnew hhint _ hends ih =>
      have hc : ReflTransGen p.HasBase start c := hbases c List.mem_cons_self
      have hfree : c.key ∉ avoid := fun hmem => hnew (havoid hmem)
      have habove := ih (List.cons_subset_cons _ havoid) (hsettled.enter _)
        fun d hd => hc.tail hd
      match answer with
      | .ok (none, seen') => exact absurd rfl (hends seen')
      | .ok (some found, _) => exact IsFirst.above hfree hhint habove
      | .error f => exact IsFirst.above hfree hhint habove
  | @on seen seen' c bases answer hnew hhint _ _ ihabove ihrest =>
      have hc : ReflTransGen p.HasBase start c := hbases c List.mem_cons_self
      obtain ⟨hends, hsettled', hgrows, hall⟩ := ihabove (List.cons_subset_cons _ havoid)
        (hsettled.enter _) fun d hd => hc.tail hd
      obtain ⟨hseen, hgrows⟩ := List.cons_subset.mp hgrows
      have hpasses : p.Passes field c := by
        refine ⟨hhint, fun f hf => ?_⟩
        obtain ⟨i, hi⟩ := List.mem_iff_getElem?.mp hf
        exact hends _ _ (.unreadable hi)
      have hleft := hsettled'.leave hkeys hc hpasses hall
      refine answersFor_cons (fun _ _ => hleft.not_endsAmong ?_) hgrows ?_
        (ihrest (List.Subset.trans havoid hgrows) hleft fun d hd => hbases d (.tail _ hd))
      · intro d hd
        cases hd
        exact ⟨hc, hseen⟩
      · intro d hd
        cases hd
        exact hseen

/-- The search for a field of a type that refers to a class goes past this class and all that it
inherits from, or it ends at the first place in depth-first order. -/
theorem passes_or_isFirst {m : SourceModule} (hm : m ∈ p.modules) {e : Expr}
    (hc : classOf (some p) m e.untagged = .ok (some c)) (hkeys : p.TellsApart c) (field : String) :
    ((ofExpr (some e) m (some p)).field? field = .ok none ∧
      ∀ d, ReflTransGen p.HasBase c d → p.Passes field d) ∨
    ∃ out, IsFirst (p.EndsAt field [] c) out ∧
      (ofExpr (some e) m (some p)).field? field =
        out.map fun found => some (p.fieldType found) := by
  obtain ⟨answer, hsearch, hfield⟩ := exists_searchesFields hm hc field
  have hanswer : p.AnswersFor c field [] [] [.ok (some c)] answer :=
    answersFor_of_searchesFields hkeys hsearch (List.Subset.refl _)
      (fun _ _ hseen => nomatch hseen) fun d hd => by
        cases List.mem_singleton.mp hd
        exact .refl
  match answer with
  | .ok (none, seen') =>
      refine .inl ⟨hfield, fun d hreach => ?_⟩
      exact hanswer.2.1.passes .refl (hanswer.2.2.2 c List.mem_cons_self) hreach
  | .ok (some found, _) => exact .inr ⟨.ok found, hanswer.endsAt, hfield⟩
  | .error f => exact .inr ⟨.error f, hanswer.endsAt, hfield⟩

/-- The search for a field of a type that refers to a class ends, without help of its bound. It
finds nothing exactly where it goes past this class and all that it inherits from; otherwise it ends
at the first place in depth-first order. If this is a class that declares the field, the type of the
field is the declared one, in the module of the class. If it is a base that cannot be read, the base
quotes a null character or a surrogate. -/
theorem field?_isFirst (hnames : (p.modules.map (·.name.text)).Nodup) {m : SourceModule}
    (hm : m ∈ p.modules) {e : Expr} (hc : classOf (some p) m e.untagged = .ok (some c))
    (field : String) :
    (∃ answer, p.SearchesFields field [] [.ok (some c)] answer ∧
      (ofExpr (some e) m (some p)).field? field =
        answer.map fun (found, _) => found.map p.fieldType) ∧
    ((ofExpr (some e) m (some p)).field? field = .ok none ↔
      ∀ d, ReflTransGen p.HasBase c d → p.Passes field d) ∧
    ((∃ d, ReflTransGen p.HasBase c d ∧ ¬ p.Passes field d) →
      ∃ out, IsFirst (p.EndsAt field [] c) out ∧
        (ofExpr (some e) m (some p)).field? field =
          out.map (fun found => some (p.fieldType found)) ∧
        ∀ e, out = .error e → ∃ f ∈ Expr.unreadFaults, e = .fault f) := by
  have hkeys : p.TellsApart c := tellsApart_of_nodup hnames (has_of_classOf hm hc)
  refine ⟨exists_searchesFields hm hc field, ?_⟩
  rcases passes_or_isFirst hm hc hkeys field with ⟨hfield, hpasses⟩ | ⟨out, hfirst, hfield⟩
  · refine ⟨iff_of_true hfield hpasses, ?_⟩
    rintro ⟨d, hreach, hnot⟩
    exact absurd (hpasses d hreach) hnot
  · obtain ⟨is, hend, hleast⟩ := hfirst
    have hfound : (ofExpr (some e) m (some p)).field? field ≠ .ok none := by
      rw [hfield]
      cases out <;> exact fun h => nomatch h
    refine ⟨iff_of_false hfound fun hall => not_endsAt_of_passes hall hend, fun _ => ?_⟩
    refine ⟨out, ⟨is, hend, hleast⟩, hfield, ?_⟩
    rintro e rfl
    obtain ⟨f, he, hquotes⟩ :=
      field?_error (fun _ => True) (fun _ => trivial) (fun _ _ => trivial) hfield
    refine ⟨f, ?_, he⟩
    rcases hquotes with ⟨_, -, hunread⟩ | ⟨_, -, _, -, hunread⟩ <;> exact hunread.fault

end

/-! ### Classes in a circle -/

/-- A module with a class that inherits from one of groups. -/
def nodes : SourceModule where
  name := ⟨"nodes", false⟩
  path := "nodes.py"
  body := [.importFrom (some "groups") [{ name := "Group" }] 0,
    .classDef [] "Node" [.name "Group"] [] [.pass]]

/-- A module with a class that inherits from the one of nodes, and from items. -/
def groups : SourceModule where
  name := ⟨"groups", false⟩
  path := "groups.py"
  body := [.importFrom (some "nodes") [{ name := "Node" }] 0,
    .importFrom (some "items") [{ name := "Item" }] 0,
    .classDef [] "Group" [.name "Node", Expr.string "Item"] [] [.pass]]

def items : SourceModule where
  name := ⟨"items", false⟩
  path := "items.py"
  body := [.classDef [] "Item" [] [] [.declare (.name "id") (.name "int") none true]]

def nodeProject : SourceProject := ⟨[groups, items, nodes]⟩

theorem field?_isFirst_nodes :
    (nodeProject.modules.map (·.name.text)).Nodup ∧ nodes ∈ nodeProject.modules ∧
      ∃ c, classOf (some nodeProject) nodes (Expr.name "Node").untagged = .ok (some c) ∧
        TransGen nodeProject.HasBase c c ∧
        (∃ out, IsFirst (nodeProject.EndsAt "id" [] c) out ∧
          out.map (fun found => some (nodeProject.fieldType found)) =
            .ok (some (ofExpr (some (.name "int")) items (some nodeProject)))) ∧
        ∀ d, ReflTransGen nodeProject.HasBase c d → nodeProject.Passes "name" d := by
  have hnames : (nodeProject.modules.map (·.name.text)).Nodup := by decide
  have hmem : nodes ∈ nodeProject.modules := .tail _ (.tail _ (.head _))
  let node : PlacedClass := (nodes, ⟨"Node", [], [.name "Group"], [.pass]⟩)
  let group : PlacedClass := (groups, ⟨"Group", [], [.name "Node", Expr.string "Item"], [.pass]⟩)
  let item : PlacedClass :=
    (items, ⟨"Item", [], [], [.declare (.name "id") (.name "int") none true]⟩)
  have hc : classOf (some nodeProject) nodes (Expr.name "Node").untagged = .ok (some node) := rfl
  have hgroup : nodeProject.HasBase node group := List.mem_of_getElem? (i := 0) rfl
  have hnode : nodeProject.HasBase group node := List.mem_of_getElem? (i := 0) rfl
  have hitem : nodeProject.HasBase group item := List.mem_of_getElem? (i := 1) rfl
  refine ⟨hnames, hmem, node, hc, .tail (.single hgroup) hnode, ?_, ?_⟩
  · have hnot : ¬ nodeProject.Passes "id" item := fun h => nomatch h.1
    obtain ⟨out, hfirst, hfield, -⟩ := (field?_isFirst hnames hmem hc "id").2.2
      ⟨item, .tail (.tail .refl hgroup) hitem, hnot⟩
    exact ⟨out, hfirst, hfield.symm⟩
  · exact (field?_isFirst hnames hmem hc "name").2.1.mp rfl

/-- A module whose class has a base that quotes a null character. -/
def records : SourceModule where
  name := ⟨"records", false⟩
  path := "records.py"
  body := [.classDef [] "Record" [Expr.string (String.ofList [Char.ofNat 0])] []
    [.declare (.name "name") (.name "str") none true]]

def recordProject : SourceProject := ⟨[records]⟩

/-- A search that finds no class with the field need not find nothing. -/
theorem not_field?_none_iff_undeclared :
    ¬ ∀ (p : SourceProject) (m : SourceModule) (e : Expr) (c : PlacedClass) (field : String),
      (p.modules.map (·.name.text)).Nodup → m ∈ p.modules →
      classOf (some p) m e.untagged = .ok (some c) →
      ((ofExpr (some e) m (some p)).field? field = .ok none ↔
        ∀ d, ReflTransGen p.HasBase c d → d.hint? field = none) := by
  intro hall
  let record : PlacedClass := (records, ⟨"Record", [], [Expr.string (String.ofList [Char.ofNat 0])],
    [.declare (.name "name") (.name "str") none true]⟩)
  have hlone (d : PlacedClass) : ¬ recordProject.HasBase record d := by
    intro hbase
    cases List.mem_singleton.mp hbase
  have hundeclared (d : PlacedClass) (hreach : ReflTransGen recordProject.HasBase record d) :
      d.hint? "id" = none := by
    rcases hreach.cases_head with rfl | ⟨e, hbase, -⟩
    · rfl
    · exact absurd hbase (hlone e)
  have hfield := (hall recordProject records (.name "Record") record "id" (List.nodup_singleton _)
    List.mem_cons_self rfl).mpr hundeclared
  have hfault : (ofExpr (some (.name "Record")) records (some recordProject)).field? "id" =
      .error (.fault .nullCharacter) := rfl
  exact nomatch hfault.symm.trans hfield

end SourceProject

end TypedClients
