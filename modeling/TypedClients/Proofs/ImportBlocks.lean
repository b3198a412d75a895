import Mathlib.Data.List.Nodup
import Mathlib.Data.Prod.Lex
import Mathlib.Data.String.Basic
import TypedClients.Proofs.ImportMeanings

/-!
# The block of imports

Whatever is added to the imports of a module, in any order and any number of times, the statements
depend only on the set of what is added: `statements_of_steps`. What they look like is told by
lines. There is one for every module that is imported as a whole under some name, and one for every
module that names are taken from.
-/
namespace TypedClients

open TypedClients.Code

/-! ### Lines -/

/-- A line of the block: a module as a whole, or names of one. -/
inductive ImportLine where
  | whole (module : String) (localName : Option String)
  | taken (source : String) (names : List (String × Option String))
  deriving DecidableEq, Repr

/-- An imported thing as it is written: an empty name for itself is left out. -/
def writtenAs (name : String) (localName : Option String) : Imported :=
  ⟨name, if localName = some "" then none else localName⟩

namespace ImportLine

/-- How a statement is written for a line. The leading dots of a module are counted, and what stands
behind them has none. -/
inductive WrittenBy : ImportLine → Stmt → Prop
  | whole (module : String) (localName : Option String) :
      WrittenBy (.whole module localName) (.importModules [writtenAs module localName])
  | taken {source : String} {level : ℕ} {rest : Option String}
      (hsource : String.ofList (List.replicate level '.') ++ rest.getD "" = source)
      (hrest : rest ≠ some "" ∧ (rest.getD "").toList.head? ≠ some '.')
      (names : List (String × Option String)) :
      WrittenBy (.taken source names)
        (.importFrom rest (names.map fun n => writtenAs n.1 n.2) level)

/-- The module that a line is about. -/
def module : ImportLine → String
  | whole m _ => m
  | taken source _ => source

/-- The module that a line takes names from. -/
def source? : ImportLine → Option String
  | whole _ _ => none
  | taken source _ => some source

end ImportLine

/-- Standard modules come first, relative ones last. -/
def ModuleKind.rank : ModuleKind → ℕ
  | .standard => 0
  | .external => 1
  | .relative => 2

/-- The place of a line: by the kind of its module, whole modules first, by the module. -/
def ImportLine.place (l : ImportLine) : ℕ ×ₗ ℕ ×ₗ String :=
  toLex ((ModuleKind.ofModule l.module).rank, toLex (if l.source?.isSome then 1 else 0, l.module))

/-- The place of a name in its line: by the name, then by what it is bound to. -/
def namePlace (n : String × Option String) : String ×ₗ String := toLex (n.1, n.2.getD "")

/-- The statements for some imports, with their lines: every import is in exactly one line, and the
lines come in order. -/
structure ImportBlock (refs : List ImportRef) (lines : List ImportLine) (stmts : List Stmt) :
    Prop where
  written : List.Forall₂ ImportLine.WrittenBy lines stmts
  ordered : lines.Pairwise fun a b => a.place ≤ b.place
  nodup : lines.Nodup
  whole : ∀ module localName, .whole module localName ∈ lines ↔ ⟨module, none, localName⟩ ∈ refs
  sources : (lines.filterMap ImportLine.source?).Nodup
  taken : ∀ source name localName, ⟨source, some name, localName⟩ ∈ refs →
    ∃ names, .taken source names ∈ lines
  names : ∀ source names, .taken source names ∈ lines →
    names ≠ [] ∧ names.Nodup ∧ names.Pairwise (fun a b => namePlace a ≤ namePlace b) ∧
      ∀ n, n ∈ names ↔ ⟨source, some n.1, n.2⟩ ∈ refs

/-! ### Steps -/

/-- A way to add to the imports of a module: a name of a module, a module, or what a type or several
types need. -/
inductive ImportStep where
  | takeName (source name : String) (localName : Option String)
  | takeModule (module : String) (localName : Option String)
  | need (ref : ImportRef)
  | needAll (refs : List ImportRef)
  deriving DecidableEq, Repr

namespace ImportStep

def apply (i : Imports) : ImportStep → Imports
  | takeName source name localName => i.insert ⟨source, some name, localName⟩
  | takeModule module localName => i.insert ⟨module, none, localName⟩
  | need ref => i.require ref
  | needAll refs => i.requireAll refs

/-- What a step adds. The built-in names that a type needs are none of it. -/
def added : ImportStep → List ImportRef
  | takeName source name localName => [⟨source, some name, localName⟩]
  | takeModule module localName => [⟨module, none, localName⟩]
  | need ref => [ref].filter (·.module != Imports.builtinModule)
  | needAll refs => refs.filter (·.module != Imports.builtinModule)

end ImportStep

namespace Imports

/-- The imports after some steps. -/
def ofSteps (steps : List ImportStep) : Imports := steps.foldl ImportStep.apply {}

theorem nodup_insert {i : Imports} (h : i.refs.Nodup) (ref : ImportRef) :
    (i.insert ref).refs.Nodup := by
  unfold insert
  split
  · exact h
  · rename_i hnew
    exact h.append (List.nodup_singleton ref) (by simpa using hnew)

theorem nodup_require {i : Imports} (h : i.refs.Nodup) (ref : ImportRef) :
    (i.require ref).refs.Nodup := by
  unfold require
  split
  · exact h
  · exact nodup_insert h ref

theorem nodup_requireAll {i : Imports} (h : i.refs.Nodup) (refs : List ImportRef) :
    (i.requireAll refs).refs.Nodup := by
  induction refs generalizing i with
  | nil => exact h
  | cons ref refs ih => exact ih (nodup_require h ref)

theorem nodup_apply {i : Imports} (h : i.refs.Nodup) (step : ImportStep) :
    (step.apply i).refs.Nodup := by
  cases step with
  | takeName => exact nodup_insert h _
  | takeModule => exact nodup_insert h _
  | need ref => exact nodup_require h ref
  | needAll refs => exact nodup_requireAll h refs

theorem mem_apply_iff {i : Imports} {step : ImportStep} {r : ImportRef} :
    r ∈ (step.apply i).refs ↔ r ∈ i.refs ∨ r ∈ step.added := by
  cases step with
  | takeName | takeModule => simp [ImportStep.apply, ImportStep.added, mem_insert_iff]
  | need ref =>
      simp only [ImportStep.apply, ImportStep.added, mem_require_iff, List.mem_filter,
        List.mem_singleton, bne_iff_ne]
  | needAll refs =>
      simp only [ImportStep.apply, ImportStep.added, mem_requireAll_iff, List.mem_filter,
        bne_iff_ne]

/-- Steps add what they add, and nothing twice. -/
theorem refs_foldl_apply (steps : List ImportStep) {i : Imports} (h : i.refs.Nodup) :
    (steps.foldl ImportStep.apply i).refs.Nodup ∧
      ∀ r, r ∈ (steps.foldl ImportStep.apply i).refs ↔
        r ∈ i.refs ∨ r ∈ steps.flatMap ImportStep.added := by
  induction steps generalizing i with
  | nil => simpa using h
  | cons step steps ih =>
      obtain ⟨hnodup, hmem⟩ := ih (nodup_apply h step)
      refine ⟨hnodup, fun r => ?_⟩
      rw [List.foldl_cons, hmem, mem_apply_iff, List.flatMap_cons, List.mem_append, or_assoc]

theorem refs_ofSteps (steps : List ImportStep) :
    (ofSteps steps).refs.Nodup ∧
      ∀ r, r ∈ (ofSteps steps).refs ↔ r ∈ steps.flatMap ImportStep.added := by
  obtain ⟨hnodup, hmem⟩ := refs_foldl_apply steps (i := {}) List.nodup_nil
  refine ⟨hnodup, fun r => (hmem r).trans ?_⟩
  simp

/-! ### Orders -/

theorem nameOrder_iff {a b : String × Option String} :
    nameOrder a b = true ↔ namePlace a ≤ namePlace b := by
  simp [nameOrder, namePlace, Prod.Lex.toLex_le_toLex]

theorem pairwise_nameOrder (ns : List (String × Option String)) :
    (ns.mergeSort nameOrder).Pairwise fun a b => namePlace a ≤ namePlace b := by
  have hsorted : (ns.mergeSort nameOrder).Pairwise fun a b => nameOrder a b = true := by
    refine List.pairwise_mergeSort (fun a b c => ?_) (fun a b => ?_) ns
    · simp only [nameOrder_iff]
      exact le_trans
    · rw [Bool.or_eq_true, nameOrder_iff, nameOrder_iff]
      exact le_total _ _
  exact hsorted.imp nameOrder_iff.mp

theorem pairwise_sourceModules (i : Imports) : i.sourceModules.Pairwise (· ≤ ·) := by
  have hsorted : i.sourceModules.Pairwise fun a b => decide (a ≤ b) = true := by
    refine List.pairwise_mergeSort (fun a b c => ?_) (fun a b => ?_) _
    · simpa using le_trans
    · simpa using le_total a b
  exact hsorted.imp (by simp)

theorem nodup_eraseDups {α : Type} [DecidableEq α] (as : List α) : as.eraseDups.Nodup := by
  induction hn : as.length using Nat.strongRecOn generalizing as with
  | _ n ih =>
      cases as with
      | nil => simp
      | cons a as =>
          have hless : (as.filter fun b => !b == a).length < n := by
            rw [← hn, List.length_cons]
            exact Nat.lt_succ_of_le (List.length_filter_le _ as)
          rw [List.eraseDups_cons]
          exact List.nodup_cons.mpr ⟨by simp [List.mem_eraseDups], ih _ hless _ rfl⟩

theorem nodup_sourceModules (i : Imports) : i.sourceModules.Nodup :=
  (List.mergeSort_perm _ _).nodup_iff.mpr (nodup_eraseDups _)

theorem nodup_plainModules {i : Imports} (h : i.refs.Nodup) : i.plainModules.Nodup := by
  refine (List.mergeSort_perm _ _).nodup_iff.mpr (List.Nodup.filterMap ?_ h)
  rintro ⟨module, _ | name, localName⟩ ⟨module', _ | name', localName'⟩ m hm hm' <;> cases hm
  · cases hm'
    rfl
  · cases hm'

theorem nodup_namesFrom {i : Imports} (h : i.refs.Nodup) (module : String) :
    (i.namesFrom module).Nodup := by
  refine (List.mergeSort_perm _ _).nodup_iff.mpr (List.Nodup.filterMap ?_ h)
  rintro ⟨source, name, localName⟩ ⟨source', name', localName'⟩ n hn hn'
  simp only [Option.mem_def, Option.ite_none_right_eq_some, Option.map_eq_some_iff] at hn hn'
  obtain ⟨rfl, a, rfl, rfl⟩ := hn
  obtain ⟨rfl, b, rfl, hb⟩ := hn'
  cases hb
  rfl

/-! ### The lines of the statements -/

/-- The lines for the modules of one kind. -/
def linesOf (i : Imports) (kind : ModuleKind) : List ImportLine :=
  ((i.plainModules.filter (ModuleKind.ofModule ·.1 == kind)).map fun m => .whole m.1 m.2) ++
    ((i.sourceModules.filter (ModuleKind.ofModule · == kind)).map fun m =>
      .taken m (i.namesFrom m))

def lines (i : Imports) : List ImportLine :=
  [.standard, .external, .relative].flatMap i.linesOf

theorem mem_linesOf_iff {i : Imports} {kind : ModuleKind} {l : ImportLine} :
    l ∈ i.linesOf kind ↔ ModuleKind.ofModule l.module = kind ∧ l ∈ i.lines := by
  have hkinds : ∀ kind : ModuleKind, kind ∈ [ModuleKind.standard, .external, .relative] := by
    intro kind
    cases kind <;> simp
  have hkind : ∀ kind, l ∈ i.linesOf kind → ModuleKind.ofModule l.module = kind := by
    intro kind hl
    rcases List.mem_append.mp hl with hl | hl
    · obtain ⟨m, hm, rfl⟩ := List.mem_map.mp hl
      exact eq_of_beq (List.mem_filter.mp hm).2
    · obtain ⟨m, hm, rfl⟩ := List.mem_map.mp hl
      exact eq_of_beq (List.mem_filter.mp hm).2
  constructor
  · exact fun hl => ⟨hkind kind hl, List.mem_flatMap.mpr ⟨kind, hkinds kind, hl⟩⟩
  · rintro ⟨rfl, hl⟩
    obtain ⟨kind, -, hl⟩ := List.mem_flatMap.mp hl
    rwa [hkind kind hl]

theorem whole_mem_lines_iff {i : Imports} {module : String} {localName : Option String} :
    .whole module localName ∈ i.lines ↔ ⟨module, none, localName⟩ ∈ i.refs := by
  have hline : .whole module localName ∈ i.lines ↔
      .whole module localName ∈ i.linesOf (.ofModule module) := by
    rw [mem_linesOf_iff, ImportLine.module, and_iff_right rfl]
  rw [hline, ← mem_plainModules_iff (m := (module, localName))]
  simp [linesOf]

theorem taken_mem_lines_iff {i : Imports} {source : String} {names : List (String × Option String)} :
    .taken source names ∈ i.lines ↔ source ∈ i.sourceModules ∧ names = i.namesFrom source := by
  have hline : .taken source names ∈ i.lines ↔
      .taken source names ∈ i.linesOf (.ofModule source) := by
    rw [mem_linesOf_iff, ImportLine.module, and_iff_right rfl]
  rw [hline, linesOf, List.mem_append, List.mem_map, List.mem_map]
  constructor
  · rintro (⟨m, -, h⟩ | ⟨m, hm, h⟩)
    · cases h
    · cases h
      exact ⟨(List.mem_filter.mp hm).1, rfl⟩
  · rintro ⟨hsource, rfl⟩
    exact .inr ⟨source, List.mem_filter.mpr ⟨hsource, beq_self_eq_true _⟩, rfl⟩

theorem place_le_place {a b : ImportLine}
    (hkind : ModuleKind.ofModule a.module = ModuleKind.ofModule b.module)
    (hsource : a.source?.isSome = b.source?.isSome) (h : a.module ≤ b.module) :
    a.place ≤ b.place := by
  rw [ImportLine.place, ImportLine.place, hkind, hsource]
  exact Prod.Lex.toLex_mono ⟨le_rfl, Prod.Lex.toLex_mono ⟨le_rfl, h⟩⟩

/-- The lines of one kind come in order: whole modules first, and both by the module. -/
theorem ordered_linesOf (i : Imports) (kind : ModuleKind) :
    (i.linesOf kind).Pairwise fun a b => a.place ≤ b.place := by
  have hwhole : i.plainModules.Pairwise fun m n => m.1 ≤ n.1 :=
    (pairwise_nameOrder _).imp fun h => by
      rcases Prod.Lex.le_iff.mp h with h | ⟨h, -⟩
      · exact le_of_lt h
      · exact le_of_eq h
  refine List.pairwise_append.mpr ⟨List.pairwise_map.mpr ?_, List.pairwise_map.mpr ?_, ?_⟩
  · refine (hwhole.filter _).imp_of_mem fun hm hn h => place_le_place ?_ rfl h
    exact (eq_of_beq (List.mem_filter.mp hm).2).trans (eq_of_beq (List.mem_filter.mp hn).2).symm
  · refine (i.pairwise_sourceModules.filter _).imp_of_mem fun hm hn h => place_le_place ?_ rfl h
    exact (eq_of_beq (List.mem_filter.mp hm).2).trans (eq_of_beq (List.mem_filter.mp hn).2).symm
  · rintro a ha b hb
    obtain ⟨m, hm, rfl⟩ := List.mem_map.mp ha
    obtain ⟨n, hn, rfl⟩ := List.mem_map.mp hb
    have hkind : ModuleKind.ofModule m.1 = ModuleKind.ofModule n :=
      (eq_of_beq (List.mem_filter.mp hm).2).trans (eq_of_beq (List.mem_filter.mp hn).2).symm
    rw [ImportLine.place, ImportLine.place, ImportLine.module, ImportLine.module, hkind]
    exact Prod.Lex.toLex_le_toLex.mpr
      (.inr ⟨rfl, Prod.Lex.toLex_le_toLex.mpr (.inl Nat.zero_lt_one)⟩)

theorem ordered_lines (i : Imports) : i.lines.Pairwise fun a b => a.place ≤ b.place := by
  refine List.pairwise_flatMap.mpr ⟨fun kind _ => i.ordered_linesOf kind, ?_⟩
  have hranks : [ModuleKind.standard, .external, .relative].Pairwise fun k k' => k.rank < k'.rank := by
    decide
  refine hranks.imp fun hrank a ha b hb => ?_
  obtain ⟨rfl, -⟩ := mem_linesOf_iff.mp ha
  obtain ⟨rfl, -⟩ := mem_linesOf_iff.mp hb
  exact Prod.Lex.toLex_le_toLex.mpr (.inl hrank)

theorem nodup_lines {i : Imports} (h : i.refs.Nodup) : i.lines.Nodup := by
  refine List.nodup_flatMap.mpr ⟨fun kind _ => List.nodup_append.mpr ⟨?_, ?_, ?_⟩, ?_⟩
  · refine ((nodup_plainModules h).filter _).map fun m n hmn => ?_
    injection hmn with hmodule hlocal
    exact Prod.ext hmodule hlocal
  · refine (i.nodup_sourceModules.filter _).map fun m n hmn => ?_
    injection hmn
  · rintro a ha b hb rfl
    obtain ⟨m, -, rfl⟩ := List.mem_map.mp ha
    obtain ⟨n, -, hb⟩ := List.mem_map.mp hb
    cases hb
  · have hkinds : [ModuleKind.standard, .external, .relative].Pairwise (· ≠ ·) := by decide
    refine hkinds.imp fun hne a ha hb => hne ?_
    exact (mem_linesOf_iff.mp ha).1.symm.trans (mem_linesOf_iff.mp hb).1

theorem nodup_sources {i : Imports} (h : i.refs.Nodup) :
    (i.lines.filterMap ImportLine.source?).Nodup := by
  have htaken : ∀ {l source}, l ∈ i.lines → l.source? = some source →
      l = .taken source (i.namesFrom source) := by
    intro l source hl hsource
    cases l with
    | whole => cases hsource
    | taken source' names =>
        cases hsource
        rw [(taken_mem_lines_iff.mp hl).2]
  refine List.pairwise_filterMap.mpr ((nodup_lines h).imp_of_mem ?_)
  rintro a b ha hb hne source hsource _ hsource' rfl
  exact hne ((htaken ha hsource).trans (htaken hb hsource').symm)

/-- The statement for a line. -/
def stmtOf : ImportLine → Stmt
  | .whole module localName => plainStatement (module, localName)
  | .taken source names => fromStatement source names

theorem statements_eq_map (i : Imports) : i.statements = i.lines.map stmtOf := by
  simp only [statements, lines, List.map_flatMap]
  refine congrArg (List.flatMap · _) (funext fun kind => ?_)
  simp [statementsOf, linesOf, stmtOf, Function.comp_def]

theorem imported_eq (name : String) (localName : Option String) :
    imported name localName = writtenAs name localName := by
  rcases localName with _ | own
  · rfl
  · by_cases hown : own = "" <;> simp [imported, writtenAs, hown]

theorem head?_relativeParts (module : String) :
    (relativeParts module).2.toList.head? ≠ some '.' := by
  intro hdot
  have hne := List.head?_dropWhile_not (· == '.') module.toList
  rw [relativeParts, String.toList_ofList] at hdot
  rw [hdot] at hne
  cases hne

theorem writtenBy_stmtOf (l : ImportLine) : l.WrittenBy (stmtOf l) := by
  cases l with
  | whole module localName =>
      rw [stmtOf, plainStatement, imported_eq]
      exact .whole module localName
  | taken source names =>
      have hstmt : stmtOf (.taken source names) = .importFrom
          (if (relativeParts source).2 = "" then none else some (relativeParts source).2)
          (names.map fun n => writtenAs n.1 n.2) (relativeParts source).1 := by
        simp only [stmtOf, fromStatement, imported_eq]
      have hjoin := relativeParts_join source
      have hhead := head?_relativeParts source
      rw [hstmt]
      generalize relativeParts source = parts at hjoin hhead ⊢
      split
      · rename_i hrest
        rw [hrest] at hjoin
        exact .taken hjoin ⟨by simp, by simp⟩ names
      · rename_i hrest
        exact .taken hjoin ⟨by simpa using hrest, by simpa using hhead⟩ names

/-! ### One block for one set -/

/-- The block of imports that hold no thing twice. -/
theorem importBlock_statements {i : Imports} (h : i.refs.Nodup) :
    ImportBlock i.refs i.lines i.statements where
  written := by
    rw [statements_eq_map, List.forall₂_map_right_iff, List.forall₂_same]
    exact fun l _ => writtenBy_stmtOf l
  ordered := i.ordered_lines
  nodup := nodup_lines h
  whole _ _ := whole_mem_lines_iff
  sources := nodup_sources h
  taken source name localName href := by
    refine ⟨i.namesFrom source, taken_mem_lines_iff.mpr ⟨?_, rfl⟩⟩
    exact mem_sourceModules_iff.mpr ⟨(name, localName), mem_namesFrom_iff.mpr href⟩
  names source names hline := by
    obtain ⟨hsource, rfl⟩ := taken_mem_lines_iff.mp hline
    obtain ⟨n, hn⟩ := mem_sourceModules_iff.mp hsource
    exact ⟨List.ne_nil_of_mem hn, nodup_namesFrom h source, pairwise_nameOrder _,
      fun _ => mem_namesFrom_iff⟩

/-- The thing that is written at a place. -/
def importedAt (place : String ×ₗ String) : Imported :=
  ⟨(ofLex place).1, if (ofLex place).2 = "" then none else some (ofLex place).2⟩

/-- How a thing is written depends on its place only: an empty name for itself is as good as none,
and has the same place. -/
theorem importedAt_namePlace (n : String × Option String) :
    importedAt (namePlace n) = imported n.1 n.2 := by
  obtain ⟨name, _ | own⟩ := n
  · rfl
  · by_cases hown : own = "" <;> simp [importedAt, namePlace, imported, Option.filter, hown]

theorem map_namePlace_eq {ns ns' : List (String × Option String)} (h : ns.Perm ns') :
    (ns.mergeSort nameOrder).map namePlace = (ns'.mergeSort nameOrder).map namePlace := by
  refine List.Perm.eq_of_pairwise (fun a b _ _ => le_antisymm)
    (List.pairwise_map.mpr (pairwise_nameOrder ns)) (List.pairwise_map.mpr (pairwise_nameOrder ns'))
    (List.Perm.map _ ?_)
  exact (List.mergeSort_perm _ _).trans (h.trans (List.mergeSort_perm _ _).symm)

section

variable {i j : Imports} (h : i.refs.Perm j.refs)

include h

theorem sourceModules_eq : i.sourceModules = j.sourceModules := by
  refine List.Perm.eq_of_pairwise (fun a b _ _ => le_antisymm) i.pairwise_sourceModules
    j.pairwise_sourceModules ?_
  refine (List.perm_ext_iff_of_nodup i.nodup_sourceModules j.nodup_sourceModules).mpr fun m => ?_
  simp only [mem_sourceModules_iff, mem_namesFrom_iff, h.mem_iff]

theorem fromStatement_eq (source : String) :
    fromStatement source (i.namesFrom source) = fromStatement source (j.namesFrom source) := by
  have hplaces : (i.namesFrom source).map namePlace = (j.namesFrom source).map namePlace :=
    map_namePlace_eq (h.filterMap _)
  have hnames : ∀ ns : List (String × Option String),
      ns.map (fun n => imported n.1 n.2) = (ns.map namePlace).map importedAt := by
    intro ns
    simp [importedAt_namePlace]
  simp only [fromStatement, hnames, hplaces]

theorem plainStatements_eq (kind : ModuleKind) :
    (i.plainModules.filter (ModuleKind.ofModule ·.1 == kind)).map plainStatement =
      (j.plainModules.filter (ModuleKind.ofModule ·.1 == kind)).map plainStatement := by
  have hplaces : i.plainModules.map namePlace = j.plainModules.map namePlace :=
    map_namePlace_eq (h.filterMap _)
  have hstatements : ∀ ms : List (String × Option String),
      (ms.filter (ModuleKind.ofModule ·.1 == kind)).map plainStatement =
        ((ms.map namePlace).filter fun p => ModuleKind.ofModule (ofLex p).1 == kind).map
          fun p => .importModules [importedAt p] := by
    intro ms
    simp only [List.filter_map, List.map_map, Function.comp_def, importedAt_namePlace]
    rfl
  rw [hstatements, hstatements, hplaces]

/-- The order in which imports are held plays no part in their statements. -/
theorem statements_eq : i.statements = j.statements := by
  refine congrArg (List.flatMap · _) (funext fun kind => ?_)
  simp only [statementsOf, plainStatements_eq h kind, sourceModules_eq h, fromStatement_eq h]

end

/-- Steps that add the same things give the same statements, and these list what is added. -/
theorem statements_of_steps {steps steps' : List ImportStep}
    (h : ∀ r, r ∈ steps.flatMap ImportStep.added ↔ r ∈ steps'.flatMap ImportStep.added) :
    (ofSteps steps).statements = (ofSteps steps').statements ∧
      ∃ lines, ImportBlock (steps.flatMap ImportStep.added) lines (ofSteps steps).statements := by
  obtain ⟨hnodup, hmem⟩ := refs_ofSteps steps
  obtain ⟨hnodup', hmem'⟩ := refs_ofSteps steps'
  refine ⟨statements_eq ((List.perm_ext_iff_of_nodup hnodup hnodup').mpr fun r => ?_), ?_⟩
  · rw [hmem, h, hmem']
  · have hblock := importBlock_statements hnodup
    exact ⟨_, { hblock with
      whole := fun module localName => (hblock.whole module localName).trans (hmem _)
      taken := fun source name localName href =>
        hblock.taken source name localName ((hmem _).mpr href)
      names := fun source names hline => by
        obtain ⟨hne, hnames, hordered, hrefs⟩ := hblock.names source names hline
        exact ⟨hne, hnames, hordered, fun n => (hrefs n).trans (hmem _)⟩ }⟩

/-- Types that need names of one module, and a module as a whole. -/
def modelSteps : List ImportStep :=
  [.takeName "api_runtime" "request" none, .need ⟨".models", some "User", some "Owner"⟩,
    .takeModule "typing" none, .needAll [⟨".models", some "Post", none⟩, ⟨"builtins", some "int", none⟩],
    .need ⟨".models", some "User", some "Owner"⟩]

/-- The same things in another order, none of them twice. -/
def reorderedSteps : List ImportStep :=
  [.needAll [⟨".models", some "Post", none⟩, ⟨".models", some "User", some "Owner"⟩],
    .takeModule "typing" none, .takeName "api_runtime" "request" none]

theorem statements_of_steps_models :
    (∀ r, r ∈ modelSteps.flatMap ImportStep.added ↔ r ∈ reorderedSteps.flatMap ImportStep.added) ∧
      modelSteps.flatMap ImportStep.added ≠ reorderedSteps.flatMap ImportStep.added ∧
      (ofSteps modelSteps).statements = (ofSteps reorderedSteps).statements ∧
      ∃ lines names, ImportBlock (modelSteps.flatMap ImportStep.added) lines
          (ofSteps modelSteps).statements ∧
        .taken ".models" names ∈ lines ∧ names.Nodup ∧
          ∀ n, n ∈ names ↔ n = ("Post", none) ∨ n = ("User", some "Owner") := by
  have hsame : ∀ r, r ∈ modelSteps.flatMap ImportStep.added ↔
      r ∈ reorderedSteps.flatMap ImportStep.added := by
    intro r
    simp only [modelSteps, reorderedSteps, List.flatMap_cons, List.flatMap_nil, ImportStep.added]
    simp [builtinModule]
    tauto
  obtain ⟨heq, lines, hblock⟩ := statements_of_steps hsame
  obtain ⟨names, hline⟩ := hblock.taken ".models" "Post" none (by decide)
  obtain ⟨-, hnodup, -, hnames⟩ := hblock.names ".models" names hline
  refine ⟨hsame, by decide, heq, lines, names, hblock, hline, hnodup, fun n => (hnames n).trans ?_⟩
  obtain ⟨name, localName⟩ := n
  simp [modelSteps, ImportStep.added, builtinModule]
  tauto

end Imports

end TypedClients
