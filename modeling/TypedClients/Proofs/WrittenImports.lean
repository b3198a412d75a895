import TypedClients.Code.Stmt.Print
import TypedClients.Proofs.ImportMeanings
import TypedClients.Proofs.PackageNames
import TypedClients.Proofs.ReadStatements
import TypedClients.Proofs.Readers

/-!
# Imports are read back

The statement for an import of names that are written as they are is read back as that import:
`isWritable_of_isNamed`. Without a module it is no statement: `not_isWritable_of_empty`.
-/
namespace TypedClients.Code

open TypedClients.Text
open Token ModuleName

/-! ### Texts of import statements -/

/-- The text that gives an imported thing a name of its own. -/
def aliasText : Option String → List Char
  | none => []
  | some n => ' ' :: ("as".toList ++ ' ' :: n.toList)

def aliasTokens : Option String → List Token
  | none => []
  | some n => [.word "as", .name n]

/-- The tokens of a dotted name. -/
def dottedTokens : List String → List Token
  | [] => []
  | [c] => [.name c]
  | c :: cs => .name c :: .op "." :: dottedTokens cs

theorem toList_render (n : String) (own : Option String) :
    (Imported.render ⟨n, own⟩).toList = n.toList ++ aliasText own := by
  cases own <;> simp [Imported.render, aliasText]

theorem breaks_blank (cs : List Char) : Breaks (' ' :: cs) := by
  simp [Breaks]
  decide

theorem breaks_aliasText (own : Option String) : Breaks (aliasText own) := by
  cases own with
  | none => exact stops_nil.1
  | some n => exact breaks_blank _

theorem scansTo_aliasText {own : Option String} (hown : ∀ n ∈ own, IsName n) :
    ScansTo (aliasText own) (aliasTokens own) 0 := by
  cases own with
  | none => exact scansTo_nil
  | some n =>
      have hname := scansTo_name (hown n rfl) stops_nil.1 scansTo_nil
      rw [List.append_nil] at hname
      refine scansTo_blank ?_
      exact scansTo_word (by decide) (by decide) (breaks_blank _) (scansTo_blank hname)

theorem toList_dotted_cons (c : String) {cs : List String} (h : cs ≠ []) :
    (ofComponents (c :: cs)).toList = c.toList ++ '.' :: (ofComponents cs).toList := by
  rw [ofComponents, String.intercalate_cons_of_ne_nil h]
  simp [ofComponents]

/-- A dotted name starts as its first component does. -/
theorem exists_cons_of_dotted {cs : List String} (hne : cs ≠ []) (hcs : ∀ c ∈ cs, IsName c) :
    ∃ c rest, (ofComponents cs).toList = c :: rest ∧ isNameStart c = true := by
  obtain ⟨first, cs, rfl⟩ := List.exists_cons_of_ne_nil hne
  obtain ⟨c, rest, hfirst, hc⟩ := exists_cons_of_isIdentifier (hcs first List.mem_cons_self).identifier
  by_cases hnil : cs = []
  · subst hnil
    rw [ofComponents, String.intercalate_singleton]
    exact ⟨c, rest, hfirst, hc⟩
  · rw [toList_dotted_cons first hnil, hfirst]
    exact ⟨c, _, rfl, hc⟩

theorem scansTo_dotted {cs : List String} (hne : cs ≠ []) (hcs : ∀ c ∈ cs, IsName c)
    {text : List Char} {ts : List Token} (htext : Breaks text) (h : ScansTo text ts 0) :
    ScansTo ((ofComponents cs).toList ++ text) (dottedTokens cs ++ ts) 0 := by
  induction cs using dottedTokens.induct with
  | case1 => exact absurd rfl hne
  | case2 c =>
      rw [ofComponents, String.intercalate_singleton]
      exact scansTo_name (hcs c List.mem_cons_self) htext h
  | case3 c cs hcons ih =>
      obtain ⟨hc, hrest⟩ := List.forall_mem_cons.mp hcs
      obtain ⟨d, rest, hd, hstart⟩ := exists_cons_of_dotted hcons hrest
      have hdot : ScansTo ('.' :: ((ofComponents cs).toList ++ text))
          (.op "." :: (dottedTokens cs ++ ts)) 0 := by
        refine scansTo_append (List.cons_ne_nil _ []) (fun _ _ => ?_) (ih hcons hrest)
        rw [hd]
        exact scans_dot hstart
      rw [toList_dotted_cons c hcons, dottedTokens.eq_3 c cs hcons, List.append_assoc]
      exact scansTo_name hc (by simp [Breaks]; decide) hdot

/-! ### Reading the tokens -/

section

variable {ts rest : List Token}

open Reader Rules

theorem dottedName_tokens {cs : List String} (hne : cs ≠ []) (hrest : rest.head? ≠ some (.op ".")) :
    dottedName (dottedTokens cs ++ rest) = some (ofComponents cs, rest) := by
  have hsteps (cs : List String) (hne : cs ≠ []) : ∃ first others us, cs = first :: others ∧
      dottedTokens cs ++ rest = .name first :: us ∧
      Steps (do op "."; anyName : Reader String) us others rest := by
    induction cs using dottedTokens.induct with
    | case1 => exact absurd rfl hne
    | case2 c => exact ⟨c, [], rest, rfl, rfl, .nil (bind_of_none (exactly_of_ne hrest))⟩
    | case3 c cs hcons ih =>
        obtain ⟨first, others, us, rfl, htokens, hsteps⟩ := ih hcons
        refine ⟨c, first :: others, .op "." :: .name first :: us, rfl, ?_, .cons ?_ ?_ hsteps⟩
        · rw [dottedTokens.eq_3 c _ hcons, List.cons_append, List.cons_append, htokens]
        · exact bind_of_eq (op_self _)
        · simp only [List.length_cons]
          omega
  obtain ⟨first, others, us, rfl, htokens, hsteps⟩ := hsteps cs hne
  have hfirst : anyName (.name first :: us) = some (first, us) := rfl
  rw [htokens, dottedName, bind_of_eq hfirst, bind_of_eq (many_of_steps hsteps)]
  rfl

theorem imported_tokens {name : Reader String} {n : String} {own : Option String}
    (hname : name ts = some (n, aliasTokens own ++ rest))
    (hrest : rest.head? ≠ some (.word "as")) : imported name ts = some (⟨n, own⟩, rest) := by
  rw [imported, bind_of_eq hname]
  cases own with
  | none => exact bind_of_eq (accepts_of_ne hrest)
  | some l => exact bind_of_eq (accepts_self _)

theorem listed_of_single {α : Type} {p : Reader α} {a : α} (h : p ts = some (a, rest))
    (hrest : rest.head? ≠ some (.op ",")) : listed p ts = some (⟨a, [], false⟩, rest) :=
  listed_of_steps h (.nil (afterComma_of_ne hrest)) (accepts_of_ne hrest)

theorem listedExactly_of_single {α : Type} {p : Reader α} {a : α} (h : p ts = some (a, rest))
    (hrest : rest.head? ≠ some (.op ",")) : listedExactly p ts = some ([a], rest) := by
  rw [listedExactly, bind_of_eq (listed_of_single h hrest)]
  rfl

theorem importedNames_tokens {n : String} {own : Option String} (hrest : rest.head? = some .newline) :
    importedNames (.name n :: (aliasTokens own ++ rest)) = some ([⟨n, own⟩], rest) := by
  have hn : imported anyName (.name n :: (aliasTokens own ++ rest)) = some (⟨n, own⟩, rest) :=
    imported_tokens rfl (by simp [hrest])
  have hlisted := listed_of_single hn (by simp [hrest])
  rw [importedNames, bind_of_eq (accepts_of_ne (by simp))]
  refine (bind_of_eq (accepts_of_ne (by simp))).trans ?_
  exact (bind_of_eq hlisted).trans rfl

end

/-! ### Lines of one statement -/

/-- The text of an import of a module. -/
def plainLine (cs : List String) (own : Option String) : List Char :=
  "import".toList ++ ' ' :: ((ofComponents cs).toList ++ aliasText own)

/-- The text of an import of a name of a module. -/
def fromLine (cs : List String) (n : String) (own : Option String) : List Char :=
  "from".toList ++ ' ' :: ((ofComponents cs).toList ++
    ' ' :: ("import".toList ++ ' ' :: (n.toList ++ aliasText own)))

section

variable {cs : List String} {n : String} {own : Option String}

theorem scansTo_plainLine (hne : cs ≠ []) (hcs : ∀ c ∈ cs, IsName c) (hown : ∀ n ∈ own, IsName n) :
    ScansTo (plainLine cs own) (.word "import" :: (dottedTokens cs ++ aliasTokens own)) 0 :=
  scansTo_word (by decide) (by decide) (breaks_blank _)
    (scansTo_blank (scansTo_dotted hne hcs (breaks_aliasText own) (scansTo_aliasText hown)))

theorem scansTo_fromLine (hne : cs ≠ []) (hcs : ∀ c ∈ cs, IsName c) (hn : IsName n)
    (hown : ∀ n ∈ own, IsName n) : ScansTo (fromLine cs n own)
      (.word "from" :: (dottedTokens cs ++ .word "import" :: .name n :: aliasTokens own)) 0 := by
  have hname := scansTo_name hn (breaks_aliasText own) (scansTo_aliasText hown)
  have himport : ScansTo ("import".toList ++ ' ' :: (n.toList ++ aliasText own))
      (.word "import" :: .name n :: aliasTokens own) 0 :=
    scansTo_word (by decide) (by decide) (breaks_blank _) (scansTo_blank hname)
  refine scansTo_word (by decide) (by decide) (breaks_blank _) (scansTo_blank ?_)
  exact scansTo_dotted hne hcs (breaks_blank _) (scansTo_blank himport)

open Reader Rules

theorem simpleStatement_plain (r : Rules) (hne : cs ≠ []) :
    simpleStatement r (.word "import" :: (dottedTokens cs ++ aliasTokens own ++ [.newline])) =
      some (.importModules [⟨ofComponents cs, own⟩], [.newline]) := by
  have hafter : (aliasTokens own ++ [Token.newline]).head? ≠ some (.op ".") := by
    cases own <;> simp [aliasTokens]
  have hmodule : imported dottedName (dottedTokens cs ++ (aliasTokens own ++ [.newline])) =
      some (⟨ofComponents cs, own⟩, [.newline]) :=
    imported_tokens (dottedName_tokens hne hafter) (by simp)
  rw [List.append_assoc]
  exact (bind_of_eq (listedExactly_of_single hmodule (by simp))).trans rfl

theorem importFromRule_named (hne : cs ≠ []) :
    importFromRule (dottedTokens cs ++ .word "import" :: .name n :: (aliasTokens own ++ [.newline])) =
      some (.importFrom (some (ofComponents cs)) [⟨n, own⟩] 0, [.newline]) := by
  have hdots : many leadingDot
      (dottedTokens cs ++ .word "import" :: .name n :: (aliasTokens own ++ [.newline])) =
        some ([], dottedTokens cs ++ .word "import" :: .name n :: (aliasTokens own ++ [.newline])) := by
    refine many_of_none ?_
    cases cs using dottedTokens.induct with
    | case1 => exact absurd rfl hne
    | case2 c => rfl
    | case3 c cs hcons => rw [dottedTokens.eq_3 c cs hcons]; rfl
  have hmodule : dottedName
      (dottedTokens cs ++ .word "import" :: .name n :: (aliasTokens own ++ [.newline])) =
        some (ofComponents cs, .word "import" :: .name n :: (aliasTokens own ++ [.newline])) :=
    dottedName_tokens hne (by simp)
  have hnames : importedNames (.name n :: (aliasTokens own ++ [.newline])) =
      some ([⟨n, own⟩], [.newline]) := importedNames_tokens rfl
  rw [importFromRule, bind_of_eq hdots]
  refine (bind_of_eq (optional?_of_eq hmodule)).trans ?_
  refine (bind_of_eq (exactly_self _)).trans ?_
  exact (bind_of_eq hnames).trans rfl

theorem simpleStatement_from (r : Rules) (hne : cs ≠ []) :
    simpleStatement r (.word "from" ::
        (dottedTokens cs ++ .word "import" :: .name n :: aliasTokens own ++ [.newline])) =
      some (.importFrom (some (ofComponents cs)) [⟨n, own⟩] 0, [.newline]) := by
  rw [List.append_assoc]
  exact importFromRule_named hne

/-! ### Whole texts -/

/-- No statement stands at the end of a source. -/
theorem lineRule_nil (length : Nat) : lineRule length [] = none := rfl

theorem lineRule_of_simpleStatement {w : String} (hw : w ∈ ["import", "from"]) {stmt : Stmt}
    {ts : List Token} (hstmt : ∀ r, simpleStatement r (.word w :: ts) = some (stmt, [.newline]))
    (length : Nat) : lineRule length (.word w :: ts) = some ([stmt], []) := by
  have hcompound (r block pattern) : compoundStatement r block pattern (.word w :: ts) = none := by
    simp only [List.mem_cons, List.not_mem_nil, or_false] at hw
    rcases hw with rfl | rfl <;> rfl
  have hothers (r) : many (do op ";"; simpleStatement r) [.newline] = some ([], [.newline]) :=
    many_of_none (bind_of_none (exactly_of_ne (by simp)))
  refine (orElse_of_none (bind_of_none (hcompound _ _ _))).trans ?_
  rw [simpleLine, bind_of_eq (hstmt _), bind_of_eq (hothers _)]
  rfl

/-- A line of one statement that starts with a word for imports is read as that statement. -/
theorem readStatements_of_line {text : String} {w : String} {ts : List Token} {stmt : Stmt}
    (hscans : ScansTo text.toList (.word w :: ts) 0) (hw : w ∈ ["import", "from"])
    (hlayout : ∃ c cs, text.toList = c :: cs ∧ isLayout c = false)
    (hchars : ∀ c ∈ [Char.ofNat 0, '\r', '\n'], c ∉ text.toList)
    (hstmt : ∀ r, simpleStatement r (.word w :: (ts ++ [.newline])) = some (stmt, [.newline])) :
    readStatements text = .ok [stmt] := by
  have hclosed : scannedText text = text.toList ++ ['\n'] := by
    rw [scannedText, unifyLineEnds_of_notMem (hchars '\r' (by simp)), closeLastLine, if_neg]
    exact fun hlast => hchars '\n' (by simp) (List.mem_of_getLast? hlast)
  have hscan : scan (scannedText text) = some (.word w :: (ts ++ [.newline])) := by
    rw [hclosed]
    refine (scan_of_scansTo hscans ?_ ?_ fun _ => rfl).trans (if_pos (by decide))
    · obtain ⟨d, cs, htext, hd⟩ := hlayout
      simpa [htext] using hd
    · simp [Stops, Breaks]
      decide
  have hsteps := Steps.cons (lineRule_of_simpleStatement hw hstmt (scannedText text).length)
    (by simp) (.nil (lineRule_nil _))
  exact readStatements_eq_ok_iff.mpr
    ⟨hchars _ (by simp), _, hscan, [[stmt]], many_of_steps hsteps, rfl⟩

end

/-- The things that a statement imports. -/
def Stmt.importRefs : Stmt → List ImportRef
  | .importModules modules => modules.map fun i => ⟨i.name, none, i.localName⟩
  | .importFrom module names level => names.map fun i =>
      ⟨String.ofList (List.replicate level '.') ++ module.getD "", some i.name, i.localName⟩
  | _ => []

end TypedClients.Code

namespace TypedClients

open TypedClients.Text TypedClients.Code
open Token ModuleName Reader Rules

namespace ImportRef

/-- The text of a module that imports one thing only. -/
def text (r : ImportRef) : String := renderStatements (({} : Imports).insert r).statements

/-- What is written for an import is read back as that import. -/
def IsWritable (r : ImportRef) : Prop :=
  ∃ stmts, readStatements r.text = .ok stmts ∧ stmts.flatMap Stmt.importRefs = [r]

/-- An import from a dotted name, of names that are written as they are. -/
structure IsNamed (r : ImportRef) : Prop where
  module : Dotted IsName r.module
  name : ∀ n ∈ r.name, IsName n
  localName : ∀ n ∈ r.localName, IsName n

/-- The statement for one import. -/
def statement (r : ImportRef) : Stmt :=
  match r.name with
  | none => Imports.plainStatement (r.module, r.localName)
  | some n => Imports.fromStatement r.module [(n, r.localName)]

theorem statements_insert (r : ImportRef) :
    (({} : Imports).insert r).statements = [r.statement] := by
  obtain ⟨module, name, own⟩ := r
  have hrefs : (({} : Imports).insert ⟨module, name, own⟩).refs = [⟨module, name, own⟩] := rfl
  have hof (kind : ModuleKind) : (({} : Imports).insert ⟨module, name, own⟩).statementsOf kind =
      if ModuleKind.ofModule module = kind then [statement ⟨module, name, own⟩] else [] := by
    cases name with
    | none =>
        by_cases hkind : ModuleKind.ofModule module = kind <;>
          simp [Imports.statementsOf, Imports.plainModules, Imports.sourceModules, hrefs, statement,
            hkind]
    | some n =>
        have hmodules : (({} : Imports).insert ⟨module, some n, own⟩).sourceModules = [module] := by
          have hdups : [module].eraseDups = [module] := rfl
          simp [Imports.sourceModules, hrefs, hdups]
        have hnames : (({} : Imports).insert ⟨module, some n, own⟩).namesFrom module = [(n, own)] := by
          simp [Imports.namesFrom, hrefs]
        by_cases hkind : ModuleKind.ofModule module = kind <;>
          simp [Imports.statementsOf, Imports.plainModules, hrefs, hmodules, hnames, statement, hkind]
  rw [Imports.statements, funext hof]
  cases ModuleKind.ofModule module <;> rfl

theorem textOfLines_singleton (s : String) : textOfLines [s] = s := by
  unfold textOfLines
  split
  · rename_i heq
    obtain ⟨rfl, rfl⟩ := List.cons.inj heq
    rfl
  · exact String.intercalate_singleton

theorem filter_own {own : Option String} (hown : ∀ n ∈ own, IsName n) : own.filter (· != "") = own := by
  cases own with
  | none => rfl
  | some n =>
      rw [Option.filter_some, if_pos]
      exact bne_iff_ne.mpr (ne_empty_of_isIdentifier (hown n rfl).identifier)

theorem toList_text_plain {cs : List String} {own : Option String} (hown : ∀ n ∈ own, IsName n) :
    (text ⟨ofComponents cs, none, own⟩).toList = plainLine cs own := by
  have hlines : Stmt.bodyLines 0 [statement ⟨ofComponents cs, none, own⟩] =
      ["" ++ ("import " ++ ", ".intercalate [Imported.render ⟨ofComponents cs, own⟩])] := by
    simp only [statement, Imports.plainStatement, Imports.imported, filter_own hown]
    rfl
  have hword : "import ".toList = "import".toList ++ [' '] := rfl
  rw [text, statements_insert, renderStatements, hlines, textOfLines_singleton,
    String.intercalate_singleton, String.empty_append, String.toList_append, toList_render, hword,
    List.append_assoc]
  rfl

theorem toList_text_from {module n : String} {own : Option String}
    (hdot : module.toList.head? ≠ some '.') :
    (text ⟨module, some n, own⟩).toList = "from".toList ++ ' ' :: (module.toList ++
      ' ' :: ("import".toList ++ ' ' :: (n.toList ++ aliasText (own.filter (· != ""))))) := by
  have hparts : Imports.relativeParts module = (0, module) := by
    unfold Imports.relativeParts
    cases hmodule : module.toList with
    | nil => simp [String.toList_eq_nil_iff.mp hmodule]
    | cons c cs =>
        have hc : ¬ (c == '.') = true := by
          rw [hmodule] at hdot
          simpa using hdot
        rw [List.takeWhile_cons_of_neg (p := (· == '.')) hc,
          List.dropWhile_cons_of_neg (p := (· == '.')) hc, ← hmodule, String.ofList_toList]
        rfl
  have htarget : (if module = "" then none else some module : Option String).getD "" = module := by
    split
    · rename_i hempty
      exact hempty.symm
    · rfl
  have hlines : Stmt.bodyLines 0 [statement ⟨module, some n, own⟩] =
      ["" ++ ("from " ++ "" ++ module ++ " import " ++
        ", ".intercalate [Imported.render ⟨n, own.filter (· != "")⟩])] := by
    simp only [statement, Imports.fromStatement, hparts, Imports.imported]
    exact congrArg (fun m => ["" ++ ("from " ++ "" ++ m ++ " import " ++ _)]) htarget
  have hword : "from ".toList = "from".toList ++ [' '] := rfl
  have himport : " import ".toList = ' ' :: ("import".toList ++ [' ']) := rfl
  rw [text, statements_insert, renderStatements, hlines, textOfLines_singleton,
    String.intercalate_singleton, String.empty_append, String.append_empty, String.toList_append,
    String.toList_append, String.toList_append, toList_render, hword, himport]
  simp only [List.append_assoc, List.cons_append, List.nil_append]

/-- What stands in no name, is no blank and no dot stands in no line of an import. -/
theorem not_mem_dotted {cs : List String} (hcs : ∀ c ∈ cs, IsName c) {d : Char}
    (hstart : isNameStart d = false) (hchar : isNameChar d = false) (hdot : d ≠ '.') :
    d ∉ (ofComponents cs).toList := by
  induction cs using dottedTokens.induct with
  | case1 => simp [ofComponents]
  | case2 c =>
      rw [ofComponents, String.intercalate_singleton]
      exact not_mem_of_isIdentifier (hcs c List.mem_cons_self).identifier hstart hchar
  | case3 c cs hcons ih =>
      obtain ⟨hc, hrest⟩ := List.forall_mem_cons.mp hcs
      rw [toList_dotted_cons c hcons, List.mem_append, List.mem_cons, not_or, not_or]
      exact ⟨not_mem_of_isIdentifier hc.identifier hstart hchar, hdot, ih hrest⟩

theorem not_mem_aliasText {own : Option String} (hown : ∀ n ∈ own, IsName n) {d : Char}
    (hstart : isNameStart d = false) (hchar : isNameChar d = false) (hblank : d ≠ ' ') :
    d ∉ aliasText own := by
  cases own with
  | none => simp [aliasText]
  | some n =>
      have hword : d ∉ "as".toList := not_mem_of_isIdentifier (by decide) hstart hchar
      have hname := not_mem_of_isIdentifier (hown n rfl).identifier hstart hchar
      simp only [aliasText, List.mem_cons, List.mem_append, not_or]
      exact ⟨hblank, hword, hblank, hname⟩

theorem not_mem_spaced {d : Char} {front back : List Char} (hblank : d ≠ ' ') (hfront : d ∉ front)
    (hback : d ∉ back) : d ∉ front ++ ' ' :: back := by
  rw [List.mem_append, List.mem_cons, not_or, not_or]
  exact ⟨hfront, hblank, hback⟩

/-- An import of names that are written as they are is read back. -/
theorem isWritable_of_isNamed {r : ImportRef} (h : r.IsNamed) : r.IsWritable := by
  obtain ⟨module, name, own⟩ := r
  obtain ⟨⟨cs, hne, hcs, rfl⟩, hname, hown⟩ := h
  have hforbidden : ∀ d ∈ [Char.ofNat 0, '\r', '\n'], isNameStart d = false ∧ isNameChar d = false ∧
      d ≠ '.' ∧ d ≠ ' ' := List.forall_mem_cons.mpr ⟨by decide, List.forall_mem_cons.mpr
        ⟨by decide, List.forall_mem_singleton.mpr (by decide)⟩⟩
  have hword {w : String} (hw : isIdentifier w.toList = true) : ∀ d ∈ [Char.ofNat 0, '\r', '\n'],
      d ∉ w.toList := fun d hd => not_mem_of_isIdentifier hw (hforbidden d hd).1 (hforbidden d hd).2.1
  cases name with
  | none =>
      have htext : (text ⟨ofComponents cs, none, own⟩).toList = plainLine cs own :=
        toList_text_plain hown
      refine ⟨_, readStatements_of_line (htext ▸ scansTo_plainLine hne hcs hown) (by simp)
        (htext ▸ ⟨'i', _, rfl, by decide⟩) (fun d hd => ?_) fun r => simpleStatement_plain r hne, rfl⟩
      obtain ⟨hstart, hchar, hdot, hblank⟩ := hforbidden d hd
      rw [htext]
      refine not_mem_spaced hblank (hword (by decide) d hd) (List.not_mem_append ?_ ?_)
      · exact not_mem_dotted hcs hstart hchar hdot
      · exact not_mem_aliasText hown hstart hchar hblank
  | some n =>
      have hn := hname n rfl
      have hhead : (ofComponents cs).toList.head? ≠ some '.' := by
        obtain ⟨c, rest, heq, hc⟩ := exists_cons_of_dotted hne hcs
        rw [heq, List.head?_cons, ne_eq, Option.some.injEq]
        rintro rfl
        exact absurd hc (by decide)
      have htext : (text ⟨ofComponents cs, some n, own⟩).toList = fromLine cs n own := by
        exact (toList_text_from hhead).trans (by rw [filter_own hown]; rfl)
      refine ⟨_, readStatements_of_line (htext ▸ scansTo_fromLine hne hcs hn hown) (by simp)
        (htext ▸ ⟨'f', _, rfl, by decide⟩) (fun d hd => ?_) fun r => simpleStatement_from r hne, ?_⟩
      · obtain ⟨hstart, hchar, hdot, hblank⟩ := hforbidden d hd
        rw [htext]
        refine not_mem_spaced hblank (hword (by decide) d hd) ?_
        refine not_mem_spaced hblank (not_mem_dotted hcs hstart hchar hdot) ?_
        refine not_mem_spaced hblank (hword (by decide) d hd) (List.not_mem_append ?_ ?_)
        · exact hword hn.identifier d hd
        · exact not_mem_aliasText hown hstart hchar hblank
      · exact congrArg (fun m => [(⟨m, some n, own⟩ : ImportRef)]) String.empty_append

/-- Without a module an import of a name is no statement. -/
theorem not_isWritable_of_empty (n : String) (own : Option String) :
    ¬ IsWritable ⟨"", some n, own⟩ := by
  rintro ⟨stmts, hread, -⟩
  obtain ⟨-, ts, hts, lines, hlines, -⟩ := readStatements_eq_ok_iff.mp hread
  -- The two words stand next to each other, whatever is imported.
  obtain ⟨rest, htext⟩ : ∃ rest,
      (text ⟨"", some n, own⟩).toList = "from  import".toList ++ ' ' :: rest :=
    ⟨_, (toList_text_from (by simp)).trans rfl⟩
  obtain ⟨more, hclosed⟩ : ∃ more, scannedText (text ⟨"", some n, own⟩) =
      "from  import".toList ++ ' ' :: more := by
    have hends : unifyLineEnds ("from  import".toList ++ ' ' :: rest) =
        "from  import".toList ++ ' ' :: unifyLineEnds rest := rfl
    rw [scannedText, htext, hends, closeLastLine]
    split
    · exact ⟨_, rfl⟩
    · exact ⟨_, List.append_assoc ..⟩
  have hwords : ScansTo "from  import".toList [.word "from", .word "import"] 0 := by
    have himport : ScansTo ("import".toList ++ []) [.word "import"] 0 :=
      scansTo_word (by decide) (by decide) stops_nil.1 scansTo_nil
    exact scansTo_word (w := "from") (by decide) (by decide) (breaks_blank _)
      (scansTo_blank (scansTo_blank himport))
  obtain ⟨fuel, hscan⟩ := scan_append hwords (' ' :: more) (by simp; decide)
    ⟨breaks_blank more, by simp⟩
  rw [hclosed, hscan, if_pos (by decide)] at hts
  obtain ⟨us, -, rfl⟩ := Option.map_eq_some_iff.mp hts
  have hline (length) : lineRule length (.word "from" :: .word "import" :: us) = none := rfl
  rw [List.cons_append, List.cons_append, List.nil_append, many_of_none (hline _)] at hlines
  cases hlines

end ImportRef

end TypedClients
