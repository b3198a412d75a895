import TypedClients.Proofs.ReadExpressions
import TypedClients.Proofs.ScannedNames
import TypedClients.Source.Module

/-!
# What reading statements keeps

A condition that all names among the tokens of a source meet is met by the names that its statements
define and import: `namesMeet_of_readStatements`. The rules for statements have this from those for
expressions and patterns, and from the rules for the blocks inside.
-/
namespace TypedClients.Code

open Reader Rules Code.Expr

/-! ### Patterns -/

section

variable {I : List Token → Prop} {P : Expr → Prop} {r : Rules} (hr : r.Keep I P)

include hr

theorem signedNumber_keeps (signed : Bool) : Keeps I (signedNumber signed) := by
  unfold signedNumber
  extract_lets number
  have hnumber (minus : Bool) : Keeps I (number minus) :=
    (gives_token hr.rest fun _ _ _ => trivial).bind fun _ _ => keeps_pure
  exact gives_ite (fun _ => (hr.accepts _).bind fun minus _ => hnumber minus)
    fun _ => (keeps_pure).bind fun minus _ => hnumber minus

theorem numberValue_keeps : Keeps I numberValue := by
  refine (signedNumber_keeps hr _).bind fun x _ => (hr.operatorOf _).optional?.bind fun o _ => ?_
  split
  · exact keeps_pure
  · exact (signedNumber_keeps hr _).bind fun _ _ => gives_unless fun _ => keeps_pure

theorem literalValue_keeps : Keeps I (literalValue r) :=
  (numberValue_keeps hr).orElse hr.quoted.keeps

theorem constantWord_keeps : Keeps I constantWord :=
  gives_token hr.rest fun _ _ _ => trivial

theorem afterDot_keeps : Keeps I (do op "."; anyName : Reader String) :=
  (hr.exactly _).bind fun _ _ => hr.anyName

theorem dottedValue_keeps : Keeps I dottedValue :=
  hr.anyName.bind fun _ _ => (afterDot_keeps hr).many.bind fun _ _ => keeps_pure

theorem captureName_keeps : Keeps I captureName :=
  hr.anyName.bind fun _ _ => gives_unless fun _ => keeps_pure

theorem maybeRest_keeps {pattern : Reader Pattern} (hpattern : Keeps I pattern) :
    Keeps I (maybeRest pattern) := by
  refine (hr.accepts _).bind fun _ _ => gives_ite (fun _ => ?_) fun _ => hpattern
  refine Gives.bind (P := fun _ => True) ?_ fun _ _ => keeps_pure
  exact hr.anyName.bind fun _ _ => keeps_pure

theorem mappingItem_keeps {pattern : Reader Pattern} (hpattern : Keeps I pattern) :
    Keeps I (mappingItem r pattern) := by
  refine (hr.accepts _).bind fun _ _ => gives_ite (fun _ => ?_) fun _ => ?_
  · exact (captureName_keeps hr).bind fun _ _ => keeps_pure
  · refine Gives.bind (P := fun _ => True) ?_ fun _ _ => ?_
    · refine (literalValue_keeps hr).orElse ((constantWord_keeps hr).keeps_map.orElse ?_)
      exact (dottedValue_keeps hr).bind fun _ _ => gives_unless fun _ => keeps_pure
    · exact (hr.exactly _).bind fun _ _ => hpattern.bind fun _ _ => keeps_pure

theorem fieldItem_keeps {pattern : Reader Pattern} (hpattern : Keeps I pattern) :
    Keeps I (fieldItem pattern) := by
  intro ts hts i us h
  unfold fieldItem at h
  split at h
  · exact hpattern.of_map (Q := fun _ => True) (hr.rest_rest hts) h fun _ _ => trivial
  · exact hpattern.of_map (Q := fun _ => True) hts h fun _ _ => trivial

theorem namedPattern_keeps {pattern : Reader Pattern}
    (hpattern : Keeps I pattern) : Keeps I (namedPattern pattern) := by
  refine (dottedValue_keeps hr).bind fun e _ => (hr.accepts _).bind fun _ _ => ?_
  refine gives_ite (fun _ => ?_) fun _ => ?_
  · refine (hr.accepts _).bind fun _ _ => gives_ite (fun _ => keeps_pure) fun _ => ?_
    refine ((fieldItem_keeps hr hpattern).listed hr.rest).bind fun items _ => ?_
    refine (hr.exactly _).bind fun _ _ => Gives.bind (gives_lift fun _ _ => trivial) fun _ _ => ?_
    exact keeps_pure
  · refine (gives_sees _).bind fun _ _ => ?_
    refine gives_unless fun _ => ?_
    cases e <;> exact keeps_pure

theorem items_keep {pattern : Reader Pattern} (hpattern : Keeps I pattern) :
    Keeps I (listed (maybeRest pattern)) :=
  ((maybeRest_keeps hr hpattern).listed hr.rest).keeps

theorem closedPattern_keeps {pattern : Reader Pattern}
    (hpattern : Keeps I pattern) :
    Keeps I (closedPattern r pattern) := by
  refine (hr.accepts _).bind fun _ _ => gives_ite (fun _ => ?_) fun _ => ?_
  · refine (hr.accepts _).bind fun _ _ => gives_ite (fun _ => keeps_pure) fun _ => ?_
    refine (items_keep hr hpattern).bind fun l _ => (hr.exactly _).bind fun _ _ => ?_
    refine gives_ite (fun _ => ?_) fun _ => keeps_pure
    exact gives_unless fun _ => keeps_pure
  refine (hr.accepts _).bind fun _ _ => gives_ite (fun _ => ?_) fun _ => ?_
  · refine (hr.accepts _).bind fun _ _ => gives_ite (fun _ => keeps_pure) fun _ => ?_
    exact (items_keep hr hpattern).bind fun l _ => (hr.exactly _).bind fun _ _ => keeps_pure
  refine (hr.accepts _).bind fun _ _ => gives_ite (fun _ => ?_) fun _ => ?_
  · refine (hr.accepts _).bind fun _ _ => gives_ite (fun _ => keeps_pure) fun _ => ?_
    refine ((mappingItem_keeps hr hpattern).listed hr.rest).bind fun l _ => ?_
    refine (hr.exactly _).bind fun _ _ => Gives.bind (gives_lift fun _ _ => trivial) fun _ _ => ?_
    exact keeps_pure
  · refine Gives.orElse (constantWord_keeps hr).keeps_map ?_
    exact Gives.orElse (literalValue_keeps hr).keeps_map (namedPattern_keeps hr hpattern)

theorem patternRule_keeps {pattern : Reader Pattern}
    (hpattern : Keeps I pattern) :
    Keeps I (patternRule r pattern) := by
  have hclosed := closedPattern_keeps hr hpattern
  refine hclosed.bind fun first _ => ?_
  refine (Gives.many ((hr.exactly _).bind fun _ _ => hclosed)).bind fun others _ => ?_
  refine (hr.accepts _).bind fun _ _ => gives_ite (fun _ => ?_) fun _ => keeps_pure
  exact (captureName_keeps hr).bind fun _ _ => keeps_pure

theorem patternUpTo_keeps (n : Nat) : Keeps I (patternUpTo r n) := by
  induction n with
  | zero => exact gives_failure
  | succ n ih => exact patternRule_keeps hr ih

theorem casePattern_keeps {pattern : Reader Pattern}
    (hpattern : Keeps I pattern) : Keeps I (casePattern pattern) := by
  refine (items_keep hr hpattern).bind fun l _ => gives_ite (fun _ => ?_) fun _ => keeps_pure
  exact gives_unless fun _ => keeps_pure

end
/-! ### Names in statements -/

/-- An expression that is a name meets a condition on names. -/
def Expr.NameMeets (N : String → Prop) (e : Expr) : Prop := ∀ id, e = .name id → N id

/-- A dotted text of which every component meets a condition. -/
def Dotted (N : String → Prop) (text : String) : Prop :=
  ∃ cs, cs ≠ [] ∧ (∀ c ∈ cs, N c) ∧ text = ModuleName.ofComponents cs

/-- The names that an import takes and binds meet a condition; a star is no name. -/
def Imported.NamesMeet (N : String → Prop) (i : Imported) : Prop :=
  (i.name = "*" ∨ N i.name) ∧ ∀ n ∈ i.localName, N n

/-- The names that a statement defines, imports and imports from meet a condition. An import from
no module has dots. -/
def Stmt.NamesMeet (N : String → Prop) : Stmt → Prop
  | .importModules modules => ∀ i ∈ modules, Dotted N i.name ∧ ∀ n ∈ i.localName, N n
  | .importFrom module names level =>
      (∀ text ∈ module, Dotted N text) ∧ (module = none → level ≠ 0) ∧ ∀ i ∈ names, i.NamesMeet N
  | stmt => ∀ n ∈ stmt.definedNames, N n

theorem lasting_namesMeet (N : String → Prop) :
    Lasting (Token.NamesMeet N) (Expr.NameMeets N) where
  rest _ _ h n hn := h n (List.mem_cons_of_mem _ hn)
  name id _ h := by
    rintro _ ⟨⟩
    exact h id List.mem_cons_self
  number _ _ _ := nofun
  plain _ := nofun
  parts e hown _ id he := by
    rw [he] at hown
    cases hown

section

variable {N : String → Prop}

/-- Quoted texts are no names. -/
theorem quotedTexts_nameMeets (r : Rules) :
    Gives (Token.NamesMeet N) (Expr.NameMeets N) (quotedTexts r) := by
  have hpiece : Keeps (Token.NamesMeet N) quotedPiece :=
    gives_token (lasting_namesMeet N).rest fun _ _ _ => trivial
  refine hpiece.oneOrMore.bind fun ps _ => gives_lift fun e he => ?_
  unfold quotedRun at he
  split at he
  · obtain ⟨_, _, h⟩ := Option.bind_eq_some_iff.mp he
    cases h
    exact nofun
  split at he
  · cases he
  split at he
  · obtain ⟨_, _, h⟩ := Option.bind_eq_some_iff.mp he
    cases h
    exact nofun
  · obtain ⟨_, _, h⟩ := Option.bind_eq_some_iff.mp he
    cases h
    exact nofun

theorem keep_namesMeet (N : String → Prop) (depth : Nat) :
    (upTo depth).Keep (Token.NamesMeet N) (Expr.NameMeets N) :=
  keep_upTo (lasting_namesMeet N) (fun _ => True) trivial (fun _ => trivial)
    (fun _ => quotedTexts_nameMeets _) depth

theorem anyName_meets : Gives (Token.NamesMeet N) N anyName := by
  intro ts hts n us h
  cases ts with
  | nil => cases h
  | cons t ts =>
      obtain ⟨m, hm, heq⟩ := Option.map_eq_some_iff.mp h
      cases heq
      cases t <;> cases hm
      exact ⟨hts _ List.mem_cons_self, (lasting_namesMeet N).rest _ _ hts⟩

variable {r : Rules} (hr : r.Keep (Token.NamesMeet N) (Expr.NameMeets N))

include hr

/-! ### Imports -/

theorem dottedName_meets : Gives (Token.NamesMeet N) (Dotted N) dottedName := by
  refine anyName_meets.bind fun first hfirst => ?_
  refine (Gives.many ((hr.exactly _).bind fun _ _ => anyName_meets)).bind fun rest hrest => ?_
  exact gives_pure ⟨first :: rest, List.cons_ne_nil _ _, List.forall_mem_cons.mpr ⟨hfirst, hrest⟩, rfl⟩

theorem imported_meets {M : String → Prop} {name : Reader String}
    (hname : Gives (Token.NamesMeet N) M name) :
    Gives (Token.NamesMeet N) (fun i => M i.name ∧ ∀ n ∈ i.localName, N n) (imported name) := by
  refine hname.bind fun n hn => (hr.accepts _).bind fun _ _ => gives_ite (fun _ => ?_) fun _ => ?_
  · refine anyName_meets.bind fun l hl => gives_pure ⟨hn, ?_⟩
    simpa using hl
  · exact gives_pure ⟨hn, by simp⟩

theorem importedNames_meets :
    Gives (Token.NamesMeet N) (fun names => ∀ i ∈ names, i.NamesMeet N) importedNames := by
  have hitem : Gives (Token.NamesMeet N) (Imported.NamesMeet N) (imported anyName) :=
    (imported_meets hr anyName_meets).mono fun _ h => h.imp_left .inr
  refine (hr.accepts _).bind fun _ _ => gives_ite (fun _ => gives_pure ?_) fun _ => ?_
  · exact List.forall_mem_singleton.mpr ⟨.inl rfl, by simp⟩
  refine (hr.accepts _).bind fun _ _ => gives_ite (fun _ => ?_) fun _ => ?_
  · refine (hitem.listed hr.rest).bind fun l hl => (hr.exactly _).bind fun _ _ => gives_pure hl
  · refine (hitem.listed hr.rest).bind fun l hl => ?_
    exact gives_unless fun _ => gives_pure hl

theorem importFromRule_meets :
    Gives (Token.NamesMeet N) (Stmt.NamesMeet N) importFromRule := by
  have hdot : Keeps (Token.NamesMeet N) leadingDot := gives_token hr.rest fun _ _ _ => trivial
  refine hdot.many.bind fun dots _ => (dottedName_meets hr).optional?.bind fun module hmodule => ?_
  refine gives_unless fun hsome => ?_
  refine (hr.exactly _).bind fun _ _ => (importedNames_meets hr).bind fun names hnames => ?_
  refine gives_pure ⟨hmodule, ?_, hnames⟩
  rintro rfl hlevel
  exact hsome ⟨hlevel, rfl⟩

theorem listedExactly_meets {α : Type} {P : α → Prop} {p : Reader α}
    (hp : Gives (Token.NamesMeet N) P p) :
    Gives (Token.NamesMeet N) (fun as => ∀ a ∈ as, P a) (listedExactly p) := by
  refine (hp.listed hr.rest).bind fun l hl => ?_
  exact gives_unless fun _ => gives_pure hl

/-! ### Simple statements -/

theorem starOrYield_meets : Gives (Token.NamesMeet N) (Expr.NameMeets N) (starOrYield r) :=
  (hr.accepts _).bind fun _ _ =>
    gives_ite (fun _ => yieldRest_keeps hr) fun _ => starExpressions_keeps hr

theorem expressionStatement_meets :
    Gives (Token.NamesMeet N) (Stmt.NamesMeet N) (expressionStatement r) := by
  have hplain {e : Expr} : (Stmt.expression e).NamesMeet N := by simp [Stmt.NamesMeet, Stmt.definedNames]
  refine (hr.accepts _).bind fun _ _ => gives_ite (fun _ => ?_) fun _ => ?_
  · exact (yieldRest_keeps hr).bind fun _ _ => gives_pure hplain
  refine (gives_sees _).bind fun inParens _ => (starExpressions_keeps hr).bind fun e he => ?_
  refine (hr.accepts _).bind fun _ _ => gives_ite (fun _ => ?_) fun _ => ?_
  · refine gives_unless fun _ => hr.expression.bind fun hint _ => ?_
    have hdeclared {value : Option Expr} {plain : Bool} :
        (Stmt.declare e hint value plain).NamesMeet N := by
      intro n hn
      cases e <;> simp only [Stmt.definedNames, List.mem_singleton, List.not_mem_nil] at hn
      exact he _ (congrArg _ hn.symm)
    refine (hr.accepts _).bind fun _ _ => ?_
    exact gives_maybe (starOrYield_meets hr).keeps fun _ => gives_pure hdeclared
  refine (hr.operatorOf _).optional?.bind fun o _ => ?_
  split
  · refine gives_unless fun _ => ?_
    refine (starOrYield_meets hr).bind fun _ _ => gives_pure ?_
    simp [Stmt.NamesMeet, Stmt.definedNames]
  · have hvalue : Gives (Token.NamesMeet N) (Expr.NameMeets N) (do op "="; starOrYield r) :=
      (hr.exactly _).bind fun _ _ => starOrYield_meets hr
    refine hvalue.many.bind fun values hvalues => ?_
    split
    · exact gives_pure hplain
    · refine gives_unless fun _ => gives_pure fun n hn => ?_
      obtain ⟨target, htarget, hname⟩ := List.mem_filterMap.mp hn
      have hmeets : target.NameMeets N := by
        rcases List.mem_cons.mp htarget with rfl | htarget
        · exact he
        · exact hvalues _ (List.dropLast_subset _ htarget)
      cases target <;> cases hname
      exact hmeets _ rfl

theorem simpleStatement_meets :
    Gives (Token.NamesMeet N) (Stmt.NamesMeet N) (simpleStatement r) := by
  intro ts hts stmt us h
  have hname : Keeps (Token.NamesMeet N) anyName := hr.anyName
  have hnone : ∀ n ∈ ([] : List String), N n := by simp
  unfold simpleStatement at h
  split at h
  · rename_i w ts
    have hrest := hr.rest _ _ hts
    split at h
    · cases h
      exact ⟨hnone, hrest⟩
    · cases h
      exact ⟨hnone, hrest⟩
    · cases h
      exact ⟨hnone, hrest⟩
    · exact (starExpressions_keeps hr).optional?.bind (fun _ _ => gives_pure hnone) _ hrest _ _ h
    · refine hr.expression.optional?.bind (fun o _ => ?_) _ hrest _ _ h
      split
      · exact gives_pure hnone
      · refine (hr.accepts _).bind fun _ _ => ?_
        exact gives_maybe hr.expression.keeps fun _ => gives_pure hnone
    · exact (listedExactly_meets hr hname).bind (fun _ _ => gives_pure hnone) _ hrest _ _ h
    · exact (listedExactly_meets hr hname).bind (fun _ _ => gives_pure hnone) _ hrest _ _ h
    · refine ((primary_keeps hr).listed hr.rest).bind (fun l _ => ?_) _ hrest _ _ h
      exact gives_unless fun _ => gives_pure hnone
    · refine hr.expression.bind (fun test _ => ?_) _ hrest _ _ h
      refine (hr.accepts _).bind fun _ _ => ?_
      exact gives_maybe hr.expression.keeps fun _ => gives_pure hnone
    · have hmodule := imported_meets hr (dottedName_meets hr)
      exact (listedExactly_meets hr hmodule).bind (fun _ hl => gives_pure hl) _ hrest _ _ h
    · exact importFromRule_meets hr _ hrest _ _ h
    · exact expressionStatement_meets hr _ hts _ _ h
  · exact expressionStatement_meets hr _ hts _ _ h

theorem simpleLine_meets :
    Gives (Token.NamesMeet N) (fun stmts => ∀ stmt ∈ stmts, stmt.NamesMeet N) (simpleLine r) := by
  have hstatement := simpleStatement_meets hr
  refine hstatement.bind fun first hfirst => ?_
  refine (Gives.many ((hr.exactly _).bind fun _ _ => hstatement)).bind fun others hothers => ?_
  refine (hr.accepts _).bind fun _ _ => (hr.exactly _).bind fun _ _ => gives_pure ?_
  exact List.forall_mem_cons.mpr ⟨hfirst, hothers⟩

/-! ### Statements with blocks -/

section

variable {block : Reader (List Stmt)} (hblock : Keeps (Token.NamesMeet N) block)

include hblock

theorem blockAfter_keeps (w : String) : Keeps (Token.NamesMeet N) (blockAfter block w) :=
  (hr.accepts _).bind fun _ _ =>
    gives_ite (fun _ => (hr.exactly _).bind fun _ _ => hblock) fun _ => keeps_pure

theorem ifRule_meets : Gives (Token.NamesMeet N) (Stmt.NamesMeet N) (ifRule r block) := by
  refine (namedRule_keeps hr).bind fun _ _ => (hr.exactly _).bind fun _ _ => hblock.bind fun _ _ => ?_
  refine Gives.bind (keeps_many ?_) fun _ _ => ?_
  · refine (hr.exactly _).bind fun _ _ => (namedRule_keeps hr).bind fun _ _ => ?_
    exact (hr.exactly _).bind fun _ _ => hblock.bind fun _ _ => keeps_pure
  · exact (blockAfter_keeps hr hblock _).bind fun _ _ => gives_pure nofun

theorem whileRule_meets : Gives (Token.NamesMeet N) (Stmt.NamesMeet N) (whileRule r block) := by
  refine (namedRule_keeps hr).bind fun _ _ => (hr.exactly _).bind fun _ _ => hblock.bind fun _ _ => ?_
  exact (blockAfter_keeps hr hblock _).bind fun _ _ => gives_pure nofun

theorem forRule_meets (isAsync : Bool) :
    Gives (Token.NamesMeet N) (Stmt.NamesMeet N) (forRule r block isAsync) := by
  refine (targetList_keeps hr).bind fun _ _ => (hr.exactly _).bind fun _ _ => ?_
  refine (starExpressions_keeps hr).bind fun _ _ => (hr.exactly _).bind fun _ _ => ?_
  exact hblock.bind fun _ _ => (blockAfter_keeps hr hblock _).bind fun _ _ => gives_pure nofun

omit hblock in
theorem resource_keeps : Keeps (Token.NamesMeet N) (resource r) := by
  refine hr.expression.bind fun _ _ => (hr.accepts _).bind fun _ _ => ?_
  refine gives_ite (fun _ => (targetItem_keeps hr).bind fun _ _ => ?_) fun _ => keeps_pure
  exact gives_unless fun _ => keeps_pure

theorem withRule_meets (isAsync : Bool) :
    Gives (Token.NamesMeet N) (Stmt.NamesMeet N) (withRule r block isAsync) := by
  have hresource := resource_keeps hr
  refine Gives.bind (P := fun _ => True) (Gives.orElse ?_ ?_) fun _ _ =>
    hblock.bind fun _ _ => gives_pure nofun
  · refine (hr.exactly _).bind fun _ _ => (hresource.listed hr.rest).bind fun _ _ => ?_
    exact (hr.exactly _).bind fun _ _ => (hr.exactly _).bind fun _ _ => keeps_pure
  · exact (listedExactly_meets hr hresource).bind fun _ _ => (hr.exactly _).bind fun _ _ => keeps_pure

theorem handler_keeps (isGroup : Bool) : Keeps (Token.NamesMeet N) (handler r block isGroup) := by
  refine (hr.exactly _).bind fun _ _ => (hr.accepts _).bind fun _ _ => ?_
  refine gives_unless fun _ => (gives_sees _).bind fun _ _ => ?_
  extract_lets finish
  have hfinish (type : Option Expr) : Keeps (Token.NamesMeet N) (finish type) := by
    refine gives_unless fun _ => (hr.accepts _).bind fun _ _ => ?_
    extract_lets body
    have hbody (name : Option String) : Keeps (Token.NamesMeet N) (body name) :=
      (hr.exactly _).bind fun _ _ => hblock.bind fun _ _ => keeps_pure
    exact gives_maybe hr.anyName hbody
  exact gives_ite (fun _ => Gives.bind keeps_pure fun _ _ => hfinish _)
    fun _ => hr.expression.keeps_map.bind fun _ _ => hfinish _

theorem tryRule_meets : Gives (Token.NamesMeet N) (Stmt.NamesMeet N) (tryRule r block) := by
  refine (hr.exactly _).bind fun _ _ => hblock.bind fun _ _ => ?_
  refine (handler_keeps hr hblock _).many.bind fun plain _ => ?_
  extract_lets finish
  have hfinish (grouped) : Gives (Token.NamesMeet N) (Stmt.NamesMeet N) (finish grouped) := by
    unfold finish
    extract_lets handlers close
    have hclose (orelse : List Stmt) : Gives (Token.NamesMeet N) (Stmt.NamesMeet N) (close orelse) := by
      refine (blockAfter_keeps hr hblock _).bind fun _ _ => ?_
      exact gives_unless fun _ => gives_pure nofun
    exact gives_ite (fun _ => Gives.bind keeps_pure fun _ _ => hclose _)
      fun _ => (blockAfter_keeps hr hblock _).bind fun _ _ => hclose _
  exact gives_ite (fun _ => (handler_keeps hr hblock _).many.bind fun _ _ => hfinish _)
    fun _ => Gives.bind keeps_pure fun _ _ => hfinish _

omit hblock in
theorem hintRule_keeps {type : Reader Expr} (htype : Keeps (Token.NamesMeet N) type) :
    Keeps (Token.NamesMeet N) (hintRule type) := by
  exact (hr.accepts _).bind fun _ _ => gives_ite (fun _ => htype.keeps_map) fun _ => keeps_pure

theorem functionRule_meets (decorators : List Expr) (isAsync : Bool) :
    Gives (Token.NamesMeet N) (Stmt.NamesMeet N) (functionRule r block decorators isAsync) := by
  refine anyName_meets.bind fun n hn => (hr.exactly _).bind fun _ _ => ?_
  refine (paramList_keeps hr _ (hintRule_keeps hr hr.expression.keeps)
    (hintRule_keeps hr (starExpression_keeps hr).keeps)).bind fun _ _ => ?_
  refine (hr.exactly _).bind fun _ _ => (hr.accepts _).bind fun _ _ => ?_
  have hbody {returns params} : Gives (Token.NamesMeet N) (Stmt.NamesMeet N) (do
      op ":"
      return .functionDef isAsync decorators n params returns (← block)) :=
    (hr.exactly _).bind fun _ _ => hblock.bind fun _ _ => gives_pure (List.forall_mem_singleton.mpr hn)
  exact gives_maybe hr.expression.keeps fun _ => hbody

theorem classRule_meets (decorators : List Expr) :
    Gives (Token.NamesMeet N) (Stmt.NamesMeet N) (classRule r block decorators) := by
  refine anyName_meets.bind fun n hn => (hr.accepts _).bind fun _ _ => ?_
  have hbody {bases keywords} : Gives (Token.NamesMeet N) (Stmt.NamesMeet N) (do
      op ":"
      return .classDef decorators n bases keywords (← block)) :=
    (hr.exactly _).bind fun _ _ => hblock.bind fun _ _ => gives_pure (List.forall_mem_singleton.mpr hn)
  exact gives_ite (fun _ => (arguments_keeps hr _).bind fun _ _ => hbody)
    fun _ => Gives.bind keeps_pure fun _ _ => hbody

theorem decoratedRule_meets (decorators : List Expr) :
    Gives (Token.NamesMeet N) (Stmt.NamesMeet N) (decoratedRule r block decorators) := by
  refine (hr.accepts _).bind fun _ _ => gives_ite (fun _ => classRule_meets hr hblock _) fun _ => ?_
  refine (hr.accepts _).bind fun _ _ => (hr.exactly _).bind fun _ _ => ?_
  exact functionRule_meets hr hblock _ _

variable {pattern : Reader Pattern} (hpattern : Keeps (Token.NamesMeet N) pattern)

include hpattern

theorem caseRule_keeps : Keeps (Token.NamesMeet N) (caseRule r block pattern) := by
  refine (hr.exactly _).bind fun _ _ => (casePattern_keeps hr hpattern).bind fun _ _ => ?_
  refine (hr.accepts _).bind fun _ _ => ?_
  refine gives_maybe (namedRule_keeps hr).keeps fun _ => ?_
  exact (hr.exactly _).bind fun _ _ => hblock.bind fun _ _ => keeps_pure

theorem matchRule_meets : Gives (Token.NamesMeet N) (Stmt.NamesMeet N) (matchRule r block pattern) := by
  refine (hr.exactly _).bind fun _ _ => ((starNamed_keeps hr).listed hr.rest).bind fun _ _ => ?_
  refine gives_unless fun _ => (hr.exactly _).bind fun _ _ => ?_
  refine (hr.exactly _).bind fun _ _ => (hr.exactly _).bind fun _ _ => ?_
  refine (caseRule_keeps hr hblock hpattern).oneOrMore.bind fun _ _ => ?_
  exact (hr.exactly _).bind fun _ _ => gives_pure nofun

theorem compoundStatement_meets :
    Gives (Token.NamesMeet N) (Stmt.NamesMeet N) (compoundStatement r block pattern) := by
  intro ts hts stmt us h
  unfold compoundStatement at h
  split at h
  · refine Gives.bind (keeps_oneOrMore ?_)
      (fun _ _ => decoratedRule_meets hr hblock _) _ hts _ _ h
    refine (hr.exactly _).bind fun _ _ => (namedRule_keeps hr).bind fun _ he => ?_
    exact (hr.exactly _).bind fun _ _ => keeps_pure
  · have hrest := hr.rest _ _ hts
    split at h
    · exact ifRule_meets hr hblock _ hrest _ _ h
    · exact whileRule_meets hr hblock _ hrest _ _ h
    · exact forRule_meets hr hblock _ _ hrest _ _ h
    · exact withRule_meets hr hblock _ _ hrest _ _ h
    · exact tryRule_meets hr hblock _ hrest _ _ h
    · exact functionRule_meets hr hblock _ _ _ hrest _ _ h
    · exact classRule_meets hr hblock _ _ hrest _ _ h
    · split at h
      · exact functionRule_meets hr hblock _ _ _ (hr.rest _ _ hrest) _ _ h
      · exact forRule_meets hr hblock _ _ (hr.rest _ _ hrest) _ _ h
      · exact withRule_meets hr hblock _ _ (hr.rest _ _ hrest) _ _ h
      · cases h
    · cases h
  · exact matchRule_meets hr hblock hpattern _ hts _ _ h

theorem statementLine_meets :
    Gives (Token.NamesMeet N) (fun stmts => ∀ stmt ∈ stmts, stmt.NamesMeet N)
      (statementLine r block pattern) := by
  refine Gives.orElse ?_ (simpleLine_meets hr)
  exact (compoundStatement_meets hr hblock hpattern).bind fun _ h =>
    gives_pure (List.forall_mem_singleton.mpr h)

theorem blockRule_keeps : Keeps (Token.NamesMeet N) (blockRule r block pattern) := by
  refine (hr.accepts _).bind fun _ _ => gives_ite (fun _ => ?_) fun _ => (simpleLine_meets hr).keeps
  refine (hr.exactly _).bind fun _ _ => ?_
  refine (statementLine_meets hr hblock hpattern).oneOrMore.bind fun _ _ => ?_
  exact (hr.exactly _).bind fun _ _ => keeps_pure

end

theorem blockUpTo_keeps {pattern : Reader Pattern} (hpattern : Keeps (Token.NamesMeet N) pattern)
    (n : Nat) : Keeps (Token.NamesMeet N) (blockUpTo r pattern n) := by
  induction n with
  | zero => exact gives_failure
  | succ n ih => exact blockRule_keeps hr ih hpattern

end

/-! ### Whole sources -/

section

variable {N : String → Prop}

/-- The text that a source is scanned as: it has one kind of line ends, and its last line is closed. -/
def scannedText (source : String) : List Char := closeLastLine (Text.unifyLineEnds source.toList)

/-- The rule for one line or block of a source whose text has the given length. -/
def Rules.lineRule (length : Nat) : Reader (List Stmt) :=
  let r := Rules.forLength length
  let pattern := patternUpTo r (length + 1)
  statementLine r (blockUpTo r pattern (length + 1)) pattern

theorem lineRule_meets (length : Nat) : Gives (Token.NamesMeet N)
    (fun stmts => ∀ stmt ∈ stmts, stmt.NamesMeet N) (lineRule length) := by
  have hr : (Rules.forLength length).Keep (Token.NamesMeet N) (Expr.NameMeets N) := keep_namesMeet N _
  have hpattern := patternUpTo_keeps hr (length + 1)
  exact statementLine_meets hr (blockUpTo_keeps hr hpattern _) hpattern

/-- The statements of a source are read line by line, from all its tokens. -/
theorem readStatements_eq_ok_iff {source : String} {stmts : List Stmt} :
    readStatements source = .ok stmts ↔ Char.ofNat 0 ∉ source.toList ∧
      ∃ ts ∈ Token.scan (scannedText source), ∃ lines,
        many (lineRule (scannedText source).length) ts = some (lines, []) ∧ lines.flatten = stmts := by
  have hlines (lines) : (Token.scan (scannedText source)).bind
      (many (lineRule (scannedText source).length)).run = some lines ↔
        ∃ ts ∈ Token.scan (scannedText source),
          many (lineRule (scannedText source).length) ts = some (lines, []) := by
    simp [Option.bind_eq_some_iff, run_eq_some_iff]
  unfold readStatements
  dsimp only
  split
  · rename_i hnull
    have hmem : Char.ofNat 0 ∈ source.toList := by simpa using hnull
    simp [hmem]
  · rename_i hnull
    rw [and_iff_right (by simpa using hnull)]
    split
    · rename_i lines hread
      obtain ⟨ts, hts, hmany⟩ := (hlines lines).mp hread
      constructor
      · rintro ⟨⟩
        exact ⟨ts, hts, lines, hmany, rfl⟩
      · rintro ⟨ts', hts', lines', hmany', rfl⟩
        have heq := hread.symm.trans ((hlines lines').mpr ⟨ts', hts', hmany'⟩)
        rw [Option.some.inj heq]
    · rename_i hread
      simp only [reduceCtorEq, false_iff]
      rintro ⟨ts, hts, lines, hmany, -⟩
      cases hread.symm.trans ((hlines lines).mpr ⟨ts, hts, hmany⟩)

/-- The names in the statements of a source meet the condition that its names meet. -/
theorem namesMeet_of_readStatements {source : String} {stmts : List Stmt}
    (h : readStatements source = .ok stmts)
    (hnames : ∀ ts ∈ Token.scan (scannedText source), Token.NamesMeet N ts) :
    ∀ stmt ∈ stmts, stmt.NamesMeet N := by
  obtain ⟨-, ts, hts, lines, hlines, rfl⟩ := readStatements_eq_ok_iff.mp h
  have hmeets := ((lineRule_meets _).many ts (hnames ts hts) _ _ hlines).1
  intro stmt hstmt
  obtain ⟨line, hline, hmem⟩ := List.mem_flatten.mp hstmt
  exact hmeets line hline stmt hmem

end

end TypedClients.Code
