import TypedClients.Proofs.NameSearch
import TypedClients.Proofs.QuotedLengths
import TypedClients.Proofs.ReaderInvariants

/-!
# What reading expressions keeps

A condition on tokens that lasts while tokens are taken off the front lasts while an expression is read,
and a condition that expressions have from their parts holds of what is read. Each rule of the grammar
has this from the rules that it may come back to, so that it holds at every depth: `keep_upTo`.
-/
namespace TypedClients.Code

open Reader Rules Code.Expr

/-- A condition on tokens that lasts while they are taken off the front, and one that expressions have
from such tokens and from their parts. -/
structure Reader.Lasting (I : List Token → Prop) (P : Expr → Prop) : Prop where
  rest : ∀ t ts, I (t :: ts) → I ts
  name : ∀ id ts, I (.name id :: ts) → P (.name id)
  number : ∀ v ts, I (.number v :: ts) → P (.constant v)
  plain : ∀ {v : Literal}, v.quotation? = none → P (.constant v)
  parts : ∀ e : Expr, e.ownLeaves = [] → (∀ part ∈ e.searchedParts, P part) → P e

namespace Reader.Lasting

variable {I : List Token → Prop} {P : Expr → Prop} (h : Lasting I P)

include h

theorem rest_rest {t u : Token} {ts : List Token} (hts : I (t :: u :: ts)) : I ts :=
  h.rest u ts (h.rest t _ hts)

theorem accepts (t : Token) : Keeps I (accepts t) := gives_accepts h.rest t

theorem exactly (t : Token) : Keeps I (exactly t) := gives_exactly h.rest t

theorem anyName : Keeps I anyName := gives_token h.rest fun _ _ _ => trivial

theorem operatorOf {β : Type} (table : List (String × β)) :
    Keeps I (operatorOf table) :=
  gives_token h.rest fun _ _ _ => trivial

theorem compareOp : Keeps I compareOp := by
  intro ts hts o us hread
  refine ⟨trivial, ?_⟩
  unfold Rules.compareOp at hread
  split at hread
  · obtain ⟨_, _, heq⟩ := Option.map_eq_some_iff.mp hread
    cases heq
    exact h.rest _ _ hts
  · cases hread
    exact h.rest _ _ hts
  · cases hread
    exact h.rest_rest hts
  · cases hread
    exact h.rest_rest hts
  · cases hread
    exact h.rest _ _ hts
  · cases hread

/-! ### Expressions from their parts -/

section

variable {e : Expr}

theorem part {inner : Expr} (hown : e.ownLeaves = []) (hparts : e.searchedParts = [inner])
    (hinner : P inner) : P e :=
  h.parts e hown (hparts ▸ List.forall_mem_singleton.mpr hinner)

theorem two_parts {first second : Expr} (hown : e.ownLeaves = [])
    (hparts : e.searchedParts = [first, second]) (hfirst : P first) (hsecond : P second) : P e :=
  h.parts e hown (by simp [hparts, hfirst, hsecond])

theorem tupleOf {l : Listed Expr} (hl : ∀ e ∈ l.all, P e) : P (tupleOf l) := by
  unfold Rules.tupleOf
  split
  · exact hl _ List.mem_cons_self
  · exact h.parts _ rfl hl

theorem indexOf {l : Listed Expr} (hl : ∀ e ∈ l.all, P e) : P (indexOf l) := by
  unfold Rules.indexOf
  split
  · exact hl _ List.mem_cons_self
  · exact h.parts _ rfl hl

theorem starred (he : P e) : P (.starred e) := h.part rfl rfl he

theorem named {id : String} {ts : List Token} (hts : I (.name id :: ts)) (he : P e) :
    P (.named (.name id) e) :=
  h.two_parts rfl rfl (h.name id ts hts) he

theorem unary {o : UnaryOp} (he : P e) : P (.unary o e) := h.part rfl rfl he

theorem binary {o : BinaryOp} {left right : Expr} (hleft : P left) (hright : P right) :
    P (.binary o left right) :=
  h.two_parts rfl rfl hleft hright

theorem subscript {value index : Expr} (hvalue : P value) (hindex : P index) :
    P (.subscript value index) := by
  refine h.parts _ rfl (List.forall_mem_cons.mpr ⟨hvalue, ?_⟩)
  split
  · simp
  · simpa using hindex

end

end Reader.Lasting

/-- An argument that meets a condition. -/
def Rules.ArgumentItem.Meets (P : Expr → Prop) : ArgumentItem → Prop
  | .positional e | .generator e | .spread e | .keyword _ e | .mapping e => P e

/-- The key and the value of an entry in braces, or the item. -/
def Rules.BraceItem.parts : BraceItem → List Expr
  | .entry e => e.key.toList ++ [e.value]
  | .item e => [e]

/-- An item in braces of which all parts meet a condition. -/
def Rules.BraceItem.Meets (P : Expr → Prop) (item : BraceItem) : Prop := ∀ part ∈ item.parts, P part

/-- What follows a value and keeps a condition on it. -/
def Rules.TrailerKeeps (P : Expr → Prop) (f : Expr → Expr) : Prop := ∀ e, P e → P (f e)

/-- The quoted texts that make up one expression. -/
def Rules.quotedTexts (r : Rules) : Reader Expr := do
  let ps ← oneOrMore quotedPiece
  quotedRun r ps

/-- Rules that keep a condition on tokens and take only expressions that meet another one. -/
structure Rules.Keep (I : List Token → Prop) (P : Expr → Prop) (r : Rules) : Prop
    extends Lasting I P where
  expression : Gives I P r.expression
  negation : Gives I P r.negation
  factor : Gives I P r.factor
  bitOr : Gives I P r.bitOr
  clauses : Keeps I r.clauses
  quoted : Gives I P (quotedTexts r)

theorem exists_of_mem_mapM {α β : Type} {f : α → Option β} {as : List α} {bs : List β}
    (h : as.mapM f = some bs) {b : β} (hb : b ∈ bs) : ∃ a ∈ as, f a = some b := by
  induction as generalizing bs with
  | nil =>
      obtain rfl : bs = [] := by simpa using h.symm
      cases hb
  | cons a as ih =>
      obtain ⟨c, hc, cs, hcs, rfl⟩ : ∃ c, f a = some c ∧ ∃ cs, as.mapM f = some cs ∧ c :: cs = bs := by
        simpa [List.mapM_cons, Option.bind_eq_some_iff] using h
      rcases List.mem_cons.mp hb with rfl | hb
      · exact ⟨a, List.mem_cons_self, hc⟩
      · obtain ⟨a', ha', hfa'⟩ := ih hcs hb
        exact ⟨a', List.mem_cons_of_mem _ ha', hfa'⟩

section

variable {I : List Token → Prop} {P : Expr → Prop} {r : Rules}

theorem gives_seesClause : Keeps I seesClause := by
  rintro ts hts _ _ ⟨⟩
  exact ⟨trivial, hts⟩

theorem Reader.Lasting.binaryLevels (h : Lasting I P) {operand : Reader Expr}
    (hoperand : Gives I P operand) (levels : List (List (String × BinaryOp))) :
    Gives I P (Rules.binary operand levels) := by
  induction levels with
  | nil => exact hoperand
  | cons level tighter ih =>
      exact ih.leftChain (h.operatorOf level) fun _ _ _ hleft hright => h.binary hleft hright

theorem Reader.Lasting.logicChain (h : Lasting I P) (o : LogicOp) (joint : String)
    {operand : Reader Expr} (hoperand : Gives I P operand) :
    Gives I P (Rules.logicChain o joint operand) := by
  refine hoperand.bind fun first hfirst => ?_
  refine (Gives.many ((h.exactly _).bind fun _ _ => hoperand)).bind fun rest hrest => gives_pure ?_
  split
  · exact hfirst
  · exact h.parts _ rfl (List.forall_mem_cons.mpr ⟨hfirst, hrest⟩)

variable (hr : r.Keep I P)

include hr

/-! ### Arguments and items -/

theorem arrangeArguments_keeps {items : List ArgumentItem} (h : ∀ a ∈ items, a.Meets P) :
    ∀ x ∈ arrangeArguments items, ∀ e ∈ x.1, P e := by
  fun_induction arrangeArguments items with
  | case1 => simp
  | case2 => simp
  | case3 e items ih =>
      obtain ⟨he, hitems⟩ := List.forall_mem_cons.mp h
      exact forall_mem_map.mpr fun x hx => List.forall_mem_cons.mpr ⟨he, ih hitems x hx⟩
  | case4 e items ih =>
      obtain ⟨he, hitems⟩ := List.forall_mem_cons.mp h
      exact forall_mem_map.mpr fun x hx =>
        List.forall_mem_cons.mpr ⟨hr.starred he, ih hitems x hx⟩
  | case5 | case7 => simp
  | case6 name e items _ ih => exact forall_mem_map.mpr (ih (List.forall_mem_cons.mp h).2)
  | case8 e items _ ih => exact forall_mem_map.mpr (ih (List.forall_mem_cons.mp h).2)

theorem dict_keeps {items : List BraceItem} (h : ∀ item ∈ items, item.Meets P)
    {entries : List (Entry Expr)} (hentries : items.mapM BraceItem.asEntry = some entries) :
    P (.dict entries) := by
  have hentry : ∀ entry ∈ entries, (BraceItem.entry entry).Meets P := by
    intro entry hentry
    obtain ⟨item, hitem, heq⟩ := exists_of_mem_mapM hentries hentry
    cases item <;> cases heq
    exact h _ hitem
  refine hr.parts _ rfl fun part hpart => ?_
  rcases List.mem_append.mp hpart with hpart | hpart
  · obtain ⟨entry, hmem, hkey⟩ := List.mem_filterMap.mp hpart
    exact hentry entry hmem part (by simp [BraceItem.parts, hkey])
  · obtain ⟨entry, hmem, rfl⟩ := List.mem_map.mp hpart
    exact hentry entry hmem _ (by simp [BraceItem.parts])

theorem set_keeps {items : List BraceItem} (h : ∀ item ∈ items, item.Meets P) {es : List Expr}
    (hes : items.mapM BraceItem.asItem = some es) : P (.set es) := by
  refine hr.parts _ rfl fun part hpart => ?_
  obtain ⟨item, hitem, heq⟩ := exists_of_mem_mapM hes hpart
  cases item <;> cases heq
  exact h _ hitem part (by simp [BraceItem.parts])

/-! ### Names, stars and yields -/

theorem namedRule_keeps : Gives I P (namedRule r) := by
  intro ts hts e us h
  unfold namedRule at h
  split at h
  · exact hr.expression.of_map (hr.rest_rest hts) h fun _ => hr.named hts
  · exact hr.expression ts hts e us h

theorem starNamed_keeps : Gives I P (starNamed r) := by
  refine (hr.accepts _).bind fun _ _ => gives_ite (fun _ => ?_) fun _ => namedRule_keeps hr
  exact hr.bitOr.bind fun _ he => gives_pure (hr.starred he)

theorem starExpression_keeps : Gives I P (starExpression r) := by
  refine (hr.accepts _).bind fun _ _ => gives_ite (fun _ => ?_) fun _ => hr.expression
  exact hr.bitOr.bind fun _ he => gives_pure (hr.starred he)

theorem starExpressions_keeps : Gives I P (starExpressions r) :=
  ((starExpression_keeps hr).listed hr.rest).bind fun _ hl =>
    gives_pure (hr.tupleOf hl)

theorem yieldRest_keeps : Gives I P (yieldRest r) := by
  refine (hr.accepts _).bind fun _ _ => gives_ite (fun _ => ?_) fun _ => ?_
  · refine hr.expression.bind fun e he => gives_pure ?_
    exact hr.part rfl rfl he
  · refine (starExpressions_keeps hr).optional?.bind fun o ho => gives_pure ?_
    exact hr.parts _ rfl (by simpa [searchedParts] using ho)

/-! ### Arguments and indexes -/

theorem argument_keeps : Gives I (ArgumentItem.Meets P) (argument r) := by
  intro ts hts a us h
  unfold argument at h
  split at h
  · exact hr.expression.of_map (hr.rest_rest hts) h fun _ he => he
  · exact hr.expression.of_map (hr.rest _ _ hts) h fun _ he => he
  · exact hr.expression.of_map (hr.rest _ _ hts) h fun _ he => he
  · refine Gives.bind (namedRule_keeps hr) (fun e he => gives_seesClause.bind fun _ _ => ?_) _ hts _ _ h
    refine gives_ite (fun _ => hr.clauses.bind fun _ _ => gives_pure ?_) fun _ => gives_pure he
    exact hr.part rfl rfl he

theorem arguments_keeps (ofCall : Bool) :
    Gives I (fun x => ∀ e ∈ x.1, P e) (arguments r ofCall) := by
  refine (hr.accepts _).bind fun _ _ => gives_ite (fun _ => gives_pure (by simp)) fun _ => ?_
  refine ((argument_keeps hr).listed hr.rest).bind fun items hitems => ?_
  refine (hr.exactly _).bind fun _ _ => ?_
  split
  · rename_i e hfirst
    have he := hitems _ List.mem_cons_self
    rw [hfirst] at he
    exact gives_pure (List.forall_mem_singleton.mpr he)
  · exact gives_lift (arrangeArguments_keeps hr hitems)

theorem sliceItem_keeps : Gives I P (sliceItem r) := by
  intro ts hts e us h
  unfold sliceItem at h
  split at h
  · exact hr.expression.of_map (hr.rest _ _ hts) h fun _ => hr.starred
  · exact hr.expression.of_map (hr.rest_rest hts) h fun _ => hr.named hts
  · refine Gives.bind (I := I) (gives_sees _) (fun _ _ => ?_) _ hts _ _ h
    extract_lets close
    have hclose {lower : Option Expr} (hlower : ∀ e ∈ lower, P e) :
        Gives I P (close lower) := by
      refine (hr.accepts _).bind fun _ _ => gives_ite (fun _ => ?_) fun _ => ?_
      · refine hr.expression.optional?.bind fun upper hupper => (hr.accepts _).bind fun _ _ => ?_
        extract_lets finish
        have hfinish {step : Option Expr} (hstep : ∀ e ∈ step, P e) :
            Gives I P (finish step) := by
          refine gives_pure (hr.parts _ rfl fun part hpart => ?_)
          simp only [searchedParts, List.mem_append, Option.mem_toList] at hpart
          exact hpart.elim (·.elim (hlower part) (hupper part)) (hstep part)
        exact gives_ite (fun _ => hr.expression.optional?.bind fun _ => hfinish)
          fun _ => gives_none.bind fun _ => hfinish
      · split
        · exact gives_pure (hlower _ rfl)
        · exact gives_failure
    exact gives_ite (fun _ => gives_none.bind fun _ => hclose)
      fun _ => (hr.expression.map fun e he => by simpa using he).bind fun _ => hclose

theorem trailer_keeps : Gives I (TrailerKeeps P) (trailer r) := by
  intro ts hts f us h
  unfold trailer at h
  split at h
  · cases h
    refine ⟨fun e he => ?_, hr.rest_rest hts⟩
    exact hr.part rfl rfl he
  · obtain ⟨⟨x, vs⟩, hx, heq⟩ := Option.map_eq_some_iff.mp h
    cases heq
    obtain ⟨hargs, hvs⟩ := arguments_keeps hr true _ (hr.rest _ _ hts) _ _ hx
    refine ⟨fun e he => ?_, hvs⟩
    exact hr.parts _ rfl (List.forall_mem_cons.mpr ⟨he, hargs⟩)
  · refine Gives.bind ((sliceItem_keeps hr).listed hr.rest) (fun l hl => ?_) _
      (hr.rest _ _ hts) _ _ h
    refine (hr.exactly _).bind fun _ _ => gives_pure fun e he => ?_
    exact hr.subscript he (hr.indexOf hl)
  · cases h

/-! ### Brackets -/

theorem parenthesised_keeps : Gives I P (parenthesised r) := by
  refine (hr.accepts _).bind fun _ _ => gives_ite (fun _ => gives_pure ?_) fun _ => ?_
  · exact hr.parts _ rfl (by simp [searchedParts])
  refine (hr.accepts _).bind fun _ _ => gives_ite (fun _ => ?_) fun _ => ?_
  · exact (yieldRest_keeps hr).bind fun e he => (hr.exactly _).bind fun _ _ => gives_pure he
  refine ((starNamed_keeps hr).listed hr.rest).bind fun l hl => ?_
  extract_lets finish group
  have hgroup : Gives I P (group ()) := by
    refine (hr.exactly _).bind fun _ _ => gives_unless fun _ => ?_
    exact gives_pure (hr.tupleOf hl)
  refine gives_ite (fun _ => gives_seesClause.bind fun _ _ => gives_ite (fun _ => ?_) fun _ => hgroup)
    fun _ => hgroup
  refine hr.clauses.bind fun _ _ => (hr.exactly _).bind fun _ _ => gives_pure ?_
  exact hr.part rfl rfl (hl _ List.mem_cons_self)

theorem bracketed_keeps : Gives I P (bracketed r) := by
  refine (hr.accepts _).bind fun _ _ => gives_ite (fun _ => gives_pure ?_) fun _ => ?_
  · exact hr.parts _ rfl (by simp [searchedParts])
  refine ((starNamed_keeps hr).listed hr.rest).bind fun l hl => ?_
  extract_lets group
  have hgroup : Gives I P (group ()) :=
    (hr.exactly _).bind fun _ _ => gives_pure (hr.parts _ rfl hl)
  refine gives_ite (fun _ => gives_seesClause.bind fun _ _ => gives_ite (fun _ => ?_) fun _ => hgroup)
    fun _ => hgroup
  refine hr.clauses.bind fun _ _ => (hr.exactly _).bind fun _ _ => gives_pure ?_
  exact hr.part rfl rfl (hl _ List.mem_cons_self)

theorem braceItem_keeps : Gives I (BraceItem.Meets P) (braceItem r) := by
  intro ts hts b us h
  unfold braceItem at h
  split at h
  · exact hr.bitOr.of_map (f := fun e => BraceItem.entry ⟨none, e⟩) (hr.rest _ _ hts) h
      fun _ => List.forall_mem_singleton.mpr
  · exact hr.bitOr.of_map (f := fun e => BraceItem.item (.starred e)) (hr.rest _ _ hts) h
      fun _ he => List.forall_mem_singleton.mpr (hr.starred he)
  · exact hr.expression.of_map (f := fun e => BraceItem.item (.named _ e)) (hr.rest_rest hts)
      h fun _ he => List.forall_mem_singleton.mpr (hr.named hts he)
  · refine Gives.bind hr.expression (fun e he => (hr.accepts _).bind fun _ _ => ?_) _ hts _ _ h
    refine gives_ite (fun _ => hr.expression.bind fun value hvalue => gives_pure ?_)
      fun _ => gives_pure (List.forall_mem_singleton.mpr he)
    exact List.forall_mem_cons.mpr ⟨he, List.forall_mem_singleton.mpr hvalue⟩

theorem braced_keeps : Gives I P (braced r) := by
  refine (hr.accepts _).bind fun _ _ => gives_ite (fun _ => gives_pure ?_) fun _ => ?_
  · exact hr.parts _ rfl (by simp [searchedParts])
  refine ((braceItem_keeps hr).listed hr.rest).bind fun l hl => ?_
  extract_lets group
  have hgroup : Gives I P (group ()) := by
    refine (hr.exactly _).bind fun _ _ => ?_
    split
    · exact gives_pure (dict_keeps hr hl ‹_›)
    · exact gives_pure (set_keeps hr hl ‹_›)
    · exact gives_failure
  refine gives_ite (fun _ => gives_seesClause.bind fun _ _ => gives_ite (fun _ => ?_) fun _ => hgroup)
    fun _ => hgroup
  refine hr.clauses.bind fun _ _ => (hr.exactly _).bind fun _ _ => ?_
  have hfirst := hl _ List.mem_cons_self
  split
  · rename_i key value heq
    rw [heq] at hfirst
    exact gives_pure (hr.parts _ rfl hfirst)
  · rename_i e heq
    rw [heq] at hfirst
    exact gives_ite (fun _ => gives_failure) fun _ => gives_pure (hr.parts _ rfl hfirst)
  · exact gives_failure

/-! ### Values and operators -/

theorem atom_keeps : Gives I P (atom r) := by
  intro ts hts e us h
  unfold atom at h
  split at h
  · cases h
    exact ⟨hr.name _ _ hts, hr.rest _ _ hts⟩
  · cases h
    exact ⟨hr.number _ _ hts, hr.rest _ _ hts⟩
  · have hrest := hr.rest _ _ hts
    split at h
    · cases h
      exact ⟨hr.plain rfl, hrest⟩
    split at h
    · cases h
      exact ⟨hr.plain rfl, hrest⟩
    split at h <;> cases h
    exact ⟨hr.plain rfl, hrest⟩
  · have hrest := hr.rest _ _ hts
    split at h
    · exact parenthesised_keeps hr _ hrest e us h
    split at h
    · exact bracketed_keeps hr _ hrest e us h
    split at h
    · exact braced_keeps hr _ hrest e us h
    split at h <;> cases h
    exact ⟨hr.plain rfl, hrest⟩
  · exact hr.quoted ts hts e us h

theorem primary_keeps : Gives I P (primary r) := by
  refine (atom_keeps hr).bind fun e he => (trailer_keeps hr).many.bind fun fs hfs => gives_pure ?_
  exact List.foldlRecOn fs _ he fun e he f hf => hfs f hf e he

theorem power_keeps : Gives I P (power r) := by
  refine (hr.accepts _).bind fun _ _ => ?_
  extract_lets raised
  have hraised {base : Expr} (hbase : P base) : Gives I P (raised base) := by
    refine (hr.accepts _).bind fun _ _ => gives_ite (fun _ => ?_) fun _ => gives_pure hbase
    exact hr.factor.bind fun e he => gives_pure (hr.binary hbase he)
  refine gives_ite (fun _ => ?_) fun _ => (primary_keeps hr).bind fun _ => hraised
  exact ((primary_keeps hr).map fun _ he => hr.part rfl rfl he).bind fun _ => hraised

theorem factorRule_keeps : Gives I P (factorRule r) := by
  refine (hr.operatorOf _).optional?.bind fun o _ => ?_
  split
  · exact hr.factor.bind fun e he => gives_pure (hr.unary he)
  · exact power_keeps hr

theorem bitOrRule_keeps : Gives I P (bitOrRule r) := hr.binaryLevels (factorRule_keeps hr) _

theorem comparison_keeps : Gives I P (comparison r) := by
  refine (bitOrRule_keeps hr).bind fun left hleft => ?_
  refine (Gives.many (P := fun x : CompareOp × Expr => P x.2) ?_).bind fun rest hrest => ?_
  · exact hr.compareOp.bind fun o _ => (bitOrRule_keeps hr).bind fun e he => gives_pure he
  · refine gives_pure ?_
    split
    · exact hleft
    · exact hr.parts _ rfl
        (List.forall_mem_cons.mpr ⟨hleft, List.forall_mem_map.mpr hrest⟩)

theorem negationRule_keeps : Gives I P (negationRule r) := by
  refine (hr.accepts _).bind fun _ _ => gives_ite (fun _ => ?_) fun _ => comparison_keeps hr
  exact hr.negation.bind fun e he => gives_pure (hr.unary he)

theorem disjunction_keeps : Gives I P (disjunction r) :=
  hr.logicChain _ _ (hr.logicChain _ _ (negationRule_keeps hr))

/-! ### The loosest levels -/

theorem paramList_keeps (close : Token) {hint restHint : Reader (Option Expr)}
    (hhint : Keeps I hint) (hrestHint : Keeps I restHint) :
    Keeps I (paramList r close hint restHint) := by
  refine (gives_sees _).bind fun _ _ => gives_ite (fun _ => keeps_pure) fun _ => ?_
  extract_lets item
  have hitem : Keeps I item := by
    refine (hr.accepts _).bind fun _ _ => gives_ite (fun _ => keeps_pure) fun _ => ?_
    refine (hr.accepts _).bind fun _ _ => gives_ite (fun _ => ?_) fun _ => ?_
    · exact hr.anyName.bind fun _ _ => hhint.bind fun _ _ => keeps_pure
    refine (hr.accepts _).bind fun _ _ => gives_ite (fun _ => ?_) fun _ => ?_
    · refine hr.anyName.optional?.bind fun _ _ => ?_
      split
      · exact hrestHint.bind fun _ _ => keeps_pure
      · exact keeps_pure
    · refine hr.anyName.bind fun _ _ => hhint.bind fun _ _ => (hr.accepts _).bind fun _ _ => ?_
      have hdefault : Keeps I (some <$> r.expression) :=
        hr.expression.map fun _ _ => trivial
      refine gives_ite (fun _ => hdefault.bind fun _ _ => keeps_pure) fun _ => ?_
      exact Gives.bind (P := fun _ => True) (keeps_pure) fun _ _ => keeps_pure
  refine (hitem.listed hr.rest).bind fun items _ => (gives_sees _).bind fun _ _ => ?_
  extract_lets arranged
  have harranged : Keeps I (arranged ()) := gives_lift fun _ _ => trivial
  exact gives_unless fun _ => harranged

theorem expressionRule_keeps : Gives I P (expressionRule r) := by
  refine (hr.accepts _).bind fun _ _ => gives_ite (fun _ => ?_) fun _ => ?_
  · refine (paramList_keeps hr _ (keeps_pure) (keeps_pure)).bind fun _ _ => ?_
    refine (hr.exactly _).bind fun _ _ => hr.expression.bind fun e he => gives_pure ?_
    exact hr.part rfl rfl he
  · refine (disjunction_keeps hr).bind fun e he => Gives.orElse ?_ (gives_pure he)
    refine (hr.exactly _).bind fun _ _ => (disjunction_keeps hr).bind fun test htest => ?_
    refine (hr.exactly _).bind fun _ _ => hr.expression.bind fun other hother => gives_pure ?_
    exact hr.parts _ rfl (by simpa [searchedParts] using ⟨htest, he, hother⟩)

theorem targetItem_keeps : Gives I P (targetItem r) := by
  refine (hr.accepts _).bind fun _ _ => gives_ite (fun _ => ?_) fun _ => primary_keeps hr
  exact (primary_keeps hr).bind fun _ he => gives_pure (hr.starred he)

theorem targetList_keeps : Gives I P (targetList r) := by
  refine ((targetItem_keeps hr).listed hr.rest).bind fun l hl => ?_
  exact gives_ite (fun _ => gives_pure (hr.tupleOf hl)) fun _ => gives_failure

theorem clause_keeps : Keeps I (clause r) := by
  refine (hr.accepts _).bind fun _ _ => (hr.exactly _).bind fun _ _ => ?_
  refine (targetList_keeps hr).bind fun _ _ => (hr.exactly _).bind fun _ _ => ?_
  refine (disjunction_keeps hr).bind fun _ _ => ?_
  refine (Gives.many ((hr.exactly _).bind fun _ _ => disjunction_keeps hr)).bind fun _ _ => ?_
  exact keeps_pure

end

/-! ### All rules -/

/-- The rules keep the conditions at every depth. `F` is what they need of the reader of fields in
formatted text. -/
theorem keep_upTo {I : List Token → Prop} {P : Expr → Prop} (h : Lasting I P)
    (F : (List Char → Option Expr) → Prop) (hnone : F fun _ => none)
    (hfield : ∀ {r : Rules}, r.Keep I P → F (fieldRule r))
    (hquoted : ∀ {r : Rules}, F r.field → Gives I P (quotedTexts r)) (depth : Nat) :
    (upTo depth).Keep I P := by
  suffices hall : (upTo depth).Keep I P ∧ F (upTo depth).field from hall.1
  induction depth with
  | zero =>
      exact ⟨{ h with
        expression := gives_failure
        negation := gives_failure
        factor := gives_failure
        bitOr := gives_failure
        clauses := gives_failure
        quoted := hquoted hnone }, hnone⟩
  | succ depth ih =>
      exact ⟨{ h with
        expression := expressionRule_keeps ih.1
        negation := negationRule_keeps ih.1
        factor := factorRule_keeps ih.1
        bitOr := bitOrRule_keeps ih.1
        clauses := (clause_keeps ih.1).oneOrMore.keeps
        quoted := hquoted (hfield ih.1) }, hfield ih.1⟩

end TypedClients.Code
