import TypedClients.Proofs.Readers
import TypedClients.Proofs.TypeTexts

/-!
# Types are read back

The tokens of a type are read as that type. Two facts are shown along the type: as an operand with
what follows it without an operator, and as the beginning of a chain of unions. Both speak of what
comes next, since the grammar reads from the left and the trees of types grow to the left.
-/
namespace TypedClients.Code

open Reader Rules Code.Expr
open TypedClients.Text

/-! ### What stands around a type -/

/-- Here an operand of a type ends. -/
def AfterOperand (ts : List Token) : Prop :=
  ∀ t ∈ ts.head?, t ∈ [Token.op "]", .op ")", .op ",", .op "|"]

/-- Here a type ends. -/
def AfterType (ts : List Token) : Prop := ∀ t ∈ ts.head?, t ∈ [Token.op "]", .op ")", .op ","]

/-- The tokens that a type starts with. -/
def startsType : Token → Bool
  | .name _ | .number _ | .quoted _ => true
  | .word w => w == "None"
  | .op s => s == "..." || s == "(" || s == "["
  | _ => false

section

variable {ts : List Token}

theorem afterOperand_of_afterType (h : AfterType ts) : AfterOperand ts := by
  intro t ht
  have hmem := h t ht
  simp only [List.mem_cons, List.not_mem_nil, or_false] at hmem ⊢
  rcases hmem with rfl | rfl | rfl <;> simp

theorem head?_ne_of_afterOperand (h : AfterOperand ts) {t : Token}
    (ht : t ∉ [Token.op "]", .op ")", .op ",", .op "|"]) : ts.head? ≠ some t :=
  fun hhead => ht (h t hhead)

theorem head?_ne_of_afterType (h : AfterType ts) {t : Token}
    (ht : t ∉ [Token.op "]", .op ")", .op ","]) : ts.head? ≠ some t :=
  fun hhead => ht (h t hhead)

theorem head?_ne_of_startsType (h : ∀ t ∈ ts.head?, startsType t = true) {t : Token}
    (ht : startsType t = false) : ts.head? ≠ some t := by
  intro hhead
  rw [h t hhead] at ht
  cases ht

theorem operatorOf_of_afterOperand (h : AfterOperand ts) {level : List (String × BinaryOp)}
    (hlevel : level ∈ binaryLevels.tail) : operatorOf level ts = none := by
  have hlookup : ∀ level ∈ binaryLevels.tail, ∀ s ∈ ["]", ")", ",", "|"],
      level.lookup s = none := by decide
  cases ts with
  | nil => rfl
  | cons t ts =>
      have hmem := h t rfl
      simp only [List.mem_cons, List.not_mem_nil, or_false] at hmem
      rcases hmem with rfl | rfl | rfl | rfl <;>
        simp [operatorOf, token, hlookup level hlevel]

theorem trailer_of_afterOperand (h : AfterOperand ts) (r : Rules) : trailer r ts = none := by
  cases ts with
  | nil => rfl
  | cons t ts =>
      have hmem := h t rfl
      simp only [List.mem_cons, List.not_mem_nil, or_false] at hmem
      rcases hmem with rfl | rfl | rfl | rfl <;> rfl

theorem compareOp_of_afterType (h : AfterType ts) : compareOp ts = none := by
  cases ts with
  | nil => rfl
  | cons t ts =>
      have hmem := h t rfl
      simp only [List.mem_cons, List.not_mem_nil, or_false] at hmem
      rcases hmem with rfl | rfl | rfl <;> rfl

end

/-! ### From one level of the grammar to the next -/

section

variable {r : Rules} {ts rest : List Token} {e : Expr}

theorem binary_of_operand {operand : Reader Expr} (h : operand ts = some (e, rest))
    {levels : List (List (String × BinaryOp))}
    (hlevels : ∀ level ∈ levels, operatorOf level rest = none) :
    binary operand levels ts = some (e, rest) := by
  induction levels with
  | nil => exact h
  | cons level levels ih =>
      obtain ⟨hlevel, htighter⟩ := List.forall_mem_cons.mp hlevels
      exact leftChain_of_steps (ih htighter) (.nil (operation_of_none hlevel))

theorem primary_of_atom {us : List Token} {fs : List (Expr → Expr)}
    (hatom : atom r ts = some (e, us)) (htrailers : Steps (trailer r) us fs rest) :
    primary r ts = some (fs.foldl (fun e f => f e) e, rest) := by
  rw [primary, bind_of_eq hatom, bind_of_eq (many_of_steps htrailers)]
  rfl

theorem factorRule_of_primary (hstart : ∀ t ∈ ts.head?, startsType t = true)
    (h : primary r ts = some (e, rest)) (hrest : AfterOperand rest) :
    factorRule r ts = some (e, rest) := by
  have hsign : operatorOf [("+", UnaryOp.plus), ("-", .minus), ("~", .invert)] ts = none := by
    cases ts with
    | nil => rfl
    | cons t ts =>
        have ht := hstart t rfl
        cases t with
        | op s =>
            simp only [startsType, Bool.or_eq_true, beq_iff_eq] at ht
            rcases ht with (rfl | rfl) | rfl <;> rfl
        | _ => rfl
  rw [factorRule, bind_of_eq (optional?_of_none hsign)]
  change power r ts = _
  rw [power, bind_of_eq (accepts_of_ne (head?_ne_of_startsType hstart (by decide)))]
  change (primary r >>= _) ts = _
  rw [bind_of_eq h]
  exact bind_of_eq (accepts_of_ne (head?_ne_of_afterOperand hrest (by decide)))

/-- An operand of a union. -/
def operand (r : Rules) : Reader Expr := binary (factorRule r) binaryLevels.tail

theorem operand_of_primary (hstart : ∀ t ∈ ts.head?, startsType t = true)
    (h : primary r ts = some (e, rest)) (hrest : AfterOperand rest) :
    operand r ts = some (e, rest) :=
  binary_of_operand (factorRule_of_primary hstart h hrest)
    fun _ => operatorOf_of_afterOperand hrest

/-- The operators of unions. -/
def unionOperator : Reader BinaryOp := operatorOf [("|", .bitOr)]

theorem bitOrRule_of_steps {us : List Token} {ps : List (BinaryOp × Expr)}
    (h : operand r ts = some (e, us)) (hrest : Steps (operation (operand r) unionOperator) us ps rest) :
    bitOrRule r ts = some (ps.foldl (fun left x => .binary x.1 left x.2) e, rest) := by
  change leftChain (operand r) unionOperator (fun left o right => .binary o left right) ts = _
  exact leftChain_of_steps h hrest

theorem unionOperator_of_afterType (h : AfterType ts) : unionOperator ts = none := by
  cases ts with
  | nil => rfl
  | cons t ts =>
      have hmem := h t rfl
      simp only [List.mem_cons, List.not_mem_nil, or_false] at hmem
      rcases hmem with rfl | rfl | rfl <;> rfl

theorem logicChain_of_operand {o : LogicOp} {joint : String} {p : Reader Expr}
    (h : p ts = some (e, rest)) (hrest : rest.head? ≠ some (.word joint)) :
    logicChain o joint p ts = some (e, rest) := by
  have hmany : many (do word joint; p) rest = some ([], rest) :=
    many_of_none (bind_of_none (exactly_of_ne hrest))
  rw [logicChain, bind_of_eq h, bind_of_eq hmany]
  rfl

/-- What is read as a chain of unions is read as an expression where a type ends. -/
theorem expressionRule_of_bitOrRule (hstart : ∀ t ∈ ts.head?, startsType t = true)
    (h : bitOrRule r ts = some (e, rest)) (hrest : AfterType rest) :
    expressionRule r ts = some (e, rest) := by
  have hcomparison : comparison r ts = some (e, rest) := by
    have hmany : many (do return (← compareOp, ← bitOrRule r)) rest = some ([], rest) :=
      many_of_none (bind_of_none (compareOp_of_afterType hrest))
    rw [comparison, bind_of_eq h, bind_of_eq hmany]
    rfl
  have hnegation : negationRule r ts = some (e, rest) := by
    rw [negationRule, bind_of_eq (accepts_of_ne (head?_ne_of_startsType hstart (by decide)))]
    exact hcomparison
  have hdisjunction : disjunction r ts = some (e, rest) :=
    logicChain_of_operand
      (logicChain_of_operand hnegation (head?_ne_of_afterType hrest (by decide)))
      (head?_ne_of_afterType hrest (by decide))
  rw [expressionRule, bind_of_eq (accepts_of_ne (head?_ne_of_startsType hstart (by decide)))]
  change (disjunction r >>= _) ts = _
  rw [bind_of_eq hdisjunction]
  exact orElse_of_none (bind_of_none (exactly_of_ne (head?_ne_of_afterType hrest (by decide))))

end

/-! ### Items of lists -/

section

variable {r : Rules} {ts rest : List Token} {e : Expr}

/-- Where a value is given to a name, no type starts. -/
def AtWalrus (ts : List Token) : Prop := ∃ n us, ts = .name n :: .op ":=" :: us

theorem namedRule_of_expression (h : r.expression ts = some (e, rest)) (hwalrus : ¬ AtWalrus ts) :
    namedRule r ts = some (e, rest) := by
  unfold namedRule
  split
  · exact absurd ⟨_, _, rfl⟩ hwalrus
  · exact h

theorem starNamed_of_expression (hstart : ∀ t ∈ ts.head?, startsType t = true)
    (h : r.expression ts = some (e, rest)) (hwalrus : ¬ AtWalrus ts) :
    starNamed r ts = some (e, rest) := by
  rw [starNamed, bind_of_eq (accepts_of_ne (head?_ne_of_startsType hstart (by decide)))]
  exact namedRule_of_expression h hwalrus

theorem sliceItem_of_expression (hstart : ∀ t ∈ ts.head?, startsType t = true)
    (h : r.expression ts = some (e, rest)) (hwalrus : ¬ AtWalrus ts) (hrest : AfterType rest) :
    sliceItem r ts = some (e, rest) := by
  unfold sliceItem
  split
  · exact absurd (hstart _ rfl) (by decide)
  · exact absurd ⟨_, _, rfl⟩ hwalrus
  · have hcolon := head?_ne_of_startsType hstart (show startsType (.op ":") = false from rfl)
    change (sees (.op ":") >>= _) ts = _
    rw [bind_of_eq (sees_of_ne hcolon)]
    change ((some <$> r.expression) >>= _) ts = _
    rw [bind_of_eq (map_of_eq h)]
    exact bind_of_eq (accepts_of_ne (head?_ne_of_afterType hrest (by decide)))

/-- No expression starts with a closing bracket. -/
theorem expressionRule_closing (r : Rules) (ts : List Token) :
    expressionRule r (.op "]" :: ts) = none := by
  have hother : ∀ w, (Token.op "]" :: ts).head? ≠ some (.word w) := by simp
  have hprimary : primary r (.op "]" :: ts) = none := bind_of_none rfl
  have hfactor : factorRule r (.op "]" :: ts) = none := by
    rw [factorRule, bind_of_eq (optional?_of_none rfl)]
    change power r _ = _
    rw [power, bind_of_eq (accepts_of_ne (hother "await"))]
    exact bind_of_none hprimary
  have hbinary : ∀ levels, binary (factorRule r) levels (.op "]" :: ts) = none := by
    intro levels
    induction levels with
    | nil => exact hfactor
    | cons level levels ih => exact bind_of_none ih
  have hnegation : negationRule r (.op "]" :: ts) = none := by
    rw [negationRule, bind_of_eq (accepts_of_ne (hother "not"))]
    exact bind_of_none (hbinary binaryLevels)
  rw [expressionRule, bind_of_eq (accepts_of_ne (hother "lambda"))]
  exact bind_of_none (bind_of_none (bind_of_none hnegation))

theorem expression_closing (n : Nat) (ts : List Token) :
    (upTo n).expression (.op "]" :: ts) = none := by
  cases n with
  | zero => rfl
  | succ n => exact expressionRule_closing (upTo n) ts

theorem sliceItem_closing (n : Nat) (ts : List Token) :
    sliceItem (upTo n) (.op "]" :: ts) = none := by
  change (sees (.op ":") >>= _) (.op "]" :: ts) = _
  rw [bind_of_eq (sees_of_ne (by simp))]
  exact bind_of_none (map_of_none (expression_closing n ts))

/-- Items are read one after the other, each behind a comma. -/
theorem steps_afterComma {p : Reader Expr} {items : List Expr}
    (h : ∀ e ∈ items, ∀ us, AfterType us → p (typeTokens .test e ++ us) = some (e, us))
    (hrest : AfterType rest) (hcomma : rest.head? ≠ some (.op ",")) :
    Steps (afterComma p) (tokensAfterCommas items ++ rest) items rest ∧
      AfterType (tokensAfterCommas items ++ rest) := by
  induction items with
  | nil => exact ⟨.nil (afterComma_of_ne hcomma), hrest⟩
  | cons e es ih =>
      obtain ⟨he, hes⟩ := List.forall_mem_cons.mp h
      obtain ⟨hsteps, hafter⟩ := ih hes
      refine ⟨.cons ?_ ?_ hsteps, by simp [tokensAfterCommas, AfterType]⟩
      · rw [tokensAfterCommas, List.cons_append, List.cons_append, afterComma_cons,
          List.append_assoc]
        exact he _ hafter
      · simp only [tokensAfterCommas, List.cons_append, List.length_cons, List.length_append]
        omega

end

/-! ### The shape of the tokens -/

section

variable {part : TypePart} {e : Expr}

theorem typeTokens_of_lt (e : Expr) {s s' : Strength} (hs : Strength.bitOr < s)
    (hs' : Strength.bitOr < s') : typeTokens s e = typeTokens s' e := by
  unfold typeTokens
  split <;> simp [hs, hs']

theorem typeTokens_of_le (e : Expr) {s s' : Strength} (hs : s ≤ Strength.bitOr)
    (hs' : s' ≤ Strength.bitOr) : typeTokens s e = typeTokens s' e := by
  unfold typeTokens
  split <;> simp [Nat.not_lt.mpr hs, Nat.not_lt.mpr hs']

/-- Tokens that start with those of a type and give no name a value. -/
structure TypeShaped (ts : List Token) : Prop where
  head : ∃ t us, ts = t :: us ∧ startsType t = true
  walrus : Token.op ":=" ∉ ts

theorem typeShaped_append {ts us : List Token} (h : TypeShaped ts) (hus : Token.op ":=" ∉ us) :
    TypeShaped (ts ++ us) := by
  obtain ⟨⟨t, vs, rfl, ht⟩, hwalrus⟩ := h
  refine ⟨⟨t, vs ++ us, rfl, ht⟩, ?_⟩
  rw [List.mem_append, not_or]
  exact ⟨hwalrus, hus⟩

theorem typeShaped_singleton {t : Token} (ht : startsType t = true) : TypeShaped [t] := by
  refine ⟨⟨t, [], rfl, ht⟩, ?_⟩
  rw [List.mem_singleton]
  rintro rfl
  cases ht

theorem walrus_notMem_tokensAfterCommas {items : List Expr}
    (h : ∀ e ∈ items, TypeShaped (typeTokens .test e)) :
    Token.op ":=" ∉ tokensAfterCommas items := by
  induction items with
  | nil => simp [tokensAfterCommas]
  | cons e es ih =>
      obtain ⟨he, hes⟩ := List.forall_mem_cons.mp h
      simpa [tokensAfterCommas] using ⟨he.walrus, ih hes⟩

theorem typeShaped_of_isPart (h : IsPart part e) (s : Strength) : TypeShaped (typeTokens s e) := by
  induction h generalizing s with
  | dotted h =>
      induction h generalizing s with
      | name => exact typeShaped_singleton rfl
      | member _ _ ih => 
          rw [typeTokens]
          exact typeShaped_append (ih .atom) (by simp)
  | subscript _ _ ihValue ihIndex =>
      rw [typeTokens, List.append_assoc]
      exact typeShaped_append (ihValue .atom) (by simpa using (ihIndex .test).walrus)
  | @union left right _ _ ihLeft ihRight =>
      have hright : Token.op ":=" ∉ .op "|" :: typeTokens Strength.bitOr.next right := by
        simpa using (ihRight Strength.bitOr.next).walrus
      have hinner := typeShaped_append (ihLeft .bitOr) hright
      rw [typeTokens, parenthesisedIf]
      split
      · exact ⟨⟨_, _, rfl, rfl⟩, by simpa using hinner.walrus⟩
      · exact hinner
  | absent => exact typeShaped_singleton rfl
  | ellipsis => exact typeShaped_singleton rfl
  | int n => exact typeShaped_singleton rfl
  | text | brokenText => exact typeShaped_singleton rfl
  | type _ ih => exact ih s
  | @list items _ ih =>
      have hitems : ∀ e ∈ items, TypeShaped (typeTokens .test e) := fun e he => ih e he .test
      cases items with
      | nil => exact ⟨⟨_, _, rfl, rfl⟩, by simp [typeTokens]⟩
      | cons first others =>
          obtain ⟨hfirst, hothers⟩ := List.forall_mem_cons.mp hitems
          have hafter := walrus_notMem_tokensAfterCommas hothers
          rw [typeTokens]
          exact ⟨⟨_, _, rfl, rfl⟩, by simpa using ⟨hfirst.walrus, hafter⟩⟩
  | single _ ih => exact ih s
  | @several first others _ ih =>
      have hitems : ∀ e ∈ first :: others, TypeShaped (typeTokens .test e) :=
        fun e he => ih e he .test
      obtain ⟨hfirst, hothers⟩ := List.forall_mem_cons.mp hitems
      have hafter := walrus_notMem_tokensAfterCommas hothers
      cases others with
      | nil =>
          rw [typeTokens]
          exact typeShaped_append hfirst (by simp)
      | cons e es =>
          rw [typeTokens]
          · exact typeShaped_append hfirst hafter
          · simp

theorem startsType_of_typeShaped {ts : List Token} (h : TypeShaped ts) (us : List Token) :
    ∀ t ∈ (ts ++ us).head?, startsType t = true := by
  obtain ⟨⟨t, vs, rfl, ht⟩, -⟩ := h
  simpa using ht

theorem not_atWalrus {ts us : List Token} (h : TypeShaped ts) (hus : us.head? ≠ some (.op ":=")) :
    ¬ AtWalrus (ts ++ us) := by
  obtain ⟨⟨t, vs, rfl, -⟩, hwalrus⟩ := h
  rintro ⟨n, ws, heq⟩
  cases vs with
  | nil =>
      obtain ⟨-, rfl⟩ : t = .name n ∧ us = .op ":=" :: ws := by simpa using heq
      exact hus rfl
  | cons v vs =>
      obtain ⟨-, rfl, -⟩ : t = .name n ∧ v = .op ":=" ∧ vs ++ us = ws := by simpa using heq
      simp at hwalrus

end

/-! ### Along a type -/

/-- The tokens of an expression are read as a value, which goes on with what follows it without an
operator. -/
def ReadsAsValue (e : Expr) : Prop :=
  ∀ ⦃n : Nat⦄, (typeTokens .atom e).length ≤ n →
    ∀ ⦃us rest : List Token⦄ ⦃fs : List (Expr → Expr)⦄, quotedPiece us = none →
      Steps (trailer (upTo n)) us fs rest →
        primary (upTo n) (typeTokens .atom e ++ us) = some (fs.foldl (fun e f => f e) e, rest)

/-- The tokens of an expression are read as the beginning of a union. -/
def ReadsAsUnion (e : Expr) : Prop :=
  ∀ ⦃n : Nat⦄, (typeTokens .bitOr e).length ≤ n →
    ∀ ⦃us rest : List Token⦄ ⦃ps : List (BinaryOp × Expr)⦄, AfterOperand us →
      Steps (operation (operand (upTo n)) unionOperator) us ps rest →
        bitOrRule (upTo n) (typeTokens .bitOr e ++ us) =
          some (ps.foldl (fun left x => .binary x.1 left x.2) e, rest)

/-- The tokens of a type or an argument are read as it, in both places where the grammar goes on
behind it. -/
structure ReadsBack (e : Expr) : Prop where
  value : ReadsAsValue e
  union : ReadsAsUnion e

/-- The tokens of all arguments are read as these. -/
def ReadsArguments (index : Expr) : Prop :=
  ∀ ⦃n : Nat⦄, (typeTokens .test index).length < n → ∀ rest, ∃ l,
    listed (sliceItem (upTo n)) (typeTokens .test index ++ .op "]" :: rest) =
      some (l, .op "]" :: rest) ∧ indexOf l = index

/-- What is shown of a part of a type. -/
def ReadsAs : TypePart → Expr → Prop
  | .arguments, e => ReadsArguments e
  | _, e => ReadsBack e

theorem expression_of_readsBack {e : Expr} (h : ReadsBack e)
    (hshape : TypeShaped (typeTokens .test e)) {n : Nat} (hn : (typeTokens .test e).length < n)
    {us : List Token} (hus : AfterType us) :
    (upTo n).expression (typeTokens .test e ++ us) = some (e, us) := by
  obtain ⟨m, rfl⟩ : ∃ m, n = m + 1 := ⟨n - 1, by omega⟩
  have hsame : typeTokens .test e = typeTokens .bitOr e :=
    typeTokens_of_le e (by decide) (by decide)
  change expressionRule (upTo m) _ = _
  refine expressionRule_of_bitOrRule (startsType_of_typeShaped hshape us) ?_ hus
  rw [hsame] at hn ⊢
  exact h.union (by omega) (afterOperand_of_afterType hus)
    (.nil (operation_of_none (unionOperator_of_afterType hus)))

theorem quotedPiece_of_afterOperand {us : List Token} (h : AfterOperand us) :
    quotedPiece us = none := by
  cases us with
  | nil => rfl
  | cons t us =>
      have hmem := h t rfl
      simp only [List.mem_cons, List.not_mem_nil, or_false] at hmem
      rcases hmem with rfl | rfl | rfl | rfl <;> rfl

/-- What is no union is the first operand of a union as it is. -/
theorem readsBack_of_value {e : Expr} (hshape : TypeShaped (typeTokens .bitOr e))
    (hsame : typeTokens .bitOr e = typeTokens .atom e) (hvalue : ReadsAsValue e) :
    ReadsBack e := by
  refine ⟨hvalue, fun n hn us rest ps hus hsteps => ?_⟩
  have hread := hvalue (hsame ▸ hn) (quotedPiece_of_afterOperand hus)
    (.nil (trailer_of_afterOperand hus (upTo n)))
  rw [← hsame] at hread
  exact bitOrRule_of_steps
    (operand_of_primary (startsType_of_typeShaped hshape us) hread hus) hsteps

theorem readsBack_of_atom {e : Expr} (hshape : TypeShaped (typeTokens .bitOr e))
    (hsame : typeTokens .bitOr e = typeTokens .atom e)
    (hatom : ∀ {n : Nat}, (typeTokens .atom e).length ≤ n → ∀ {us : List Token},
      quotedPiece us = none → atom (upTo n) (typeTokens .atom e ++ us) = some (e, us)) :
    ReadsBack e :=
  readsBack_of_value hshape hsame fun _ hn _ _ _ hus hsteps =>
    primary_of_atom (hatom hn hus) hsteps

theorem readsBack_dotted {e : Expr} (h : IsDotted e) : ReadsBack e := by
  have hshape := typeShaped_of_isPart (.dotted h) .bitOr
  induction h with
  | name =>
      exact readsBack_of_atom hshape rfl fun _ _ _ => rfl
  | @member value field hvalue _ ih =>
      have ih := ih (typeShaped_of_isPart (.dotted hvalue) .bitOr)
      refine readsBack_of_value hshape rfl fun n hn us rest fs _ hsteps => ?_
      rw [typeTokens, List.length_append] at hn
      rw [typeTokens, List.append_assoc]
      have hstep : trailer (upTo n) (.op "." :: .name field :: us) =
          some ((.member · field), us) := rfl
      have hless : us.length < (Token.op "." :: Token.name field :: us).length := by
        simp only [List.length_cons]
        omega
      exact ih.value (by omega) rfl (.cons hstep hless hsteps)

theorem readsBack_subscript {value index : Expr} (h : IsPart .type (.subscript value index))
    (hvalue : ReadsBack value) (hindex : ReadsArguments index) :
    ReadsBack (.subscript value index) := by
  refine readsBack_of_value (typeShaped_of_isPart h .bitOr) rfl
    fun n hn us rest fs _ hsteps => ?_
  simp only [typeTokens, List.length_append, List.length_cons] at hn
  obtain ⟨l, hl, hall⟩ := hindex (show (typeTokens .test index).length < n by omega) us
  have htrailer : trailer (upTo n) (.op "[" :: (typeTokens .test index ++ .op "]" :: us)) =
      some ((.subscript · index), us) := by
    change (listed (sliceItem (upTo n)) >>= _) _ = _
    rw [bind_of_eq hl, bind_of_eq (op_self "]"), hall]
    rfl
  have hless : us.length < (Token.op "[" :: (typeTokens .test index ++ .op "]" :: us)).length := by
    simp only [List.length_cons, List.length_append]
    omega
  have htokens : typeTokens .atom (.subscript value index) ++ us =
      typeTokens .atom value ++ .op "[" :: (typeTokens .test index ++ .op "]" :: us) := by
    simp [typeTokens]
  rw [htokens]
  exact hvalue.value (by omega) rfl (.cons htrailer hless hsteps)

/-! ### Between brackets -/

section

variable {r : Rules} {ts us rest : List Token} {e : Expr}

theorem seesClause_op (symbol : String) (ts : List Token) :
    seesClause (.op symbol :: ts) = some (false, .op symbol :: ts) := by
  simp [seesClause]

/-- One value in parentheses is that value. -/
theorem parenthesised_of_listed (hstart : ∀ t ∈ ts.head?, startsType t = true)
    (hstar : e.isStarred = false)
    (h : listed (starNamed r) ts = some (⟨e, [], false⟩, .op ")" :: us)) :
    parenthesised r ts = some (e, us) := by
  rw [parenthesised, bind_of_eq (accepts_of_ne (head?_ne_of_startsType hstart (by decide)))]
  change (accepts (.word "yield") >>= _) ts = _
  rw [bind_of_eq (accepts_of_ne (head?_ne_of_startsType hstart (by decide)))]
  change (listed (starNamed r) >>= _) ts = _
  rw [bind_of_eq h, if_pos ⟨rfl, by simp [hstar]⟩, bind_of_eq (seesClause_op ")" us)]
  change (op ")" >>= _) _ = _
  rw [bind_of_eq (op_self ")"), if_neg (by simp [hstar])]
  rfl

theorem bracketed_of_listed (hstart : ∀ t ∈ ts.head?, startsType t = true) {l : Listed Expr}
    (h : listed (starNamed r) ts = some (l, .op "]" :: us)) :
    bracketed r ts = some (.list l.all, us) := by
  rw [bracketed, bind_of_eq (accepts_of_ne (head?_ne_of_startsType hstart (by decide)))]
  change (listed (starNamed r) >>= _) ts = _
  rw [bind_of_eq h]
  split
  · rw [bind_of_eq (seesClause_op "]" us)]
    exact bind_of_eq (op_self "]")
  · exact bind_of_eq (op_self "]")

theorem length_typeTokens_lt_of_mem {items : List Expr} (he : e ∈ items) :
    (typeTokens .test e).length < (tokensAfterCommas items).length := by
  induction items with
  | nil => simp at he
  | cons item items ih =>
      simp only [tokensAfterCommas, List.cons_append, List.length_cons, List.length_append]
      rcases List.mem_cons.mp he with rfl | he
      · omega
      · have hless := ih he
        omega

theorem starNamed_of_readsBack (h : ReadsBack e) (hshape : TypeShaped (typeTokens .test e)) {n : Nat}
    (hn : (typeTokens .test e).length < n) (hus : AfterType us) :
    starNamed (upTo n) (typeTokens .test e ++ us) = some (e, us) :=
  starNamed_of_expression (startsType_of_typeShaped hshape us)
    (expression_of_readsBack h hshape hn hus)
    (not_atWalrus hshape (head?_ne_of_afterType hus (by decide)))

theorem sliceItem_of_readsBack (h : ReadsBack e) (hshape : TypeShaped (typeTokens .test e)) {n : Nat}
    (hn : (typeTokens .test e).length < n) (hus : AfterType us) :
    sliceItem (upTo n) (typeTokens .test e ++ us) = some (e, us) :=
  sliceItem_of_expression (startsType_of_typeShaped hshape us)
    (expression_of_readsBack h hshape hn hus)
    (not_atWalrus hshape (head?_ne_of_afterType hus (by decide))) hus

/-- Items with commas between them are read as these. -/
theorem listed_of_items {p : Reader Expr} {first : Expr} {others : List Expr}
    (h : ∀ e ∈ first :: others, ∀ us, AfterType us → p (typeTokens .test e ++ us) = some (e, us))
    (hrest : AfterType rest) (hcomma : rest.head? ≠ some (.op ",")) :
    listed p (typeTokens .test first ++ (tokensAfterCommas others ++ rest)) =
      some (⟨first, others, false⟩, rest) := by
  obtain ⟨hfirst, hothers⟩ := List.forall_mem_cons.mp h
  obtain ⟨hsteps, hafter⟩ := steps_afterComma hothers hrest hcomma
  exact listed_of_steps (hfirst _ hafter) hsteps (accepts_of_ne hcomma)

theorem afterType_closing {symbol : String} (h : symbol = "]" ∨ symbol = ")") (ts : List Token) :
    AfterType (.op symbol :: ts) ∧ (Token.op symbol :: ts).head? ≠ some (.op ",") := by
  rcases h with rfl | rfl <;> simp [AfterType]

end

/-! ### Unions, lists and texts -/

section

variable {left right : Expr}

theorem typeTokens_union (left right : Expr) : typeTokens .bitOr (.binary .bitOr left right) =
    typeTokens .bitOr left ++ .op "|" :: typeTokens .atom right := by
  rw [typeTokens, typeTokens_of_lt right (show Strength.bitOr < Strength.bitOr.next by decide)
    (show Strength.bitOr < Strength.atom by decide)]
  rfl

/-- A union goes on with its right operand where its left one ends. -/
theorem readsAsUnion_union (hleft : ReadsBack left) (hright : ReadsBack right)
    (hshape : TypeShaped (typeTokens .atom right)) :
    ReadsAsUnion (.binary .bitOr left right) := by
  intro n hn us rest ps hus hsteps
  rw [typeTokens_union, List.length_append, List.length_cons] at hn
  rw [typeTokens_union, List.append_assoc]
  have hoperand : operand (upTo n) (typeTokens .atom right ++ us) = some (right, us) :=
    operand_of_primary (startsType_of_typeShaped hshape us)
      (hright.value (by omega) (quotedPiece_of_afterOperand hus)
        (.nil (trailer_of_afterOperand hus _))) hus
  have hstep : operation (operand (upTo n)) unionOperator
      (.op "|" :: typeTokens .atom right ++ us) = some ((.bitOr, right), us) :=
    (bind_of_eq (a := BinaryOp.bitOr) rfl).trans (bind_of_eq hoperand)
  have hless : us.length < (Token.op "|" :: typeTokens .atom right ++ us).length := by
    simp only [List.cons_append, List.length_cons, List.length_append]
    omega
  exact hleft.union (by omega) (by simp [AfterOperand]) (.cons hstep hless hsteps)

/-- As a value a union stands in parentheses. -/
theorem readsAsValue_union (hwhole : TypeShaped (typeTokens .test (.binary .bitOr left right)))
    (hunion : ReadsAsUnion (.binary .bitOr left right)) :
    ReadsAsValue (.binary .bitOr left right) := by
  intro n hn us rest fs _ hsteps
  have htokens : typeTokens .atom (.binary .bitOr left right) =
      .op "(" :: typeTokens .test (.binary .bitOr left right) ++ [.op ")"] := rfl
  have hsame : typeTokens .test (.binary .bitOr left right) =
      typeTokens .bitOr (.binary .bitOr left right) := typeTokens_of_le _ (by decide) (by decide)
  simp only [htokens, List.cons_append, List.length_cons, List.length_append] at hn
  obtain ⟨m, rfl⟩ : ∃ m, n = m + 1 := ⟨n - 1, by omega⟩
  have hread : ∀ e ∈ [Expr.binary .bitOr left right], ∀ us, AfterType us →
      starNamed (upTo (m + 1)) (typeTokens .test e ++ us) = some (e, us) := by
    intro e he us hus
    obtain rfl := List.mem_singleton.mp he
    refine starNamed_of_expression (startsType_of_typeShaped hwhole us) ?_
      (not_atWalrus hwhole (head?_ne_of_afterType hus (by decide)))
    refine expressionRule_of_bitOrRule (startsType_of_typeShaped hwhole us) ?_ hus
    rw [hsame] at hn ⊢
    exact hunion (by omega) (afterOperand_of_afterType hus)
      (.nil (operation_of_none (unionOperator_of_afterType hus)))
  obtain ⟨hafter, hcomma⟩ := afterType_closing (.inr rfl) us
  have hinner := parenthesised_of_listed (startsType_of_typeShaped hwhole _) rfl
    (listed_of_items hread hafter hcomma)
  refine primary_of_atom ?_ hsteps
  rw [htokens, List.cons_append, List.cons_append, List.append_assoc]
  exact hinner

theorem readsBack_union (h : IsPart .type (.binary .bitOr left right))
    (hleft : ReadsBack left) (hright : ReadsBack right)
    (hshape : TypeShaped (typeTokens .atom right)) : ReadsBack (.binary .bitOr left right) := by
  have hunion := readsAsUnion_union hleft hright hshape
  exact ⟨readsAsValue_union (typeShaped_of_isPart h .test) hunion, hunion⟩

end

theorem readsBack_list {items : List Expr} (h : IsPart .argument (.list items))
    (hitems : ∀ e ∈ items, ReadsBack e) : ReadsBack (.list items) := by
  have hparts : ∀ e ∈ items, IsPart .argument e := by
    cases h with
    | type h => cases h with | dotted h => cases h
    | list h => exact h
  cases items with
  | nil =>
      exact readsBack_of_atom (typeShaped_of_isPart h .bitOr) rfl fun _ _ _ => rfl
  | cons first others =>
      refine readsBack_of_atom (typeShaped_of_isPart h .bitOr) rfl fun {n} hn us _ => ?_
      have hlength : ∀ e ∈ first :: others, (typeTokens .test e).length < n := by
        intro e he
        have hless := length_typeTokens_lt_of_mem he
        simp only [typeTokens, tokensAfterCommas, List.cons_append, List.length_cons,
          List.length_append] at hn hless
        omega
      obtain ⟨hafter, hcomma⟩ := afterType_closing (.inl rfl) us
      have hread : ∀ e ∈ first :: others, ∀ us, AfterType us →
          starNamed (upTo n) (typeTokens .test e ++ us) = some (e, us) :=
        fun e he us hus => starNamed_of_readsBack (hitems e he)
          (typeShaped_of_isPart (hparts e he) .test) (hlength e he) hus
      have hstart := startsType_of_typeShaped (typeShaped_of_isPart (hparts first (by simp)) .test)
        (tokensAfterCommas others ++ .op "]" :: us)
      have hlist := bracketed_of_listed hstart (listed_of_items hread hafter hcomma)
      have htokens : typeTokens .atom (.list (first :: others)) ++ us = .op "[" ::
          (typeTokens .test first ++ (tokensAfterCommas others ++ .op "]" :: us)) := by
        simp [typeTokens]
      rw [htokens]
      exact hlist

theorem atom_quoted (r : Rules) (points : List CodePoint) (marked : Bool) {us : List Token}
    (hus : quotedPiece us = none) :
    atom r (.quoted ⟨false, false, false, marked, CodePoint.quotedBody points⟩ :: us) =
      some (.constant (.ofPoints points marked), us) := by
  have hpieces : oneOrMore quotedPiece
      (.quoted ⟨false, false, false, marked, CodePoint.quotedBody points⟩ :: us) =
        some ([⟨false, false, false, marked, CodePoint.quotedBody points⟩], us) :=
    oneOrMore_of_steps rfl (.nil hus)
  change (oneOrMore quotedPiece >>= _) _ = _
  rw [bind_of_eq hpieces]
  simp [quotedRun, textOf, unescape_quotedBody]
  rfl

/-- All arguments of a generic type are read as these. -/
theorem readsArguments_several {first : Expr} {others : List Expr}
    (hparts : ∀ e ∈ first :: others, IsPart .argument e)
    (hitems : ∀ e ∈ first :: others, ReadsBack e) : ReadsArguments (.tuple (first :: others)) := by
  intro n hn rest
  have hshape := fun e he => typeShaped_of_isPart (hparts e he) .test
  have hread : ∀ e ∈ first :: others, (typeTokens .test e).length < n → ∀ us, AfterType us →
      sliceItem (upTo n) (typeTokens .test e ++ us) = some (e, us) :=
    fun e he hlength us hus => sliceItem_of_readsBack (hitems e he) (hshape e he) hlength hus
  cases others with
  | nil =>
      -- One argument in a tuple has a comma after it, and no argument follows.
      simp only [typeTokens, List.length_append, List.length_cons] at hn
      have hfirst := hread first (by simp) (by omega) (.op "," :: .op "]" :: rest)
        (by simp [AfterType])
      have hnone : afterComma (sliceItem (upTo n)) (.op "," :: .op "]" :: rest) = none :=
        afterComma_cons.trans (sliceItem_closing n rest)
      refine ⟨⟨first, [], true⟩, ?_, rfl⟩
      rw [typeTokens, List.append_assoc]
      exact listed_of_steps hfirst (.nil hnone) (accepts_self (.op ","))
  | cons second others =>
      have htokens : typeTokens .test (.tuple (first :: second :: others)) =
          typeTokens .test first ++ tokensAfterCommas (second :: others) := rfl
      rw [htokens] at hn ⊢
      have hlength : ∀ e ∈ first :: second :: others, (typeTokens .test e).length < n := by
        intro e he
        have hless := length_typeTokens_lt_of_mem he
        simp only [tokensAfterCommas, List.cons_append, List.length_cons,
          List.length_append] at hn hless
        omega
      obtain ⟨hafter, hcomma⟩ := afterType_closing (.inl rfl) rest
      refine ⟨⟨first, second :: others, false⟩, ?_, rfl⟩
      rw [List.append_assoc]
      exact listed_of_items (fun e he => hread e he (hlength e he)) hafter hcomma

theorem isStarred_of_isPart {e : Expr} (h : IsPart .argument e) : e.isStarred = false := by
  cases h with
  | type h =>
      cases h with
      | dotted h => cases h <;> rfl
      | subscript | union | absent | ellipsis | int | text | brokenText => rfl
  | list => rfl

theorem readsArguments_single {e : Expr} (h : IsPart .argument e) (hback : ReadsBack e) :
    ReadsArguments e := by
  intro n hn rest
  have hread : ∀ item ∈ [e], ∀ us, AfterType us →
      sliceItem (upTo n) (typeTokens .test item ++ us) = some (item, us) := by
    intro item hitem us hus
    obtain rfl := List.mem_singleton.mp hitem
    exact sliceItem_of_readsBack hback (typeShaped_of_isPart h .test) hn hus
  obtain ⟨hafter, hcomma⟩ := afterType_closing (.inl rfl) rest
  exact ⟨⟨e, [], false⟩, listed_of_items hread hafter hcomma, by
    simp [indexOf, Listed.isSingle, isStarred_of_isPart h]⟩

/-- The tokens of a part of a type are read as that part. -/
theorem readsAs_of_isPart {part : TypePart} {e : Expr} (h : IsPart part e) : ReadsAs part e := by
  induction h with
  | dotted h => exact readsBack_dotted h
  | subscript hvalue hindex ihValue ihIndex =>
      exact readsBack_subscript (.subscript hvalue hindex) ihValue ihIndex
  | union hleft hright ihLeft ihRight =>
      exact readsBack_union (.union hleft hright) ihLeft ihRight
        (typeShaped_of_isPart hright .atom)
  | absent => exact readsBack_of_atom (typeShaped_singleton rfl) rfl fun _ _ _ => rfl
  | ellipsis => exact readsBack_of_atom (typeShaped_singleton rfl) rfl fun _ _ _ => rfl
  | int n => exact readsBack_of_atom (typeShaped_singleton rfl) rfl fun _ _ _ => rfl
  | text s marked =>
      refine readsBack_of_atom (typeShaped_singleton rfl) rfl fun {n} _ _ hus => ?_
      have hread := atom_quoted (upTo n) (CodePoint.ofString s) marked hus
      rwa [Literal.ofPoints_ofString] at hread
  | brokenText t marked =>
      refine readsBack_of_atom (typeShaped_singleton rfl) rfl fun {n} _ _ hus => ?_
      have hread := atom_quoted (upTo n) t.points marked hus
      rwa [Literal.ofPoints_points] at hread
  | type _ ih => exact ih
  | list h ih => exact readsBack_list (.list h) ih
  | single h ih => exact readsArguments_single h ih
  | several h ih => exact readsArguments_several h ih

end TypedClients.Code
