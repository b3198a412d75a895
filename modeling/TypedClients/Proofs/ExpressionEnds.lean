import TypedClients.Proofs.PathArguments
import TypedClients.Proofs.TypeTexts

/-!
# The ends of written expressions

An expression is written with a quote at its start only where a text stands there, and with a quote at
its end only where something quoted ends there. What is between two such quotes is taken for a path,
even where they belong to different texts: `path_of_expression`. Such a path holds a quote itself, so
no parameter is bound by it.
-/
namespace TypedClients.Code

open TypedClients.Text

/-! ### Ends of a text -/

/-- Neither a quote nor a blank. -/
def isFirm (c : Char) : Bool := ! (c == '\'' || c == '"' || isBlank c)

theorem not_isQuote_of_isFirm {c : Char} (h : isFirm c = true) : ¬ IsQuote c := by
  rintro (rfl | rfl) <;> cases h

theorem isBlank_of_isFirm {c : Char} (h : isFirm c = true) : isBlank c = false := by
  cases hblank : isBlank c
  · rfl
  · simp [isFirm, hblank] at h

theorem isBlank_of_isQuote {c : Char} (h : IsQuote c) : isBlank c = false := by
  rcases h with rfl | rfl <;> rfl

/-- A text starts with a quote, which comes again and is not the last character then unless the text
is `alone`; or it starts with a character that is neither quote nor blank. -/
inductive Opens (alone : Prop) : Option Char → List Char → Prop
  | quoted {quote : Char} (hquote : IsQuote quote) (body after : List Char)
      (hafter : ¬ alone → after ≠ []) : Opens alone (some quote) (quote :: (body ++ quote :: after))
  | plain {c : Char} (hc : isFirm c = true) (rest : List Char) : Opens alone none (c :: rest)

/-- A text ends with a quote, or with a character that is neither quote nor blank. -/
inductive Closes : Option Char → List Char → Prop
  | quoted {quote : Char} (hquote : IsQuote quote) (front : List Char) :
      Closes (some quote) (front ++ [quote])
  | plain {c : Char} (hc : isFirm c = true) (front : List Char) : Closes none (front ++ [c])

variable {alone : Prop} {opening closing : Option Char} {cs : List Char}

theorem Opens.append (h : Opens alone opening cs) {more : List Char} (hmore : more ≠ [])
    {alone' : Prop} : Opens alone' opening (cs ++ more) := by
  cases h with
  | quoted hquote body after =>
      rw [List.cons_append, List.append_assoc, List.cons_append]
      exact .quoted hquote body _ fun _ => by simp [hmore]
  | plain hc rest => exact .plain hc _

theorem Closes.append (h : Closes closing cs) (front : List Char) : Closes closing (front ++ cs) := by
  cases h with
  | quoted hquote => rw [← List.append_assoc]; exact .quoted hquote _
  | plain hc => rw [← List.append_assoc]; exact .plain hc _

theorem Opens.isBlank (h : Opens alone opening cs) : ∀ c ∈ cs.head?, isBlank c = false := by
  cases h with
  | quoted hquote => rintro c ⟨⟩; exact isBlank_of_isQuote hquote
  | plain hc => rintro c ⟨⟩; exact isBlank_of_isFirm hc

theorem Closes.isBlank (h : Closes closing cs) : ∀ c ∈ cs.getLast?, isBlank c = false := by
  cases h with
  | quoted hquote => rw [List.getLast?_concat]; rintro c ⟨⟩; exact isBlank_of_isQuote hquote
  | plain hc => rw [List.getLast?_concat]; rintro c ⟨⟩; exact isBlank_of_isFirm hc

theorem Opens.isQuote {quote : Char} (h : Opens alone (some quote) cs) : IsQuote quote := by
  cases h with
  | quoted hquote => exact hquote

theorem Opens.eq_some_of_head? {quote : Char} (h : Opens alone opening cs)
    (hhead : cs.head? = some quote) (hquote : IsQuote quote) : opening = some quote := by
  cases h with
  | quoted => exact hhead
  | plain hc =>
      cases hhead
      exact absurd hquote (not_isQuote_of_isFirm hc)

theorem Closes.eq_some_iff {quote : Char} (h : Closes closing cs) (hquote : IsQuote quote) :
    closing = some quote ↔ cs.getLast? = some quote := by
  cases h with
  | quoted => rw [List.getLast?_concat]
  | plain hc =>
      rw [List.getLast?_concat, Option.some.injEq]
      refine iff_of_false (by simp) ?_
      rintro rfl
      exact not_isQuote_of_isFirm hc hquote

/-- A text is taken for a literal if it has equal quotes at its ends. One that is more than a single
quoted text holds that quote between its ends, too. -/
theorem literalText?_of_ends {source : String} (hopens : Opens False opening source.toList)
    (hcloses : Closes closing source.toList) :
    (∀ text, literalText? source = some text →
        ∃ quote, IsQuote quote ∧ opening = some quote ∧ closing = some quote) ∧
      ∀ quote, opening = some quote → closing = some quote → ∃ text,
        literalText? source = some text ∧ source.toList = quote :: (text.toList ++ [quote]) ∧
          quote ∈ text.toList := by
  have hiff (text : String) : literalText? source = some text ↔
      ∃ quote, IsQuote quote ∧ source.toList = quote :: (text.toList ++ [quote]) :=
    literalText?_eq_some_iff hopens.isBlank hcloses.isBlank
  constructor
  · intro text htext
    obtain ⟨quote, hquote, hsource⟩ := (hiff text).mp htext
    refine ⟨quote, hquote, hopens.eq_some_of_head? (by rw [hsource]; rfl) hquote, ?_⟩
    rw [hcloses.eq_some_iff hquote, hsource, ← List.cons_append, List.getLast?_concat]
  · rintro quote rfl rfl
    generalize hsource : source.toList = cs at hopens hcloses
    cases hopens with
    | quoted hquote body after hafter =>
        obtain ⟨after, last, rfl⟩ := (List.eq_nil_or_concat' _).resolve_left (hafter not_false)
        have hlast : last = quote := by
          have hend := (hcloses.eq_some_iff hquote).mp rfl
          rw [← List.cons_append, ← List.cons_append, ← List.append_assoc, List.getLast?_concat] at hend
          exact Option.some.inj hend
        subst hlast
        have htext : last :: (body ++ last :: (after ++ [last])) =
            last :: ((String.ofList (body ++ last :: after)).toList ++ [last]) := by simp
        refine ⟨String.ofList (body ++ last :: after), ?_, htext, by simp⟩
        exact (hiff _).mpr ⟨last, hquote, hsource.trans htext⟩

/-! ### Numbers -/

theorem isFirm_of_isPlainNameChar {c : Char} (h : isPlainNameChar c = true) : isFirm c = true := by
  have hascii := isPlainNameChar_ascii h
  have hcodes : ∀ n < 128, isPlainNameChar (Char.ofNat n) = true → isFirm (Char.ofNat n) = true := by
    decide +kernel
  rw [← Char.ofNat_toNat (c := c)] at h ⊢
  exact hcodes _ hascii h

/-- All characters of a text are neither quotes nor blanks, and there are some. -/
def IsFirmText (cs : List Char) : Prop := cs ≠ [] ∧ ∀ c ∈ cs, isFirm c = true

theorem IsFirmText.opens (h : IsFirmText cs) : Opens alone none cs := by
  obtain ⟨c, rest, rfl⟩ := List.exists_cons_of_ne_nil h.1
  exact .plain (h.2 c List.mem_cons_self) rest

theorem IsFirmText.closes (h : IsFirmText cs) : Closes none cs := by
  obtain ⟨front, c, rfl⟩ := (List.eq_nil_or_concat' _).resolve_left h.1
  exact .plain (h.2 c (by simp)) front

theorem isFirm_of_mem_toDigits {n : Nat} {c : Char} (h : c ∈ Nat.toDigits 10 n) :
    isFirm c = true :=
  isFirm_of_isPlainNameChar (Token.isPlainNameChar_of_mem_toDigits h)

/-- The digits of a number are those of some natural number, perhaps without zeros at the end. -/
theorem isFirm_of_mem_shortest (m : Nat) (e : Int) :
    ∀ c ∈ (Binary64.shortest m e).digits, isFirm c = true := by
  have hdropped : ∀ n, ∀ c ∈ ((Nat.toDigits 10 n).reverse.dropWhile (· == '0')).reverse,
      isFirm c = true := by
    intro n c hc
    have hmem := (List.dropWhile_sublist _).mem (List.mem_reverse.mp hc)
    exact isFirm_of_mem_toDigits (List.mem_reverse.mp hmem)
  have hgo : ∀ fuel den value high low point n,
      ∀ c ∈ (Binary64.shortest.go m den value high low point fuel n).digits, isFirm c = true := by
    intro fuel den value high low point
    induction fuel with
    | zero =>
        intro n
        unfold Binary64.shortest.go
        dsimp only
        split
        · exact hdropped _
        · exact fun c => isFirm_of_mem_toDigits
        · contradiction
    | succ fuel ih =>
        intro n
        unfold Binary64.shortest.go
        dsimp only
        split
        · exact hdropped _
        · contradiction
        · rename_i hfuel
          cases hfuel
          exact ih _
  exact hgo _ _ _ _ _ _ _

theorem isFirm_of_mem_replicate {n : Nat} {c : Char} (h : c ∈ List.replicate n '0') :
    isFirm c = true := by
  rw [List.eq_of_mem_replicate h]
  rfl

theorem isFirmText_layout {d : Binary64.Digits} (hdigits : ∀ c ∈ d.digits, isFirm c = true)
    {whole : List Char} (hwhole : ∀ c ∈ whole, isFirm c = true) :
    IsFirmText (Binary64.layout d whole) := by
  have hfront : ∀ n, ∀ c ∈ d.digits.take n, isFirm c = true := fun n c hc =>
    hdigits c (List.mem_of_mem_take hc)
  have hback : ∀ n, ∀ c ∈ d.digits.drop n, isFirm c = true := fun n c hc =>
    hdigits c (List.mem_of_mem_drop hc)
  unfold Binary64.layout
  split
  split
  · refine ⟨by simp, ?_⟩
    simp only [List.forall_mem_append]
    exact ⟨⟨List.all_eq_true.mp (by decide), fun _ => isFirm_of_mem_replicate⟩, hdigits⟩
  split
  · rename_i hpoint hlength
    refine ⟨fun h => ?_, ?_⟩
    · simp only [List.append_eq_nil_iff, List.replicate_eq_nil_iff] at h
      have hempty := congrArg List.length h.1.1
      rw [List.length_nil] at hempty
      omega
    · simp only [List.forall_mem_append]
      exact ⟨⟨hdigits, fun _ => isFirm_of_mem_replicate⟩, hwhole⟩
  · refine ⟨by simp, ?_⟩
    simp only [List.forall_mem_append, List.forall_mem_cons]
    exact ⟨hfront _, by decide, hback _⟩
  · refine ⟨by simp, ?_⟩
    simp only [List.forall_mem_append, List.forall_mem_cons]
    refine ⟨⟨hfront 1, ?_⟩, by decide, ?_, ?_⟩
    · split
      · simp
      · exact List.forall_mem_cons.mpr ⟨by decide, hback 1⟩
    · split <;> decide
    · split
      · exact List.forall_mem_cons.mpr ⟨by decide, fun c => isFirm_of_mem_toDigits⟩
      · exact fun c => isFirm_of_mem_toDigits

/-- The text of a number has some characters, and none but digits, points, signs and the letter of an
exponent. -/
theorem isFirmText_binary64 (x : Binary64) {whole : List Char}
    (hwhole : ∀ c ∈ whole, isFirm c = true) : IsFirmText (x.text whole) := by
  cases x with
  | overflow =>
      change IsFirmText Binary64.overflowText
      exact ⟨by decide, List.all_eq_true.mp (by decide)⟩
  | finite m e =>
      rw [Binary64.text]
      split
      · exact ⟨List.cons_ne_nil _ _, List.forall_mem_cons.mpr ⟨by decide, hwhole⟩⟩
      · exact isFirmText_layout (isFirm_of_mem_shortest m e) hwhole

/-! ### Expressions -/

/-- A text starts and ends with characters that are neither quotes nor blanks, as a name does. -/
def HasFirmEnds (s : String) : Prop :=
  (∃ c ∈ s.toList.head?, isFirm c = true) ∧ ∃ c ∈ s.toList.getLast?, isFirm c = true

/-- The strengths of the places of two operands. -/
def BinaryOp.sides (op : BinaryOp) : Strength × Strength :=
  if op = .pow then (op.strength.next, op.strength) else (op.strength, op.strength.next)

theorem Strength.test_le_next {s : Strength} (h : Strength.test ≤ s) : Strength.test ≤ s.next :=
  Nat.le_min.mpr ⟨Nat.le_succ_of_le h, by decide⟩

theorem LogicOp.test_le_strength (op : LogicOp) : Strength.test ≤ op.strength := by
  cases op <;> decide

theorem UnaryOp.test_le_strength (op : UnaryOp) : Strength.test ≤ op.strength := by
  cases op <;> decide

theorem BinaryOp.test_le_sides (op : BinaryOp) :
    Strength.test ≤ op.sides.1 ∧ Strength.test ≤ op.sides.2 := by
  cases op <;> decide

namespace Expr

mutual

/-- Outside of brackets, names have the ends of names, and there are operands for every operator. -/
def IsProper : Expr → Prop
  | name id => HasFirmEnds id
  | member value field => value.IsProper ∧ HasFirmEnds field
  | subscript value _ | call value _ _ | starred value | unary _ value | await value
  | lambda _ value => value.IsProper
  | logic _ operands => 2 ≤ operands.length ∧ AreProper operands
  | binary _ left right => left.IsProper ∧ right.IsProper
  | compare left rest => left.IsProper ∧ rest ≠ [] ∧ AreProperCompared rest
  | conditional _ body orelse => body.IsProper ∧ orelse.IsProper
  | slice lower upper step => IsProperOption lower ∧ IsProperOption upper ∧ IsProperOption step
  | _ => True

def AreProper : List Expr → Prop
  | [] => True
  | e :: es => e.IsProper ∧ AreProper es

def AreProperCompared : List (CompareOp × Expr) → Prop
  | [] => True
  | (_, e) :: rest => e.IsProper ∧ AreProperCompared rest

def IsProperOption : Option Expr → Prop
  | none => True
  | some e => e.IsProper

end

mutual

/-- The quote that the text of an expression starts with, in a place of the given strength. It is the
opening quote of a text without mark that stands at the left. -/
def openingQuote? (s : Strength) : Expr → Option Char
  | constant (.text t false) => some (CodePoint.quoteFor (CodePoint.ofString t))
  | constant (.brokenText t false) => some (CodePoint.quoteFor t.points)
  | member value _ | subscript value _ | call value _ _ => openingQuote? .atom value
  | logic op operands => if op.strength < s then none else openingOfAll? op.strength.next operands
  | binary op left _ => if op.strength < s then none else openingQuote? op.sides.1 left
  | compare left _ =>
      if Strength.comparison < s then none else openingQuote? Strength.comparison.next left
  | conditional _ body _ =>
      if Strength.test < s then none else openingQuote? Strength.test.next body
  | slice lower _ _ => openingOfOption? lower
  | _ => none

def openingOfAll? (s : Strength) : List Expr → Option Char
  | [] => none
  | e :: _ => openingQuote? s e

def openingOfOption? : Option Expr → Option Char
  | none => none
  | some e => openingQuote? .test e

end

/-- The quotes of formatted text. -/
def formattedQuote? (pieces : List (Piece Expr)) : Option Char :=
  ((narrowQuotes allQuotes (renderPieces pieces)).2.headD []).getLast?

mutual

/-- The quote that the text of an expression ends with, in a place of the given strength. It is the
closing quote of something quoted that stands at the right. -/
def closingQuote? (s : Strength) : Expr → Option Char
  | constant (.text t _) => some (CodePoint.quoteFor (CodePoint.ofString t))
  | constant (.brokenText t _) => some (CodePoint.quoteFor t.points)
  | constant (.bytes bs) => some (quoteFor (bs.map fun b => Char.ofNat b.toNat))
  | formatted pieces => formattedQuote? pieces
  | starred value => closingQuote? .bitOr value
  | logic op operands => if op.strength < s then none else closingOfAll? op.strength.next operands
  | unary op operand => if op.strength < s then none else closingQuote? op.strength operand
  | binary op _ right => if op.strength < s then none else closingQuote? op.sides.2 right
  | compare _ rest => if Strength.comparison < s then none else closingOfCompared? rest
  | lambda _ body => if Strength.test < s then none else closingQuote? .test body
  | conditional _ _ orelse => if Strength.test < s then none else closingQuote? .test orelse
  | await value => if Strength.await < s then none else closingQuote? .atom value
  | slice _ upper step => if step.isSome then closingOfOption? step else closingOfOption? upper
  | _ => none

/-- The closing quote of operands, each in a tighter place than the one before. -/
def closingOfAll? (s : Strength) : List Expr → Option Char
  | [] => none
  | [e] => closingQuote? s e
  | _ :: es => closingOfAll? s.next es

def closingOfCompared? : List (CompareOp × Expr) → Option Char
  | [] => none
  | [(_, e)] => closingQuote? Strength.comparison.next e
  | _ :: rest => closingOfCompared? rest

def closingOfOption? : Option Expr → Option Char
  | none => none
  | some e => closingQuote? .test e

end

/-- The quote that stands at both ends of the text of an expression. -/
def surroundingQuote? (e : Expr) : Option Char :=
  (e.openingQuote? .test).filter fun quote => e.closingQuote? .test = some quote


/-! ### Constants and formatted text -/

theorem opens_quotedText (points : List CodePoint) {alone : Prop} (halone : alone) :
    Opens alone (some (CodePoint.quoteFor points)) (CodePoint.quotedText points) :=
  .quoted (isQuote_quoteFor _) (CodePoint.quotedBody points) [] fun h => absurd halone h

theorem closes_quotedText (points : List CodePoint) :
    Closes (some (CodePoint.quoteFor points)) (CodePoint.quotedText points) := by
  rw [CodePoint.quotedText, ← List.cons_append]
  exact .quoted (isQuote_quoteFor _) _

theorem opens_constant (s : Strength) (v : Literal) {alone : Prop}
    (halone : (constant v).points?.isSome → alone) :
    Opens alone (openingQuote? s (constant v)) (renderAt false s (constant v)).toList := by
  rw [renderAt_constant]
  cases v with
  | text t marked =>
      rw [Literal.toList_render_text]
      cases marked with
      | false => exact opens_quotedText (CodePoint.ofString t) (halone rfl)
      | true => exact .plain rfl _
  | brokenText t marked =>
      rw [Literal.toList_render_brokenText]
      cases marked with
      | false => exact opens_quotedText t.points (halone rfl)
      | true => exact .plain rfl _
  | bytes bs =>
      rw [Literal.render, String.toList_ofList]
      exact .plain rfl _
  | int n =>
      rw [Literal.render, String.toList_ofList]
      exact IsFirmText.opens ⟨Nat.toDigits_ne_nil, fun _ => isFirm_of_mem_toDigits⟩
  | float x =>
      rw [Literal.render, String.toList_ofList]
      exact (isFirmText_binary64 x (List.all_eq_true.mp (by decide))).opens
  | imaginary x =>
      rw [Literal.render, String.toList_ofList]
      have hnumber : Opens alone none (x.text []) := (isFirmText_binary64 x (by simp)).opens
      exact hnumber.append (by simp)
  | none => exact .plain rfl _
  | ellipsis => exact .plain rfl _
  | bool value => cases value <;> exact .plain rfl _

theorem closes_constant (s : Strength) (v : Literal) :
    Closes (closingQuote? s (constant v)) (renderAt false s (constant v)).toList := by
  rw [renderAt_constant]
  cases v with
  | text t marked =>
      rw [Literal.toList_render_text]
      exact (closes_quotedText (CodePoint.ofString t)).append _
  | brokenText t marked =>
      rw [Literal.toList_render_brokenText]
      exact (closes_quotedText t.points).append _
  | bytes bs =>
      rw [Literal.render, String.toList_ofList, quotedBytes]
      rw [← List.cons_append, ← List.cons_append]
      exact .quoted (isQuote_quoteFor _) _
  | int n =>
      rw [Literal.render, String.toList_ofList]
      exact IsFirmText.closes ⟨Nat.toDigits_ne_nil, fun _ => isFirm_of_mem_toDigits⟩
  | float x =>
      rw [Literal.render, String.toList_ofList]
      exact (isFirmText_binary64 x (List.all_eq_true.mp (by decide))).closes
  | imaginary x =>
      rw [Literal.render, String.toList_ofList]
      exact .plain rfl _
  | none => exact .plain (c := 'e') rfl "Non".toList
  | ellipsis => exact .plain (c := '.') rfl "..".toList
  | bool value =>
      cases value with
      | true => exact .plain (c := 'e') rfl "Tru".toList
      | false => exact .plain (c := 'e') rfl "Fals".toList

/-- The quotes that formatted text may stand in: there are some, and each is made of quotes. -/
def AreQuotes (quotes : List (List Char)) : Prop :=
  quotes ≠ [] ∧ ∀ q ∈ quotes, ∃ front quote, q = front ++ [quote] ∧ IsQuote quote

theorem AreQuotes.of_mem_imp {quotes some : List (List Char)} (h : AreQuotes quotes)
    (hsome : some ≠ []) (hmem : ∀ q ∈ some, q ∈ quotes) : AreQuotes some :=
  ⟨hsome, fun q hq => h.2 q (hmem q hq)⟩

theorem areQuotes_layoutQuoted {quotes : List (List Char)} (h : AreQuotes quotes)
    (escapeBlanks : Bool) (points : List CodePoint) :
    AreQuotes (layoutQuoted quotes escapeBlanks points).2 := by
  unfold layoutQuoted
  dsimp only
  generalize points.flatMap _ = body
  split
  · refine ⟨by simp, fun q hq => ?_⟩
    rw [List.mem_singleton.mp hq]
    cases hfind : quotes.find? (·.contains (CodePoint.quoteFor points)) with
    | none => exact ⟨[], _, rfl, isQuote_quoteFor _⟩
    | some q => exact h.2 q (List.mem_of_find?_eq_some hfind)
  · rename_i hpossible
    have hleft := h.of_mem_imp hpossible fun q hq => (List.mem_filter.mp hq).1
    generalize List.filter _ quotes = possible at hleft
    split
    · exact hleft
    · rename_i last _
      have hsplit : AreQuotes (possible.filter (fun q => ! (q.head? == some last)) ++
          possible.filter fun q => q.head? == some last) := by
        refine hleft.of_mem_imp (fun hnil => ?_) fun q hq => ?_
        · obtain ⟨q, rest, rfl⟩ := List.exists_cons_of_ne_nil hleft.1
          have hq : q ∈ (q :: rest).filter (fun q => ! (q.head? == some last)) ++
              (q :: rest).filter fun q => q.head? == some last := by
            simp only [List.mem_append, List.mem_filter, List.mem_cons_self, true_and]
            cases q.head? == some last <;> simp
          rw [hnil] at hq
          cases hq
        · rcases List.mem_append.mp hq with hq | hq
          · exact (List.mem_filter.mp hq).1
          · exact (List.mem_filter.mp hq).1
      split
      · exact hsplit
      · exact hsplit

theorem areQuotes_narrowQuotes {quotes : List (List Char)} (h : AreQuotes quotes)
    (parts : List (List CodePoint × Bool)) : AreQuotes (narrowQuotes quotes parts).2 := by
  induction parts generalizing quotes with
  | nil => exact h
  | cons part parts ih => exact ih (areQuotes_layoutQuoted h _ _)

theorem areQuotes_allQuotes : AreQuotes allQuotes := by
  refine ⟨by decide, ?_⟩
  simp only [allQuotes, List.forall_mem_cons]
  exact ⟨⟨[], _, rfl, .inl rfl⟩, ⟨[], _, rfl, .inr rfl⟩, ⟨['"', '"'], _, rfl, .inr rfl⟩,
    ⟨['\'', '\''], _, rfl, .inl rfl⟩, by simp⟩

theorem closes_formatted (s : Strength) (pieces : List (Piece Expr)) :
    Closes (closingQuote? s (formatted pieces)) (renderAt false s (formatted pieces)).toList := by
  obtain ⟨hne, hquotes⟩ := areQuotes_narrowQuotes areQuotes_allQuotes (renderPieces pieces)
  obtain ⟨q, others, hq⟩ := List.exists_cons_of_ne_nil hne
  obtain ⟨front, quote, rfl, hquote⟩ := hquotes q (by rw [hq]; exact List.mem_cons_self)
  have hclosing : closingQuote? s (formatted pieces) = some quote := by
    rw [closingQuote?, formattedQuote?, hq, List.headD_cons, List.getLast?_concat]
  have htext : ∃ text, (renderAt false s (formatted pieces)).toList = text ++ [quote] := by
    refine ⟨'f' :: (front ++ [quote] ++ (narrowQuotes allQuotes (renderPieces pieces)).1 ++ front), ?_⟩
    simp [renderAt, quotedParts, hq]
  obtain ⟨text, htext⟩ := htext
  rw [hclosing, htext]
  exact .quoted hquote text

/-! ### Places -/

theorem toList_parensIf_of_true {condition : Bool} (h : condition = true) (text : String) :
    (parensIf condition text).toList = '(' :: (text.toList ++ [')']) := by
  simp [parensIf, h]

theorem renderAt_binary (inField : Bool) (s : Strength) (op : BinaryOp) (left right : Expr) :
    renderAt inField s (binary op left right) = parensIf (op.strength < s)
      (renderAt inField op.sides.1 left ++ " " ++ op.symbol ++ " " ++
        renderAt inField op.sides.2 right) := by
  rw [renderAt, BinaryOp.sides]

/-! ### The opening quote -/

theorem opens_parensIf {p : Prop} [Decidable p] {text : String} {alone : Prop}
    {opening : Option Char} (h : Opens alone opening text.toList) :
    Opens alone (if p then none else opening) (parensIf p text).toList := by
  by_cases hp : p
  · rw [if_pos hp, toList_parensIf_of_true (by simpa using hp)]
    exact .plain rfl _
  · simpa [parensIf, hp] using h

theorem opens_none_parensIf {p : Prop} [Decidable p] {text : String} {alone : Prop}
    (h : Opens alone none text.toList) : Opens alone none (parensIf p text).toList := by
  simpa using opens_parensIf (p := p) h

/-- A text in parentheses has no quotes at its ends. -/
theorem opens_parens {condition : Bool} (h : condition = true) {text : String} {alone : Prop} :
    Opens alone none (parensIf condition text).toList := by
  rw [toList_parensIf_of_true h]
  exact .plain rfl _

theorem opens_of_front {front rest : String} (h : front.toList.head?.any isFirm = true)
    {alone : Prop} : Opens alone none (front ++ rest).toList := by
  obtain ⟨c, hc, hfirm⟩ := (Option.any_eq_true _ _).mp h
  obtain ⟨others, hfront⟩ := List.head?_eq_some_iff.mp hc
  rw [String.toList_append, hfront]
  exact .plain hfirm _

theorem opens_of_hasFirmEnds {text : String} (h : HasFirmEnds text) {alone : Prop} :
    Opens alone none text.toList := by
  obtain ⟨⟨c, hc, hfirm⟩, -⟩ := h
  obtain ⟨rest, hrest⟩ := List.head?_eq_some_iff.mp hc
  rw [hrest]
  exact .plain hfirm rest

theorem opens_renderAt (e : Expr) {s : Strength} (hs : Strength.test ≤ s) (h : e.IsProper) :
    Opens (e.points?.isSome) (openingQuote? s e) (renderAt false s e).toList := by
  match e, h with
  | constant v, _ => exact opens_constant s v id
  | name id, h =>
      rw [renderAt]
      exact opens_of_hasFirmEnds h
  | member value field, h =>
      have hvalue := opens_renderAt value (s := .atom) (by decide) h.1
      rw [renderAt, String.toList_append, String.toList_append, List.append_assoc]
      refine hvalue.append ?_
      split <;> simp
  | subscript value index, h =>
      have hvalue := opens_renderAt value (s := .atom) (by decide) h
      rw [toList_renderAt_subscript, List.append_assoc]
      exact hvalue.append (by simp)
  | call callee args keywords, h =>
      have hcallee := opens_renderAt callee (s := .atom) (by decide) h
      rw [renderAt, String.toList_append, String.toList_append, String.toList_append,
        List.append_assoc, List.append_assoc]
      exact hcallee.append (by simp)
  | logic op (first :: second :: others), h =>
      have hfirst := opens_renderAt first (Strength.test_le_next op.test_le_strength) h.2.1
      rw [renderAt, renderRising, renderRising, String.intercalate_cons_cons]
      refine opens_parensIf ?_
      rw [String.toList_append, String.toList_append, List.append_assoc]
      exact hfirst.append (by simp)
  | binary op left right, h =>
      have hleft := opens_renderAt left op.test_le_sides.1 h.1
      rw [renderAt_binary]
      refine opens_parensIf ?_
      simp only [String.toList_append, List.append_assoc]
      exact hleft.append (by simp)
  | compare left ((op, right) :: rest), h =>
      have hleft := opens_renderAt left (s := Strength.comparison.next) (by decide) h.1
      rw [renderAt, renderComparisons]
      refine opens_parensIf ?_
      rw [String.toList_append]
      exact hleft.append (by simp)
  | conditional test body orelse, h =>
      have hbody := opens_renderAt body (s := Strength.test.next) (by decide) h.1
      rw [renderAt]
      refine opens_parensIf ?_
      simp only [String.toList_append, List.append_assoc]
      exact hbody.append (by simp)
  | slice none upper step, _ =>
      simp only [renderAt, renderOption, String.append_assoc, String.empty_append]
      exact opens_of_front (by decide)
  | slice (some lower) upper step, h =>
      have hlower := opens_renderAt lower (s := .test) (by decide) h.1
      rw [renderAt, renderOption]
      simp only [String.toList_append, List.append_assoc]
      exact hlower.append (by simp)
  | unary op operand, _ =>
      rw [renderAt]
      refine opens_none_parensIf (opens_of_front ?_)
      cases op <;> decide
  | lambda params body, _ =>
      simp only [renderAt, String.append_assoc]
      exact opens_none_parensIf (opens_of_front (by decide))
  | await value, _ =>
      rw [renderAt]
      exact opens_none_parensIf (opens_of_front (by decide))
  | set items, _ =>
      rw [renderAt]
      split
      · exact .plain rfl _
      · simp only [String.append_assoc]
        exact opens_of_front (by decide)
  | starred _, _ | list _, _ | dict _, _ | listComp _ _, _ | setComp _ _, _
  | generator _ _, _ | dictComp _ _ _, _ | formatted _, _ =>
      simp only [renderAt, String.append_assoc]
      exact opens_of_front (by decide)
  | tuple items, _ =>
      rw [renderAt]
      exact opens_parens (by rw [decide_eq_true (lt_of_lt_of_le (by decide) hs), Bool.or_true])
  | named _ _, _ | yield none, _ | yield (some _), _ | yieldFrom _, _ =>
      rw [renderAt]
      exact opens_parens (decide_eq_true (lt_of_lt_of_le (by decide) hs))
termination_by sizeOf e
decreasing_by all_goals simp_wf; all_goals omega

/-! ### The closing quote -/

theorem closes_parensIf {p : Prop} [Decidable p] {text : String} {closing : Option Char}
    (h : Closes closing text.toList) :
    Closes (if p then none else closing) (parensIf p text).toList := by
  by_cases hp : p
  · rw [if_pos hp, toList_parensIf_of_true (by simpa using hp)]
    exact .plain rfl ('(' :: text.toList)
  · simpa [parensIf, hp] using h

theorem closes_parens {condition : Bool} (h : condition = true) {text : String} :
    Closes none (parensIf condition text).toList := by
  rw [toList_parensIf_of_true h]
  exact .plain rfl ('(' :: text.toList)

theorem closes_append {front back : String} {closing : Option Char}
    (h : Closes closing back.toList) : Closes closing (front ++ back).toList := by
  rw [String.toList_append]
  exact h.append _

theorem closes_of_hasFirmEnds {text : String} (h : HasFirmEnds text) : Closes none text.toList := by
  obtain ⟨-, c, hc, hfirm⟩ := h
  obtain ⟨front, hfront⟩ := List.getLast?_eq_some_iff.mp hc
  rw [hfront]
  exact .plain hfirm front

/-- There is no quote at the end of a text that ends with a bracket or a colon. -/
theorem closes_bracket (front : String) {back : String}
    (h : back ∈ [")", "]", "\x7d", ":"]) : Closes none (front ++ back).toList := by
  refine closes_append (closes_of_hasFirmEnds ?_)
  simp only [List.mem_cons, List.not_mem_nil, or_false] at h
  rcases h with rfl | rfl | rfl | rfl <;> exact ⟨⟨_, rfl, rfl⟩, ⟨_, rfl, rfl⟩⟩

mutual

theorem closes_renderAt (e : Expr) {s : Strength} (hs : Strength.test ≤ s) (h : e.IsProper) :
    Closes (closingQuote? s e) (renderAt false s e).toList := by
  match e, h with
  | constant v, _ => exact closes_constant s v
  | formatted pieces, _ => exact closes_formatted s pieces
  | name id, h =>
      rw [renderAt]
      exact closes_of_hasFirmEnds h
  | member value field, h =>
      rw [renderAt]
      exact closes_append (closes_of_hasFirmEnds h.2)
  | subscript value index, _ =>
      rw [toList_renderAt_subscript]
      exact .plain rfl _
  | call callee args keywords, _ =>
      rw [renderAt]
      exact closes_bracket _ (by simp)
  | starred value, h =>
      rw [renderAt]
      exact closes_append (closes_renderAt value (by decide) h)
  | logic op operands, h =>
      rw [renderAt]
      refine closes_parensIf (closes_renderRising _ operands ?_ ?_ h.2)
      · exact Strength.test_le_next op.test_le_strength
      · rintro rfl
        exact absurd h.1 (by decide)
  | unary op operand, h =>
      rw [renderAt]
      exact closes_parensIf (closes_append (closes_renderAt operand op.test_le_strength h))
  | binary op left right, h =>
      rw [renderAt_binary]
      exact closes_parensIf (closes_append (closes_renderAt right op.test_le_sides.2 h.2))
  | compare left rest, h =>
      rw [renderAt]
      exact closes_parensIf (closes_append (closes_renderComparisons rest h.2.1 h.2.2))
  | lambda params body, h =>
      rw [renderAt]
      exact closes_parensIf (closes_append (closes_renderAt body (by decide) h))
  | conditional test body orelse, h =>
      rw [renderAt]
      exact closes_parensIf (closes_append (closes_renderAt orelse (by decide) h.2))
  | await value, h =>
      rw [renderAt]
      exact closes_parensIf (closes_append (closes_renderAt value (by decide) h))
  | slice lower upper (some step), h =>
      simp only [renderAt, renderOption]
      exact closes_append (closes_append (closes_renderAt step (by decide) h.2.2))
  | slice lower (some upper) none, h =>
      simp only [renderAt, renderOption, String.append_empty, String.empty_append]
      exact closes_append (closes_renderAt upper (by decide) h.2.1)
  | slice lower none none, _ =>
      simp only [renderAt, renderOption, String.append_empty]
      exact closes_bracket _ (by simp)
  | set items, _ =>
      rw [renderAt]
      split
      · exact .plain (c := '\x7d') rfl "\x7b*()".toList
      · exact closes_bracket _ (by simp)
  | list _, _ | dict _, _ | listComp _ _, _ | setComp _ _, _ | generator _ _, _
  | dictComp _ _ _, _ =>
      rw [renderAt]
      exact closes_bracket _ (by simp)
  | tuple items, _ =>
      rw [renderAt]
      exact closes_parens (by rw [decide_eq_true (lt_of_lt_of_le (by decide) hs), Bool.or_true])
  | named _ _, _ | yield none, _ | yield (some _), _ | yieldFrom _, _ =>
      rw [renderAt]
      exact closes_parens (decide_eq_true (lt_of_lt_of_le (by decide) hs))
termination_by sizeOf e
decreasing_by all_goals simp_wf; all_goals omega

/-- Operands end with the last of them. -/
theorem closes_renderRising (joint : String) (es : List Expr) {s : Strength}
    (hs : Strength.test ≤ s) (hne : es ≠ []) (h : AreProper es) :
    Closes (closingOfAll? s es) (joint.intercalate (renderRising false s es)).toList := by
  match es, h with
  | [e], h =>
      rw [renderRising, renderRising, String.intercalate_singleton]
      exact closes_renderAt e hs h.1
  | e :: e' :: es, h =>
      rw [renderRising, renderRising, String.intercalate_cons_cons, ← renderRising]
      exact closes_append (closes_renderRising joint (e' :: es) (Strength.test_le_next hs) (by simp) h.2)
termination_by sizeOf es
decreasing_by
  all_goals simp only [List.cons.sizeOf_spec, List.nil.sizeOf_spec]
  all_goals omega

theorem closes_renderComparisons (rest : List (CompareOp × Expr)) (hne : rest ≠ [])
    (h : AreProperCompared rest) :
    Closes (closingOfCompared? rest) (renderComparisons false rest).toList := by
  match rest, h with
  | [(op, e)], h =>
      rw [renderComparisons, renderComparisons, String.append_empty]
      exact closes_append (closes_renderAt e (by decide) h.1)
  | (op, e) :: next :: rest, h =>
      rw [renderComparisons]
      exact closes_append (closes_renderComparisons (next :: rest) (by simp) h.2)
termination_by sizeOf rest
decreasing_by all_goals simp_wf; all_goals omega

end

/-! ### Paths -/

theorem surroundingQuote?_eq_some_iff {e : Expr} {quote : Char} :
    e.surroundingQuote? = some quote ↔
      e.openingQuote? .test = some quote ∧ e.closingQuote? .test = some quote := by
  rw [surroundingQuote?, Option.filter_eq_some_iff]
  simp

/-- The literal text of an expression that is no text: there is one just where the same quote stands
at both ends, and then it holds that quote. -/
theorem literalText?_render {e : Expr} (hproper : e.IsProper) (hvalue : e.points? = none) :
    (e.surroundingQuote? = none → literalText? e.render = none) ∧
      ∀ quote, e.surroundingQuote? = some quote → ∃ text, literalText? e.render = some text ∧
        e.render.toList = quote :: (text.toList ++ [quote]) ∧ quote ∈ text.toList := by
  have hopens : Opens False (openingQuote? .test e) e.render.toList := by
    have h := opens_renderAt e (le_refl Strength.test) hproper
    simpa only [render, hvalue, Option.isSome_none, Bool.false_eq_true] using h
  obtain ⟨hnone, hsome⟩ := literalText?_of_ends hopens (closes_renderAt e le_rfl hproper)
  constructor
  · refine fun hends => Option.eq_none_iff_forall_ne_some.mpr fun text htext => ?_
    obtain ⟨quote, -, hopening, hclosing⟩ := hnone text htext
    rw [surroundingQuote?_eq_some_iff.mpr ⟨hopening, hclosing⟩] at hends
    cases hends
  · intro quote hends
    obtain ⟨hopening, hclosing⟩ := surroundingQuote?_eq_some_iff.mp hends
    exact hsome quote hopening hclosing

theorem isQuote_of_openingQuote? {e : Expr} (hproper : e.IsProper) {quote : Char}
    (h : e.openingQuote? .test = some quote) : IsQuote quote := by
  have hopens := opens_renderAt e (le_refl Strength.test) hproper
  exact (h ▸ hopens).isQuote

end Expr

end TypedClients.Code

namespace TypedClients

open TypedClients.Text TypedClients.Code

/-- The name of a parameter of a path is one of ASCII letters, digits and underscores. -/
theorem isPlainIdentifier_of_mem_pathParts {path name ending : String}
    (h : .parameter name ending ∈ pathParts path) : isPlainIdentifier name.toList := by
  obtain ⟨cs, -, hpart⟩ := List.mem_map.mp h
  unfold PathPart.ofText at hpart
  split at hpart
  · rename_i c rest
    split at hpart
    · rename_i hstart
      dsimp only at hpart
      split at hpart
      · cases hpart
        simp [isPlainIdentifier, hstart, List.all_takeWhile]
      · cases hpart
    · cases hpart
  · cases hpart

theorem not_isPlainIdentifier_of_quote {cs : List Char} {quote : Char} (hquote : IsQuote quote)
    (h : quote ∈ cs) : ¬ isPlainIdentifier cs := by
  intro hplain
  have hchar := Token.isPlainNameChar_of_mem hplain quote h
  rcases hquote with rfl | rfl <;> exact absurd hchar (by decide)

/-- A parameter binds no name by a tag whose path is no name. -/
theorem boundType?_of_path {τ : Type} [DeclaredType τ] {p : Parameter τ} (ps : List (Parameter τ))
    {tag : Tag} {text name : String} (htag : firstTag? (· == .pathParam) p.tags = some tag)
    (hpath : tag.path.result = .ok text) (hne : text ≠ name) :
    (boundType? name (p :: ps)).result = (boundType? name ps).result := by
  rw [boundType?, htag]
  simp only [Traced.bind_result, hpath]
  change (if text = name then _ else boundType? name ps).result = _
  rw [if_neg hne]

/-- What a tag with an argument that is no text has for its path: nothing, unless the argument is
written with the same quote at both ends. Then it is all that stands between these, with that quote
in it. In neither case a parameter of a path is bound by it. -/
theorem path_of_expression {e decorator : Expr} {tag : Tag} (hproper : e.IsProper)
    (hvalue : e.points? = none) (hargument : PathArgument e decorator)
    (htag : Tag.ofExpr? decorator = some tag) :
    (e.surroundingQuote? = none →
        literalText? e.render = none ∧ tag.path = tag.passOver e.render) ∧
      (∀ quote, e.surroundingQuote? = some quote → ∃ text, literalText? e.render = some text ∧
        tag.path = pure text ∧ e.render.toList = quote :: (text.toList ++ [quote]) ∧
          quote ∈ text.toList) ∧
      ∀ (τ : Type) [DeclaredType τ] (p : Parameter τ) (ps : List (Parameter τ))
        (path name ending : String), firstTag? (· == .pathParam) p.tags = some tag →
          .parameter name ending ∈ pathParts path →
          (boundType? name (p :: ps)).result = (boundType? name ps).result := by
  have hpath := Tag.path_of_pathArgument hargument htag
  obtain ⟨hnone, hsome⟩ := Expr.literalText?_render hproper hvalue
  have hplain : ∃ text, tag.path.result = .ok text ∧ ¬ isPlainIdentifier text.toList := by
    cases hends : e.surroundingQuote? with
    | none =>
        rw [hnone hends] at hpath
        exact ⟨"", by rw [hpath, Tag.passOver_result], by decide⟩
    | some quote =>
        obtain ⟨text, htext, -, hmem⟩ := hsome quote hends
        rw [htext] at hpath
        refine ⟨text, by rw [hpath, Traced.pure_result], not_isPlainIdentifier_of_quote ?_ hmem⟩
        exact Expr.isQuote_of_openingQuote? hproper (Expr.surroundingQuote?_eq_some_iff.mp hends).1
  refine ⟨fun hends => ?_, fun quote hends => ?_, fun τ _ p ps path name ending hfirst hpart => ?_⟩
  · rw [hnone hends] at hpath
    exact ⟨hnone hends, hpath⟩
  · obtain ⟨text, htext, hrender, hmem⟩ := hsome quote hends
    rw [htext] at hpath
    exact ⟨text, htext, hpath, hrender, hmem⟩
  · obtain ⟨text, hresult, htext⟩ := hplain
    refine boundType?_of_path ps hfirst hresult ?_
    rintro rfl
    exact htext (isPlainIdentifier_of_mem_pathParts hpart)

/-- The sum `'/people' + PATH`, which starts with a quote and ends with none. -/
def peoplePath : Expr := .binary .add (.string "/people") (.name "PATH")

theorem path_of_expression_peoplePath :
    peoplePath.IsProper ∧ peoplePath.points? = none ∧ ∃ tag,
      Tag.ofExpr? (.call (.name "Get") [peoplePath] []) = some tag ∧
        tag.path = tag.passOver "'/people' + PATH" := by
  have hproper : peoplePath.IsProper := ⟨trivial, ⟨_, rfl, rfl⟩, _, rfl, rfl⟩
  refine ⟨hproper, rfl, ⟨"Get", ["'/people' + PATH"]⟩, rfl, ?_⟩
  exact ((path_of_expression hproper rfl (.positional (.name "Get") [] []) rfl).1 rfl).2

/-- The sum of two texts in single quotes is taken for one text. -/
theorem not_passedOver_of_expression :
    ¬ ∀ (e decorator : Expr) (tag : Tag), e.IsProper → e.points? = none → PathArgument e decorator →
      Tag.ofExpr? decorator = some tag → tag.path.result = .ok "" := by
  intro h
  have hpath := h (.binary .add (.string "/a") (.string "/b"))
    (.call (.name "Controller") [.binary .add (.string "/a") (.string "/b")] [])
    ⟨"Controller", ["'/a' + '/b'"]⟩ ⟨trivial, trivial⟩ rfl (.positional _ _ _) rfl
  exact absurd hpath (by decide)

end TypedClients
