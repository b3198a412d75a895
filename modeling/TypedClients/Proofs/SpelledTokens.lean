import TypedClients.Proofs.QuotedText

/-!
# Texts of known tokens

`Spelled` texts are those of names, whole numbers, quoted texts and the delimiters of types, with
blanks where two of them need one. Such a text is scanned to its tokens, as long as its brackets are
not nested too deep: `scan_of_spelled`.
-/
namespace TypedClients.Code.Token

open TypedClients.Text

/-! ### Where a word ends -/

/-- No word, number or quoted text goes on here. -/
def Breaks (cs : List Char) : Prop :=
  ∀ c ∈ cs.head?, isWordChar c = false ∧ c ≠ '\'' ∧ c ≠ '"'

/-- Not even a number goes on here. -/
def Stops (cs : List Char) : Prop := Breaks cs ∧ cs.head? ≠ some '.'

theorem breaks_append {cs rest : List Char} (hcs : Breaks cs) (hrest : Breaks rest) :
    Breaks (cs ++ rest) := by
  cases cs with
  | nil => exact hrest
  | cons c cs => exact hcs

theorem stops_append {cs rest : List Char} (hcs : Stops cs) (hrest : Stops rest) :
    Stops (cs ++ rest) := by
  cases cs with
  | nil => exact hrest
  | cons c cs => exact hcs

theorem stops_nil : Stops [] := by simp [Stops, Breaks]

/-! ### Single tokens -/

/-- The token of a word: a reserved word or a name. -/
def ofWord (text : String) : Token := if text ∈ reservedWords then .word text else .name text

theorem isWordChar_of_isPlainNameChar {c : Char} (h : isPlainNameChar c = true) :
    isWordChar c = true := by
  simp [isWordChar, h]

theorem isPlainNameChar_of_mem {name : List Char} (h : isPlainIdentifier name = true) :
    ∀ c ∈ name, isPlainNameChar c = true := by
  cases name with
  | nil => cases h
  | cons c cs =>
      simp only [isPlainIdentifier, Bool.and_eq_true, List.all_eq_true] at h
      refine List.forall_mem_cons.mpr ⟨?_, h.2⟩
      simp [isPlainNameChar, h.1]

/-- Where a word ends it is cut off, and no quote follows it. -/
theorem cut_word {word rest : List Char} (hword : ∀ c ∈ word, isWordChar c = true)
    (hrest : Breaks rest) : (word ++ rest).takeWhile isWordChar = word ∧
      (word ++ rest).dropWhile isWordChar = rest ∧
      ¬ (rest.head? = some '\'' ∨ rest.head? = some '"') := by
  have hstop : ∀ c ∈ rest.head?, ¬ isWordChar c = true := fun c hc => by simp [(hrest c hc).1]
  refine ⟨?_, ?_, ?_⟩
  · rw [List.takeWhile_append_of_pos hword]
    cases rest with
    | nil => simp
    | cons c rest => simp [hstop c rfl]
  · rw [List.dropWhile_append_of_pos hword]
    cases rest with
    | nil => simp
    | cons c rest => simp [hstop c rfl]
  · rintro (h | h)
    · exact (hrest _ h).2.1 rfl
    · exact (hrest _ h).2.2 rfl

theorem wordToken_name {name : List Char} (hname : isPlainIdentifier name = true)
    {rest : List Char} (hrest : Breaks rest) :
    wordToken (name ++ rest) = some (ofWord (String.ofList name), rest) := by
  have hchars := isPlainNameChar_of_mem hname
  obtain ⟨htake, hdrop, hquote⟩ :=
    cut_word (fun c hc => isWordChar_of_isPlainNameChar (hchars c hc)) hrest
  have hascii : name.all (·.toNat < 128) = true := by
    simpa using fun c hc => isPlainNameChar_ascii (hchars c hc)
  simp only [wordToken, htake, hdrop, hquote, false_and, if_false, hascii, if_true, ofWord]

/-- A letter in front of quoted text marks it. -/
theorem wordToken_of_quotedText {marker quote : Char} {t : Token} {cs rest : List Char}
    (hword : isWordChar marker = true) (hmarker : String.singleton marker.toLower ∈ quoteMarkers)
    (hquote : IsQuote quote) (h : quotedText [marker] (quote :: cs) = some (t, rest)) :
    wordToken (marker :: quote :: cs) = some (t, rest) := by
  have hends : ¬ isWordChar quote = true := by rcases hquote with rfl | rfl <;> decide
  have hfollows : some quote = some '\'' ∨ some quote = some '"' :=
    hquote.imp (congrArg some) (congrArg some)
  have hlower : String.ofList ([marker].map Char.toLower) ∈ quoteMarkers := hmarker
  simp only [wordToken, List.takeWhile_cons_of_pos hword, List.dropWhile_cons_of_pos hword,
    List.takeWhile_cons_of_neg hends, List.dropWhile_cons_of_neg hends, List.head?_cons, hfollows,
    hlower, and_self, if_true, h]

theorem ne_quote_of_breaks {rest : List Char} (h : Breaks rest) (text : List CodePoint) :
    rest.head? ≠ some (CodePoint.quoteFor text) := by
  intro hhead
  rcases isQuote_quoteFor _ with hquote | hquote
  · exact (h _ hhead).2.1 hquote
  · exact (h _ hhead).2.2 hquote

theorem wordToken_marked (text : List CodePoint) (rest : List Char) (hrest : Breaks rest) :
    wordToken ('u' :: CodePoint.quotedText text ++ rest) =
      some (.quoted ⟨false, false, false, true, CodePoint.quotedBody text⟩, rest) :=
  wordToken_of_quotedText (by decide) (by decide) (isQuote_quoteFor _)
    (quotedText_quotedText true text rest (ne_quote_of_breaks hrest text))

theorem isDigit_of_mem_toDigits {n : Nat} {c : Char} (h : c ∈ Nat.toDigits 10 n) :
    Text.isDigit c = true := by
  have hdigit := Nat.isDigit_of_mem_toDigits (by decide) (by decide) h
  simpa [Char.isDigit, Text.isDigit, Char.le_def] using hdigit

theorem digitGroup_append {ds : List Char} (hds : ∀ c ∈ ds, Text.isDigit c = true)
    {rest : List Char} (hrest : Breaks rest) :
    digitGroup Text.isDigit (ds ++ rest) = some (ds, rest) := by
  induction ds with
  | nil =>
      cases rest with
      | nil => rfl
      | cons c rest =>
          have hword := (hrest c rfl).1
          have hunder : c ≠ '_' := by
            rintro rfl
            exact absurd hword (by decide)
          have hdigit : ¬ Text.isDigit c = true := by
            intro h
            simp [isWordChar, isPlainNameChar, h] at hword
          rw [List.nil_append, digitGroup.eq_4]
          · simp [hdigit]
          all_goals simp [hunder]
  | cons c ds ih =>
      obtain ⟨hc, htail⟩ := List.forall_mem_cons.mp hds
      have hunder : c ≠ '_' := by
        rintro rfl
        exact absurd hc (by decide)
      rw [List.cons_append, digitGroup.eq_4]
      · simp [hc, ih htail]
      all_goals simp [hunder]

theorem decimalValue_toDigits (n : Nat) : decimalValue (Nat.toDigits 10 n) = n := by
  have hvalue := @Nat.ofDigitChars_ten_toDigits n
  rw [Nat.ofDigitChars_eq_foldl] at hvalue
  simpa only [decimalValue, Nat.mul_comm] using hvalue

theorem endsNumber_of_breaks {rest : List Char} (h : Breaks rest) : endsNumber rest = true := by
  cases rest with
  | nil => rfl
  | cons c rest =>
      have hword := (h c rfl).1
      have hi : c ≠ 'i' := by
        rintro rfl
        exact absurd hword (by decide)
      simp [endsNumber, hi, hword]

theorem head?_toDigits_ne {n : Nat} (hn : 0 < n) : (Nat.toDigits 10 n).head? ≠ some '0' := by
  induction n using Nat.strongRecOn with
  | _ n ih =>
      rw [Nat.toDigits_eq_if (by decide)]
      split
      · simpa [Nat.digitChar_eq_zero] using Nat.pos_iff_ne_zero.mp hn
      · have hhead := ih (n / 10) (Nat.div_lt_self hn (by decide)) (by omega)
        have hdigits : Nat.toDigits 10 (n / 10) ≠ [] := Nat.toDigits_ne_nil
        rwa [List.head?_append, List.head?_eq_some_head hdigits, Option.some_or,
          ← List.head?_eq_some_head hdigits]

theorem exponentPart_of_breaks {rest : List Char} (h : Breaks rest) :
    exponentPart rest = some (none, rest) := by
  unfold exponentPart
  split
  · exact absurd (h 'e' rfl).1 (by decide)
  · exact absurd (h 'E' rfl).1 (by decide)
  · rfl

/-- A whole number of a bounded number of digits is a single token. -/
theorem decimalNumber_toDigits {n : Nat} (hn : (Nat.toDigits 10 n).length ≤ maxIntDigits)
    {rest : List Char} (hrest : Stops rest) :
    decimalNumber (Nat.toDigits 10 n ++ rest) = some (.int n, rest) := by
  have hgroup := digitGroup_append
    (fun c (hc : c ∈ Nat.toDigits 10 n) => isDigit_of_mem_toDigits hc) hrest.1
  have hzero : ¬ ((Nat.toDigits 10 n).length ≠ 1 ∧ (Nat.toDigits 10 n).head? = some '0' ∧
      (Nat.toDigits 10 n).any (· != '0') = true) := by
    rintro ⟨hlength, hhead, -⟩
    rcases Nat.eq_zero_or_pos n with rfl | hpos
    · simp at hlength
    · exact head?_toDigits_ne hpos hhead
  simp only [decimalNumber, hgroup, Option.bind_eq_bind, Option.bind_some]
  split
  · exact absurd rfl hrest.2
  simp only [Option.bind_some, exponentPart_of_breaks hrest.1]
  split
  · exact absurd (hrest.1 'j' rfl).1 (by decide)
  · exact absurd (hrest.1 'J' rfl).1 (by decide)
  · simp only [endsNumber_of_breaks hrest.1, Bool.not_true, Bool.false_eq_true, if_false,
      and_self, if_true, decimalValue_toDigits, hzero, false_or, Nat.not_lt.mpr hn]

theorem numeral_toDigits {n : Nat} (hn : (Nat.toDigits 10 n).length ≤ maxIntDigits)
    {rest : List Char} (hrest : Stops rest) :
    numeral (Nat.toDigits 10 n ++ rest) = some (.int n, rest) := by
  -- A zero at the front is the whole number, so no letter for a base follows it.
  have hbase : ∀ {c after}, Nat.toDigits 10 n ++ rest = '0' :: c :: after →
      isWordChar c = false := by
    intro c after h
    rcases Nat.eq_zero_or_pos n with rfl | hpos
    · obtain rfl : rest = c :: after := by simpa using h
      exact (hrest.1 c rfl).1
    · refine absurd ?_ (head?_toDigits_ne hpos)
      obtain ⟨d, ds, hdigits⟩ := List.exists_cons_of_ne_nil (@Nat.toDigits_ne_nil n 10)
      simp only [hdigits, List.cons_append, List.cons.injEq] at h
      simp [hdigits, h.1]
  unfold numeral
  split
  all_goals first
    | exact decimalNumber_toDigits hn hrest
    | (rename_i heq; exact absurd (hbase heq) (by decide))

/-! ### Spelled texts -/

/-- The delimiters that open and close brackets of types. -/
def bracketPairs : List (Char × Char) := [('[', ']'), ('(', ')')]

/-- The token of a single delimiter. -/
def ofDelimiter (c : Char) : Token := .op (String.singleton c)

/-- Texts with their tokens, and how deep their brackets are nested. -/
inductive Spelled : List Char → List Token → Nat → Prop
  | nil : Spelled [] [] 0
  | blank {cs ts d} (h : Spelled cs ts d) : Spelled (' ' :: cs) ts d
  | word {name cs ts d} (hname : isPlainIdentifier name = true) (hcs : Breaks cs)
      (h : Spelled cs ts d) : Spelled (name ++ cs) (ofWord (String.ofList name) :: ts) d
  | number {n cs ts d} (hn : (Nat.toDigits 10 n).length ≤ maxIntDigits) (hcs : Stops cs)
      (h : Spelled cs ts d) : Spelled (Nat.toDigits 10 n ++ cs) (.number (.int n) :: ts) d
  | quoted {text cs ts d} (hcs : Breaks cs) (h : Spelled cs ts d) :
      Spelled (CodePoint.quotedText text ++ cs)
        (.quoted ⟨false, false, false, false, CodePoint.quotedBody text⟩ :: ts) d
  | marked {text cs ts d} (hcs : Breaks cs) (h : Spelled cs ts d) :
      Spelled ('u' :: CodePoint.quotedText text ++ cs)
        (.quoted ⟨false, false, false, true, CodePoint.quotedBody text⟩ :: ts) d
  | comma {cs ts d} (h : Spelled cs ts d) : Spelled (',' :: cs) (.op "," :: ts) d
  | bar {cs ts d} (h : Spelled cs ts d) : Spelled ('|' :: ' ' :: cs) (.op "|" :: ts) d
  | dot {c cs ts d} (hc : isPlainNameStart c = true) (h : Spelled (c :: cs) ts d) :
      Spelled ('.' :: c :: cs) (.op "." :: ts) d
  | ellipsis {cs ts d} (h : Spelled cs ts d) :
      Spelled ('.' :: '.' :: '.' :: cs) (.op "..." :: ts) d
  | bracketed {opening closing inner is d cs ts e}
      (hpair : (opening, closing) ∈ bracketPairs) (hinner : Spelled inner is d)
      (h : Spelled cs ts e) :
      Spelled (opening :: inner ++ closing :: cs)
        (ofDelimiter opening :: is ++ ofDelimiter closing :: ts) (max (d + 1) e)

/-! ### Scanning -/

/-- Blanks, comments, line ends and their continuation. -/
def isLayout (c : Char) : Bool := ['\n', '\\', '#', ' ', '\t', '\x0c'].contains c

theorem isLayout_of_isWordChar {c : Char} (h : isWordChar c = true) : isLayout c = false := by
  rw [Bool.eq_false_iff]
  intro hlayout
  simp only [isLayout, List.contains_eq_mem, List.mem_cons, List.not_mem_nil, or_false,
    decide_eq_true_eq] at hlayout
  rcases hlayout with rfl | rfl | rfl | rfl | rfl | rfl <;> exact absurd h (by decide)

/-- The next token, if no bracket is opened or closed. -/
def Scans (text : List Char) (t : Token) (rest : List Char) : Prop :=
  ∀ fuel levels closers, scanFrom (fuel + 1) levels closers false text =
    (scanFrom fuel levels closers false rest).map (t :: ·)

section

variable {c : Char} {cs rest : List Char}

theorem scans_blank (fuel : Nat) (levels : List (Nat × Nat)) (closers : List String) :
    scanFrom (fuel + 1) levels closers false (' ' :: cs) =
      scanFrom fuel levels closers false cs := by
  rw [scanFrom.eq_8 levels closers fuel ' ' cs (by decide) (by decide) (by decide)]
  rfl

theorem ne_of_isLayout_eq_false (h : isLayout c = false) :
    (c ≠ '\n' ∧ c ≠ '\\' ∧ c ≠ '#') ∧ ¬ (c = ' ' ∨ c = '\t' ∨ c = '\x0c') := by
  simp only [isLayout, List.contains_eq_mem, List.mem_cons, List.not_mem_nil, or_false,
    decide_eq_false_iff_not, not_or] at h
  simpa only [not_or, and_assoc, ne_eq] using h

theorem scans_number {value : Literal} (hc : Text.isDigit c = true)
    (hnumber : numeral (c :: cs) = some (value, rest)) : Scans (c :: cs) (.number value) rest := by
  intro fuel levels closers
  have hword : isWordChar c = true := by simp [isWordChar, isPlainNameChar, hc]
  obtain ⟨⟨hline, hslash, hcomment⟩, hblank⟩ :=
    ne_of_isLayout_eq_false (isLayout_of_isWordChar hword)
  rw [scanFrom.eq_8 levels closers fuel c cs hline hslash hcomment, if_neg hblank, if_pos (.inl hc),
    hnumber]
  exact Option.map_eq_bind.symm

theorem scans_quoted {t : Token} (hc : IsQuote c) (hquoted : quotedText [] (c :: cs) = some (t, rest)) :
    Scans (c :: cs) t rest := by
  intro fuel levels closers
  have hlayout : isLayout c = false := by rcases hc with rfl | rfl <;> decide
  have hnumber : ¬ (Text.isDigit c = true ∨ (c = '.' ∧ cs.head?.any Text.isDigit)) := by
    rcases hc with rfl | rfl <;> simp [Text.isDigit]
  obtain ⟨⟨hline, hslash, hcomment⟩, hblank⟩ := ne_of_isLayout_eq_false hlayout
  rw [scanFrom.eq_8 levels closers fuel c cs hline hslash hcomment, if_neg hblank, if_neg hnumber,
    if_pos (show c = '\'' ∨ c = '"' from hc), hquoted]
  exact Option.map_eq_bind.symm

theorem isNameStart_of_isPlainNameStart (hc : isPlainNameStart c = true) : isNameStart c = true := by
  simp [isNameStart, isPlainNameStart_ascii hc, hc]

theorem isWordChar_of_isNameStart (hc : isNameStart c = true) : isWordChar c = true := by
  unfold isNameStart at hc
  split at hc
  · simp [isWordChar, isPlainNameChar, hc]
  · rename_i hascii
    simpa [isWordChar] using .inr (Nat.le_of_not_lt hascii)

theorem isDigit_of_isNameStart (hc : isNameStart c = true) : Text.isDigit c = false := by
  rw [Bool.eq_false_iff]
  intro hdigit
  have hascii : c.toNat < 128 := isPlainNameChar_ascii (by simp [isPlainNameChar, hdigit])
  rw [isNameStart, if_pos hascii] at hc
  simp only [isPlainNameStart, Text.isDigit, Bool.or_eq_true, Bool.and_eq_true, beq_iff_eq,
    decide_eq_true_eq] at hc hdigit
  rcases hc with (hc | hc) | rfl
  · exact absurd (Char.le_trans hc.1 hdigit.2) (by decide)
  · exact absurd (Char.le_trans hc.1 hdigit.2) (by decide)
  · exact absurd hdigit.2 (by decide)

theorem scans_word {t : Token} (hc : isNameStart c = true)
    (hword : wordToken (c :: cs) = some (t, rest)) : Scans (c :: cs) t rest := by
  intro fuel levels closers
  have hchar : isWordChar c = true := isWordChar_of_isNameStart hc
  have hother : ∀ d, isNameStart d = false → c ≠ d := by
    rintro d hd rfl
    rw [hc] at hd
    cases hd
  have hnumber : ¬ (Text.isDigit c = true ∨ (c = '.' ∧ cs.head?.any Text.isDigit)) := by
    simp [isDigit_of_isNameStart hc, hother '.' (by decide)]
  have hquote : ¬ (c = '\'' ∨ c = '"') := by
    simp [hother '\'' (by decide), hother '"' (by decide)]
  obtain ⟨⟨hline, hslash, hcomment⟩, hblank⟩ :=
    ne_of_isLayout_eq_false (isLayout_of_isWordChar hchar)
  rw [scanFrom.eq_8 levels closers fuel c cs hline hslash hcomment, if_neg hblank, if_neg hnumber,
    if_neg hquote, if_pos hchar, hword]
  exact Option.map_eq_bind.symm

/-- The first characters of the delimiters of types. -/
def isDelimiter (c : Char) : Bool := ['[', ']', '(', ')', ',', '|', '.'].contains c

/-- A delimiter is scanned where no fraction starts. -/
theorem scanFrom_delimiter {symbol : String} (hc : isDelimiter c = true)
    (hdot : c = '.' → cs.head?.any Text.isDigit = false)
    (hsymbol : operator (c :: cs) = some (symbol, rest)) (fuel : Nat) (levels : List (Nat × Nat))
    (closers : List String) :
    (closer? symbol = none → symbol ∉ [")", "]", "\x7d"] →
      scanFrom (fuel + 1) levels closers false (c :: cs) =
        (scanFrom fuel levels closers false rest).map (.op symbol :: ·)) ∧
    (∀ close, closer? symbol = some close →
      scanFrom (fuel + 1) levels closers false (c :: cs) =
        if maxBrackets ≤ closers.length then none
        else (scanFrom fuel levels (close :: closers) false rest).map (.op symbol :: ·)) ∧
    (closer? symbol = none → symbol ∈ [")", "]", "\x7d"] →
      scanFrom (fuel + 1) levels (symbol :: closers) false (c :: cs) =
        (scanFrom fuel levels closers false rest).map (.op symbol :: ·)) := by
  have hmem : c = '[' ∨ c = ']' ∨ c = '(' ∨ c = ')' ∨ c = ',' ∨ c = '|' ∨ c = '.' := by
    simpa [isDelimiter] using hc
  have hlayout : isLayout c = false := by
    rcases hmem with rfl | rfl | rfl | rfl | rfl | rfl | rfl <;> decide
  have hdigit : Text.isDigit c = false := by
    rcases hmem with rfl | rfl | rfl | rfl | rfl | rfl | rfl <;> decide
  have hnumber : ¬ (Text.isDigit c = true ∨ (c = '.' ∧ cs.head?.any Text.isDigit = true)) := by
    rintro (h | ⟨h, hany⟩)
    · rw [hdigit] at h
      cases h
    · rw [hdot h] at hany
      cases hany
  have hquote : ¬ (c = '\'' ∨ c = '"') := by
    rcases hmem with rfl | rfl | rfl | rfl | rfl | rfl | rfl <;> decide
  have hword : ¬ isWordChar c = true := by
    rcases hmem with rfl | rfl | rfl | rfl | rfl | rfl | rfl <;> decide
  obtain ⟨⟨hline, hslash, hcomment⟩, hblank⟩ := ne_of_isLayout_eq_false hlayout
  refine ⟨fun hopen hclose => ?_, fun close hopen => ?_, fun hopen hclose => ?_⟩
  · rw [scanFrom.eq_8 levels closers fuel c cs hline hslash hcomment, if_neg hblank, if_neg hnumber,
      if_neg hquote, if_neg hword, hsymbol]
    simp only [Option.bind_eq_bind, Option.bind_some, hopen]
    rw [if_neg (by simpa using hclose)]
    exact Option.map_eq_bind.symm
  · rw [scanFrom.eq_8 levels closers fuel c cs hline hslash hcomment, if_neg hblank, if_neg hnumber,
      if_neg hquote, if_neg hword, hsymbol]
    simp only [Option.bind_eq_bind, Option.bind_some, hopen, Option.bind_none]
    rw [Option.map_eq_bind]
    rfl
  · rw [scanFrom.eq_8 levels _ fuel c cs hline hslash hcomment, if_neg hblank, if_neg hnumber,
      if_neg hquote, if_neg hword, hsymbol]
    simp only [Option.bind_eq_bind, Option.bind_some, hopen, if_true]
    rw [if_pos (by simpa using hclose)]
    exact Option.map_eq_bind.symm

theorem scans_comma : Scans (',' :: cs) (.op ",") cs := fun fuel levels closers =>
  (scanFrom_delimiter (by decide) (absurd · (by decide)) (by rfl) fuel levels closers).1
    (by decide) (by decide)

theorem scans_bar : Scans ('|' :: ' ' :: cs) (.op "|") (' ' :: cs) := fun fuel levels closers =>
  (scanFrom_delimiter (by decide) (absurd · (by decide)) (by rfl) fuel levels closers).1
    (by decide) (by decide)

theorem scans_dot (hc : isNameStart c = true) : Scans ('.' :: c :: cs) (.op ".") (c :: cs) := by
  have hdot : ('.' == c) = false := by
    rw [beq_eq_false_iff_ne]
    rintro rfl
    exact absurd hc (by decide)
  have hsymbol : operator ('.' :: c :: cs) = some (".", c :: cs) := by
    simp [operator, operatorSymbols, List.isPrefixOf, hdot]
    rfl
  have hdigit : (c :: cs).head?.any Text.isDigit = false := isDigit_of_isNameStart hc
  exact fun fuel levels closers =>
    (scanFrom_delimiter (by decide) (fun _ => hdigit) hsymbol fuel levels closers).1 (by decide)
      (by decide)

theorem scans_ellipsis : Scans ('.' :: '.' :: '.' :: cs) (.op "...") cs :=
  fun fuel levels closers =>
    (scanFrom_delimiter (by decide) (by intro _; rfl) (by rfl) fuel levels closers).1 (by decide)
      (by decide)

section

variable {opening closing : Char} (hpair : (opening, closing) ∈ bracketPairs)

include hpair

theorem scanFrom_opening (fuel : Nat) (levels : List (Nat × Nat)) (closers : List String) :
    scanFrom (fuel + 1) levels closers false (opening :: cs) =
      if maxBrackets ≤ closers.length then none
      else (scanFrom fuel levels (String.singleton closing :: closers) false cs).map
        (ofDelimiter opening :: ·) := by
  simp only [bracketPairs, List.mem_cons, Prod.mk.injEq, List.not_mem_nil, or_false] at hpair
  rcases hpair with ⟨rfl, rfl⟩ | ⟨rfl, rfl⟩
  · exact (scanFrom_delimiter (by decide) (absurd · (by decide)) (by rfl) fuel levels closers).2.1
      _ (by decide)
  · exact (scanFrom_delimiter (by decide) (absurd · (by decide)) (by rfl) fuel levels closers).2.1
      _ (by decide)

theorem scanFrom_closing (fuel : Nat) (levels : List (Nat × Nat)) (closers : List String) :
    scanFrom (fuel + 1) levels (String.singleton closing :: closers) false (closing :: cs) =
      (scanFrom fuel levels closers false cs).map (ofDelimiter closing :: ·) := by
  simp only [bracketPairs, List.mem_cons, Prod.mk.injEq, List.not_mem_nil, or_false] at hpair
  rcases hpair with ⟨rfl, rfl⟩ | ⟨rfl, rfl⟩
  · exact (scanFrom_delimiter (by decide) (absurd · (by decide)) (by rfl) fuel levels closers).2.2
      (by decide) (by decide)
  · exact (scanFrom_delimiter (by decide) (absurd · (by decide)) (by rfl) fuel levels closers).2.2
      (by decide) (by decide)

theorem stops_closing : Stops (closing :: cs) := by
  simp only [bracketPairs, List.mem_cons, Prod.mk.injEq, List.not_mem_nil, or_false] at hpair
  rcases hpair with ⟨-, rfl⟩ | ⟨-, rfl⟩ <;> simp [Stops, Breaks] <;> decide

end

end

/-- A text is scanned to tokens, wherever it stands, unless its brackets are nested too deep. -/
def ScansTo (cs : List Char) (ts : List Token) (depth : Nat) : Prop :=
  ∃ k ≤ cs.length, ∀ fuel levels (closers : List String) rest, closers.length ≤ maxBrackets →
    Stops rest → scanFrom (fuel + k) levels closers false (cs ++ rest) =
      if closers.length + depth ≤ maxBrackets then
        (scanFrom fuel levels closers false rest).map (ts ++ ·)
      else none

theorem map_cons_append {α : Type} (x : α) (xs : List α) (o : Option (List α)) :
    (o.map (xs ++ ·)).map (x :: ·) = o.map ((x :: xs) ++ ·) := by
  cases o <;> rfl

theorem scansTo_nil : ScansTo [] [] 0 := by
  refine ⟨0, le_rfl, fun fuel levels closers rest hclosers _ => ?_⟩
  rw [Nat.add_zero, Nat.add_zero, if_pos hclosers, List.nil_append]
  simp

theorem scansTo_append {piece cs : List Char} {ts : List Token} {t : Token} {depth : Nat}
    (hpiece : piece ≠ [])
    (hscans : ∀ rest, Stops rest → Scans (piece ++ (cs ++ rest)) t (cs ++ rest))
    (h : ScansTo cs ts depth) : ScansTo (piece ++ cs) (t :: ts) depth := by
  obtain ⟨k, hk, hcs⟩ := h
  have hlength : 0 < piece.length := List.length_pos_iff.mpr hpiece
  refine ⟨k + 1, by rw [List.length_append]; omega, fun fuel levels closers rest hclosers hrest => ?_⟩
  rw [List.append_assoc, ← Nat.add_assoc, hscans rest hrest, hcs fuel levels closers rest hclosers hrest]
  split
  · exact map_cons_append t ts _
  · rfl

theorem scansTo_blank {cs : List Char} {ts : List Token} {depth : Nat} (h : ScansTo cs ts depth) :
    ScansTo (' ' :: cs) ts depth := by
  obtain ⟨k, hk, hcs⟩ := h
  refine ⟨k + 1, Nat.succ_le_succ hk, fun fuel levels closers rest hclosers hrest => ?_⟩
  rw [List.cons_append, ← Nat.add_assoc, scans_blank, hcs fuel levels closers rest hclosers hrest]

theorem scansTo_bracketed {opening closing : Char} {inner cs : List Char} {is ts : List Token}
    {d e : Nat} (hpair : (opening, closing) ∈ bracketPairs) (hinner : ScansTo inner is d)
    (h : ScansTo cs ts e) :
    ScansTo (opening :: inner ++ closing :: cs)
      (ofDelimiter opening :: is ++ ofDelimiter closing :: ts) (max (d + 1) e) := by
  obtain ⟨k, hk, hinner⟩ := hinner
  obtain ⟨l, hl, hcs⟩ := h
  refine ⟨l + 1 + k + 1, ?_, fun fuel levels closers rest hclosers hrest => ?_⟩
  · simp only [List.cons_append, List.length_cons, List.length_append]
    omega
  have hinside := hinner (fuel + (l + 1)) levels (String.singleton closing :: closers)
    (closing :: (cs ++ rest))
  have houtside := hcs fuel levels closers rest hclosers hrest
  rw [← Nat.add_assoc, ← Nat.add_assoc, List.cons_append, List.cons_append,
    scanFrom_opening hpair, List.append_assoc, List.cons_append]
  by_cases hfull : maxBrackets ≤ closers.length
  · rw [if_pos hfull, if_neg (by omega)]
  rw [if_neg hfull, hinside (by rw [List.length_cons]; omega) (stops_closing hpair),
    ← Nat.add_assoc, scanFrom_closing hpair, houtside, List.length_cons]
  by_cases hd : closers.length + 1 + d ≤ maxBrackets
  · rw [if_pos hd]
    by_cases he : closers.length + e ≤ maxBrackets
    · rw [if_pos he, if_pos (by omega)]
      cases scanFrom fuel levels closers false rest <;> simp
    · rw [if_neg he, if_neg (by omega)]
      rfl
  · rw [if_neg hd, if_neg (by omega)]
    rfl

theorem exists_cons_of_isPlainIdentifier {name : List Char} (h : isPlainIdentifier name = true) :
    ∃ c cs, name = c :: cs ∧ isPlainNameStart c = true := by
  cases name with
  | nil => cases h
  | cons c cs =>
      simp only [isPlainIdentifier, Bool.and_eq_true] at h
      exact ⟨c, cs, rfl, h.1⟩

theorem scansTo_of_spelled {cs : List Char} {ts : List Token} {d : Nat} (h : Spelled cs ts d) :
    ScansTo cs ts d := by
  induction h with
  | nil => exact scansTo_nil
  | blank _ ih => exact scansTo_blank ih
  | word hname hcs _ ih =>
      obtain ⟨c, name, rfl, hc⟩ := exists_cons_of_isPlainIdentifier hname
      exact scansTo_append (List.cons_ne_nil c name)
        (fun rest hrest => scans_word (isNameStart_of_isPlainNameStart hc)
          (wordToken_name hname (breaks_append hcs hrest.1))) ih
  | @number n _ _ _ hn hcs _ ih =>
      obtain ⟨c, digits, hdigits⟩ := List.exists_cons_of_ne_nil (@Nat.toDigits_ne_nil n 10)
      have hc : Text.isDigit c = true := isDigit_of_mem_toDigits (by rw [hdigits]; simp)
      refine scansTo_append Nat.toDigits_ne_nil (fun rest hrest => ?_) ih
      have hnumeral := numeral_toDigits hn (stops_append hcs hrest)
      rw [hdigits] at hnumeral ⊢
      exact scans_number hc hnumeral
  | @quoted text _ _ _ hcs _ ih =>
      refine scansTo_append (List.cons_ne_nil _ _) (fun rest hrest => ?_) ih
      exact scans_quoted (isQuote_quoteFor _)
        (quotedText_quotedText false text _ (ne_quote_of_breaks (breaks_append hcs hrest.1) text))
  | marked hcs _ ih =>
      refine scansTo_append (List.cons_ne_nil _ _) (fun rest hrest => ?_) ih
      exact scans_word (by decide) (wordToken_marked _ _ (breaks_append hcs hrest.1))
  | comma _ ih => exact scansTo_append (List.cons_ne_nil _ []) (fun _ _ => scans_comma) ih
  | bar _ ih =>
      exact scansTo_append (List.cons_ne_nil _ []) (fun _ _ => scans_bar) (scansTo_blank ih)
  | dot hc _ ih =>
      exact scansTo_append (List.cons_ne_nil _ [])
        (fun _ _ => scans_dot (isNameStart_of_isPlainNameStart hc)) ih
  | ellipsis _ ih =>
      exact scansTo_append (show ['.', '.', '.'] ≠ [] by decide) (fun _ _ => scans_ellipsis) ih
  | bracketed hpair _ _ ihInner ih => exact scansTo_bracketed hpair ihInner ih

/-! ### Whole texts -/

theorem isPrintable_of_isPlainNameChar {c : Char} (h : isPlainNameChar c = true) :
    isPrintable c = true := by
  simp only [isPlainNameChar, isPlainNameStart, Text.isDigit, Bool.or_eq_true, Bool.and_eq_true,
    beq_iff_eq, decide_eq_true_eq, Char.le_def, UInt32.le_iff_toNat_le] at h
  rcases h with ((h | h) | rfl) | h
  · exact isPrintable_of_ascii (Nat.le_trans (by decide) h.1) (Nat.lt_of_le_of_lt h.2 (by decide))
  · exact isPrintable_of_ascii (Nat.le_trans (by decide) h.1) (Nat.lt_of_le_of_lt h.2 (by decide))
  · decide
  · exact isPrintable_of_ascii (Nat.le_trans (by decide) h.1) (Nat.lt_of_le_of_lt h.2 (by decide))

theorem isPlainNameChar_of_mem_toDigits {n : Nat} {c : Char} (h : c ∈ Nat.toDigits 10 n) :
    isPlainNameChar c = true := by
  simp [isPlainNameChar, isDigit_of_mem_toDigits h]

theorem isPrintable_of_mem_pair {opening closing : Char}
    (h : (opening, closing) ∈ bracketPairs) :
    isPrintable opening = true ∧ isPrintable closing = true := by
  simp only [bracketPairs, List.mem_cons, Prod.mk.injEq, List.not_mem_nil, or_false] at h
  rcases h with ⟨rfl, rfl⟩ | ⟨rfl, rfl⟩ <;> decide

/-- Text of known tokens has no line ends, and no characters that are not shown. -/
theorem isPrintable_of_spelled {cs : List Char} {ts : List Token} {d : Nat} (h : Spelled cs ts d) :
    ∀ c ∈ cs, isPrintable c = true := by
  induction h with
  | nil => simp
  | blank _ ih => exact List.forall_mem_cons.mpr ⟨by decide, ih⟩
  | word hname _ _ ih =>
      exact List.forall_mem_append.mpr
        ⟨fun c hc => isPrintable_of_isPlainNameChar (isPlainNameChar_of_mem hname c hc), ih⟩
  | number _ _ _ ih =>
      exact List.forall_mem_append.mpr
        ⟨fun c hc => isPrintable_of_isPlainNameChar (isPlainNameChar_of_mem_toDigits hc), ih⟩
  | quoted _ _ ih => exact List.forall_mem_append.mpr ⟨fun c => isPrintable_of_mem_quotedText, ih⟩
  | marked _ _ ih =>
      refine List.forall_mem_cons.mpr ⟨by decide, ?_⟩
      exact List.forall_mem_append.mpr ⟨fun c => isPrintable_of_mem_quotedText, ih⟩
  | comma _ ih => exact List.forall_mem_cons.mpr ⟨by decide, ih⟩
  | bar _ ih => simpa using ⟨by decide, by decide, ih⟩
  | dot _ _ ih => exact List.forall_mem_cons.mpr ⟨by decide, ih⟩
  | ellipsis _ ih => simpa using ⟨by decide, ih⟩
  | bracketed hpair _ _ ihInner ih =>
      obtain ⟨hopening, hclosing⟩ := isPrintable_of_mem_pair hpair
      refine List.forall_mem_append.mpr ⟨List.forall_mem_cons.mpr ⟨hopening, ihInner⟩, ?_⟩
      exact List.forall_mem_cons.mpr ⟨hclosing, ih⟩

/-- Text of known tokens does not start with layout other than a blank. -/
theorem isLayout_of_spelled {cs : List Char} {ts : List Token} {d : Nat} (h : Spelled cs ts d) :
    ∀ c ∈ cs.head?, c = ' ' ∨ isLayout c = false := by
  cases h with
  | nil => simp
  | blank => simp
  | word hname =>
      obtain ⟨c, name, rfl, hc⟩ := exists_cons_of_isPlainIdentifier hname
      have hchar : isWordChar c = true := by simp [isWordChar, isPlainNameChar, hc]
      simpa using .inr (isLayout_of_isWordChar hchar)
  | @number n =>
      obtain ⟨c, digits, hdigits⟩ := List.exists_cons_of_ne_nil (@Nat.toDigits_ne_nil n 10)
      have hc : isPlainNameChar c = true :=
        isPlainNameChar_of_mem_toDigits (by rw [hdigits]; exact List.mem_cons_self)
      simpa [hdigits] using .inr (isLayout_of_isWordChar (isWordChar_of_isPlainNameChar hc))
  | @quoted text =>
      have hquote : isLayout (CodePoint.quoteFor text) = false := by
        rcases isQuote_quoteFor _ with h | h <;> rw [CodePoint.quoteFor, h] <;> decide
      simpa [CodePoint.quotedText] using .inr hquote
  | marked => simp; decide
  | comma => simp; decide
  | bar => simp; decide
  | dot => simp; decide
  | ellipsis => simp; decide
  | bracketed hpair =>
      simp only [bracketPairs, List.mem_cons, Prod.mk.injEq, List.not_mem_nil, or_false] at hpair
      rcases hpair with ⟨rfl, rfl⟩ | ⟨rfl, rfl⟩ <;> simp <;> decide

/-- Every token takes a character at least. -/
theorem length_le_of_spelled {cs : List Char} {ts : List Token} {d : Nat} (h : Spelled cs ts d) :
    ts.length ≤ cs.length := by
  induction h with
  | word hname _ _ ih =>
      obtain ⟨c, name, rfl, -⟩ := exists_cons_of_isPlainIdentifier hname
      simp only [List.length_cons, List.length_append]
      omega
  | @number n _ _ _ _ _ _ ih =>
      have hdigits := @Nat.length_toDigits_pos 10 n
      simp only [List.length_cons, List.length_append]
      omega
  | quoted _ _ ih | marked _ _ ih =>
      simp only [CodePoint.quotedText, List.length_cons, List.length_append]
      omega
  | _ => simp only [List.length_cons, List.length_append, List.length_nil] at *; omega

theorem indentation_of_notLayout {cs : List Char} (h : ∀ c ∈ cs.head?, isLayout c = false) :
    indentation 0 0 0 cs = some (0, 0, cs) := by
  unfold indentation
  split
  · exact absurd (h _ rfl) (by decide)
  · exact absurd (h _ rfl) (by decide)
  · exact absurd (h _ rfl) (by decide)
  · exact absurd (h _ rfl) (by decide)
  · exact absurd (h _ rfl) (by decide)
  · rfl

/-- A file that starts with no layout is scanned by its front and by what follows. -/
theorem scan_append {cs : List Char} {ts : List Token} {d : Nat} (h : ScansTo cs ts d)
    (rest : List Char) (hlayout : ∀ c ∈ (cs ++ rest).head?, isLayout c = false) (hstops : Stops rest) :
    ∃ fuel, scan (cs ++ rest) =
      if d ≤ maxBrackets then
        (scanFrom (fuel + 2 * rest.length + 1) [(0, 0)] [] false rest).map (ts ++ ·)
      else none := by
  obtain ⟨k, hk, hscans⟩ := h
  have hindentation := indentation_of_notLayout hlayout
  have hcomment : ¬ ((cs ++ rest).head? = some '#' ∨ (cs ++ rest).head? = some '\n') := by
    rintro (h | h)
    · exact absurd (hlayout _ h) (by decide)
    · exact absurd (hlayout _ h) (by decide)
  have hlevel : relevel 0 0 [(0, 0)] = some ([], [(0, 0)]) := rfl
  have hfuel : 2 * (cs ++ rest).length + 1 =
      (2 * cs.length - k) + 2 * rest.length + 1 + k := by
    rw [List.length_append]
    omega
  refine ⟨2 * cs.length - k, ?_⟩
  rw [scan, scanFrom.eq_2, hindentation]
  simp only [Option.bind_eq_bind, Option.bind_some, hcomment, if_false, hlevel, hfuel,
    hscans _ [(0, 0)] [] rest (by decide) hstops, List.length_nil, Nat.zero_add]
  split
  · cases scanFrom (2 * cs.length - k + 2 * rest.length + 1) [(0, 0)] [] false rest <;> rfl
  · rfl

/-- A file whose front and whose rest have known tokens has both, unless it starts with layout. -/
theorem scan_of_scansTo {cs rest : List Char} {ts us : List Token} {d : Nat} (h : ScansTo cs ts d)
    (hlayout : ∀ c ∈ (cs ++ rest).head?, isLayout c = false) (hstops : Stops rest)
    (hrest : ∀ fuel, scanFrom (fuel + 2 * rest.length + 1) [(0, 0)] [] false rest = some us) :
    scan (cs ++ rest) = if d ≤ maxBrackets then some (ts ++ us) else none := by
  obtain ⟨fuel, hscan⟩ := scan_append h rest hlayout hstops
  rw [hscan, hrest]
  rfl

/-- Without blanks in front, a text of known tokens has these tokens, unless its brackets are nested
too deep. -/
theorem scan_of_spelled {cs : List Char} {ts : List Token} {d : Nat} (h : Spelled cs ts d)
    (hblank : cs.head? ≠ some ' ') : scan cs = if d ≤ maxBrackets then some ts else none := by
  have hlayout : ∀ c ∈ (cs ++ []).head?, isLayout c = false := by
    rw [List.append_nil]
    intro c hc
    refine (isLayout_of_spelled h c hc).resolve_left ?_
    rintro rfl
    exact hblank hc
  have hscan : scan (cs ++ []) = if d ≤ maxBrackets then some (ts ++ []) else none :=
    scan_of_scansTo (scansTo_of_spelled h) hlayout stops_nil fun fuel => scanFrom.eq_3 ..
  simpa using hscan

end TypedClients.Code.Token
