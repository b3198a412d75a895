import Mathlib.Tactic.IntervalCases
import TypedClients.Code.Escape
import TypedClients.Code.Token.Scan
import TypedClients.Text.Quoted

/-!
# Quoted text is read back

The quoted form of a text is a single token, and its escapes denote the text. Both follow from what
one code point between the quotes does: `unescapeUpTo_escaped` and `untilQuote_escaped`.
-/
namespace TypedClients.Code

open TypedClients.Text

/-! ### Escapes by number -/

/-- The value of digits in base sixteen after a value. -/
def hexValueFrom (value : Nat) (cs : List Char) : Nat :=
  cs.foldl (fun n c => n * 16 + (hexDigit? c).getD 0) value

theorem hexDigit?_digitChar {n : Nat} (h : n < 16) : hexDigit? n.digitChar = some n := by
  interval_cases n <;> decide

theorem exists_digitChar_of_mem_toDigits {n : Nat} {c : Char} (h : c ∈ Nat.toDigits 16 n) :
    ∃ d < 16, c = d.digitChar := by
  induction n using Nat.strongRecOn with
  | _ n ih =>
      rw [Nat.toDigits_eq_if (by decide)] at h
      split at h
      · rename_i hn
        exact ⟨n, hn, by simpa using h⟩
      · rename_i hn
        rcases List.mem_append.mp h with h | h
        · exact ih (n / 16) (Nat.div_lt_self (by omega) (by decide)) h
        · exact ⟨n % 16, Nat.mod_lt n (by decide), by simpa using h⟩

theorem hexValueFrom_toDigits (n : Nat) : hexValueFrom 0 (Nat.toDigits 16 n) = n := by
  induction n using Nat.strongRecOn with
  | _ n ih =>
      rw [Nat.toDigits_eq_if (by decide)]
      split
      · rename_i hn
        simp [hexValueFrom, hexDigit?_digitChar hn]
      · rename_i hn
        have hmod : n % 16 < 16 := Nat.mod_lt n (by decide)
        have hdiv := ih (n / 16) (Nat.div_lt_self (by omega) (by decide))
        simp only [hexValueFrom] at hdiv
        simp only [hexValueFrom, List.foldl_append, hdiv, List.foldl_cons, List.foldl_nil,
          hexDigit?_digitChar hmod, Option.getD_some]
        omega

theorem exists_digitChar_of_mem_hexPadded {width n : Nat} {c : Char} (h : c ∈ hexPadded width n) :
    ∃ d < 16, c = d.digitChar := by
  rcases List.mem_append.mp h with h | h
  · exact ⟨0, by decide, List.eq_of_mem_replicate h⟩
  · exact exists_digitChar_of_mem_toDigits h

theorem length_hexPadded {width n : Nat} (hwidth : 0 < width) (h : n < 16 ^ width) :
    (hexPadded width n).length = width := by
  have hlength : (Nat.toDigits 16 n).length ≤ width :=
    (Nat.length_toDigits_le_iff (by decide) hwidth).mpr h
  simp only [hexPadded, List.length_append, List.length_replicate]
  omega

theorem hexValueFrom_hexPadded (width n : Nat) : hexValueFrom 0 (hexPadded width n) = n := by
  have hzeros (k : Nat) : hexValueFrom 0 (List.replicate k '0') = 0 := by
    induction k with
    | zero => rfl
    | succ k ih => simpa [hexValueFrom, List.replicate_succ, hexDigit?] using ih
  have happend (cs ds : List Char) :
      hexValueFrom 0 (cs ++ ds) = hexValueFrom (hexValueFrom 0 cs) ds := List.foldl_append
  rw [hexPadded, happend, hzeros, hexValueFrom_toDigits]

theorem hexDigits_append {cs : List Char} (hcs : ∀ c ∈ cs, ∃ d < 16, c = Nat.digitChar d)
    (value : Nat) (rest : List Char) :
    hexDigits cs.length value (cs ++ rest) = some (hexValueFrom value cs, rest) := by
  induction cs generalizing value with
  | nil => rfl
  | cons c cs ih =>
      obtain ⟨⟨d, hd, hc⟩, htail⟩ := List.forall_mem_cons.mp hcs
      subst hc
      simp only [List.length_cons, List.cons_append, hexDigits, hexDigit?_digitChar hd,
        Option.bind_eq_bind, Option.bind_some, ih htail, hexValueFrom, List.foldl_cons,
        Option.getD_some]

theorem hexDigits_hexPadded {width n : Nat} (hwidth : 0 < width) (h : n < 16 ^ width)
    (rest : List Char) : hexDigits width 0 (hexPadded width n ++ rest) = some (n, rest) := by
  have hdigits := hexDigits_append
    (fun c (hc : c ∈ hexPadded width n) => exists_digitChar_of_mem_hexPadded hc) 0 rest
  rwa [length_hexPadded hwidth h, hexValueFrom_hexPadded] at hdigits

/-! ### One code point between the quotes -/

theorem isPrintable_digitChar {d : Nat} (h : d < 16) : isPrintable d.digitChar = true := by
  interval_cases d <;> decide

theorem digitChar_ne {d : Nat} (h : d < 16) :
    d.digitChar ≠ '\\' ∧ d.digitChar ≠ '\'' ∧ d.digitChar ≠ '"' ∧ d.digitChar ≠ '\n' := by
  interval_cases d <;> decide

/-- The escape of a code point by number: a letter and as many digits as the letter asks for. -/
theorem exists_numericEscape (p : CodePoint) :
    ∃ letter width, numericEscape p.number = '\\' :: letter :: hexPadded width p.number ∧
      unescapeUpTo.width? letter = some width ∧ letterEscape? letter = none ∧
      octalDigit? letter = none ∧ letter ≠ '\n' ∧ letter ≠ 'N' ∧
      isPrintable letter = true ∧ 0 < width ∧ p.number < 16 ^ width := by
  have hbound := p.number_lt
  unfold numericEscape
  split
  · rename_i h
    exact ⟨'x', 2, rfl, by decide, by decide, by decide, by decide, by decide, by decide,
      by decide, by omega⟩
  · split
    · rename_i h
      exact ⟨'u', 4, rfl, by decide, by decide, by decide, by decide, by decide, by decide,
        by decide, by omega⟩
    · exact ⟨'U', 8, rfl, by decide, by decide, by decide, by decide, by decide, by decide,
        by decide, by omega⟩

/-- A quote of quoted text. -/
def IsQuote (quote : Char) : Prop := quote = '\'' ∨ quote = '"'

theorem isQuote_quoteFor (cs : List Char) : IsQuote (quoteFor cs) := by
  unfold quoteFor
  split
  · exact .inr rfl
  · exact .inl rfl

/-- How a code point stands between quotes. -/
inductive Escaped (quote : Char) : CodePoint → List Char → Prop
  | itself {c : Char} (hprintable : isPrintable c = true) (hslash : c ≠ '\\')
      (hquote : c ≠ quote) : Escaped quote (.char c) [c]
  | letter {c letter : Char} (hletter : letterEscape? letter = some c)
      (hprintable : isPrintable letter = true) : Escaped quote (.char c) ['\\', letter]
  | number (p : CodePoint) : Escaped quote p (numericEscape p.number)

theorem escaped_escapeChar (quote c : Char) : Escaped quote (.char c) (escapeChar c) := by
  unfold escapeChar
  split
  · rename_i h
    subst h
    exact .letter (show letterEscape? '\\' = some '\\' from rfl) (by decide)
  split
  · rename_i h
    subst h
    exact .letter (show letterEscape? 'n' = some '\n' from rfl) (by decide)
  split
  · rename_i h
    subst h
    exact .letter (show letterEscape? 't' = some '\t' from rfl) (by decide)
  split
  · rename_i h
    subst h
    exact .letter (show letterEscape? 'r' = some '\r' from rfl) (by decide)
  · exact .number (.char c)

section

variable {quote : Char} (hquote : IsQuote quote)

include hquote

theorem letterEscape?_quote : letterEscape? quote = some quote := by
  rcases hquote with rfl | rfl <;> rfl

theorem isPrintable_quote : isPrintable quote = true := by
  rcases hquote with rfl | rfl <;> decide

theorem slash_ne_quote : '\\' ≠ quote := by
  rcases hquote with rfl | rfl <;> decide

theorem escaped_quotedChar (c : Char) : Escaped quote (.char c) (quotedChar quote c) := by
  unfold quotedChar
  split
  · rename_i h
    subst h
    exact .letter (letterEscape?_quote hquote) (isPrintable_quote hquote)
  split
  · exact escaped_escapeChar quote c
  · rename_i hc h
    simp only [Bool.or_eq_true, decide_eq_true_eq, Bool.not_eq_true', not_or,
      Bool.not_eq_false] at h
    exact .itself h.2 h.1 hc

theorem escaped_quoted (p : CodePoint) : Escaped quote p (p.quoted quote) := by
  cases p with
  | char c => exact escaped_quotedChar hquote c
  | surrogate index => exact .number (.surrogate index)

end

section

variable {quote c : Char} {p : CodePoint} {cs : List Char}

/-- What stands for a code point denotes it. -/
theorem unescapeUpTo_escaped (h : Escaped quote p cs) (n : Nat) (rest : List Char) :
    unescapeUpTo (n + 1) (cs ++ rest) = (unescapeUpTo n rest).map (p :: ·) := by
  cases h with
  | itself _ hslash =>
      rw [List.singleton_append, unescapeUpTo.eq_5]
      all_goals simp [hslash]
  | @letter _ shown hletter =>
      have hline : shown ≠ '\n' := by
        rintro rfl
        cases hletter
      simp only [List.cons_append, List.nil_append, unescapeUpTo, if_neg hline, hletter]
  | number =>
      obtain ⟨letter, width, hescape, hwidth, hletter, hoctal, hline, hname, -, hpos, hlt⟩ :=
        exists_numericEscape p
      rw [hescape, List.cons_append, List.cons_append]
      simp only [unescapeUpTo, if_neg hline, hletter, hoctal, Option.isSome_none,
        Bool.false_eq_true, if_false, if_neg hname, hwidth, hexDigits_hexPadded hpos hlt,
        Option.bind_eq_bind, Option.bind_some, CodePoint.ofNat?_number]
      cases unescapeUpTo n rest <;> rfl

theorem ne_of_isPrintable {d : Char} (h : isPrintable c = true) (hd : isPrintable d = false) :
    c ≠ d := by
  rintro rfl
  rw [h] at hd
  cases hd

theorem untilQuote_cons (hquote : c ≠ quote) (hslash : c ≠ '\\') (hline : c ≠ '\n') :
    Token.untilQuote quote false (c :: cs) =
      (Token.untilQuote quote false cs).map fun (body, rest) => (c :: body, rest) := by
  rw [Token.untilQuote.eq_4]
  · simp [hquote, hline]
  all_goals simp [hslash]

theorem untilQuote_append (h : ∀ c ∈ cs, c ≠ quote ∧ c ≠ '\\' ∧ c ≠ '\n') (rest : List Char) :
    Token.untilQuote quote false (cs ++ rest) =
      (Token.untilQuote quote false rest).map fun (body, rest) => (cs ++ body, rest) := by
  induction cs with
  | nil => cases h : Token.untilQuote quote false rest <;> simp [h]
  | cons c cs ih =>
      obtain ⟨⟨hquote, hslash, hline⟩, hcs⟩ := List.forall_mem_cons.mp h
      rw [List.cons_append, untilQuote_cons hquote hslash hline, ih hcs, Option.map_map]
      rfl

/-- The closing quote is looked for behind what stands for a code point. -/
theorem untilQuote_escaped (hquote : IsQuote quote) (h : Escaped quote p cs) (rest : List Char) :
    Token.untilQuote quote false (cs ++ rest) =
      (Token.untilQuote quote false rest).map fun (body, rest) => (cs ++ body, rest) := by
  cases h with
  | itself hprintable hslash hne =>
      refine untilQuote_append ?_ rest
      simpa using ⟨hne, hslash, ne_of_isPrintable hprintable (by decide)⟩
  | letter => rfl
  | number =>
      obtain ⟨letter, width, hescape, -⟩ := exists_numericEscape p
      rw [hescape, List.cons_append, List.cons_append, Token.untilQuote.eq_3, untilQuote_append,
        Option.map_map]
      · rfl
      · intro d hd
        obtain ⟨k, hk, rfl⟩ := exists_digitChar_of_mem_hexPadded hd
        obtain ⟨hslash, hsingle, hdouble, hline⟩ := digitChar_ne hk
        rcases hquote with rfl | rfl
        · exact ⟨hsingle, hslash, hline⟩
        · exact ⟨hdouble, hslash, hline⟩

theorem isPrintable_of_escaped (h : Escaped quote p cs) : ∀ d ∈ cs, isPrintable d = true := by
  cases h with
  | itself hprintable => simpa using hprintable
  | letter _ hprintable => simpa using ⟨by decide, hprintable⟩
  | number =>
      obtain ⟨letter, width, hescape, -, -, -, -, -, hletter, -⟩ := exists_numericEscape p
      rw [hescape, List.forall_mem_cons, List.forall_mem_cons]
      refine ⟨by decide, hletter, fun d hd => ?_⟩
      obtain ⟨k, hk, rfl⟩ := exists_digitChar_of_mem_hexPadded hd
      exact isPrintable_digitChar hk

/-- What stands for a code point is not empty and does not start with the quote. -/
theorem exists_cons_of_escaped (hquote : IsQuote quote) (h : Escaped quote p cs) :
    ∃ first rest, cs = first :: rest ∧ first ≠ quote := by
  cases h with
  | @itself d _ _ hne => exact ⟨d, [], rfl, hne⟩
  | @letter _ shown => exact ⟨'\\', [shown], rfl, slash_ne_quote hquote⟩
  | number =>
      obtain ⟨letter, width, hescape, -⟩ := exists_numericEscape p
      exact ⟨'\\', _, hescape, slash_ne_quote hquote⟩

end

/-! ### Whole texts -/

section

variable {quote : Char} (hquote : IsQuote quote)

include hquote

/-- The escapes between the quotes denote the text. -/
theorem unescape_flatMap (points : List CodePoint) :
    unescape (points.flatMap (CodePoint.quoted quote)) = some points := by
  have hbound : ∀ n, (points.flatMap (CodePoint.quoted quote)).length ≤ n →
      unescapeUpTo n (points.flatMap (CodePoint.quoted quote)) = some points := by
    induction points with
    | nil => intro n _; cases n <;> rfl
    | cons p points ih =>
        intro n hn
        have hp := escaped_quoted hquote p
        obtain ⟨first, rest, hpiece, -⟩ := exists_cons_of_escaped hquote hp
        rw [List.flatMap_cons, List.length_append, hpiece, List.length_cons] at hn
        obtain ⟨m, rfl⟩ : ∃ m, n = m + 1 := ⟨n - 1, by omega⟩
        rw [List.flatMap_cons, unescapeUpTo_escaped hp, ih m (by omega)]
        rfl
  exact hbound _ le_rfl

theorem untilQuote_flatMap (points : List CodePoint) (rest : List Char) :
    Token.untilQuote quote false (points.flatMap (CodePoint.quoted quote) ++ quote :: rest) =
      some (points.flatMap (CodePoint.quoted quote), rest) := by
  induction points with
  | nil =>
      rw [List.flatMap_nil, List.nil_append, Token.untilQuote.eq_4]
      · simp
      all_goals simp [(slash_ne_quote hquote).symm]
  | cons p points ih =>
      rw [List.flatMap_cons, List.append_assoc,
        untilQuote_escaped hquote (escaped_quoted hquote p), ih]
      rfl

/-- Behind the opening quote no two quotes follow, unless the text is empty and a quote follows the
closing one. -/
theorem take_two_ne (points : List CodePoint) (rest : List Char)
    (hrest : rest.head? ≠ some quote) :
    (points.flatMap (CodePoint.quoted quote) ++ quote :: rest).take 2 ≠ [quote, quote] := by
  cases points with
  | nil =>
      cases rest with
      | nil => simp
      | cons d rest =>
          have hd : d ≠ quote := by simpa using hrest
          simp [hd]
  | cons p points =>
      obtain ⟨first, after, hpiece, hfirst⟩ :=
        exists_cons_of_escaped hquote (escaped_quoted hquote p)
      simp [List.flatMap_cons, hpiece, hfirst]

end

theorem unescape_quotedBody (points : List CodePoint) :
    unescape (CodePoint.quotedBody points) = some points :=
  unescape_flatMap (isQuote_quoteFor _) points

theorem isPrintable_of_mem_quotedText {points : List CodePoint} {c : Char}
    (h : c ∈ CodePoint.quotedText points) : isPrintable c = true := by
  have hquote : IsQuote (CodePoint.quoteFor points) := isQuote_quoteFor _
  simp only [CodePoint.quotedText, List.mem_cons, List.mem_append, List.not_mem_nil, or_false] at h
  rcases h with rfl | h | rfl
  · exact isPrintable_quote hquote
  · obtain ⟨d, -, hd⟩ := List.mem_flatMap.mp h
    exact isPrintable_of_escaped (escaped_quoted hquote d) c hd
  · exact isPrintable_quote hquote

/-- The quoted form of a text is one token, with or without a mark before it. -/
theorem quotedText_quotedText (marked : Bool) (points : List CodePoint) (rest : List Char)
    (hrest : rest.head? ≠ some (CodePoint.quoteFor points)) :
    Token.quotedText (if marked then ['u'] else []) (CodePoint.quotedText points ++ rest) =
      some (.quoted ⟨false, false, false, marked, CodePoint.quotedBody points⟩, rest) := by
  have hquote : IsQuote (CodePoint.quoteFor points) := isQuote_quoteFor _
  have hbody := untilQuote_flatMap hquote points rest
  have htriple := take_two_ne hquote points rest hrest
  simp only [CodePoint.quotedText, List.cons_append, List.append_assoc, List.nil_append,
    Token.quotedText, CodePoint.quotedBody, htriple, decide_false, if_false, hbody]
  cases marked <;> rfl

end TypedClients.Code
