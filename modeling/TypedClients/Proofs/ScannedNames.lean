import TypedClients.Proofs.QuotedLengths
import TypedClients.Proofs.SpelledTokens

/-!
# Names among tokens

Every name that a source is scanned to is an identifier: `isIdentifier_of_scan`. An identifier in its
normal form that is no reserved word is scanned to the name that it spells: `wordToken_of_isName`.
-/
namespace TypedClients.Code

open TypedClients.Text

/-- A name that is written as it is: an identifier in its normal form, and no reserved word. -/
structure IsName (s : String) : Prop where
  identifier : isIdentifier s.toList = true
  normal : normalise s.toList = s.toList
  free : s ∉ reservedWords

instance (s : String) : Decidable (IsName s) :=
  decidable_of_iff (isIdentifier s.toList = true ∧ normalise s.toList = s.toList ∧ s ∉ reservedWords)
    ⟨fun h => ⟨h.1, h.2.1, h.2.2⟩, fun h => ⟨h.identifier, h.normal, h.free⟩⟩

/-- A plain identifier is in its normal form. -/
theorem isName_of_isPlainIdentifier {s : String} (h : isPlainIdentifier s.toList = true)
    (hfree : s ∉ reservedWords) : IsName s where
  identifier := isIdentifier_of_isPlainIdentifier h
  normal := normalise_of_ascii fun c hc =>
    isPlainNameChar_ascii (Token.isPlainNameChar_of_mem h c hc)
  free := hfree

theorem exists_cons_of_isIdentifier {s : List Char} (h : isIdentifier s = true) :
    ∃ c cs, s = c :: cs ∧ isNameStart c = true := by
  cases s with
  | nil => cases h
  | cons c cs =>
      rw [isIdentifier, Bool.and_eq_true] at h
      exact ⟨c, cs, rfl, h.1⟩

theorem ne_empty_of_isIdentifier {s : String} (h : isIdentifier s.toList = true) : s ≠ "" := by
  rintro rfl
  exact absurd h (by decide)

namespace Token

/-- The names among some tokens meet a condition. -/
def NamesMeet (N : String → Prop) (ts : List Token) : Prop := ∀ n, .name n ∈ ts → N n

/-- The name that a token is. -/
def nameOf? : Token → Option String
  | .name n => some n
  | _ => none

instance (N : String → Prop) [DecidablePred N] (ts : List Token) : Decidable (NamesMeet N ts) :=
  decidable_of_iff (∀ n ∈ ts.filterMap nameOf?, N n) <| by
    refine forall_congr' fun n => imp_congr_left ?_
    rw [List.mem_filterMap]
    constructor
    · rintro ⟨t, ht, hn⟩
      cases t <;> cases hn
      exact ht
    · exact fun h => ⟨_, h, rfl⟩

/-! ### From sources to names -/

section

variable {c : Char} {cs : List Char}

theorem isPlainNameStart_of_isWordChar (hword : isWordChar c = true) (hdigit : Text.isDigit c = false)
    (hascii : c.toNat < 128) : isPlainNameStart c = true := by
  have hwide : ¬ 128 ≤ c.toNat := Nat.not_le_of_lt hascii
  simpa [isWordChar, isPlainNameChar, hdigit, hwide] using hword

theorem isPlainNameChar_of_isWordChar (hword : isWordChar c = true) (hascii : c.toNat < 128) :
    isPlainNameChar c = true := by
  have hwide : ¬ 128 ≤ c.toNat := Nat.not_le_of_lt hascii
  simpa [isWordChar, hwide] using hword

theorem ne_name_of_quotedText (marker : List Char) (n : String) :
    ∀ x ∈ quotedText marker cs, x.1 ≠ .name n := by
  unfold quotedText
  split
  · simp
  · refine forall_mem_bind.mpr fun ⟨body, after⟩ _ => ?_
    simp

/-- A word that is a name is an identifier, whether it was brought to its normal form or not. -/
theorem isIdentifier_of_wordToken (hword : isWordChar c = true) (hdigit : Text.isDigit c = false)
    {n : String} : ∀ x ∈ wordToken (c :: cs), x.1 = .name n → isIdentifier n.toList = true := by
  unfold wordToken
  extract_lets text rest quoteFollows name
  split
  · exact fun x hx hname => absurd hname (ne_name_of_quotedText _ n x hx)
  split
  · rename_i hascii
    have htext : isPlainIdentifier text = true := by
      have hall : ∀ d ∈ text, d.toNat < 128 := by simpa using hascii
      have htake : text = c :: cs.takeWhile isWordChar := List.takeWhile_cons_of_pos hword
      rw [htake] at hall ⊢
      obtain ⟨hc, hcs⟩ := List.forall_mem_cons.mp hall
      simp only [isPlainIdentifier, Bool.and_eq_true, List.all_eq_true]
      refine ⟨isPlainNameStart_of_isWordChar hword hdigit hc, fun d hd => ?_⟩
      exact isPlainNameChar_of_isWordChar (List.all_eq_true.mp List.all_takeWhile d hd) (hcs d hd)
    simp only [Option.mem_def, Option.some.injEq, forall_eq']
    split
    · simp
    · intro hname
      rw [← Token.name.inj hname, String.toList_ofList]
      exact isIdentifier_of_isPlainIdentifier htext
  · split
    · rename_i hidentifier
      simp only [Option.mem_def, Option.some.injEq, forall_eq']
      intro hname
      rw [← Token.name.inj hname, String.toList_ofList]
      exact hidentifier.2
    · simp

theorem keptByScan_isIdentifier :
    KeptByScan fun _ ts => NamesMeet (fun n => isIdentifier n.toList = true) ts where
  nil _ := by simp [NamesMeet]
  skip _ hts := hts
  line htokens hts n hn := by
    rcases List.mem_append.mp hn with hn | hn
    · exact absurd (htokens _ hn) (by simp [lineTokens])
    · exact hts n hn
  number x _ hts n hn := hts n (by simpa using hn)
  quoted x hx hts n hn := by
    rcases List.mem_cons.mp hn with hn | hn
    · exact absurd hn.symm (ne_name_of_quotedText [] n x hx)
    · exact hts n hn
  word hword hdigit x hx hts n hn := by
    rcases List.mem_cons.mp hn with hn | hn
    · exact isIdentifier_of_wordToken hword hdigit x hx hn.symm
    · exact hts n hn
  op _ hts n hn := hts n (by simpa using hn)

theorem isIdentifier_of_scan (cs : List Char) :
    ∀ ts ∈ scan cs, NamesMeet (fun n => isIdentifier n.toList = true) ts :=
  keptByScan_isIdentifier.scan cs

end

/-! ### From names to sources -/

theorem isWordChar_of_mem {name : List Char} (h : isIdentifier name = true) :
    ∀ c ∈ name, isWordChar c = true := by
  obtain ⟨c, cs, rfl, hc⟩ := exists_cons_of_isIdentifier h
  rw [isIdentifier, Bool.and_eq_true, List.all_eq_true] at h
  refine List.forall_mem_cons.mpr ⟨isWordChar_of_isNameStart hc, fun d hd => ?_⟩
  have hchar := h.2 d hd
  unfold isNameChar at hchar
  split at hchar
  · exact isWordChar_of_isPlainNameChar hchar
  · rename_i hwide
    simpa [isWordChar] using .inr (Nat.le_of_not_lt hwide)

theorem wordToken_of_isName {s : String} (h : IsName s) {rest : List Char} (hrest : Breaks rest) :
    wordToken (s.toList ++ rest) = some (.name s, rest) := by
  have hword := isWordChar_of_mem h.identifier
  obtain ⟨htake, hdrop, hquote⟩ := cut_word hword hrest
  by_cases hascii : s.toList.all (·.toNat < 128) = true
  · simp only [wordToken, htake, hdrop, hquote, false_and, if_false, hascii, if_true,
      String.ofList_toList, if_neg h.free]
  · simp only [wordToken, htake, hdrop, hquote, false_and, if_false, hascii, h.normal,
      h.identifier, and_self, if_true, String.ofList_toList, Bool.false_eq_true]

theorem scansTo_name {s : String} (hs : IsName s) {cs : List Char} {ts : List Token} {depth : Nat}
    (hcs : Breaks cs) (h : ScansTo cs ts depth) : ScansTo (s.toList ++ cs) (.name s :: ts) depth := by
  obtain ⟨c, name, hname, hc⟩ := exists_cons_of_isIdentifier hs.identifier
  refine scansTo_append (by simp [hname]) (fun rest hrest => ?_) h
  have hword := wordToken_of_isName hs (breaks_append hcs hrest.1)
  rw [hname] at hword ⊢
  exact scans_word hc hword

/-- A reserved word stands for itself. -/
theorem scansTo_word {w : String} (hw : isPlainIdentifier w.toList = true)
    (hreserved : w ∈ reservedWords) {cs : List Char} {ts : List Token} {depth : Nat}
    (hcs : Breaks cs) (h : ScansTo cs ts depth) :
    ScansTo (w.toList ++ cs) (.word w :: ts) depth := by
  obtain ⟨c, name, hname, hc⟩ := exists_cons_of_isPlainIdentifier hw
  refine scansTo_append (by simp [hname]) (fun rest hrest => ?_) h
  have hword := wordToken_name hw (breaks_append hcs hrest.1)
  rw [String.ofList_toList, ofWord, if_pos hreserved] at hword
  rw [hname] at hword ⊢
  exact scans_word (isNameStart_of_isPlainNameStart hc) hword

end Token

end TypedClients.Code
