import TypedClients.ParameterName
import TypedClients.Proofs.TypeTexts

/-!
# Usable parameter names

Any text but the empty one gives a parameter name of ASCII letters, digits and underscores without a
digit in front. Reserved words are looked for before anything is removed, and nothing is put in the
place of what is removed. So a text can lose all of its characters, and what is left of one can
spell a reserved word: `parameterName_isPlainName_iff`.
-/
namespace TypedClients

open TypedClients.Text TypedClients.Code TypedClients.Code.Expr

/-! ### Removed accents -/

namespace Text

theorem filter_insertMark {mark : Char} (hmark : combiningClass mark ≠ 0) (cs : List Char) :
    (insertMark mark cs).filter (combiningClass · == 0) = cs.filter (combiningClass · == 0) := by
  induction cs with
  | nil => simp [insertMark, hmark]
  | cons c cs ih =>
      rw [insertMark]
      split
      · rw [List.filter_cons, List.filter_cons, ih]
      · rw [List.filter_cons_of_neg (by simpa using hmark)]

/-- Marks move among themselves only, so the other characters keep their order. -/
theorem filter_orderMarks (cs : List Char) :
    (orderMarks cs).filter (combiningClass · == 0) = cs.filter (combiningClass · == 0) := by
  induction cs with
  | nil => rfl
  | cons c cs ih =>
      rw [orderMarks]
      by_cases hc : combiningClass c = 0
      · rw [if_pos hc, List.filter_cons, List.filter_cons, ih]
      · rw [if_neg hc, filter_insertMark hc, ih, List.filter_cons_of_neg (by simpa using hc)]

theorem removeAccents_eq (cs : List Char) :
    removeAccents cs = (cs.flatMap decomposeChar).filter (combiningClass · == 0) :=
  filter_orderMarks _

theorem removeAccents_of_ascii {cs : List Char} (h : ∀ c ∈ cs, c.toNat < 128) :
    removeAccents cs = cs := by
  rw [removeAccents, decompose_of_ascii h, List.filter_eq_self]
  intro c hc
  have := h c hc
  rw [combiningClass, if_pos (by omega)]
  rfl

end Text

/-- The characters of a text, each decomposed, that are no combining marks. -/
def bareChars (text : String) : List Char :=
  (text.toList.flatMap decomposeChar).filter (combiningClass · == 0)

theorem bareChars_of_ascii {text : String} (h : ∀ c ∈ text.toList, c.toNat < 128) :
    bareChars text = text.toList := by
  rw [bareChars, ← removeAccents_eq, removeAccents_of_ascii h]

theorem bareChars_of_isPlainIdentifier {text : String}
    (h : isPlainIdentifier text.toList = true) : bareChars text = text.toList :=
  bareChars_of_ascii fun c hc => isPlainNameChar_ascii (Token.isPlainNameChar_of_mem h c hc)

/-! ### Joined words -/

theorem joinWords_of_forall {cs : List Char} (h : ∀ c ∈ cs, separatesWords c = false)
    (inRun : Bool) : joinWords inRun cs = cs := by
  induction cs generalizing inRun with
  | nil => rfl
  | cons c cs ih =>
      rw [List.forall_mem_cons] at h
      rw [joinWords, if_neg (by simp [h.1]), ih h.2]

theorem underscore_mem_joinWords {cs : List Char} (h : ∃ c ∈ cs, separatesWords c = true) :
    '_' ∈ joinWords false cs := by
  induction cs with
  | nil => simp at h
  | cons c cs ih =>
      rw [joinWords]
      split
      · simp
      · rename_i hc
        obtain ⟨d, hmem, hd⟩ := h
        rcases List.mem_cons.mp hmem with rfl | hmem
        · exact absurd hd hc
        · exact List.mem_cons_of_mem c (ih ⟨d, hmem, hd⟩)

/-- What joining words leaves of a text that a name can hold. -/
def keptChars (cs : List Char) : List Char := (joinWords false cs).filter isPlainNameChar

theorem isPlainNameChar_of_mem_keptChars {cs : List Char} :
    ∀ c ∈ keptChars cs, isPlainNameChar c = true := fun _ hc => (List.mem_filter.mp hc).2

theorem keptChars_of_forall {cs : List Char} (h : ∀ c ∈ cs, separatesWords c = false) :
    keptChars cs = cs.filter isPlainNameChar := by
  rw [keptChars, joinWords_of_forall h]

theorem underscore_mem_keptChars {cs : List Char} (h : ∃ c ∈ cs, separatesWords c = true) :
    '_' ∈ keptChars cs :=
  List.mem_filter.mpr ⟨underscore_mem_joinWords h, rfl⟩

/-- Nothing is kept of a text exactly if it has neither a separator nor a character of names. -/
theorem keptChars_ne_nil_iff {cs : List Char} :
    keptChars cs ≠ [] ↔ ∃ c ∈ cs, separatesWords c = true ∨ isPlainNameChar c = true := by
  by_cases hsep : ∃ c ∈ cs, separatesWords c = true
  · obtain ⟨c, hmem, hc⟩ := hsep
    exact iff_of_true (List.ne_nil_of_mem (underscore_mem_keptChars ⟨c, hmem, hc⟩))
      ⟨c, hmem, .inl hc⟩
  · have hnone : ∀ c ∈ cs, separatesWords c = false := by simpa using hsep
    rw [keptChars_of_forall hnone, ne_eq, List.filter_eq_nil_iff]
    simp only [not_forall, not_not, exists_prop]
    refine exists_congr fun c => and_congr_right fun hmem => ?_
    rw [hnone c hmem]
    simp

theorem separatesWords_of_isPlainNameChar {c : Char} (h : isPlainNameChar c = true) :
    separatesWords c = false := by
  have hascii : ∀ n < 128, isPlainNameChar (Char.ofNat n) = true →
      separatesWords (Char.ofNat n) = false := by decide
  have := hascii c.toNat (isPlainNameChar_ascii h)
  rw [Char.ofNat_toNat] at this
  exact this h

/-! ### Digits in front -/

theorem isDigit_of_isPlainNameStart {c : Char} (h : isPlainNameStart c = true) :
    isDigit c = false :=
  Token.isDigit_of_isNameStart (Token.isNameStart_of_isPlainNameStart h)

theorem head?_guardDigit {cs : List Char} : ∀ c ∈ (guardDigit cs).head?, isDigit c = false := by
  cases cs with
  | nil => simp [guardDigit]
  | cons c cs =>
      rw [guardDigit]
      split
      · simpa using (by decide : isDigit '_' = false)
      · rename_i hc
        simpa using hc

theorem isPlainNameChar_of_mem_guardDigit {cs : List Char}
    (h : ∀ c ∈ cs, isPlainNameChar c = true) :
    ∀ c ∈ guardDigit cs, isPlainNameChar c = true := by
  cases cs with
  | nil => simp [guardDigit]
  | cons c cs =>
      rw [guardDigit]
      split
      · exact List.forall_mem_cons.mpr ⟨rfl, h⟩
      · exact h

theorem guardDigit_eq_nil_iff {cs : List Char} : guardDigit cs = [] ↔ cs = [] := by
  cases cs with
  | nil => simp [guardDigit]
  | cons c cs => rw [guardDigit]; split <;> simp

/-- Characters of names make a name if there are any and the first one is no digit. -/
theorem isPlainIdentifier_iff {cs : List Char} (h : ∀ c ∈ cs, isPlainNameChar c = true)
    (hdigit : ∀ c ∈ cs.head?, isDigit c = false) : isPlainIdentifier cs = true ↔ cs ≠ [] := by
  cases cs with
  | nil => simp [isPlainIdentifier]
  | cons c cs =>
      rw [List.forall_mem_cons] at h
      have hstart : isPlainNameStart c = true := by
        simpa [isPlainNameChar, hdigit c rfl] using h.1
      simpa [isPlainIdentifier, hstart] using h.2

theorem guardDigit_of_isPlainIdentifier {cs : List Char} (h : isPlainIdentifier cs = true) :
    guardDigit cs = cs := by
  obtain ⟨c, cs, rfl, hc⟩ := Token.exists_cons_of_isPlainIdentifier h
  rw [guardDigit, if_neg (by simp [isDigit_of_isPlainNameStart hc])]

/-! ### Reserved words -/

theorem isPlainIdentifier_of_mem_reservedWords {w : String} (h : w ∈ reservedWords) :
    isPlainIdentifier w.toList = true :=
  (by decide : ∀ w ∈ reservedWords, isPlainIdentifier w.toList = true) w h

theorem underscore_notMem_of_mem_reservedWords {w : String} (h : w ∈ reservedWords) :
    '_' ∉ w.toList :=
  (by decide : ∀ w ∈ reservedWords, '_' ∉ w.toList) w h

theorem notMem_reservedWords_of_underscore {cs : List Char} (h : '_' ∈ cs) :
    String.ofList cs ∉ reservedWords := fun hmem =>
  underscore_notMem_of_mem_reservedWords hmem (by simpa using h)

/-- A text with a digit in front is no reserved word, and neither is one with an underscore. -/
theorem ofList_guardDigit_mem_reservedWords {cs : List Char} :
    String.ofList (guardDigit cs) ∈ reservedWords ↔ String.ofList cs ∈ reservedWords := by
  cases cs with
  | nil => rfl
  | cons c cs =>
      rw [guardDigit]
      split
      · rename_i hc
        refine iff_of_false (notMem_reservedWords_of_underscore List.mem_cons_self) fun hmem => ?_
        have hid := isPlainIdentifier_of_mem_reservedWords hmem
        simp only [String.toList_ofList, isPlainIdentifier, Bool.and_eq_true] at hid
        exact Bool.false_ne_true ((isDigit_of_isPlainNameStart hid.1).symm.trans hc)
      · rfl

theorem isPlainIdentifier_unreserved {text : String}
    (h : isPlainIdentifier text.toList = true) :
    isPlainIdentifier (unreserved text).toList = true := by
  rw [unreserved]
  split
  · obtain ⟨c, cs, hcs, hc⟩ := Token.exists_cons_of_isPlainIdentifier h
    rw [hcs, isPlainIdentifier, Bool.and_eq_true, List.all_eq_true] at h
    rw [String.toList_append, hcs, List.cons_append, isPlainIdentifier, h.1, Bool.true_and,
      List.all_append, List.all_eq_true.mpr h.2]
    rfl
  · exact h

theorem unreserved_notMem_reservedWords (text : String) : unreserved text ∉ reservedWords := by
  rw [unreserved]
  split
  · exact fun hmem => underscore_notMem_of_mem_reservedWords hmem (by simp)
  · assumption

/-! ### The name for a text -/

/-- Something of the text ends up in its name: a separator or a character of names. -/
def LeavesName (text : String) : Prop :=
  ∃ c ∈ bareChars text, separatesWords c = true ∨ isPlainNameChar c = true

/-- The text is no reserved word, but becomes one by what is removed from it. -/
structure SpellsReserved (text : String) : Prop where
  free : text ∉ reservedWords
  joined : ∀ c ∈ bareChars text, separatesWords c = false
  spells : String.ofList ((bareChars text).filter isPlainNameChar) ∈ reservedWords

theorem keptChars_of_isPlainIdentifier {text : String} (h : isPlainIdentifier text.toList = true) :
    keptChars (bareChars text) = text.toList := by
  have hplain := Token.isPlainNameChar_of_mem h
  rw [bareChars_of_isPlainIdentifier h,
    keptChars_of_forall fun c hc => separatesWords_of_isPlainNameChar (hplain c hc),
    List.filter_eq_self.mpr hplain]

/-- A reserved word leaves a name, with and without the underscore that it gets. -/
theorem keptChars_unreserved_ne_nil_iff {text : String} :
    keptChars (bareChars (unreserved text)) ≠ [] ↔ LeavesName text := by
  rw [LeavesName, ← keptChars_ne_nil_iff]
  by_cases hreserved : text ∈ reservedWords
  · have hid := isPlainIdentifier_of_mem_reservedWords hreserved
    rw [keptChars_of_isPlainIdentifier hid,
      keptChars_of_isPlainIdentifier (isPlainIdentifier_unreserved hid), unreserved,
      if_pos hreserved, String.toList_append]
    obtain ⟨c, cs, hcs, -⟩ := Token.exists_cons_of_isPlainIdentifier hid
    simp [hcs]
  · rw [unreserved, if_neg hreserved]

/-- A separator leaves an underscore, which no reserved word has. -/
theorem keptChars_unreserved_mem_reservedWords {text : String} :
    String.ofList (keptChars (bareChars (unreserved text))) ∈ reservedWords ↔
      SpellsReserved text := by
  by_cases hreserved : text ∈ reservedWords
  · have hid := isPlainIdentifier_of_mem_reservedWords hreserved
    rw [keptChars_of_isPlainIdentifier (isPlainIdentifier_unreserved hid), String.ofList_toList]
    exact iff_of_false (unreserved_notMem_reservedWords text) fun h => h.free hreserved
  · rw [unreserved, if_neg hreserved]
    constructor
    · intro hmem
      have hjoined : ∀ c ∈ bareChars text, separatesWords c = false := by
        intro c hc
        rw [Bool.eq_false_iff]
        intro hsep
        exact notMem_reservedWords_of_underscore (underscore_mem_keptChars ⟨c, hc, hsep⟩) hmem
      exact ⟨hreserved, hjoined, keptChars_of_forall hjoined ▸ hmem⟩
    · intro h
      rw [keptChars_of_forall h.joined]
      exact h.spells

theorem parameterName_eq {text : String} (h : text ≠ "") :
    parameterName text =
      .ok (String.ofList (guardDigit (keptChars (bareChars (unreserved text))))) := by
  rw [parameterName, if_neg h, removeAccents_eq]
  rfl

/-- Every text that is not empty gets a name of ASCII letters, digits and underscores, and no digit
is in front. The name is empty exactly if the text, without accents, has neither a separator nor a
character of names, and it is reserved exactly if the text is no reserved word itself but what is
left of it spells one. In every other case it can be used, and an ASCII name is kept, with an
underscore if it is reserved. -/
theorem parameterName_isPlainName_iff {text : String} (htext : text ≠ "") :
    ∃ name, parameterName text = .ok name ∧
      (∀ c ∈ name.toList, isPlainNameChar c = true) ∧
      (∀ c ∈ name.toList.head?, isDigit c = false) ∧
      (name = "" ↔ ¬ LeavesName text) ∧
      (name ∈ reservedWords ↔ SpellsReserved text) ∧
      (IsPlainName name ↔ LeavesName text ∧ ¬ SpellsReserved text) ∧
      (isPlainIdentifier text.toList = true → name = unreserved text ∧ IsPlainName name) := by
  have hplain : ∀ c ∈ guardDigit (keptChars (bareChars (unreserved text))),
      isPlainNameChar c = true :=
    isPlainNameChar_of_mem_guardDigit isPlainNameChar_of_mem_keptChars
  have hne : guardDigit (keptChars (bareChars (unreserved text))) ≠ [] ↔ LeavesName text := by
    rw [ne_eq, guardDigit_eq_nil_iff]
    exact keptChars_unreserved_ne_nil_iff
  have hreserved : String.ofList (guardDigit (keptChars (bareChars (unreserved text)))) ∈
      reservedWords ↔ SpellsReserved text := by
    rw [ofList_guardDigit_mem_reservedWords, keptChars_unreserved_mem_reservedWords]
  refine ⟨_, parameterName_eq htext, ?_, ?_, ?_, hreserved, ?_, ?_⟩
  · simpa using hplain
  · rw [String.toList_ofList]
    exact head?_guardDigit
  · rw [String.ofList_eq_empty_iff, ← hne, not_not]
  · rw [IsPlainName, String.toList_ofList, isPlainIdentifier_iff hplain head?_guardDigit, hne,
      hreserved]
  · intro hid
    have hname : guardDigit (keptChars (bareChars (unreserved text))) = (unreserved text).toList := by
      rw [keptChars_of_isPlainIdentifier (isPlainIdentifier_unreserved hid),
        guardDigit_of_isPlainIdentifier (isPlainIdentifier_unreserved hid)]
    rw [hname, String.ofList_toList]
    exact ⟨rfl, isPlainIdentifier_unreserved hid, unreserved_notMem_reservedWords text⟩

/-- The hyphen of the text becomes an underscore. -/
theorem parameterName_isPlainName_iff_memberId : "member-id" ≠ "" ∧
    ∃ name, parameterName "member-id" = .ok name ∧ name = "member_id" ∧
      (IsPlainName name ↔ LeavesName "member-id" ∧ ¬ SpellsReserved "member-id") := by
  obtain ⟨name, hname, -, -, -, -, husable, -⟩ :=
    @parameterName_isPlainName_iff "member-id" (by decide)
  refine ⟨by decide, name, hname, ?_, husable⟩
  have hmember : parameterName "member-id" = .ok "member_id" := by decide
  exact Except.ok.inj (hname.symm.trans hmember)

/-- A mark after a reserved word is removed when the word has been looked for already. -/
theorem not_isPlainName_of_parameterName :
    ¬ ∀ text : String, text ≠ "" → ∃ name, parameterName text = .ok name ∧ IsPlainName name := by
  intro h
  obtain ⟨name, hname, -, hfree⟩ := h "class!" (by decide)
  have hclass : parameterName "class!" = .ok "class" := by decide
  cases hname.symm.trans hclass
  exact hfree (by decide)

end TypedClients
