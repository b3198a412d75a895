import Mathlib.Data.List.Basic
import TypedClients.Proofs.JoinedTexts
import TypedClients.Proofs.WrittenTypes

/-!
# Formatted text is read back

Formatted text of characters and values of names is written in single quotes with its braces doubled,
and read back as itself: `read_formatted`. The text between the quotes is that of its glyphs one after
the other, however these are gathered in pieces, so all is shown along the glyphs.
-/
namespace TypedClients.Code

open Reader Rules
open TypedClients.Text

/-! ### Glyphs -/

/-- A character that needs no escape in quotes of either kind. -/
def IsBare (c : Char) : Prop := isPrintable c = true ∧ c ∉ ['\\', '\'', '"']

/-- A character of formatted text, or the value of a name. -/
inductive Glyph where
  | char (c : Char)
  | value (name : String)
  deriving DecidableEq, Repr

namespace Glyph

def piece : Glyph → Piece Expr
  | char c => .text (String.singleton c)
  | value name => .field (.name name) none none

/-- A glyph between the quotes: braces are doubled, and a name stands in braces. -/
def written : Glyph → List Char
  | char c => if c = '\x7b' ∨ c = '\x7d' then [c, c] else [c]
  | value name => '\x7b' :: (name.toList ++ ['\x7d'])

def IsPlain : Glyph → Prop
  | char c => IsBare c
  | value name => Expr.IsPlainName name

end Glyph

/-! ### Reading pieces -/

section

variable {value : List Char → Option Expr}
  {format : List Char → Option (List (Piece Expr) × List Char)}

theorem textRun_cons {c : Char} (hbrace : ¬ (c = '\x7b' ∨ c = '\x7d')) (hslash : c ≠ '\\')
    (cs : List Char) :
    textRun false false .outside (c :: cs) =
      (textRun false false .outside cs).map fun (run, rest, how) => (c :: run, rest, how) := by
  simp [textRun, hbrace, hslash]

theorem unescape_cons {c : Char} (hslash : c ≠ '\\') (cs : List Char) :
    unescape (c :: cs) = (unescape cs).map (.char c :: ·) := by
  rw [unescape, List.length_cons, unescapeUpTo.eq_5]
  · rfl
  all_goals simp [hslash]

/-- A character joins the text that comes first. -/
def prepend (c : Char) : List (Piece Expr) → List (Piece Expr)
  | .text t :: ps => .text (String.singleton c ++ t) :: ps
  | .brokenText t :: ps => .brokenText (t.prepend [c]) :: ps
  | ps => ps

theorem prepend_ofPoints (c : Char) (points : List CodePoint) (ps : List (Piece Expr)) :
    prepend c (Piece.ofPoints points :: ps) = Piece.ofPoints (.char c :: points) :: ps := by
  rw [Piece.ofPoints, Piece.ofPoints, CodePoint.chars]
  cases CodePoint.chars points with
  | ok cs => simp [prepend]
  | error t => rfl

theorem readPieces_cons {c : Char} (hbrace : ¬ (c = '\x7b' ∨ c = '\x7d')) (hslash : c ≠ '\\')
    (n : Nat) (cs : List Char) :
    readPieces value false false (some format) (n + 1) (c :: cs) =
      (readPieces value false false (some format) (n + 1) cs).map fun (ps, rest) =>
        (prepend c ps, rest) := by
  rw [readPieces, readPieces, textRun_cons hbrace hslash]
  rcases textRun false false .outside cs with _ | ⟨run, rest, how⟩
  · rfl
  simp only [Option.map_some, Option.bind_eq_bind, Option.bind_some, textOf, Bool.false_eq_true,
    if_false, unescape_cons hslash]
  rcases unescape run with _ | text
  · rfl
  have hpieces (ps : List (Piece Expr)) (rest : List Char) :=
    congrArg (fun qs => some (qs, rest)) (prepend_ofPoints c text ps).symm
  simp only [Option.map_some, Option.bind_some]
  cases how with
  | doubled =>
      rcases readPieces value false false (some format) n rest with _ | ⟨ps, rest⟩
      · rfl
      · exact hpieces ps rest
  | brace =>
      dsimp only
      split
      · rename_i after
        rcases hfield : readField value format after with _ | ⟨shown, field, rest⟩
        · rfl
        simp only [Option.bind_some]
        rcases readPieces value false false (some format) n rest with _ | ⟨ps, rest⟩
        · rfl
        · exact hpieces (.text (String.ofList shown) :: field :: ps) rest
      · exact hpieces [] rest

theorem readPieces_doubled {c : Char} (hbrace : c = '\x7b' ∨ c = '\x7d') (n : Nat) (cs : List Char) :
    readPieces value false false (some format) (n + 1) (c :: c :: cs) =
      (readPieces value false false (some format) n cs).map fun (ps, rest) =>
        (.text (String.singleton c) :: ps, rest) := by
  have hrun : textRun false false .outside (c :: c :: cs) = some ([c], cs, .doubled) := by
    simp [textRun, hbrace]
  have htext : unescape [c] = some [.char c] := by rcases hbrace with rfl | rfl <;> rfl
  rw [readPieces, hrun]
  simp only [Option.bind_eq_bind, Option.bind_some, textOf, Bool.false_eq_true, if_false, htext]
  rcases readPieces value false false (some format) n cs with _ | ⟨ps, rest⟩ <;> rfl

/-! ### Fields -/

theorem fieldSource_name {name : List Char} (h : ∀ c ∈ name, isPlainNameChar c = true)
    (rest : List Char) : fieldSource none [] 0 (name ++ '\x7d' :: rest) = some (name, '\x7d' :: rest) := by
  induction name with
  | nil => simp [fieldSource, closingFor?]
  | cons c name ih =>
      obtain ⟨hc, hname⟩ := List.forall_mem_cons.mp h
      have hne : ∀ d, isPlainNameChar d = false → c ≠ d := by
        rintro d hd rfl
        rw [hc] at hd
        cases hd
      rw [List.cons_append, fieldSource]
      have hquote : ¬ (c = '\'' ∨ c = '"') := by
        simp [hne '\'' (by decide), hne '"' (by decide)]
      have hopening : closingFor? c = none := by
        simp [closingFor?, hne '(' (by decide), hne '[' (by decide), hne '\x7b' (by decide)]
      have hends : c ∉ ['!', ':', '\x7d', '=', '<', '>'] := by
        simp [hne '!' (by decide), hne ':' (by decide), hne '\x7d' (by decide), hne '=' (by decide),
          hne '<' (by decide), hne '>' (by decide)]
      have hcloses : c ∉ [')', ']', '\x7d'] := by
        simp [hne ')' (by decide), hne ']' (by decide), hne '\x7d' (by decide)]
      simp only [Nat.lt_irrefl, if_false, hne '\\' (by decide), hquote, hopening,
        hne '#' (by decide), hends, hcloses, and_false, ih hname, Option.map_some]

theorem readField_name {name : String} (hname : Expr.IsPlainName name)
    (hvalue : value name.toList = some (.name name)) (rest : List Char) :
    readField value format (name.toList ++ '\x7d' :: rest) =
      some ([], .field (.name name) none none, rest) := by
  have hsource := fieldSource_name (Token.isPlainNameChar_of_mem hname.1) rest
  simp [readField, hsource, hvalue]

theorem readPieces_field {name : String} (hname : Expr.IsPlainName name)
    (hvalue : value name.toList = some (.name name)) (n : Nat) (rest : List Char) :
    readPieces value false false (some format) (n + 1) ('\x7b' :: (name.toList ++ ['\x7d']) ++ rest) =
      (readPieces value false false (some format) n rest).map fun (ps, rest) =>
        (.text "" :: .text "" :: .field (.name name) none none :: ps, rest) := by
  obtain ⟨c, cs, hcs, hc⟩ := Token.exists_cons_of_isPlainIdentifier hname.1
  have hbrace : c ≠ '\x7b' := by
    rintro rfl
    exact absurd hc (by decide)
  have hrun : textRun false false .outside ('\x7b' :: (name.toList ++ '\x7d' :: rest)) =
      some ([], '\x7b' :: (name.toList ++ '\x7d' :: rest), .brace) := by
    simp [hcs, textRun, hbrace]
  have hfield : readField value format (name.toList ++ '\x7d' :: rest) =
      some ([], .field (.name name) none none, rest) := readField_name hname hvalue rest
  have htext : '\x7b' :: (name.toList ++ ['\x7d']) ++ rest =
      '\x7b' :: (name.toList ++ '\x7d' :: rest) := by simp
  rw [htext, readPieces, hrun]
  simp only [Option.bind_eq_bind, Option.bind_some, textOf, Bool.false_eq_true, if_false]
  change ((readField value format (name.toList ++ '\x7d' :: rest)).bind _) = _
  rw [hfield]
  simp only [Option.bind_some]
  rcases readPieces value false false (some format) n rest with _ | ⟨ps, rest⟩ <;> rfl

/-! ### Glyphs are read back -/

theorem readPieces_glyphs {glyphs : List Glyph} (h : ∀ g ∈ glyphs, g.IsPlain)
    (hvalue : ∀ name, Expr.IsPlainName name → value name.toList = some (.name name)) {n : Nat}
    (hn : (glyphs.flatMap Glyph.written).length < n) :
    ∃ t ps, readPieces value false false (some format) n (glyphs.flatMap Glyph.written) =
        some (.text t :: ps, []) ∧
      joinTexts (.text t :: ps) = joinTexts (glyphs.map Glyph.piece) := by
  obtain ⟨n, rfl⟩ : ∃ m, n = m + 1 := ⟨n - 1, by omega⟩
  induction glyphs generalizing n with
  | nil => exact ⟨"", [], rfl, by simp [joinTexts]⟩
  | cons g glyphs ih =>
      obtain ⟨hg, hglyphs⟩ := List.forall_mem_cons.mp h
      rw [List.flatMap_cons, List.length_append] at hn
      rw [List.flatMap_cons, List.map_cons]
      cases g with
      | char c =>
          by_cases hbrace : c = '\x7b' ∨ c = '\x7d'
          · -- A doubled brace ends a run, and further pieces follow.
            rw [Glyph.written, if_pos hbrace] at hn ⊢
            simp only [List.length_cons, List.length_nil] at hn
            obtain ⟨m, rfl⟩ : ∃ m, n = m + 1 := ⟨n - 1, by omega⟩
            obtain ⟨t, ps, hread, hjoin⟩ := ih hglyphs m (by omega)
            refine ⟨String.singleton c, .text t :: ps, ?_, ?_⟩
            · rw [List.cons_append, List.cons_append, List.nil_append, readPieces_doubled hbrace, hread]
              rfl
            · exact joinTexts_cons_congr _ hjoin
          · rw [Glyph.written, if_neg hbrace] at hn ⊢
            obtain ⟨t, ps, hread, hjoin⟩ := ih hglyphs n (by omega)
            refine ⟨String.singleton c ++ t, ps, ?_, ?_⟩
            · have hslash : c ≠ '\\' := fun h => hg.2 (by simp [h])
              rw [List.singleton_append, readPieces_cons hbrace hslash, hread]
              rfl
            · rw [joinTexts_text_append]
              exact joinTexts_cons_congr _ hjoin
      | value name =>
          rw [Glyph.written] at hn ⊢
          simp only [List.length_cons] at hn
          obtain ⟨m, rfl⟩ : ∃ m, n = m + 1 := ⟨n - 1, by omega⟩
          obtain ⟨t, ps, hread, hjoin⟩ := ih hglyphs m (by omega)
          refine ⟨"", .text "" :: .field (.name name) none none :: .text t :: ps, ?_, ?_⟩
          · rw [readPieces_field hg (hvalue name hg), hread]
            rfl
          · rw [joinTexts_text_empty, joinTexts_text_empty]
            exact joinTexts_cons_congr (.field (.name name) none none) hjoin

theorem formattedPieces_glyphs {glyphs : List Glyph} (h : ∀ g ∈ glyphs, g.IsPlain)
    (hvalue : ∀ name, Expr.IsPlainName name → value name.toList = some (.name name)) :
    ∃ ps, formattedPieces value false (glyphs.flatMap Glyph.written) = some ps ∧
      joinTexts ps = joinTexts (glyphs.map Glyph.piece) := by
  unfold formattedPieces
  dsimp only
  obtain ⟨t, ps, hread, hjoin⟩ := readPieces_glyphs h hvalue (Nat.lt_succ_self _)
  refine ⟨.text t :: ps, ?_, hjoin⟩
  rw [hread]
  rfl

end

/-! ### The values of names -/

theorem scan_field {name : String} (hname : Expr.IsPlainName name) :
    Token.scan ('(' :: (name.toList ++ [')', '\n'])) =
      some [.op "(", .name name, .op ")", .newline] := by
  have hspelled : Token.Spelled ('(' :: (name.toList ++ []) ++ [')'])
      [.op "(", Token.ofWord name, .op ")"] 1 := by
    have hinner := Token.Spelled.word hname.1 Token.stops_nil.1 .nil
    rw [String.ofList_toList] at hinner
    exact .bracketed (by decide) hinner .nil
  have hlines : ∀ fuel, Token.scanFrom (fuel + 2 * ['\n'].length + 1) [(0, 0)] [] false ['\n'] =
      some [.newline] := fun _ => rfl
  have hscan := Token.scan_of_scansTo (Token.scansTo_of_spelled hspelled) (by simp; decide)
    (by simp [Token.Stops, Token.Breaks]; decide) hlines
  simpa [Token.ofWord, hname.2, Token.maxBrackets] using hscan

theorem fieldRule_name {name : String} (hname : Expr.IsPlainName name) {n : Nat} (hn : 3 ≤ n) :
    fieldRule (upTo n) name.toList = some (.name name) := by
  obtain ⟨k, rfl⟩ : ∃ k, n = k + 3 := ⟨n - 3, by omega⟩
  obtain ⟨c, cs, hcs, hc⟩ := Token.exists_cons_of_isPlainIdentifier hname.1
  have hblank : ¬ (c == ' ' || c == '\t' || c == '\n' || c == '\x0c') = true := by
    simp only [Bool.or_eq_true, beq_iff_eq]
    rintro (((rfl | rfl) | rfl) | rfl) <;> exact absurd hc (by decide)
  have hread : starExpressions (upTo (k + 3)) [.op "(", .name name, .op ")", .newline] =
      some (.name name, [.newline]) := rfl
  rw [fieldRule, scan_field hname]
  simp [hcs, hblank, hread]

/-! ### Writing -/

theorem occursIn_of_notMem {quote : Char} {quotes cs : List Char} (h : quote ∉ cs) :
    occursIn (quote :: quotes) cs = false := by
  induction cs with
  | nil => rfl
  | cons c cs ih =>
      obtain ⟨hc, hcs⟩ := not_or.mp (List.mem_cons.not.mp h)
      simp [occursIn, List.isPrefixOf, hc, ih hcs]

theorem notMem_of_bare {cs : List Char} (h : ∀ c ∈ cs, IsBare c) :
    '\'' ∉ cs ∧ '"' ∉ cs ∧ '\n' ∉ cs :=
  ⟨fun hmem => (h _ hmem).2 (by simp), fun hmem => (h _ hmem).2 (by simp),
    fun hmem => absurd (h _ hmem).1 (by decide)⟩

/-- Bare text is written as it is. -/
theorem flatMap_layoutPoint_of_bare {cs : List Char} (h : ∀ c ∈ cs, IsBare c)
    (escapeBlanks : Bool) : (cs.map CodePoint.char).flatMap (layoutPoint escapeBlanks) = cs := by
  rw [List.flatMap_map]
  refine (List.flatMap_congr fun c hc => ?_).trans (List.flatMap_singleton' cs)
  have hslash : c ≠ '\\' := fun heq => (h c hc).2 (by simp [heq])
  simp [layoutPoint, hslash, (h c hc).1]

/-- No quotes end bare text. -/
theorem head?_ne_last_of_bare {cs : List Char} (h : ∀ c ∈ cs, IsBare c) {last : Char}
    (hlast : cs.getLast? = some last) : ∀ q ∈ allQuotes, (q.head? == some last) = false := by
  have hne : '\'' ≠ last ∧ '"' ≠ last := by
    constructor
    · rintro rfl
      exact (notMem_of_bare h).1 (List.mem_of_getLast? hlast)
    · rintro rfl
      exact (notMem_of_bare h).2.1 (List.mem_of_getLast? hlast)
  simp [allQuotes, hne]

/-- Nothing keeps bare text from standing in any quotes. -/
theorem layoutQuoted_of_bare {cs : List Char} (h : ∀ c ∈ cs, IsBare c) (escapeBlanks : Bool) :
    layoutQuoted allQuotes escapeBlanks (cs.map .char) = (cs, allQuotes) := by
  obtain ⟨hsingle, hdouble, hline⟩ := notMem_of_bare h
  have hpossible : (allQuotes.filter fun q =>
      (! cs.contains '\n' || q.length == 3) && ! occursIn q cs) = allQuotes := by
    simp [allQuotes, hline, occursIn_of_notMem hsingle, occursIn_of_notMem hdouble]
  unfold layoutQuoted
  simp only [flatMap_layoutPoint_of_bare h, hpossible]
  split
  · contradiction
  split
  · rfl
  · rename_i last hlast
    have hends := head?_ne_last_of_bare h hlast
    have hnone : (allQuotes.filter fun q => q.head? == some last) = [] :=
      List.filter_eq_nil_iff.mpr fun q hq => by simp [hends q hq]
    have hall : (allQuotes.filter fun q => ! (q.head? == some last)) = allQuotes :=
      List.filter_eq_self.mpr fun q hq => by simp [hends q hq]
    have hfirst : allQuotes.head?.any (fun q => q.head? == some last) = false :=
      hends ['\''] (by simp [allQuotes])
    simp only [hnone, hall, List.append_nil, hfirst]
    rfl

theorem narrowQuotes_of_bare {parts : List (List CodePoint × Bool)} {cs : List Char}
    (hparts : parts.flatMap Prod.fst = cs.map .char) (h : ∀ c ∈ cs, IsBare c) :
    narrowQuotes allQuotes parts = (cs, allQuotes) := by
  induction parts generalizing cs with
  | nil =>
      obtain rfl : cs = [] := List.map_eq_nil_iff.mp hparts.symm
      rfl
  | cons part parts ih =>
      obtain ⟨text, isText⟩ := part
      rw [List.flatMap_cons] at hparts
      obtain ⟨front, back, rfl, rfl, hback⟩ := List.append_eq_map_iff.mp hparts
      obtain ⟨hfront, hrest⟩ := List.forall_mem_append.mp h
      rw [narrowQuotes, layoutQuoted_of_bare hfront]
      simp only [ih hback.symm hrest]

/-- Bare text ends at the first quote. -/
theorem quotedText_of_bare {cs rest : List Char} (h : ∀ c ∈ cs, IsBare c)
    (hrest : rest.head? ≠ some '\'') :
    Token.quotedText ['f'] ('\'' :: (cs ++ '\'' :: rest)) =
      some (.quoted ⟨false, false, true, false, cs⟩, rest) := by
  have hbody : ∀ c ∈ cs, c ≠ '\'' ∧ c ≠ '\\' ∧ c ≠ '\n' := by
    intro c hc
    refine ⟨?_, ?_, ?_⟩ <;> rintro rfl
    · exact (notMem_of_bare h).1 hc
    · exact (h _ hc).2 (by simp)
    · exact (notMem_of_bare h).2.2 hc
  have htriple : (cs ++ '\'' :: rest).take 2 ≠ ['\'', '\''] := by
    cases cs with
    | nil =>
        cases rest with
        | nil => simp
        | cons c rest => simpa using hrest
    | cons c cs => simp [(hbody c (by simp)).1]
  have huntil : Token.untilQuote '\'' false (cs ++ '\'' :: rest) = some (cs, rest) := by
    rw [untilQuote_append hbody]
    simp [Token.untilQuote]
  simp only [Token.quotedText, htriple, decide_false, if_false, huntil]
  rfl

namespace Expr

/-- What pieces are written as between the quotes. -/
def piecesText (ps : List (Piece Expr)) : List CodePoint := (renderPieces ps).flatMap Prod.fst

theorem piecesText_cons (p : Piece Expr) (ps : List (Piece Expr)) :
    piecesText (p :: ps) = (renderPiece p).1 ++ piecesText ps := by
  rw [piecesText, renderPieces, List.flatMap_cons, piecesText]

theorem doubleBraces_append (points further : List CodePoint) :
    doubleBraces (points ++ further) = doubleBraces points ++ doubleBraces further :=
  List.flatMap_append

/-- Joining texts changes nothing in what is written. -/
theorem piecesText_joinTexts (ps : List (Piece Expr)) : piecesText (joinTexts ps) = piecesText ps := by
  induction ps with
  | nil => rfl
  | cons p ps ih =>
      cases p with
      | text s =>
          rw [piecesText_cons, ← ih, joinTexts]
          split
          · rename_i h
            rw [h, piecesText_cons, piecesText_cons, renderPiece, renderPiece, renderPiece,
              CodePoint.ofString_append, doubleBraces_append, List.append_assoc]
          · rename_i h
            rw [h, piecesText_cons, piecesText_cons, renderPiece, renderPiece, renderPiece,
              BrokenText.points_prepend, doubleBraces_append, List.append_assoc]
            rfl
          · split
            · rename_i hs
              simp [hs, renderPiece, doubleBraces, CodePoint.ofString]
            · rw [piecesText_cons]
      | brokenText t =>
          rw [piecesText_cons, ← ih, joinTexts]
          split
          · rename_i h
            rw [h, piecesText_cons, piecesText_cons, renderPiece, renderPiece, renderPiece,
              BrokenText.points_append, doubleBraces_append, List.append_assoc]
          · rename_i h
            rw [h, piecesText_cons, piecesText_cons, renderPiece, renderPiece, renderPiece,
              BrokenText.points_append, doubleBraces_append, List.append_assoc]
          · rw [piecesText_cons]
      | field value conversion format =>
          rw [joinTexts, piecesText_cons, piecesText_cons, ih]
          all_goals simp

theorem renderPiece_glyph {g : Glyph} (h : g.IsPlain) :
    (renderPiece g.piece).1 = g.written.map .char := by
  cases g with
  | char c =>
      simp only [Glyph.piece, renderPiece, doubleBraces, Glyph.written, CodePoint.ofString,
        String.toList_singleton, List.map_cons, List.map_nil, List.flatMap_singleton,
        CodePoint.char.injEq]
      split <;> rfl
  | value name =>
      have hbrace : name.toList.head? ≠ some '\x7b' := by
        obtain ⟨c, cs, hcs, hc⟩ := Token.exists_cons_of_isPlainIdentifier h.1
        rw [hcs]
        rintro ⟨⟩
        exact absurd hc (by decide)
      simp [Glyph.piece, renderPiece, renderAt, renderFormat, hbrace, Glyph.written,
        CodePoint.ofString]

theorem isBare_of_isPlainNameChar {c : Char} (h : isPlainNameChar c = true) : IsBare c := by
  refine ⟨Token.isPrintable_of_isPlainNameChar h, ?_⟩
  simp only [List.mem_cons, List.not_mem_nil, or_false]
  rintro (rfl | rfl | rfl) <;> exact absurd h (by decide)

theorem isBare_of_mem_written {g : Glyph} (h : g.IsPlain) : ∀ c ∈ g.written, IsBare c := by
  cases g with
  | char c =>
      intro d hd
      rw [Glyph.written] at hd
      split at hd
      · simp only [List.mem_cons, List.not_mem_nil, or_false, or_self] at hd
        exact hd ▸ h
      · exact List.mem_singleton.mp hd ▸ h
  | value name =>
      have hbrace : IsBare '\x7b' ∧ IsBare '\x7d' := ⟨⟨by decide, by decide⟩, by decide, by decide⟩
      rw [Glyph.written, List.forall_mem_cons, List.forall_mem_append, List.forall_mem_singleton]
      exact ⟨hbrace.1, fun c hc => isBare_of_isPlainNameChar (Token.isPlainNameChar_of_mem h.1 c hc),
        hbrace.2⟩

section

variable {glyphs : List Glyph} (h : ∀ g ∈ glyphs, g.IsPlain)

include h

theorem piecesText_glyphs :
    piecesText (joinTexts (glyphs.map Glyph.piece)) =
      (glyphs.flatMap Glyph.written).map .char := by
  rw [piecesText_joinTexts]
  induction glyphs with
  | nil => rfl
  | cons g glyphs ih =>
      obtain ⟨hg, hglyphs⟩ := List.forall_mem_cons.mp h
      rw [List.map_cons, piecesText_cons, renderPiece_glyph hg, ih hglyphs, List.flatMap_cons,
        List.map_append]

theorem isBare_of_mem_glyphs : ∀ c ∈ glyphs.flatMap Glyph.written, IsBare c := by
  intro c hc
  obtain ⟨g, hg, hc⟩ := List.mem_flatMap.mp hc
  exact isBare_of_mem_written (h g hg) c hc

/-- Formatted text of plain glyphs stands in single quotes. -/
theorem toList_render_formatted :
    (formatted (joinTexts (glyphs.map Glyph.piece))).render.toList =
      'f' :: '\'' :: (glyphs.flatMap Glyph.written ++ ['\'']) := by
  have hquotes := narrowQuotes_of_bare (piecesText_glyphs h) (isBare_of_mem_glyphs h)
  rw [render, renderAt, quotedParts, hquotes]
  simp [allQuotes]

/-! ### Reading -/

theorem wordToken_formatted {rest : List Char} (hrest : Token.Breaks rest) :
    Token.wordToken ('f' :: '\'' :: (glyphs.flatMap Glyph.written ++ ['\'']) ++ rest) =
      some (.quoted ⟨false, false, true, false, glyphs.flatMap Glyph.written⟩, rest) := by
  have hquote : rest.head? ≠ some '\'' := fun hquote => (hrest _ hquote).2.1 rfl
  have hquoted := quotedText_of_bare (isBare_of_mem_glyphs h) hquote
  have htext : 'f' :: '\'' :: (glyphs.flatMap Glyph.written ++ ['\'']) ++ rest =
      'f' :: '\'' :: (glyphs.flatMap Glyph.written ++ '\'' :: rest) := by simp
  rw [htext]
  exact Token.wordToken_of_quotedText (by decide) (by decide) (.inl rfl) hquoted

theorem scan_formatted :
    Token.scan (formatted (joinTexts (glyphs.map Glyph.piece))).render.toList =
      if 0 ≤ Token.maxBrackets then
        some [.quoted ⟨false, false, true, false, glyphs.flatMap Glyph.written⟩]
      else none := by
  have hscans : Token.ScansTo ('f' :: '\'' :: (glyphs.flatMap Glyph.written ++ ['\'']) ++ [])
      [.quoted ⟨false, false, true, false, glyphs.flatMap Glyph.written⟩] 0 :=
    Token.scansTo_append (List.cons_ne_nil _ _)
      (fun rest hrest => Token.scans_word (by decide) (wordToken_formatted h hrest.1))
      Token.scansTo_nil
  have hscan := Token.scan_of_scansTo hscans (by simp; decide) Token.stops_nil
    fun fuel => Token.scanFrom.eq_3 ..
  rw [toList_render_formatted h]
  simpa using hscan

theorem atom_formatted {n : Nat} (hn : 3 ≤ n) :
    atom (upTo (n + 1)) [.quoted ⟨false, false, true, false, glyphs.flatMap Glyph.written⟩] =
      some (formatted (joinTexts (glyphs.map Glyph.piece)), []) := by
  obtain ⟨ps, hps, hjoin⟩ := formattedPieces_glyphs h fun name hname => fieldRule_name hname hn
  have hpieces : textPieces (upTo (n + 1)) ⟨false, false, true, false, glyphs.flatMap Glyph.written⟩ =
      some ps := hps
  change (oneOrMore quotedPiece >>= _) _ = _
  rw [bind_of_eq (oneOrMore_of_steps rfl (.nil rfl))]
  simp [quotedRun, hpieces, hjoin]
  rfl

/-- Formatted text of plain glyphs is read back as itself. -/
theorem read_formatted :
    read (formatted (joinTexts (glyphs.map Glyph.piece))).render =
      .ok (formatted (joinTexts (glyphs.map Glyph.piece))) := by
  have hafter : AfterType [] := by simp [AfterType]
  have hoperand := afterOperand_of_afterType hafter
  have hprintable : ∀ c ∈ (formatted (joinTexts (glyphs.map Glyph.piece))).render.toList,
      isPrintable c = true := by
    have hbody := isBare_of_mem_glyphs h
    rw [toList_render_formatted h]
    simp only [List.forall_mem_cons, List.forall_mem_append]
    exact ⟨by decide, by decide, fun c hc => (hbody c hc).1, by decide,
      List.forall_mem_nil _⟩
  have hlength : 3 ≤ (formatted (joinTexts (glyphs.map Glyph.piece))).render.toList.length := by
    rw [toList_render_formatted h]
    simp only [List.length_cons, List.length_append]
    omega
  have hprimary := primary_of_atom (atom_formatted h hlength)
    (.nil (trailer_of_afterOperand hoperand _))
  have hread := expressionRule_of_bitOrRule (by simp [startsType])
    (bitOrRule_of_steps (operand_of_primary (by simp [startsType]) hprimary hoperand)
      (.nil (operation_of_none (unionOperator_of_afterType hafter)))) hafter
  have hwhole := read_of_tokens hprintable (scan_formatted h) hread
  rwa [if_pos (Nat.zero_le _)] at hwhole

end

end Expr

end TypedClients.Code
