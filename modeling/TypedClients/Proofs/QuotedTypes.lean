import Mathlib.Logic.Relation
import TypedClients.Proofs.ReadTexts
import TypedClients.Proofs.TagPlaces
import TypedClients.Proofs.WrittenTypes

/-!
# Quoted types

A type that is quoted needs what it needs unquoted: `imports_of_quoted`. A part of a type may be quoted by
any text that is read as that part, and parts of what comes out of this again. The search for names reads
what it finds quoted, and as what a text quotes is shorter than the text, it needs no bound to come to an
end: `quotedNames_eq`.
-/
namespace TypedClients

open TypedClients.Code

namespace Code.Expr

/-! ### The search comes to an end -/

/-- The names in a text that may quote a type. -/
def quotedTypeNames (q : Quotation) : List (Except Failure String) :=
  match q.read with
  | .error e => [.error e]
  | .ok none => []
  | .ok (some e) => e.referencedNames

theorem read_text_eq_some_iff {s : String} {e : Expr} :
    (Quotation.text s).read = .ok (some e) ↔ read s = .ok e := by
  simp only [Quotation.read]
  split <;> simp_all

/-- Only a text without surrogates is read as a type. -/
theorem exists_text_of_read {q : Quotation} {e : Expr} (h : q.read = .ok (some e)) :
    ∃ s, q = .text s ∧ read s = .ok e := by
  cases q with
  | text s => exact ⟨s, rfl, read_text_eq_some_iff.mp h⟩
  | broken => cases h

/-- A bound greater than the length of a text plays no part. -/
theorem quotedNames_eq {n : Nat} {q : Quotation} (h : q.length < n) :
    quotedNames n q = quotedTypeNames q := by
  obtain ⟨n, rfl⟩ : ∃ k, n = k + 1 := ⟨n - 1, by omega⟩
  rw [quotedNames, quotedTypeNames]
  rcases hread : q.read with f | _ | e
  · rfl
  · rfl
  · dsimp only
    rw [referencedNames, namesWith_eq_leaves, namesWith_eq_leaves]
    refine List.flatMap_congr fun leaf hleaf => ?_
    cases leaf with
    | name id => rfl
    | text r =>
        -- both bounds leave room for what stands in the quoted type, which is shorter than `q`
        have hless : r.length < q.length := by
          obtain ⟨s, rfl, hs⟩ := exists_text_of_read hread
          exact length_lt_of_read hs hleaf
        dsimp only [Leaf.names]
        rw [quotedNames_eq (show r.length < n by omega), quotedNames_eq (Nat.lt_succ_self r.length)]
termination_by q.length

/-- The names of a type are its own and those of the types that it quotes. -/
theorem referencedNames_eq (e : Expr) : e.referencedNames = e.namesWith .ok quotedTypeNames := by
  rw [referencedNames, show (fun q => quotedNames (q.length + 1) q) = quotedTypeNames from
    funext fun q => quotedNames_eq (Nat.lt_succ_self _)]

theorem referencedNames_of_quotation {v : Literal} {q : Quotation} (h : v.quotation? = some q) :
    (Expr.constant v).referencedNames = quotedTypeNames q := by
  rw [referencedNames_eq, namesWith, h]

/-! ### Quoting parts -/

/-- One part of a type, which may be the whole of it, gives way to a text that is read as that part. The
arguments of `Literal` stay. -/
inductive QuotesPart : Expr → Expr → Prop
  | whole {e : Expr} {s : String} (marked : Bool) (hread : read s = .ok e) :
      QuotesPart e (.constant (.text s marked))
  | value {value value' index : Expr} (hname : value.baseName? ≠ some valueType)
      (h : QuotesPart value value') : QuotesPart (.subscript value index) (.subscript value' index)
  | index {value index index' : Expr} (hname : value.baseName? ≠ some valueType)
      (h : QuotesPart index index') : QuotesPart (.subscript value index) (.subscript value index')
  | left {left left' right : Expr} (h : QuotesPart left left') :
      QuotesPart (.binary .bitOr left right) (.binary .bitOr left' right)
  | right {left right right' : Expr} (h : QuotesPart right right') :
      QuotesPart (.binary .bitOr left right) (.binary .bitOr left right')
  | tupleItem {before after : List Expr} {item item' : Expr} (h : QuotesPart item item') :
      QuotesPart (.tuple (before ++ item :: after)) (.tuple (before ++ item' :: after))
  | listItem {before after : List Expr} {item item' : Expr} (h : QuotesPart item item') :
      QuotesPart (.list (before ++ item :: after)) (.list (before ++ item' :: after))

section

variable {e e' : Expr}

theorem QuotesPart.baseName? (h : QuotesPart e e') : e'.baseName? = none := by
  cases h <;> rfl

/-- Quoting a part leaves the names as they are. -/
theorem QuotesPart.referencedNames_eq (h : QuotesPart e e') :
    e'.referencedNames = e.referencedNames := by
  induction h with
  | whole marked hread =>
      rw [referencedNames_of_quotation rfl, quotedTypeNames, read_text_eq_some_iff.mpr hread]
  | value hname h ih =>
      simp only [Expr.referencedNames_eq, namesWith, hname, h.baseName?] at ih ⊢
      simp [ih]
  | index hname _ ih =>
      simp only [Expr.referencedNames_eq, namesWith] at ih ⊢
      simp [ih, hname]
  | left _ ih | right _ ih =>
      simp only [Expr.referencedNames_eq, namesWith] at ih ⊢
      rw [ih]
  | tupleItem _ ih | listItem _ ih =>
      simp only [Expr.referencedNames_eq, namesWith, namesInAll_eq, List.flatMap_append,
        List.flatMap_cons] at ih ⊢
      rw [ih]

/-- A type that is no wrapper which adds tags does not become one. -/
theorem QuotesPart.isTagged_eq (h : QuotesPart e e') (he : e.isTagged = false) :
    e'.isTagged = false := by
  cases h with
  | @value value value' index hname h =>
      have hnone : value'.baseName? = none := h.baseName?
      unfold isTagged
      split
      · rename_i heq
        cases heq
        simp [hnone]
      · rfl
  | index hname h =>
      cases h with
      | @tupleItem before after item item' h => cases before <;> exact he
      | _ => rfl
  | _ => rfl

end

/-! ### Quoting again and again -/

section

variable {t t' : Expr} (h : Relation.ReflTransGen QuotesPart t t')

include h

theorem referencedNames_of_quoted : t'.referencedNames = t.referencedNames := by
  induction h with
  | refl => rfl
  | tail _ hstep ih => rw [hstep.referencedNames_eq, ih]

theorem isTagged_of_quoted (ht : t.isTagged = false) : t'.isTagged = false := by
  induction h with
  | refl => exact ht
  | tail _ hstep ih => exact hstep.isTagged_eq ih

end

end Code.Expr

namespace SourceType

theorem imports_ofExpr (e : Expr) (m : SourceModule) (project : Option SourceProject)
    (he : e.isTagged = false) :
    (ofExpr (some e) m project).imports = importsFor m [] e.referencedNames := by
  rw [imports, ofExpr, Option.map_some, Expr.untagged_of_isTagged he]

/-- The fields of a quoted type are those of the type. -/
theorem field?_of_quoted {m : SourceModule} {project : Option SourceProject} {e : Expr} {s : String}
    (he : e.isTagged = false) (htext : e.quotation? = none) (hread : Expr.read s = .ok e) (marked : Bool)
    (field : String) :
    (ofExpr (some (.constant (.text s marked))) m project).field? field =
      (ofExpr (some e) m project).field? field := by
  have hquoted : (Quotation.text s).read = .ok (some e) := Expr.read_text_eq_some_iff.mpr hread
  have hclass : classOf project m (.constant (.text s marked)) = classOf project m e := by
    have htext' : (Expr.constant (.text s marked)).quotation? = some (.text s) := rfl
    simp only [classOf, htext, htext', hquoted]
    rfl
  simp only [field?, ofExpr, Option.map_some, Expr.untagged_of_isTagged he, Expr.untagged, hclass]

/-- Quoting the parts of a type, again and again, leaves its imports as they are, and quoting it as a
whole its fields. The text that a part is written with is one that it may be quoted by. -/
theorem imports_of_quoted (m : SourceModule) (project : Option SourceProject) {t t' : Expr}
    (ht : t.isTagged = false) (h : Relation.ReflTransGen Expr.QuotesPart t t') :
    (∀ s e, Expr.read s = .ok e → ∀ part, .text part ∈ e.leaves → part.length < s.length) ∧
    (∀ n s, s.length < n → Expr.quotedNames n s = Expr.quotedTypeNames s) ∧
    t'.referencedNames = t.referencedNames ∧
    (ofExpr (some t') m project).imports = (ofExpr (some t) m project).imports ∧
    (t.quotation? = none → ∀ s marked, Expr.read s = .ok t → t' = .constant (.text s marked) →
      ∀ field, (ofExpr (some t') m project).field? field =
        (ofExpr (some t) m project).field? field) ∧
    ∀ part text, part.IsType → part.IsReadable → part.write = .ok text →
      ∀ marked, Expr.QuotesPart part (.constant (.text text marked)) := by
  have hnames := Expr.referencedNames_of_quoted h
  refine ⟨fun s e hread part => Expr.length_lt_of_read hread, fun n s => Expr.quotedNames_eq, hnames,
    ?_, ?_, ?_⟩
  · rw [imports_ofExpr t' m project (Expr.isTagged_of_quoted h ht), imports_ofExpr t m project ht,
      hnames]
  · rintro htext s marked hread rfl field
    exact field?_of_quoted ht htext hread marked field
  · intro part text hpart hreadable htext marked
    obtain ⟨text', htext', hread⟩ := (Expr.exists_read_iff hpart).mpr hreadable
    cases htext.symm.trans htext'
    exact .whole marked hread

/-! ### A type quoted twice -/

/-- A module that defines a page and a team and imports a user. -/
def teams : SourceModule where
  name := ⟨"teams", false⟩
  path := "teams.py"
  body := [.importFrom (some "people") [{ name := "User" }] 0, .classDef [] "Page" [] [] [],
    .classDef [] "Team" [] [] []]

/-- A page of users and teams. -/
def memberPage : Expr := .subscript (.name "Page") (.binary .bitOr (.name "User") (.name "Team"))

/-- A page of users and teams, with the user quoted. -/
def quotedPage : Expr := .subscript (.name "Page") (.binary .bitOr (.string "User") (.name "Team"))

theorem imports_of_quoted_page :
    (ofExpr (some (.string "Page['User' | Team]")) teams none).imports =
      (ofExpr (some memberPage) teams none).imports ∧
    (ofExpr (some memberPage) teams none).imports.result =
      .ok [⟨"teams", some "Page", none⟩, ⟨"people", some "User", none⟩,
        ⟨"teams", some "Team", none⟩] := by
  have hname {id : String} (h : Expr.IsPlainName id) : Expr.IsType (.name id) := .dotted (.name h)
  have huser : Expr.read "User" = .ok (.name "User") := by
    have htype : Expr.IsType (.name "User") := hname (by decide)
    rw [Expr.read_of_write htype (by decide), if_pos (by decide)]
  have hpage : Expr.read "Page['User' | Team]" = .ok quotedPage := by
    have htype : Expr.IsType quotedPage :=
      .subscript (hname (by decide)) (.single (.type (.union (.text _ _) (hname (by decide)))))
    rw [Expr.read_of_write htype (by decide), if_pos (by decide)]
  have hsteps : Relation.ReflTransGen Expr.QuotesPart memberPage (.string "Page['User' | Team]") :=
    .tail (.single (.index (by decide) (.left (.whole false huser)))) (.whole false hpage)
  exact ⟨(imports_of_quoted teams none rfl hsteps).2.2.2.1, by decide⟩

end SourceType

end TypedClients
