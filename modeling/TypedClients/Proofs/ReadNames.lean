import Mathlib.Data.List.Nodup
import TypedClients.Proofs.QuotedTypes
import TypedClients.Proofs.TypeImports

/-!
# Names that are read in a type

The imports of a type are those of the names that a search along its parts comes to, quoted types
included: `imports_of_read_names`. Whoever reads the type reads the values of keyword arguments as well,
which the search passes over. A name that is read nowhere else has no import.
-/
namespace TypedClients

open TypedClients.Text TypedClients.Code

namespace Code.Expr

/-! ### What stands in an expression -/

/-- The parts of an expression that are read along with it: those that are searched for names, and the
values of keyword arguments. -/
def readParts : Expr → List Expr
  | .call callee args keywords => callee :: args ++ keywords.map (·.value)
  | e => e.searchedParts

/-- What stands in an expression, on a way along the given parts and through the types that are quoted
there. -/
inductive Within (parts : Expr → List Expr) (inner : Expr) : Expr → Prop
  | here : Within parts inner inner
  | part {e part : Expr} (hpart : part ∈ parts e) (h : Within parts inner part) :
      Within parts inner e
  | quoted {e : Expr} {v : Literal} {s : String} (hv : v.text? = some s) (hread : read s = .ok e)
      (h : Within parts inner e) : Within parts inner (.constant v)

section

variable {parts : Expr → List Expr} {inner middle e : Expr} {x : Except Failure String}

theorem mem_searchedParts_or_keyword {part : Expr} (h : part ∈ e.readParts) :
    part ∈ e.searchedParts ∨ ∃ callee args keywords, e = .call callee args keywords ∧
      ∃ k ∈ keywords, k.value = part := by
  cases e with
  | call callee args keywords =>
      rcases List.mem_append.mp h with h | h
      · exact .inl h
      · exact .inr ⟨callee, args, keywords, rfl, List.mem_map.mp h⟩
  | _ => exact .inl h

/-- What is read in an expression is searched, or stands in a keyword argument of a call that is
searched. -/
theorem Within.of_readParts (h : Within readParts inner e) :
    Within searchedParts inner e ∨ ∃ callee args keywords,
      Within searchedParts (.call callee args keywords) e ∧
        ∃ k ∈ keywords, Within readParts inner k.value := by
  induction h with
  | here => exact .inl .here
  | part hpart h ih =>
      rcases mem_searchedParts_or_keyword hpart with hpart | ⟨callee, args, keywords, rfl, k, hk, rfl⟩
      · refine ih.imp (.part hpart) ?_
        rintro ⟨callee, args, keywords, hcall, hk⟩
        exact ⟨callee, args, keywords, .part hpart hcall, hk⟩
      · exact .inr ⟨callee, args, keywords, .here, k, hk, h⟩
  | quoted hv hread _ ih =>
      refine ih.imp (.quoted hv hread) ?_
      rintro ⟨callee, args, keywords, hcall, hk⟩
      exact ⟨callee, args, keywords, .quoted hv hread hcall, hk⟩

/-! ### What a search gives -/

theorem mem_referencedNames_iff : x ∈ e.referencedNames ↔
    (∃ leaf ∈ e.ownLeaves, x ∈ leaf.names .ok quotedTypeNames) ∨
      ∃ part ∈ e.searchedParts, x ∈ part.referencedNames := by
  simp only [referencedNames_eq, namesWith_eq .ok quotedTypeNames e, List.mem_append,
    List.mem_flatMap]

/-- A text that cannot be read as a type or anything else, and why. -/
inductive Unreadable : Literal → Failure → Prop
  | null {s : String} (h : Char.ofNat 0 ∈ s.toList) (marked : Bool) :
      Unreadable (.text s marked) (.fault .nullCharacter)
  | broken (t : BrokenText) (marked : Bool) :
      Unreadable (.brokenText t marked) (.fault .surrogate)

theorem read_text_eq_error_iff {s : String} {f : Failure} :
    (Quotation.text s).read = .error f ↔ Char.ofNat 0 ∈ s.toList ∧ f = .fault .nullCharacter := by
  have hread : read s = .error .nullCharacter ↔ Char.ofNat 0 ∈ s.toList := by
    unfold read
    by_cases h : Char.ofNat 0 ∈ s.toList
    · simp [h]
    · simp only [List.contains_iff_mem, h, if_false, iff_false]
      split <;> simp
  rw [← hread, Quotation.read]
  rcases read s with (_ | _) | e <;> simp [eq_comm]

theorem unreadable_iff {v : Literal} {f : Failure} :
    Unreadable v f ↔ ∃ q, v.quotation? = some q ∧ q.read = .error f := by
  constructor
  · rintro (⟨h, -⟩ | -)
    · exact ⟨_, rfl, read_text_eq_error_iff.mpr ⟨h, rfl⟩⟩
    · exact ⟨_, rfl, rfl⟩
  · rintro ⟨q, hq, hread⟩
    cases v with
    | text s marked =>
        cases hq
        obtain ⟨hnull, rfl⟩ := read_text_eq_error_iff.mp hread
        exact .null hnull marked
    | brokenText t marked =>
        cases hq
        cases hread
        exact .broken t marked
    | _ => cases hq

/-- What an expression gives that is a name, or a text that cannot be read. -/
inductive GivesItself (x : Except Failure String) : Expr → Prop
  | name {id : String} (h : x = .ok id) : GivesItself x (.name id)
  | unread {v : Literal} {f : Failure} (hv : Unreadable v f) (h : x = .error f) :
      GivesItself x (.constant v)

theorem text?_of_quotation? {v : Literal} {s : String} (h : v.quotation? = some (.text s)) :
    v.text? = some s := by
  cases v <;> cases h
  rfl

theorem quotation?_of_text? {v : Literal} {s : String} (h : v.text? = some s) :
    v.quotation? = some (.text s) := by
  cases v <;> cases h
  rfl

/-- A search gives what stands in the expression and gives itself. -/
theorem mem_referencedNames_of_within (h : Within searchedParts inner e) (hx : GivesItself x inner) :
    x ∈ e.referencedNames := by
  induction h with
  | here =>
      cases hx with
      | name h => simp [referencedNames_eq, namesWith, h]
      | unread hv h =>
          obtain ⟨q, hq, hread⟩ := unreadable_iff.mp hv
          simp [referencedNames_of_quotation hq, quotedTypeNames, hread, h]
  | part hpart _ ih => exact mem_referencedNames_iff.mpr (.inr ⟨_, hpart, ih⟩)
  | quoted hv hread _ ih =>
      rw [referencedNames_of_quotation (quotation?_of_text? hv), quotedTypeNames,
        read_text_eq_some_iff.mpr hread]
      exact ih

/-- Along the parts of an expression, a search gives nothing but what stands there, if this is so of the
texts in it. -/
theorem exists_within_of_texts (e : Expr)
    (htexts : ∀ v q, v.quotation? = some q → .text q ∈ e.leaves → x ∈ quotedTypeNames q →
      ∃ inner, Within searchedParts inner (.constant v) ∧ GivesItself x inner)
    (hx : x ∈ e.referencedNames) : ∃ inner, Within searchedParts inner e ∧ GivesItself x inner := by
  rcases mem_referencedNames_iff.mp hx with ⟨leaf, hleaf, hx⟩ | ⟨part, hpart, hx⟩
  · cases e with
    | name id =>
        obtain rfl := List.mem_singleton.mp hleaf
        exact ⟨_, .here, .name (List.mem_singleton.mp hx)⟩
    | constant v =>
        obtain ⟨q, hq, rfl⟩ := Option.mem_map.mp (Option.mem_toList.mp hleaf)
        have hmem : Leaf.text q ∈ (Expr.constant v).leaves := by
          rw [leaves_eq]
          exact List.mem_append_left _ hleaf
        exact htexts v q hq hmem hx
    | _ => cases hleaf
  · have hleaves (leaf : Leaf) (h : leaf ∈ part.leaves) : leaf ∈ e.leaves := by
      rw [leaves_eq]
      exact List.mem_append_right _ (List.mem_flatMap.mpr ⟨part, hpart, h⟩)
    have hless := sizeOf_lt_of_mem_searchedParts hpart
    obtain ⟨inner, hinner, hgives⟩ :=
      exists_within_of_texts part (fun v q hv hq => htexts v q hv (hleaves _ hq)) hx
    exact ⟨inner, .part hpart hinner, hgives⟩
termination_by sizeOf e

/-- A text gives nothing but what stands in the type that it quotes, or is a text that cannot be
read. -/
theorem exists_within_of_text {v : Literal} {q : Quotation} (hv : v.quotation? = some q)
    (hx : x ∈ quotedTypeNames q) :
    ∃ inner, Within searchedParts inner (.constant v) ∧ GivesItself x inner := by
  rw [quotedTypeNames] at hx
  rcases hread : q.read with f | _ | e
  · rw [hread] at hx
    exact ⟨_, .here, .unread (unreadable_iff.mpr ⟨q, hv, hread⟩) (List.mem_singleton.mp hx)⟩
  · rw [hread] at hx
    cases hx
  · rw [hread] at hx
    obtain ⟨s, rfl, hread'⟩ := exists_text_of_read hread
    -- inside the quoted type the search goes by its parts, and back to here at shorter texts only
    obtain ⟨inner, hinner, hgives⟩ := exists_within_of_texts e (fun v' r hv' hr hx => by
      have hless : r.length < (Quotation.text s).length := length_lt_of_read hread' hr
      exact exists_within_of_text hv' hx) hx
    exact ⟨inner, .quoted (text?_of_quotation? hv) hread' hinner, hgives⟩
termination_by q.length

theorem mem_referencedNames_iff_within :
    x ∈ e.referencedNames ↔ ∃ inner, Within searchedParts inner e ∧ GivesItself x inner :=
  ⟨exists_within_of_texts e fun _ _ hv _ => exists_within_of_text hv,
    fun ⟨_, h, hx⟩ => mem_referencedNames_of_within h hx⟩

theorem ok_mem_referencedNames_iff {name : String} :
    .ok name ∈ e.referencedNames ↔ Within searchedParts (.name name) e := by
  rw [mem_referencedNames_iff_within]
  constructor
  · rintro ⟨inner, hinner, hgives⟩
    cases hgives with
    | name h =>
        cases h
        exact hinner
    | unread _ h => cases h
  · exact fun h => ⟨_, h, .name rfl⟩

theorem error_mem_referencedNames_iff {f : Failure} :
    .error f ∈ e.referencedNames ↔ ∃ v, Unreadable v f ∧ Within searchedParts (.constant v) e := by
  rw [mem_referencedNames_iff_within]
  constructor
  · rintro ⟨inner, hinner, hgives⟩
    cases hgives with
    | name h => cases h
    | @unread v _ hv h =>
        cases h
        exact ⟨v, hv, hinner⟩
  · exact fun ⟨v, hv, hinner⟩ => ⟨_, hinner, .unread hv rfl⟩

end

end Code.Expr

/-! ### Names at the top level of a module -/

/-- The names that a statement binds in its module: those of its imports and those that it defines. -/
def SourceModule.boundNames (m : SourceModule) (stmt : Stmt) : List String :=
  (importedNames m.name stmt).map (·.1) ++ (importedModules stmt).map (·.1) ++ stmt.definedNames

namespace SourceType

/-- A name has a reference exactly where a statement at the top level binds it. -/
theorem isSome_reference?_iff (m : SourceModule) (name : String) :
    (reference? m name).isSome ↔ ∃ stmt ∈ m.body, name ∈ m.boundNames stmt := by
  have hnames : (m.nameImports.get? name).isSome ↔
      name ∈ (m.body.flatMap (SourceModule.importedNames m.name)).map (·.1) :=
    (Dictionary.isSome_get?_foldl_insert _ [] name).trans (by simp)
  have hmodules : (m.moduleImports.get? name).isSome ↔
      name ∈ (m.body.flatMap SourceModule.importedModules).map (·.1) :=
    (Dictionary.isSome_get?_foldl_insert _ [] name).trans (by simp)
  have hbound : (∃ stmt ∈ m.body, name ∈ m.boundNames stmt) ↔
      (m.nameImports.get? name).isSome ∨ (m.moduleImports.get? name).isSome ∨
        name ∈ m.definitions := by
    rw [hnames, hmodules, List.map_flatMap, List.map_flatMap, SourceModule.definitions]
    simp only [SourceModule.boundNames, List.mem_append, List.mem_flatMap, and_or_left, exists_or,
      or_assoc]
  rw [hbound, reference?]
  cases m.nameImports.get? name with
  | some origin => simp
  | none =>
      cases m.moduleImports.get? name with
      | some origin => simp
      | none => by_cases h : name ∈ m.definitions <;> simp [h]

theorem exists_error_of_mem (m : SourceModule) (found : List ImportRef)
    {names : List (Except Failure String)} {f : Failure} (h : .error f ∈ names) :
    ∃ g, (importsFor m found names).result = .error g := by
  induction names generalizing found with
  | nil => cases h
  | cons head names ih =>
      cases head with
      | error g => exact ⟨g, rfl⟩
      | ok name =>
          have hmem : .error f ∈ names := by simpa using h
          rw [importsFor, Traced.bind_result, importFor_result]
          cases reference? m name with
          | none => exact ih _ hmem
          | some ref => exact ih _ hmem

theorem nodup_importsFor {m : SourceModule} {found refs : List ImportRef}
    {names : List (Except Failure String)} (hfound : found.Nodup)
    (h : (importsFor m found names).result = .ok refs) : refs.Nodup := by
  induction names generalizing found with
  | nil =>
      cases h
      exact hfound
  | cons head names ih =>
      cases head with
      | error g => cases h
      | ok name =>
          rw [importsFor, Traced.bind_result, importFor_result] at h
          cases hreference : reference? m name with
          | none =>
              rw [hreference] at h
              exact ih hfound h
          | some ref =>
              rw [hreference] at h
              refine ih ?_ h
              split
              · exact hfound
              · rename_i hnew
                rw [← List.concat_eq_append]
                exact List.Nodup.concat hnew hfound

/-- The imports of a type fail exactly where it quotes a text that cannot be read, for a null character
or for a surrogate. Otherwise they are the references of the names that stand in it, outside the
arguments of `Literal` and of keywords, each once. A name that a statement of the module binds is
missing only if it is read in keyword arguments alone. -/
theorem imports_of_read_names (m : SourceModule) (project : Option SourceProject) (e : Expr) :
    (∀ f, (ofExpr (some e) m project).imports.result = .error f →
      ∃ v, Expr.Unreadable v f ∧ Expr.Within Expr.searchedParts (.constant v) e.untagged) ∧
    (∀ v f, Expr.Unreadable v f → Expr.Within Expr.searchedParts (.constant v) e.untagged →
      ∃ g, (ofExpr (some e) m project).imports.result = .error g) ∧
    ∀ refs, (ofExpr (some e) m project).imports.result = .ok refs →
      refs.Nodup ∧
      (∀ r, r ∈ refs ↔ ∃ name, Expr.Within Expr.searchedParts (.name name) e.untagged ∧
        reference? m name = some r) ∧
      ∀ name, (∃ stmt ∈ m.body, name ∈ m.boundNames stmt) →
        Expr.Within Expr.readParts (.name name) e.untagged →
        (∃ r ∈ refs, reference? m name = some r) ∨
          ∃ callee args keywords,
            Expr.Within Expr.searchedParts (.call callee args keywords) e.untagged ∧
              ∃ k ∈ keywords, Expr.Within Expr.readParts (.name name) k.value := by
  have himports : (ofExpr (some e) m project).imports =
      importsFor m [] e.untagged.referencedNames := rfl
  rw [himports]
  refine ⟨fun f hf => ?_, fun v f hv hwithin => ?_, fun refs hrefs => ?_⟩
  · exact Expr.error_mem_referencedNames_iff.mp (importsFor_error hf)
  · exact exists_error_of_mem m [] (Expr.error_mem_referencedNames_iff.mpr ⟨v, hv, hwithin⟩)
  · have hmem (r : ImportRef) : r ∈ refs ↔
        ∃ name, Expr.Within Expr.searchedParts (.name name) e.untagged ∧ reference? m name = some r := by
      simpa [Expr.ok_mem_referencedNames_iff] using importsFor_eq_ok hrefs r
    refine ⟨nodup_importsFor List.nodup_nil hrefs, hmem, fun name hbound hread => ?_⟩
    refine hread.of_readParts.imp_left fun hsearched => ?_
    obtain ⟨r, hr⟩ := Option.isSome_iff_exists.mp ((isSome_reference?_iff m name).mpr hbound)
    exact ⟨r, (hmem r).mpr ⟨name, hsearched, hr⟩, hr⟩

/-! ### A name that only a keyword argument has -/

/-- A module that imports a user and what forms are made of. -/
def forms : SourceModule where
  name := ⟨"forms", false⟩
  path := "forms.py"
  body := [.importFrom (some "fields") [{ name := "Form" }, { name := "Field" }] 0,
    .importFrom (some "people") [{ name := "User" }] 0]

/-- A form with a field that a user is the value of by default. -/
def userForm : Expr :=
  .subscript (.name "Form") (.call (.name "Field") [] [⟨some "default", .name "User"⟩])

theorem within_userForm : Expr.Within Expr.readParts (.name "User") userForm :=
  .part (.tail _ (.head _)) (.part (.tail _ (.head _)) .here)

theorem imports_userForm : (ofExpr (some userForm) forms none).imports.result =
    .ok [⟨"fields", some "Form", none⟩, ⟨"fields", some "Field", none⟩] := by
  decide

theorem imports_of_read_names_form : ∃ refs,
    (ofExpr (some userForm) forms none).imports.result = .ok refs ∧ refs.Nodup ∧
    (∃ stmt ∈ forms.body, "User" ∈ forms.boundNames stmt) ∧
    Expr.Within Expr.readParts (.name "User") userForm.untagged ∧
    ((∃ r ∈ refs, reference? forms "User" = some r) ∨ ∃ callee args keywords,
      Expr.Within Expr.searchedParts (.call callee args keywords) userForm.untagged ∧
        ∃ k ∈ keywords, Expr.Within Expr.readParts (.name "User") k.value) := by
  have hbound : ∃ stmt ∈ forms.body, "User" ∈ forms.boundNames stmt :=
    ⟨_, .tail _ (.head _), by decide⟩
  obtain ⟨hnodup, -, hread⟩ := (imports_of_read_names forms none userForm).2.2 _ imports_userForm
  exact ⟨_, imports_userForm, hnodup, hbound, within_userForm, hread "User" hbound within_userForm⟩

/-- A name that only a keyword argument has is not imported. -/
theorem not_imports_of_read_names : ¬ ∀ (m : SourceModule) (project : Option SourceProject) (e : Expr)
    (refs : List ImportRef) (name : String),
      (ofExpr (some e) m project).imports.result = .ok refs →
      (∃ stmt ∈ m.body, name ∈ m.boundNames stmt) →
      Expr.Within Expr.readParts (.name name) e.untagged →
      ∃ r ∈ refs, reference? m name = some r := by
  intro h
  obtain ⟨r, hr, hreference⟩ := h forms none userForm _ "User" imports_userForm
    ⟨_, .tail _ (.head _), by decide⟩ within_userForm
  have huser : reference? forms "User" = some ⟨"people", some "User", none⟩ := by decide
  cases huser.symm.trans hreference
  revert hr
  decide

end SourceType

end TypedClients
