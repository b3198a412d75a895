import TypedClients.Proofs.Dispatch
import TypedClients.Proofs.EmittedPaths
import TypedClients.Proofs.PathTexts

/-!
# The constraints of path parameters

A parameter of a path may have a constraint in parentheses. It ends at the first closing one, also
where it opens others. So a constraint without parentheses of its own leaves no trace in the URL,
and of any other one the rest stays after the value.
-/
namespace TypedClients

open TypedClients.Text

/-! ### Balanced texts -/

/-- A text in which every parenthesis has its counterpart. -/
inductive Balanced : List Char → Prop
  | nil : Balanced []
  | char {c : Char} {rest : List Char} (hopen : c ≠ '(') (hclose : c ≠ ')')
      (hrest : Balanced rest) : Balanced (c :: rest)
  | group {inner rest : List Char} (hinner : Balanced inner) (hrest : Balanced rest) :
      Balanced ('(' :: (inner ++ ')' :: rest))

theorem Balanced.mem_close_iff {cs : List Char} (h : Balanced cs) : ')' ∈ cs ↔ '(' ∈ cs := by
  induction h with
  | nil => simp
  | char hopen hclose _ ih => simp [hopen.symm, hclose.symm, ih]
  | group _ _ _ _ => simp

theorem balanced_of_forall {cs : List Char} (h : ∀ c ∈ cs, c ≠ '(' ∧ c ≠ ')') : Balanced cs := by
  induction cs with
  | nil => exact .nil
  | cons c cs ih =>
      obtain ⟨hopen, hclose⟩ := h c List.mem_cons_self
      exact .char hopen hclose (ih fun d hd => h d (.tail _ hd))

/-! ### Parts with a constraint -/

/-- A part with parentheses after a name is a parameter of this name with what comes after them,
exactly if the name is plain and the parentheses enclose no closing one. -/
theorem ofText_parentheses_iff {name inner rest : List Char}
    (hline : '\n' ∉ ':' :: name ++ '(' :: (inner ++ ')' :: rest)) :
    PathPart.ofText (':' :: name ++ '(' :: (inner ++ ')' :: rest)) =
      .parameter (String.ofList name) (String.ofList rest) ↔
        isPlainIdentifier name ∧ ')' ∉ inner := by
  have hsplit : '(' :: (inner ++ ')' :: rest) = '(' :: (inner ++ [')']) ++ rest := by simp
  rw [hsplit] at hline ⊢
  constructor
  · intro h
    obtain ⟨name', dropped, ending, hnames, hdrop, hname, hending⟩ :=
      PathPart.ofText_eq_parameter hline h
    obtain rfl := String.ofList_injective hname
    obtain rfl := String.ofList_injective hending
    refine ⟨hnames.plain, ?_⟩
    have hdropped := List.append_cancel_right (List.append_cancel_left hnames.text)
    generalize hall : dropped = all at hdrop
    cases hdrop with
    | closed hinner =>
        rw [hall, List.cons.injEq] at hdropped
        rwa [List.append_cancel_right hdropped.2]
    | absent _ => cases hdropped.trans hall
  · rintro ⟨hplain, hinner⟩
    refine PathPart.ofText_of_names ⟨rfl, hplain, fun c hc => ?_⟩ (.closed hinner) hline
    cases hc
    decide

section

variable {τ : Type} [DeclaredType τ] {m : Method τ} {className : Option String} {type : TypeText}
  {path name ending : String}

/-- What a path without slashes has to be read as to be a single parameter. -/
theorem segments_eq_parameter_iff (hslash : '/' ∉ path.toList) (hbinds : m.Binds name type) :
    (m.segments className path).result = .ok [.parameter name type ending] ↔
      PathPart.ofText path.toList = .parameter name ending := by
  rw [Method.segments, bindSegments_eq_ok_iff, pathParts, splitOn_eq_singleton hslash]
  constructor
  · intro h
    cases h with
    | cons hfills _ =>
        generalize PathPart.ofText path.toList = part at hfills
        cases hfills
        rfl
  · intro h
    rw [List.map_singleton, h]
    exact .cons (.parameter hbinds) .nil

end

namespace Evaluation

open TypedClients.Client

variable {α : Type} [DecidableEq α] {rt : Runtime α} {scope : Scope α}

/-- The URL for a path of one parameter is the value with the ending after it. -/
theorem eval_url_parameter {n : String} {value : Value α} (h : scope.find? n = some value)
    (more : List String) (name : String) (type : TypeText) (ending : String) :
    eval rt scope (url (n :: more) [.parameter name type ending]) =
      pure (.text (rt.shown value ++ ending)) := by
  have hparts : [UrlPart.text "/"].intercalate
      (pathUrlParts (n :: more) [.parameter name type ending]) = [.value n, .text ending] := by
    cases more <;> simp [pathUrlParts]
  rw [url, hparts, eval_concatenation (by simp [h])]
  simp [partText, h]

end Evaluation

section

variable {τ : Type} [DeclaredType τ] {m : Method τ} {className : Option String} {type : TypeText}
  {name : String}

theorem segments_parentheses_iff {inner rest : String}
    (hslash : '/' ∉ (":" ++ name ++ "(" ++ inner ++ ")" ++ rest).toList)
    (hline : '\n' ∉ (":" ++ name ++ "(" ++ inner ++ ")" ++ rest).toList)
    (hbinds : m.Binds name type) :
    (m.segments className (":" ++ name ++ "(" ++ inner ++ ")" ++ rest)).result =
      .ok [.parameter name type rest] ↔ isPlainIdentifier name.toList ∧ ')' ∉ inner.toList := by
  have htext : (":" ++ name ++ "(" ++ inner ++ ")" ++ rest).toList =
      ':' :: name.toList ++ '(' :: (inner.toList ++ ')' :: rest.toList) := by simp
  rw [segments_eq_parameter_iff hslash hbinds, htext, ← ofText_parentheses_iff (htext ▸ hline),
    String.ofList_toList, String.ofList_toList]

/-- A path of one parameter with balanced parentheses after its name is read as this parameter
without the parentheses exactly if the name is plain and they enclose no others. In any case the
constraint ends at the first closing parenthesis, and what comes after it is in the URL. -/
theorem segments_of_constraint (m : Method τ) (className : Option String) {name r t : String}
    {type : TypeText} (hname : isIdentifier name.toList) (hbinds : m.Binds name type)
    (hbalanced : Balanced r.toList) (hr : '/' ∉ r.toList ∧ '\n' ∉ r.toList)
    (ht : '/' ∉ t.toList ∧ '\n' ∉ t.toList) :
    ((m.segments className (":" ++ name ++ "(" ++ r ++ ")" ++ t)).result =
        .ok [.parameter name type t] ↔ isPlainIdentifier name.toList ∧ '(' ∉ r.toList) ∧
    (isPlainIdentifier name.toList → ∃ inner rest : String,
      r ++ ")" ++ t = inner ++ ")" ++ rest ∧ ')' ∉ inner.toList ∧
      (m.segments className (":" ++ name ++ "(" ++ r ++ ")" ++ t)).result =
        .ok [.parameter name type rest] ∧
      ∀ (α : Type) [DecidableEq α] (rt : Evaluation.Runtime α) (scope : Evaluation.Scope α)
        (n : String) (more : List String) (value : Evaluation.Value α),
        scope.find? n = some value →
        Evaluation.eval rt scope (Client.url (n :: more) [.parameter name type rest]) =
          pure (.text (rt.shown value ++ rest))) := by
  have hslash : '/' ∉ (":" ++ name ++ "(" ++ r ++ ")" ++ t).toList := by
    have hfree : '/' ∉ name.toList := not_mem_of_isIdentifier hname (by decide) (by decide)
    simp [hfree, hr.1, ht.1]
  have hline : '\n' ∉ (":" ++ name ++ "(" ++ r ++ ")" ++ t).toList := by
    have hfree : '\n' ∉ name.toList := not_mem_of_isIdentifier hname (by decide) (by decide)
    simp [hfree, hr.2, ht.2]
  refine ⟨?_, fun hplain => ?_⟩
  · rw [segments_parentheses_iff hslash hline hbinds, hbalanced.mem_close_iff]
  · obtain ⟨inner, rest, hsplit, hinner⟩ := List.eq_append_cons_of_mem
      (List.mem_append_right r.toList (List.mem_cons_self (a := ')') (l := t.toList)))
    have htail : r ++ ")" ++ t = String.ofList inner ++ ")" ++ String.ofList rest := by
      rw [← String.toList_inj]
      simpa using hsplit
    have hpath : ":" ++ name ++ "(" ++ r ++ ")" ++ t =
        ":" ++ name ++ "(" ++ String.ofList inner ++ ")" ++ String.ofList rest := by
      rw [← String.toList_inj]
      simpa using hsplit
    refine ⟨String.ofList inner, String.ofList rest, htail, by simpa using hinner, ?_, ?_⟩
    · rw [hpath] at hslash hline ⊢
      exact (segments_parentheses_iff hslash hline hbinds).mpr ⟨hplain, by simpa using hinner⟩
    · intro α _ rt scope n more value hvalue
      exact Evaluation.eval_url_parameter hvalue more name type _

end

/-! ### Constraints with and without a group -/

theorem balanced_group : Balanced "(a|b)".toList :=
  @Balanced.group "a|b".toList [] (balanced_of_forall (by simp)) .nil

theorem segments_of_constraint_findById :
    isIdentifier "id".toList ∧ findById.Binds "id" ⟨"int", []⟩ ∧ Balanced "\\d+".toList ∧
      Balanced "(a|b)".toList ∧
      (findById.segments none ":id(\\d+).json").result =
        .ok [.parameter "id" ⟨"int", []⟩ ".json"] ∧
      (findById.segments none ":id((a|b))").result ≠ .ok [.parameter "id" ⟨"int", []⟩ ""] := by
  have hname : isIdentifier "id".toList := by decide
  have hdigits : Balanced "\\d+".toList := balanced_of_forall (by simp)
  have hjson : '/' ∉ ".json".toList ∧ '\n' ∉ ".json".toList := by decide
  have hempty : '/' ∉ "".toList ∧ '\n' ∉ "".toList := by decide
  have hflat := segments_of_constraint findById none hname binds_findById hdigits (by decide) hjson
  have hnested :=
    segments_of_constraint findById none hname binds_findById balanced_group (by decide) hempty
  refine ⟨hname, binds_findById, hdigits, balanced_group, hflat.1.mpr (by decide), fun h => ?_⟩
  exact absurd (hnested.1.mp h).2 (by decide)

/-- Not all of a constraint with balanced parentheses is left out. -/
theorem not_segments_of_constraint :
    ¬ ∀ (m : Method DescribedType) (className : Option String) (name r t : String)
      (type : TypeText), isIdentifier name.toList → m.Binds name type → Balanced r.toList →
      ('/' ∉ r.toList ∧ '\n' ∉ r.toList) → ('/' ∉ t.toList ∧ '\n' ∉ t.toList) →
      (m.segments className (":" ++ name ++ "(" ++ r ++ ")" ++ t)).result =
        .ok [.parameter name type t] := by
  intro hall
  have hsegments := hall findById none "id" "(a|b)" "" ⟨"int", []⟩ (by decide) binds_findById
    balanced_group (by decide) (by decide)
  have hactual : (findById.segments none (":" ++ "id" ++ "(" ++ "(a|b)" ++ ")" ++ "")).result =
      .ok [.parameter "id" ⟨"int", []⟩ ")"] := rfl
  simpa using hactual.symm.trans hsegments

end TypedClients
