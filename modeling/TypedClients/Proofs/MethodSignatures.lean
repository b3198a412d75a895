import TypedClients.Proofs.ClientTypes
import TypedClients.Proofs.FaultOrigins
import TypedClients.Proofs.Dispatch
import TypedClients.Proofs.JoinedTexts

/-!
# The signatures of client methods

A method has the instance, the values of its route and the options as its parameters. The values get
names in two steps: a name is made of their text, and an underscore is put after a name that the
method uses itself. Either step can make two names the same. `method_signature` says that a method
is there exactly if all names differ, and that a value then has one name everywhere in it.
-/
namespace TypedClients.Client

open TypedClients.Code

/-! ### Names that differ -/

theorem exists_bindingName {text : String} (h : text ≠ "") :
    ∃ name, bindingName text = .ok name := by
  cases hname : bindingName text with
  | ok name => exact ⟨name, rfl⟩
  | error e =>
      rcases bind_eq_error_iff.mp hname with herror | ⟨plain, -, herror⟩
      · rw [parameterName, if_neg h] at herror
        cases herror
      · cases herror

/-- The name of a value as its text alone gives it. -/
def HasName (b : Binding) (name : String) : Prop := bindingName b.name = .ok name

theorem exists_names {bs : List Binding} (h : ∀ b ∈ bs, b.name ≠ "") :
    ∃ names, List.Forall₂ HasName bs names := by
  induction bs with
  | nil => exact ⟨[], .nil⟩
  | cons b bs ih =>
      obtain ⟨hb, hbs⟩ := List.forall_mem_cons.mp h
      obtain ⟨name, hname⟩ := exists_bindingName hb
      obtain ⟨names, hnames⟩ := ih hbs
      exact ⟨name :: names, .cons hname hnames⟩

theorem bindingNames_of_nodup (place : String) {used names : List String} {bs : List Binding}
    (hnames : List.Forall₂ HasName bs names) (hnodup : names.Nodup)
    (hfresh : ∀ name ∈ names, name ∉ used) : bindingNames place used bs = .ok names := by
  induction hnames generalizing used with
  | nil => rfl
  | @cons b name bs names hname _ ih =>
      obtain ⟨hnot, hnodup⟩ := List.nodup_cons.mp hnodup
      obtain ⟨hnew, hfresh⟩ := List.forall_mem_cons.mp hfresh
      refine bind_eq_ok_iff.mpr ⟨name, hname, ?_⟩
      rw [if_neg hnew]
      refine bind_eq_ok_iff.mpr ⟨names, ih hnodup fun other hother => ?_, rfl⟩
      rw [List.mem_cons, not_or]
      exact ⟨fun heq => hnot (heq ▸ hother), hfresh other hother⟩

/-- The names end at the first one that was there before. -/
theorem bindingNames_of_repetition (place : String) {used before after : List String}
    {name : String} {bs : List Binding}
    (hnames : List.Forall₂ HasName bs (before ++ name :: after)) (hnodup : before.Nodup)
    (hfresh : ∀ other ∈ before, other ∉ used) (hname : name ∈ used ∨ name ∈ before) :
    bindingNames place used bs =
      .error (.reported (.generation (.duplicateParameter name) (some place) none)) := by
  induction before generalizing used bs with
  | nil =>
      obtain ⟨b, bs, hb, -, rfl⟩ := List.forall₂_cons_right_iff.mp hnames
      refine bind_eq_error_iff.mpr (.inr ⟨name, hb, ?_⟩)
      rw [if_pos (hname.resolve_right List.not_mem_nil)]
  | cons first before ih =>
      obtain ⟨b, bs, hb, hbs, rfl⟩ := List.forall₂_cons_right_iff.mp hnames
      obtain ⟨hnot, hnodup⟩ := List.nodup_cons.mp hnodup
      obtain ⟨hnew, hfresh⟩ := List.forall_mem_cons.mp hfresh
      refine bind_eq_error_iff.mpr (.inr ⟨first, hb, ?_⟩)
      rw [if_neg hnew]
      refine bind_eq_error_iff.mpr (.inl (ih hbs hnodup (fun other hother => ?_) ?_))
      · rw [List.mem_cons, not_or]
        exact ⟨fun heq => hnot (heq ▸ hother), hfresh other hother⟩
      · rw [List.mem_cons] at hname ⊢
        tauto

theorem exists_first_repetition {α : Type} {xs : List α} (h : ¬ xs.Nodup) :
    ∃ before x after, xs = before ++ x :: after ∧ before.Nodup ∧ x ∈ before := by
  induction xs using List.reverseRecOn with
  | nil => exact absurd List.nodup_nil h
  | append_singleton xs x ih =>
      by_cases hnodup : xs.Nodup
      · refine ⟨xs, x, [], rfl, hnodup, ?_⟩
        by_contra hx
        exact h (List.nodup_append_comm.mp (List.nodup_cons.mpr ⟨hx, hnodup⟩))
      · obtain ⟨before, y, after, rfl, hbefore, hy⟩ := ih hnodup
        exact ⟨before, y, after ++ [x], by simp, hbefore, hy⟩

/-! ### Names in the URL and the request -/

/-- The name whose value a part stands for. -/
def UrlPart.name? : UrlPart → Option String
  | text _ => none
  | value name => some name

/-- The names in an expression, in order. -/
def namesIn (e : Expr) : List String := e.namesWith id fun _ => []

theorem namesInPieces_joinTexts (pieces : List (Piece Expr)) :
    Expr.namesInPieces id (fun _ => []) (joinTexts pieces) =
      (Expr.namesInPieces id (fun _ => []) pieces : List String) := by
  fun_induction joinTexts pieces with
  | case1 => rfl
  | case2 s ps t rest hjoin ih | case3 s ps t rest hjoin ih | case6 t ps s rest hjoin ih
  | case7 t ps u rest hjoin ih => rwa [hjoin] at ih
  | case4 ps _ _ ih => exact ih
  | case5 s ps _ _ _ ih => exact ih
  | case8 t ps _ _ ih => exact ih
  | case9 p ps _ _ ih => rw [Expr.namesInPieces, Expr.namesInPieces, ih]

theorem namesInPieces_map_piece (parts : List UrlPart) :
    Expr.namesInPieces id (fun _ => []) (parts.map UrlPart.piece) =
      parts.filterMap UrlPart.name? := by
  induction parts with
  | nil => rfl
  | cons part parts ih =>
      rw [List.map_cons, Expr.namesInPieces, ih]
      cases part with
      | text s => rfl
      | value name => rfl

theorem filterMap_name?_of_texts {parts : List UrlPart} {texts : List String}
    (h : parts.mapM UrlPart.text? = some texts) : parts.filterMap UrlPart.name? = [] := by
  refine List.filterMap_eq_nil_iff.mpr fun part hpart => ?_
  cases part with
  | text s => rfl
  | value name =>
      have hnone : parts.mapM UrlPart.text? = none := mapM_eq_none_iff.mpr ⟨_, hpart, rfl⟩
      cases hnone.symm.trans h

theorem namesIn_concatenation (parts : List UrlPart) :
    namesIn (concatenation parts) = parts.filterMap UrlPart.name? := by
  unfold concatenation namesIn
  split
  · rename_i texts htexts
    rw [filterMap_name?_of_texts htexts, Expr.string, Expr.namesWith]
    split <;> rfl
  · rw [Expr.namesWith, namesInPieces_joinTexts, namesInPieces_map_piece]

theorem filterMap_name?_intercalate (s : String) (groups : List (List UrlPart)) :
    ([UrlPart.text s].intercalate groups).filterMap UrlPart.name? =
      groups.flatMap (·.filterMap UrlPart.name?) := by
  induction groups with
  | nil => rfl
  | cons group groups ih =>
      cases groups with
      | nil => simp
      | cons next groups =>
          rw [List.intercalate_cons_cons, List.filterMap_append, List.filterMap_append, ih,
            List.append_assoc]
          rfl

/-- The names of a path's parameters stand in the path in their order. Further names are not used.
-/
theorem pathUrlParts_append (more : List String) {names : List String}
    {segments : List PathSegment}
    (hlength : names.length = (segments.filterMap PathSegment.binding?).length) :
    pathUrlParts (names ++ more) segments = pathUrlParts names segments ∧
      (pathUrlParts names segments).flatMap (·.filterMap UrlPart.name?) = names := by
  induction segments generalizing names with
  | nil =>
      obtain rfl := List.length_eq_zero_iff.mp hlength
      cases more <;> exact ⟨rfl, rfl⟩
  | cons segment segments ih =>
      cases segment with
      | literal s =>
          obtain ⟨happend, hnames⟩ := ih hlength
          exact ⟨by rw [pathUrlParts, pathUrlParts, happend], hnames⟩
      | parameter n type ending =>
          obtain ⟨name, names, rfl⟩ := List.exists_cons_of_length_eq_add_one hlength
          obtain ⟨happend, hnames⟩ := ih (Nat.succ.inj hlength)
          refine ⟨by rw [List.cons_append, pathUrlParts, pathUrlParts, happend], ?_⟩
          rw [pathUrlParts, List.flatMap_cons, hnames]
          rfl

theorem url_eq {r : Route} {names : RouteParts String} (h : names.Fits r) :
    url names.all r.segments = url names.path r.segments := by
  rw [url, url, RouteParts.all, List.append_assoc, (pathUrlParts_append _ h.path).1]

theorem namesIn_url {r : Route} {names : RouteParts String} (h : names.Fits r) :
    namesIn (url names.path r.segments) = names.path := by
  rw [url, namesIn_concatenation, filterMap_name?_intercalate]
  exact (pathUrlParts_append [] h.path).2

theorem namesIn_requestExpr (verb : Verb) (names : RouteParts String) :
    namesIn (requestExpr verb names) =
      optionsName :: urlName :: (names.body.toList ++ names.query.toList) := by
  obtain ⟨path, body, query⟩ := names
  cases body <;> cases query <;> rfl

/-! ### The method -/

theorem readType_of_read {t : TypeText} {e : Expr} (h : Expr.read t.text = .ok e) :
    readType t = .ok e := by
  rw [readType, h]

/-- A parameter without a default has the type of a value as its hint. -/
def HasTypeOf (p : Param Expr) (b : Binding) : Prop :=
  ∃ e, Expr.read b.type.text = .ok e ∧ p.hint = some e ∧ p.default = none

theorem exists_bindingParams_of_read {bs : List Binding}
    (h : ∀ b ∈ bs, ∃ e, Expr.read b.type.text = .ok e) {names : List String}
    (hlength : names.length = bs.length) :
    ∃ params, bindingParams names bs = .ok params ∧ List.Forall₂ HasTypeOf params bs := by
  induction bs generalizing names with
  | nil =>
      obtain rfl := List.length_eq_zero_iff.mp hlength
      exact ⟨[], rfl, .nil⟩
  | cons b bs ih =>
      obtain ⟨⟨e, he⟩, hbs⟩ := List.forall_mem_cons.mp h
      obtain ⟨name, names, rfl⟩ := List.exists_cons_of_length_eq_add_one hlength
      obtain ⟨params, hparams, htypes⟩ := ih hbs (Nat.succ.inj hlength)
      refine ⟨_, bind_eq_ok_iff.mpr ⟨e, readType_of_read he,
        bind_eq_ok_iff.mpr ⟨params, hparams, rfl⟩⟩, .cons ⟨e, he, rfl, rfl⟩ htypes⟩

theorem exists_readResponse {r : Route} (h : ∀ t ∈ routeTypes r, ∃ e, Expr.read t.text = .ok e) :
    ∃ e, readResponse r = .ok e := by
  unfold readResponse
  cases hr : r.response with
  | none => exact ⟨_, rfl⟩
  | some t =>
      obtain ⟨e, he⟩ := h t (List.mem_append_right _ (by rw [hr]; exact List.mem_cons_self))
      exact ⟨e, readType_of_read he⟩

theorem toList_injective {α : Type} : Function.Injective (Option.toList (α := α)) := by
  intro o o' h
  refine Option.ext fun a => ?_
  rw [← Option.mem_toList, h, Option.mem_toList]

/-- There is one way to divide things among the values of a route. -/
theorem RouteParts.eq_of_fits {β : Type} {p q : RouteParts β} {r : Route} (hp : p.Fits r)
    (hq : q.Fits r) (h : p.all = q.all) : p = q := by
  rw [all, all, List.append_assoc, List.append_assoc] at h
  obtain ⟨hpath, h⟩ := List.append_inj h (hp.path.trans hq.path.symm)
  obtain ⟨hbody, hquery⟩ := List.append_inj h (length_toList_eq (hp.body.trans hq.body.symm))
  obtain ⟨path, body, query⟩ := p
  cases hpath
  cases toList_injective hbody
  cases toList_injective hquery
  rfl

section

variable {r : Route} (clientName : Option String)

theorem method_eq_ok {names : RouteParts String} {params : List (Param Expr)} {returns : Expr}
    (hfits : names.Fits r)
    (hnames : bindingNames (place clientName r) [] r.bindings = .ok names.all)
    (hparams : bindingParams names.all r.bindings = .ok params)
    (hreturns : readResponse r = .ok returns) :
    method r clientName = .ok ⟨asyncMethod r.name (withOptions params) (some returns)
      (methodBody (url names.all r.segments) (requestExpr r.verb names)),
      (routeTypes r).flatMap (·.imports)⟩ := by
  obtain ⟨parts, hparts, hall, hbody, hquery⟩ :=
    exists_routeParts r (bindingNames_length hnames)
  obtain rfl := RouteParts.eq_of_fits hfits hparts hall
  unfold readResponse at hreturns
  refine bind_eq_ok_iff.mpr ⟨_, hnames, bind_eq_ok_iff.mpr ⟨params, hparams, ?_⟩⟩
  simp only [← hbody, ← hquery]
  cases hr : r.response with
  | none =>
      simp only [hr] at hreturns ⊢
      cases hreturns
      rfl
  | some t =>
      simp only [hr] at hreturns ⊢
      exact bind_eq_ok_iff.mpr ⟨returns, hreturns, rfl⟩

/-- The names of the parameters of a function, in order. -/
def signature : Stmt → List String
  | .functionDef _ _ _ params _ _ =>
      (params.positionalOnly ++ params.ordinary ++ params.rest.toList ++ params.keywordOnly ++
        params.keywords.toList).map (·.name)
  | _ => []

theorem signature_asyncMethod (name : String) (params : List (Param Expr)) (returns : Option Expr)
    (body : List Stmt) :
    signature (asyncMethod name params returns body) = selfName :: params.map (·.name) := by
  simp [signature, asyncMethod]

/-- A method takes the values of a route under the given names: after the instance and before the
options, in the order of the route and with their types. Its URL has the names of the path in it,
its request those of the body and the query. -/
structure TakesValues (r : Route) (names : RouteParts String) (f : Fragment) : Prop where
  definition : ∃ params returns,
    f.definition = asyncMethod r.name (withOptions params) (some returns)
      (methodBody (url names.path r.segments) (requestExpr r.verb names)) ∧
    List.Forall₂ HasTypeOf params r.bindings ∧ readResponse r = .ok returns
  signature : signature f.definition = selfName :: (names.all ++ [optionsName])
  nodup : (Client.signature f.definition).Nodup
  url : namesIn (Client.url names.path r.segments) = names.path
  request : namesIn (requestExpr r.verb names) =
    optionsName :: urlName :: (names.body.toList ++ names.query.toList)

theorem exists_takesValues {names : RouteParts String} (hfits : names.Fits r)
    (hnames : List.Forall₂ HasName r.bindings names.all)
    (htypes : ∀ t ∈ routeTypes r, ∃ e, Expr.read t.text = .ok e) (hnodup : names.all.Nodup) :
    ∃ f, method r clientName = .ok f ∧ TakesValues r names f := by
  have hok : bindingNames (place clientName r) [] r.bindings = .ok names.all :=
    bindingNames_of_nodup _ hnames hnodup fun _ _ => List.not_mem_nil
  obtain ⟨params, hparams, hhints⟩ := exists_bindingParams_of_read
    (fun b hb => htypes b.type (List.mem_append_left _ (List.mem_map_of_mem hb)))
    hnames.length_eq.symm
  obtain ⟨returns, hreturns⟩ := exists_readResponse htypes
  have hsignature : signature (asyncMethod r.name (withOptions params) (some returns)
      (methodBody (url names.path r.segments) (requestExpr r.verb names))) =
        selfName :: (names.all ++ [optionsName]) := by
    rw [signature_asyncMethod, withOptions, List.map_append,
      bindingParams_names hparams hnames.length_eq.symm]
    rfl
  have hmethod := method_eq_ok clientName hfits hok hparams hreturns
  rw [url_eq hfits] at hmethod
  refine ⟨_, hmethod, ⟨params, returns, rfl, hhints, hreturns⟩, hsignature, ?_,
    namesIn_url hfits, namesIn_requestExpr r.verb names⟩
  rw [hsignature]
  exact Evaluation.parameterNames_nodup hnodup (bindingNames_notMem_takenNames hok)

/-- Where the values of a route have texts to name them and types that can be read, each value has
one name, which its text alone gives it and which the method uses for nothing else. If all names
differ there is a method that takes the values under these names. Else it is an error that reports
the first name that was there before. -/
theorem method_signature (hnamed : ∀ b ∈ r.bindings, b.name ≠ "")
    (htypes : ∀ t ∈ routeTypes r, ∃ e, Expr.read t.text = .ok e) :
    ∃ names : RouteParts String, names.Fits r ∧ List.Forall₂ HasName r.bindings names.all ∧
      (∀ name ∈ names.all, name ∉ takenNames) ∧
      (names.all.Nodup → ∃ f, method r clientName = .ok f ∧ TakesValues r names f) ∧
      (∀ before name after, names.all = before ++ name :: after → before.Nodup → name ∈ before →
        method r clientName = .error (.reported (.generation (.duplicateParameter name)
          (some (place clientName r)) none))) ∧
      ((∃ name context cause, method r clientName =
        .error (.reported (.generation (.duplicateParameter name) context cause))) ↔
          ¬ names.all.Nodup) := by
  obtain ⟨all, hnames⟩ := exists_names hnamed
  obtain ⟨names, hfits, rfl, -⟩ := exists_routeParts r hnames.length_eq.symm
  have hrepeated : ∀ before name after, names.all = before ++ name :: after → before.Nodup →
      name ∈ before → method r clientName = .error (.reported (.generation
        (.duplicateParameter name) (some (place clientName r)) none)) := by
    intro before name after hsplit hbefore hname
    rw [hsplit] at hnames
    exact bind_eq_error_iff.mpr (.inl (bindingNames_of_repetition _ hnames hbefore
      (fun _ _ => List.not_mem_nil) (.inr hname)))
  refine ⟨names, hfits, hnames, fun name hname => ?_,
    exists_takesValues clientName hfits hnames htypes, hrepeated, ?_, fun hrepetition => ?_⟩
  · obtain ⟨b, -, hb⟩ := exists_of_forall₂_of_mem hnames hname
    exact bindingName_notMem_takenNames hb
  · rintro ⟨name, context, cause, herror⟩ hnodup
    obtain ⟨f, hf, -⟩ := exists_takesValues clientName hfits hnames htypes hnodup
    cases hf.symm.trans herror
  · obtain ⟨before, name, after, hsplit, hbefore, hname⟩ := exists_first_repetition hrepetition
    exact ⟨name, _, _, hrepeated before name after hsplit hbefore hname⟩

end

/-- A route whose values have the names that a method uses, or are named as these would be. -/
def renamedRoute (pathName : String) : Route :=
  { name := "create"
    segments := [.literal "", .literal "users", .parameter pathName ⟨"int", []⟩ ".json"]
    verb := .post
    body := some ⟨"url", ⟨"User | None", []⟩⟩
    query := some ⟨"re-quest", ⟨"dict[str, int]", []⟩⟩ }

theorem exists_read_renamedRoute {pathName : String} :
    ∀ t ∈ routeTypes (renamedRoute pathName), ∃ e, Expr.read t.text = .ok e := by
  have hread : ∀ t ∈ [⟨"int", []⟩, ⟨"User | None", []⟩, (⟨"dict[str, int]", []⟩ : TypeText)],
      (Expr.read t.text).isOk = true := by decide +kernel
  exact fun t ht => exists_eq_ok_of_isOk (hread t ht)

/-- A value with the name of the method's variable makes way for it; another value that has the new
name is in its way. -/
theorem method_signature_renamedRoute :
    (∃ f, method (renamedRoute "class") (some "UsersClient") = .ok f ∧
      signature f.definition = ["self", "class_", "url_", "re_quest", "options"]) ∧
    method (renamedRoute "url_") (some "UsersClient") = .error (.reported (.generation
      (.duplicateParameter "url_") (some "UsersClient.create") none)) := by
  constructor
  · obtain ⟨names, -, hnames, -, hmethod, -⟩ := method_signature (some "UsersClient")
      (r := renamedRoute "class") (by decide +kernel) exists_read_renamedRoute
    have hall : names.all = ["class_", "url_", "re_quest"] :=
      Except.ok.inj ((mapM_eq_ok_iff.mpr hnames).symm.trans (by decide +kernel))
    obtain ⟨f, hf, htakes⟩ := hmethod (by rw [hall]; decide)
    exact ⟨f, hf, by rw [htakes.signature, hall]; rfl⟩
  · obtain ⟨names, -, hnames, -, -, hrepeated, -⟩ :=
      method_signature (some "UsersClient") (r := renamedRoute "url_")
        (by decide +kernel) exists_read_renamedRoute
    have hall : names.all = ["url_", "url_", "re_quest"] :=
      Except.ok.inj ((mapM_eq_ok_iff.mpr hnames).symm.trans (by decide +kernel))
    exact hrepeated ["url_"] "url_" ["re_quest"] hall (by decide) (by decide)

end TypedClients.Client
