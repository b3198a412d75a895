import TypedClients.Proofs.RouteOrigins
import TypedClients.Proofs.WrittenTypes
import TypedClients.Source.Type

/-!
# The types of client methods

The types of a client's methods are those that the methods of its controller declare: what the text
of a type is read as is the type itself.
-/
namespace TypedClients

open TypedClients.Code
open Code.Token (maxBrackets)

namespace SourceType

/-- The expression of a type; where none is written it is any type. -/
def hint (t : SourceType) : Expr := t.expr.getD (.name "Any")

theorem text_eq_write (t : SourceType) : t.text = t.hint.write := by
  unfold text hint
  cases t.expr <;> rfl

theorem hint_of_isVoid {t : SourceType} (h : t.isVoid = true) :
    t.hint = Expr.absent := by
  unfold isVoid at h
  split at h
  · rename_i hexpr
    simp [hint, hexpr, Expr.absent]
  · cases h

end SourceType

/-! ### The types of generated methods -/

namespace Client

variable {t : SourceType} {ty : TypeText}

theorem write_of_isTextOf (h : IsTextOf t ty) : t.hint.write = .ok ty.text := by
  rw [IsTextOf, DeclaredType.typeText, Traced.bind_result, bind_eq_ok_iff] at h
  obtain ⟨text, htext, h⟩ := h
  rw [Traced.bind_result, bind_eq_ok_iff] at h
  obtain ⟨imports, -, h⟩ := h
  cases h
  rw [← SourceType.text_eq_write]
  exact htext

/-- What a generated module says of a type is the type itself. -/
theorem readType_eq (h : IsTextOf t ty) (ht : Expr.IsType t.hint) {e : Expr}
    (hread : readType ty = .ok e) : e = t.hint := by
  rw [readType, Expr.read_of_write ht (write_of_isTextOf h)] at hread
  by_cases hdepth : Expr.bracketDepth .test t.hint ≤ maxBrackets
  · rw [if_pos hdepth] at hread
    cases hread
    rfl
  · rw [if_neg hdepth] at hread
    cases hread

theorem readType_of_readable (h : IsTextOf t ty) (ht : Expr.IsType t.hint)
    (hreadable : t.hint.IsReadable) : readType ty = .ok t.hint := by
  rw [readType, Expr.read_of_write ht (write_of_isTextOf h), if_pos hreadable.brackets]

theorem bindingParams_hints {names : List String} {bs : List Binding} {types : List SourceType}
    {params : List (Param Expr)} (htexts : List.Forall₂ (fun b t => IsTextOf t b.type) bs types)
    (hlength : names.length = bs.length) (h : bindingParams names bs = .ok params) :
    List.Forall₂ (fun p t => Expr.IsType t.hint → p.hint = some t.hint) params types := by
  induction htexts generalizing names params with
  | nil =>
      obtain rfl := List.length_eq_zero_iff.mp hlength
      cases h
      exact .nil
  | cons htext _ ih =>
      cases names with
      | nil => cases hlength
      | cons name names =>
          obtain ⟨hint, hhint, h⟩ := bind_eq_ok_iff.mp h
          obtain ⟨rest, hrest, h⟩ := bind_eq_ok_iff.mp h
          cases h
          refine .cons (fun ht => ?_) (ih (by simpa using hlength) hrest)
          rw [readType_eq htext ht hhint]

theorem exists_bindingParams {bs : List Binding} {types : List SourceType}
    (htexts : List.Forall₂ (fun b t => IsTextOf t b.type) bs types)
    (htypes : ∀ t ∈ types, Expr.IsType t.hint ∧ t.hint.IsReadable)
    (names : List String) : ∃ params, bindingParams names bs = .ok params := by
  induction htexts generalizing names with
  | nil => cases names <;> exact ⟨[], rfl⟩
  | cons htext _ ih =>
      obtain ⟨⟨ht, hreadable⟩, htypes⟩ := List.forall_mem_cons.mp htypes
      cases names with
      | nil => exact ⟨[], rfl⟩
      | cons name names =>
          obtain ⟨params, hparams⟩ := ih htypes names
          exact ⟨_, bind_eq_ok_iff.mpr ⟨_, readType_of_readable htext ht hreadable,
            bind_eq_ok_iff.mpr ⟨params, hparams, rfl⟩⟩⟩

/-- Reads the type of what a route answers. -/
def readResponse (r : Route) : Except Failure Expr :=
  r.response.elim (.ok Expr.absent) readType

/-- The response of a route is the given type, or nothing where that type is the one without values. -/
def AnswersWith (r : Route) (t : SourceType) : Prop :=
  DeclaredType.isVoid t = true ∧ r.response = none ∨ ∃ ty, r.response = some ty ∧ IsTextOf t ty

theorem readResponse_eq {r : Route} (h : AnswersWith r t) (ht : Expr.IsType t.hint) {e : Expr}
    (hread : readResponse r = .ok e) : e = t.hint := by
  rcases h with ⟨hvoid, hresponse⟩ | ⟨ty, hresponse, htext⟩ <;>
    rw [readResponse, hresponse] at hread
  · cases hread
    exact (SourceType.hint_of_isVoid hvoid).symm
  · exact readType_eq htext ht hread

theorem readResponse_of_readable {r : Route} (h : AnswersWith r t) (ht : Expr.IsType t.hint)
    (hreadable : t.hint.IsReadable) : readResponse r = .ok t.hint := by
  rcases h with ⟨hvoid, hresponse⟩ | ⟨ty, hresponse, htext⟩ <;> rw [readResponse, hresponse]
  · rw [SourceType.hint_of_isVoid hvoid]
    rfl
  · exact readType_of_readable htext ht hreadable

section

variable {r : Route} {clientName : Option String}

/-- A method is made of names for its parameters and of the types that are read. -/
theorem exists_parts_of_method {f : Fragment} (h : method r clientName = .ok f) :
    ∃ names params returns body,
      bindingNames (place clientName r) [] r.bindings = .ok names ∧
      bindingParams names r.bindings = .ok params ∧ readResponse r = .ok returns ∧
      f.definition = asyncMethod r.name (withOptions params) (some returns) body := by
  obtain ⟨names, hnames, h⟩ := bind_eq_ok_iff.mp h
  obtain ⟨params, hparams, h⟩ := bind_eq_ok_iff.mp h
  unfold readResponse
  rcases hr : r.response with _ | t <;> simp only [hr] at h <;>
    obtain ⟨returns, hreturns, h⟩ := bind_eq_ok_iff.mp h <;> cases h <;>
    exact ⟨names, params, returns, _, hnames, hparams, hreturns, rfl⟩

theorem exists_method {names : List String} {params : List (Param Expr)} {returns : Expr}
    (hnames : bindingNames (place clientName r) [] r.bindings = .ok names)
    (hparams : bindingParams names r.bindings = .ok params)
    (hreturns : readResponse r = .ok returns) : ∃ f, method r clientName = .ok f := by
  unfold readResponse at hreturns
  unfold method
  rw [hnames]
  simp only [bind, Except.bind, hparams]
  rcases hr : r.response with _ | t <;> simp only [hr, Option.elim] at hreturns ⊢
  · exact ⟨_, rfl⟩
  · rw [hreturns]
    exact ⟨_, rfl⟩

end

end Client

/-! ### From the declaration to the client -/

/-- A type is read back from its text exactly if its numbers and its brackets allow it. So for a
route of a method, the generated method has the declared types as its annotations; and if they can
be read, the method is there as soon as its parameters have names. -/
theorem types_survive :
    (∀ (e : Expr) (m : SourceModule) (project : Option SourceProject),
      Expr.IsType e → e.untagged = e →
        ((∃ text, (SourceType.ofExpr (some e) m project).text = .ok text ∧
          Expr.read text = .ok e) ↔ e.IsReadable)) ∧
    ∀ (method : Method SourceType) (basePath : String) (tag : Tag) (verb : Verb)
      (className : Option String) (r : Route),
      (method.route basePath tag verb className).result = .ok r →
        ∃ (types : Client.RouteParts SourceType) (returned : SourceType),
          method.Declares r types ∧ DeclaredType.carried method.returns = .ok returned ∧
          (∀ clientName f, Client.method r clientName = .ok f → ∃ params returns body,
            f.definition =
              Client.asyncMethod r.name (Client.withOptions params) (some returns) body ∧
            List.Forall₂ (fun p t => Expr.IsType t.hint → p.hint = some t.hint)
              params types.all ∧
            (Expr.IsType returned.hint → returns = returned.hint)) ∧
          ((∀ t ∈ returned :: types.all, Expr.IsType t.hint ∧ t.hint.IsReadable) →
            ∀ clientName names,
              Client.bindingNames (Client.place clientName r) [] r.bindings = .ok names →
                ∃ f, Client.method r clientName = .ok f) := by
  refine ⟨fun e m project h huntagged => ?_, fun method basePath tag verb className r h => ?_⟩
  · rw [SourceType.text_eq_write, SourceType.ofExpr, SourceType.hint, Option.map_some,
      Option.getD_some, huntagged]
    exact Expr.exists_read_iff h
  obtain ⟨types, returned, hdeclares, htexts, hreturned, hresponse⟩ := declares_of_route h
  refine ⟨types, returned, hdeclares, hreturned, fun clientName f hf => ?_,
    fun hreadable clientName names hnames => ?_⟩
  · obtain ⟨names, params, returns, body, hnames, hparams, hreturns, hdefinition⟩ :=
      Client.exists_parts_of_method hf
    refine ⟨params, returns, body, hdefinition,
      Client.bindingParams_hints htexts (Client.bindingNames_length hnames) hparams, fun ht => ?_⟩
    exact Client.readResponse_eq hresponse ht hreturns
  · obtain ⟨⟨ht, hreturnedReadable⟩, htypes⟩ := List.forall_mem_cons.mp hreadable
    obtain ⟨params, hparams⟩ := Client.exists_bindingParams htexts htypes names
    exact Client.exists_method hnames hparams
      (Client.readResponse_of_readable hresponse ht hreturnedReadable)

section

/-- The names of a module of models. -/
def modelNames : List String := ["Id", "User", "Page", "Callable", "Awaitable"]

def modelType (e : Expr) : SourceType :=
  SourceType.ofExpr (some e)
    ⟨⟨"users", false⟩, "users.py", [.importFrom (some "models") (modelNames.map ({ name := · })) 0]⟩
    none

/-- The text of a type of models. -/
def modelText (text : String) (names : List String) : TypeText :=
  ⟨text, names.map fun name => { module := "models", name := some name }⟩

/-- A method whose types are a union, a generic type with a list, and a wrapper. -/
def findMethod : Method SourceType :=
  { name := "find"
    parameters :=
      [{ name := "id", tags := [⟨"Param", ["'id'"]⟩]
         type := modelType (.binary .bitOr (.name "Id") (.constant .none)) },
       { name := "by", tags := [⟨"QueryParams", []⟩]
         type := modelType (.subscript (.name "Callable")
           (.tuple [.list [.name "User"], .constant .ellipsis])) }]
    returns := modelType (.subscript (.name "Awaitable") (.subscript (.name "Page") (.name "User"))) }

def findRoute : Route :=
  { name := "find"
    segments := [.literal "", .parameter "id" (modelText "Id | None" ["Id"]) ""]
    verb := .get
    query := some ⟨"by", modelText "Callable[[User], ...]" ["Callable", "User"]⟩
    response := some (modelText "Page[User]" ["Page", "User"]) }

theorem route_findMethod :
    (findMethod.route "/" ⟨"Get", ["':id'"]⟩ .get none).result = .ok findRoute := by
  decide +kernel

/-- The client's method has the types of the method, without the wrapper of what it gives back. -/
theorem types_survive_findMethod :
    (∃ text, (modelType (.binary .bitOr (.name "Id") (.constant .none))).text = .ok text ∧
      Expr.read text = .ok (.binary .bitOr (.name "Id") (.constant .none))) ∧
    ∃ f params body, Client.method findRoute (some "UsersClient") = .ok f ∧
      f.definition = Client.asyncMethod "find" (Client.withOptions params)
        (some (.subscript (.name "Page") (.name "User"))) body ∧
      params.map (·.hint) =
        [some (.binary .bitOr (.name "Id") (.constant .none)),
          some (.subscript (.name "Callable")
            (.tuple [.list [.name "User"], .constant .ellipsis]))] := by
  have hname : ∀ {id}, Expr.IsPlainName id → Expr.IsType (.name id) := fun h => .dotted (.name h)
  have hid : Expr.IsType (.binary .bitOr (.name "Id") (.constant .none)) :=
    .union (hname (by decide)) .absent
  have hpage : Expr.IsType (.subscript (.name "Page") (.name "User")) :=
    .subscript (hname (by decide)) (.single (.type (hname (by decide))))
  have hby : Expr.IsType
      (.subscript (.name "Callable") (.tuple [.list [.name "User"], .constant .ellipsis])) := by
    refine .subscript (hname (by decide)) (.several ?_)
    simp only [List.forall_mem_cons, List.not_mem_nil, false_imp_iff, implies_true, and_true]
    refine ⟨.list ?_, .type .ellipsis⟩
    rw [List.forall_mem_singleton]
    exact .type (hname (by decide))
  obtain ⟨hread, hroutes⟩ := types_survive
  refine ⟨(hread _ _ _ hid rfl).mpr ⟨by simp [Expr.integers], by decide⟩, ?_⟩
  obtain ⟨types, returned, hdeclares, hreturned, hhinted, htotal⟩ :=
    hroutes findMethod "/" ⟨"Get", ["':id'"]⟩ .get none findRoute route_findMethod
  obtain ⟨path, body, query⟩ := types
  have hquery : query = some (modelType (.subscript (.name "Callable")
      (.tuple [.list [.name "User"], .constant .ellipsis]))) := hdeclares.query
  have hbody : body.toList = [] := List.forall₂_nil_left_iff.mp hdeclares.body
  have hpath : path = [modelType (.binary .bitOr (.name "Id") (.constant .none))] := by
    obtain ⟨t, ts, ht, hts, rfl⟩ := List.forall₂_cons_left_iff.mp hdeclares.path
    obtain rfl := List.forall₂_nil_left_iff.mp hts
    cases ht
    rfl
  obtain rfl : body = none := by simpa using hbody
  obtain rfl : returned = modelType (.subscript (.name "Page") (.name "User")) := by
    cases hreturned
    rfl
  subst hquery hpath
  have hnames : Client.bindingNames (Client.place (some "UsersClient") findRoute) []
      findRoute.bindings = .ok ["id", "by"] := by decide +kernel
  have hreadable : ∀ e ∈ [Expr.subscript (.name "Page") (.name "User"),
      .binary .bitOr (.name "Id") (.constant .none),
      .subscript (.name "Callable") (.tuple [.list [.name "User"], .constant .ellipsis])],
      Expr.IsType e ∧ e.IsReadable := by
    simp only [List.forall_mem_cons, List.not_mem_nil, false_imp_iff, implies_true, and_true]
    exact ⟨⟨hpage, by simp [Expr.integers], by decide⟩, ⟨hid, by simp [Expr.integers], by decide⟩,
      hby, by simp [Expr.integers, Expr.integersInAll], by decide⟩
  obtain ⟨f, hf⟩ := htotal
    (fun t ht => hreadable t.hint (List.mem_map_of_mem (f := SourceType.hint) ht))
    (some "UsersClient") _ hnames
  obtain ⟨params, returns, body, hdefinition, hhints, hreturns⟩ := hhinted _ f hf
  refine ⟨f, params, body, hf, ?_, ?_⟩
  · rw [hdefinition, hreturns hpage]
    rfl
  · cases hhints with
    | cons hfirst hhints =>
        cases hhints with
        | cons hsecond hhints =>
            cases hhints
            rw [List.map_cons, List.map_cons, hfirst hid, hsecond hby]
            rfl

end

/-- Lists in lists. -/
def listsOf : Nat → Expr
  | 0 => .name "int"
  | n + 1 => .subscript (.name "list") (listsOf n)

theorem isType_listsOf (n : Nat) : Expr.IsType (listsOf n) := by
  induction n with
  | zero => exact .dotted (.name (by decide))
  | succ n ih => exact .subscript (.dotted (.name (by decide))) (.single (.type ih))

theorem bracketDepth_listsOf (n : Nat) (s : Strength) : Expr.bracketDepth s (listsOf n) = n := by
  induction n generalizing s with
  | zero => rfl
  | succ n ih => simp [listsOf, Expr.bracketDepth, ih]

theorem untagged_listsOf (n : Nat) : (listsOf n).untagged = listsOf n := by
  cases n with
  | zero => rfl
  | succ n => cases n <;> rfl

/-- A number that is too long to be written, and brackets that are nested too deep to be read. -/
theorem types_lost :
    (Expr.IsType (.constant (.int (10 ^ maxWrittenDigits))) ∧
      Expr.untagged (.constant (.int (10 ^ maxWrittenDigits))) =
        .constant (.int (10 ^ maxWrittenDigits)) ∧
      ¬ ∃ text, (SourceType.ofExpr (some (.constant (.int (10 ^ maxWrittenDigits)))) default
          none).text = .ok text ∧
        Expr.read text = .ok (.constant (.int (10 ^ maxWrittenDigits)))) ∧
    Expr.IsType (listsOf 201) ∧ (listsOf 201).untagged = listsOf 201 ∧
      ¬ ∃ text, (SourceType.ofExpr (some (listsOf 201)) default none).text = .ok text ∧
        Expr.read text = .ok (listsOf 201) := by
  have hint := Expr.IsPart.int (10 ^ maxWrittenDigits)
  refine ⟨⟨hint, rfl, fun hread => ?_⟩, isType_listsOf 201, untagged_listsOf 201, fun hread => ?_⟩
  · have hreadable := (Expr.exists_read_iff hint).mp hread
    exact Nat.lt_irrefl _ (hreadable.integers _ List.mem_cons_self)
  · have hreadable := (Expr.exists_read_iff (isType_listsOf 201)).mp
      (by rwa [← untagged_listsOf 201])
    have hdepth := hreadable.brackets
    rw [bracketDepth_listsOf] at hdepth
    exact absurd hdepth (by decide)

end TypedClients
