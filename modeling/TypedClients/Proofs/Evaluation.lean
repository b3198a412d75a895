import Mathlib.Data.List.Nodup
import TypedClients.Client
import TypedClients.Code.Mark
import TypedClients.Source.Module

/-!
# Evaluation of generated methods

The part of the source language that methods of clients are written in, with its meaning. A run
keeps the requests that are asked for, in order. It halts at an exception, and where a name is not
bound or a construct lies outside this part of the language it is stuck. A few names are constants:
they have their value everywhere, and nothing can be bound to them.
-/
namespace TypedClients.Evaluation

open TypedClients.Code

/-! ### Values -/

/-- A key of a mapping. -/
inductive Key (α : Type) where
  | text (s : String)
  | foreign (key : α)
  deriving DecidableEq, Repr, Inhabited

/-- A value of a run. Those of type `α` come from outside, and no method looks into them. -/
inductive Value (α : Type) where
  | foreign (value : α)
  | absent
  | boolean (b : Bool)
  | text (s : String)
  | mapping (entries : List (Key α × Value α))
  /-- The function of the runtime that sends a request. -/
  | requestFunction
  /-- The answer to a request that has been asked for, not waited for yet. -/
  | answerTo (argument : Value α)
  deriving Inhabited

abbrev Mapping (α : Type) := Dictionary (Key α) (Value α)

/-- The value as a key. -/
def Value.key? {α : Type} : Value α → Option (Key α)
  | .text s => some (.text s)
  | .foreign v => some (.foreign v)
  | _ => none

/-- What a run depends on besides its program. -/
structure Runtime (α : Type) where
  /-- The text that a value has inside formatted text. -/
  shown : Value α → String
  /-- What waiting for the answer to a request gives: a value or an exception. -/
  answer : Value α → Except α (Value α)

/-! ### Runs -/

/-- Why a run gives no value. -/
inductive Halt (α : Type) where
  | raised (exception : α)
  | stuck
  deriving DecidableEq, Repr, Inhabited

/-- A run with its requests so far as the state. -/
abbrev Running (α β : Type) := ExceptT (Halt α) (StateM (List (Value α))) β

section

variable {α : Type} [DecidableEq α]

/-- The mapping with everything that another one has, key by key. -/
def Mapping.update (m n : Mapping α) : Mapping α :=
  n.keys.foldl (fun m key => (n.get? key).elim m (m.insert key)) m

/-- Calls a value with one argument: only the function of the runtime can be called. -/
def request (callee argument : Value α) : Running α (Value α) :=
  match callee with
  | .requestFunction => do
      modify (· ++ [argument])
      return .answerTo argument
  | _ => throw .stuck

/-- Waits for a value: only the answer to a request can be waited for. -/
def wait (rt : Runtime α) : Value α → Running α (Value α)
  | .answerTo argument =>
      match rt.answer argument with
      | .ok value => return value
      | .error exception => throw (.raised exception)
  | _ => throw .stuck

/-! ### Names -/

/-- The names that are constants. -/
def constantNames : List String := ["None", "True", "False", debugName]

/-- The value of a constant. A program that is not optimised is one to be debugged. -/
def constantValue? (name : String) : Option (Value α) :=
  if name = "None" then some .absent
  else if name = "True" ∨ name = debugName then some (.boolean true)
  else if name = "False" then some (.boolean false)
  else none

omit [DecidableEq α] in
theorem constantValue?_eq_none {name : String} (h : name ∉ constantNames) :
    (constantValue? name : Option (Value α)) = none := by
  simp only [constantNames, List.mem_cons, List.not_mem_nil, or_false, not_or] at h
  obtain ⟨hnone, htrue, hfalse, hdebug⟩ := h
  simp [constantValue?, hnone, htrue, hfalse, hdebug]

/-- Where names are looked up. A name that a method binds itself is never taken from the module. -/
structure Scope (α : Type) where
  /-- The names that the method binds somewhere. -/
  ownNames : List String
  /-- Those of them that have a value. -/
  values : Dictionary String (Value α)
  module : Dictionary String (Value α)

def Scope.find? (s : Scope α) (name : String) : Option (Value α) :=
  (constantValue? name).or
    (if name ∈ s.ownNames then s.values.get? name else s.module.get? name)

def Scope.assign (s : Scope α) (name : String) (value : Value α) : Scope α :=
  { s with values := s.values.insert name value }

omit [DecidableEq α] in
theorem find?_eq_of_notMem {name : String} (h : name ∉ constantNames) (s : Scope α) :
    s.find? name = if name ∈ s.ownNames then s.values.get? name else s.module.get? name := by
  rw [Scope.find?, constantValue?_eq_none h, Option.none_or]

omit [DecidableEq α] in
theorem find?_assign_self {s : Scope α} {name : String} (value : Value α)
    (hname : name ∉ constantNames) (h : name ∈ s.ownNames) :
    (s.assign name value).find? name = some value := by
  simp [find?_eq_of_notMem hname, Scope.assign, h]

omit [DecidableEq α] in
theorem find?_assign_of_ne (s : Scope α) {name other : String} (value : Value α)
    (h : other ≠ name) : (s.assign name value).find? other = s.find? other := by
  simp [Scope.find?, Scope.assign, Dictionary.get?_insert_of_ne _ _ h]

/-! ### Expressions and statements -/

mutual

/-- The value of an expression. -/
def eval (rt : Runtime α) (scope : Scope α) : Expr → Running α (Value α)
  | .constant (.text s _) => pure (.text s)
  | .constant .none => pure .absent
  | .constant (.bool b) => pure (.boolean b)
  | .name id => ((scope.find? id).elim (throw .stuck) pure : Running α (Value α))
  | .call callee [argument] [] => do
      request (← eval rt scope callee) (← eval rt scope argument)
  | .await value => do wait rt (← eval rt scope value)
  | .dict entries => do return .mapping (← evalEntries rt scope [] entries)
  | .formatted pieces => do return .text (← evalPieces rt scope pieces)
  | _ => throw .stuck

/-- A mapping with the entries of another one or with single entries added, from left to right. -/
def evalEntries (rt : Runtime α) (scope : Scope α) (m : Mapping α) :
    List (Entry Expr) → Running α (Mapping α)
  | [] => pure m
  | ⟨none, value⟩ :: entries => do
      match ← eval rt scope value with
      | .mapping n => evalEntries rt scope (m.update n) entries
      | _ => throw .stuck
  | ⟨some key, value⟩ :: entries => do
      let key ← eval rt scope key
      let value ← eval rt scope value
      match key.key? with
      | some key => evalEntries rt scope (m.insert key value) entries
      | none => throw .stuck

/-- The text that pieces make. -/
def evalPieces (rt : Runtime α) (scope : Scope α) : List (Piece Expr) → Running α String
  | [] => pure ""
  | .text s :: pieces => do return s ++ (← evalPieces rt scope pieces)
  | .field value none none :: pieces => do
      let value ← eval rt scope value
      return rt.shown value ++ (← evalPieces rt scope pieces)
  | .brokenText _ :: _ | .field _ _ _ :: _ => throw .stuck

end

/-- What the statements of a body give back. -/
def run (rt : Runtime α) (scope : Scope α) : List Stmt → Running α (Value α)
  | [] => pure .absent
  | .pass :: rest => run rt scope rest
  | .expression value :: rest => do
      let _ ← eval rt scope value
      run rt scope rest
  | .assign [.name id] value :: rest =>
      if id ∈ constantNames then throw .stuck
      else do run rt (scope.assign id (← eval rt scope value)) rest
  | .returnValue none :: _ => pure .absent
  | .returnValue (some value) :: _ => eval rt scope value
  | _ => throw .stuck

/-- The scope of a call: parameters stand for arguments, and the body may bind further names. -/
def Scope.ofCall (names : List String) (arguments : List (Value α)) (body : List Stmt)
    (module : Dictionary String (Value α)) : Scope α :=
  ⟨names ++ body.flatMap Stmt.definedNames, names.zip arguments, module⟩

/-- Calls an asynchronous method with arguments by position and waits for what it gives back. The
parameters have distinct names, none of them a constant, and there is one argument for each. -/
def callMethod (rt : Runtime α) (module : Dictionary String (Value α)) (arguments : List (Value α)) :
    Stmt → Running α (Value α)
  | .functionDef true [] _ ⟨[], params, none, [], none⟩ _ body =>
      let names := params.map (·.name)
      if names.Nodup ∧ (∀ name ∈ names, name ∉ constantNames) ∧
          names.length = arguments.length then
        run rt (.ofCall names arguments body module) body
      else throw .stuck
  | _ => throw .stuck

/-! ### Laws -/

theorem Mapping.get?_update (m n : Mapping α) (key : Key α) :
    (m.update n).get? key = (n.get? key).or (m.get? key) := by
  -- Keys after the first are all taken from `n`, so a key is found there or was there before.
  have hfold : ∀ (keys : List (Key α)) (m : Mapping α),
      (keys.foldl (fun m key => (n.get? key).elim m (m.insert key)) m).get? key =
        if key ∈ keys then (n.get? key).or (m.get? key) else m.get? key := by
    intro keys
    induction keys with
    | nil => simp
    | cons k keys ih =>
        intro m
        rw [List.foldl_cons, ih]
        rcases hk : n.get? k with _ | v
        · by_cases h : key = k
          · simp [h, hk]
          · simp [h]
        · simp only [Option.elim_some, Dictionary.get?_insert, List.mem_cons]
          by_cases h : key = k
          · simp [h, hk]
          · simp [h]
  rw [update, hfold]
  by_cases h : key ∈ n.keys
  · rw [if_pos h]
  · have hnone : n.get? key = none := by
      simpa [Dictionary.mem_keys_iff] using h
    rw [if_neg h, hnone, Option.none_or]

omit [DecidableEq α] in
/-- Asking for a request and waiting for its answer adds the request to those before. -/
theorem run_request_wait (rt : Runtime α) (argument : Value α) (earlier : List (Value α)) :
    (request .requestFunction argument >>= wait rt).run.run earlier =
      ((rt.answer argument).mapError .raised, earlier ++ [argument]) := by
  have hrequest : (request .requestFunction argument : Running α (Value α)).run.run earlier =
      (.ok (.answerTo argument), earlier ++ [argument]) := rfl
  have hwait : (wait rt (.answerTo argument)).run.run (earlier ++ [argument]) =
      ((rt.answer argument).mapError .raised, earlier ++ [argument]) := by
    rw [wait]
    cases rt.answer argument <;> rfl
  rw [ExceptT.run_bind, StateT.run_bind, hrequest]
  exact hwait

omit [DecidableEq α] in
theorem find?_ofCall {names : List String} {arguments : List (Value α)} (body : List Stmt)
    (module : Dictionary String (Value α)) (hnodup : names.Nodup)
    (hvariable : ∀ name ∈ names, name ∉ constantNames)
    (hlen : names.length = arguments.length) {name : String} {value : Value α}
    (hmem : (name, value) ∈ names.zip arguments) :
    (Scope.ofCall names arguments body module).find? name = some value := by
  have hkeys : (names.zip arguments).map Prod.fst = names :=
    List.map_fst_zip (Nat.le_of_eq hlen)
  have hname : name ∈ names := (List.of_mem_zip hmem).1
  rw [find?_eq_of_notMem (hvariable name hname), Scope.ofCall,
    if_pos (List.mem_append_left _ hname)]
  exact Dictionary.get?_of_mem (by rw [Dictionary.keys, hkeys]; exact hnodup) hmem

variable {rt : Runtime α} {scope : Scope α}

@[simp] theorem eval_string (s : String) : eval rt scope (Expr.string s) = pure (.text s) := by
  simp [Expr.string, Literal.ofString, eval]

theorem eval_name {name : String} {value : Value α} (h : scope.find? name = some value) :
    eval rt scope (.name name) = pure value := by
  simp [eval, h]

/-- Joining neighbouring texts does not change the text that pieces make. -/
theorem evalPieces_joinTexts (pieces : List (Piece Expr)) :
    evalPieces rt scope (joinTexts pieces) = evalPieces rt scope pieces := by
  induction pieces with
  | nil => rfl
  | cons piece pieces ih =>
      cases piece with
      | text s =>
          rw [joinTexts]
          split
          · rename_i t rest hjoin
            rw [hjoin] at ih
            simp [evalPieces, ← ih, String.append_assoc]
          · rename_i t rest hjoin
            rw [hjoin] at ih
            simp [evalPieces, ← ih]
          · by_cases hs : s = ""
            · simp [hs, evalPieces, ih]
            · simp [hs, evalPieces, ih]
      | brokenText t =>
          rw [joinTexts]
          split <;> rfl
      | field value conversion format =>
          rw [joinTexts]
          · cases conversion <;> cases format <;> simp [evalPieces, ih]
          all_goals exact nofun

end

end TypedClients.Evaluation
