import TypedClients.Failure

/-!
# Traced computations

A traced computation has a result or a failure, and the log entries written on the way. The entries
of a step that fails are kept.
-/
namespace TypedClients

inductive Severity where
  | debug
  | info
  | warning
  deriving DecidableEq, Repr, Inhabited

def Severity.name : Severity → String
  | .debug => "DEBUG"
  | .info => "INFO"
  | .warning => "WARNING"

/-- The part of the program that writes a log entry. -/
inductive Origin where
  | types
  | project
  | routes
  | clients
  | output
  | runs
  deriving DecidableEq, Repr, Inhabited

def Origin.name : Origin → String
  | .types => "routegen.source.types"
  | .project => "routegen.source.project"
  | .routes => "routegen.extractor"
  | .clients => "routegen.generator"
  | .output => "routegen.emitter"
  | .runs => "routegen.codegen"

structure LogEntry where
  severity : Severity
  origin : Origin
  text : String
  deriving DecidableEq, Repr, Inhabited

/-- A result or a failure, with the log entries written on the way. -/
structure Traced (α : Type) where
  log : List LogEntry
  result : Except Failure α

namespace Traced

variable {α β : Type}

/-- Goes on with a result; the entries of both steps are kept in order. -/
def andThen (x : Traced α) (f : α → Traced β) : Traced β :=
  match x.result with
  | .ok a => let y := f a; ⟨x.log ++ y.log, y.result⟩
  | .error e => ⟨x.log, .error e⟩

instance : Monad Traced where
  pure a := ⟨[], .ok a⟩
  bind := andThen

/-- Writes a log entry. -/
def note (severity : Severity) (origin : Origin) (text : String) : Traced Unit :=
  ⟨[⟨severity, origin, text⟩], .ok ()⟩

/-- A result without log entries. -/
def ofExcept (x : Except Failure α) : Traced α := ⟨[], x⟩

def fail (e : Failure) : Traced α := ⟨[], .error e⟩

/-- Fails with an error that is reported. -/
def report (e : Error) : Traced α := fail (.reported e)

/-- Goes on unless there is a fault. -/
def check : Option Fault → Traced Unit
  | none => pure ()
  | some f => fail (.fault f)

@[simp] theorem pure_log (a : α) : (pure a : Traced α).log = [] := rfl

@[simp] theorem pure_result (a : α) : (pure a : Traced α).result = .ok a := rfl

/-- The result of two steps is that of their results; the entries play no part in it. -/
@[simp] theorem bind_result (x : Traced α) (f : α → Traced β) :
    (x >>= f).result = x.result >>= fun a => (f a).result := by
  rcases x with ⟨log, _ | a⟩ <;> simp [andThen, bind, Except.bind]

theorem bind_result_of_ok {x : Traced α} {a : α} (f : α → Traced β) (h : x.result = .ok a) :
    (x >>= f).result = (f a).result := by
  rw [bind_result, h]
  rfl

@[simp] theorem note_result (severity : Severity) (origin : Origin) (text : String) :
    (note severity origin text).result = .ok () := rfl

@[simp] theorem ofExcept_result (x : Except Failure α) : (ofExcept x).result = x := rfl

@[simp] theorem fail_result (e : Failure) : (fail e : Traced α).result = .error e := rfl

@[simp] theorem report_result (e : Error) :
    (report e : Traced α).result = .error (.reported e) := rfl

theorem check_eq_error_iff {fault : Option Fault} {e : Failure} :
    (check fault).result = .error e ↔ ∃ f, fault = some f ∧ .fault f = e := by
  cases fault <;> simp [check]

theorem map_id_of (x : Traced α) : id <$> x = x := by
  rcases x with ⟨log, _ | _⟩ <;> simp [Functor.map, andThen]

theorem pure_andThen (a : α) (f : α → Traced β) : pure a >>= f = f a := by
  simp [bind, andThen, pure]

theorem andThen_assoc {γ : Type} (x : Traced α) (f : α → Traced β) (g : β → Traced γ) :
    x >>= f >>= g = x >>= fun a => f a >>= g := by
  rcases x with ⟨log, _ | a⟩
  · simp [bind, andThen]
  · rcases h : (f a).result with _ | b <;> simp [bind, andThen, h]

instance : LawfulMonad Traced :=
  LawfulMonad.mk' Traced map_id_of pure_andThen andThen_assoc

end Traced

end TypedClients
