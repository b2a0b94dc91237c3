/-
# Programs of calls

What the library does with the service is written as a program: a tree of calls, each followed by
what is done with its answer.  A program fixes no meaning for its calls, so it can be run against an
actual service, against one held in memory, or against any sequence of answers at all.  An `Action`
is a program that may fail.
-/
import SearchIndex.Service.Call
import SearchIndex.Log

namespace SearchIndex

/-- A program that calls the service and writes log records. -/
inductive Program (α : Type) where
  /-- The program has its result. -/
  | done (result : α)
  /-- A call, and what follows on each answer. -/
  | call (request : Call) (next : Answer → Program α)
  /-- A log record, and what follows it. -/
  | log (entry : Log.Entry) (next : Program α)

namespace Program

variable {α β : Type}

/-- One program after another. -/
def bind : Program α → (α → Program β) → Program β
  | done result, f => f result
  | call request next, f => call request fun answer => (next answer).bind f
  | log entry next, f => log entry (next.bind f)

instance : Monad Program where
  pure := done
  bind := bind

@[simp] theorem pure_eq (a : α) : (pure a : Program α) = done a := rfl

@[simp] theorem bind_done (a : α) (f : α → Program β) : (done a >>= f) = f a := rfl

@[simp] theorem bind_call (request : Call) (next : Answer → Program α) (f : α → Program β) :
    (call request next >>= f) = call request fun answer => next answer >>= f := rfl

@[simp] theorem bind_log (entry : Log.Entry) (next : Program α) (f : α → Program β) :
    (log entry next >>= f) = log entry (next >>= f) := rfl

theorem bind_pure' (p : Program α) : (p >>= done) = p := by
  induction p with
  | done => rfl
  | call request next ih => simp [ih]
  | log entry next ih => simp [ih]

theorem bind_assoc' {γ : Type} (p : Program α) (f : α → Program β) (g : β → Program γ) :
    ((p >>= f) >>= g) = (p >>= fun a => f a >>= g) := by
  induction p with
  | done => rfl
  | call request next ih => simp [ih]
  | log entry next ih => simp [ih]

instance : LawfulMonad Program :=
  LawfulMonad.mk' Program (fun p => bind_pure' p) (fun _ _ => rfl) bind_assoc'

/-- Runs a program against a service that answers and changes its state. -/
def run {σ : Type} (serve : σ → Call → Answer × σ) : Program α → σ → α × σ
  | done result, s => (result, s)
  | call request next, s =>
    let (answer, s') := serve s request
    (next answer).run serve s'
  | log _ next, s => next.run serve s

/-- The calls of a run together with their answers, one answer taken from the list for each call;
the run ends where the answers do. -/
def trace : Program α → List Answer → List (Call × Answer)
  | call request next, answer :: answers => (request, answer) :: (next answer).trace answers
  | log _ next, answers => next.trace answers
  | _, _ => []

/-- The result of the program under the given answers, if they suffice. -/
def result? : Program α → List Answer → Option α
  | done result, _ => some result
  | call _ next, answer :: answers => (next answer).result? answers
  | call _ _, [] => none
  | log _ next, answers => next.result? answers

end Program

/-- A program that may fail. -/
abbrev Action (α : Type) := ExceptT Failure Program α

namespace Action

variable {α : Type}

/-- Writes a log record. -/
def note (level : Log.Level) (source : Log.Source) (text : String) : Action Unit :=
  .mk (.log ⟨level, source, text⟩ (.done (.ok ())))

/-- Fails with a failure or goes on with a value. -/
def ofExcept (e : Except Failure α) : Action α := .mk (.done e)

/-- Makes a call and judges its answer. -/
def request (call : Call) (ignored : List Int) : Action Response :=
  .mk (.call call fun answer =>
    let judged := answer.judge call.method call.path ignored
    match answer with
    | .reply status _ =>
      .log ⟨.debug, .client, s!"{call.method} {call.path} -> {status}"⟩ (.done judged)
    | _ => .done judged)

end Action

end SearchIndex
