/-
# Tasks

Several tasks share a state and take turns.  A task changes the state in atomic pieces and gives up
its turn only where it waits: for the answer to a call, or until the shared state lets it go on.  A
task is a tree of such pieces; who runs when is not part of it.
-/
import SearchIndex.Service.Program

namespace SearchIndex

/-- A task on a shared state `σ`. -/
inductive Task (σ α : Type) where
  /-- The task has its result. -/
  | done (result : α)
  /-- An atomic change of the state, and what follows given the state before it. -/
  | atomic (change : σ → σ) (next : σ → Task σ α)
  /-- A call to the service, and what follows on each answer. -/
  | call (request : Call) (next : Answer → Task σ α)
  /-- Waiting until the state is ready, and what follows then. -/
  | wait (ready : σ → Bool) (next : Task σ α)

namespace Task

variable {σ α β : Type}

/-- One task after another. -/
def bind : Task σ α → (α → Task σ β) → Task σ β
  | done result, f => f result
  | atomic change next, f => atomic change fun s => (next s).bind f
  | call request next, f => call request fun answer => (next answer).bind f
  | wait ready next, f => wait ready (next.bind f)

instance : Monad (Task σ) where
  pure := done
  bind := bind

theorem bind_pure' (t : Task σ α) : (t >>= done) = t := by
  induction t with
  | done => rfl
  | atomic change next ih => exact congrArg (atomic change) (funext ih)
  | call request next ih => exact congrArg (call request) (funext ih)
  | wait ready next ih => exact congrArg (wait ready) ih

theorem bind_assoc' {γ : Type} (t : Task σ α) (f : α → Task σ β) (g : β → Task σ γ) :
    ((t >>= f) >>= g) = (t >>= fun a => f a >>= g) := by
  induction t with
  | done => rfl
  | atomic change next ih => exact congrArg (atomic change) (funext ih)
  | call request next ih => exact congrArg (call request) (funext ih)
  | wait ready next ih => exact congrArg (wait ready) ih

instance : LawfulMonad (Task σ) :=
  LawfulMonad.mk' (Task σ) (fun t => bind_pure' t) (fun _ _ => rfl) bind_assoc'

/-- The shared state. -/
def look : Task σ σ := atomic id done

/-- Changes the shared state. -/
def change (f : σ → σ) : Task σ Unit := atomic f fun _ => done ()

/-- Changes the shared state and returns something about the state before. -/
def step (f : σ → σ × α) : Task σ α := atomic (fun s => (f s).1) fun s => done (f s).2

/-- Waits until the state is ready. -/
def waitUntil (ready : σ → Bool) : Task σ Unit := wait ready (done ())

/-- A program as a task, given how log records change the state. -/
def ofProgram (record : Log.Entry → σ → σ) : Program α → Task σ α
  | .done result => done result
  | .call request next => call request fun answer => ofProgram record (next answer)
  | .log entry next => atomic (record entry) fun _ => ofProgram record next

end Task

end SearchIndex
