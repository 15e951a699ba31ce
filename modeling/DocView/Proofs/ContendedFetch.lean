import DocView.Proofs.Store.Contention
import DocView.Proofs.ViewDefinition

/-!
A query whose design document others write at the same time. Every attempt reads and writes the
document once, so as many attempts are refused as there is trouble, or as the budget allows.
-/

namespace DocView

namespace Materializer

section Attempts

variable {run : Materializer} {store later : MemoryStore} {remaining : Nat}
  {exchanges : List Exchange} {outcome : Outcome} {read write last : Answer} {body : Json}

end Attempts

end Materializer

end DocView
