/-
This file lists what can go wrong with a request: it cannot be built, its address
has a scheme that is not served or is none that a message can name, it is not sent
or not answered, it is redirected without an end, or the answer's body cannot be read.
-/

namespace Fixity.Http

/-- A failed exchange. Addresses are given where the wording shows them. -/
inductive Fault where
  | unbuildable
  | foreignScheme (url : String)
  | unnameable (url : String)
  | unsent (url : String)
  | endless (url : String)
  | undecodable
deriving Repr, DecidableEq

/-- The wording of a fault. -/
def Fault.message : Fault → String
  | unbuildable => "builder error"
  | foreignScheme url | unnameable url => s!"builder error for url ({url})"
  | unsent url => s!"error sending request for url ({url})"
  | endless url => s!"error following redirect for url ({url})"
  | undecodable => "error decoding response body"

end Fixity.Http
