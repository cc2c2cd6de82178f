/-
Requests to other web services. A request may fail on its way; an answer has a status
and, if it arrived whole, a body.
-/

import Latchkey.Dialogue

namespace Latchkey.Http.Client

inductive Method where
  | get
  | post
  deriving DecidableEq, Repr

structure Call where
  method : Method
  url : String
  contentType : Option String := none
  authorization : Option String := none
  body : String := ""
  deriving DecidableEq, Repr

inductive Outcome where
  /-- The request did not arrive or was not answered. -/
  | failed
  /-- The body is missing where the answer broke off. -/
  | answered (status : Nat) (body : Option (List UInt8))
  deriving DecidableEq, Repr

end Client

def Client : Interface := ⟨Client.Call, fun _ => Client.Outcome⟩

end Latchkey.Http
