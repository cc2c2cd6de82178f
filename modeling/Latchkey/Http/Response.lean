/-
Answers to web requests: a status, a body with its media type, and the two headers
that this service sets beside it.
-/

import Latchkey.Json.Basic

namespace Latchkey.Http

inductive Body where
  | empty
  | json (value : Json.Value)
  | text (value : String)

def Body.mediaType : Body → Option String
  | empty => none
  | json _ => some "application/json"
  | text _ => some "text/plain; charset=utf-8"

structure Response where
  status : Nat
  /-- The media type is kept apart from the body: an answer that leaves its body out
  still names the type of it. -/
  mediaType : Option String := none
  body : Body := .empty
  setCookie : Option String := none
  allow : Option String := none

def Response.of (status : Nat) (body : Body) : Response :=
  { status, mediaType := body.mediaType, body }

def Response.withoutBody (response : Response) : Response := { response with body := .empty }

end Latchkey.Http
