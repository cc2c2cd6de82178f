/-
Web requests: a method, a target, headers and a body.
-/

import Latchkey.Http.Target

namespace Latchkey.Http

structure Request where
  method : String
  target : Target
  headers : Headers := []
  body : List UInt8 := []
  deriving DecidableEq, Repr

inductive Request.Fault where
  | illegalValue
  | illegalRequest
  deriving DecidableEq, Repr

def Request.make (method : String) (target : List UInt8) (headers : Headers) (body : List UInt8) :
    Except Request.Fault Request :=
  if headers.any fun header => !isLegalValue header.value then .error .illegalValue
  else if !isToken method.toList ∨ headers.any fun header => !isToken header.name.toList then
    .error .illegalRequest
  else
    match Target.parse? target with
    | some target => .ok { method, target, headers, body }
    | none => .error .illegalRequest

def Request.headerText? (request : Request) (name : String) : Option (List Char) :=
  (request.headers.valuesOf name).head?.bind textOfValue?

end Latchkey.Http
