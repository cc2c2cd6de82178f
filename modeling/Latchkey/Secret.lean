/-
Random secrets as text: the URL-safe Base64 form of random bytes, of which there is one
at least.
-/

import Latchkey.Base64
import Latchkey.Failure

namespace Latchkey

inductive Secret.Fault where
  | empty
  deriving DecidableEq, Repr

namespace Secret

def Fault.message : Fault → String
  | empty => "random secret length must be positive"

def Fault.failure (fault : Fault) : Failure := .internal fault.message

def text (bytes : List UInt8) : String := Base64.encode .urlSafe bytes

def ofBytes (bytes : List UInt8) : Except Fault String :=
  if bytes.isEmpty then .error .empty else .ok (text bytes)

theorem ofBytes_of_ne_nil {bytes : List UInt8} (given : bytes ≠ []) :
    ofBytes bytes = .ok (text bytes) := if_neg (by simpa using given)

end Secret

end Latchkey
