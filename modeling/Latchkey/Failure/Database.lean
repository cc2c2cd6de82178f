/-
What can go wrong between this service and its database. A client learns from the
kind of fault, and from the five-character state code of a refused statement, whether
the database is unavailable for the moment; it never learns the details.
-/

import Latchkey.Problem

namespace Latchkey

inductive DatabaseFault where
  | rowMissing
  | poolExhausted
  | poolClosed
  | workerCrashed
  | connection (detail : String)
  | protocol (detail : String)
  | columnMissing (name : String)
  | columnUnreadable (name detail : String)
  | refused (message : String) (code constraint : Option String)
  /-- A fault of another kind, which only diagnostics tell apart: a configuration that cannot be
  used, a connection that cannot be encrypted, a value that cannot be sent, and so on. -/
  | other (kind detail : String)
  deriving DecidableEq, Repr

namespace DatabaseFault

def message : DatabaseFault → String
  | rowMissing => "no rows returned by a query that expected to return at least one row"
  | poolExhausted => "pool timed out while waiting for an open connection"
  | poolClosed => "attempted to acquire a connection on a closed pool"
  | workerCrashed => "attempted to communicate with a crashed background worker"
  | connection detail => "error communicating with database: " ++ detail
  | protocol detail => "encountered unexpected or invalid data: " ++ detail
  | columnMissing name => "no column found for name: " ++ name
  | columnUnreadable name detail =>
      "error occurred while decoding column " ++ Text.quoted name ++ ": " ++ detail
  | refused message _ _ => "error returned from database: " ++ message
  | other _ detail => detail

def uniqueViolation : String := "23505"

/-- The state codes of a server that is short of space, memory or connections. -/
def shortageCodes : List String := ["53000", "53100", "53200", "53300"]

/-- The state codes of a server that is going down or starting, or that was told to stop
a statement. -/
def interruptionCodes : List String := ["57000", "57014", "57P01", "57P02", "57P03"]

def refusalProblem (code : Option String) : Problem.Kind × String :=
  match code with
  | none => (.internalServerError, "Database error")
  | some code =>
      if code = uniqueViolation then (.conflict, "Duplicate key value")
      else if code ∈ shortageCodes then (.serviceUnavailable, "Database resource exhausted")
      else if code ∈ interruptionCodes then (.serviceUnavailable, "Database unavailable")
      else (.internalServerError, "Database error")

def problem (fault : DatabaseFault) : Problem :=
  let (kind, message) :=
    match fault with
    | rowMissing => (Problem.Kind.internalServerError, "Record not found")
    | poolExhausted => (.serviceUnavailable, "Database connection pool exhausted")
    | connection _ => (.serviceUnavailable, "Database connection error")
    | refused _ code _ => refusalProblem code
    | _ => (.internalServerError, "Database error")
  { kind, message, cause := some fault.message }

end DatabaseFault

end Latchkey
