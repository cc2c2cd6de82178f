/-
Problems that a web client is told about: a kind with its status, a message, an
advice what to do and the cause behind it. The cause is for diagnostics alone and
never part of an answer.
-/

import Latchkey.Http.Response
import Latchkey.Text.Quoted

namespace Latchkey

inductive Problem.Kind where
  | badRequest
  | unauthorized
  | forbidden
  | notFound
  | conflict
  | unprocessableEntity
  | tooManyRequests
  | internalServerError
  | notImplemented
  | serviceUnavailable
  deriving DecidableEq, Repr

namespace Problem.Kind

def all : List Kind :=
  [badRequest, unauthorized, forbidden, notFound, conflict, unprocessableEntity,
    tooManyRequests, internalServerError, notImplemented, serviceUnavailable]

def status : Kind → Nat
  | badRequest => 400
  | unauthorized => 401
  | forbidden => 403
  | notFound => 404
  | conflict => 409
  | unprocessableEntity => 422
  | tooManyRequests => 429
  | internalServerError => 500
  | notImplemented => 501
  | serviceUnavailable => 503

def phrase : Kind → String
  | badRequest => "Bad Request"
  | unauthorized => "Unauthorized"
  | forbidden => "Forbidden"
  | notFound => "Not Found"
  | conflict => "Conflict"
  | unprocessableEntity => "Unprocessable Entity"
  | tooManyRequests => "Too Many Requests"
  | internalServerError => "Internal Server Error"
  | notImplemented => "Not Implemented"
  | serviceUnavailable => "Service Unavailable"

def name (kind : Kind) : String :=
  String.ofList (kind.phrase.toList.filter (· != ' '))

def code (kind : Kind) : String :=
  String.ofList (kind.phrase.toList.map fun char => if char = ' ' then '_' else char.toUpper)

def isServerSide (kind : Kind) : Bool := 500 ≤ kind.status

def isClientSide (kind : Kind) : Bool := 400 ≤ kind.status && kind.status < 500

end Problem.Kind

structure Problem where
  kind : Problem.Kind
  message : String
  action : Option String := none
  cause : Option String := none
  deriving DecidableEq, Repr

namespace Problem

def text (problem : Problem) : String :=
  "[" ++ problem.kind.phrase ++ "] " ++ problem.message
    ++ (problem.action.map fun action => " (Action: " ++ action ++ ")").getD ""

def shown (problem : Problem) : String :=
  Text.shownRecord "AppError"
    ([("kind", problem.kind.name), ("message", Text.quoted problem.message)]
      ++ (problem.action.map fun action => ("action", Text.quoted action)).toList
      ++ (problem.cause.map fun cause => ("source", "Cause(" ++ Text.quoted cause ++ ")")).toList)

def response (problem : Problem) : Http.Response :=
  let status := problem.kind.status
  .of status (.json (.object [
    ("type", .text s!"https://httpstatuses.io/{status}"),
    ("title", .text problem.kind.phrase),
    ("status", .number (.whole status)),
    ("detail", .text problem.message),
    ("action", (problem.action.map Json.Value.text).getD .null)]))

end Problem

end Latchkey
