/-
What a client learns of a failure. A failure with its details struck out has the answer of the
failure itself. So two failures that are the same but for their details cannot be told apart
from outside, and neither can the faults and problems that they were made of.
-/

import Mathlib.Tactic.SplitIfs
import Latchkey.Failure
import Latchkey.Password.Hashing
import Latchkey.Secret

namespace Latchkey

/-- A fault without its details: what is left is its kind and, of a refused statement, the
state code. -/
def DatabaseFault.redacted : DatabaseFault → DatabaseFault
  | rowMissing => rowMissing
  | poolExhausted => poolExhausted
  | poolClosed => poolClosed
  | workerCrashed => workerCrashed
  | connection _ => connection ""
  | protocol _ => protocol ""
  | columnMissing _ => columnMissing ""
  | columnUnreadable _ _ => columnUnreadable "" ""
  | refused _ code _ => refused "" code none
  | other kind _ => other kind ""

/-- A failure without its details: what is left is its kind, the end of a lock, what is wrong
with the input, and what is left of a fault of the database. -/
def Failure.redacted : Failure → Failure
  | providerFailed _ => providerFailed ""
  | signingFailed _ => signingFailed ""
  | database fault => database fault.redacted
  | internal _ => internal ""
  | failure => failure

theorem Problem.response_withoutCause (problem : Problem) :
    { problem with cause := none }.response = problem.response := rfl

theorem DatabaseFault.response_redacted (fault : DatabaseFault) :
    fault.redacted.problem.response = fault.problem.response := by
  have alike : { fault.redacted.problem with cause := none } =
      { fault.problem with cause := none } := by
    cases fault <;> rfl
  rw [← fault.redacted.problem.response_withoutCause, alike, fault.problem.response_withoutCause]

theorem Failure.response_redacted (failure : Failure) :
    failure.redacted.response = failure.response := by
  cases failure with
  | database fault => exact fault.response_redacted
  | _ => rfl

def Problem.aboutInput? (problem : Problem) : Option String :=
  match problem.kind with
  | .badRequest | .unprocessableEntity => some problem.message
  | _ => none

theorem Failure.redacted_ofProblem (problem : Problem) :
    (ofProblem problem).redacted =
      match problem.aboutInput? with
      | some message => invalidInput message
      | none => internal "" := by
  unfold ofProblem Problem.aboutInput?
  cases problem.kind <;> rfl

private theorem DatabaseFault.kind_problem (fault : DatabaseFault) :
    fault.problem.kind ∈ [.internalServerError, .conflict, .serviceUnavailable] := by
  cases fault with
  | refused message code constraint =>
      change (refusalProblem code).1 ∈ _
      cases code with
      | none => decide
      | some code =>
          unfold refusalProblem
          dsimp only
          split_ifs <;> decide
  | _ => simp [problem]

theorem DatabaseFault.aboutInput?_problem (fault : DatabaseFault) :
    fault.problem.aboutInput? = none := by
  have kinds := fault.kind_problem
  unfold Problem.aboutInput?
  split
  · next bad => simp [bad] at kinds
  · next bad => simp [bad] at kinds
  · rfl

/-- Whether an answer is a JSON object that names the status of the answer. -/
def Http.Response.NamesItsStatus (response : Http.Response) : Prop :=
  response.mediaType = some "application/json" ∧
    ∃ value, response.body = .json value ∧
      value.get? "status" = some (.number (.whole response.status))

theorem Problem.response_namesItsStatus (problem : Problem) : problem.response.NamesItsStatus :=
  ⟨rfl, _, rfl, rfl⟩

theorem Failure.response_namesItsStatus (failure : Failure) : failure.response.NamesItsStatus := by
  cases failure <;> exact Problem.response_namesItsStatus _

/-- Failures that are the same but for their details have the same answer, in status, headers
and body, and so have failures that were made of problems that say the same about the input if
anything, of faults of the database that were problems first, of faults of password hashes and
of faults of secrets. Every answer names its own status. -/
theorem Failure.response_of_redacted :
    (∀ failure other : Failure, failure.redacted = other.redacted →
      failure.response = other.response) ∧
    (∀ problem other : Problem, problem.aboutInput? = other.aboutInput? →
      (ofProblem problem).response = (ofProblem other).response) ∧
    (∀ (fault : DatabaseFault) (detail : String),
      (ofProblem fault.problem).response = (internal detail).response) ∧
    (∀ (fault : Password.HashFault) (detail : String),
      fault.failure.response = (internal detail).response) ∧
    (∀ (fault : Secret.Fault) (detail : String),
      fault.failure.response = (internal detail).response) ∧
    ∀ failure : Failure, failure.response.NamesItsStatus := by
  have alike (failure other : Failure) (same : failure.redacted = other.redacted) :
      failure.response = other.response := by
    rw [← failure.response_redacted, same, other.response_redacted]
  refine ⟨alike, ?_, ?_, ?_, ?_, response_namesItsStatus⟩
  · intro problem other same
    apply alike
    rw [redacted_ofProblem, redacted_ofProblem, same]
  · intro fault detail
    apply alike
    rw [redacted_ofProblem, fault.aboutInput?_problem]
    rfl
  · intro fault detail
    exact alike _ _ rfl
  · intro fault detail
    exact alike _ _ rfl

/-- Neither the account in a message of the database nor the index is told, and neither is what
a problem says about the inside. -/
theorem Failure.response_of_redacted_takenEmail :
    let told := DatabaseFault.refused "Key (email)=(ada@example.com) already exists."
      (some "23505") (some "accounts_email_key")
    let untold := DatabaseFault.refused "" (some "23505") none
    let conflict : Problem := { kind := .conflict, message := "ada@example.com", cause := some "row 7" }
    let outage : Problem := { kind := .serviceUnavailable, message := "10.0.0.7 is down" }
    ((database told).redacted = (database untold).redacted ∧
        (database told).response = (database untold).response) ∧
      conflict.aboutInput? = outage.aboutInput? ∧
        (ofProblem conflict).response = (ofProblem outage).response :=
  ⟨⟨rfl, response_of_redacted.1 _ _ rfl⟩, rfl, response_of_redacted.2.1 _ _ rfl⟩

end Latchkey
