/-
What sign-ins and registrations ask of others: the store of accounts, the hasher of
passwords, the issuer of tokens, the identity provider, a source of random bytes and
the clock. A procedure is a dialogue that may fail; a request that fails ends it
unless the procedure says otherwise.
-/

import Latchkey.Account.AttemptRecord
import Latchkey.Dialogue
import Latchkey.Password.Policy
import Latchkey.Secret
import Latchkey.Token.Basic

namespace Latchkey

open Time (Instant)

structure ProviderUser where
  email : String := ""
  name : Option String := none
  emailVerified : Bool := false
  deriving DecidableEq, Repr

structure Signing.Request where
  kind : Token.Kind
  identity : Identity
  deriving DecidableEq, Repr

def Signing : Interface where
  Request := Signing.Request
  Reply := fun _ => Except Failure String

def Signing.pair (identity : Identity) : Dialogue Signing (Except Failure Token.Pair) :=
  .ask ⟨.access, identity⟩ fun
    | .error failure => .done (.error failure)
    | .ok access =>
        .ask ⟨.refresh, identity⟩ fun
          | .error failure => .done (.error failure)
          | .ok refresh => .done (.ok ⟨access, refresh⟩)

inductive Service.Request where
  | findAccount (email : Email)
  | createAccount (account : NewAccount)
  /-- Creates an account and runs the given dialogue on it, as one unit: where that fails
  there is no account. -/
  | createAccountWith (account : NewAccount)
      (issue : Account → Dialogue Signing (Except Failure Token.Pair))
  /-- Writes the lock fields of an account unless its row was written since it was read. -/
  | writeLock (account : Account)
  | findAttempts (email : Email)
  | writeAttempts (attempt : AttemptRecord)
  | hash (password : Password)
  | verify (hash : String) (password : Password)
  | sign (request : Signing.Request)
  | readToken (kind : Token.Kind) (token : String)
  /-- Trades the code that a provider gave for the user whom it stands for. -/
  | exchange (code : String)
  | random (count : Nat)
  | clock

abbrev Service.Reply : Service.Request → Type
  | .findAccount _ => Except Failure (Option Account)
  | .createAccount _ => Except Failure Account
  | .createAccountWith _ _ => Except Failure (Account × Token.Pair)
  | .writeLock _ => Except Failure Account
  | .findAttempts _ => Except Failure (Option AttemptRecord)
  | .writeAttempts _ => Except Failure AttemptRecord
  | .hash _ => Except Failure String
  | .verify _ _ => Except Failure Bool
  | .sign _ => Except Failure String
  | .readToken _ _ => Except Failure Identity
  | .exchange _ => Except Failure ProviderUser
  | .random _ => List UInt8
  | .clock => Instant

def Service : Interface := ⟨Service.Request, Service.Reply⟩

abbrev Procedure := ExceptT Failure (Dialogue Service)

namespace Procedure

def ask {α : Type} (request : Service.Request) (reply : Service.Reply request → Except Failure α) :
    Procedure α :=
  .mk (.ask request fun answer => .done (reply answer))

def ofExcept {α : Type} (outcome : Except Failure α) : Procedure α := .mk (.done outcome)

def findAccount (email : Email) : Procedure (Option Account) := ask (.findAccount email) id

def createAccount (account : NewAccount) : Procedure Account := ask (.createAccount account) id

def createAccountWith (account : NewAccount)
    (issue : Account → Dialogue Signing (Except Failure Token.Pair)) :
    Procedure (Account × Token.Pair) :=
  ask (.createAccountWith account issue) id

def hash (password : Password) : Procedure String := ask (.hash password) id

def verify (hash : String) (password : Password) : Procedure Bool := ask (.verify hash password) id

def readToken (kind : Token.Kind) (token : String) : Procedure Identity :=
  ask (.readToken kind token) id

def exchange (code : String) : Procedure ProviderUser := ask (.exchange code) id

def findAttempts (email : Email) : Procedure (Option AttemptRecord) := ask (.findAttempts email) id

def secret (count : Nat) : Procedure String :=
  ask (.random count) fun bytes => (Secret.ofBytes bytes).mapError Secret.Fault.failure

def clock : Procedure Instant := ask .clock .ok

def issuePair (identity : Identity) : Procedure Token.Pair :=
  .mk ((Signing.pair identity).relay Service.Request.sign fun _ reply => reply)

/-- The second part of a procedure whose failures are handled. -/
def caught {α : Type} (handler : Failure → Procedure α) :
    Except Failure α → Dialogue Service (Except Failure α)
  | .ok value => .done (.ok value)
  | .error failure => (handler failure).run

theorem run_tryCatch {α : Type} (procedure : Procedure α) (handler : Failure → Procedure α) :
    (tryCatch procedure handler).run = procedure.run >>= caught handler := by
  change (procedure.run >>= _) = _
  congr
  funext outcome
  cases outcome <;> rfl

end Procedure

end Latchkey
