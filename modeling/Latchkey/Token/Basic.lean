/-
What tokens are about: whose they are, which kind they are, and the pair that every
sign-in issues.
-/

import Latchkey.Account

namespace Latchkey

structure Identity where
  id : AccountId
  email : Email
  role : Role
  deriving DecidableEq, Repr

def Account.identity (account : Account) : Identity := ⟨account.id, account.email, account.role⟩

namespace Token

/-- An access token opens what belongs to an account; a refresh token is traded for a new
pair. -/
inductive Kind where
  | access
  | refresh
  deriving DecidableEq, Repr

def Kind.name : Kind → String
  | access => "access"
  | refresh => "refresh"

theorem Kind.name_injective {left right : Kind} (same : left.name = right.name) :
    left = right := by
  cases left <;> cases right <;> first | rfl | exact absurd same (by decide)

def Kind.rejection : Kind → Failure
  | access => .accessTokenRejected
  | refresh => .refreshTokenRejected

structure Pair where
  access : String
  refresh : String
  deriving DecidableEq, Repr

def Pair.shown (_ : Pair) : String :=
  Text.shownRecord "TokenPair"
    [("access_token", Text.quoted "[REDACTED]"), ("refresh_token", Text.quoted "[REDACTED]")]

end Token

end Latchkey
