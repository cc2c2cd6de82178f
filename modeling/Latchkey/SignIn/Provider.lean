/-
Signing in through an identity provider: sending people to its consent page, and
turning the code that it sends back into a pair of tokens for the account with the
verified email. The first such sign-in creates the account, and the tokens are issued
within the creation, so that where they cannot be there is no account.
-/

import Latchkey.Service
import Latchkey.Text.Blank

namespace Latchkey.SignIn

/-- The consent page of a provider, as a URL for each state; none where no provider is set
up. -/
abbrev ConsentPage := Option (String → String)

def consentUrl (page : ConsentPage) (state : String) : Except Failure String :=
  match page with
  | none => .error .providerMissing
  | some url => if Text.isBlankText state then .error .stateMissing else .ok (url state)

def fillerLength : Nat := 32

def nameOf (user : ProviderUser) : Procedure DisplayName :=
  match DisplayName.ofProvider? user.name with
  | some name => pure name
  | none => do pure (.generated (← Procedure.secret DisplayName.randomLength))

/-- Creates the account of a user who signs in for the first time, with a password that
nobody knows. -/
def createFor (user : ProviderUser) (email : Email) : Procedure Token.Pair := do
  let filler ← Procedure.secret fillerLength
  let passwordHash ← Procedure.hash (.typed filler)
  let name ← nameOf user
  let (_, pair) ← Procedure.createAccountWith { name, email, passwordHash }
    fun account => Signing.pair account.identity
  pure pair

def withCurrentAccount (email : Email) : Procedure Token.Pair := do
  match ← Procedure.findAccount email with
  | none => throw .accountMissing
  | some account => Procedure.issuePair account.identity

/-- The email of a user whom the provider has verified. -/
def verifiedEmail (user : ProviderUser) : Except Failure Email :=
  if Text.isBlankText user.email then .error .providerEmailMissing
  else if !user.emailVerified then .error .providerEmailUnverified
  else (Email.parse user.email).mapError fun _ => .providerUserInvalid

/-- Signs in a user with a verified email. Whoever creates the account first, everyone signs
in with that one. -/
def withUser (user : ProviderUser) (email : Email) : Procedure Token.Pair := do
  match ← Procedure.findAccount email with
  | some account => Procedure.issuePair account.identity
  | none =>
      tryCatch (createFor user email) fun
        | .emailTaken => withCurrentAccount email
        | failure => throw failure

def withCode (page : ConsentPage) (code : String) : Procedure Token.Pair := do
  if page.isNone then throw .providerMissing
  if Text.isBlankText code then throw .codeMissing
  let user ← Procedure.exchange code
  let email ← Procedure.ofExcept (verifiedEmail user)
  withUser user email

theorem withCode_unset (code : String) : withCode none code = throw .providerMissing := rfl

theorem withCode_blank {page : ConsentPage} {code : String} (set : page.isSome)
    (blank : Text.isBlankText code) : withCode page code = throw .codeMissing := by
  obtain ⟨url, rfl⟩ := Option.isSome_iff_exists.mp set
  unfold withCode
  simp only [Option.isNone_some, blank, if_true]
  rfl

theorem withCode_of_code {page : ConsentPage} {code : String} (set : page.isSome)
    (given : Text.isBlankText code = false) :
    withCode page code = (do
      let user ← Procedure.exchange code
      let email ← Procedure.ofExcept (verifiedEmail user)
      withUser user email) := by
  obtain ⟨url, rfl⟩ := Option.isSome_iff_exists.mp set
  unfold withCode
  simp only [Option.isNone_some, given]
  rfl

end Latchkey.SignIn
