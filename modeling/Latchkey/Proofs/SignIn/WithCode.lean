/-
The conduct of one sign-in through a provider, whoever else uses the store. It ends with a
pair for the identity of an account that it found under the verified email, or that it
created there; and where it says that the email is taken or the account is missing, somebody
told it so who should not have.
-/

import Latchkey.Proofs.Result
import Latchkey.Proofs.Service.Manner
import Latchkey.SignIn.Provider

namespace Latchkey.SignIn

open Dialogue (Contract Obeys)

theorem verifiedEmail_eq_ok {user : ProviderUser} {email : Email} :
    verifiedEmail user = .ok email ↔
      Text.isBlankText user.email = false ∧ user.emailVerified = true ∧
        Email.parse user.email = .ok email := by
  unfold verifiedEmail
  cases Text.isBlankText user.email with
  | true => simp
  | false =>
      cases user.emailVerified with
      | false => simp
      | true => simp [Result.mapError_eq_ok]

theorem verifiedEmail_error {user : ProviderUser} {failure : Failure}
    (refused : verifiedEmail user = .error failure) : failure.isOfStore = false := by
  unfold verifiedEmail at refused
  split at refused
  · cases refused
    rfl
  · split at refused
    · cases refused
      rfl
    · cases parsed : Email.parse user.email with
      | ok email =>
          rw [parsed] at refused
          cases refused
      | error problem =>
          rw [parsed] at refused
          cases refused
          rfl

def issueFor (created : Account) : Dialogue Signing (Except Failure Token.Pair) :=
  Signing.pair created.identity

def FoundTaken (email : Email) (past : List (Exchange Service)) : Prop :=
  ∃ account, account.email = email ∧
    (⟨.createAccountWith account issueFor,
      (.error .emailTaken : Except Failure (Account × Token.Pair))⟩ : Exchange Service) ∈ past

def Told (manner : Manner) (past : List (Exchange Service)) :
    (request : Service.Request) → Service.Reply request → Prop
  | .findAccount email, reply =>
      ∃ found, reply = .ok found ∧ (manner.LeavesToStore → FoundTaken email past → found ≠ none)
  | .createAccountWith _ issue, reply =>
      ∀ failure, reply = .error failure →
        failure = .emailTaken ∨ ∃ created, (issue created).EndsBy manner.signs (.error failure)
  | .hash password, reply => manner (.hash password) reply
  | .sign request, reply => manner (.sign request) reply
  | .exchange code, reply => manner (.exchange code) reply
  | _, _ => True

def telling (manner : Manner) : Contract Service where
  asks := fun _past _request => True
  hears := Told manner

/-- Whether a pair is for an account that was found under an email, or created there. -/
inductive Admitted (manner : Manner) (email : Email) (past : List (Exchange Service))
    (pair : Token.Pair) : Prop
  | found {account : Account} :
      (⟨.findAccount email, (.ok (some account) : Except Failure (Option Account))⟩ :
        Exchange Service) ∈ past →
      manner.Issues account.identity pair → Admitted manner email past pair
  | created {account : NewAccount} {created : Account} :
      account.email = email →
      (⟨.createAccountWith account issueFor,
        (.ok (created, pair) : Except Failure (Account × Token.Pair))⟩ : Exchange Service) ∈ past →
      Admitted manner email past pair

def EndsFor (manner : Manner) (email : Email) (past : List (Exchange Service)) :
    Except Failure Token.Pair → Prop
  | .ok pair => Admitted manner email past pair
  | .error failure => manner.LeavesToStore → failure.isOfStore = false

section Conduct

variable {manner : Manner} {email : Email} {past later : List (Exchange Service)}

private theorem issuing_obeys (identity : Identity) :
    Obeys (telling manner)
      (fun _later outcome =>
        match outcome with
        | .ok pair => manner.Issues identity pair
        | .error failure => manner.LeavesToStore → failure.isOfStore = false)
      past (Procedure.issuePair identity).run := by
  refine ⟨trivial, ?_⟩
  intro access accessTold
  cases access with
  | error failure =>
      intro leaves
      exact leaves.sign _ failure accessTold
  | ok access =>
      refine ⟨trivial, ?_⟩
      intro refresh refreshTold
      cases refresh with
      | error failure =>
          intro leaves
          exact leaves.sign _ failure refreshTold
      | ok refresh => exact ⟨accessTold, refreshTold⟩

private theorem issueFound_obeys {account : Account}
    (told : (⟨.findAccount email, (.ok (some account) : Except Failure (Option Account))⟩ :
      Exchange Service) ∈ past) :
    Obeys (telling manner) (EndsFor manner email) past
      (Procedure.issuePair account.identity).run := by
  apply (issuing_obeys account.identity).growing.mono
  rintro later outcome ⟨grown, ended⟩
  cases outcome with
  | ok pair => exact .found (grown.subset told) ended
  | error failure => exact ended

private theorem withCurrentAccount_obeys
    (taken : manner.LeavesToStore → FoundTaken email past) :
    Obeys (telling manner) (EndsFor manner email) past (withCurrentAccount email).run := by
  unfold withCurrentAccount Procedure.findAccount
  rw [Procedure.obeys_bind, Procedure.obeys_asking]
  refine ⟨trivial, ?_⟩
  rintro answer ⟨found, rfl, present⟩
  cases found with
  | none =>
      intro leaves
      exact absurd rfl (present leaves (taken leaves))
  | some account => exact issueFound_obeys List.mem_cons_self

/-- How the creation of an account for a user ends: an email that is taken was said to be so
by the store. -/
def EndsCreation (manner : Manner) (email : Email) (past : List (Exchange Service)) :
    Except Failure Token.Pair → Prop
  | .ok pair => Admitted manner email past pair
  | .error failure => manner.LeavesToStore →
      failure = .emailTaken ∧ FoundTaken email past ∨ failure.isOfStore = false

private theorem nameOf_obeys {ends : List (Exchange Service) → Except Failure DisplayName → Prop}
    (user : ProviderUser) (named : ∀ later name, ends later (.ok name))
    (failed : ∀ later fault, ends later (.error (Secret.Fault.failure fault))) :
    Obeys (telling manner) ends past (nameOf user).run := by
  unfold nameOf
  cases DisplayName.ofProvider? user.name with
  | some name => exact named past name
  | none =>
      rw [Procedure.obeys_bind, Procedure.secret, Procedure.obeys_asking]
      refine ⟨trivial, fun bytes _drawn => ?_⟩
      cases Secret.ofBytes bytes with
      | error fault => exact failed _ fault
      | ok secret => exact named _ _

private theorem createFor_obeys (user : ProviderUser) :
    Obeys (telling manner) (EndsCreation manner email) past (createFor user email).run := by
  unfold createFor Procedure.secret Procedure.hash Procedure.createAccountWith
  rw [Procedure.obeys_bind, Procedure.obeys_asking]
  refine ⟨trivial, ?_⟩
  intro bytes _drawn
  cases Secret.ofBytes bytes with
  | error fault => exact fun _leaves => Or.inr rfl
  | ok filler =>
      change Obeys _ _ _ (Procedure.ask _ _ >>= _ : Procedure Token.Pair).run
      rw [Procedure.obeys_bind, Procedure.obeys_asking]
      refine ⟨trivial, ?_⟩
      intro hashed hashTold
      cases hashed with
      | error failure =>
          intro leaves
          exact Or.inr (leaves.hash _ failure hashTold)
      | ok passwordHash =>
          change Obeys _ _ _ (nameOf user >>= _ : Procedure Token.Pair).run
          rw [Procedure.obeys_bind]
          refine nameOf_obeys user ?_ fun later fault _leaves => Or.inr rfl
          intro later name
          change Obeys _ _ _ (Procedure.ask _ _ >>= _ : Procedure Token.Pair).run
          rw [Procedure.obeys_bind, Procedure.obeys_asking]
          refine ⟨trivial, ?_⟩
          intro reply replyTold
          cases reply with
          | ok both => exact .created rfl List.mem_cons_self
          | error failure =>
              intro leaves
              rcases replyTold failure rfl with rfl | ⟨created, ended⟩
              · exact Or.inl ⟨rfl, _, rfl, List.mem_cons_self⟩
              · obtain ⟨kind, signed⟩ := Manner.exists_sign_of_endsBy_pair ended
                exact Or.inr (leaves.sign _ failure signed)

private theorem withUser_obeys (user : ProviderUser) :
    Obeys (telling manner) (EndsFor manner email) past (withUser user email).run := by
  unfold withUser Procedure.findAccount
  rw [Procedure.obeys_bind, Procedure.obeys_asking]
  refine ⟨trivial, ?_⟩
  rintro answer ⟨found, rfl, _present⟩
  cases found with
  | some account => exact issueFound_obeys List.mem_cons_self
  | none =>
      change Obeys _ _ _ (tryCatch _ _ : Procedure Token.Pair).run
      rw [Procedure.obeys_tryCatch]
      apply (createFor_obeys user).mono
      intro later outcome ended
      cases outcome with
      | ok pair => exact ended
      | error failure =>
          by_cases taken : failure = .emailTaken
          · -- somebody else was first, whose account is signed in
            subst taken
            apply withCurrentAccount_obeys
            intro leaves
            rcases ended leaves with ⟨_same, found⟩ | other
            · exact found
            · cases other
          · have rethrown : Obeys (telling manner) (EndsFor manner email) later
                (throw failure : Procedure Token.Pair).run := by
              intro leaves
              rcases ended leaves with ⟨same, _found⟩ | other
              · exact absurd same taken
              · exact other
            cases failure <;> first | exact absurd rfl taken | exact rethrown

def EndsWithCode (manner : Manner) (code : String) (past : List (Exchange Service)) :
    Except Failure Token.Pair → Prop
  | .ok pair => ∃ user email,
      (⟨.exchange code, (.ok user : Except Failure ProviderUser)⟩ : Exchange Service) ∈ past ∧
        verifiedEmail user = .ok email ∧ Admitted manner email past pair
  | .error failure => manner.LeavesToStore → failure.isOfStore = false

theorem withCode_obeys (page : ConsentPage) (code : String) :
    Obeys (telling manner) (EndsWithCode manner code) past (withCode page code).run := by
  cases page with
  | none =>
      rw [withCode_unset]
      intro _leaves
      rfl
  | some url =>
      cases blank : Text.isBlankText code with
      | true =>
          rw [withCode_blank rfl blank]
          intro _leaves
          rfl
      | false =>
          rw [withCode_of_code rfl blank]
          unfold Procedure.exchange
          rw [Procedure.obeys_bind, Procedure.obeys_asking]
          refine ⟨trivial, ?_⟩
          intro exchanged exchangeTold
          cases exchanged with
          | error failure =>
              intro leaves
              exact leaves.exchange code failure exchangeTold
          | ok user =>
              change Obeys _ _ _ (Procedure.ofExcept _ >>= _ : Procedure Token.Pair).run
              rw [Procedure.obeys_bind]
              cases verified : verifiedEmail user with
              | error failure => exact fun _leaves => verifiedEmail_error verified
              | ok email =>
                  apply (withUser_obeys user).growing.mono
                  rintro later outcome ⟨grown, ended⟩
                  cases outcome with
                  | error failure => exact ended
                  | ok pair => exact ⟨user, email, grown.subset List.mem_cons_self, verified, ended⟩

end Conduct

end Latchkey.SignIn
