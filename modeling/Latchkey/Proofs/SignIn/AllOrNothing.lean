/-
One sign-in through a provider, alone with the store. It signs in a user with a verified
email to the account that is there or to one that it creates, or it fails and leaves the
store as it was, wherever it fails.
-/

import Latchkey.Proofs.Service.Company
import Latchkey.Proofs.SignIn.WithCode

namespace Latchkey

open Store (Memory)

namespace SignIn

/-- Whether the provider gives a user for a code, and vouches for the user's email. -/
def Vouched (company : Company) (code : String) (email : Email) : Prop :=
  ∃ user, company.told (.exchange code) = .ok user ∧ user.emailVerified = true ∧
    Email.parse user.email = .ok email

/-- What a sign-in may come to, and the store after it. -/
inductive AllOrNothing (company : Company) (code : String) (store : Memory) :
    Except Failure Token.Pair → Memory → Prop
  | nothing (failure : Failure) : AllOrNothing company code store (.error failure) store
  | known {email : Email} {account : Account} {pair : Token.Pair} :
      Vouched company code email → store.findAccount email = some account →
      company.manner.Issues account.identity pair →
      AllOrNothing company code store (.ok pair) store
  | joined {email : Email} {account : Account} {pair : Token.Pair} :
      Vouched company code email → store.findAccount email = none → account.IsNewFor email →
      company.manner.Issues account.identity pair →
      AllOrNothing company code store (.ok pair)
        { store with accounts := ⟨store.accounts.entries ++ [(email, account)]⟩ }

variable {company : Company} {code : String} {store : Memory} {email : Email}

theorem withAccount_of_absent {account : Account}
    (absent : store.findAccount account.email = none) :
    store.withAccount account
      = { store with accounts := ⟨store.accounts.entries ++ [(account.email, account)]⟩ } :=
  congrArg (fun entries => { store with accounts := ⟨entries⟩ })
    (Store.ByEmail.putIn_of_absent absent account)

private theorem nameOf_ends {ends : Except Failure DisplayName → Memory → Prop}
    (user : ProviderUser) (named : ∀ name, ends (.ok name) store)
    (failed : ∀ failure, ends (.error failure) store) :
    (nameOf user).EndsSo company.answer store ends := by
  unfold nameOf
  cases DisplayName.ofProvider? user.name with
  | some name => exact named name
  | none =>
      rw [Procedure.endsSo_bind, Company.endsSo_secret]
      cases Secret.ofBytes _ with
      | error fault => exact failed _
      | ok secret => exact named _

private theorem createFor_ends (vouched : Vouched company code email) (user : ProviderUser) :
    (createFor user email).EndsSo company.answer store (AllOrNothing company code store) := by
  unfold createFor
  rw [Procedure.endsSo_bind, Company.endsSo_secret]
  cases Secret.ofBytes _ with
  | error fault => exact .nothing _
  | ok filler =>
  change (Procedure.hash _ >>= _ : Procedure Token.Pair).EndsSo _ _ _
  rw [Procedure.endsSo_bind, Company.endsSo_hash]
  cases company.told (.hash _) with
  | error failure => exact .nothing failure
  | ok passwordHash =>
      change (nameOf user >>= _ : Procedure Token.Pair).EndsSo _ _ _
      rw [Procedure.endsSo_bind]
      refine nameOf_ends user ?_ fun failure => .nothing failure
      intro name
      change (Procedure.createAccountWith _ _ >>= _ : Procedure Token.Pair).EndsSo _ _ _
      unfold Procedure.createAccountWith
      rw [Procedure.endsSo_bind, Procedure.endsSo_ask]
      have created := (company.serves store (.createAccountWith { name, email, passwordHash }
        fun created => Signing.pair created.identity)).createdWith
      generalize (company.answer _ store).1 = reply at created ⊢
      generalize (company.answer _ store).2 = after at created ⊢
      cases created with
      | taken _there => exact .nothing _
      | undone _failed => exact .nothing _
      | kept absent issued =>
          rw [withAccount_of_absent absent]
          exact .joined vouched absent (.create rfl rfl _ _) (Manner.endsBy_pair_ok.mp issued)

private theorem issueFound_ends {account : Account} (vouched : Vouched company code email)
    (there : store.findAccount email = some account) :
    (Procedure.issuePair account.identity).EndsSo company.answer store
      (AllOrNothing company code store) := by
  apply (Company.endsSo_issuePair account.identity).mono
  rintro outcome after ⟨rfl, issues⟩
  cases outcome with
  | error failure => exact .nothing failure
  | ok pair => exact .known vouched there (issues pair rfl)

private theorem withCurrentAccount_ends (vouched : Vouched company code email) :
    (withCurrentAccount email).EndsSo company.answer store (AllOrNothing company code store) := by
  unfold withCurrentAccount
  rw [Procedure.endsSo_bind, Company.endsSo_findAccount]
  cases there : store.findAccount email with
  | none => exact .nothing _
  | some account => exact issueFound_ends vouched there

private theorem withUser_ends (vouched : Vouched company code email) (user : ProviderUser) :
    (withUser user email).EndsSo company.answer store (AllOrNothing company code store) := by
  unfold withUser
  rw [Procedure.endsSo_bind, Company.endsSo_findAccount]
  cases there : store.findAccount email with
  | some account => exact issueFound_ends vouched there
  | none =>
      change (tryCatch _ _ : Procedure Token.Pair).EndsSo _ _ _
      rw [Procedure.endsSo_tryCatch]
      apply (createFor_ends vouched user).mono
      intro outcome after ended
      cases ended with
      | nothing failure =>
          cases failure <;> first | exact withCurrentAccount_ends vouched | exact .nothing _
      | known vouched there issues => exact .known vouched there issues
      | joined vouched absent new issues => exact .joined vouched absent new issues

/-- Whatever the provider answers and wherever hashing or signing fails, a sign-in through a
provider fails and changes nothing, or signs in a user with a verified email. -/
theorem withCode_allOrNothing (company : Company) (store : Memory) (page : ConsentPage)
    (code : String) :
    (withCode page code).EndsSo company.answer store (AllOrNothing company code store) := by
  cases page with
  | none => exact .nothing .providerMissing
  | some url =>
      cases blank : Text.isBlankText code with
      | true =>
          rw [withCode_blank rfl blank]
          exact .nothing .codeMissing
      | false =>
          rw [withCode_of_code rfl blank, Procedure.endsSo_bind, Company.endsSo_exchange]
          cases exchanged : company.told (.exchange code) with
          | error failure => exact .nothing failure
          | ok user =>
              change (Procedure.ofExcept _ >>= _ : Procedure Token.Pair).EndsSo _ _ _
              rw [Procedure.endsSo_bind]
              cases verified : verifiedEmail user with
              | error failure => exact .nothing failure
              | ok email =>
                  obtain ⟨_given, vouched, parsed⟩ := verifiedEmail_eq_ok.mp verified
                  exact withUser_ends ⟨user, exchanged, vouched, parsed⟩ user

def arrival (store : Memory) : Except Failure Token.Pair × Memory :=
  (withCode (some id) "4/0A").run.runIn Company.vouching.answer store

/-- The user joins at first and is found from then on. -/
theorem withCode_allOrNothing_arrival :
    ∃ pair email account, Vouched Company.vouching "4/0A" email ∧ account.IsNewFor email ∧
      arrival .empty = (.ok pair, ⟨⟨[(email, account)]⟩, .empty⟩) ∧
      arrival ⟨⟨[(email, account)]⟩, .empty⟩ = (.ok pair, ⟨⟨[(email, account)]⟩, .empty⟩) := by
  have first : (arrival .empty).1 = .ok ⟨"access for ada@b.org", "refresh for ada@b.org"⟩ := rfl
  have again : arrival (arrival .empty).2 = arrival .empty := rfl
  have ended : AllOrNothing Company.vouching "4/0A" .empty (arrival .empty).1 (arrival .empty).2 :=
    withCode_allOrNothing Company.vouching .empty (some id) "4/0A"
  have joined : arrival .empty = ((arrival .empty).1, (arrival .empty).2) := rfl
  generalize (arrival .empty).1 = outcome at first ended joined
  generalize (arrival .empty).2 = after at again ended joined
  cases ended with
  | nothing failure => cases first
  | known _vouched there _issues => cases there
  | @joined email account pair vouched _absent new _issues =>
      exact ⟨pair, email, account, vouched, new, joined, again.trans joined⟩

end SignIn

end Latchkey
