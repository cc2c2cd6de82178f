/-
What follows upon a registration: whoever registered signs in under every spelling of the
email and of the password that comes to the same, whatever the record of the email says;
another password is refused, and so is another registration.
-/

import Latchkey.Proofs.Dialogue.Alone
import Latchkey.Proofs.Lockout.Consistency
import Latchkey.Proofs.Lockout.Rounds
import Latchkey.Proofs.SignIn.Renewal
import Latchkey.Proofs.Store.Answers
import Latchkey.Proofs.Store.NewUsers
import Latchkey.SignIn.Password
import Latchkey.SignIn.Registration

namespace Latchkey

open Store (Memory)
open Time (Instant)
open Token (Issuer)
open Token.Issuer (IsAlive)

/-- Whether the first failure engages a lock that is over before it begins. -/
def LockoutPolicy.LocksInVain (policy : LockoutPolicy) (now : Instant) : Prop :=
  policy.threshold ≤ 1 ∧ ¬now < now.deadline policy.lockSpan

namespace Account.IsNewFor

variable {account : Account} {email : Email} {policy : LockoutPolicy} {now : Instant}

theorem identity (new : account.IsNewFor email) : account.identity = ⟨account.id, email, .user⟩ := by
  unfold Account.identity
  rw [new.email, new.role]

theorem lockState (new : account.IsNewFor email) : account.lockState now = .unlocked := by
  rw [lockState_eq_unlocked]
  refine ⟨new.lockedUntil, ?_⟩
  rw [new.status]
  decide

theorem validate_registerFailure (new : account.IsNewFor email) :
    (account.registerFailure policy now).validate now = .ok () ↔ ¬policy.LocksInVain now := by
  unfold LockoutPolicy.LocksInVain
  by_cases below : account.failures + 1 < policy.threshold
  · rw [registerFailure_below below, validate_countFailure, new.status, new.lockedUntil]
    rw [new.failures] at below
    have high : ¬policy.threshold ≤ 1 := by omega
    simp [high]
  · rw [registerFailure_reaching below, validate_eq_ok,
      and_iff_left (failuresAgree_of_none rfl), lockAgrees_iff]
    rw [new.failures] at below
    have low : policy.threshold ≤ 1 := by omega
    simp [engageLock, low]

theorem gate (new : account.IsNewFor email) : Lockout.gate account now = pure account := by
  unfold Lockout.gate
  rw [new.lockState]

theorem recordSuccess (new : account.IsNewFor email) :
    Lockout.recordSuccess account now = pure account := by
  have nothing : account.hasFailures = false := by
    unfold hasFailures
    rw [new.failures, new.lastFailure]
    rfl
  have idle : Lockout.forgetting now account = .ok none := by
    unfold Lockout.forgetting
    rw [nothing]
    rfl
  exact Lockout.apply_idle 2 idle

theorem counting (new : account.IsNewFor email) :
    Lockout.counting policy now account = .ok (some (account.registerFailure policy now)) := by
  unfold Lockout.counting
  rw [new.lockState]

end Account.IsNewFor

namespace Service.Local

variable {service : Service.Local}

theorem endsSo_findAccount {ends : Except Failure (Option Account) → Service.Local → Prop}
    (email : Email) :
    (Procedure.findAccount email).EndsSo answer service ends ↔
      ends (.ok (service.store.findAccount email)) service := Iff.rfl

theorem endsSo_verify {ends : Except Failure Bool → Service.Local → Prop} (hash : String)
    (password : Password) :
    (Procedure.verify hash password).EndsSo answer service ends ↔
      ends (.ok (service.hasher.verify hash password)) service := Iff.rfl

theorem endsSo_hash {ends : Except Failure String → Service.Local → Prop} (password : Password) :
    (Procedure.hash password).EndsSo answer service ends ↔
      ends (.ok (service.hasher.hash password (service.supply service.draws service.hasher.saltLength)))
        { service with draws := service.draws + 1 } := Iff.rfl

end Service.Local

namespace SignIn

variable {service later : Service.Local} {account : Account} {address : Email}
  {policy : LockoutPolicy} {now : Instant}

theorem recordFailure_ends (new : account.IsNewFor address)
    (there : service.store.findAccount address = some account) :
    (Lockout.recordFailure policy account now).EndsSo Service.Local.answer service
      fun outcome rest =>
        policy.LocksInVain now ∧ rest = service ∧ (∃ detail, outcome = .error (.internal detail)) ∨
          ¬policy.LocksInVain now ∧ ∃ written, outcome = .ok written := by
  change (Lockout.apply _ now (2 + 1) account).EndsSo _ _ _
  cases valid : (account.registerFailure policy now).validate now with
  | error failure =>
      have vain : policy.LocksInVain now := by
        by_contra sound
        rw [new.validate_registerFailure.mpr sound] at valid
        cases valid
      obtain ⟨detail, rfl⟩ := Account.validate_eq_error valid
      rw [Lockout.apply_invalid 2 new.counting valid]
      exact Or.inl ⟨vain, rfl, detail, rfl⟩
  | ok done =>
      have sound := new.validate_registerFailure.mp valid
      have found : service.store.findAccount account.email = some account := by
        rw [new.email]
        exact there
      have relocks : account.OnlyRelocks (account.registerFailure policy now) :=
        Lockout.Step.change_onlyRelocks .count policy now account
      have told : Service.Local.answer (.writeLock (account.registerFailure policy now)) service
          = (.ok (account.registerFailure policy now).next, _) :=
        Service.Local.onStore_ok (·.writeLock (account.registerFailure policy now))
          (Memory.writeLock_current found relocks)
      rw [Lockout.apply_valid 2 new.counting valid, Procedure.endsSo_bind, Procedure.endsSo_ask, told]
      exact Or.inr ⟨sound, _, rfl⟩

structure Names (issuer : Issuer) (second : Int) (identity : Identity) (pair : Token.Pair) :
    Prop where
  access : ∀ check, IsAlive issuer.accessSpan second check →
    issuer.read .access pair.access check = .ok identity
  refresh : ∀ check, IsAlive issuer.refreshSpan second check →
    issuer.read .refresh pair.refresh check = .ok identity

theorem issuePair_names {identity : Identity} {raw : String}
    (parsed : Email.parse raw = .ok identity.email) (supplied : Supplied service)
    (begun : 0 ≤ service.now.second) :
    (Procedure.issuePair identity).EndsSo Service.Local.answer service fun outcome rest =>
      rest.store = service.store ∧
        ∃ pair, outcome = .ok pair ∧ Names service.issuer service.now.second identity pair := by
  refine ⟨rfl, _, rfl, ?_⟩
  constructor
  · intro check alive
    exact @Issuer.read_issue_alive _ .access _ _ _ _ parsed begun (supplied.ne_nil _) _ alive
  · intro check alive
    exact @Issuer.read_issue_alive _ .refresh _ _ _ _ parsed begun (supplied.ne_nil _) _ alive

/-- A sign-in to a new account gets to the password. -/
private theorem withPassword_of_new {ends : Except Failure Token.Pair → Service.Local → Prop}
    {spelled secret : String} (new : account.IsNewFor address)
    (there : service.store.findAccount address = some account)
    (parsed : Email.parse spelled = .ok address)
    (judged : (do
      if service.hasher.verify account.passwordHash (.typed secret) then
        Procedure.issuePair account.identity
      else
        let _ ← Lockout.recordFailure policy account now
        throw .wrongCredentials : Procedure Token.Pair).EndsSo Service.Local.answer service ends) :
    (withPassword policy spelled secret now).EndsSo Service.Local.answer service ends := by
  unfold withPassword
  rw [parsed]
  change (Procedure.findAccount address >>= _ : Procedure Token.Pair).EndsSo _ _ _
  rw [Procedure.endsSo_bind, Service.Local.endsSo_findAccount, there]
  change (withAccount _ _ _ _).EndsSo _ _ _
  unfold withAccount
  rw [new.gate, pure_bind, Procedure.endsSo_bind, Service.Local.endsSo_verify]
  cases right : service.hasher.verify account.passwordHash (.typed secret) with
  | true =>
      rw [right] at judged
      change (Lockout.recordSuccess _ _ >>= _ : Procedure Token.Pair).EndsSo _ _ _
      rw [new.recordSuccess, pure_bind]
      exact judged
  | false =>
      rw [right] at judged
      exact judged

theorem withPassword_right {spelled secret : String} (new : account.IsNewFor address)
    (there : service.store.findAccount address = some account)
    (parsed : Email.parse spelled = .ok address)
    (right : service.hasher.verify account.passwordHash (.typed secret) = true)
    (supplied : Supplied service) (begun : 0 ≤ service.now.second) :
    (withPassword policy spelled secret now).EndsSo Service.Local.answer service
      fun outcome rest => rest.store = service.store ∧ ∃ pair, outcome = .ok pair ∧
        Names service.issuer service.now.second ⟨account.id, address, .user⟩ pair := by
  apply withPassword_of_new new there parsed
  rw [right, if_pos rfl, new.identity]
  exact issuePair_names parsed supplied begun

theorem withPassword_wrong {spelled secret : String} (new : account.IsNewFor address)
    (there : service.store.findAccount address = some account)
    (parsed : Email.parse spelled = .ok address)
    (wrong : service.hasher.verify account.passwordHash (.typed secret) = false) :
    (withPassword policy spelled secret now).EndsSo Service.Local.answer service
      fun outcome rest =>
        policy.LocksInVain now ∧ rest = service ∧ (∃ detail, outcome = .error (.internal detail)) ∨
          ¬policy.LocksInVain now ∧ outcome = .error .wrongCredentials := by
  apply withPassword_of_new new there parsed
  rw [wrong]
  change (Lockout.recordFailure _ _ _ >>= _ : Procedure Token.Pair).EndsSo _ _ _
  rw [Procedure.endsSo_bind]
  apply (recordFailure_ends new there).mono
  rintro outcome rest (⟨vain, unchanged, detail, rfl⟩ | ⟨sound, written, rfl⟩)
  · exact Or.inl ⟨vain, unchanged, detail, rfl⟩
  · exact Or.inr ⟨sound, rfl⟩

theorem typed_of_choose {raw : String} {password : Password}
    (chosen : Password.choose raw = .ok password) : password = .typed raw := by
  unfold Password.choose at chosen
  dsimp only at chosen
  split at chosen
  · cases chosen
  · cases chosen
    rfl

theorem register_of_valid {name email password : String} {displayed : DisplayName}
    {secret : Password} (named : DisplayName.parse name = .ok displayed)
    (parsed : Email.parse email = .ok address) (chosen : Password.choose password = .ok secret) :
    register name email password = (do
      let passwordHash ← Procedure.hash secret
      Procedure.createAccount { name := displayed, email := address, passwordHash }) := by
  unfold register
  rw [named, parsed, chosen]
  rfl

theorem register_cases (name email password : String) :
    (∃ failure, register name email password = throw failure) ∨
      ∃ displayed address secret, DisplayName.parse name = .ok displayed ∧
        Email.parse email = .ok address ∧ Password.choose password = .ok secret := by
  unfold register
  cases named : DisplayName.parse name with
  | error failure => exact Or.inl ⟨_, rfl⟩
  | ok displayed =>
      cases parsed : Email.parse email with
      | error problem => exact Or.inl ⟨_, rfl⟩
      | ok address =>
          cases chosen : Password.choose password with
          | error weakness => exact Or.inl ⟨_, rfl⟩
          | ok secret => exact Or.inr ⟨displayed, address, secret, rfl, rfl, rfl⟩

theorem createAccount_ends (new : NewAccount) :
    (Procedure.createAccount new).EndsSo Service.Local.answer service fun outcome rest =>
      (service.store.findAccount new.email ≠ none ∧ outcome = .error .emailTaken ∧
        rest.store = service.store) ∨
      service.store.findAccount new.email = none ∧ ∃ id, outcome = .ok (.create new id service.now) ∧
        rest.store = service.store.withAccount (.create new id service.now) := by
  let drawn : Service.Local := { service with draws := service.draws + 1 }
  let created := Account.create new (.ofRandom (service.supply service.draws 16)) service.now
  unfold Procedure.createAccount
  rw [Procedure.endsSo_ask]
  cases there : service.store.findAccount new.email with
  | none =>
      have made : drawn.store.createAccount new created.id service.now
          = .ok (created, service.store.withAccount created) :=
        Memory.createAccount_eq_ok.mpr ⟨there, rfl, rfl⟩
      have told : Service.Local.answer (.createAccount new) service
          = (.ok created, { drawn with store := service.store.withAccount created }) :=
        Service.Local.onStore_ok (·.createAccount new created.id service.now) made
      rw [told]
      exact Or.inr ⟨rfl, created.id, rfl, rfl⟩
  | some row =>
      have refused : drawn.store.createAccount new created.id service.now = .error .emailTaken := by
        unfold Memory.createAccount
        rw [there]
      have told : Service.Local.answer (.createAccount new) service = (.error .emailTaken, drawn) :=
        Service.Local.onStore_error (·.createAccount new created.id service.now) refused
      rw [told]
      exact Or.inl ⟨Option.some_ne_none row, rfl, rfl⟩

theorem register_taken {name email password : String} {displayed : DisplayName}
    {secret : Password} (named : DisplayName.parse name = .ok displayed)
    (parsed : Email.parse email = .ok address) (chosen : Password.choose password = .ok secret)
    (there : service.store.findAccount address = some account) :
    (register name email password).EndsSo Service.Local.answer service fun outcome rest =>
      outcome = .error .emailTaken ∧ rest.store = service.store := by
  rw [register_of_valid named parsed chosen, Procedure.endsSo_bind, Service.Local.endsSo_hash]
  apply (createAccount_ends _).mono
  rintro outcome rest (⟨_taken, rfl, unchanged⟩ | ⟨absent, _made⟩)
  · exact ⟨rfl, unchanged⟩
  · exact absurd (there.symm.trans absent) (Option.some_ne_none account)

theorem exists_of_registered {after : Service.Local} {name email password : String}
    (registered : (register name email password).run.runIn Service.Local.answer service
      = (.ok account, after)) :
    ∃ address salt, Email.parse email = .ok address ∧ account.IsNewFor address ∧
      account.passwordHash = service.hasher.hash (.typed password) salt ∧
      after.store.findAccount address = some account := by
  rcases register_cases name email password with
    ⟨failure, failed⟩ | ⟨displayed, address, secret, named, parsed, chosen⟩
  · rw [failed] at registered
    cases registered
  · let salt := service.supply service.draws service.hasher.saltLength
    have ended : (register name email password).EndsSo Service.Local.answer service
        fun outcome rest => ∀ created, outcome = .ok created →
          created.IsNewFor address ∧ created.passwordHash = service.hasher.hash secret salt ∧
            rest.store = service.store.withAccount created := by
      rw [register_of_valid named parsed chosen, Procedure.endsSo_bind, Service.Local.endsSo_hash]
      apply (createAccount_ends _).mono
      rintro outcome rest (⟨_taken, rfl, _unchanged⟩ | ⟨_absent, id, rfl, stored⟩)
      · rintro created ⟨⟩
      · rintro created ⟨⟩
        exact ⟨.create rfl rfl _ _, rfl, stored⟩
    unfold Procedure.EndsSo at ended
    rw [registered] at ended
    obtain ⟨new, hashed, stored⟩ := ended account rfl
    refine ⟨address, salt, parsed, new, typed_of_choose chosen ▸ hashed, ?_⟩
    rw [stored, Memory.findAccount_withAccount]
    exact if_pos new.email.symm

/-- Whoever registers can sign in, under any spelling of the email and the password that comes
to the same. With another password the sign-in is refused; where its failure would engage a
lock that is over before it begins, it ends as an internal failure and nothing is written.
Nobody registers again under the email. -/
theorem registered_signs_in {service after later : Service.Local} {name email password : String}
    {account : Account}
    (faithful : ∀ password salt other,
      service.hasher.verify (service.hasher.hash password salt) other = true ↔
        password.text = other.text)
    (registered : (register name email password).run.runIn Service.Local.answer service
      = (.ok account, after))
    (sameStore : later.store = after.store) (sameHasher : later.hasher = service.hasher)
    (supplied : Supplied later) (begun : 0 ≤ later.now.second) {spelled : String}
    (respelled : Email.parse spelled = Email.parse email) :
    (∀ policy secret now, Text.nfkc secret = Text.nfkc password →
      (withPassword policy spelled secret now).EndsSo Service.Local.answer later
        fun outcome rest => rest.store = later.store ∧
          ∃ address pair, Email.parse email = .ok address ∧ outcome = .ok pair ∧
            Names later.issuer later.now.second ⟨account.id, address, .user⟩ pair) ∧
      (∀ policy secret now, Text.nfkc secret ≠ Text.nfkc password →
        (withPassword policy spelled secret now).EndsSo Service.Local.answer later
          fun outcome rest =>
            policy.LocksInVain now ∧ rest.store = later.store ∧
                (∃ detail, outcome = .error (.internal detail)) ∨
              ¬policy.LocksInVain now ∧ outcome = .error .wrongCredentials) ∧
      ∀ other secret displayed chosen, DisplayName.parse other = .ok displayed →
        Password.choose secret = .ok chosen →
        (register other spelled secret).EndsSo Service.Local.answer later
          fun outcome rest => outcome = .error .emailTaken ∧ rest.store = later.store := by
  obtain ⟨address, salt, parsed, new, hashed, there⟩ := exists_of_registered registered
  rw [← sameStore] at there
  rw [parsed] at respelled
  have judged (secret : String) :
      later.hasher.verify account.passwordHash (.typed secret) = true ↔
        Text.nfkc secret = Text.nfkc password := by
    rw [sameHasher, hashed, faithful]
    exact eq_comm
  refine ⟨?_, ?_, ?_⟩
  · intro policy secret now same
    apply (withPassword_right new there respelled ((judged secret).mpr same) supplied begun).mono
    rintro outcome rest ⟨unchanged, pair, rfl, names⟩
    exact ⟨unchanged, address, pair, parsed, rfl, names⟩
  · intro policy secret now different
    have wrong : later.hasher.verify account.passwordHash (.typed secret) = false := by
      rw [Bool.eq_false_iff]
      exact fun right => different ((judged secret).mp right)
    apply (withPassword_wrong new there respelled wrong).mono
    rintro outcome rest (⟨vain, rfl, internal⟩ | refused)
    · exact Or.inl ⟨vain, rfl, internal⟩
    · exact Or.inr refused
  · intro other secret displayed chosen named accepted
    exact register_taken named respelled accepted there

/-- A service where too many guesses were made for an email before anybody registered. -/
def guessedAt : Service.Local :=
  { patient with store.attempts := ⟨[(⟨"ada@b.org"⟩, ⟨⟨"ada@b.org"⟩, 0, some .latest, none, 1⟩)]⟩ }

def ada : Account :=
  .create ⟨⟨"Ada"⟩, ⟨"ada@b.org"⟩, "plain:Correct-Horse-9", .user, .active⟩
    (.ofRandom (List.replicate 16 1)) .epoch

def withAda : Service.Local :=
  { guessedAt with draws := 2, store := guessedAt.store.withAccount ada }

theorem nfkc_ada : Text.nfkc "Correct-Horse-9" = "Correct-Horse-9" :=
  Text.nfkc_of_plain (by decide)

theorem register_ada :
    (register "Ada" "Ada@B.ORG" "Correct-Horse-9").run.runIn Service.Local.answer guessedAt
      = (.ok ada, withAda) := by
  have named : DisplayName.parse "Ada" = .ok ⟨"Ada"⟩ := by
    unfold DisplayName.parse DisplayName.parseWith
    rw [Text.nfkc_of_plain (by decide)]
    rfl
  have parsed : Email.parse "Ada@B.ORG" = .ok ⟨"ada@b.org"⟩ := by decide +kernel
  have chosen : Password.choose "Correct-Horse-9" = .ok ⟨"Correct-Horse-9"⟩ := by
    unfold Password.choose Password.typed
    rw [nfkc_ada]
    decide +kernel
  rw [register_of_valid named parsed chosen]
  rfl

theorem verify_guessedAt (password : Password) (salt : List UInt8) (other : Password) :
    guessedAt.hasher.verify (guessedAt.hasher.hash password salt) other = true ↔
      password.text = other.text := by
  change Service.Hasher.plain.verify (Service.Hasher.plain.hash password salt) other = true ↔ _
  rw [Service.Hasher.verify_plain_iff]
  exact ⟨congrArg Password.text, congrArg Password.mk⟩

theorem registered_signs_in_respelled :
    (withPassword .standard " ADA@b.org" "Correct-Horse-9" .epoch).EndsSo Service.Local.answer
      withAda fun outcome rest => rest.store = withAda.store ∧
        ∃ address pair, Email.parse "Ada@B.ORG" = .ok address ∧ outcome = .ok pair ∧
          Names withAda.issuer withAda.now.second ⟨ada.id, address, .user⟩ pair := by
  have respelled : Email.parse " ADA@b.org" = Email.parse "Ada@B.ORG" := by decide +kernel
  obtain ⟨admitted, _refused, _taken⟩ := registered_signs_in verify_guessedAt register_ada rfl rfl
    (fun _number => List.length_replicate) (by decide) respelled
  exact admitted .standard "Correct-Horse-9" .epoch rfl

/-- With one failure to a lock, at the last of all instants, a wrong password is not refused as
such: the lock could not last. -/
theorem wrong_password_fails_internally :
    (∀ password salt other,
        guessedAt.hasher.verify (guessedAt.hasher.hash password salt) other = true ↔
          password.text = other.text) ∧
      Email.parse "ada@b.org" = Email.parse "Ada@B.ORG" ∧
      Text.nfkc "Wrong-Horse-9" ≠ Text.nfkc "Correct-Horse-9" ∧
      (register "Ada" "Ada@B.ORG" "Correct-Horse-9").run.runIn Service.Local.answer guessedAt
        = (.ok ada, withAda) ∧
      (withPassword ⟨1, .ofSeconds 900⟩ "ada@b.org" "Wrong-Horse-9" .latest).EndsSo
        Service.Local.answer withAda fun outcome rest =>
          outcome ≠ .error .wrongCredentials ∧ rest = withAda := by
  have different : Text.nfkc "Wrong-Horse-9" ≠ Text.nfkc "Correct-Horse-9" := by
    rw [nfkc_ada, Text.nfkc_of_plain (by decide)]
    decide
  have respelled : Email.parse "ada@b.org" = Email.parse "Ada@B.ORG" := by decide +kernel
  refine ⟨verify_guessedAt, respelled, different, register_ada, ?_⟩
  obtain ⟨address, salt, parsed, new, hashed, there⟩ := exists_of_registered register_ada
  have wrong : withAda.hasher.verify ada.passwordHash (.typed "Wrong-Horse-9") = false := by
    rw [hashed, Bool.eq_false_iff]
    exact fun right => different ((verify_guessedAt _ _ _).mp right).symm
  have vain : LockoutPolicy.LocksInVain ⟨1, .ofSeconds 900⟩ .latest := by
    unfold LockoutPolicy.LocksInVain
    decide +kernel
  apply (withPassword_wrong new there (respelled.trans parsed) wrong).mono
  rintro outcome rest (⟨_vain, unchanged, detail, rfl⟩ | ⟨sound, _refused⟩)
  · exact ⟨nofun, unchanged⟩
  · exact absurd vain sound

end SignIn

end Latchkey
