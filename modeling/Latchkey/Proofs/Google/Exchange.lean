/-
The trade of a code for a user, whoever answers. It posts the form for a token, and only a
complete successful answer with a token that a header can hold leads to the one other request,
which bears that token; only a complete successful answer to this one leads to a user, and
everything else to a failure of the provider.
-/

import Latchkey.Google.Exchange
import Latchkey.Proofs.Dialogue.Teller
import Latchkey.Proofs.Http.Header
import Latchkey.Proofs.Json.Refined
import Latchkey.Proofs.Text.Percent

namespace Latchkey.Google.Exchange

open Http (Client isLegalValue)
open Http.Client (Call Outcome)
open Text.Percent (decodeForm)
open Text.Utf8 (encode)

variable {credentials : Credentials} {code token : String} {outcome : Outcome}
  {body : List UInt8} {user : ProviderUser}

/-- Whether a request posts the form for a token. -/
structure AsksForToken (credentials : Credentials) (code : String) (call : Call) : Prop where
  posts : call.method = .post ∧ call.url = tokenUrl
  isForm : call.contentType = some "application/x-www-form-urlencoded"
  form : decodeForm (encode call.body) =
    [("code", code), ("client_id", credentials.clientId),
      ("client_secret", credentials.clientSecret), ("redirect_uri", credentials.redirectUrl),
      ("grant_type", "authorization_code")]

theorem asksForToken_tokenCall (credentials : Credentials) (code : String) :
    AsksForToken credentials code (tokenCall credentials code) where
  posts := ⟨rfl, rfl⟩
  isForm := rfl
  form := Text.Percent.decodeForm_encodeForm (form credentials code)

/-- Whether a request asks for the user of a token. -/
structure AsksForUser (token : String) (call : Call) : Prop where
  gets : call.method = .get ∧ call.url = userUrl
  bears : call.authorization = some ("Bearer " ++ token)
  isEmpty : call.contentType = none ∧ call.body = ""

theorem isLegalValue_bearer (token : String) :
    isLegalValue (encode ("Bearer " ++ token)) = isLegalValue (encode token) := by
  have scheme : isLegalValue (encode "Bearer ") = true := by decide
  unfold isLegalValue at scheme ⊢
  rw [Text.Utf8.encode_append, List.all_append, scheme, Bool.true_and]

theorem userCall?_of_legal (legal : isLegalValue (encode token) = true) :
    ∃ call, userCall? token = some call ∧ AsksForUser token call := by
  refine ⟨_, if_pos ?_, ⟨rfl, rfl⟩, rfl, ⟨rfl, rfl⟩⟩
  rw [isLegalValue_bearer]
  exact legal

theorem userCall?_of_illegal (illegal : ¬isLegalValue (encode token) = true) :
    userCall? token = none := by
  refine if_neg ?_
  rw [isLegalValue_bearer]
  exact illegal

/-- Whether an answer is a success that arrived whole, with this body. -/
def Delivers (outcome : Outcome) (body : List UInt8) : Prop :=
  ∃ status, outcome = .answered status (some body) ∧ 200 ≤ status ∧ status < 300

def Grants (outcome : Outcome) (token : String) : Prop :=
  ∃ body found, Delivers outcome body ∧
    Json.readAll (Json.readRecord [("access_token", Json.textField)] ["access_token"]) body =
      .ok found ∧
    found.lookup "access_token" = some (.text token)

/-- The fields of a user before any truth value is made of the last one. -/
def userFields : Json.Fields :=
  [("email", Json.textField), ("name", Json.optionalField Json.textField),
    ("verified_email", Json.readValue (Json.maxDepth - 1))]

/-- Whether a user has what is found, and nothing where nothing is. -/
structure Fits (found : List (String × Json.Value)) (user : ProviderUser) : Prop where
  email : found.lookup "email" = some (.text user.email) ∨
    found.lookup "email" = none ∧ user.email = ""
  name : (∃ name, found.lookup "name" = some (.text name) ∧ user.name = some name) ∨
    (found.lookup "name" = some .null ∨ found.lookup "name" = none) ∧ user.name = none
  emailVerified : (∃ value, found.lookup "verified_email" = some value ∧
      LooseBool.ofValue value = .ok user.emailVerified) ∨
    found.lookup "verified_email" = none ∧ user.emailVerified = false

def Describes (outcome : Outcome) (user : ProviderUser) : Prop :=
  ∃ body found, Delivers outcome body ∧
    Json.readAll (Json.readRecord userFields []) body = .ok found ∧ Fits found user

theorem exists_delivers {α : Type} {status : Nat} {received : Option (List UInt8)}
    {read : List UInt8 → Option α} {value : α} :
    (∃ body, Delivers (.answered status received) body ∧ read body = some value) ↔
      Http.isSuccess status = true ∧ received.bind read = some value := by
  have success : Http.isSuccess status = true ↔ 200 ≤ status ∧ status < 300 := by
    simp [Http.isSuccess]
  rw [success, Option.bind_eq_some_iff]
  constructor
  · rintro ⟨body, ⟨_, same, bounds⟩, isRead⟩
    cases same
    exact ⟨bounds, body, rfl, isRead⟩
  · rintro ⟨bounds, body, rfl, isRead⟩
    exact ⟨body, ⟨status, rfl, bounds⟩, isRead⟩

theorem not_delivers_failed : ¬Delivers .failed body := by
  rintro ⟨status, same, _bounds⟩
  cases same

theorem tokenIn?_eq_some :
    tokenIn? body = some token ↔ ∃ found,
      Json.readAll (Json.readRecord [("access_token", Json.textField)] ["access_token"]) body =
        .ok found ∧
      found.lookup "access_token" = some (.text token) := by
  unfold tokenIn?
  dsimp only
  cases read : Json.readAll (Json.readRecord [("access_token", Json.textField)]
      ["access_token"]) body with
  | error fault => simp [Except.toOption]
  | ok found => simp [Except.toOption, Json.textOf?_eq_some]

theorem tokenOf_eq_ok : tokenOf outcome = .ok token ↔ Grants outcome token := by
  have shape : Grants outcome token ↔
      ∃ body, Delivers outcome body ∧ tokenIn? body = some token := by
    simp only [Grants, tokenIn?_eq_some, exists_and_left]
  rw [shape]
  cases outcome with
  | failed => simp [tokenOf, not_delivers_failed]
  | answered status received =>
      rw [exists_delivers, tokenOf]
      cases Http.isSuccess status with
      | false => simp
      | true =>
          cases received.bind tokenIn? with
          | none => simp
          | some other => simp

def loose (value : Json.Value) : Option Json.Value :=
  (LooseBool.ofValue value).toOption.map .bool

def loosen (name : String) : Json.Value → Option Json.Value :=
  if name = "verified_email" then loose else some

theorem looseBoolField_eq :
    looseBoolField = Json.refine loose (Json.readValue (Json.maxDepth - 1)) := by
  funext bytes
  unfold looseBoolField Json.refine
  cases Json.readValue (Json.maxDepth - 1) bytes with
  | error fault => rfl
  | ok read =>
      dsimp only [bind, Except.bind, loose]
      cases LooseBool.ofValue read.1 with
      | error message => rfl
      | ok value => rfl

theorem refineAll_userFields :
    Json.refineAll loosen userFields =
      [("email", Json.textField), ("name", Json.optionalField Json.textField),
        ("verified_email", looseBoolField)] := by
  have other {name : String} (differs : name ≠ "verified_email") : loosen name = some :=
    if_neg differs
  have own : loosen "verified_email" = loose := if_pos rfl
  rw [looseBoolField_eq, ← own]
  simp only [userFields, Json.refineAll, List.map_cons, List.map_nil]
  rw [other (by decide), other (by decide), Json.refine_some, Json.refine_some]

section Fields

variable {found converted : List (String × Json.Value)}

theorem email_eq_iff (areFound : Json.AreFound userFields found) {email : String} :
    (Json.textOf? found "email").getD "" = email ↔
      found.lookup "email" = some (.text email) ∨ found.lookup "email" = none ∧ email = "" := by
  cases there : found.lookup "email" with
  | none => simp [Json.textOf?, there, eq_comm]
  | some value =>
      have declared : userFields.lookup "email" = some Json.textField := rfl
      obtain ⟨text, rfl⟩ := (areFound.canRead declared there).text
      simp [Json.textOf?, there, Json.Value.text?]

theorem name_eq_iff (areFound : Json.AreFound userFields found) {name : Option String} :
    Json.textOf? found "name" = name ↔
      (∃ text, found.lookup "name" = some (.text text) ∧ name = some text) ∨
        (found.lookup "name" = some .null ∨ found.lookup "name" = none) ∧ name = none := by
  cases there : found.lookup "name" with
  | none => simp [Json.textOf?, there, eq_comm]
  | some value =>
      have declared : userFields.lookup "name" = some (Json.optionalField Json.textField) := rfl
      rcases (areFound.canRead declared there).optional with rfl | canRead
      · simp [Json.textOf?, there, Json.Value.text?, eq_comm]
      · obtain ⟨text, rfl⟩ := canRead.text
        simp [Json.textOf?, there, Json.Value.text?, eq_comm]

theorem emailVerified_eq_iff (areConverted : Json.AreConverted loosen found converted)
    {flag : Bool} :
    (match converted.lookup "verified_email" with
      | some (.bool value) => value
      | _ => false) = flag ↔
      (∃ value, found.lookup "verified_email" = some value ∧ LooseBool.ofValue value = .ok flag) ∨
        found.lookup "verified_email" = none ∧ flag = false := by
  rw [areConverted.lookup]
  cases there : found.lookup "verified_email" with
  | none => simp [eq_comm]
  | some value =>
      obtain ⟨image, convertsTo⟩ := areConverted.convert_of_mem (Json.mem_of_lookup there)
      rw [Option.bind_some, convertsTo]
      change loose value = some image at convertsTo
      obtain ⟨told, truth, rfl⟩ := Option.map_eq_some_iff.mp convertsTo
      rw [Result.toOption_eq_some] at truth
      simp [truth]

theorem Fits.exists_areConverted (fits : Fits found user)
    (areFound : Json.AreFound userFields found) :
    ∃ converted, Json.AreConverted loosen found converted := by
  refine Json.exists_areConverted fun (name, value) member => ?_
  have there := Json.lookup_of_mem areFound.distinct member
  by_cases own : name = "verified_email"
  · subst own
    rcases fits.emailVerified with ⟨other, same, truth⟩ | ⟨absent, _missing⟩
    · rw [there] at same
      cases same
      exact ⟨.bool user.emailVerified, Option.map_eq_some_iff.mpr
        ⟨_, Result.toOption_eq_some.mpr truth, rfl⟩⟩
    · rw [there] at absent
      cases absent
  · exact ⟨value, congrFun (if_neg own) value⟩

theorem textOf?_converted (areConverted : Json.AreConverted loosen found converted) {name : String}
    (differs : name ≠ "verified_email") :
    Json.textOf? converted name = Json.textOf? found name := by
  rw [Json.textOf?, areConverted.lookup, loosen, if_neg differs, Option.bind_fun_some]
  rfl

theorem userIn?_eq_some :
    userIn? body = some user ↔ ∃ found,
      Json.readAll (Json.readRecord userFields []) body = .ok found ∧ Fits found user := by
  unfold userIn?
  dsimp only
  rw [← refineAll_userFields]
  simp only [Option.bind_eq_bind, Option.bind_eq_some_iff, Result.toOption_eq_some,
    Json.readAll_mirrors loosen userFields body _]
  have distinct : (userFields.map (·.1)).Nodup := by decide
  constructor
  · rintro ⟨converted, ⟨found, read, areConverted⟩, made⟩
    have areFound := (Json.readRecord_areFound distinct read).1
    cases made
    rw [textOf?_converted areConverted (by decide), textOf?_converted areConverted (by decide)]
    exact ⟨found, read, (email_eq_iff areFound).mp rfl, (name_eq_iff areFound).mp rfl,
      (emailVerified_eq_iff areConverted).mp rfl⟩
  · rintro ⟨found, read, fits⟩
    have areFound := (Json.readRecord_areFound distinct read).1
    obtain ⟨converted, areConverted⟩ := fits.exists_areConverted areFound
    refine ⟨converted, ⟨found, read, areConverted⟩, ?_⟩
    obtain ⟨email, name, emailVerified⟩ := user
    obtain rfl := (email_eq_iff areFound).mpr fits.email
    obtain rfl := (name_eq_iff areFound).mpr fits.name
    obtain rfl := (emailVerified_eq_iff areConverted).mpr fits.emailVerified
    rw [textOf?_converted areConverted (by decide), textOf?_converted areConverted (by decide)]
    rfl

end Fields

theorem userOf_eq_ok : userOf outcome = .ok user ↔ Describes outcome user := by
  have shape : Describes outcome user ↔
      ∃ body, Delivers outcome body ∧ userIn? body = some user := by
    simp only [Describes, userIn?_eq_some, exists_and_left]
  rw [shape]
  cases outcome with
  | failed => simp [userOf, not_delivers_failed]
  | answered status received =>
      rw [exists_delivers, userOf]
      cases Http.isSuccess status with
      | false => simp
      | true =>
          cases received.bind userIn? with
          | none => simp
          | some other => simp

/-- Whether a trade went as it should: what was said after the first exchange, and what came
of it. -/
structure IsTrade (credentials : Credentials) (code : String) (first : Exchange Client)
    (later : List (Exchange Client)) (result : Except Failure ProviderUser) : Prop where
  begins : AsksForToken credentials code first.request
  goesOn : later ≠ [] ↔ ∃ token, Grants first.reply token ∧ isLegalValue (encode token) = true
  bears : ∀ exchange ∈ later, ∃ token, Grants first.reply token ∧ AsksForUser token exchange.request
  ends : later.length ≤ 1
  succeeds : ∀ user, result = .ok user ↔ ∃ exchange ∈ later, Describes exchange.reply user
  fails : ∀ failure, result = .error failure → ∃ detail, failure = .providerFailed detail

variable {first second : Exchange Client}

theorem IsTrade.stopped (begins : AsksForToken credentials code first.request)
    (useless : ∀ token, Grants first.reply token → ¬isLegalValue (encode token) = true)
    (detail : String) : IsTrade credentials code first [] (.error (.providerFailed detail)) where
  begins := begins
  goesOn := by
    constructor
    · intro goesOn
      exact absurd rfl goesOn
    · rintro ⟨token, grants, legal⟩
      exact absurd legal (useless token grants)
  bears := by simp
  ends := by simp
  succeeds := by simp
  fails := by
    rintro failure ⟨⟩
    exact ⟨detail, rfl⟩

theorem IsTrade.continued (begins : AsksForToken credentials code first.request)
    (grants : Grants first.reply token) (legal : isLegalValue (encode token) = true)
    (asks : AsksForUser token second.request) :
    IsTrade credentials code first [second]
      ((userOf second.reply).mapError Failure.providerFailed) where
  begins := begins
  goesOn := by
    constructor
    · intro _goesOn
      exact ⟨token, grants, legal⟩
    · intro _granted
      exact List.cons_ne_nil _ _
  bears := by
    intro exchange member
    rw [List.mem_singleton] at member
    subst member
    exact ⟨token, grants, asks⟩
  ends := Nat.le_refl 1
  succeeds := by
    intro user
    have told : userOf second.reply = .ok user ↔ Describes second.reply user := userOf_eq_ok
    simp only [List.mem_singleton, exists_eq_left, ← told]
    exact Result.mapError_eq_ok
  fails := by
    intro failure failed
    cases told : userOf second.reply with
    | error message =>
        rw [told] at failed
        cases failed
        exact ⟨message, rfl⟩
    | ok user =>
        rw [told] at failed
        cases failed

def continuation (outcome : Outcome) : Dialogue Client (Except String ProviderUser) :=
  match tokenOf outcome with
  | .error message => .done (.error message)
  | .ok token => userFor token

/-- Whoever answers, and however: a code is traded as it should be. -/
theorem exchange_isTrade (credentials : Credentials) (code : String) (teller : Teller Client) :
    ∃ first later result,
      (exchange credentials code).converse teller [] = (first :: later, result) ∧
        IsTrade credentials code first later result := by
  let call := tokenCall credentials code
  let first : Exchange Client := ⟨call, teller [] call⟩
  have said : (exchange credentials code).converse teller [] =
      (first :: ((continuation first.reply).converse teller [first]).1,
        ((continuation first.reply).converse teller [first]).2.mapError Failure.providerFailed) :=
    Dialogue.converse_bind_done teller [] (trade credentials code) _
  have begins : AsksForToken credentials code first.request :=
    asksForToken_tokenCall credentials code
  rw [said]
  unfold continuation
  cases granted : tokenOf first.reply with
  | error message =>
      refine ⟨first, _, _, rfl, IsTrade.stopped begins (fun token grants => ?_) message⟩
      rw [tokenOf_eq_ok.mpr grants] at granted
      cases granted
  | ok token =>
      dsimp only [userFor]
      by_cases legal : isLegalValue (encode token) = true
      · obtain ⟨call, isCall, asks⟩ := userCall?_of_legal legal
        rw [isCall]
        exact ⟨first, _, _, rfl, IsTrade.continued begins (tokenOf_eq_ok.mp granted) legal asks⟩
      · rw [userCall?_of_illegal legal]
        refine ⟨first, _, _, rfl, IsTrade.stopped begins (fun other grants => ?_) _⟩
        rw [tokenOf_eq_ok.mpr grants] at granted
        cases granted
        exact legal

end Latchkey.Google.Exchange
